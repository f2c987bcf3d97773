import Nslab.Backend.Base
import Nslab.Library.Netlink

/-! The VLANs of bridge ports. A plan lists them in the order of the manifest, the
inventory in the order of their ids, and the two lists are compared as they are. -/

namespace Nslab

open Netlink Collections Schema

section Inventory

/-- What the kernel reports of a VLAN on a port. -/
structure KernelVlan where
  vid : Int
  flags : Int

def bridgeVlanInfoPvid : Int := 2

def bridgeVlanInfoUntagged : Int := 4

/-- The values of the attributes that describe VLANs. -/
def vlanInfos (message : Message) : List Value :=
  match message.attr "IFLA_AF_SPEC" with
  | some (.message _ attributes) => (attributes.filter fun entry => entry.1 = "IFLA_BRIDGE_VLAN_INFO").map Prod.snd
  | _ => []

def KernelVlan.plan (vlan : KernelVlan) : BridgeVlanPlan where
  vid := vlan.vid
  pvid := flag vlan.flags bridgeVlanInfoPvid
  untagged := flag vlan.flags bridgeVlanInfoUntagged

def decodeVlan (value : Value) : Option BridgeVlanPlan := do
  let message ← value.message?
  let vid ← (message.field "vid").bind Value.int?
  let flags ← message.intField "flags" 0
  some (KernelVlan.plan ⟨vid, flags⟩)

/-- The VLANs of all messages, each with the index of its port. -/
def decodeVlans (messages : List Message) : Option (List (Int × BridgeVlanPlan)) := do
  let vlans ← messages.mapM fun message => do
    let index ← (message.field "index").bind Value.int?
    let vlans ← (vlanInfos message).mapM decodeVlan
    some (vlans.map (index, ·))
  some vlans.flatten

/-- The VLANs of a port, once each. -/
def vlansByIndex (vlans : List (Int × BridgeVlanPlan)) (index : Int) : List BridgeVlanPlan :=
  Dict.fromKeys ((vlans.filter fun vlan => vlan.1 = index).map Prod.snd)

def sortVlans (vlans : List BridgeVlanPlan) : List BridgeVlanPlan :=
  vlans.insertionSort fun left right => left.vid ≤ right.vid

/-- The VLANs that the inventory lists for an interface. -/
def inventoryBridgeVlans (slaveKind : Option String) (vlans : List (Int × BridgeVlanPlan)) (index : Int) :
    List BridgeVlanPlan :=
  if slaveKind = some "bridge" then sortVlans (vlansByIndex vlans index) else []

end Inventory

section Kernel

def KernelVlan.info (vlan : KernelVlan) : String × Value :=
  ("IFLA_BRIDGE_VLAN_INFO", .message [("flags", .int vlan.flags), ("vid", .int vlan.vid)] [])

/-- A message about some VLANs of a port. -/
def vlanMessage (report : Int × List KernelVlan) : Message :=
  ⟨[("index", .int report.1)], [("IFLA_AF_SPEC", .message [] (report.2.map KernelVlan.info))]⟩

/-- The VLANs that are reported of a port, in the order of the reports. -/
def reportedVlans (reports : List (Int × List KernelVlan)) (index : Int) : List KernelVlan :=
  (reports.filter fun report => report.1 = index).flatMap Prod.snd

/-- The kernel reports exactly these VLANs of a port, with their flags, in any order. -/
def PortHolds (reports : List (Int × List KernelVlan)) (index : Int) (vlans : List BridgeVlanPlan) : Prop :=
  SameSet ((reportedVlans reports index).map KernelVlan.plan) vlans

instance (reports : List (Int × List KernelVlan)) (index : Int) (vlans : List BridgeVlanPlan) :
    Decidable (PortHolds reports index vlans) := by
  unfold PortHolds
  infer_instance

theorem decodeVlans_reports (reports : List (Int × List KernelVlan)) : decodeVlans (reports.map vlanMessage) =
    some (reports.flatMap fun report => report.2.map fun vlan => (report.1, vlan.plan)) := by
  have infos : ∀ report : Int × List KernelVlan, vlanInfos (vlanMessage report) = report.2.map fun vlan => vlan.info.2 := by
    intro report
    simp [vlanInfos, vlanMessage, Message.attr, KernelVlan.info, Function.comp_def, List.filter_map]
  have each : ∀ vlans : List KernelVlan, (vlans.map fun vlan => vlan.info.2).mapM decodeVlan =
      some (vlans.map KernelVlan.plan) := by
    intro vlans
    induction vlans with
    | nil => rfl
    | cons vlan rest ih =>
      rw [List.map_cons, List.mapM_cons, ih]
      rfl
  have all : (reports.map vlanMessage).mapM (fun message => do
      let index ← (message.field "index").bind Value.int?
      let vlans ← (vlanInfos message).mapM decodeVlan
      some (vlans.map (index, ·))) = some (reports.map fun report => report.2.map fun vlan => (report.1, vlan.plan)) := by
    induction reports with
    | nil => rfl
    | cons report rest ih =>
      rw [List.map_cons, List.mapM_cons, ih, infos, each]
      simp [vlanMessage, Message.field, Value.int?, Function.comp_def]
  rw [decodeVlans, all]
  rfl

theorem vlansByIndex_reports (reports : List (Int × List KernelVlan)) (index : Int) :
    vlansByIndex (reports.flatMap fun report => report.2.map fun vlan => (report.1, vlan.plan)) index =
      Dict.fromKeys ((reportedVlans reports index).map KernelVlan.plan) := by
  have same : ((reports.flatMap fun report => report.2.map fun vlan => (report.1, vlan.plan)).filter fun vlan =>
      vlan.1 = index).map Prod.snd = (reportedVlans reports index).map KernelVlan.plan := by
    unfold reportedVlans
    induction reports with
    | nil => rfl
    | cons report rest ih =>
      by_cases own : report.1 = index
      · simp [own, ih, List.filter_map, Function.comp_def]
      · simp [own, ih, List.filter_map, Function.comp_def]
  rw [vlansByIndex, same]

end Kernel

section Order

/-- Sorting gives a list of distinct ids back exactly when the list is in ascending order. -/
theorem sortVlans_eq_iff {observed vlans : List BridgeVlanPlan} (perm : observed.Perm vlans)
    (distinct : (vlans.map (·.vid)).Nodup) : sortVlans observed = vlans ↔ (vlans.map (·.vid)).Pairwise (· < ·) := by
  have total : Std.Total fun left right : BridgeVlanPlan => left.vid ≤ right.vid := ⟨fun left right => le_total left.vid right.vid⟩
  have transitive : IsTrans BridgeVlanPlan fun left right => left.vid ≤ right.vid := ⟨fun _ _ _ => le_trans⟩
  have ordered := List.pairwise_insertionSort (fun left right : BridgeVlanPlan => left.vid ≤ right.vid) observed
  rw [List.pairwise_map]
  constructor
  · intro same
    rw [sortVlans] at same
    rw [same] at ordered
    have apart := List.pairwise_map.mp (List.nodup_iff_pairwise_ne.mp distinct)
    exact (ordered.and apart).imp fun both => lt_of_le_of_ne both.1 both.2
  · intro ascending
    refine List.Perm.eq_of_pairwise ?_ ordered (ascending.imp fun less => le_of_lt less)
      ((List.perm_insertionSort _ _).trans perm)
    intro left right inLeft inRight below above
    have inside := perm.mem_iff.mp ((List.mem_insertionSort _).mp inLeft)
    exact List.inj_on_of_nodup_map distinct inside inRight (le_antisymm below above)

end Order

/-- Distinct ids make the VLANs of a port distinct. -/
theorem vlans_perm {vlans : List BridgeVlanPlan} {reports : List (Int × List KernelVlan)} {index : Int}
    (distinct : (vlans.map (·.vid)).Nodup) (held : PortHolds reports index vlans) :
    (Dict.fromKeys ((reportedVlans reports index).map KernelVlan.plan)).Perm vlans := by
  apply (List.perm_ext_iff_of_nodup (Dict.nodup_fromKeys _) (List.Nodup.of_map _ distinct)).mpr
  intro vlan
  rw [Dict.mem_fromKeys]
  exact held vlan

namespace Manifest.Plans

variable {manifest : Manifest} {plan : TopologyPlan}

/-- The devices of a bridge node are overlays. -/
theorem bridge_device (plans : manifest.Plans plan) {node : NodePlan} (member : node ∈ plan.nodes.values)
    (bridge : node.kind = .bridge) {device : DevicePlan} (declared : device ∈ node.devices.values) :
    (∃ vxlan, device = .vxlan vxlan) ∨ ∃ geneve, device = .geneve geneve := by
  obtain ⟨config, routes, _, shape, _⟩ := plans.node (plans.found_of_mem member)
  rw [shape] at bridge declared
  cases config with
  | linux config => cases bridge
  | bridge config =>
    obtain ⟨name, stored⟩ := Dict.mem_values_iff.mp declared
    simp only [plannedNode, compileDevices, Dict.get?_map, Option.map_eq_some_iff] at stored
    obtain ⟨original, _, rfl⟩ := stored
    cases original with
    | vxlan vxlan => exact .inl ⟨_, rfl⟩
    | geneve geneve => exact .inr ⟨_, rfl⟩

/-- The VLANs expected of an enslaved interface of a bridge are those of its port. -/
theorem expected_bridgeVlans (plans : manifest.Plans plan) {node : NodePlan} (member : node ∈ plan.nodes.values)
    (bridge : node.kind = .bridge) {expected : Dict String ExpectedInterface} (told : expectedInterfaces node plan = .ok expected)
    {interface : String} {desired : ExpectedInterface} (found : expected.get? interface = some desired)
    (enslaved : desired.master = node.bridgeName) :
    desired.bridgeVlans = expectedBridgePortVlans node interface ∧ nodeInterfaceMaster node interface = node.bridgeName := by
  obtain ⟨name, named⟩ := plans.bridgeName member bridge
  simp only [expectedInterfaces, Checks.bind_ok, Checks.pure_ok] at told
  obtain ⟨bridges, bridged, devices, collected, rfl⟩ := told
  rw [Dict.get?_map, Option.map_eq_some_iff] at found
  obtain ⟨planned, stored, rfl⟩ := found
  have inside := Dict.mem_of_get?_ofEntries stored
  rw [named] at enslaved ⊢
  simp only [List.cons_append, List.mem_cons, List.mem_append, Prod.mk.injEq] at inside
  obtain ⟨_, rfl⟩ | ((own | linked) | device) := inside
  · cases enslaved
  · rw [expectedBridge, if_neg (not_not.mpr bridge), named] at bridged
    simp only [Except.ok.injEq] at bridged
    subst bridged
    obtain ⟨rfl, rfl⟩ := Prod.mk.inj (List.mem_singleton.mp own)
    cases enslaved
  · obtain ⟨link, _, endpoint⟩ := List.mem_flatMap.mp linked
    obtain ⟨endpoint, _, shape⟩ := List.mem_map.mp endpoint
    obtain ⟨rfl, rfl⟩ := Prod.mk.inj shape
    exact ⟨rfl, enslaved⟩
  · rw [Checks.collect_ok] at collected
    obtain ⟨declared, within, compiled⟩ := Checks.exists_of_mem_right collected device
    obtain ⟨vxlan, rfl⟩ | ⟨geneve, rfl⟩ := plans.bridge_device member bridge within
    · cases mtu : vxlanDeviceMtu node plan vxlan with
      | error issue => simp [expectedDevice, mtu, Except.map, bind, Except.bind] at compiled
      | ok mtu' =>
        simp only [expectedDevice, mtu, Checks.ok_bind, Except.map, Except.ok.injEq, pure, Except.pure] at compiled
        obtain ⟨rfl, rfl⟩ := Prod.mk.inj compiled
        exact ⟨rfl, enslaved⟩
    · cases mtu : geneveDeviceMtu node plan geneve with
      | error issue => simp [expectedDevice, mtu, Except.map, bind, Except.bind] at compiled
      | ok mtu' =>
        simp only [expectedDevice, mtu, Checks.ok_bind, Except.map, Except.ok.injEq, pure, Except.pure] at compiled
        obtain ⟨rfl, rfl⟩ := Prod.mk.inj compiled
        exact ⟨rfl, enslaved⟩

end Manifest.Plans

/-- The ids of the VLANs of a declared port are distinct. -/
theorem BridgeNode.vlans_distinct {node : BridgeNode} (holds : nodeConfig.holds (.bridge node)) {interface : String}
    {port : BridgePortConfig} (declared : node.bridge.ports.get? interface = some port) :
    (port.vlans.map (·.vid)).Nodup := by
  obtain ⟨⟨_, _, bridge, _⟩, _⟩ := holds
  obtain ⟨_, ports⟩ : bridgeFields.object.holds node.bridge := bridge
  obtain ⟨⟨_, vlans⟩, _⟩ := (Codec.holds_named.mp ports).1 port (Dict.mem_values_iff.mpr ⟨interface, declared⟩)
  have valid := vlans.2
  simp only [Checks.bind_ok, Checks.distinct_ok, Checks.exists_unit] at valid
  exact valid.1

/-- The VLANs of a port compare equal exactly when the manifest lists them in ascending order of their ids. -/
theorem bridgeVlans_match_iff {manifest : Manifest} {nameOverride : Option String} {plan : TopologyPlan}
    (accepted : manifest.Accepted) (compiled : compilePlan manifest nameOverride = .ok plan) {name : String}
    {config : BridgeNode} (declared : manifest.topology.nodes.get? name = some (.bridge config))
    (filtering : config.bridge.vlanFiltering = true) {node : NodePlan} (planned : plan.nodes.get? name = some node)
    {expected : Dict String ExpectedInterface} (told : expectedInterfaces node plan = .ok expected) {interface : String}
    {desired : ExpectedInterface} (found : expected.get? interface = some desired)
    (enslaved : desired.master = node.bridgeName) {reports : List (Int × List KernelVlan)} {index : Int}
    (held : PortHolds reports index (expectedBridgePortVlans node interface)) :
    (∃ vlans, decodeVlans (reports.map vlanMessage) = some vlans ∧
      inventoryBridgeVlans (some "bridge") vlans index = desired.bridgeVlans) ↔
    ∀ port, config.bridge.ports.get? interface = some port → (port.vlans.map (·.vid)).Pairwise (· < ·) := by
  have plans := accepted.plans compiled
  have member : node ∈ plan.nodes.values := Dict.mem_values_iff.mpr ⟨name, planned⟩
  obtain ⟨other, routes, same, shape, _, holds, _⟩ := plans.node planned
  rw [declared, Option.some.injEq] at same
  subst same
  have bridge : node.kind = .bridge := by rw [shape]; rfl
  obtain ⟨vlans, master⟩ := plans.expected_bridgeVlans member bridge told found enslaved
  have filtered : node.vlanFiltering = some true := by
    rw [shape, ← filtering]
    rfl
  have ports : node.bridgePorts.get? interface = (config.bridge.ports.get? interface).map compilePort := by
    subst shape
    exact Dict.get?_map config.bridge.ports (fun _ => compilePort) interface
  have compare : (∃ vlans, decodeVlans (reports.map vlanMessage) = some vlans ∧
      inventoryBridgeVlans (some "bridge") vlans index = desired.bridgeVlans) ↔
      sortVlans (Dict.fromKeys ((reportedVlans reports index).map KernelVlan.plan)) = expectedBridgePortVlans node interface := by
    simp only [decodeVlans_reports, Option.some.injEq, exists_eq_left', inventoryBridgeVlans, if_true,
      vlansByIndex_reports, vlans]
  rw [compare]
  have usual (plain : expectedBridgePortVlans node interface = [⟨1, true, true⟩]) :
      sortVlans (Dict.fromKeys ((reportedVlans reports index).map KernelVlan.plan)) = expectedBridgePortVlans node interface := by
    rw [plain] at held ⊢
    have single : (([⟨1, true, true⟩] : List BridgeVlanPlan).map (·.vid)).Nodup := List.nodup_singleton 1
    exact (sortVlans_eq_iff (vlans_perm single held) single).mpr (List.pairwise_singleton _ _)
  have guard : ¬ (node.kind ≠ .bridge ∨ node.vlanFiltering ≠ some true ∨
      nodeInterfaceMaster node interface ≠ node.bridgeName) := by
    simp [bridge, filtered, master]
  cases stored : config.bridge.ports.get? interface with
  | none =>
    refine iff_of_true (usual ?_) (by simp)
    simp [expectedBridgePortVlans, if_neg guard, ports, stored]
  | some port =>
    by_cases empty : port.vlans = []
    · refine iff_of_true (usual ?_) fun other same => ?_
      · simp [expectedBridgePortVlans, if_neg guard, ports, stored, compilePort, empty]
      · rw [← Option.some.inj same, empty]
        exact List.Pairwise.nil
    · have given : expectedBridgePortVlans node interface = (compilePort port).vlans := by
        simp [expectedBridgePortVlans, if_neg guard, ports, stored, compilePort, empty]
      have ids : (compilePort port).vlans.map (·.vid) = port.vlans.map (·.vid) := by
        simp [compilePort, Function.comp_def]
      have distinct := BridgeNode.vlans_distinct holds stored
      rw [given] at held ⊢
      rw [← ids] at distinct
      rw [sortVlans_eq_iff (vlans_perm distinct held) distinct, ids]
      simp

section Examples

/-- A bridge whose port declares two VLANs. -/
def bridgeDocument (first second : Int) : Document :=
  .dict [("version", .int 1), ("name", .str "lab"), ("topology", .dict [
    ("nodes", .dict [
      ("sw", .dict [("kind", .str "bridge"), ("bridge", .dict [("name", .str "br0"), ("stp", .bool false),
        ("vlan_filtering", .bool true), ("ports", .dict [("eth0", .dict [
          ("vlans", .list [.dict [("vid", .int first)], .dict [("vid", .int second)]])])])])]),
      ("s", .dict [("kind", .str "linux")])]),
    ("links", .list [.dict [("endpoints", .list [.str "sw:eth0", .str "s:eth0"])]])])]

/-- The port of the bridge, as declared, planned and expected. -/
structure PortPlanned (document : Document) (config : BridgeNode) (plan : TopologyPlan) (node : NodePlan)
    (desired : ExpectedInterface) : Prop where
  accepted : ∃ manifest, validateManifest document = .ok manifest ∧ manifest.Accepted ∧
    compilePlan manifest none = .ok plan ∧ manifest.topology.nodes.get? "sw" = some (.bridge config)
  filtering : config.bridge.vlanFiltering = true
  planned : plan.nodes.get? "sw" = some node
  told : ∃ expected, expectedInterfaces node plan = .ok expected ∧ expected.get? "eth0" = some desired
  enslaved : desired.master = node.bridgeName

def bridgeOf? (manifest : Manifest) : Option BridgeNode :=
  (manifest.topology.nodes.get? "sw").bind fun node => match node with
    | .bridge config => some config
    | .linux _ => none

/-- What evaluating the validator, the planner and the expected interfaces tells of the port. -/
def portTest (document : Document) (test : BridgeNode → NodePlan → ExpectedInterface → Bool) : Bool :=
  (validateManifest document).toOption.any fun manifest => (compilePlan manifest none).toOption.any fun plan =>
    (bridgeOf? manifest).any fun config => (plan.nodes.get? "sw").any fun node =>
      (expectedInterfaces node plan).toOption.any fun expected => (expected.get? "eth0").any fun desired =>
        config.bridge.vlanFiltering && desired.master = node.bridgeName && test config node desired

theorem portPlanned_of_test (document : Document) (test : BridgeNode → NodePlan → ExpectedInterface → Bool)
    (plain : document.plain = true) (passes : portTest document test = true) :
    ∃ config plan node desired, PortPlanned document config plan node desired ∧ test config node desired = true := by
  simp only [portTest, Option.any_eq_true, Bool.and_eq_true, decide_eq_true_eq] at passes
  obtain ⟨manifest, read, plan, compiled, config, bridge, node, planned, expected, told, desired, found,
    ⟨filtering, enslaved⟩, holds⟩ := passes
  have accepted := Checks.ok_of_toOption read
  have declared : manifest.topology.nodes.get? "sw" = some (.bridge config) := by
    obtain ⟨stored, given, shape⟩ := Option.bind_eq_some_iff.mp bridge
    cases stored with
    | linux => cases shape
    | bridge other => rw [given, Option.some.inj shape]
  exact ⟨config, plan, node, desired, ⟨⟨manifest, accepted, ⟨document, plain, accepted⟩, Checks.ok_of_toOption compiled, declared⟩,
    filtering, planned, ⟨expected, Checks.ok_of_toOption told, found⟩, enslaved⟩, holds⟩

/-- Listed in ascending order the VLANs match, though the kernel reports them the other way round. -/
theorem bridgeVlans_match_ascending : ∃ config plan node desired,
    PortPlanned (bridgeDocument 10 20) config plan node desired ∧
    ∃ vlans, decodeVlans ([(7, [⟨20, 0⟩, ⟨10, 0⟩])].map vlanMessage) = some vlans ∧
      inventoryBridgeVlans (some "bridge") vlans 7 = desired.bridgeVlans := by
  obtain ⟨config, plan, node, desired, port, holds⟩ := portPlanned_of_test (bridgeDocument 10 20)
    (fun config node desired => desired.bridgeVlans = [⟨10, false, false⟩, ⟨20, false, false⟩] &&
      expectedBridgePortVlans node "eth0" = [⟨10, false, false⟩, ⟨20, false, false⟩] &&
      (config.bridge.ports.get? "eth0").all fun port => port.vlans.map (·.vid) = [10, 20]) (by decide +kernel) (by decide +kernel)
  obtain ⟨⟨manifest, read, accepted, compiled, declared⟩, filtering, planned, ⟨expected, told, found⟩, enslaved⟩ := port
  refine ⟨config, plan, node, desired, ⟨⟨manifest, read, accepted, compiled, declared⟩, filtering, planned,
    ⟨expected, told, found⟩, enslaved⟩, ?_⟩
  simp only [Bool.and_eq_true, decide_eq_true_eq, Option.all_eq_true] at holds
  obtain ⟨⟨_, vlans⟩, ids⟩ := holds
  refine (bridgeVlans_match_iff accepted compiled declared filtering planned told found enslaved ?_).mpr ?_
  · rw [vlans]
    decide
  · intro port stored
    rw [ids port stored]
    decide

/-- Listed in descending order the same VLANs never match. -/
theorem bridgeVlans_mismatch_descending : ∃ config plan node desired,
    PortPlanned (bridgeDocument 20 10) config plan node desired ∧
    PortHolds [(7, [⟨10, 0⟩, ⟨20, 0⟩])] 7 (expectedBridgePortVlans node "eth0") ∧
    ∃ vlans, decodeVlans ([(7, [⟨10, 0⟩, ⟨20, 0⟩])].map vlanMessage) = some vlans ∧
      inventoryBridgeVlans (some "bridge") vlans 7 ≠ desired.bridgeVlans := by
  obtain ⟨config, plan, node, desired, port, holds⟩ := portPlanned_of_test (bridgeDocument 20 10)
    (fun _ node desired => desired.bridgeVlans = [⟨20, false, false⟩, ⟨10, false, false⟩] &&
      expectedBridgePortVlans node "eth0" = [⟨20, false, false⟩, ⟨10, false, false⟩]) (by decide +kernel) (by decide +kernel)
  simp only [Bool.and_eq_true, decide_eq_true_eq] at holds
  refine ⟨config, plan, node, desired, port, ?_, _, decodeVlans_reports _, ?_⟩
  · rw [holds.2]
    decide
  · rw [holds.1]
    decide

end Examples

end Nslab
