import Nslab.Backend.Base
import Nslab.Library.JsonReader
import Nslab.Manifest.Frozen

/-! What a snapshot records of the interfaces of a plan, and how a snapshot is
validated before anything is removed in its name. -/

namespace Nslab

open Schema IpAddress Collections

section Equality

instance (left right : NodePlan) : Decidable (left.Same right) :=
  decidable_of_iff (left.scalars = right.scalars ∧ left.interfaces.Same right.interfaces ∧ left.sysctls.Same right.sysctls ∧
    left.macAddresses.Same right.macAddresses ∧ left.devices.Same right.devices ∧ left.bridgePorts.Same right.bridgePorts)
    ⟨fun given => ⟨given.1, given.2.1, given.2.2.1, given.2.2.2.1, given.2.2.2.2.1, given.2.2.2.2.2⟩,
      fun same => ⟨same.scalars, same.interfaces, same.sysctls, same.macAddresses, same.devices, same.bridgePorts⟩⟩

instance decidableOptionRel {α : Type} (relation : α → α → Prop) [DecidableRel relation] (left right : Option α) :
    Decidable (Option.Rel relation left right) :=
  match left, right with
  | none, none => isTrue .none
  | some _, none => isFalse fun related => by cases related
  | none, some _ => isFalse fun related => by cases related
  | some left, some right => decidable_of_iff (relation left right)
    ⟨.some, fun related => by cases related; assumption⟩

instance (left right : TopologyPlan) : Decidable (left.Same right) :=
  decidable_of_iff (left.name = right.name ∧ left.fingerprint = right.fingerprint ∧
    (∀ key ∈ left.nodes.keys ++ right.nodes.keys, Option.Rel NodePlan.Same (left.nodes.get? key) (right.nodes.get? key)) ∧
    left.links = right.links) (by
      constructor
      · intro given
        obtain ⟨name, fingerprint, nodes, links⟩ := given
        refine ⟨name, fingerprint, fun key => ?_, links⟩
        by_cases listed : key ∈ left.nodes.keys ++ right.nodes.keys
        · exact nodes key listed
        · rw [List.mem_append, not_or] at listed
          rw [Dict.get?_none_iff.mpr listed.1, Dict.get?_none_iff.mpr listed.2]
          exact .none
      · exact fun same => ⟨same.name, same.fingerprint, fun key _ => same.nodes key, same.links⟩)

end Equality

section Recording

/-- A value, or null in its place. -/
def orNull (value : Option Document) : Document := value.getD .null

/-- `inventory.namespaces[netns].interfaces[interface]`. -/
def observedInterface (inventory : LiveInventory) (netns interface : String) : Except PlanError InterfaceInventory :=
  match inventory.namespaces.get? netns with
  | none => .error (.keyError netns)
  | some observed => match observed.interfaces.get? interface with
    | none => .error (.keyError interface)
    | some found => .ok found

/-- Something that is observed of an interface, or null without an inventory. -/
def observedValue (inventory : Option LiveInventory) (netns interface : String) (value : InterfaceInventory → Option Document) :
    Except PlanError Document :=
  match inventory with
  | none => .ok .null
  | some inventory => (observedInterface inventory netns interface).map fun found => orNull (value found)

def observedIndex (inventory : Option LiveInventory) (netns interface : String) : Except PlanError Document :=
  observedValue inventory netns interface fun found => found.ifindex.map .int

/-- What the record of a device tells of its kind. -/
def deviceOwnership : DevicePlan → List (String × Document)
  | .vlan device => [("kind", .str "vlan"), ("parent", .str device.link), ("vlan_id", .int device.vlanId)]
  | .vrf device => [("kind", .str "vrf"), ("vrf_table", .int device.table)]
  | .bond device => [("kind", .str "bond"), ("bond_mode", .str device.mode.name),
      ("interfaces", .sequence true (device.interfaces.map .str))]
  | .dummy _ => [("kind", .str "dummy")]
  | .geneve device => [("kind", .str "geneve"), ("vni", .int device.vni), ("link", .str device.link),
      ("remote", .str (String.ofList device.remote.chars)), ("dst_port", .int device.dstPort)]
  | .gre device => [("kind", .str "gre"), ("link", .str device.link), ("local", .str (String.ofList device.localAddress.chars)),
      ("remote", .str (String.ofList device.remote.chars)), ("key", orNull (device.key.map .int)), ("ttl", .int device.ttl)]
  | .ipip device => [("kind", .str "ipip"), ("link", .str device.link),
      ("local", .str (String.ofList device.localAddress.chars)), ("remote", .str (String.ofList device.remote.chars)),
      ("ttl", .int device.ttl)]
  | .macvlan device => [("kind", .str "macvlan"), ("parent", .str device.link), ("mode", .str device.mode.name)]
  | .ipvlan device => [("kind", .str "ipvlan"), ("parent", .str device.link), ("mode", .str device.mode.name)]
  | .vxlan device => [("kind", .str "vxlan"), ("vni", .int device.vni), ("link", .str device.link),
      ("local", .str (String.ofList device.localAddress.chars)), ("remote", .str (String.ofList device.remote.chars)),
      ("dst_port", .int device.dstPort)]

variable (plan : TopologyPlan) (inventory : Option LiveInventory)

/-- The record of the bridge of a node. -/
def ownedBridge (name : String) (node : NodePlan) : Except PlanError (List (String × Document)) :=
  if node.kind = .bridge then do
    let bridge := node.bridgeName.getD "None"
    let index ← observedIndex inventory node.netns bridge
    pure [(ownershipKey name bridge, .dict [("name", .str bridge), ("kind", .str "bridge"), ("namespace", .str node.netns),
      ("ifindex", index)])]
  else .ok []

def ownedDevice (name : String) (node : NodePlan) (device : DevicePlan) : Except PlanError (String × Document) := do
  let index ← observedIndex inventory node.netns device.name
  pure (ownershipKey name device.name, .dict ([("name", .str device.name), ("namespace", .str node.netns), ("ifindex", index)] ++
    deviceOwnership device))

def ownedEndpoint (name : String) (endpoint : EndpointPlan) : Except PlanError (String × Document) := do
  let index ← observedIndex inventory endpoint.netns endpoint.interface
  let linkId ← observedValue inventory endpoint.netns endpoint.interface fun found => found.linkId.map .str
  pure (ownershipKey name endpoint.interface, .dict [("name", .str endpoint.interface), ("kind", .str "veth"),
    ("namespace", .str endpoint.netns), ("ifindex", index), ("temporary_name", .str endpoint.temporaryName), ("link_id", linkId)])

/-- The records of a node. -/
def ownedNode (entry : String × NodePlan) : Except PlanError (List (String × Document)) := do
  let (name, node) := entry
  let bridge ← ownedBridge inventory name node
  let devices ← Checks.collect node.devices.values (ownedDevice inventory name node)
  let endpoints ← Checks.collect ((plan.links.flatMap LinkPlan.endpoints).filter (·.node = name)) (ownedEndpoint inventory name)
  pure (bridge ++ devices ++ endpoints)

def interfaceOwnership : Except PlanError (Dict String Document) := do
  let records ← Checks.collect plan.nodes.entries (ownedNode plan inventory)
  pure (.ofEntries records.flatten)

variable {plan inventory}

theorem genuine_observedValue {netns interface : String} {value : InterfaceInventory → Option Document} {document : Document}
    (scalar : ∀ found document, value found = some document → document.genuine = true)
    (observed : observedValue inventory netns interface value = .ok document) : document.genuine = true := by
  unfold observedValue at observed
  split at observed
  · cases observed
    rfl
  · obtain ⟨found, _, rfl⟩ := Checks.map_ok.mp observed
    cases told : value found with
    | none => rfl
    | some document => exact scalar found document told

theorem genuine_observedIndex {netns interface : String} {document : Document}
    (observed : observedIndex inventory netns interface = .ok document) : document.genuine = true := by
  refine genuine_observedValue (fun found document told => ?_) observed
  obtain ⟨_, _, rfl⟩ := Option.map_eq_some_iff.mp told
  rfl

theorem genuine_orNull (value : Option Int) : (orNull (value.map .int)).genuine = true := by
  cases value with
  | none => rfl
  | some number => rfl

theorem genuine_deviceOwnership {name netns : String} {index : Document} (genuine : index.genuine = true) (device : DevicePlan) :
    (Document.dict ([("name", .str name), ("namespace", .str netns), ("ifindex", index)] ++ deviceOwnership device)).genuine =
      true := by
  cases device with
  | gre device => simp [deviceOwnership, Document.genuine, genuine, genuine_orNull]
  | _ => simp [deviceOwnership, Document.genuine, genuine]

/-- What is recorded of a node can be held. -/
theorem genuine_ownedNode {entry : String × NodePlan} {records : List (String × Document)}
    (owned : ownedNode plan inventory entry = .ok records) : ∀ record ∈ records, record.2.genuine = true := by
  obtain ⟨name, node⟩ := entry
  simp only [ownedNode, Checks.bind_ok, Checks.pure_ok, Checks.collect_ok] at owned
  obtain ⟨bridge, bridges, devices, ofDevices, endpoints, ofEndpoints, rfl⟩ := owned
  intro record member
  rw [List.mem_append, List.mem_append] at member
  obtain (listed | listed) | listed := member
  · unfold ownedBridge at bridges
    split at bridges
    · obtain ⟨index, observed, same⟩ := Checks.bind_ok.mp bridges
      rw [Checks.pure_ok] at same
      subst same
      rw [List.mem_singleton.mp listed]
      simp [Document.genuine, genuine_observedIndex observed]
    · cases bridges
      cases listed
  · obtain ⟨device, _, own⟩ := Checks.exists_of_mem_right ofDevices listed
    obtain ⟨index, observed, same⟩ := Checks.bind_ok.mp own
    rw [Checks.pure_ok] at same
    subst same
    exact genuine_deviceOwnership (genuine_observedIndex observed) device
  · obtain ⟨endpoint, _, own⟩ := Checks.exists_of_mem_right ofEndpoints listed
    simp only [ownedEndpoint, Checks.bind_ok, Checks.pure_ok] at own
    obtain ⟨index, observed, linkId, told, rfl⟩ := own
    have text := genuine_observedValue (fun found document told => (by
      obtain ⟨_, _, rfl⟩ := Option.map_eq_some_iff.mp told
      rfl)) told
    simp [Document.genuine, genuine_observedIndex observed, text]

/-- What is recorded of interfaces can be held. -/
theorem genuine_interfaceOwnership {records : Dict String Document} (owned : interfaceOwnership plan inventory = .ok records) :
    (Document.dict records.entries).genuine = true := by
  simp only [interfaceOwnership, Checks.bind_ok, Checks.pure_ok, Checks.collect_ok] at owned
  obtain ⟨nodes, each, rfl⟩ := owned
  rw [Document.dict, Document.genuine, Bool.and_eq_true, decide_eq_true_eq, Document.genuineEntries_iff]
  refine ⟨Dict.unique _, fun entry member => ?_⟩
  have listed := Dict.mem_of_get?_ofEntries (Dict.get?_iff.mpr member)
  rw [List.mem_flatten] at listed
  obtain ⟨node, among, within⟩ := listed
  obtain ⟨source, _, own⟩ := Checks.exists_of_mem_right each among
  exact genuine_ownedNode own entry within

end Recording

section Validation

variable (text : Issue → String) (snapshot : StateSnapshot)

def snapshotInvalid (reason : String) (details : List (String × Document) := []) : NslabError where
  code := "STATE_INVALID"
  message := "stored deployment state is inconsistent: " ++ snapshot.name
  details := [("name", .str snapshot.name), ("reason", .str reason)] ++ details

/-- The plan that the stored manifest compiles to. `text` is that of an error of the schema. -/
def snapshotPlan : Except PlanError TopologyPlan :=
  match snapshot.manifest.validate with
  | .error issue => .error (.nslabError (snapshotInvalid snapshot "manifest" [("error", .str (text issue))]))
  | .ok manifest => do
    let plan ← compilePlan manifest (some snapshot.name)
    Checks.raiseIf (plan.fingerprint ≠ snapshot.fingerprint) (.nslabError (snapshotInvalid snapshot "fingerprint"
      [("snapshot_fingerprint", .str snapshot.fingerprint), ("manifest_fingerprint", .str plan.fingerprint)]))
    Checks.raiseIf (¬ snapshot.namespaces.Same (plan.nodes.map fun _ node => node.netns))
      (.nslabError (snapshotInvalid snapshot "namespaces"))
    .ok plan

/-- What the record of a device has to tell of its kind. -/
def expectedDeviceIdentity : DevicePlan → List (String × Document)
  | .vlan device => [("kind", .str "vlan"), ("parent", .str device.link), ("vlan_id", .int device.vlanId)]
  | .vrf device => [("kind", .str "vrf"), ("vrf_table", .int device.table)]
  | .bond device => [("kind", .str "bond"), ("bond_mode", .str device.mode.name),
      ("interfaces", .sequence true (device.interfaces.map .str))]
  | .dummy _ => [("kind", .str "dummy")]
  | .geneve device => [("kind", .str "geneve"), ("vni", .int device.vni), ("link", .str device.link),
      ("remote", .str (String.ofList device.remote.chars)), ("dst_port", .int device.dstPort)]
  | .gre device => [("kind", .str "gre"), ("link", .str device.link), ("local", .str (String.ofList device.localAddress.chars)),
      ("remote", .str (String.ofList device.remote.chars)), ("key", orNull (device.key.map .int)), ("ttl", .int device.ttl)]
  | .ipip device => [("kind", .str "ipip"), ("link", .str device.link),
      ("local", .str (String.ofList device.localAddress.chars)), ("remote", .str (String.ofList device.remote.chars)),
      ("ttl", .int device.ttl)]
  | .macvlan device => [("kind", .str "macvlan"), ("parent", .str device.link), ("mode", .str device.mode.name)]
  | .ipvlan device => [("kind", .str "ipvlan"), ("parent", .str device.link), ("mode", .str device.mode.name)]
  | .vxlan device => [("kind", .str "vxlan"), ("vni", .int device.vni), ("link", .str device.link),
      ("local", .str (String.ofList device.localAddress.chars)), ("remote", .str (String.ofList device.remote.chars)),
      ("dst_port", .int device.dstPort)]

/-- The identities of the bridge and the devices of a node. -/
def expectedNodeOwnership (node : NodePlan) : List (String × List (String × Document)) :=
  (if node.kind = .bridge then
    let bridge := node.bridgeName.getD "None"
    [(ownershipKey node.name bridge, [("name", .str bridge), ("kind", .str "bridge"), ("namespace", .str node.netns)])]
  else []) ++
    node.devices.values.map fun device => (ownershipKey node.name device.name,
      [("name", .str device.name), ("namespace", .str node.netns)] ++ expectedDeviceIdentity device)

def expectedEndpointOwnership (endpoint : EndpointPlan) : String × List (String × Document) :=
  (ownershipKey endpoint.node endpoint.interface, [("name", .str endpoint.interface), ("kind", .str "veth"),
    ("namespace", .str endpoint.netns), ("temporary_name", .str endpoint.temporaryName)])

def expectedOwnership (plan : TopologyPlan) : Dict String (List (String × Document)) :=
  .ofEntries (plan.nodes.values.flatMap expectedNodeOwnership ++
    (plan.links.flatMap LinkPlan.endpoints).map expectedEndpointOwnership)

/-- `desired["kind"] == "veth"`. -/
def isVeth (desired : List (String × Document)) : Bool := desired.lookup "kind" == some (.str "veth")

/-- `ifindex is not None and (type(ifindex) is not int or ifindex <= 0)`. -/
def badIndex : Document → Bool
  | .null => false
  | .int index => decide (index ≤ 0)
  | _ => true

/-- The record of an interface, checked against its identity. -/
def validateOwnership (entry : String × List (String × Document)) : Except NslabError (List (String × Document)) := do
  let (key, desired) := entry
  let invalid := fun reason : String => snapshotInvalid snapshot reason [("interface", .str key)]
  match snapshot.interfaces.entries.lookup key with
  | some (.mapping _ ownership) =>
    let fields := ownership.map Prod.fst
    let required := desired.map Prod.fst ++ ["ifindex"]
    let permitted := if isVeth desired then required ++ ["link_id"] else required
    Checks.raiseIf (¬ (required ⊆ fields ∧ fields ⊆ permitted)) (invalid "interface_fields")
    Checks.raiseIf (∃ field ∈ desired, (orNull (ownership.lookup field.1)).same field.2 = false) (invalid "interface_identity")
    Checks.raiseIf (badIndex (orNull (ownership.lookup "ifindex")) = true) (invalid "ifindex")
    .ok ownership
  | _ => .error (invalid "interface_record")

/-- `not isinstance(value, str) or not value`. -/
def isLinkId : Document → Bool
  | .str text => text ≠ ""
  | _ => false

/-- The link ids of a link are texts, both the same, and those of no link before. -/
def validateLinkIds (ownership : Dict String (List (String × Document))) : List LinkPlan → Dict String Nat →
    Except NslabError Unit
  | [], _ => .ok ()
  | link :: rest, seen => do
    let keys := link.endpoints.map fun endpoint => ownershipKey endpoint.node endpoint.interface
    let linkId := fun key : String => orNull (((ownership.get? key).getD []).lookup "link_id")
    Checks.each keys fun key => Checks.raiseIf (isLinkId (linkId key) = false)
      (snapshotInvalid snapshot "link_id" [("interface", .str key)])
    let left := linkId (ownershipKey link.left.node link.left.interface)
    let right := linkId (ownershipKey link.right.node link.right.interface)
    Checks.raiseIf (left ≠ right) (snapshotInvalid snapshot "link_id_pair" [("link", .int link.index)])
    let id := (text? left).getD ""
    Checks.raiseIf ((seen.get? id).any (· ≠ link.index)) (snapshotInvalid snapshot "link_id_reused" [("link", .int link.index)])
    validateLinkIds ownership rest (seen.insert id link.index)

/-- Whether the snapshot records the link ids of all its links. -/
def validateInterfaces (plan : TopologyPlan) : Except NslabError Bool := do
  let expected := expectedOwnership plan
  Checks.raiseIf (¬ SameSet (snapshot.interfaces.entries.map Prod.fst) expected.keys) (snapshotInvalid snapshot "interface_set")
  let records ← Checks.collect expected.entries fun entry => (validateOwnership snapshot entry).map (entry.1, ·)
  let ownership := Dict.ofEntries records
  let veths := (expected.entries.filter fun entry => isVeth entry.2).map Prod.fst
  match veths with
  | [] => .ok true
  | first :: _ =>
    let linkIds := veths.map fun key => ((ownership.get? key).getD []).lookup "link_id"
    if linkIds.all (·.isNone) then .ok false
    else do
      Checks.raiseIf (linkIds.any (·.isNone) = true) (snapshotInvalid snapshot "link_id_schema")
      if linkIds.all (· == some .null) then do
        Checks.raiseIf (snapshot.status = "deployed") (snapshotInvalid snapshot "link_id" [("interface", .str first)])
        .ok false
      else do
        Checks.raiseIf (linkIds.any (· == some .null) = true) (snapshotInvalid snapshot "link_id_schema")
        validateLinkIds snapshot ownership plan.links .empty
        .ok true

/-- The plan of a snapshot that is consistent, and whether its link ids are complete. -/
def validateSnapshot : Except PlanError (TopologyPlan × Bool) := do
  let plan ← snapshotPlan text snapshot
  let complete ← Checks.mapIssue .nslabError (validateInterfaces snapshot plan)
  pure (plan, complete)

end Validation

section Absence

/-- Nothing of the plan is there. -/
def inventoryIsAbsent (plan : TopologyPlan) (inventory : LiveInventory) : Bool :=
  inventory.rootInterfaces.isEmpty && decide (SameSet inventory.namespaces.keys (plannedNamespaces plan)) &&
    plan.nodes.values.all fun node => (inventory.namespaces.get? node.netns).any fun observed =>
      observed.node == node.name && decide (observed.kind = node.kind) && observed.netns == node.netns && !observed.live &&
        observed.interfaces.isEmpty && observed.routes.isEmpty && observed.rules.isEmpty && observed.neighbors.isEmpty &&
        observed.sysctls.isEmpty

theorem not_live_of_absent {plan : TopologyPlan} {inventory : LiveInventory} (absent : inventoryIsAbsent plan inventory = true) :
    ∀ netns ∈ plannedNamespaces plan, ∃ observed, inventory.namespaces.get? netns = some observed ∧ observed.live = false := by
  intro netns member
  obtain ⟨node, listed, same⟩ := List.mem_map.mp member
  subst same
  simp only [inventoryIsAbsent, Bool.and_eq_true, List.all_eq_true] at absent
  have found := absent.2 node listed
  rw [Option.any_eq_true] at found
  obtain ⟨observed, found, checks⟩ := found
  simp only [Bool.and_eq_true, Bool.not_eq_true'] at checks
  exact ⟨observed, found, checks.1.1.1.1.1.2⟩

end Absence

end Nslab
