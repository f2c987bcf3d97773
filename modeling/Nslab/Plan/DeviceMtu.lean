import Nslab.Plan.Mtu

/-! The MTUs that the planner gives to devices. The validator knows what every device
takes of the links below it, and leaves room for each. -/

namespace Nslab

open Schema IpAddress

section Planned

/-- The MTU of a device, by the helper of its kind. There is none for VLANs and VRFs. -/
def deviceMtu? (node : NodePlan) (plan : TopologyPlan) : DevicePlan → Option (Except PlanError Int)
  | .vlan _ | .vrf _ => none
  | .bond device => some (bondDeviceMtu node plan device)
  | .gre device => some (greDeviceMtu node plan device)
  | .ipip device => some (ipipDeviceMtu node plan device)
  | .vxlan device => some (vxlanDeviceMtu node plan device)
  | .dummy device => some (.ok (dummyDeviceMtu device))
  | .geneve device => some (geneveDeviceMtu node plan device)
  | .macvlan device => some (macvlanDeviceMtu node plan device)
  | .ipvlan device => some (ipvlanDeviceMtu node plan device)

/-- The linked interfaces below a device, with the headers that it adds there. -/
def DevicePlan.below : DevicePlan → List (String × Int)
  | .vlan _ | .vrf _ | .dummy _ => []
  | .bond device => device.interfaces.map fun interface => (interface, 0)
  | .gre device => [(device.link, 24 + if device.key.isSome then 4 else 0)]
  | .ipip device => [(device.link, 20)]
  | .vxlan device => [(device.link, if device.localAddress.version = 4 then 50 else 70)]
  | .geneve device => [(device.link, if device.remote.version = 4 then 50 else 70)]
  | .macvlan device => [(device.link, 0)]
  | .ipvlan device => [(device.link, 0)]

/-- A link ends at an interface of a node. -/
def LinkPlan.EndsAt (link : LinkPlan) (node : NodePlan) (interface : String) : Prop :=
  ∃ endpoint ∈ link.endpoints, endpoint.node = node.name ∧ endpoint.interface = interface

/-- The links below a device have room for its MTU and its headers. -/
structure DevicePlan.Fits (node : NodePlan) (plan : TopologyPlan) (device : DevicePlan) (mtu : Int) : Prop where
  least : 576 ≤ mtu
  most : mtu ≤ 9216
  linked : ∀ entry ∈ device.below, ∃ link ∈ plan.links, link.EndsAt node entry.1
  room : ∀ entry ∈ device.below, ∀ link ∈ plan.links, link.EndsAt node entry.1 → mtu ≤ link.mtu - entry.2

end Planned

section Declared

def LinuxDeviceConfig.mtu : LinuxDeviceConfig → Option Int
  | .vlan _ | .vrf _ | .bond _ => none
  | .gre device => device.mtu
  | .ipip device => device.mtu
  | .vxlan device => device.mtu
  | .dummy device => device.mtu
  | .geneve device => device.mtu
  | .macvlan device => device.mtu
  | .ipvlan device => device.mtu

/-- An MTU in the range of those that can be declared. -/
def InRange (mtu : Int) : Prop := 576 ≤ mtu ∧ mtu ≤ 9216

theorem LinuxDeviceConfig.mtu_of_holds {device : LinuxDeviceConfig} (holds : linuxDevice.holds device) :
    ∀ mtu ∈ device.mtu, InRange mtu := by
  intro mtu given
  cases device with
  | vlan | vrf | bond => cases given
  | gre device => exact Codec.holds_between.mp (holds.1.2.2 mtu given)
  | ipip device => exact Codec.holds_between.mp (holds.1.2.2.2 mtu given)
  | vxlan device => exact Codec.holds_between.mp (holds.1.2.2 mtu given)
  | dummy device => exact Codec.holds_between.mp (holds.2.2 mtu given)
  | geneve device => exact Codec.holds_between.mp (holds.2.2 mtu given)
  | macvlan device => exact Codec.holds_between.mp (holds.2.2 mtu given)
  | ipvlan device => exact Codec.holds_between.mp (holds.2.2 mtu given)

theorem BridgeDeviceConfig.mtu_of_holds {device : BridgeDeviceConfig} (holds : bridgeDevice.holds device) :
    ∀ mtu ∈ device.mtu, InRange mtu := by
  intro mtu given
  cases device with
  | vxlan device => exact Codec.holds_between.mp (holds.1.2.2 mtu given)
  | geneve device => exact Codec.holds_between.mp (holds.2.2 mtu given)

theorem BridgeNode.devices_of_holds {node : BridgeNode} (holds : nodeConfig.holds (.bridge node)) :
    ∀ device ∈ node.devices.values, bridgeDevice.holds device := by
  obtain ⟨⟨_, ⟨_, devices⟩, _⟩, _⟩ := holds
  exact (Codec.holds_named.mp devices).1

theorem linkMtu_of_holds {link : LinkConfig} (holds : linkConfig.holds link) : InRange link.mtu :=
  Codec.holds_between.mp holds.1.1.1.2

end Declared

namespace Manifest.Plans

variable {manifest : Manifest} {plan : TopologyPlan} {node : NodePlan} {device : DevicePlan}

/-- The validator knows the MTUs of the planned links. -/
theorem linkedMtu_iff (plans : manifest.Plans plan) {interface : String} {mtu : Int} :
    (manifest.topology.linkedMtus node.name).get? interface = some mtu ↔
      ∃ link ∈ plan.links, link.EndsAt node interface ∧ link.mtu = mtu := by
  rw [Dict.get?_iff, plans.linked, List.mem_map]
  simp only [TopologyPlan.endpoints, List.mem_filter, List.mem_flatMap, List.mem_map, decide_eq_true_eq, Prod.mk.injEq]
  constructor
  · rintro ⟨_, ⟨⟨link, member, endpoint, inside, rfl⟩, own⟩, named, same⟩
    exact ⟨link, member, ⟨endpoint, inside, own, named⟩, same⟩
  · rintro ⟨link, member, ⟨endpoint, inside, own, named⟩, same⟩
    exact ⟨(endpoint, link.mtu), ⟨⟨link, member, endpoint, inside, rfl⟩, own⟩, named, same⟩

theorem linkMtu_range (plans : manifest.Plans plan) {link : LinkPlan} (member : link ∈ plan.links) : InRange link.mtu := by
  obtain ⟨config, declared, compiled⟩ := plans.link member
  have holds := linkMtu_of_holds (plans.valid.links config declared)
  obtain ⟨_, _, _, _, shape⟩ := compileLink_ok.mp compiled
  rwa [shape]

theorem linkedMtu_range (plans : manifest.Plans plan) {interface : String} {mtu : Int}
    (found : (manifest.topology.linkedMtus node.name).get? interface = some mtu) : InRange mtu := by
  obtain ⟨link, member, _, rfl⟩ := plans.linkedMtu_iff.mp found
  exact plans.linkMtu_range member

/-- A device over one link has room for its MTU, its own or what is left of the link. -/
theorem fits_of_room (plans : manifest.Plans plan) {link : String} {overhead parent : Int} {mtu : Option Int}
    {helper : Except PlanError Int} (below : device.below = [(link, overhead)]) (positive : 0 ≤ overhead)
    (derived : helper.toOption = derivedMtu node plan link overhead mtu) (range : ∀ given ∈ mtu, InRange given)
    (found : (manifest.topology.linkedMtus node.name).get? link = some parent) (room : Room (parent - overhead) mtu) :
    ∃ mtu, helper = .ok mtu ∧ device.Fits node plan mtu := by
  have bounded := plans.linkedMtu_range found
  obtain ⟨linked, member, ends, same⟩ := plans.linkedMtu_iff.mp found
  have only : ∀ other ∈ plan.links, other.EndsAt node link → other.mtu = parent := by
    intro other inside also
    have again := plans.linkedMtu_iff.mpr ⟨other, inside, also, rfl⟩
    exact Option.some.inj (again.symm.trans found)
  have fits : ∀ value, InRange value → value ≤ parent - overhead → device.Fits node plan value := by
    intro value range least
    refine ⟨range.1, range.2, ?_, ?_⟩
    · rw [below, List.forall_mem_singleton]
      exact ⟨linked, member, ends⟩
    · rw [below, List.forall_mem_singleton]
      intro other inside also
      rwa [only other inside also]
  cases mtu with
  | some value => exact ⟨value, Checks.ok_of_toOption derived, fits value (range value rfl) (room.given value rfl)⟩
  | none =>
    rw [derivedMtu, plans.plannedMtu_eq, found] at derived
    have least := room.least
    exact ⟨parent - overhead, Checks.ok_of_toOption derived, fits _ ⟨least, by have := bounded.2; omega⟩ le_rfl⟩

theorem fits_of_tunnel (plans : manifest.Plans plan) {link : String} {overhead : Int} {mtu : Option Int}
    {helper : Except PlanError Int} (below : device.below = [(link, overhead)]) (positive : 0 ≤ overhead)
    (derived : helper.toOption = derivedMtu node plan link overhead mtu) (range : ∀ given ∈ mtu, InRange given)
    (tunnels : LinuxNode.Tunnels (manifest.topology.linkedMtus node.name) link overhead mtu) :
    ∃ mtu, helper = .ok mtu ∧ device.Fits node plan mtu := by
  obtain ⟨parent, found, room⟩ := tunnels
  exact plans.fits_of_room below positive derived range found room

/-- A link is never too small for a device that adds nothing to it. -/
theorem fits_of_parent (plans : manifest.Plans plan) {link : String} {mtu : Option Int}
    {helper : Except PlanError Int} (below : device.below = [(link, 0)])
    (derived : helper.toOption = derivedMtu node plan link 0 mtu) (range : ∀ given ∈ mtu, InRange given)
    (fits : LinuxNode.Fits (manifest.topology.linkedMtus node.name) link mtu) :
    ∃ mtu, helper = .ok mtu ∧ device.Fits node plan mtu := by
  obtain ⟨parent, found, given⟩ := fits
  refine plans.fits_of_room below le_rfl derived range found ?_
  rw [sub_zero]
  exact ⟨(plans.linkedMtu_range found).1, given⟩

/-- A bond has the MTU of the links below it. -/
theorem fits_of_bond (plans : manifest.Plans plan) (bond : BondDevicePlan)
    (members : ∀ interface ∈ bond.interfaces, interface ∈ (manifest.topology.linkedMtus node.name).keys)
    (common : (bond.interfaces.filterMap (manifest.topology.linkedMtus node.name).get?).dedup.length = 1) :
    ∃ mtu, bondDeviceMtu node plan bond = .ok mtu ∧ (DevicePlan.bond bond).Fits node plan mtu := by
  obtain ⟨mtu, planned⟩ := plans.bondDeviceMtu_total node bond common
  have same := plans.bondDeviceMtu_ok node bond planned
  obtain ⟨interface, _, found⟩ := (same mtu).mpr rfl
  have range := plans.linkedMtu_range found
  refine ⟨mtu, planned, range.1, range.2, ?_, ?_⟩
  · simp only [DevicePlan.below, List.mem_map, forall_exists_index, and_imp, forall_apply_eq_imp_iff₂]
    intro interface member
    obtain ⟨other, found⟩ := Dict.mem_keys_iff.mp (members interface member)
    obtain ⟨link, inside, ends, _⟩ := plans.linkedMtu_iff.mp found
    exact ⟨link, inside, ends⟩
  · simp only [DevicePlan.below, List.mem_map, forall_exists_index, and_imp, forall_apply_eq_imp_iff₂, sub_zero]
    intro interface member link inside ends
    exact ((same link.mtu).mp ⟨interface, member, plans.linkedMtu_iff.mpr ⟨link, inside, ends, rfl⟩⟩).ge

theorem overlayOverhead_nonneg (address : IPAddress) : 0 ≤ overlayOverhead address := by
  unfold overlayOverhead
  split <;> decide

theorem fits_of_vxlan (plans : manifest.Plans plan) (name : String) (vxlan : VxlanDeviceConfig)
    (range : ∀ given ∈ vxlan.mtu, InRange given)
    (tunnels : LinuxNode.Tunnels (manifest.topology.linkedMtus node.name) vxlan.link (overlayOverhead vxlan.localAddress)
      vxlan.mtu) :
    ∃ mtu, vxlanDeviceMtu node plan (compileVxlan name vxlan) = .ok mtu ∧
      (DevicePlan.vxlan (compileVxlan name vxlan)).Fits node plan mtu := by
  refine plans.fits_of_tunnel rfl (overlayOverhead_nonneg _) (vxlanDeviceMtu_derived _) range ?_
  simpa only [compileVxlan, ipAddress_eq, overlayOverhead] using tunnels

theorem fits_of_geneve (plans : manifest.Plans plan) (name : String) (geneve : GeneveDeviceConfig)
    (range : ∀ given ∈ geneve.mtu, InRange given)
    (tunnels : LinuxNode.Tunnels (manifest.topology.linkedMtus node.name) geneve.link (overlayOverhead geneve.remote)
      geneve.mtu) :
    ∃ mtu, geneveDeviceMtu node plan (compileGeneve name geneve) = .ok mtu ∧
      (DevicePlan.geneve (compileGeneve name geneve)).Fits node plan mtu := by
  refine plans.fits_of_tunnel rfl (overlayOverhead_nonneg _) (geneveDeviceMtu_derived _) range ?_
  simpa only [compileGeneve, ipAddress_eq, overlayOverhead] using tunnels

/-- A device of a Linux node gets an MTU that fits. -/
theorem linuxDevice_fits (plans : manifest.Plans plan) {config : LinuxNode} {name : String} {declared : LinuxDeviceConfig}
    (linked : config.Linked (manifest.topology.linkedMtus node.name)) (holds : linuxDevice.holds declared)
    (stored : config.devices.get? name = some declared) {helper : Except PlanError Int}
    (planned : deviceMtu? node plan (compileLinuxDevice name declared) = some helper) :
    ∃ mtu, helper = .ok mtu ∧ (compileLinuxDevice name declared).Fits node plan mtu := by
  have range := LinuxDeviceConfig.mtu_of_holds holds
  have listed {α : Type} {select : LinuxDeviceConfig → Option α} {selected : α} (selects : select declared = some selected) :
      (name, selected) ∈ config.devicesOf select :=
    List.mem_filterMap.mpr ⟨(name, declared), Dict.get?_iff.mp stored, by simp [selects]⟩
  cases declared with
  | vlan | vrf => cases planned
  | dummy dummy =>
    obtain rfl := Option.some.inj planned
    have bounds : InRange (dummy.mtu.getD 1500) := by
      cases given : dummy.mtu with
      | none => exact ⟨by decide, by decide⟩
      | some mtu => exact range mtu given
    exact ⟨_, rfl, bounds.1, bounds.2, List.forall_mem_nil _, List.forall_mem_nil _⟩
  | bond bond =>
    obtain rfl := Option.some.inj planned
    obtain ⟨members, common⟩ := linked.bonds _ (listed rfl)
    exact plans.fits_of_bond _ members common
  | vxlan vxlan =>
    obtain rfl := Option.some.inj planned
    exact plans.fits_of_vxlan name vxlan range (linked.vxlans _ (listed rfl)).2
  | geneve geneve =>
    obtain rfl := Option.some.inj planned
    exact plans.fits_of_geneve name geneve range (linked.geneves _ (listed rfl))
  | gre gre =>
    obtain rfl := Option.some.inj planned
    exact plans.fits_of_tunnel rfl (by split <;> decide) (greDeviceMtu_derived _) range (linked.gres _ (listed rfl)).2
  | ipip ipip =>
    obtain rfl := Option.some.inj planned
    exact plans.fits_of_tunnel rfl (by decide) (ipipDeviceMtu_derived _) range (linked.ipips _ (listed rfl)).2
  | macvlan macvlan =>
    obtain rfl := Option.some.inj planned
    exact plans.fits_of_parent rfl (macvlanDeviceMtu_derived _) range (linked.macvlans _ (listed rfl))
  | ipvlan ipvlan =>
    obtain rfl := Option.some.inj planned
    exact plans.fits_of_parent rfl (ipvlanDeviceMtu_derived _) range (linked.ipvlans _ (listed rfl))

theorem bridgeDevice_fits (plans : manifest.Plans plan) {config : BridgeNode} {name : String} {declared : BridgeDeviceConfig}
    (carries : config.Carries (manifest.topology.linkedMtus node.name) declared) (holds : bridgeDevice.holds declared)
    {helper : Except PlanError Int} (planned : deviceMtu? node plan (compileBridgeDevice name declared) = some helper) :
    ∃ mtu, helper = .ok mtu ∧ (compileBridgeDevice name declared).Fits node plan mtu := by
  have range := BridgeDeviceConfig.mtu_of_holds holds
  cases declared with
  | vxlan vxlan =>
    obtain rfl := Option.some.inj planned
    exact plans.fits_of_vxlan name vxlan range carries.2
  | geneve geneve =>
    obtain rfl := Option.some.inj planned
    exact plans.fits_of_geneve name geneve range carries

end Manifest.Plans

/-- Every device of a plan gets an MTU that the links below it have room for, with the headers that it adds. -/
theorem deviceMtu_fits {manifest : Manifest} (accepted : manifest.Accepted) (nameOverride : Option String)
    {plan : TopologyPlan} (compiled : compilePlan manifest nameOverride = .ok plan) :
    ∀ node ∈ plan.nodes.values, ∀ device ∈ node.devices.values, ∀ helper, deviceMtu? node plan device = some helper →
      ∃ mtu, helper = .ok mtu ∧ device.Fits node plan mtu := by
  have plans := accepted.plans compiled
  intro node member device inside helper planned
  obtain ⟨name, found⟩ := Dict.mem_values_iff.mp inside
  obtain ⟨config, routes, _, shape, _, holds, valid⟩ := plans.node (plans.found_of_mem member)
  have devices : node.devices = compileDevices config := by rw [shape]; rfl
  rw [devices] at found
  cases config with
  | linux config =>
    simp only [compileDevices, Dict.get?_map, Option.map_eq_some_iff] at found
    obtain ⟨declared, stored, rfl⟩ := found
    have fields := (LinuxNode.valid_of_holds holds).1.devices declared (Dict.mem_values_iff.mpr ⟨name, stored⟩)
    exact plans.linuxDevice_fits valid.references fields stored planned
  | bridge config =>
    simp only [compileDevices, Dict.get?_map, Option.map_eq_some_iff] at found
    obtain ⟨declared, stored, rfl⟩ := found
    have listed : declared ∈ config.devices.values := Dict.mem_values_iff.mpr ⟨name, stored⟩
    have references : config.Linked (manifest.topology.linkedMtus node.name) := valid.references
    exact plans.bridgeDevice_fits (references.overlays declared listed) (BridgeNode.devices_of_holds holds declared listed)
      planned

/-- A node `r` with a keyed GRE device over a link to `s` that has just the room for it. -/
def greMtuDocument : Document :=
  .dict [("version", .int 1), ("name", .str "lab"), ("topology", .dict [
    ("nodes", .dict [
      ("r", .dict [("kind", .str "linux"),
        ("interfaces", .dict [("eth0", .dict [("addresses", .list [.str "10.0.0.1/24"])])]),
        ("devices", .dict [("t0", .dict [("type", .str "gre"), ("link", .str "eth0"), ("local", .str "10.0.0.1"),
          ("remote", .str "10.0.0.2"), ("key", .int 7)])])]),
      ("s", .dict [("kind", .str "linux")])]),
    ("links", .list [.dict [("endpoints", .list [.str "r:eth0", .str "s:eth0"]), ("mtu", .int 604)]])])]

/-- The GRE device takes 28 bytes of 604. -/
theorem deviceMtu_fits_gre : ∃ manifest plan, validateManifest greMtuDocument = .ok manifest ∧
    compilePlan manifest none = .ok plan ∧ ∃ node ∈ plan.nodes.values, ∃ device ∈ node.devices.values,
      deviceMtu? node plan device = some (.ok 576) ∧ device.Fits node plan 576 := by
  obtain ⟨manifest, plan, read, accepted, compiled, test⟩ := Manifest.compiled_of_test greMtuDocument (by decide +kernel)
    (fun plan => plan.nodes.values.any fun node => node.devices.values.any fun device =>
      decide (deviceMtu? node plan device = some (.ok 576))) (by decide +kernel)
  simp only [List.any_eq_true, decide_eq_true_eq] at test
  obtain ⟨node, member, device, inside, planned⟩ := test
  obtain ⟨mtu, same, fits⟩ := deviceMtu_fits accepted none compiled node member device inside _ planned
  obtain rfl := Except.ok.inj same
  exact ⟨manifest, plan, read, compiled, node, member, device, inside, planned, fits⟩

end Nslab
