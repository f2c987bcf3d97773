import Nslab.Plan.Interfaces

/-! The MTUs of what carries IPv6 addresses. The validator asks for the minimum of
IPv6 where a link ends at such an address, and not where a device takes its MTU
from a link or from its own declaration. -/

namespace Nslab

open Schema IpAddress

/-- Addresses among which there is one of IPv6. -/
def carriesIpv6 (addresses : List IPInterface) : Bool := addresses.any (·.version = 6)

section Planned

/-- The MTU that a device will have. A VLAN inherits that of the interface below, none is planned for a VRF. -/
def plannedDeviceMtu (node : NodePlan) (plan : TopologyPlan) : DevicePlan → Option Int
  | .vlan device => plannedMtu node plan device.link
  | .vrf _ => none
  | .bond device => (bondDeviceMtu node plan device).toOption
  | .gre device => (greDeviceMtu node plan device).toOption
  | .ipip device => (ipipDeviceMtu node plan device).toOption
  | .vxlan device => (vxlanDeviceMtu node plan device).toOption
  | .dummy device => some (dummyDeviceMtu device)
  | .geneve device => (geneveDeviceMtu node plan device).toOption
  | .macvlan device => (macvlanDeviceMtu node plan device).toOption
  | .ipvlan device => (ipvlanDeviceMtu node plan device).toOption

/-- IPv6 has its minimum MTU on every linked interface and on every device. -/
structure TopologyPlan.CarriesIpv6 (plan : TopologyPlan) : Prop where
  linked : ∀ node ∈ plan.nodes.values, ∀ interface addresses, node.interfaces.get? interface = some addresses →
    carriesIpv6 addresses = true → ∀ mtu, plannedMtu node plan interface = some mtu → ipv6MinimumLinkMtu ≤ mtu
  devices : ∀ node ∈ plan.nodes.values, ∀ device ∈ node.devices.values, ∀ addresses, device.addresses? = some addresses →
    carriesIpv6 addresses = true → ∃ mtu, plannedDeviceMtu node plan device = some mtu ∧ ipv6MinimumLinkMtu ≤ mtu

end Planned

section Declared

/-- A device with the minimum MTU of IPv6: one of its own, or what its overhead leaves of the interface below. -/
def DeclaresIpv6 (linked : Dict String Int) (link : String) (overhead : Int) (mtu : Option Int) : Prop :=
  match mtu with
  | some mtu => ipv6MinimumLinkMtu ≤ mtu
  | none => ∀ parent ∈ linked.get? link, ipv6MinimumLinkMtu + overhead ≤ parent

/-- What a device declares, and the links below it, leave the minimum MTU of IPv6. -/
def LinuxDeviceConfig.CarriesIpv6 (linked : Dict String Int) : LinuxDeviceConfig → Prop
  | .vlan device => DeclaresIpv6 linked device.link 0 none
  | .vrf _ => True
  | .bond device => ∀ interface ∈ device.interfaces, DeclaresIpv6 linked interface 0 none
  | .gre device => DeclaresIpv6 linked device.link (greOverhead device) device.mtu
  | .ipip device => DeclaresIpv6 linked device.link 20 device.mtu
  | .vxlan device => DeclaresIpv6 linked device.link (overlayOverhead device.localAddress) device.mtu
  | .dummy device => ∀ mtu ∈ device.mtu, ipv6MinimumLinkMtu ≤ mtu
  | .geneve device => DeclaresIpv6 linked device.link (overlayOverhead device.remote) device.mtu
  | .macvlan device => DeclaresIpv6 linked device.link 0 device.mtu
  | .ipvlan device => DeclaresIpv6 linked device.link 0 device.mtu

def BridgeDeviceConfig.CarriesIpv6 (linked : Dict String Int) : BridgeDeviceConfig → Prop
  | .vxlan device => DeclaresIpv6 linked device.link (overlayOverhead device.localAddress) device.mtu
  | .geneve device => DeclaresIpv6 linked device.link (overlayOverhead device.remote) device.mtu

/-- The devices of a node that have an IPv6 address have room for it. -/
def NodeConfig.CarriesIpv6 (linked : Dict String Int) : NodeConfig → Prop
  | .linux node => ∀ device ∈ node.devices.values, carriesIpv6 device.addresses = true → device.CarriesIpv6 linked
  | .bridge node => ∀ device ∈ node.devices.values, carriesIpv6 device.interface.addresses = true → device.CarriesIpv6 linked

/-- All devices that have an IPv6 address have room for it. -/
def Manifest.DevicesCarryIpv6 (manifest : Manifest) : Prop :=
  ∀ entry ∈ manifest.topology.nodes.entries, entry.2.CarriesIpv6 (manifest.topology.linkedMtus entry.1)

instance {linked : Dict String Int} {link : String} {overhead : Int} {mtu : Option Int} :
    Decidable (DeclaresIpv6 linked link overhead mtu) :=
  match mtu with
  | some mtu => inferInstanceAs (Decidable (ipv6MinimumLinkMtu ≤ mtu))
  | none => inferInstanceAs (Decidable (∀ parent ∈ linked.get? link, ipv6MinimumLinkMtu + overhead ≤ parent))

instance {linked : Dict String Int} (device : LinuxDeviceConfig) : Decidable (device.CarriesIpv6 linked) :=
  match device with
  | .vlan device => inferInstanceAs (Decidable (DeclaresIpv6 linked device.link 0 none))
  | .vrf _ => isTrue trivial
  | .bond device => inferInstanceAs (Decidable (∀ interface ∈ device.interfaces, DeclaresIpv6 linked interface 0 none))
  | .gre device => inferInstanceAs (Decidable (DeclaresIpv6 linked device.link (greOverhead device) device.mtu))
  | .ipip device => inferInstanceAs (Decidable (DeclaresIpv6 linked device.link 20 device.mtu))
  | .vxlan device => inferInstanceAs (Decidable (DeclaresIpv6 linked device.link (overlayOverhead device.localAddress) device.mtu))
  | .dummy device => inferInstanceAs (Decidable (∀ mtu ∈ device.mtu, ipv6MinimumLinkMtu ≤ mtu))
  | .geneve device => inferInstanceAs (Decidable (DeclaresIpv6 linked device.link (overlayOverhead device.remote) device.mtu))
  | .macvlan device => inferInstanceAs (Decidable (DeclaresIpv6 linked device.link 0 device.mtu))
  | .ipvlan device => inferInstanceAs (Decidable (DeclaresIpv6 linked device.link 0 device.mtu))

instance {linked : Dict String Int} (device : BridgeDeviceConfig) : Decidable (device.CarriesIpv6 linked) :=
  match device with
  | .vxlan device => inferInstanceAs (Decidable (DeclaresIpv6 linked device.link (overlayOverhead device.localAddress) device.mtu))
  | .geneve device => inferInstanceAs (Decidable (DeclaresIpv6 linked device.link (overlayOverhead device.remote) device.mtu))

instance {linked : Dict String Int} (node : NodeConfig) : Decidable (node.CarriesIpv6 linked) :=
  match node with
  | .linux node => inferInstanceAs (Decidable (∀ device ∈ node.devices.values,
      carriesIpv6 device.addresses = true → device.CarriesIpv6 linked))
  | .bridge node => inferInstanceAs (Decidable (∀ device ∈ node.devices.values,
      carriesIpv6 device.interface.addresses = true → device.CarriesIpv6 linked))

instance (manifest : Manifest) : Decidable manifest.DevicesCarryIpv6 :=
  inferInstanceAs (Decidable (∀ entry ∈ manifest.topology.nodes.entries,
    entry.2.CarriesIpv6 (manifest.topology.linkedMtus entry.1)))

end Declared

section Devices

variable {manifest : Manifest} {plan : TopologyPlan} {node : NodePlan}

/-- The MTU of a device over a link: its own, or what its overhead leaves. -/
def derivedMtu (node : NodePlan) (plan : TopologyPlan) (link : String) (overhead : Int) (mtu : Option Int) : Option Int :=
  match mtu with
  | some mtu => some mtu
  | none => (plannedMtu node plan link).map (· - overhead)

theorem parentDeviceMtu_derived (node : NodePlan) (plan : TopologyPlan) (link : String) (overhead : Int) :
    (do let parent ← parentDeviceMtu node plan link; pure (parent - overhead)).toOption =
      derivedMtu node plan link overhead none := by
  unfold parentDeviceMtu derivedMtu
  cases plannedMtu node plan link <;> rfl

theorem vxlanDeviceMtu_derived (device : VxlanDevicePlan) : (vxlanDeviceMtu node plan device).toOption =
    derivedMtu node plan device.link (overlayOverhead device.localAddress) device.mtu := by
  unfold vxlanDeviceMtu derivedMtu
  cases device.mtu with
  | some mtu => rfl
  | none => cases plannedMtu node plan device.link <;> rfl

theorem geneveDeviceMtu_derived (device : GeneveDevicePlan) : (geneveDeviceMtu node plan device).toOption =
    derivedMtu node plan device.link (overlayOverhead device.remote) device.mtu := by
  unfold geneveDeviceMtu
  cases device.mtu with
  | some mtu => rfl
  | none => exact parentDeviceMtu_derived node plan device.link _

theorem greDeviceMtu_derived (device : GreDevicePlan) : (greDeviceMtu node plan device).toOption =
    derivedMtu node plan device.link (24 + if device.key.isSome then 4 else 0) device.mtu := by
  unfold greDeviceMtu
  cases device.mtu with
  | some mtu => rfl
  | none => exact parentDeviceMtu_derived node plan device.link _

theorem ipipDeviceMtu_derived (device : IpipDevicePlan) : (ipipDeviceMtu node plan device).toOption =
    derivedMtu node plan device.link 20 device.mtu := by
  unfold ipipDeviceMtu
  cases device.mtu with
  | some mtu => rfl
  | none => exact parentDeviceMtu_derived node plan device.link _

theorem macvlanDeviceMtu_derived (device : MacvlanDevicePlan) : (macvlanDeviceMtu node plan device).toOption =
    derivedMtu node plan device.link 0 device.mtu := by
  unfold macvlanDeviceMtu
  cases device.mtu with
  | some mtu => rfl
  | none => simpa only [sub_zero, bind_pure] using parentDeviceMtu_derived node plan device.link 0

theorem ipvlanDeviceMtu_derived (device : IpvlanDevicePlan) : (ipvlanDeviceMtu node plan device).toOption =
    derivedMtu node plan device.link 0 device.mtu := by
  unfold ipvlanDeviceMtu
  cases device.mtu with
  | some mtu => rfl
  | none => simpa only [sub_zero, bind_pure] using parentDeviceMtu_derived node plan device.link 0

/-- A device over a planned link has the minimum MTU of IPv6 when its declaration leaves it. -/
theorem derivedMtu_iff {linked : Dict String Int} {link : String}
    (mtus : plannedMtu node plan link = linked.get? link) (planned : ∃ parent, plannedMtu node plan link = some parent)
    (overhead : Int) (mtu : Option Int) :
    (∃ derived, derivedMtu node plan link overhead mtu = some derived ∧ ipv6MinimumLinkMtu ≤ derived) ↔
      DeclaresIpv6 linked link overhead mtu := by
  obtain ⟨parent, found⟩ := planned
  unfold derivedMtu DeclaresIpv6
  cases mtu with
  | some mtu => simp only [Option.some.injEq, exists_eq_left']
  | none =>
    simp only [found, ← mtus, Option.map_some, Option.mem_def, Option.some.injEq, exists_eq_left', forall_eq']
    omega

theorem dummyDeviceMtu_iff (device : DummyDevicePlan) :
    ipv6MinimumLinkMtu ≤ dummyDeviceMtu device ↔ ∀ mtu ∈ device.mtu, ipv6MinimumLinkMtu ≤ mtu := by
  unfold dummyDeviceMtu
  cases device.mtu with
  | none => simp [ipv6MinimumLinkMtu]
  | some mtu => simp

/-- The members of a bond have a planned link each, and the minimum MTU of IPv6 when the bond has it. -/
theorem Manifest.Plans.bondDeviceMtu_iff (plans : manifest.Plans plan) (device : BondDevicePlan)
    (supported : ∃ mtu, bondDeviceMtu node plan device = .ok mtu) :
    (∃ mtu, (bondDeviceMtu node plan device).toOption = some mtu ∧ ipv6MinimumLinkMtu ≤ mtu) ↔
      ∀ interface ∈ device.interfaces, DeclaresIpv6 (manifest.topology.linkedMtus node.name) interface 0 none := by
  obtain ⟨mtu, planned⟩ := supported
  have members := plans.bondDeviceMtu_ok node device planned
  simp only [planned, Except.toOption, Option.some.injEq, exists_eq_left', DeclaresIpv6, add_zero, Option.mem_def]
  constructor
  · intro room interface member parent found
    rwa [(members parent).mp ⟨interface, member, found⟩]
  · intro room
    obtain ⟨interface, member, found⟩ := (members mtu).mpr rfl
    exact room interface member mtu found

/-- A planned device of a Linux node has the minimum MTU of IPv6 when its declaration leaves it. -/
theorem Manifest.Plans.linuxDevice_iff (plans : manifest.Plans plan) (name : String) (declared : LinuxDeviceConfig)
    (supported : (compileLinuxDevice name declared).Supported node plan)
    (vlans : ∀ config, declared = .vlan config → ∃ parent, plannedMtu node plan config.link = some parent) :
    (∀ addresses, (compileLinuxDevice name declared).addresses? = some addresses → carriesIpv6 addresses = true →
      ∃ mtu, plannedDeviceMtu node plan (compileLinuxDevice name declared) = some mtu ∧ ipv6MinimumLinkMtu ≤ mtu) ↔
      (carriesIpv6 declared.addresses = true → declared.CarriesIpv6 (manifest.topology.linkedMtus node.name)) := by
  have mtus := plans.plannedMtu_eq node
  have addressed {config : InterfaceConfig} {room : Prop} : (∀ addresses, some (compileAddresses config) = some addresses →
      carriesIpv6 addresses = true → room) ↔ (carriesIpv6 config.addresses = true → room) := by
    simp only [compileAddresses_eq, Option.some.injEq, forall_eq']
  cases declared with
  | vrf config => simp [compileLinuxDevice, DevicePlan.addresses?, LinuxDeviceConfig.CarriesIpv6]
  | dummy config =>
    refine addressed.trans (imp_congr_right fun _ => ?_)
    simpa only [compileLinuxDevice, plannedDeviceMtu, LinuxDeviceConfig.CarriesIpv6, Option.some.injEq, exists_eq_left'] using
      dummyDeviceMtu_iff ⟨name, config.mtu, _⟩
  | bond config => exact addressed.trans (imp_congr_right fun _ => plans.bondDeviceMtu_iff _ supported)
  | vlan config =>
    refine addressed.trans (imp_congr_right fun _ => ?_)
    have derived := derivedMtu_iff (mtus config.link) (vlans config rfl) 0 none
    simpa only [compileLinuxDevice, plannedDeviceMtu, LinuxDeviceConfig.CarriesIpv6, derivedMtu, sub_zero,
      Option.map_id'] using derived
  | gre config =>
    refine addressed.trans (imp_congr_right fun _ => ?_)
    simp only [compileLinuxDevice, plannedDeviceMtu, greDeviceMtu_derived]
    exact derivedMtu_iff (mtus config.link) supported _ _
  | ipip config =>
    refine addressed.trans (imp_congr_right fun _ => ?_)
    simp only [compileLinuxDevice, plannedDeviceMtu, ipipDeviceMtu_derived]
    exact derivedMtu_iff (mtus config.link) supported _ _
  | vxlan config =>
    refine addressed.trans (imp_congr_right fun _ => ?_)
    simp only [compileLinuxDevice, plannedDeviceMtu, vxlanDeviceMtu_derived, compileVxlan, ipAddress_eq]
    exact derivedMtu_iff (mtus config.link) supported _ _
  | geneve config =>
    refine addressed.trans (imp_congr_right fun _ => ?_)
    simp only [compileLinuxDevice, plannedDeviceMtu, geneveDeviceMtu_derived, compileGeneve, ipAddress_eq]
    exact derivedMtu_iff (mtus config.link) supported _ _
  | macvlan config =>
    refine addressed.trans (imp_congr_right fun _ => ?_)
    simp only [compileLinuxDevice, plannedDeviceMtu, macvlanDeviceMtu_derived]
    exact derivedMtu_iff (mtus config.link) supported _ _
  | ipvlan config =>
    refine addressed.trans (imp_congr_right fun _ => ?_)
    simp only [compileLinuxDevice, plannedDeviceMtu, ipvlanDeviceMtu_derived]
    exact derivedMtu_iff (mtus config.link) supported _ _

/-- The same for an overlay device of a bridge node. -/
theorem Manifest.Plans.bridgeDevice_iff (plans : manifest.Plans plan) (name : String) (declared : BridgeDeviceConfig)
    (supported : (compileBridgeDevice name declared).Supported node plan) :
    (∀ addresses, (compileBridgeDevice name declared).addresses? = some addresses → carriesIpv6 addresses = true →
      ∃ mtu, plannedDeviceMtu node plan (compileBridgeDevice name declared) = some mtu ∧ ipv6MinimumLinkMtu ≤ mtu) ↔
      (carriesIpv6 declared.interface.addresses = true → declared.CarriesIpv6 (manifest.topology.linkedMtus node.name)) := by
  cases declared with
  | vxlan config =>
    exact plans.linuxDevice_iff name (.vxlan config) supported fun _ other => by cases other
  | geneve config =>
    exact plans.linuxDevice_iff name (.geneve config) supported fun _ other => by cases other

end Devices

section Manifests

variable {manifest : Manifest} {plan : TopologyPlan} {node : NodePlan}

/-- The validator looks at the IPv6 addresses of linked interfaces. -/
theorem Manifest.Plans.linkedIpv6 (plans : manifest.Plans plan) (member : node ∈ plan.nodes.values) {interface : String}
    {addresses : List IPInterface} (found : node.interfaces.get? interface = some addresses)
    (carries : carriesIpv6 addresses = true) {mtu : Int} (planned : plannedMtu node plan interface = some mtu) :
    ipv6MinimumLinkMtu ≤ mtu := by
  obtain ⟨config, routes, declared, shape, _⟩ := plans.node (plans.found_of_mem member)
  rw [plans.plannedMtu_eq] at planned
  obtain ⟨endpoint, inside, same⟩ := List.mem_map.mp (Dict.mem_of_get?_ofEntries planned)
  obtain ⟨rfl, rfl⟩ := Prod.mk.inj same
  obtain ⟨inside, own⟩ := List.mem_filter.mp inside
  rw [shape] at found
  simp only [plannedNode, Dict.get?_map, Option.map_eq_some_iff, compileAddresses_eq] at found
  obtain ⟨interfaceConfig, configured, rfl⟩ := found
  have valid := (plans.valid.topology.endpoints endpoint inside).ipv6
  simp only [Topology.endpointConfig, of_decide_eq_true own, declared, Option.bind_some, configured, Option.some.injEq,
    forall_eq'] at valid
  obtain ⟨address, listed, six⟩ := List.any_eq_true.mp carries
  by_contra small
  exact valid (not_le.mp small) address listed (of_decide_eq_true six)

/-- The devices of a planned node have the minimum MTU of IPv6 when their declarations leave it. -/
theorem Manifest.Plans.devicesIpv6 (plans : manifest.Plans plan) (member : node ∈ plan.nodes.values) {config : NodeConfig}
    (declared : manifest.topology.nodes.get? node.name = some config) :
    (∀ device ∈ node.devices.values, ∀ addresses, device.addresses? = some addresses → carriesIpv6 addresses = true →
      ∃ mtu, plannedDeviceMtu node plan device = some mtu ∧ ipv6MinimumLinkMtu ≤ mtu) ↔
      config.CarriesIpv6 (manifest.topology.linkedMtus node.name) := by
  obtain ⟨other, routes, found, shape, _, _, valid⟩ := plans.node (plans.found_of_mem member)
  obtain rfl := Option.some.inj (declared.symm.trans found)
  have supported := plans.supported member
  have planned : node.devices = compileDevices config := by rw [shape]; rfl
  have stored : ∀ device, device ∈ node.devices.values ↔ ∃ name, (compileDevices config).get? name = some device := by
    rw [planned]
    exact fun _ => Dict.mem_values_iff
  cases config with
  | linux config =>
    have references : config.Linked (manifest.topology.linkedMtus node.name) := valid.references
    have each {name : String} {device : LinuxDeviceConfig} (found : config.devices.get? name = some device) :=
      plans.linuxDevice_iff name device (supported _ ((stored _).mpr ⟨name, by simp [compileDevices, found]⟩))
        fun vlan same => by
          have listed := references.vlans (name, vlan)
            (List.mem_filterMap.mpr ⟨(name, device), Dict.get?_iff.mp found, by simp [same, LinuxDeviceConfig.vlan?]⟩)
          rw [plans.plannedMtu_eq]
          exact Dict.mem_keys_iff.mp listed
    constructor
    · intro room device inside
      obtain ⟨name, found⟩ := Dict.mem_values_iff.mp inside
      exact (each found).mp (room _ ((stored _).mpr ⟨name, by simp [compileDevices, found]⟩))
    · intro room device inside
      obtain ⟨name, found⟩ := (stored device).mp inside
      simp only [compileDevices, Dict.get?_map, Option.map_eq_some_iff] at found
      obtain ⟨declared, found, rfl⟩ := found
      exact (each found).mpr (room declared (Dict.mem_values_iff.mpr ⟨name, found⟩))
  | bridge config =>
    have each {name : String} {device : BridgeDeviceConfig} (found : config.devices.get? name = some device) :=
      plans.bridgeDevice_iff name device (supported _ ((stored _).mpr ⟨name, by simp [compileDevices, found]⟩))
    constructor
    · intro room device inside
      obtain ⟨name, found⟩ := Dict.mem_values_iff.mp inside
      exact (each found).mp (room _ ((stored _).mpr ⟨name, by simp [compileDevices, found]⟩))
    · intro room device inside
      obtain ⟨name, found⟩ := (stored device).mp inside
      simp only [compileDevices, Dict.get?_map, Option.map_eq_some_iff] at found
      obtain ⟨declared, found, rfl⟩ := found
      exact (each found).mpr (room declared (Dict.mem_values_iff.mpr ⟨name, found⟩))

/-- IPv6 has its minimum MTU throughout a plan exactly when no device declares an IPv6 address on less. -/
theorem compilePlan_ipv6Mtu {manifest : Manifest} (accepted : manifest.Accepted) (nameOverride : Option String)
    {plan : TopologyPlan} (compiled : compilePlan manifest nameOverride = .ok plan) :
    plan.CarriesIpv6 ↔ manifest.DevicesCarryIpv6 := by
  have plans := accepted.plans compiled
  constructor
  · rintro ⟨_, devices⟩ ⟨name, config⟩ inside
    have declared := Dict.get?_iff.mpr inside
    obtain ⟨node, found⟩ := plans.found_of_declared declared
    obtain rfl := (plans.name_of_found found).1
    have member := Dict.mem_values_iff.mpr ⟨_, found⟩
    exact (plans.devicesIpv6 member declared).mp (devices node member)
  · intro room
    refine ⟨fun node member _ _ found carries _ planned => plans.linkedIpv6 member found carries planned, ?_⟩
    intro node member
    obtain ⟨config, _, declared, _⟩ := plans.node (plans.found_of_mem member)
    exact (plans.devicesIpv6 member declared).mpr (room (node.name, config) (Dict.get?_iff.mp declared))

/-- A node `r` linked to `s` with the given MTU, a VLAN with an IPv6 address over the link and a dummy with another. -/
def vlanMtuDocument (mtu : Int) : Document :=
  .dict [("version", .int 1), ("name", .str "lab"), ("topology", .dict [
    ("nodes", .dict [
      ("r", .dict [("kind", .str "linux"), ("devices", .dict [
        ("v0", .dict [("type", .str "vlan"), ("link", .str "eth0"), ("id", .int 7),
          ("addresses", .list [.str "2001:db8::1/64"])]),
        ("d0", .dict [("type", .str "dummy"), ("addresses", .list [.str "2001:db8:1::1/64"])])])]),
      ("s", .dict [("kind", .str "linux")])]),
    ("links", .list [.dict [("endpoints", .list [.str "r:eth0", .str "s:eth0"]), ("mtu", .int mtu)]])])]

/-- A VLAN over a link of 1280 bytes carries IPv6. -/
theorem compilePlan_ipv6Mtu_wide : ∃ manifest plan, validateManifest (vlanMtuDocument 1280) = .ok manifest ∧
    compilePlan manifest none = .ok plan ∧ plan.CarriesIpv6 := by
  obtain ⟨manifest, read, accepted, test⟩ := Manifest.accepted_of_test (vlanMtuDocument 1280) (by decide +kernel)
    (fun manifest => (compilePlan manifest none).toOption.isSome && decide manifest.DevicesCarryIpv6) (by decide +kernel)
  simp only [Bool.and_eq_true, decide_eq_true_eq] at test
  cases compiled : compilePlan manifest none with
  | error issue => simp [compiled, Except.toOption] at test
  | ok plan => exact ⟨manifest, plan, read, compiled, (compilePlan_ipv6Mtu accepted none compiled).mpr test.2⟩

/-- A VLAN over a link of 576 bytes is accepted with its IPv6 address, and has no more than the link. -/
theorem compilePlan_ipv6Mtu_narrow : ∃ manifest plan, validateManifest (vlanMtuDocument 576) = .ok manifest ∧
    manifest.Accepted ∧ compilePlan manifest none = .ok plan ∧ ¬ plan.CarriesIpv6 := by
  obtain ⟨manifest, plan, read, accepted, compiled, test⟩ := Manifest.compiled_of_test (vlanMtuDocument 576) (by decide +kernel)
    (fun plan => plan.nodes.values.any fun node => node.devices.values.any fun device =>
      device.addresses?.any carriesIpv6 && (plannedDeviceMtu node plan device).any (· < ipv6MinimumLinkMtu)) (by decide +kernel)
  refine ⟨manifest, plan, read, accepted, compiled, fun carries => ?_⟩
  simp only [List.any_eq_true, Bool.and_eq_true, Option.any_eq_true, decide_eq_true_eq] at test
  obtain ⟨node, member, device, inside, ⟨addresses, listed, six⟩, mtu, planned, small⟩ := test
  obtain ⟨other, same, room⟩ := carries.devices node member device inside addresses listed six
  rw [planned] at same
  obtain rfl := Option.some.inj same
  exact absurd room (not_le.mpr small)

end Manifests

end Nslab
