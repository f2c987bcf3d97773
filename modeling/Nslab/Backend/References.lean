import Nslab.Backend.ExpectedRoutes

/-! The names of the interfaces of a node: no name is taken twice, every name that
a plan refers to is one of them, and no interface has two masters. -/

namespace Nslab

open Schema IpAddress

section Names

/-- The interfaces that a node has as ends of links. -/
def NodePlan.linkedInterfaces (node : NodePlan) (plan : TopologyPlan) : List String :=
  plan.links.flatMap fun link => (link.endpoints.filter (·.netns = node.netns)).map (·.interface)

/-- The loopback, the bridge, the ends of links and the devices of a node. -/
def NodePlan.interfaceNames (node : NodePlan) (plan : TopologyPlan) : List String :=
  "lo" :: node.bridgeName.toList ++ node.linkedInterfaces plan ++ node.devices.keys

/-- The interfaces that a device refers to. -/
def DevicePlan.references : DevicePlan → List String
  | .vlan device => [device.link]
  | .vrf device => device.interfaces
  | .bond device => device.interfaces ++ device.primary.toList
  | .gre device => [device.link]
  | .ipip device => [device.link]
  | .vxlan device => [device.link]
  | .dummy _ => []
  | .geneve device => [device.link]
  | .macvlan device => [device.link]
  | .ipvlan device => [device.link]

def PolicyRulePlan.interfaces (rule : PolicyRulePlan) : List String := rule.iif.toList ++ rule.oif.toList

def RoutingPlan.interfaces (routing : RoutingPlan) : List String :=
  (routing.ospf.map (·.passiveInterfaces)).getD [] ++
    (routing.pim.map fun pim => pim.interfaces ++ pim.igmpInterfaces).getD []

/-- All names of interfaces that the plan of a node mentions. -/
def NodePlan.references (node : NodePlan) : List String :=
  node.interfaces.keys ++ node.devices.values.flatMap DevicePlan.references ++ node.routes.flatMap RoutePlan.interfaces ++
    node.neighbors.map (·.dev) ++ node.rules.flatMap PolicyRulePlan.interfaces ++ node.bridgePorts.keys ++
    (node.routing.map RoutingPlan.interfaces).getD []

/-- The bonds, the VRFs and the bridge that an interface belongs to. -/
def NodePlan.masters (node : NodePlan) (interface : String) : List String :=
  ((node.devices.values.filterMap DevicePlan.bond?).filter (interface ∈ ·.interfaces)).map (·.name) ++
    ((node.devices.values.filterMap DevicePlan.vrf?).filter (interface ∈ ·.interfaces)).map (·.name) ++
    if node.kind = .bridge ∧ some interface ≠ node.bridgeName ∧
      interface ∉ node.devices.values.filterMap DevicePlan.underlay? then node.bridgeName.toList else []

/-- The planner finds the first of the masters. -/
theorem nodeInterfaceMaster_eq (node : NodePlan) (interface : String) :
    nodeInterfaceMaster node interface = (node.masters interface).head? := by
  have first {α : Type} (items : List α) (test : α → Bool) (name : α → String) :
      (items.find? test).map name = ((items.filter test).map name).head? := by
    rw [List.head?_map, List.head?_filter]
  have bonds := first (node.devices.values.filterMap DevicePlan.bond?) (fun bond => interface ∈ bond.interfaces) (·.name)
  have vrfs := first (node.devices.values.filterMap DevicePlan.vrf?) (fun vrf => interface ∈ vrf.interfaces) (·.name)
  rw [NodePlan.masters, List.head?_append, List.head?_append, ← bonds, ← vrfs, nodeInterfaceMaster, nodeInterfaceVrfMaster]
  cases (node.devices.values.filterMap DevicePlan.bond?).find? fun bond => interface ∈ bond.interfaces with
  | some bond => rfl
  | none =>
    cases (node.devices.values.filterMap DevicePlan.vrf?).find? fun vrf => interface ∈ vrf.interfaces with
    | some vrf => rfl
    | none =>
      simp only [Option.map_none, Option.none_or]
      by_cases kind : node.kind = .bridge
      · by_cases own : some interface = node.bridgeName
        · simp [kind, own]
        · by_cases below : interface ∈ node.devices.values.filterMap DevicePlan.underlay?
          · simp [kind, own, below]
          · simp only [kind, own, below, ne_eq, not_true_eq_false, if_false, not_false_eq_true, and_self, if_true]
            cases node.bridgeName <;> rfl
      · simp [kind]

/-- An item is counted once at least for each list that contains it. -/
theorem length_containing_le {α β : Type} [DecidableEq β] (items : List α) (members : α → List β) (item : β) :
    (items.filter (item ∈ members ·)).length ≤ (items.flatMap members).count item := by
  induction items with
  | nil => simp
  | cons first rest ih =>
    rw [List.flatMap_cons, List.count_append, List.filter_cons]
    by_cases member : item ∈ members first
    · have counted := List.count_pos_iff.mpr member
      simp only [member, decide_true, if_true, List.length_cons]
      omega
    · simp only [member, decide_false, Bool.false_eq_true, if_false]
      omega

end Names

section Declared

namespace NodeConfig

/-- The names of the interfaces of a declared node, given those linked to it. -/
def names (config : NodeConfig) (linked : Dict String Int) : List String :=
  "lo" :: (config.bridge?.map (·.name)).toList ++ linked.keys ++ (compileDevices config).keys

theorem available_names {config : NodeConfig} {linked : Dict String Int} {name : String}
    (available : name ∈ config.available linked) : name ∈ config.names linked := by
  cases config with
  | linux config =>
    simp only [NodeConfig.available, LinuxNode.available, List.mem_append] at available
    simp only [names, List.mem_append, List.mem_cons]
    cases available with
    | inl endpoint => exact .inl (.inr endpoint)
    | inr device =>
      obtain ⟨entry, inside, rfl⟩ := List.mem_map.mp device
      obtain ⟨⟨name, config⟩, stored, selected⟩ := List.mem_filterMap.mp inside
      obtain ⟨_, _, rfl⟩ := Option.map_eq_some_iff.mp selected
      refine .inr ?_
      rw [compileDevices, Dict.keys_map]
      exact List.mem_map_of_mem stored
  | bridge config =>
    simp only [NodeConfig.available, BridgeNode.available, List.mem_append, List.mem_cons] at available
    simp only [names, NodeConfig.bridge?, Option.map_some, Option.toList_some, List.mem_append, List.mem_cons, compileDevices,
      Dict.keys_map, List.not_mem_nil, or_false]
    tauto

/-- No name of an interface is taken twice. -/
theorem names_nodup {config : NodeConfig} {linked : Dict String Int} (holds : nodeConfig.holds config)
    (valid : Topology.NodeValid linked config) (loopback : "lo" ∉ linked.keys) : (config.names linked).Nodup := by
  have devices : "lo" ∉ (compileDevices config).keys := by
    intro listed
    cases config with
    | linux config =>
      rw [compileDevices, Dict.keys_map] at listed
      have named := (LinuxNode.valid_of_holds holds).1.deviceNames "lo" listed
      simp [requireDeviceName] at named
    | bridge config =>
      rw [compileDevices, Dict.keys_map] at listed
      have named := (BridgeNode.valid_of_holds holds).1.deviceNames "lo" listed
      simp [requireDeviceName] at named
  have apart : ∀ device ∈ (compileDevices config).keys, device ∉ linked.keys := by
    intro device listed
    cases config with
    | linux config =>
      rw [compileDevices, Dict.keys_map] at listed
      have references : config.Linked linked := valid.references
      exact references.apart device listed
    | bridge config =>
      rw [compileDevices, Dict.keys_map] at listed
      have references : config.Linked linked := valid.references
      exact references.apart device listed
  have bridge : ∀ name ∈ config.bridge?.map (·.name), name ≠ "lo" ∧ name ∉ linked.keys ∧ name ∉ (compileDevices config).keys := by
    intro name own
    cases config with
    | linux config => cases own
    | bridge config =>
      obtain rfl := Option.some.inj own
      obtain ⟨fields, consistent⟩ := BridgeNode.valid_of_holds holds
      have references : config.Linked linked := valid.references
      refine ⟨fields.bridgeName, references.bridge, ?_⟩
      rw [compileDevices, Dict.keys_map, ← Dict.contains_iff, Bool.not_eq_true]
      exact consistent.bridge
  have tail : (linked.keys ++ (compileDevices config).keys).Nodup := by
    refine List.nodup_append'.mpr ⟨linked.keys_nodup, Dict.keys_nodup _, ?_⟩
    intro name first second
    exact apart name second first
  rw [names]
  cases own : config.bridge?.map (·.name) with
  | none => simpa [loopback, devices] using tail
  | some name =>
    obtain ⟨other, unlinked, device⟩ := bridge name own
    simpa [loopback, devices, other, other.symm, unlinked, device] using tail

end NodeConfig

/-- Every interface that a declared device refers to is linked or an available device. -/
theorem LinuxNode.references_available {node : LinuxNode} {linked : Dict String Int} (holds : nodeConfig.holds (.linux node))
    (valid : node.Linked linked) {name : String} {device : LinuxDeviceConfig} (stored : node.devices.get? name = some device) :
    ∀ reference ∈ (compileLinuxDevice name device).references, reference ∈ node.available linked := by
  have listed {α : Type} {select : LinuxDeviceConfig → Option α} {selected : α} (selects : select device = some selected) :
      (name, selected) ∈ node.devicesOf select :=
    List.mem_filterMap.mpr ⟨(name, device), Dict.get?_iff.mp stored, by simp [selects]⟩
  have parent {link : String} {mtu : Int} (found : linked.get? link = some mtu) : link ∈ node.available linked :=
    List.mem_append_left _ (Dict.mem_keys_of_get? found)
  intro reference inside
  cases device with
  | dummy => cases inside
  | vlan device =>
    rw [List.mem_singleton.mp inside]
    exact List.mem_append_left _ (valid.vlans _ (listed rfl))
  | vrf device => exact valid.vrfs _ (listed rfl) reference inside
  | bond device =>
    have members : ∀ interface ∈ device.interfaces, interface ∈ node.available linked := fun interface member =>
      List.mem_append_left _ ((valid.bonds _ (listed rfl)).1 interface member)
    cases List.mem_append.mp inside with
    | inl member => exact members reference member
    | inr primary =>
      have own : linuxDevice.holds (.bond device) :=
        (LinuxNode.valid_of_holds holds).1.devices _ (Dict.mem_values_iff.mpr ⟨name, stored⟩)
      obtain ⟨_, options⟩ := own
      simp only [BondDeviceConfig.validateModeOptions, Checks.bind_ok, Checks.ifSome_ok, Checks.raiseIf_ok, Checks.exists_unit,
        not_not] at options
      exact members reference (options.1 reference (Option.mem_toList.mp primary)).2
  | vxlan device =>
    obtain ⟨_, _, found, _⟩ := valid.vxlans _ (listed rfl)
    rw [List.mem_singleton.mp inside]
    exact parent found
  | geneve device =>
    obtain ⟨_, found, _⟩ := valid.geneves _ (listed rfl)
    rw [List.mem_singleton.mp inside]
    exact parent found
  | gre device =>
    obtain ⟨_, _, found, _⟩ := valid.gres _ (listed rfl)
    rw [List.mem_singleton.mp inside]
    exact parent found
  | ipip device =>
    obtain ⟨_, _, found, _⟩ := valid.ipips _ (listed rfl)
    rw [List.mem_singleton.mp inside]
    exact parent found
  | macvlan device =>
    obtain ⟨_, found, _⟩ := valid.macvlans _ (listed rfl)
    rw [List.mem_singleton.mp inside]
    exact parent found
  | ipvlan device =>
    obtain ⟨_, found, _⟩ := valid.ipvlans _ (listed rfl)
    rw [List.mem_singleton.mp inside]
    exact parent found

theorem BridgeNode.references_available {node : BridgeNode} {linked : Dict String Int} (valid : node.Linked linked)
    {name : String} {device : BridgeDeviceConfig} (stored : node.devices.get? name = some device) :
    ∀ reference ∈ (compileBridgeDevice name device).references, reference ∈ node.available linked := by
  have carries := valid.overlays device (Dict.mem_values_iff.mpr ⟨name, stored⟩)
  intro reference inside
  cases device with
  | vxlan device =>
    obtain ⟨_, _, found, _⟩ := carries
    rw [List.mem_singleton.mp inside]
    exact List.mem_append_left _ (Dict.mem_keys_of_get? found)
  | geneve device =>
    obtain ⟨_, found, _⟩ := carries
    rw [List.mem_singleton.mp inside]
    exact List.mem_append_left _ (Dict.mem_keys_of_get? found)

/-- The interfaces with IGMP of an accepted node are among those with PIM. -/
theorem NodeBase.roles_of_holds {node : NodeBase} (holds : nodeBaseFields.holds node) {routing : RoutingConfig} {pim : PimConfig}
    (routes : node.routing = some routing) (given : routing.pim = some pim) :
    ∀ interface ∈ pim.igmpInterfaces, interface ∈ pim.interfaces := by
  obtain ⟨_, protocols⟩ := holds
  obtain ⟨⟨_, multicast⟩, _⟩ := protocols routing routes
  obtain ⟨_, roles⟩ := multicast pim given
  simp only [PimConfig.validateInterfaceRoles, Checks.bind_ok, Checks.raiseIf_ok, Checks.exists_unit, not_not,
    List.filter_eq_nil_iff] at roles
  intro interface member
  simpa using roles.2 interface member

/-- The bonds of a plan and their members are those declared. -/
theorem LinuxNode.plannedBonds (node : LinuxNode) :
    ((compileDevices (.linux node)).values.filterMap DevicePlan.bond?).flatMap (fun bond => bond.interfaces.map (bond.name, ·)) =
      node.bondMembers := by
  simp only [compileDevices, LinuxNode.bondMembers, LinuxNode.devicesOf, Dict.values, Dict.map, List.map_map, List.filterMap_map]
  induction node.devices.entries with
  | nil => rfl
  | cons entry entries ih =>
    obtain ⟨name, device⟩ := entry
    cases device <;> simp_all [compileLinuxDevice, compileBond, DevicePlan.bond?, LinuxDeviceConfig.bond?, Function.comp_def]

theorem BridgeNode.planned_bonds (node : BridgeNode) : (compileDevices (.bridge node)).values.filterMap DevicePlan.bond? = [] := by
  simp only [compileDevices, Dict.values, Dict.map, List.filterMap_eq_nil_iff, List.mem_map]
  rintro _ ⟨_, ⟨⟨name, device⟩, _, rfl⟩, rfl⟩
  cases device <;> rfl

end Declared

section Planned

namespace Manifest.Plans

variable {manifest : Manifest} {plan : TopologyPlan}

/-- The ends of links that lie in the namespace of a node are those that the validator counts for it. -/
theorem linkedInterfaces_eq (plans : manifest.Plans plan) {node : NodePlan} (member : node ∈ plan.nodes.values) :
    node.linkedInterfaces plan = (manifest.topology.linkedMtus node.name).keys := by
  have located : ∀ link ∈ plan.links, ∀ endpoint ∈ link.endpoints, endpoint.node = node.name ↔ endpoint.netns = node.netns := by
    intro link inside endpoint ends
    obtain ⟨other, found, listed, netns⟩ := plans.endpoint_node inside ends
    rw [netns]
    constructor
    · intro same
      rw [same, plans.found_of_mem member, Option.some.injEq] at found
      rw [found]
    · intro same
      rw [← plans.node_of_netns listed member same, (plans.name_of_found found).1]
  rw [Dict.keys, plans.linked, List.map_map, TopologyPlan.endpoints, List.filter_flatMap, List.map_flatMap,
    NodePlan.linkedInterfaces]
  refine List.flatMap_congr fun link inside => ?_
  rw [List.filter_map, List.map_map]
  have same : link.endpoints.filter (fun endpoint => endpoint.netns = node.netns) =
      link.endpoints.filter fun endpoint => endpoint.node = node.name :=
    List.filter_congr fun endpoint ends => by rw [decide_eq_decide, located link inside endpoint ends]
  rw [same]
  rfl

theorem unlinked_loopback (plans : manifest.Plans plan) (name : String) : "lo" ∉ (manifest.topology.linkedMtus name).keys := by
  intro listed
  rw [Topology.linkedMtus, Dict.ofEntries, Dict.mem_keys_update] at listed
  cases listed with
  | inl none => cases none
  | inr given =>
    rw [List.map_map] at given
    obtain ⟨entry, inside, same⟩ := List.mem_map.mp given
    exact (plans.valid.topology.endpoints entry (List.mem_filter.mp inside).1).loopback same

/-- What validation establishes of the declaration of a planned node. -/
theorem declaration (plans : manifest.Plans plan) {node : NodePlan} (member : node ∈ plan.nodes.values) :
    ∃ config routes, manifest.topology.nodes.get? node.name = some config ∧
      node = plannedNode plan.name node.name config routes ∧ nodeConfig.holds config ∧
      Topology.NodeValid (manifest.topology.linkedMtus node.name) config := by
  obtain ⟨config, routes, declared, shape, _, holds, valid⟩ := plans.node (plans.found_of_mem member)
  exact ⟨config, routes, declared, shape, holds, valid⟩

theorem interfaceNames_eq (plans : manifest.Plans plan) {node : NodePlan} (member : node ∈ plan.nodes.values)
    {config : NodeConfig} {routes : List RoutePlan} (shape : node = plannedNode plan.name node.name config routes) :
    node.interfaceNames plan = config.names (manifest.topology.linkedMtus node.name) := by
  have bridge : node.bridgeName = config.bridge?.map (·.name) := by rw [shape]; rfl
  have devices : node.devices = compileDevices config := by rw [shape]; rfl
  rw [NodePlan.interfaceNames, plans.linkedInterfaces_eq member, bridge, devices, NodeConfig.names]

/-- The interfaces expected of a node go by its names, one by one. -/
theorem keys_expectedInterfaces (plans : manifest.Plans plan) {node : NodePlan} (member : node ∈ plan.nodes.values)
    (distinct : (node.interfaceNames plan).Nodup) :
    ∃ expected, expectedInterfaces node plan = .ok expected ∧ expected.keys = node.interfaceNames plan := by
  obtain ⟨expected, told⟩ := plans.expectedInterfaces_total member
  refine ⟨expected, told, ?_⟩
  simp only [expectedInterfaces, Checks.bind_ok, Checks.pure_ok] at told
  obtain ⟨bridge, bridged, devices, carried, rfl⟩ := told
  obtain ⟨config, routes, _, shape, _⟩ := plans.declaration member
  have bridges : bridge.map Prod.fst = node.bridgeName.toList := by
    unfold expectedBridge at bridged
    split at bridged
    next other =>
      rw [← Except.ok.inj bridged]
      cases config with
      | linux config => rw [shape]; rfl
      | bridge config => exact absurd (by rw [shape]; rfl) other
    next =>
      split at bridged
      next => cases bridged
      next name own =>
        rw [← Except.ok.inj bridged, own]
        rfl
  have veths : (expectedVeths node plan).map Prod.fst = node.linkedInterfaces plan := by
    simp only [expectedVeths, List.map_flatMap, List.map_map, Function.comp_def, NodePlan.linkedInterfaces]
  have names : devices.map Prod.fst = node.devices.keys := by
    have each : ∀ {items : List (String × DevicePlan)} {entries : List (String × ExpectedInterface)},
        (∀ item ∈ items, node.devices.get? item.1 = some item.2) →
        List.Forall₂ (fun device entry => (expectedDevice node plan device).map (device.name, ·) = .ok entry) (items.map Prod.snd)
          entries → entries.map Prod.fst = items.map Prod.fst := by
      intro items entries found related
      induction items generalizing entries with
      | nil =>
        cases related
        rfl
      | cons item rest ih =>
        cases related with
        | cons first later =>
          have named := plans.device_name member (found item List.mem_cons_self)
          rw [List.map_cons, List.map_cons, ih (fun other inside => found other (List.mem_cons_of_mem _ inside)) later]
          cases read : expectedDevice node plan item.2 with
          | error issue => simp [read, Except.map] at first
          | ok interface =>
            rw [read, Except.map, Except.ok.injEq] at first
            rw [← first, named]
    exact each (fun item inside => Dict.get?_iff.mpr inside) (Checks.collect_ok.mp carried)
  have keys (loopback : ExpectedInterface) :
      (("lo", loopback) :: bridge ++ expectedVeths node plan ++ devices).map Prod.fst = node.interfaceNames plan := by
    rw [List.map_append, List.map_append, List.map_cons, bridges, veths, names, NodePlan.interfaceNames]
  rw [Dict.keys_map, Dict.keys, Dict.entries_ofEntries ((keys _).symm ▸ distinct), keys]

/-- Every name that the plan of a node mentions is the name of an interface. -/
theorem references_named (plans : manifest.Plans plan) {node : NodePlan} (member : node ∈ plan.nodes.values) :
    ∀ reference ∈ node.references, reference ∈ node.interfaceNames plan := by
  obtain ⟨config, routes, declared, shape, holds, valid⟩ := plans.declaration member
  obtain ⟨_, compiled, interfaces, devices⟩ := plans.routed member declared
  rw [plans.interfaceNames_eq member shape]
  intro reference inside
  have named {name : String} (available : name ∈ config.available (manifest.topology.linkedMtus node.name)) :=
    NodeConfig.available_names available
  simp only [NodePlan.references, List.mem_append, List.mem_flatMap] at inside
  obtain (((((own | below) | routed) | neighbor) | ruled) | port) | spoken := inside
  · rw [interfaces, Dict.keys_map] at own
    exact named (valid.uses.interfaces reference own)
  · obtain ⟨device, listed, refers⟩ := below
    obtain ⟨name, stored⟩ := Dict.mem_values_iff.mp listed
    rw [devices] at stored
    cases config with
    | linux config =>
      simp only [compileDevices, Dict.get?_map, Option.map_eq_some_iff] at stored
      obtain ⟨declared, found, rfl⟩ := stored
      exact named (LinuxNode.references_available holds valid.references found reference refers)
    | bridge config =>
      simp only [compileDevices, Dict.get?_map, Option.map_eq_some_iff] at stored
      obtain ⟨declared, found, rfl⟩ := stored
      exact named (BridgeNode.references_available valid.references found reference refers)
  · obtain ⟨route, listed, leaves⟩ := routed
    obtain ⟨source, given, planned⟩ := Checks.exists_of_mem_right compiled listed
    obtain ⟨used, told, each⟩ := valid.uses.routes source given
    rw [compileRoute_interfaces planned, Except.ok.injEq] at told
    exact named (each reference (told ▸ leaves))
  · have planned : node.neighbors = config.toNodeBase.neighbors.map compileNeighbor := by rw [shape]; rfl
    rw [planned, List.map_map] at neighbor
    obtain ⟨source, given, rfl⟩ := List.mem_map.mp neighbor
    exact named (valid.uses.neighbors source given)
  · obtain ⟨rule, listed, selects⟩ := ruled
    have planned : node.rules = compileRules config := by rw [shape]; rfl
    rw [planned] at listed
    cases config with
    | bridge config => cases listed
    | linux config =>
      obtain ⟨source, given, rfl⟩ := List.mem_map.mp listed
      have references : config.Linked _ := valid.references
      have selected := references.rules source given reference (by
        simpa [PolicyRulePlan.interfaces, compileRule] using selects)
      simp only [List.mem_append, List.mem_singleton] at selected
      obtain (available | vrf) | loopback := selected
      · exact named available
      · obtain ⟨entry, inside, rfl⟩ := List.mem_map.mp vrf
        obtain ⟨⟨name, device⟩, stored, selected⟩ := List.mem_filterMap.mp inside
        obtain ⟨_, _, rfl⟩ := Option.map_eq_some_iff.mp selected
        refine List.mem_append_right _ ?_
        rw [compileDevices, Dict.keys_map]
        exact List.mem_map_of_mem stored
      · rw [loopback]
        exact List.mem_cons_self
  · have planned : node.bridgePorts = (config.bridge?.map fun bridge => bridge.ports.map fun _ => compilePort).getD .empty := by
      rw [shape]; rfl
    rw [planned] at port
    cases config with
    | linux config => cases port
    | bridge config =>
      simp only [NodeConfig.bridge?, Option.map_some, Option.getD_some, Dict.keys_map] at port
      have references : config.Linked _ := valid.references
      apply named
      cases (references.ports reference port).2 with
      | inl linked => exact List.mem_append_left _ linked
      | inr device => exact List.mem_append_right _ (List.mem_cons_of_mem _ device)
  · have planned : node.routing = compileRouting config.toNodeBase.routing := by rw [shape]; rfl
    rw [planned] at spoken
    cases routing : config.toNodeBase.routing with
    | none =>
      rw [routing] at spoken
      cases spoken
    | some protocols =>
      rw [routing] at spoken
      have speaks := valid.speaks protocols routing
      cases config with
      | bridge config => exact speaks.elim
      | linux config =>
        have passive : ∀ ospf, protocols.ospf = some ospf → ∀ interface ∈ ospf.passiveInterfaces,
            interface ∈ config.available _ := speaks.passive
        have multicast : ∀ pim, protocols.pim = some pim → ∀ interface ∈ pim.interfaces, interface ∈ config.available _ :=
          fun pim given interface listed => (speaks.interfaces pim given interface listed).1
        simp only [compileRouting, Option.map_some, Option.getD_some, RoutingPlan.interfaces, List.mem_append] at spoken
        cases spoken with
        | inl silent =>
          cases given : protocols.ospf with
          | none => simp [given] at silent
          | some ospf =>
            rw [given] at silent
            exact named (passive ospf given reference silent)
        | inr member =>
          cases given : protocols.pim with
          | none => simp [given] at member
          | some pim =>
            rw [given] at member
            cases List.mem_append.mp member with
            | inl listed => exact named (multicast pim given reference listed)
            | inr igmp =>
              have listed := NodeBase.roles_of_holds (NodeConfig.base_of_holds holds) routing given reference igmp
              exact named (multicast pim given reference listed)

/-- An interface belongs to one bond, one VRF or the bridge at most. -/
theorem masters_single (plans : manifest.Plans plan) {node : NodePlan} (member : node ∈ plan.nodes.values) (interface : String) :
    (node.masters interface).length ≤ 1 := by
  obtain ⟨config, routes, _, shape, holds, _⟩ := plans.declaration member
  have devices : node.devices = compileDevices config := by rw [shape]; rfl
  have kind : node.kind = config.kind := by rw [shape]; rfl
  rw [NodePlan.masters, devices, kind]
  cases config with
  | bridge config =>
    rw [config.planned_bonds, config.planned_vrfs]
    split
    next => simp
    next => exact Nat.zero_le 1
  | linux config =>
    obtain ⟨_, consistent⟩ := LinuxNode.valid_of_holds holds
    have bonds := length_containing_le ((compileDevices (.linux config)).values.filterMap DevicePlan.bond?) (·.interfaces) interface
    have vrfs := length_containing_le ((compileDevices (.linux config)).values.filterMap DevicePlan.vrf?) (·.interfaces) interface
    have enslaved : ((compileDevices (.linux config)).values.filterMap DevicePlan.bond?).flatMap (·.interfaces) =
        config.bondMembers.map Prod.snd := by
      rw [← config.plannedBonds, List.map_flatMap]
      simp [Function.comp_def]
    have routed : ((compileDevices (.linux config)).values.filterMap DevicePlan.vrf?).flatMap (·.interfaces) =
        config.vrfMembers.map Prod.fst := by
      rw [← config.plannedMembers, List.map_flatMap]
      simp [Function.comp_def]
    have apart : (config.bondMembers.map Prod.snd ++ config.vrfMembers.map Prod.fst).Nodup := by
      refine List.nodup_append'.mpr ⟨consistent.bondsApart, consistent.vrfsApart, ?_⟩
      intro name bonded vrf
      obtain ⟨entry, inside, rfl⟩ := List.mem_map.mp vrf
      exact (consistent.vrfMembers entry inside).2 bonded
    have once := List.nodup_iff_count_le_one.mp apart interface
    rw [List.count_append] at once
    rw [enslaved] at bonds
    rw [routed] at vrfs
    have other : NodeConfig.kind (.linux config) ≠ .bridge := by simp [NodeConfig.kind]
    simp only [other, false_and, if_false, List.append_nil, List.length_append, List.length_map]
    omega

end Manifest.Plans

end Planned

/-- The interfaces of a node have distinct names, one expected interface each. Every name that the plan mentions is one of
them, and an interface has one master at most, the one that the planner finds. -/
theorem compilePlan_references {manifest : Manifest} {nameOverride : Option String} {plan : TopologyPlan}
    (accepted : manifest.Accepted) (compiled : compilePlan manifest nameOverride = .ok plan) {node : NodePlan}
    (member : node ∈ plan.nodes.values) :
    (node.interfaceNames plan).Nodup ∧
      (∃ expected, expectedInterfaces node plan = .ok expected ∧ expected.keys = node.interfaceNames plan) ∧
      (∀ reference ∈ node.references, reference ∈ node.interfaceNames plan) ∧
      ∀ interface, (node.masters interface).length ≤ 1 ∧ nodeInterfaceMaster node interface = (node.masters interface).head? := by
  have plans := accepted.plans compiled
  have distinct : (node.interfaceNames plan).Nodup := by
    obtain ⟨config, routes, _, shape, holds, valid⟩ := plans.declaration member
    rw [plans.interfaceNames_eq member shape]
    exact NodeConfig.names_nodup holds valid (plans.unlinked_loopback node.name)
  refine ⟨distinct, plans.keys_expectedInterfaces member distinct, plans.references_named member, ?_⟩
  intro interface
  exact ⟨plans.masters_single member interface, nodeInterfaceMaster_eq node interface⟩

section Examples

/-- A node with a VLAN, a bond and a VRF over its links, which routes and speaks OSPF through them. -/
def stackedDocument : Document :=
  .dict [("version", .int 1), ("name", .str "lab"), ("topology", .dict [
    ("nodes", .dict [
      ("r", .dict [("kind", .str "linux"),
        ("sysctls", .dict [("net.ipv4.ip_forward", .int 1)]),
        ("interfaces", .dict [("eth0", .dict [("addresses", .list [.str "10.0.0.1/24"])])]),
        ("devices", .dict [
          ("eth0.7", .dict [("type", .str "vlan"), ("link", .str "eth0"), ("id", .int 7)]),
          ("bond0", .dict [("type", .str "bond"), ("mode", .str "active-backup"),
            ("interfaces", .list [.str "eth1", .str "eth2"]), ("primary", .str "eth2")])]),
        ("routes", .list [.dict [("dst", .str "10.0.1.0/24"), ("dev", .str "bond0")]]),
        ("rules", .list [.dict [("priority", .int 100), ("table", .int 100), ("iif", .str "lo"), ("oif", .str "eth0.7")]]),
        ("routing", .dict [("ospf", .dict [("router_id", .str "10.0.0.1"), ("networks", .list [.str "10.0.0.0/24"]),
          ("passive_interfaces", .list [.str "eth0"])])])]),
      ("s", .dict [("kind", .str "linux")])]),
    ("links", .list [.dict [("endpoints", .list [.str "r:eth0", .str "s:eth0"])],
      .dict [("endpoints", .list [.str "r:eth1", .str "s:eth1"])],
      .dict [("endpoints", .list [.str "r:eth2", .str "s:eth2"])]])])]

theorem compilePlan_references_stacked : ∃ manifest plan node, validateManifest stackedDocument = .ok manifest ∧
    compilePlan manifest none = .ok plan ∧ node ∈ plan.nodes.values ∧
    node.references = ["eth0", "eth0", "eth1", "eth2", "eth2", "bond0", "lo", "eth0.7", "eth0"] ∧
    (node.interfaceNames plan).Nodup ∧ ∀ reference ∈ node.references, reference ∈ node.interfaceNames plan := by
  obtain ⟨manifest, plan, read, accepted, compiled, found⟩ := Manifest.compiled_of_test stackedDocument (by decide +kernel)
    (fun plan => plan.nodes.values.any fun node =>
      node.references = ["eth0", "eth0", "eth1", "eth2", "eth2", "bond0", "lo", "eth0.7", "eth0"]) (by decide +kernel)
  obtain ⟨node, member, references⟩ := List.any_eq_true.mp found
  obtain ⟨distinct, _, named, _⟩ := compilePlan_references accepted compiled member
  exact ⟨manifest, plan, node, read, compiled, member, of_decide_eq_true references, distinct, named⟩

end Examples

end Nslab
