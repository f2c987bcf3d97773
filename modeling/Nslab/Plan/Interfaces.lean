import Nslab.Plan.PlannerSafety

/-! What the interfaces of a plan take from its links and from each other: MTUs,
addresses, masters and routing tables. On a plan compiled from an accepted
manifest every interface has its MTU and its table. -/

namespace Nslab

open Schema IpAddress

section Helpers

/-- The endpoints of all planned links, with the MTU of their link. -/
def TopologyPlan.endpoints (plan : TopologyPlan) : List (EndpointPlan × Int) :=
  plan.links.flatMap fun link => link.endpoints.map fun endpoint => (endpoint, link.mtu)

/-- The common MTU of the links below a bond. -/
def bondDeviceMtu (node : NodePlan) (plan : TopologyPlan) (device : BondDevicePlan) : Except PlanError Int :=
  let mtus := (plan.endpoints.filter fun (endpoint, _) =>
    endpoint.node = node.name ∧ endpoint.interface ∈ device.interfaces).map Prod.snd
  match mtus.dedup with
  | [mtu] => .ok mtu
  | _ => .error (.valueError ("bond members do not have one planned MTU: " ++ node.name ++ ":" ++ device.name))

/-- The MTU of the first link at an interface. -/
def plannedMtu (node : NodePlan) (plan : TopologyPlan) (interface : String) : Option Int :=
  (plan.endpoints.find? fun (endpoint, _) => endpoint.node = node.name ∧ endpoint.interface = interface).map Prod.snd

def vxlanDeviceMtu (node : NodePlan) (plan : TopologyPlan) (device : VxlanDevicePlan) : Except PlanError Int :=
  match device.mtu with
  | some mtu => .ok mtu
  | none => match plannedMtu node plan device.link with
    | none => .error (.valueError ("VXLAN underlay is not planned: " ++ node.name ++ ":" ++ device.link))
    | some underlay => .ok (underlay - overlayOverhead device.localAddress)

def parentDeviceMtu (node : NodePlan) (plan : TopologyPlan) (interface : String) : Except PlanError Int :=
  match plannedMtu node plan interface with
  | none => .error (.valueError ("device parent is not planned: " ++ node.name ++ ":" ++ interface))
  | some mtu => .ok mtu

def dummyDeviceMtu (device : DummyDevicePlan) : Int := device.mtu.getD 1500

def geneveDeviceMtu (node : NodePlan) (plan : TopologyPlan) (device : GeneveDevicePlan) : Except PlanError Int :=
  match device.mtu with
  | some mtu => .ok mtu
  | none => do
    let underlay ← parentDeviceMtu node plan device.link
    pure (underlay - overlayOverhead device.remote)

def greDeviceMtu (node : NodePlan) (plan : TopologyPlan) (device : GreDevicePlan) : Except PlanError Int :=
  match device.mtu with
  | some mtu => .ok mtu
  | none => do
    let overhead := 24 + if device.key.isSome then 4 else 0
    let underlay ← parentDeviceMtu node plan device.link
    pure (underlay - overhead)

def ipipDeviceMtu (node : NodePlan) (plan : TopologyPlan) (device : IpipDevicePlan) : Except PlanError Int :=
  match device.mtu with
  | some mtu => .ok mtu
  | none => do
    let underlay ← parentDeviceMtu node plan device.link
    pure (underlay - 20)

def macvlanDeviceMtu (node : NodePlan) (plan : TopologyPlan) (device : MacvlanDevicePlan) : Except PlanError Int :=
  match device.mtu with
  | some mtu => .ok mtu
  | none => parentDeviceMtu node plan device.link

def ipvlanDeviceMtu (node : NodePlan) (plan : TopologyPlan) (device : IpvlanDevicePlan) : Except PlanError Int :=
  match device.mtu with
  | some mtu => .ok mtu
  | none => parentDeviceMtu node plan device.link

/-- The addresses of linked interfaces and of devices. -/
def nodeInterfaceAddresses (node : NodePlan) : Dict String (List IPInterface) :=
  node.interfaces.update (node.devices.entries.filterMap fun (name, device) => device.addresses?.map (name, ·))

/-- The VRF that an interface belongs to. -/
def nodeInterfaceVrfMaster (node : NodePlan) (interface : String) : Option String :=
  ((node.devices.values.filterMap DevicePlan.vrf?).find? fun device => interface ∈ device.interfaces).map (·.name)

/-- The bond, VRF or bridge that an interface belongs to. The underlay of an overlay device is no bridge port. -/
def nodeInterfaceMaster (node : NodePlan) (interface : String) : Option String :=
  match (node.devices.values.filterMap DevicePlan.bond?).find? fun device => interface ∈ device.interfaces with
  | some bond => some bond.name
  | none => match nodeInterfaceVrfMaster node interface with
    | some vrf => some vrf
    | none =>
      if node.kind ≠ .bridge then none
      else if some interface = node.bridgeName then none
      else if interface ∈ node.devices.values.filterMap DevicePlan.underlay? then none
      else node.bridgeName

/-- The routing table that the VRF of an interface selects. -/
def nodeInterfaceRouteTable (node : NodePlan) (interface : String) : Except PlanError Int :=
  match nodeInterfaceVrfMaster node interface with
  | none => .ok mainRouteTable
  | some master => match node.devices.get? master with
    | none => .error (.keyError master)
    | some device => match device.vrf? with
      | none => .error .assertionError
      | some vrf => .ok vrf.table

end Helpers

section Compiled

/-- A plan compiled from an accepted manifest. -/
structure Manifest.Plans (manifest : Manifest) (plan : TopologyPlan) : Prop where
  valid : manifest.Valid
  name : isName plan.name = true
  fingerprint : plan.fingerprint = manifestFingerprint manifest
  nodes : compileNodes plan.name manifest.topology.nodes = .ok plan.nodes
  links : List.Forall₂ (fun entry link => compileLink plan.name plan.nodes entry = .ok link)
    manifest.topology.links.zipIdx plan.links

theorem Manifest.Accepted.plans {manifest : Manifest} {nameOverride : Option String} {plan : TopologyPlan}
    (accepted : manifest.Accepted) (compiled : compilePlan manifest nameOverride = .ok plan) : manifest.Plans plan := by
  simp only [compilePlan, Checks.bind_ok, Checks.pure_ok, Checks.collect_ok] at compiled
  obtain ⟨deployment, effective, nodes, compiledNodes, links, compiledLinks, rfl⟩ := compiled
  refine ⟨accepted.valid, ?_, rfl, compiledNodes, compiledLinks⟩
  unfold effectiveDeploymentName at effective
  split at effective
  next =>
    obtain rfl := Except.ok.inj effective
    exact accepted.valid.name
  next name =>
    split at effective
    next named =>
      obtain rfl := Except.ok.inj effective
      exact named
    next => cases effective

/-- A plan obtained by evaluating the validator and the planner, with a property that evaluates to true. -/
theorem Manifest.compiled_of_test (document : Document) (plain : document.plain = true) (test : TopologyPlan → Bool)
    (passes : (validateManifest document).toOption.any (fun manifest => (compilePlan manifest none).toOption.any test) = true) :
    ∃ manifest plan, validateManifest document = .ok manifest ∧ manifest.Accepted ∧
      compilePlan manifest none = .ok plan ∧ test plan = true := by
  obtain ⟨manifest, read, accepted, compiles⟩ := Manifest.accepted_of_test document plain _ passes
  cases compiled : compilePlan manifest none with
  | error issue => simp [compiled, Except.toOption] at compiles
  | ok plan => exact ⟨manifest, plan, read, accepted, compiled, by simpa [compiled, Except.toOption] using compiles⟩

/-- A plan under its own name is the result of compiling with that name. -/
theorem Manifest.Plans.compiled {manifest : Manifest} {plan : TopologyPlan} (plans : manifest.Plans plan) :
    compilePlan manifest (some plan.name) = .ok plan := by
  simp only [compilePlan, effectiveDeploymentName, plans.name, if_true, Checks.bind_ok, Checks.pure_ok, Except.ok.injEq,
    exists_eq_left']
  exact ⟨plan.nodes, plans.nodes, plan.links, Checks.collect_ok.mpr plans.links, by rw [← plans.fingerprint]⟩

namespace Manifest.Plans

variable {manifest : Manifest} {plan : TopologyPlan}

/-- Where a planned node comes from. -/
theorem node (plans : manifest.Plans plan) {name : String} {node : NodePlan} (found : plan.nodes.get? name = some node) :
    ∃ config routes, manifest.topology.nodes.get? name = some config ∧
      node = plannedNode plan.name name config routes ∧ isName name = true ∧ nodeConfig.holds config ∧
      Topology.NodeValid (manifest.topology.linkedMtus name) config := by
  have related := get?_compileNodes plans.nodes name
  rw [found] at related
  cases declared : manifest.topology.nodes.get? name with
  | none =>
    rw [declared] at related
    cases related
  | some config =>
    rw [declared] at related
    cases related with
    | some compiled =>
      obtain ⟨routes, _, rfl⟩ := compileNode_ok.mp compiled
      obtain ⟨named, holds⟩ := plans.valid.nodes declared
      exact ⟨config, routes, rfl, rfl, named, holds, plans.valid.topology.nodes _ (Dict.get?_iff.mp declared)⟩

/-- A declared node is planned. -/
theorem found_of_declared (plans : manifest.Plans plan) {name : String} {config : NodeConfig}
    (declared : manifest.topology.nodes.get? name = some config) : ∃ node, plan.nodes.get? name = some node := by
  have related := get?_compileNodes plans.nodes name
  rw [declared] at related
  cases found : plan.nodes.get? name with
  | some node => exact ⟨node, rfl⟩
  | none =>
    rw [found] at related
    cases related

theorem name_of_found (plans : manifest.Plans plan) {name : String} {node : NodePlan}
    (found : plan.nodes.get? name = some node) : node.name = name ∧ node.netns = namespaceName plan.name name := by
  obtain ⟨_, _, _, rfl, _⟩ := plans.node found
  exact ⟨rfl, rfl⟩

theorem found_of_mem (plans : manifest.Plans plan) {node : NodePlan} (member : node ∈ plan.nodes.values) :
    plan.nodes.get? node.name = some node := by
  obtain ⟨name, found⟩ := Dict.mem_values_iff.mp member
  rwa [(plans.name_of_found found).1]

/-- Nodes are told apart by their namespaces. -/
theorem node_of_netns (plans : manifest.Plans plan) {left right : NodePlan} (inLeft : left ∈ plan.nodes.values)
    (inRight : right ∈ plan.nodes.values) (same : left.netns = right.netns) : left = right := by
  have leftFound := plans.found_of_mem inLeft
  have rightFound := plans.found_of_mem inRight
  rw [(plans.name_of_found leftFound).2, (plans.name_of_found rightFound).2] at same
  rw [namespaceName_injective same, rightFound] at leftFound
  exact (Option.some.inj leftFound).symm

/-- A planned link comes from a declared one. -/
theorem link (plans : manifest.Plans plan) {link : LinkPlan} (member : link ∈ plan.links) :
    ∃ config ∈ manifest.topology.links, compileLink plan.name plan.nodes (config, link.index) = .ok link := by
  obtain ⟨⟨config, index⟩, inside, compiled⟩ := Checks.exists_of_mem_right plans.links member
  have same : link.index = index := by
    obtain ⟨_, _, _, _, rfl⟩ := compileLink_ok.mp compiled
    rfl
  exact ⟨config, List.fst_mem_of_mem_zipIdx inside, same ▸ compiled⟩

/-- The endpoints of a plan, in terms of the endpoints declared. -/
theorem endpoints (plans : manifest.Plans plan) :
    plan.endpoints.map (fun entry => (entry.1.node, entry.1.interface, entry.2)) =
      manifest.topology.endpoints.map fun entry => (endpointNode entry.1, endpointInterface entry.1, entry.2) := by
  have links : ∀ {entries : List (LinkConfig × Nat)} {links : List LinkPlan},
      List.Forall₂ (fun entry link => compileLink plan.name plan.nodes entry = .ok link) entries links →
      (links.flatMap fun link => link.endpoints.map fun endpoint => (endpoint.node, endpoint.interface, link.mtu)) =
        (entries.map Prod.fst).flatMap fun config =>
          [(endpointNode config.endpoints.1, endpointInterface config.endpoints.1, config.mtu),
            (endpointNode config.endpoints.2, endpointInterface config.endpoints.2, config.mtu)] := by
    intro entries links compiled
    induction compiled with
    | nil => rfl
    | @cons entry link _ _ head _ ih =>
      obtain ⟨config, index⟩ := entry
      obtain ⟨left, right, first, second, rfl⟩ := compileLink_ok.mp head
      obtain ⟨_, _, _, rfl⟩ := compileEndpoint_ok.mp first
      obtain ⟨_, _, _, rfl⟩ := compileEndpoint_ok.mp second
      simp only [List.flatMap_cons, List.map_cons, ih]
      rfl
  have all := links plans.links
  rw [List.zipIdx_map_fst] at all
  simpa only [TopologyPlan.endpoints, Topology.endpoints, List.map_flatMap, List.map_map, List.map_cons, List.map_nil,
    Function.comp_def] using all

/-- The two parts of a declared endpoint tell it. -/
theorem endpoint_injective (plans : manifest.Plans plan) {left right : String × Int}
    (inLeft : left ∈ manifest.topology.endpoints) (inRight : right ∈ manifest.topology.endpoints)
    (node : endpointNode left.1 = endpointNode right.1) (interface : endpointInterface left.1 = endpointInterface right.1) :
    left = right := by
  have valid := plans.valid.topology
  refine List.inj_on_of_nodup_map valid.apart inLeft inRight (String.toList_inj.mp ?_)
  rw [(Text.partition_spec (valid.endpoints left inLeft).separated).1,
    (Text.partition_spec (valid.endpoints right inRight).separated).1]
  unfold endpointInterface at interface
  unfold endpointNode at node
  rw [node, interface]

/-- The endpoints of a plan lie in the namespaces of their nodes. -/
theorem endpoint_node (plans : manifest.Plans plan) {link : LinkPlan} (member : link ∈ plan.links) {endpoint : EndpointPlan}
    (inside : endpoint ∈ link.endpoints) :
    ∃ node, plan.nodes.get? endpoint.node = some node ∧ node ∈ plan.nodes.values ∧ endpoint.netns = node.netns := by
  obtain ⟨config, _, compiled⟩ := plans.link member
  obtain ⟨left, right, first, second, shape⟩ := compileLink_ok.mp compiled
  obtain ⟨_, leftNode, leftFound, rfl⟩ := compileEndpoint_ok.mp first
  obtain ⟨_, rightNode, rightFound, rfl⟩ := compileEndpoint_ok.mp second
  rw [shape] at inside
  simp only [LinkPlan.endpoints, List.mem_cons, List.not_mem_nil, or_false] at inside
  cases inside with
  | inl same =>
    subst same
    exact ⟨leftNode, leftFound, Dict.mem_values_iff.mpr ⟨_, leftFound⟩, rfl⟩
  | inr same =>
    subst same
    exact ⟨rightNode, rightFound, Dict.mem_values_iff.mpr ⟨_, rightFound⟩, rfl⟩

/-- No interface is an endpoint twice. -/
theorem apart (plans : manifest.Plans plan) :
    (plan.endpoints.map fun entry => (entry.1.node, entry.1.interface)).Nodup := by
  have distinct : (manifest.topology.endpoints.map fun entry => (endpointNode entry.1, endpointInterface entry.1)).Nodup := by
    refine (plans.valid.topology.apart.of_map _).map_on fun left inLeft right inRight same => ?_
    obtain ⟨node, interface⟩ := Prod.mk.inj same
    exact plans.endpoint_injective inLeft inRight node interface
  have pairs := congrArg (List.map fun entry => (entry.1, entry.2.1)) plans.endpoints
  simp only [List.map_map, Function.comp_def] at pairs
  rwa [pairs]

/-- The linked interfaces of a node, with their MTUs. -/
theorem linked (plans : manifest.Plans plan) (name : String) :
    (manifest.topology.linkedMtus name).entries =
      (plan.endpoints.filter (·.1.node = name)).map fun entry => (entry.1.interface, entry.2) := by
  have distinct : (((manifest.topology.endpoints.filter fun entry => endpointNode entry.1 = name).map fun entry =>
      (endpointInterface entry.1, entry.2)).map Prod.fst).Nodup := by
    rw [List.map_map]
    refine ((plans.valid.topology.apart.of_map _).filter _).map_on ?_
    simp only [List.mem_filter, decide_eq_true_eq, Function.comp_apply]
    rintro left ⟨inLeft, leftNode⟩ right ⟨inRight, rightNode⟩ same
    exact plans.endpoint_injective inLeft inRight (leftNode.trans rightNode.symm) same
  have planned := congrArg (fun entries => (entries.filter fun entry : String × String × Int => entry.1 = name).map Prod.snd)
    plans.endpoints
  rw [Topology.linkedMtus, Dict.entries_ofEntries distinct]
  simpa only [List.filter_map, List.map_map, Function.comp_def] using planned.symm

/-- The planner finds the MTU that the validator knows of a linked interface. -/
theorem plannedMtu_eq (plans : manifest.Plans plan) (node : NodePlan) (interface : String) :
    plannedMtu node plan interface = (manifest.topology.linkedMtus node.name).get? interface := by
  rw [Dict.get?, plans.linked, plannedMtu]
  induction plan.endpoints with
  | nil => rfl
  | cons entry rest ih =>
    by_cases own : entry.1.node = node.name
    · by_cases same : interface = entry.1.interface
      · simp [own, same, Dict.lookup_cons_if]
      · simpa [own, same, Ne.symm same, Dict.lookup_cons_if] using ih
    · simpa [own] using ih

/-- The MTUs below a bond are those the validator knows of its members. -/
theorem mem_memberMtus (plans : manifest.Plans plan) (node : NodePlan) (interfaces : List String) (mtu : Int) :
    mtu ∈ ((plan.endpoints.filter fun (endpoint, _) =>
      endpoint.node = node.name ∧ endpoint.interface ∈ interfaces).map Prod.snd).dedup ↔
      ∃ interface ∈ interfaces, (manifest.topology.linkedMtus node.name).get? interface = some mtu := by
  simp only [List.mem_dedup, Dict.get?_iff, plans.linked, List.mem_map, List.mem_filter, decide_eq_true_eq, Prod.mk.injEq]
  constructor
  · rintro ⟨entry, ⟨inside, own, member⟩, rfl⟩
    exact ⟨_, member, entry, ⟨inside, own⟩, rfl, rfl⟩
  · rintro ⟨interface, member, entry, ⟨inside, own⟩, rfl, rfl⟩
    exact ⟨entry, ⟨inside, own, member⟩, rfl⟩

/-- Bond members that share the MTU the validator knows share the one the planner finds. -/
theorem bondDeviceMtu_total (plans : manifest.Plans plan) (node : NodePlan) (device : BondDevicePlan)
    (common : (device.interfaces.filterMap (manifest.topology.linkedMtus node.name).get?).dedup.length = 1) :
    ∃ mtu, bondDeviceMtu node plan device = .ok mtu := by
  obtain ⟨mtu, single⟩ := List.length_eq_one_iff.mp common
  have perm := (List.perm_ext_iff_of_nodup (List.nodup_dedup _) (List.nodup_dedup _)).mpr fun mtu =>
    (plans.mem_memberMtus node device.interfaces mtu).trans (List.mem_dedup.trans List.mem_filterMap).symm
  rw [single, List.perm_singleton] at perm
  exact ⟨mtu, by simp only [bondDeviceMtu, perm]⟩

/-- The MTU of a bond is that of each of its members, of which there is one. -/
theorem bondDeviceMtu_ok (plans : manifest.Plans plan) (node : NodePlan) (device : BondDevicePlan) {mtu : Int}
    (planned : bondDeviceMtu node plan device = .ok mtu) (other : Int) :
    (∃ interface ∈ device.interfaces, (manifest.topology.linkedMtus node.name).get? interface = some other) ↔ other = mtu := by
  rw [← plans.mem_memberMtus]
  simp only [bondDeviceMtu] at planned
  split at planned
  next common single =>
    obtain rfl := Except.ok.inj planned
    rw [single, List.mem_singleton]
  next => cases planned

end Manifest.Plans

/-- A device whose members or underlay are planned. -/
def DevicePlan.Supported (node : NodePlan) (plan : TopologyPlan) : DevicePlan → Prop
  | .bond device => ∃ mtu, bondDeviceMtu node plan device = .ok mtu
  | .vxlan device => ∃ mtu, plannedMtu node plan device.link = some mtu
  | .geneve device => ∃ mtu, plannedMtu node plan device.link = some mtu
  | .gre device => ∃ mtu, plannedMtu node plan device.link = some mtu
  | .ipip device => ∃ mtu, plannedMtu node plan device.link = some mtu
  | .macvlan device => ∃ mtu, plannedMtu node plan device.link = some mtu
  | .ipvlan device => ∃ mtu, plannedMtu node plan device.link = some mtu
  | .vlan _ | .vrf _ | .dummy _ => True

namespace Manifest.Plans

variable {manifest : Manifest} {plan : TopologyPlan}

/-- The devices of a planned node go by the names they are planned under. -/
theorem device_name (plans : manifest.Plans plan) {node : NodePlan} (member : node ∈ plan.nodes.values) {name : String}
    {device : DevicePlan} (found : node.devices.get? name = some device) : device.name = name := by
  obtain ⟨config, routes, _, shape, _⟩ := plans.node (plans.found_of_mem member)
  rw [shape] at found
  cases config with
  | linux config =>
    simp only [plannedNode, compileDevices, Dict.get?_map, Option.map_eq_some_iff] at found
    obtain ⟨declared, _, rfl⟩ := found
    cases declared <;> rfl
  | bridge config =>
    simp only [plannedNode, compileDevices, Dict.get?_map, Option.map_eq_some_iff] at found
    obtain ⟨declared, _, rfl⟩ := found
    cases declared <;> rfl

/-- The devices of a planned node stand on planned links. -/
theorem supported (plans : manifest.Plans plan) {node : NodePlan} (member : node ∈ plan.nodes.values) :
    ∀ device ∈ node.devices.values, device.Supported node plan := by
  intro device inside
  obtain ⟨name, found⟩ := Dict.mem_values_iff.mp inside
  obtain ⟨config, routes, _, shape, _, _, valid⟩ := plans.node (plans.found_of_mem member)
  have mtus := plans.plannedMtu_eq node
  have bonds := plans.bondDeviceMtu_total node
  generalize manifest.topology.linkedMtus node.name = linked at valid mtus bonds
  rw [shape] at found
  cases config with
  | linux config =>
    simp only [plannedNode, compileDevices, Dict.get?_map, Option.map_eq_some_iff] at found
    obtain ⟨declared, stored, rfl⟩ := found
    have listed {α : Type} {select : LinuxDeviceConfig → Option α} {selected : α} (selects : select declared = some selected) :
        (name, selected) ∈ config.devicesOf select :=
      List.mem_filterMap.mpr ⟨(name, declared), Dict.get?_iff.mp stored, by simp [selects]⟩
    have references : config.Linked linked := valid.references
    cases declared with
    | vlan | vrf | dummy => trivial
    | bond bond => exact bonds _ (references.bonds _ (listed rfl)).2
    | vxlan vxlan =>
      obtain ⟨_, parent, parentOf, _⟩ := references.vxlans _ (listed rfl)
      exact ⟨parent, (mtus _).trans parentOf⟩
    | geneve geneve =>
      obtain ⟨parent, parentOf, _⟩ := references.geneves _ (listed rfl)
      exact ⟨parent, (mtus _).trans parentOf⟩
    | gre gre =>
      obtain ⟨_, parent, parentOf, _⟩ := references.gres _ (listed rfl)
      exact ⟨parent, (mtus _).trans parentOf⟩
    | ipip ipip =>
      obtain ⟨_, parent, parentOf, _⟩ := references.ipips _ (listed rfl)
      exact ⟨parent, (mtus _).trans parentOf⟩
    | macvlan macvlan =>
      obtain ⟨parent, parentOf, _⟩ := references.macvlans _ (listed rfl)
      exact ⟨parent, (mtus _).trans parentOf⟩
    | ipvlan ipvlan =>
      obtain ⟨parent, parentOf, _⟩ := references.ipvlans _ (listed rfl)
      exact ⟨parent, (mtus _).trans parentOf⟩
  | bridge config =>
    simp only [plannedNode, compileDevices, Dict.get?_map, Option.map_eq_some_iff] at found
    obtain ⟨declared, stored, rfl⟩ := found
    have references : config.Linked linked := valid.references
    have carries := references.overlays declared (Dict.mem_values_iff.mpr ⟨name, stored⟩)
    cases declared with
    | vxlan vxlan =>
      obtain ⟨_, parent, parentOf, _⟩ := carries
      exact ⟨parent, (mtus _).trans parentOf⟩
    | geneve geneve =>
      obtain ⟨parent, parentOf, _⟩ := carries
      exact ⟨parent, (mtus _).trans parentOf⟩

/-- Every interface of a planned node has a routing table. -/
theorem nodeInterfaceRouteTable_total (plans : manifest.Plans plan) {node : NodePlan} (member : node ∈ plan.nodes.values)
    (interface : String) : ∃ table, nodeInterfaceRouteTable node interface = .ok table := by
  unfold nodeInterfaceRouteTable
  cases master : nodeInterfaceVrfMaster node interface with
  | none => exact ⟨_, rfl⟩
  | some name =>
    simp only [nodeInterfaceVrfMaster, Option.map_eq_some_iff] at master
    obtain ⟨vrf, found, rfl⟩ := master
    obtain ⟨device, inside, selected⟩ := List.mem_filterMap.mp (List.mem_of_find?_eq_some found)
    obtain ⟨key, stored⟩ := Dict.mem_values_iff.mp inside
    have named : device.name = vrf.name := by
      cases device <;> simp_all [DevicePlan.vrf?, DevicePlan.name]
    rw [← named, plans.device_name member stored]
    simp only [stored, selected]
    exact ⟨_, rfl⟩

end Manifest.Plans

end Compiled

end Nslab
