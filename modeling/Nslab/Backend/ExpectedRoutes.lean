import Nslab.Backend.Inventory

/-! The tables and destinations of the routes expected of a node. The validator
and the planner each derive the table of a route from the VRFs of the node. -/

namespace Nslab

open Schema IpAddress

section Definitions

/-- What tells the routes of a node apart. -/
def RoutePlan.identity (route : RoutePlan) : Int × IPNetwork := (route.table, route.dst)

/-- The interfaces that a route leaves through. -/
def RoutePlan.interfaces (route : RoutePlan) : List String :=
  if route.nexthops ≠ [] then route.nexthops.map (·.dev) else route.dev.toList

def loopbackRoute : RoutePlan := { dst := loopbackAddress.network, via := none, dev := some "lo" }

/-- The routes to the networks of the addresses of a node. -/
def connectedRoutes (node : NodePlan) : Except PlanError (List RoutePlan) :=
  Checks.collect ((nodeInterfaceAddresses node).entries.flatMap fun (interface, addresses) =>
      addresses.map (interface, ·)) fun (interface, address) => do
    let table ← nodeInterfaceRouteTable node interface
    pure { dst := address.network, via := none, dev := some interface, table := table }

theorem expectedRoutes_eq (node : NodePlan) : expectedRoutes node = (do
    let connected ← connectedRoutes node
    pure (Dict.fromKeys (loopbackRoute :: connected ++ node.routes))) := rfl

namespace NodeConfig

/-- The tables that the validator gives to the members of VRFs. -/
def claimedTables : NodeConfig → Except Issue (Dict String Int)
  | .linux node => node.claimTables [] .empty (node.devicesOf LinuxDeviceConfig.vrf?)
  | .bridge _ => .ok .empty

/-- The networks that the validator takes for connected. -/
def connectedNetworks (node : NodeConfig) (tables : Dict String Int) : List (Int × IPNetwork) :=
  match node with
  | .linux node => node.connectedNetworks tables
  | .bridge node => node.connectedNetworks

end NodeConfig

end Definitions

section Validator

/-- Routes that go to different destinations of their tables, none of them taken before. -/
theorem validateRoutesByTable_ok {connected seen : List (Int × IPNetwork)} {tables : Dict String Int}
    {routes : List RouteConfig} : validateRoutesByTable connected tables seen routes = .ok () ↔
      ∃ identities, List.Forall₂ (fun route identity => routeTableOf route tables = .ok identity.1 ∧ identity.2 = route.dst)
        routes identities ∧ identities.Nodup ∧ ∀ identity ∈ identities, identity ∉ seen ∧ identity ∉ connected := by
  induction routes generalizing seen with
  | nil =>
    refine ⟨fun _ => ⟨[], .nil, List.nodup_nil, List.forall_mem_nil _⟩, fun _ => rfl⟩
  | cons route routes ih =>
    simp only [validateRoutesByTable, Checks.bind_ok, Checks.raiseIf_ok, Checks.exists_unit, ih]
    constructor
    · intro given
      obtain ⟨table, derived, fresh, free, identities, related, distinct, apart⟩ := given
      refine ⟨(table, route.dst) :: identities, .cons ⟨derived, rfl⟩ related, ?_, ?_⟩
      · refine List.nodup_cons.mpr ⟨fun again => (apart _ again).1 List.mem_cons_self, distinct⟩
      · intro identity member
        cases List.mem_cons.mp member with
        | inl same =>
          subst same
          exact ⟨fresh, free⟩
        | inr later => exact ⟨fun before => (apart identity later).1 (List.mem_cons_of_mem _ before), (apart identity later).2⟩
    · intro given
      obtain ⟨identities, related, distinct, apart⟩ := given
      cases related with
      | @cons _ identity _ rest first later =>
        obtain ⟨table, destination⟩ := identity
        obtain ⟨derived, same⟩ := first
        simp only at derived same
        subst same
        obtain ⟨alone, distinct⟩ := List.nodup_cons.mp distinct
        obtain ⟨fresh, free⟩ := apart _ List.mem_cons_self
        refine ⟨table, derived, fresh, free, rest, later, distinct, fun identity member => ⟨?_, ?_⟩⟩
        · intro before
          cases List.mem_cons.mp before with
          | inl same =>
            subst same
            exact alone member
          | inr before => exact (apart identity (List.mem_cons_of_mem _ member)).1 before
        · exact (apart identity (List.mem_cons_of_mem _ member)).2

namespace NodeConfig

theorem claimedTables_ok {node : NodeConfig} (holds : nodeConfig.holds node) : node.claimedTables = .ok node.tables := by
  cases node with
  | bridge node => rfl
  | linux node =>
    have valid := (LinuxNode.valid_of_holds holds).2
    refine LinuxNode.claimTables_ok.mpr ⟨valid.vrfTables, fun _ _ => List.not_mem_nil, ?_, valid.vrfsApart, rfl⟩
    intro member inside
    obtain ⟨kind, free⟩ := valid.vrfMembers member inside
    exact ⟨kind, free, List.not_mem_nil⟩

/-- The validator's check of the routes of a node. -/
theorem validatedRoutes {node : NodeConfig} (holds : nodeConfig.holds node) :
    validateRoutesByTable (node.connectedNetworks node.tables) node.tables [] node.toNodeBase.routes = .ok () := by
  cases node with
  | linux node => exact (LinuxNode.valid_of_holds holds).2.routes
  | bridge node => exact (BridgeNode.valid_of_holds holds).2.routes

end NodeConfig

end Validator

section Planner

@[simp] theorem compileNextHop_eq (hop : RouteNextHopConfig) : compileNextHop hop = ⟨hop.via, hop.dev, hop.weight⟩ := by
  obtain ⟨via, dev, weight⟩ := hop
  cases via <;> simp [compileNextHop]

/-- A compiled route is the declared one in the one table that its devices are in, or in its own. -/
theorem compileRoute_plan {tables : Dict String Int} {route : RouteConfig} {plan : RoutePlan}
    (compiled : compileRoute tables route = .ok plan) : ∃ devices inferred, routeDevices route = .ok devices ∧
      (devices.map fun interface => (tables.get? interface).getD mainRouteTable).dedup = [inferred] ∧
      plan = {
        dst := route.dst
        via := route.via
        dev := route.dev
        table := route.table.getD inferred
        nexthops := route.nexthops.map compileNextHop } := by
  have via : route.via.map ipAddress = route.via := by cases route.via <;> simp
  cases hops : route.nexthops with
  | nil =>
    cases dev : route.dev with
    | none => simp [compileRoute, hops, dev] at compiled
    | some interface =>
      simp only [compileRoute, hops, dev, List.map_nil, ne_eq, not_true_eq_false, if_false, pure_bind] at compiled
      obtain rfl := Except.ok.inj compiled
      exact ⟨[interface], _, by simp [routeDevices, hops, dev], rfl, by rw [via, ipNetwork_eq]; rfl⟩
  | cons hop rest =>
    have some : route.nexthops ≠ [] := by simp [hops]
    have planned : route.nexthops.map compileNextHop ≠ [] := by simp [hops]
    rw [compileRoute, if_pos planned, pure_bind] at compiled
    dsimp only at compiled
    split at compiled
    next inferred single =>
      obtain rfl := Except.ok.inj compiled
      exact ⟨_, inferred, by rw [routeDevices, if_pos some], single, by rw [via, ipNetwork_eq, hops]⟩
    next => cases compiled

/-- The planner gives a route the table that the validator derives. -/
theorem compileRoute_identity {tables : Dict String Int} {route : RouteConfig} {plan : RoutePlan} {table : Int}
    (compiled : compileRoute tables route = .ok plan) (derived : routeTableOf route tables = .ok table) :
    plan.identity = (table, route.dst) := by
  obtain ⟨devices, inferred, routed, single, rfl⟩ := compileRoute_plan compiled
  cases own : route.table with
  | some explicit =>
    simp only [routeTableOf, own, Except.ok.injEq] at derived
    simp [RoutePlan.identity, derived]
  | none =>
    simp only [routeTableOf, own, routed, Checks.ok_bind, single, Checks.pure_ok] at derived
    simp [RoutePlan.identity, derived]

/-- The planner and the validator see the same interfaces of a route. -/
theorem compileRoute_interfaces {tables : Dict String Int} {route : RouteConfig} {plan : RoutePlan}
    (compiled : compileRoute tables route = .ok plan) : routeDevices route = .ok plan.interfaces := by
  obtain ⟨devices, inferred, routed, _, rfl⟩ := compileRoute_plan compiled
  rw [routed, Except.ok.injEq, RoutePlan.interfaces]
  unfold routeDevices at routed
  split at routed
  next several =>
    rw [Except.ok.injEq] at routed
    rw [if_pos (by simpa using several), ← routed]
    simp [Function.comp_def]
  next single =>
    rw [if_neg (by simpa using single)]
    cases dev : route.dev with
    | none => simp [dev, refuse] at routed
    | some interface =>
      rw [dev, Except.ok.injEq] at routed
      exact routed.symm

/-- The first VRF that has an interface is the one whose table the interface is given. -/
theorem lookup_members (vrfs : List VrfDevicePlan) (interface : String) :
    (vrfs.flatMap fun vrf => vrf.interfaces.map (·, vrf.table)).lookup interface =
      (vrfs.find? fun vrf => interface ∈ vrf.interfaces).map (·.table) := by
  induction vrfs with
  | nil => rfl
  | cons vrf rest ih =>
    have own : (vrf.interfaces.map (·, vrf.table)).lookup interface =
        if interface ∈ vrf.interfaces then some vrf.table else none := by
      induction vrf.interfaces with
      | nil => rfl
      | cons first others ih =>
        rw [List.map_cons, Dict.lookup_cons_if, ih]
        by_cases same : interface = first <;> simp [same]
    rw [List.flatMap_cons, List.lookup_append, own, ih, List.find?_cons]
    by_cases inside : interface ∈ vrf.interfaces <;> simp [inside]

namespace Manifest.Plans

variable {manifest : Manifest} {plan : TopologyPlan}

/-- The backend finds the table that the validator gives to an interface. -/
theorem nodeInterfaceRouteTable_eq (plans : manifest.Plans plan) {node : NodePlan} (member : node ∈ plan.nodes.values)
    {config : NodeConfig} (holds : nodeConfig.holds config) (devices : node.devices = compileDevices config)
    (interface : String) : nodeInterfaceRouteTable node interface = .ok (config.inferredTable interface) := by
  have tables : config.tables.get? interface =
      ((node.devices.values.filterMap DevicePlan.vrf?).find? fun vrf => interface ∈ vrf.interfaces).map (·.table) := by
    rw [← lookup_members, devices]
    cases config with
    | linux config =>
      rw [config.plannedMembers]
      exact Dict.get?_ofEntries_of_nodup (LinuxNode.valid_of_holds holds).2.vrfsApart interface
    | bridge config =>
      rw [config.planned_vrfs]
      rfl
  rw [nodeInterfaceRouteTable, nodeInterfaceVrfMaster, NodeConfig.inferredTable, tables]
  cases found : (node.devices.values.filterMap DevicePlan.vrf?).find? fun vrf => interface ∈ vrf.interfaces with
  | none => rfl
  | some vrf =>
    obtain ⟨device, inside, selected⟩ := List.mem_filterMap.mp (List.mem_of_find?_eq_some found)
    obtain ⟨name, stored⟩ := Dict.mem_values_iff.mp inside
    have named : vrf.name = name := by
      rw [← plans.device_name member stored]
      cases device <;> simp_all [DevicePlan.vrf?, DevicePlan.name]
    simp only [Option.map_some, named, stored, selected, Option.getD_some]

end Manifest.Plans

end Planner

section Connected

/-- The addresses of the interfaces and of the devices of a node. -/
theorem mem_nodeInterfaceAddresses {node : NodePlan} (apart : ∀ name ∈ node.interfaces.keys, name ∉ node.devices.keys)
    {name : String} {addresses : List IPInterface} : (nodeInterfaceAddresses node).get? name = some addresses ↔
      node.interfaces.get? name = some addresses ∨ ∃ device, node.devices.get? name = some device ∧
        device.addresses? = some addresses := by
  have devices : (node.devices.entries.filterMap fun entry => entry.2.addresses?.map (entry.1, ·)) =
      (node.devices.filterMap fun _ device => device.addresses?).entries := rfl
  rw [nodeInterfaceAddresses, devices, Dict.get?_update_of_nodup (Dict.unique _)]
  change (((node.devices.filterMap fun _ device => device.addresses?).get? name).or (node.interfaces.get? name)) = _ ↔ _
  rw [Dict.get?_filterMap]
  cases stored : node.devices.get? name with
  | none => simp
  | some device =>
    have absent : node.interfaces.get? name = none := by
      rw [Dict.get?_none_iff]
      intro listed
      exact apart name listed (Dict.mem_keys_of_get? stored)
    simp [absent]

theorem addresses?_compileLinuxDevice (name : String) (device : LinuxDeviceConfig) :
    (compileLinuxDevice name device).addresses? = device.interface?.map (·.addresses) := by
  cases device <;> simp [compileLinuxDevice, DevicePlan.addresses?, LinuxDeviceConfig.interface?, compileVxlan, compileGeneve,
    compileBond]

/-- A bond is no member of a VRF. -/
theorem LinuxNode.Consistent.bond_table {node : LinuxNode} (valid : node.Consistent) {name : String} {device : LinuxDeviceConfig}
    (stored : node.devices.get? name = some device) (bond : device.bond?.isSome = true) :
    node.tablesByInterface.get? name = none := by
  rw [Dict.get?_none_iff, Dict.keys, LinuxNode.tablesByInterface, Dict.entries_ofEntries valid.vrfsApart]
  intro listed
  obtain ⟨member, inside, rfl⟩ := List.mem_map.mp listed
  have kind := (valid.vrfMembers member inside).1
  simp [stored, bond] at kind

/-- The networks that a plan connects a node to are those that the validator takes for connected. -/
theorem NodeConfig.mem_connectedNetworks {config : NodeConfig} (holds : nodeConfig.holds config) {node : NodePlan}
    (interfaces : node.interfaces = config.toNodeBase.interfaces.map fun _ => compileAddresses)
    (devices : node.devices = compileDevices config) (pair : Int × IPNetwork) :
    pair ∈ config.connectedNetworks config.tables ↔ ∃ name addresses, (nodeInterfaceAddresses node).get? name = some addresses ∧
      ∃ address ∈ addresses, pair = (config.inferredTable name, address.network) := by
  have apart : ∀ name ∈ node.interfaces.keys, name ∉ node.devices.keys := by
    intro name listed
    rw [interfaces, Dict.keys_map] at listed
    rw [devices]
    cases config with
    | linux config =>
      have free := (LinuxNode.valid_of_holds holds).2.apart name listed
      rwa [compileDevices, Dict.keys_map, ← Dict.contains_iff, Bool.not_eq_true]
    | bridge config =>
      have free := (BridgeNode.valid_of_holds holds).2.apart name listed
      rwa [compileDevices, Dict.keys_map, ← Dict.contains_iff, Bool.not_eq_true]
  have linked : ∀ name addresses, node.interfaces.get? name = some addresses ↔
      ∃ interface, config.toNodeBase.interfaces.get? name = some interface ∧ interface.addresses = addresses := by
    intro name addresses
    simp [interfaces]
  simp only [mem_nodeInterfaceAddresses apart, linked, devices]
  cases config with
  | linux config =>
    have valid := (LinuxNode.valid_of_holds holds).2
    simp only [NodeConfig.connectedNetworks, LinuxNode.connectedNetworks, List.mem_append, List.mem_flatMap, List.mem_map,
      Prod.exists, ← Dict.get?_iff, compileDevices, Dict.get?_map, Option.map_eq_some_iff, NodeConfig.inferredTable,
      NodeConfig.tables]
    constructor
    · intro declared
      cases declared with
      | inl linked =>
        obtain ⟨name, interface, found, address, listed, rfl⟩ := linked
        exact ⟨name, _, .inl ⟨interface, found, rfl⟩, address, listed, rfl⟩
      | inr carried =>
        obtain ⟨name, device, found, address, listed, rfl⟩ := carried
        unfold LinuxDeviceConfig.addresses at listed
        cases interface : device.interface? with
        | none => simp [interface] at listed
        | some own =>
          simp only [interface, Option.map_some, Option.getD_some] at listed
          refine ⟨name, own.addresses, .inr ⟨_, ⟨device, found, rfl⟩, ?_⟩, address, listed, ?_⟩
          · rw [addresses?_compileLinuxDevice, interface]
            rfl
          · split
            next bond => rw [valid.bond_table found bond]; rfl
            next => rfl
    · intro given
      obtain ⟨name, addresses, source, address, listed, same⟩ := given
      subst same
      cases source with
      | inl linked =>
        obtain ⟨interface, found, rfl⟩ := linked
        exact .inl ⟨name, interface, found, address, listed, rfl⟩
      | inr carried =>
        obtain ⟨_, ⟨device, found, rfl⟩, own⟩ := carried
        rw [addresses?_compileLinuxDevice] at own
        refine .inr ⟨name, device, found, address, ?_, ?_⟩
        · rw [LinuxDeviceConfig.addresses, own]
          exact listed
        · split
          next bond => rw [valid.bond_table found bond]; rfl
          next => rfl
  | bridge config =>
    have valid := (BridgeNode.valid_of_holds holds).2
    simp only [NodeConfig.connectedNetworks, BridgeNode.connectedNetworks, List.mem_flatMap, List.mem_map, Dict.mem_values_iff,
      compileDevices, Dict.get?_map, Option.map_eq_some_iff, NodeConfig.inferredTable, NodeConfig.tables, Dict.get?_empty,
      Option.getD_none]
    constructor
    · intro given
      obtain ⟨interface, ⟨name, found⟩, address, listed, same⟩ := given
      exact ⟨name, _, .inl ⟨interface, found, rfl⟩, address, listed, same.symm⟩
    · intro given
      obtain ⟨name, addresses, source, address, listed, same⟩ := given
      cases source with
      | inl linked =>
        obtain ⟨interface, found, rfl⟩ := linked
        exact ⟨interface, ⟨name, found⟩, address, listed, same.symm⟩
      | inr carried =>
        obtain ⟨_, ⟨device, found, rfl⟩, own⟩ := carried
        have none := valid.addressless device (Dict.mem_values_iff.mpr ⟨name, found⟩)
        have empty : addresses = [] := by
          cases device <;> simp_all [compileBridgeDevice, DevicePlan.addresses?, compileVxlan, compileGeneve, compileAddresses,
            BridgeDeviceConfig.interface]
        subst empty
        cases listed

end Connected

namespace Manifest.Plans

variable {manifest : Manifest} {plan : TopologyPlan}

theorem routed (plans : manifest.Plans plan) {node : NodePlan} (member : node ∈ plan.nodes.values) {config : NodeConfig}
    (declared : manifest.topology.nodes.get? node.name = some config) : nodeConfig.holds config ∧
      List.Forall₂ (fun route planned => compileRoute config.tables route = .ok planned) config.toNodeBase.routes node.routes ∧
      node.interfaces = (config.toNodeBase.interfaces.map fun _ => compileAddresses) ∧ node.devices = compileDevices config := by
  have related := get?_compileNodes plans.nodes node.name
  rw [declared, plans.found_of_mem member] at related
  cases related with
  | some compiled =>
    obtain ⟨routes, each, shape⟩ := compileNode_ok.mp compiled
    rw [plannedTables_compileDevices] at each
    rw [shape]
    exact ⟨(plans.valid.nodes declared).2, each, rfl, rfl⟩

/-- The declared routes go to different destinations of the tables that the validator derives. -/
theorem routes_apart (plans : manifest.Plans plan) {node : NodePlan} (member : node ∈ plan.nodes.values) {config : NodeConfig}
    (declared : manifest.topology.nodes.get? node.name = some config) :
    List.Forall₂ (fun route planned => routeTableOf route config.tables = .ok planned.table) config.toNodeBase.routes node.routes ∧
      (node.routes.map RoutePlan.identity).Nodup ∧
      ∀ route ∈ node.routes, route.identity ∉ config.connectedNetworks config.tables := by
  obtain ⟨holds, compiled, _⟩ := plans.routed member declared
  obtain ⟨identities, derived, distinct, free⟩ := validateRoutesByTable_ok.mp (NodeConfig.validatedRoutes holds)
  have same : node.routes.map RoutePlan.identity = identities ∧
      List.Forall₂ (fun route planned => routeTableOf route config.tables = .ok planned.table)
        config.toNodeBase.routes node.routes := by
    clear distinct free
    generalize config.toNodeBase.routes = routes, node.routes = planned at compiled derived
    induction compiled generalizing identities with
    | nil =>
      cases derived
      exact ⟨rfl, .nil⟩
    | @cons route planned routes rest first _ ih =>
      cases derived with
      | @cons _ identity _ others head later =>
        obtain ⟨tables, all⟩ := ih others later
        have own := compileRoute_identity first head.1
        rw [← head.2] at own
        refine ⟨by rw [List.map_cons, own, tables], .cons ?_ all⟩
        rw [head.1, ← congrArg Prod.fst own]
        rfl
  obtain ⟨rfl, tables⟩ := same
  exact ⟨tables, distinct, fun route listed => (free _ (List.mem_map_of_mem listed)).2⟩

end Manifest.Plans

/-- Declared routes have pairwise distinct tables and destinations, none of them those of a connected route. The tables are
those that the validator derives. -/
theorem expectedRoutes_identities {manifest : Manifest} {nameOverride : Option String} {plan : TopologyPlan}
    (accepted : manifest.Accepted) (compiled : compilePlan manifest nameOverride = .ok plan) {node : NodePlan}
    (member : node ∈ plan.nodes.values) :
    ∃ connected routes, connectedRoutes node = .ok connected ∧ expectedRoutes node = .ok routes ∧
      (∀ route, route ∈ routes ↔ route = loopbackRoute ∨ route ∈ connected ∨ route ∈ node.routes) ∧
      (node.routes.map RoutePlan.identity).Nodup ∧
      (∀ route ∈ node.routes, ∀ other ∈ connected, route.identity ≠ other.identity) ∧
      ∃ config tables, manifest.topology.nodes.get? node.name = some config ∧ config.claimedTables = .ok tables ∧
        List.Forall₂ (fun route planned => routeTableOf route tables = .ok planned.table) config.toNodeBase.routes node.routes ∧
        ∀ identity, identity ∈ connected.map RoutePlan.identity ↔ identity ∈ config.connectedNetworks tables := by
  have plans := accepted.plans compiled
  obtain ⟨config, _, declared, _⟩ := plans.node (plans.found_of_mem member)
  obtain ⟨holds, _, interfaces, devices⟩ := plans.routed member declared
  obtain ⟨tables, distinct, free⟩ := plans.routes_apart member declared
  have collected : connectedRoutes node = .ok (((nodeInterfaceAddresses node).entries.flatMap fun (interface, addresses) =>
      addresses.map (interface, ·)).map fun (interface, address) =>
        { dst := address.network, via := none, dev := some interface, table := config.inferredTable interface }) := by
    refine Checks.collect_map fun entry _ => ?_
    simp only [plans.nodeInterfaceRouteTable_eq member holds devices, Checks.ok_bind]
    rfl
  obtain ⟨connected, found, networks⟩ : ∃ connected, connectedRoutes node = .ok connected ∧
      ∀ identity, identity ∈ connected.map RoutePlan.identity ↔ identity ∈ config.connectedNetworks config.tables := by
    refine ⟨_, collected, fun identity => ?_⟩
    rw [NodeConfig.mem_connectedNetworks holds interfaces devices]
    simp only [List.mem_map, List.mem_flatMap, Prod.exists, Dict.get?_iff, RoutePlan.identity]
    constructor
    · intro given
      obtain ⟨_, ⟨interface, address, ⟨name, addresses, stored, _, listed, same⟩, rfl⟩, shape⟩ := given
      obtain ⟨rfl, rfl⟩ := Prod.mk.inj same
      exact ⟨name, addresses, stored, _, listed, shape.symm⟩
    · intro given
      obtain ⟨name, addresses, stored, address, listed, shape⟩ := given
      exact ⟨_, ⟨name, address, ⟨name, addresses, stored, address, listed, rfl⟩, rfl⟩, shape.symm⟩
  refine ⟨connected, _, found, by rw [expectedRoutes_eq, found, Checks.ok_bind]; rfl, fun route => ?_, distinct, ?_,
    config, config.tables, declared, NodeConfig.claimedTables_ok holds, tables, networks⟩
  · simp only [Dict.mem_fromKeys, List.mem_append, List.mem_cons, or_assoc]
  · intro route inside other listed same
    exact free route inside ((networks _).mp (same ▸ List.mem_map_of_mem listed))

section Examples

/-- A node with a VRF for one of its interfaces, and routes to one destination inside and outside of it. -/
def vrfMemberDocument : Document :=
  .dict [("version", .int 1), ("name", .str "lab"), ("topology", .dict [
    ("nodes", .dict [
      ("r", .dict [("kind", .str "linux"),
        ("interfaces", .dict [("eth0", .dict [("addresses", .list [.str "10.0.0.1/24"])])]),
        ("devices", .dict [("red", .dict [("type", .str "vrf"), ("table", .int 100), ("interfaces", .list [.str "eth0"])])]),
        ("routes", .list [
          .dict [("dst", .str "10.0.1.0/24"), ("via", .str "10.0.0.2"), ("dev", .str "eth0")],
          .dict [("dst", .str "10.0.1.0/24"), ("dev", .str "eth1")]])]),
      ("s", .dict [("kind", .str "linux")])]),
    ("links", .list [.dict [("endpoints", .list [.str "r:eth0", .str "s:eth0"])],
      .dict [("endpoints", .list [.str "r:eth1", .str "s:eth1"])]])])]

theorem expectedRoutes_identities_vrf : ∃ manifest plan node, validateManifest vrfMemberDocument = .ok manifest ∧
    compilePlan manifest none = .ok plan ∧ node ∈ plan.nodes.values ∧ node.routes.map RoutePlan.table = [100, 254] ∧
    (node.routes.map RoutePlan.identity).Nodup := by
  obtain ⟨manifest, plan, read, accepted, compiled, found⟩ := Manifest.compiled_of_test vrfMemberDocument (by decide +kernel)
    (fun plan => plan.nodes.values.any fun node => node.routes.map RoutePlan.table = [100, 254]) (by decide +kernel)
  obtain ⟨node, member, tables⟩ := List.any_eq_true.mp found
  obtain ⟨_, _, _, _, _, distinct, _⟩ := expectedRoutes_identities accepted compiled member
  exact ⟨manifest, plan, node, read, compiled, member, of_decide_eq_true tables, distinct⟩

end Examples

end Nslab
