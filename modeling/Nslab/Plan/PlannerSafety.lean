import Mathlib.Data.List.Dedup
import Nslab.Manifest.Accepted
import Nslab.Plan.Planner

/-! When the planner succeeds. It relies on what the validator establishes, except
for routes that name their table: these the validator does not check for the one
table that the planner infers. -/

namespace Nslab

open Schema IpAddress

section Steps

variable {deployment : String}

theorem compileNode_ok {name : String} {config : NodeConfig} {node : NodePlan} :
    compileNode deployment name config = .ok node ↔
      ∃ routes, List.Forall₂ (fun route plan => compileRoute (plannedTables (compileDevices config)) route = .ok plan)
        config.toNodeBase.routes routes ∧ node = plannedNode deployment name config routes := by
  simp only [compileNode, Checks.bind_ok, Checks.collect_ok, Checks.pure_ok, eq_comm (b := node)]

/-- Nodes are compiled one by one, in order. -/
theorem compileNodes_ok {configs : Dict String NodeConfig} {nodes : Dict String NodePlan} :
    compileNodes deployment configs = .ok nodes ↔
      List.Forall₂ (fun config node => config.1 = node.1 ∧ compileNode deployment config.1 config.2 = .ok node.2)
        configs.entries nodes.entries := by
  have step : ∀ (entry : String × NodeConfig) (plan : String × NodePlan),
      (compileNode deployment entry.1 entry.2).map (entry.1, ·) = .ok plan ↔
        entry.1 = plan.1 ∧ compileNode deployment entry.1 entry.2 = .ok plan.2 := by
    rintro ⟨name, config⟩ ⟨other, plan⟩
    cases compileNode deployment name config <;> simp [Except.map]
  simp only [compileNodes, Checks.bind_ok, Checks.collect_ok, Checks.pure_ok, step]
  constructor
  · rintro ⟨plans, compiled, rfl⟩
    rwa [Dict.entries_ofEntries (Dict.map_fst_of_forall₂ (compiled.imp fun _ _ facts => facts.1) ▸ configs.unique)]
  · intro compiled
    exact ⟨nodes.entries, compiled, Dict.ext (Dict.entries_ofEntries nodes.unique)⟩

theorem keys_compileNodes {configs : Dict String NodeConfig} {nodes : Dict String NodePlan}
    (compiled : compileNodes deployment configs = .ok nodes) : nodes.keys = configs.keys :=
  (Dict.map_fst_of_forall₂ ((compileNodes_ok.mp compiled).imp fun _ _ facts => facts.1)).symm

theorem get?_compileNodes {configs : Dict String NodeConfig} {nodes : Dict String NodePlan}
    (compiled : compileNodes deployment configs = .ok nodes) (name : String) :
    Option.Rel (fun config node => compileNode deployment name config = .ok node) (configs.get? name) (nodes.get? name) :=
  Dict.rel_get?_of_forall₂ (fun name config node => compileNode deployment name config = .ok node)
    (compileNodes_ok.mp compiled) name

theorem compileNodes_total {configs : Dict String NodeConfig} : (∃ nodes, compileNodes deployment configs = .ok nodes) ↔
    ∀ entry ∈ configs.entries, ∃ node, compileNode deployment entry.1 entry.2 = .ok node := by
  have each : ∀ entry ∈ configs.entries, (∃ node, compileNode deployment entry.1 entry.2 = .ok node) ↔
      ∃ plan, (compileNode deployment entry.1 entry.2).map (entry.1, ·) = .ok plan := by
    intro entry _
    cases compileNode deployment entry.1 entry.2 <;> simp [Except.map]
  rw [forall₂_congr each, ← Checks.collect_total]
  simp only [compileNodes, Checks.bind_ok, Checks.pure_ok]
  constructor
  · intro found
    obtain ⟨_, compiled, collected, _⟩ := found
    exact ⟨compiled, collected⟩
  · intro found
    obtain ⟨compiled, collected⟩ := found
    exact ⟨_, compiled, collected, rfl⟩

theorem compileLink_ok {nodes : Dict String NodePlan} {config : LinkConfig} {index : Nat} {link : LinkPlan} :
    compileLink deployment nodes (config, index) = .ok link ↔
      ∃ left right, compileEndpoint config.endpoints.1 (temporaryVethNames deployment index).1 nodes = .ok left ∧
        compileEndpoint config.endpoints.2 (temporaryVethNames deployment index).2 nodes = .ok right ∧
        link = ⟨index, config.kind, left, right, config.mtu, config.netem.map compileNetem, config.qdisc.map compileQdisc⟩ := by
  simp only [compileLink, Checks.bind_ok, Checks.pure_ok, eq_comm (b := link)]
  constructor
  · rintro ⟨left, compiledLeft, right, compiledRight, same⟩
    exact ⟨left, right, compiledLeft, compiledRight, same⟩
  · rintro ⟨left, right, compiledLeft, compiledRight, same⟩
    exact ⟨left, compiledLeft, right, compiledRight, same⟩

theorem compileEndpoint_ok {nodes : Dict String NodePlan} {endpoint temporaryName : String} {plan : EndpointPlan} :
    compileEndpoint endpoint temporaryName nodes = .ok plan ↔ (Text.partition ':' endpoint).2.1 = true ∧
      ∃ node, nodes.get? (endpointNode endpoint) = some node ∧
        plan = ⟨endpointNode endpoint, endpointInterface endpoint, node.netns, temporaryName⟩ := by
  unfold compileEndpoint endpointNode endpointInterface
  cases separated : (Text.partition ':' endpoint).2.1 with
  | false => simp [separated]
  | true =>
    cases found : nodes.get? (Text.partition ':' endpoint).1 with
    | none => simp [separated, found]
    | some node =>
      simp only [separated, found, Bool.true_eq_false, if_false, true_and, Option.some.injEq, exists_eq_left']
      exact Checks.pure_ok.trans eq_comm

end Steps

/-- The tables that the members of VRFs belong to. -/
def NodeConfig.tables : NodeConfig → Dict String Int
  | .linux node => node.tablesByInterface
  | .bridge _ => .empty

/-- The table that the planner infers for an interface. -/
def NodeConfig.inferredTable (node : NodeConfig) (interface : String) : Int :=
  (node.tables.get? interface).getD mainRouteTable

/-- The members of the VRFs of a plan are those declared. -/
theorem LinuxNode.plannedMembers (node : LinuxNode) :
    ((compileDevices (.linux node)).values.filterMap DevicePlan.vrf?).flatMap (fun vrf => vrf.interfaces.map (·, vrf.table)) =
      node.vrfMembers := by
  simp only [compileDevices, LinuxNode.vrfMembers, LinuxNode.devicesOf, Dict.values, Dict.map, List.map_map, List.filterMap_map]
  induction node.devices.entries with
  | nil => rfl
  | cons entry entries ih =>
    obtain ⟨name, device⟩ := entry
    cases device <;> simp_all [compileLinuxDevice, DevicePlan.vrf?, LinuxDeviceConfig.vrf?, Function.comp_def]

theorem BridgeNode.planned_vrfs (node : BridgeNode) : (compileDevices (.bridge node)).values.filterMap DevicePlan.vrf? = [] := by
  simp only [compileDevices, Dict.values, Dict.map, List.filterMap_eq_nil_iff, List.mem_map]
  rintro _ ⟨_, ⟨⟨name, device⟩, _, rfl⟩, rfl⟩
  cases device <;> rfl

theorem plannedTables_compileDevices (node : NodeConfig) : plannedTables (compileDevices node) = node.tables := by
  cases node with
  | linux node => rw [plannedTables, node.plannedMembers, NodeConfig.tables, LinuxNode.tablesByInterface]
  | bridge node => rw [plannedTables, node.planned_vrfs, NodeConfig.tables]; rfl

/-- All nexthops of a route leave through interfaces of one table. -/
def RouteConfig.OneTable (node : NodeConfig) (route : RouteConfig) : Prop :=
  ∀ first ∈ route.nexthops, ∀ second ∈ route.nexthops, node.inferredTable first.dev = node.inferredTable second.dev

/-- The planner infers one table for each route that names a table of its own. -/
def Manifest.OneTablePerRoute (manifest : Manifest) : Prop :=
  ∀ node ∈ manifest.topology.nodes.values, ∀ route ∈ node.toNodeBase.routes, route.table.isSome = true → route.OneTable node

section Success

/-- A list has one element up to repetition when its elements are all the same. -/
theorem dedup_singleton {α : Type} [DecidableEq α] {items : List α} (some : items ≠ []) :
    (∃ item, items.dedup = [item]) ↔ ∀ first ∈ items, ∀ second ∈ items, first = second := by
  constructor
  · rintro ⟨item, single⟩ first inFirst second inSecond
    have all : ∀ other ∈ items, other = item := fun other member => by
      simpa [single] using List.mem_dedup.mpr member
    rw [all first inFirst, all second inSecond]
  · intro same
    obtain ⟨item, rest, rfl⟩ := List.exists_cons_of_ne_nil some
    refine ⟨item, ?_⟩
    have repeated : rest = List.replicate rest.length item :=
      List.eq_replicate_of_mem fun other member => same other (List.mem_cons_of_mem _ member) item List.mem_cons_self
    have whole : item :: rest = List.replicate (rest.length + 1) item := by rw [List.replicate_succ, ← repeated]
    rw [whole, List.replicate_dedup (Nat.succ_ne_zero _)]

theorem compileRoute_ok {node : NodeConfig} {route : RouteConfig} (valid : route.validateAddressFamily = .ok ()) :
    (∃ plan, compileRoute (plannedTables (compileDevices node)) route = .ok plan) ↔ route.OneTable node := by
  rw [plannedTables_compileDevices]
  cases hops : route.nexthops with
  | nil =>
    have single : ∃ dev, route.dev = some dev := by
      simp only [RouteConfig.validateAddressFamily, hops, ne_eq, not_true_eq_false, if_false, Checks.bind_ok,
        Checks.raiseIf_ok, Checks.exists_unit] at valid
      exact Option.ne_none_iff_exists'.mp valid.1
    obtain ⟨dev, leaves⟩ := single
    simp [compileRoute, RouteConfig.OneTable, hops, leaves, pure_bind]
  | cons hop rest =>
    have reduced := dedup_singleton (by simp [hops] : (route.nexthops.map (·.dev)).map node.inferredTable ≠ [])
    simp only [List.mem_map, forall_exists_index, and_imp, forall_apply_eq_imp_iff₂] at reduced
    rw [RouteConfig.OneTable, ← reduced]
    have some : route.nexthops.map compileNextHop ≠ [] := by simp [hops]
    simp only [compileRoute, if_pos some, pure_bind]
    change (∃ plan, _ = Except.ok plan) ↔ ∃ inferred, ((route.nexthops.map (·.dev)).map node.inferredTable).dedup = [inferred]
    constructor
    · rintro ⟨plan, compiled⟩
      split at compiled
      next inferred same => exact ⟨inferred, same⟩
      next => simp at compiled
    · rintro ⟨inferred, same⟩
      change (List.map (fun interface => (node.tables.get? interface).getD mainRouteTable) _).dedup = _ at same
      rw [same]
      exact ⟨_, rfl⟩

/-- The validator checks for the one table where a route names none. -/
theorem oneTable_of_routeTable (node : NodeConfig) {route : RouteConfig} {table : Int} (unnamed : route.table = none)
    (checked : routeTableOf route node.tables = .ok table) : route.OneTable node := by
  cases hops : route.nexthops with
  | nil => simp [RouteConfig.OneTable, hops]
  | cons hop rest =>
    have some : route.nexthops ≠ [] := by simp [hops]
    simp only [routeTableOf, unnamed, routeDevices, if_pos some, Checks.bind_ok, Except.ok.injEq, exists_eq_left'] at checked
    split at checked
    next inferred single =>
      have same := (dedup_singleton (by simp [hops])).mp ⟨inferred, single⟩
      intro first inFirst second inSecond
      exact same _ (List.mem_map_of_mem (List.mem_map_of_mem inFirst)) _ (List.mem_map_of_mem (List.mem_map_of_mem inSecond))
    next => simp at checked

theorem oneTable_of_unnamed {node : NodeConfig} (valid : nodeConfig.holds node) :
    ∀ route ∈ node.toNodeBase.routes, route.table = none → route.OneTable node := by
  intro route member unnamed
  cases node with
  | linux node =>
    obtain ⟨_, _, _, table, checked⟩ := (LinuxNode.valid_of_holds valid).2.routeTables route member
    exact oneTable_of_routeTable (.linux node) unnamed checked
  | bridge node => exact fun _ _ _ _ => rfl

theorem validateAddressFamily_of_holds {node : NodeConfig} (valid : nodeConfig.holds node) :
    ∀ route ∈ node.toNodeBase.routes, route.validateAddressFamily = .ok () := by
  cases node with
  | linux node => exact (LinuxNode.valid_of_holds valid).1.routes
  | bridge node => exact (BridgeNode.valid_of_holds valid).1.routes

theorem compileNode_total {deployment name : String} {node : NodeConfig} (valid : nodeConfig.holds node) :
    (∃ plan, compileNode deployment name node = .ok plan) ↔
      ∀ route ∈ node.toNodeBase.routes, route.table.isSome = true → route.OneTable node := by
  have family := validateAddressFamily_of_holds valid
  have collected : (∃ plan, compileNode deployment name node = .ok plan) ↔
      ∃ routes, Checks.collect node.toNodeBase.routes (compileRoute (plannedTables (compileDevices node))) = .ok routes := by
    simp only [compileNode, Checks.bind_ok, Checks.pure_ok]
    constructor
    · intro found
      obtain ⟨_, routes, compiled, _⟩ := found
      exact ⟨routes, compiled⟩
    · intro found
      obtain ⟨routes, compiled⟩ := found
      exact ⟨_, routes, compiled, rfl⟩
  rw [collected, Checks.collect_total]
  constructor
  · intro compiled route member _
    exact (compileRoute_ok (family route member)).mp (compiled route member)
  · intro named route member
    rw [compileRoute_ok (family route member)]
    cases table : route.table with
    | none => exact oneTable_of_unnamed valid route member table
    | some _ => exact named route member (by simp [table])

/-- The endpoints of an accepted manifest name compiled nodes. -/
theorem compileLink_total {manifest : Manifest} {deployment : String} {nodes : Dict String NodePlan} (valid : manifest.Valid)
    (keys : nodes.keys = manifest.topology.nodes.keys) :
    ∀ entry ∈ manifest.topology.links.zipIdx, ∃ link, compileLink deployment nodes entry = .ok link := by
  rintro ⟨config, index⟩ member
  have inside : config ∈ manifest.topology.links := List.fst_mem_of_mem_zipIdx member
  have endpoint : ∀ endpoint temporaryName, endpoint = config.endpoints.1 ∨ endpoint = config.endpoints.2 →
      ∃ plan, compileEndpoint endpoint temporaryName nodes = .ok plan := by
    intro endpoint temporaryName of
    have facts := valid.topology.endpoints (endpoint, config.mtu)
      (List.mem_flatMap.mpr ⟨config, inside, by rcases of with rfl | rfl <;> simp⟩)
    obtain ⟨node, found⟩ := Dict.mem_keys_iff.mp (keys ▸ facts.node)
    exact ⟨_, compileEndpoint_ok.mpr ⟨facts.separated, node, found, rfl⟩⟩
  obtain ⟨left, compiledLeft⟩ := endpoint config.endpoints.1 (temporaryVethNames deployment index).1 (.inl rfl)
  obtain ⟨right, compiledRight⟩ := endpoint config.endpoints.2 (temporaryVethNames deployment index).2 (.inr rfl)
  exact ⟨_, compileLink_ok.mpr ⟨left, right, compiledLeft, compiledRight, rfl⟩⟩

end Success

section Examples

/-- A node `r` with a VRF over `eth0`, and a multipath route to the table of the VRF through `eth0` and
another interface. -/
def vrfRouteDocument (second : String) : Document :=
  .dict [("version", .int 1), ("name", .str "lab"), ("topology", .dict [
    ("nodes", .dict [
      ("r", .dict [("kind", .str "linux"),
        ("devices", .dict [("red", .dict [("type", .str "vrf"), ("table", .int 100),
          ("interfaces", .list [.str "eth0", .str "eth2"])])]),
        ("routes", .list [.dict [("dst", .str "10.0.0.0/8"), ("table", .int 100), ("nexthops", .list [
          .dict [("dev", .str "eth0")], .dict [("dev", .str second), ("weight", .int 2)]])]])]),
      ("s", .dict [("kind", .str "linux")])]),
    ("links", .list [.dict [("endpoints", .list [.str "r:eth0", .str "s:eth0"])],
      .dict [("endpoints", .list [.str "r:eth1", .str "s:eth1"])],
      .dict [("endpoints", .list [.str "r:eth2", .str "s:eth2"])]])])]

/-- Whether an assertion has failed. -/
def assertionFails : Except PlanError TopologyPlan → Bool
  | .error .assertionError => true
  | _ => false

end Examples

end Nslab
