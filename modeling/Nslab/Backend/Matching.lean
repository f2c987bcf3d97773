import Nslab.Backend.Base

/-! What it means that live state satisfies a plan, in terms of the plan and of
what is observed. The loops of the matcher decide exactly this. -/

namespace Nslab

open Collections

section Links

/-- The ends of a link carry one link id, which no other veth carries. -/
def LinkPlan.Wired (link : LinkPlan) (inventory : LiveInventory) : Prop :=
  ∃ linkId, inventory.linkId? link.left = some linkId ∧ inventory.linkId? link.right = some linkId ∧
    SameSet (inventory.linkGroup linkId) link.group

/-- Every veth carries a link id, and the planned links are wired. -/
structure TopologyPlan.Wired (plan : TopologyPlan) (inventory : LiveInventory) : Prop where
  identified : ∀ entry ∈ inventory.veths, entry.2.2.linkId.any (· ≠ "") = true
  links : ∀ link ∈ plan.links, link.Wired inventory

/-- On links that share no end the ids seen before tell nothing. -/
theorem linksMatchFrom_iff {inventory : LiveInventory} {seen : List String} {links : List LinkPlan}
    (apart : (links.flatMap LinkPlan.group).Nodup)
    (fresh : ∀ linkId ∈ seen, ∀ link ∈ links, ¬ SameSet (inventory.linkGroup linkId) link.group) :
    linksMatchFrom inventory seen links = true ↔ ∀ link ∈ links, link.Wired inventory := by
  induction links generalizing seen with
  | nil => simp [linksMatchFrom]
  | cons link rest ih =>
    rw [List.flatMap_cons, List.nodup_append] at apart
    obtain ⟨_, distinct, disjoint⟩ := apart
    rw [List.forall_mem_cons, linksMatchFrom]
    have head : link.Wired inventory ↔ ∃ linkId, inventory.linkId? link.left = some linkId ∧
        inventory.linkId? link.right = some linkId ∧ SameSet (inventory.linkGroup linkId) link.group := Iff.rfl
    rw [head]
    cases left : inventory.linkId? link.left with
    | none => simp
    | some linkId =>
      cases right : inventory.linkId? link.right with
      | none => simp
      | some other =>
        by_cases grouped : SameSet (inventory.linkGroup linkId) link.group
        · have unseen : linkId ∉ seen := fun member => fresh linkId member link List.mem_cons_self grouped
          have later : ∀ other ∈ linkId :: seen, ∀ link ∈ rest, ¬ SameSet (inventory.linkGroup other) link.group := by
            intro other member next inside same
            cases List.mem_cons.mp member with
            | inl equal =>
              subst equal
              have shared : (link.left.netns, link.left.interface) ∈ next.group :=
                (same _).mp ((grouped _).mpr List.mem_cons_self)
              exact disjoint _ List.mem_cons_self _ (List.mem_flatMap.mpr ⟨next, inside, shared⟩) rfl
            | inr before => exact fresh other before next (List.mem_cons_of_mem _ inside) same
          have tail := ih distinct later
          by_cases equal : other = linkId
          · simp [equal, unseen, grouped, tail]
          · simp [equal]
        · by_cases equal : other = linkId
          · simp [equal, grouped]
          · simp [equal]

theorem linksMatch_iff {plan : TopologyPlan} {inventory : LiveInventory} (apart : (plan.links.flatMap LinkPlan.group).Nodup) :
    linksMatch plan inventory = true ↔ plan.Wired inventory := by
  rw [linksMatch, Bool.and_eq_true, List.all_eq_true, linksMatchFrom_iff apart (by simp)]
  exact ⟨fun both => ⟨both.1, both.2⟩, fun wired => ⟨wired.identified, wired.links⟩⟩

end Links

section Nodes

variable [RedEvaluation]

/-- The interfaces that a plan accounts for. -/
def accountedInterfaces (node : NodePlan) (observed : NamespaceInventory) : Dict String InterfaceInventory :=
  observed.interfaces.filterMap fun name interface => if name ∈ runtimeManagedInterfaceNames node then none else some interface

omit [RedEvaluation] in
theorem get?_accountedInterfaces {node : NodePlan} {observed : NamespaceInventory} {name : String} :
    (accountedInterfaces node observed).get? name =
      if name ∈ runtimeManagedInterfaceNames node then none else observed.interfaces.get? name := by
  rw [accountedInterfaces, Dict.get?_filterMap]
  split <;> simp

omit [RedEvaluation] in
theorem mem_accountedInterfaces {node : NodePlan} {observed : NamespaceInventory} {name : String} :
    name ∈ (accountedInterfaces node observed).keys ↔
      name ∈ observed.interfaces.keys ∧ name ∉ runtimeManagedInterfaceNames node := by
  rw [Dict.mem_keys_iff, Dict.mem_keys_iff, get?_accountedInterfaces]
  split <;> simp [*]

/-- The expected interfaces are there, and nothing else. -/
structure InterfacesMatched (expected : Dict String ExpectedInterface) (actual : Dict String InterfaceInventory) : Prop where
  names : SameSet actual.keys expected.keys
  each : ∀ name desired observed, expected.get? name = some desired → actual.get? name = some observed →
    desired.Match name observed

theorem interfacesMatch_iff {expected : Dict String ExpectedInterface} {actual : Dict String InterfaceInventory} :
    interfacesMatch expected actual = true ↔ InterfacesMatched expected actual := by
  simp only [interfacesMatch, decide_eq_true_eq, List.all_eq_true, Option.any_eq_true]
  constructor
  · intro given
    obtain ⟨names, each⟩ := given
    refine ⟨names, fun name desired observed wanted found => ?_⟩
    obtain ⟨other, stored, matched⟩ := each (name, desired) (Dict.get?_iff.mp wanted)
    rw [found, Option.some.injEq] at stored
    exact stored ▸ matched
  · intro matched
    refine ⟨matched.names, fun entry member => ?_⟩
    obtain ⟨name, desired⟩ := entry
    have wanted := Dict.get?_iff.mpr member
    obtain ⟨observed, found⟩ := Dict.mem_keys_iff.mp ((matched.names name).mpr (Dict.mem_keys_of_get? wanted))
    exact ⟨observed, found, matched.each name desired observed wanted found⟩

/-- A namespace is as planned. -/
structure NodePlan.Matched (plan : TopologyPlan) (node : NodePlan) (observed : NamespaceInventory) : Prop where
  live : observed.live = true
  name : observed.node = node.name
  kind : observed.kind = node.kind
  netns : observed.netns = node.netns
  interfaces : ∀ expected, expectedInterfaces node plan = .ok expected →
    InterfacesMatched expected (accountedInterfaces node observed)
  routes : ∀ routes, expectedRoutes node = .ok routes → routesMatch node routes observed.routes = true
  rules : SameSet observed.rules node.rules
  neighbors : neighborsMatch node.neighbors observed.neighbors = true
  sysctls : declaredSysctlsMatch node.sysctls observed.sysctls = true

/-- The matcher decides a node, when its interfaces and routes can be told. -/
theorem nodeMatches_spec {plan : TopologyPlan} {node : NodePlan} (observed : NamespaceInventory)
    {expected : Dict String ExpectedInterface} {routes : List RoutePlan}
    (interfaces : expectedInterfaces node plan = .ok expected) (routed : expectedRoutes node = .ok routes) :
    ∃ matched, nodeMatches plan node observed = .ok matched ∧ (matched = true ↔ node.Matched plan observed) := by
  unfold nodeMatches
  split
  next other =>
    refine ⟨false, rfl, ?_⟩
    simp only [Bool.false_eq_true, false_iff]
    intro matched
    simp [matched.live, matched.name, matched.kind, matched.netns] at other
  next same =>
    simp only [not_or, not_not, Bool.not_eq_false] at same
    obtain ⟨live, name, kind, netns⟩ := same
    have shape : (observed.interfaces.filterMap fun name interface =>
      if name ∈ runtimeManagedInterfaceNames node then none else some interface) = accountedInterfaces node observed := rfl
    simp only [interfaces, routed, Checks.ok_bind, shape]
    by_cases all : interfacesMatch expected (accountedInterfaces node observed) = true
    · refine ⟨_, by rw [if_neg (by simp [all])]; rfl, ?_⟩
      simp only [Bool.and_eq_true, decide_eq_true_eq]
      constructor
      · intro both
        obtain ⟨⟨⟨routesMatched, rules⟩, neighbors⟩, sysctls⟩ := both
        refine ⟨live, name, kind, netns, ?_, ?_, rules, neighbors, sysctls⟩
        · intro other given
          rw [interfaces, Except.ok.injEq] at given
          exact given ▸ interfacesMatch_iff.mp all
        · intro other given
          rw [routed, Except.ok.injEq] at given
          exact given ▸ routesMatched
      · intro matched
        exact ⟨⟨⟨matched.routes routes routed, matched.rules⟩, matched.neighbors⟩, matched.sysctls⟩
    · refine ⟨false, by rw [if_pos (by simpa using all)]; rfl, ?_⟩
      simp only [Bool.false_eq_true, false_iff]
      intro matched
      exact all (interfacesMatch_iff.mpr (matched.interfaces expected interfaces))

/-- Every planned node is as planned in its namespace. -/
def NodesMatched (plan : TopologyPlan) (inventory : LiveInventory) (nodes : List NodePlan) : Prop :=
  ∀ node ∈ nodes, ∀ observed, inventory.namespaces.get? node.netns = some observed → node.Matched plan observed

theorem nodesMatch_spec {plan : TopologyPlan} (inventory : LiveInventory) (nodes : List NodePlan)
    (present : ∀ node ∈ nodes, node.netns ∈ inventory.namespaces.keys)
    (told : ∀ node ∈ nodes, (∃ expected, expectedInterfaces node plan = .ok expected) ∧
      ∃ routes, expectedRoutes node = .ok routes) :
    ∃ matched, nodesMatch plan inventory nodes = .ok matched ∧ (matched = true ↔ NodesMatched plan inventory nodes) := by
  induction nodes with
  | nil => exact ⟨true, rfl, by simp [NodesMatched]⟩
  | cons node rest ih =>
    obtain ⟨later, decided, meaning⟩ := ih (fun other member => present other (List.mem_cons_of_mem _ member))
      fun other member => told other (List.mem_cons_of_mem _ member)
    obtain ⟨⟨expected, interfaces⟩, routes, routed⟩ := told node List.mem_cons_self
    obtain ⟨observed, found⟩ := Dict.mem_keys_iff.mp (present node List.mem_cons_self)
    obtain ⟨matched, first, holds⟩ := nodeMatches_spec observed interfaces routed
    simp only [nodesMatch, found, first, Checks.ok_bind]
    have whole : NodesMatched plan inventory (node :: rest) ↔ node.Matched plan observed ∧ NodesMatched plan inventory rest := by
      simp [NodesMatched, found]
    cases matched with
    | true => exact ⟨later, decided, by rw [whole, meaning, ← holds]; simp⟩
    | false => exact ⟨false, rfl, by rw [whole, ← holds]; simp⟩

/-- Live state satisfies a plan. -/
structure TopologyPlan.Matched (plan : TopologyPlan) (inventory : LiveInventory) : Prop where
  roots : inventory.rootInterfaces.isEmpty = true
  namespaces : SameSet inventory.namespaces.keys (plannedNamespaces plan)
  nodes : NodesMatched plan inventory plan.nodes.values
  wired : plan.Wired inventory

end Nodes

namespace Manifest.Plans

variable {manifest : Manifest} {plan : TopologyPlan}

/-- Links share no end, neither by namespace. -/
theorem groups_apart (plans : manifest.Plans plan) : (plan.links.flatMap LinkPlan.group).Nodup := by
  have groups : plan.links.flatMap LinkPlan.group = plan.endpoints.map fun entry => (entry.1.netns, entry.1.interface) := by
    simp only [TopologyPlan.endpoints, List.map_flatMap, List.map_map]
    rfl
  rw [groups]
  refine (plans.apart.of_map _).map_on fun left inLeft right inRight same => ?_
  obtain ⟨netns, interface⟩ := Prod.mk.inj same
  have located : ∀ entry ∈ plan.endpoints, entry.1.netns = namespaceName plan.name entry.1.node := by
    intro entry member
    obtain ⟨link, inside, paired⟩ := List.mem_flatMap.mp member
    obtain ⟨endpoint, ends, rfl⟩ := List.mem_map.mp paired
    obtain ⟨node, found, _, netns⟩ := plans.endpoint_node inside ends
    exact netns.trans (plans.name_of_found found).2
  rw [located left inLeft, located right inRight] at netns
  exact List.inj_on_of_nodup_map plans.apart inLeft inRight (Prod.ext (namespaceName_injective netns) interface)

/-- The matcher decides whether live state satisfies a compiled plan. -/
theorem inventoryMatchesPlan_spec [RedEvaluation] (plans : manifest.Plans plan) (inventory : LiveInventory) :
    ∃ matched, inventoryMatchesPlan plan inventory = .ok matched ∧ (matched = true ↔ plan.Matched inventory) := by
  unfold inventoryMatchesPlan
  split
  next occupied =>
    refine ⟨false, rfl, ?_⟩
    simp only [Bool.false_eq_true, false_iff]
    intro matched
    simp [matched.roots] at occupied
  next free =>
    split
    next other => exact ⟨false, rfl, by simp only [Bool.false_eq_true, false_iff]; exact fun matched => other matched.namespaces⟩
    next same =>
      rw [not_not] at same
      obtain ⟨matched, decided, meaning⟩ := nodesMatch_spec inventory plan.nodes.values
        (fun node member => (same _).mpr (List.mem_map_of_mem member))
        fun node member => ⟨plans.expectedInterfaces_total member, plans.expectedRoutes_total member⟩
      rw [decided]
      cases matched with
      | false => exact ⟨false, rfl, by simp only [Bool.false_eq_true, false_iff] at meaning ⊢; exact fun all => meaning all.nodes⟩
      | true =>
        refine ⟨_, rfl, ?_⟩
        rw [linksMatch_iff plans.groups_apart]
        exact ⟨fun wired => ⟨by simpa using free, same, meaning.mp rfl, wired⟩, fun all => all.wired⟩

theorem inventoryMatchesPlan_iff [RedEvaluation] (plans : manifest.Plans plan) {inventory : LiveInventory} :
    inventoryMatchesPlan plan inventory = .ok true ↔ plan.Matched inventory := by
  obtain ⟨matched, decided, meaning⟩ := plans.inventoryMatchesPlan_spec inventory
  rw [decided, Except.ok.injEq, meaning]

end Manifest.Plans

end Nslab
