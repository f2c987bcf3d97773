import Nslab.Graph.Forest

/-! The display forest shows all of a topology: every node in the tree of the nodes
connected with it, and every link once, in a tree or beside it. -/

namespace Nslab.Graph

open Worklist Relation Collections

variable {plan : TopologyPlan} {members : List String} {first : String}

section Plans

/-- The links of a plan end at its nodes, and go by different indexes. -/
structure Joined (plan : TopologyPlan) : Prop where
  ends : ∀ link ∈ plan.links, link.left.node ∈ plan.nodes.keys ∧ link.right.node ∈ plan.nodes.keys
  indexes : (plan.links.map (·.index)).Nodup

theorem joined_of_plans {manifest : Manifest} (plans : manifest.Plans plan) : Joined plan := by
  constructor
  · intro link member
    have leftEnd : link.left ∈ link.endpoints := List.mem_cons_self
    have rightEnd : link.right ∈ link.endpoints := List.mem_cons_of_mem _ (List.mem_singleton_self _)
    obtain ⟨left, leftFound, _⟩ := plans.endpoint_node member leftEnd
    obtain ⟨right, rightFound, _⟩ := plans.endpoint_node member rightEnd
    exact ⟨Dict.mem_keys_of_get? leftFound, Dict.mem_keys_of_get? rightFound⟩
  · have indexes : ∀ {entries : List (LinkConfig × Nat)} {links : List LinkPlan},
        List.Forall₂ (fun entry link => compileLink plan.name plan.nodes entry = .ok link) entries links →
        links.map (·.index) = entries.map Prod.snd := by
      intro entries links compiled
      induction compiled with
      | nil => rfl
      | @cons entry link _ _ head _ ih =>
        obtain ⟨_, _, _, _, shape⟩ := compileLink_ok.mp head
        rw [List.map_cons, List.map_cons, ih, shape]
    rw [indexes plans.links, List.zipIdx_map_snd]
    exact List.nodup_range'

theorem Joined.closed (joined : Joined plan) : Closed plan plan.nodes.keys := by
  intro name _ other given
  obtain ⟨link, member, joins⟩ := given
  obtain ⟨left, right⟩ := joined.ends link member
  rcases joins with ⟨_, here⟩ | ⟨_, here⟩
  · exact here ▸ right
  · exact here ▸ left

theorem Joined.index_injective (joined : Joined plan) {link other : LinkPlan} (member : link ∈ plan.links)
    (inside : other ∈ plan.links) (same : link.index = other.index) : link = other :=
  List.inj_on_of_nodup_map joined.indexes member inside same

end Plans

section Component

/-- The root of a component has no fewer links than any member, and comes before the others that have as many. -/
structure DisplayComponent.Rooted (component : DisplayComponent) (plan : TopologyPlan) : Prop where
  member : component.root ∈ component.members
  first : ∀ name ∈ component.members, (adjacency plan name).length < (adjacency plan component.root).length ∨
    (adjacency plan name).length = (adjacency plan component.root).length ∧
      plan.nodes.keys.idxOf component.root ≤ plan.nodes.keys.idxOf name

/-- The children of a component make up a tree of links that spans its members. -/
structure DisplayComponent.Spans (component : DisplayComponent) (plan : TopologyPlan) : Prop where
  keyed : ∀ name edges, component.children.get? name = some edges → ∀ edge ∈ edges, edge.parent = name
  wired : ∀ edge ∈ component.edges, edge.Wires plan
  once : (component.root :: component.edges.map (·.child)).Perm component.members
  reached : ∀ name ∈ component.members, ReflTransGen (Below component.edges) component.root name

theorem chooseRoot_spec (plan : TopologyPlan) (member : first ∈ members) : chooseRoot plan first members ∈ members ∧
    ∀ name ∈ members, (adjacency plan name).length < (adjacency plan (chooseRoot plan first members)).length ∨
      (adjacency plan name).length = (adjacency plan (chooseRoot plan first members)).length ∧
        plan.nodes.keys.idxOf (chooseRoot plan first members) ≤ plan.nodes.keys.idxOf name := by
  have chosen : ∀ rest start, start ∈ members → rest ⊆ members → chooseRoot plan start rest ∈ members ∧
      ∀ name ∈ start :: rest, precedes plan name (chooseRoot plan start rest) = false := by
    intro rest
    induction rest with
    | nil =>
      intro start inside _
      refine ⟨inside, fun name listed => ?_⟩
      rw [List.mem_singleton.mp listed]
      simp [chooseRoot, precedes]
    | cons name rest ih =>
      intro start inside covered
      obtain ⟨listed, covered⟩ := List.cons_subset.mp covered
      rw [show chooseRoot plan start (name :: rest) =
        chooseRoot plan (if precedes plan name start then name else start) rest from rfl]
      split
      next ahead =>
        obtain ⟨kept, least⟩ := ih name listed covered
        refine ⟨kept, fun other found => ?_⟩
        cases List.mem_cons.mp found with
        | inr below => exact least other below
        | inl same =>
          subst same
          have next := least name List.mem_cons_self
          simp only [precedes, Bool.or_eq_true, Bool.or_eq_false_iff, Bool.and_eq_true, Bool.and_eq_false_imp, decide_eq_true_eq,
            decide_eq_false_iff_not] at ahead next ⊢
          omega
      next behind =>
        obtain ⟨kept, least⟩ := ih start inside covered
        refine ⟨kept, fun other found => ?_⟩
        simp only [List.mem_cons] at found
        obtain rfl | rfl | below := found
        · exact least other List.mem_cons_self
        · have next := least start List.mem_cons_self
          simp only [precedes, Bool.or_eq_true, Bool.or_eq_false_iff, Bool.and_eq_true, Bool.and_eq_false_imp, decide_eq_true_eq,
            decide_eq_false_iff_not] at behind next ⊢
          omega
        · exact least other (List.mem_cons_of_mem _ below)
  obtain ⟨kept, least⟩ := chosen members first member (List.Subset.refl _)
  refine ⟨kept, fun name inside => ?_⟩
  have least := least name (List.mem_cons_of_mem _ inside)
  simp only [precedes, Bool.or_eq_false_iff, Bool.and_eq_false_imp, decide_eq_true_eq, decide_eq_false_iff_not] at least
  omega

/-- A component of members that are the nodes connected with the first of them. -/
structure Component (plan : TopologyPlan) (first : String) (members : List String) : Prop where
  distinct : members.Nodup
  mem_iff : ∀ name, name ∈ members ↔ Connected plan first name

namespace Component

variable (component : Component plan first members)

include component

theorem first_mem : first ∈ members := (component.mem_iff first).mpr .refl

theorem closed : Closed plan members := by
  intro name member other leads
  exact (component.mem_iff other).mpr (((component.mem_iff name).mp member).tail leads)

theorem root_mem : chooseRoot plan first members ∈ members := (chooseRoot_spec plan component.first_mem).1

/-- The members are connected with the root too. -/
theorem connected_root (name : String) : name ∈ members ↔ Connected plan (chooseRoot plan first members) name := by
  have root := (component.mem_iff _).mp component.root_mem
  rw [component.mem_iff]
  exact ⟨root.symm.trans, root.trans⟩

theorem grown : Grown plan members (chooseRoot plan first members)
    (growTree plan (chooseRoot plan first members) members) :=
  (growTree_spec component.closed component.root_mem).1

/-- The tree sees all members. -/
theorem seen_perm : (growTree plan (chooseRoot plan first members) members).seen.Perm members := by
  refine (List.perm_ext_iff_of_nodup component.grown.distinct component.distinct).mpr fun name => ?_
  rw [(growTree_spec component.closed component.root_mem).2, ← component.connected_root]

theorem entries : (displayComponent plan first members).children.entries = members.map fun name =>
    (name, (growTree plan (chooseRoot plan first members) members).edges.filter (·.parent = name)) := by
  refine Dict.entries_ofEntries ?_
  simpa [Function.comp_def] using component.distinct

theorem members_eq : (displayComponent plan first members).members = members := by
  simp [DisplayComponent.members, Dict.keys, component.entries, Function.comp_def]

theorem edges_perm :
    (displayComponent plan first members).edges.Perm (growTree plan (chooseRoot plan first members) members).edges := by
  have parents := fun edge member => component.seen_perm.mem_iff.mp (component.grown.parents edge member)
  have groups := flatMap_filter_perm component.distinct DisplayEdge.parent parents
  simpa [DisplayComponent.edges, Dict.values, component.entries, List.flatMap, Function.comp_def] using groups

theorem rooted : (displayComponent plan first members).Rooted plan := by
  obtain ⟨member, most⟩ := chooseRoot_spec plan component.first_mem
  constructor <;> rw [component.members_eq]
  · exact member
  · exact most

theorem spans : (displayComponent plan first members).Spans plan := by
  have grown := component.grown
  have edges := component.edges_perm
  constructor
  · intro name listed found edge member
    rw [Dict.get?_iff, component.entries] at found
    obtain ⟨_, _, same⟩ := List.mem_map.mp found
    obtain ⟨rfl, rfl⟩ := Prod.mk.inj same
    exact of_decide_eq_true (List.mem_filter.mp member).2
  · intro edge member
    exact grown.wired edge (edges.mem_iff.mp member)
  · rw [component.members_eq]
    exact ((edges.map _).cons _).trans (grown.marks.symm.trans component.seen_perm)
  · intro name member
    rw [component.members_eq] at member
    refine ReflTransGen.mono ?_ _ _ (grown.reached name (component.seen_perm.mem_iff.mpr member))
    intro parent child given
    obtain ⟨edge, listed, ends⟩ := given
    exact ⟨edge, edges.mem_iff.mpr listed, ends⟩

/-- A link with one end at a member has both. -/
theorem right_mem_iff {link : LinkPlan} (member : link ∈ plan.links) : link.left.node ∈ members ↔ link.right.node ∈ members := by
  constructor
  · intro inside
    exact component.closed _ inside _ ⟨link, member, .inl ⟨rfl, rfl⟩⟩
  · intro inside
    exact component.closed _ inside _ ⟨link, member, .inr ⟨rfl, rfl⟩⟩

/-- The links at the members are those in the tree and those beside it. -/
theorem links_perm (joined : Joined plan) :
    ((displayComponent plan first members).edges.map (·.link) ++ (displayComponent plan first members).crossLinks).Perm
      (plan.links.filter (·.left.node ∈ members)) := by
  have grown := component.grown
  have distinct : plan.links.Nodup := joined.indexes.of_map _
  have tree : ∀ link ∈ plan.links, link.index ∈ (growTree plan (chooseRoot plan first members) members).treeLinks ↔
      link ∈ (growTree plan (chooseRoot plan first members) members).edges.map (·.link) := by
    intro link member
    rw [grown.indexes.mem_iff]
    constructor
    · intro listed
      obtain ⟨edge, inside, same⟩ := List.mem_map.mp listed
      have equal := joined.index_injective (grown.wired edge inside).1 member same
      exact List.mem_map.mpr ⟨edge, inside, equal⟩
    · intro listed
      obtain ⟨edge, inside, same⟩ := List.mem_map.mp listed
      exact List.mem_map.mpr ⟨edge, inside, same ▸ rfl⟩
  have inside : ∀ link, link ∈ (growTree plan (chooseRoot plan first members) members).edges.map (·.link) →
      link ∈ plan.links ∧ link.left.node ∈ members := by
    intro link listed
    obtain ⟨edge, member, rfl⟩ := List.mem_map.mp listed
    have parent := component.seen_perm.mem_iff.mp (grown.parents edge member)
    have wires := grown.wired edge member
    refine ⟨wires.1, ?_⟩
    rcases wires.joins with ⟨here, _⟩ | ⟨here, _⟩
    · exact here ▸ parent
    · exact (component.right_mem_iff wires.1).mpr (here ▸ parent)
  refine ((component.edges_perm.map _).append_right _).trans ?_
  refine (List.perm_ext_iff_of_nodup ?_ (distinct.filter _)).mpr fun link => ?_
  · refine List.nodup_append.mpr ⟨grown.once, distinct.filter _, ?_⟩
    rintro link listed _ beside rfl
    obtain ⟨member, cross⟩ := List.mem_filter.mp beside
    exact (of_decide_eq_true cross).1 ((tree link member).mpr listed)
  · rw [List.mem_append, List.mem_filter, decide_eq_true_eq, displayComponent, List.mem_filter, decide_eq_true_eq]
    constructor
    · rintro (listed | ⟨member, _, left, _⟩)
      · exact inside link listed
      · exact ⟨member, left⟩
    · intro given
      obtain ⟨member, left⟩ := given
      by_cases listed : link ∈ (growTree plan (chooseRoot plan first members) members).edges.map (·.link)
      · exact .inl listed
      · exact .inr ⟨member, fun found => listed ((tree link member).mp found), left,
          (component.right_mem_iff member).mp left⟩

end Component

end Component

section Forest

/-- All links that a component shows, in its tree and beside it. -/
def DisplayComponent.shown (component : DisplayComponent) : List LinkPlan :=
  component.edges.map (·.link) ++ component.crossLinks

/-- Nodes that remain beside the members of a component are not connected with them. -/
theorem Component.closed_rest {remaining left : List String} (component : Component plan first members)
    (closed : Closed plan remaining) (parts : (members ++ left).Perm remaining) (distinct : remaining.Nodup) :
    Closed plan left := by
  intro name member other leads
  have apart := List.disjoint_of_nodup_append (parts.nodup_iff.mpr distinct)
  have inside := parts.mem_iff.mpr (closed name (parts.mem_iff.mp (List.mem_append_right _ member)) other leads)
  refine (List.mem_append.mp inside).resolve_left fun connected => ?_
  exact apart (component.closed other connected name leads.symm) member

/-- The components of nodes that remain, with all links at these nodes. -/
theorem forestFrom_spec (joined : Joined plan) {remaining names : List String} (distinct : remaining.Nodup)
    (closed : Closed plan remaining) (listed : ∀ name ∈ remaining, name ∈ names) :
    ((forestFrom plan remaining names).flatMap DisplayComponent.members).Perm remaining ∧
      (∀ shown ∈ forestFrom plan remaining names, ∃ first members, Component plan first members ∧
        shown = displayComponent plan first members) ∧
      ((forestFrom plan remaining names).flatMap DisplayComponent.shown).Perm
        (plan.links.filter (·.left.node ∈ remaining)) := by
  induction names generalizing remaining with
  | nil =>
    cases remaining with
    | nil => simp [forestFrom]
    | cons name _ => cases listed name List.mem_cons_self
  | cons name rest ih =>
    rw [forestFrom]
    split
    next inside =>
      have whole := List.perm_cons_erase inside
      obtain ⟨perm, connected⟩ := @collectMembers_spec plan name (remaining.erase name) (whole.nodup_iff.mp distinct)
        fun other member target leads => whole.mem_iff.mp (closed other (whole.mem_iff.mpr member) target leads)
      generalize collectMembers plan name (remaining.erase name) = found at perm connected
      obtain ⟨members, left⟩ := found
      have parts : (members ++ left).Perm remaining := perm.trans whole.symm
      obtain ⟨ownDistinct, leftDistinct, _⟩ := List.nodup_append.mp (parts.nodup_iff.mpr distinct)
      have apart := List.disjoint_of_nodup_append (parts.nodup_iff.mpr distinct)
      have component : Component plan name members := ⟨ownDistinct, connected⟩
      have later : ∀ other ∈ left, other ∈ rest := by
        intro other member
        have before := listed other (parts.mem_iff.mp (List.mem_append_right _ member))
        refine (List.mem_cons.mp before).resolve_left fun same => ?_
        exact apart component.first_mem (same ▸ member)
      obtain ⟨nodes, components, links⟩ := ih leftDistinct (component.closed_rest closed parts distinct) later
      refine ⟨?_, List.forall_mem_cons.mpr ⟨⟨name, members, component, rfl⟩, components⟩, ?_⟩
      · rw [List.flatMap_cons, component.members_eq]
        exact (nodes.append_left members).trans parts
      · rw [List.flatMap_cons]
        refine ((component.links_perm joined).append links).trans ?_
        refine (filter_append_perm_filter apart (fun link : LinkPlan => link.left.node) plan.links).trans ?_
        rw [List.filter_congr fun link _ => decide_eq_decide.mpr parts.mem_iff]
    next outside =>
      refine ih distinct closed fun other member => (List.mem_cons.mp (listed other member)).resolve_left ?_
      rintro rfl
      exact outside member

/-- The components of a plan part its nodes by the links between them, each is a tree from the first of its nodes with most
links, and every link is shown once. -/
theorem display_forest_covers {manifest : Manifest} (accepted : manifest.Accepted) (nameOverride : Option String)
    {plan : TopologyPlan} (compiled : compilePlan manifest nameOverride = .ok plan) :
    ((buildDisplayForest plan).flatMap DisplayComponent.members).Perm plan.nodes.keys ∧
      (∀ component ∈ buildDisplayForest plan, ∀ name ∈ component.members, ∀ other,
        other ∈ component.members ↔ Connected plan name other) ∧
      (∀ component ∈ buildDisplayForest plan, component.Rooted plan ∧ component.Spans plan) ∧
      ((buildDisplayForest plan).flatMap DisplayComponent.shown).Perm plan.links := by
  have joined := joined_of_plans (accepted.plans compiled)
  obtain ⟨nodes, components, links⟩ := forestFrom_spec joined plan.nodes.keys_nodup joined.closed fun _ member => member
  refine ⟨nodes, ?_, ?_, ?_⟩
  · intro shown member name inside other
    obtain ⟨first, members, component, rfl⟩ := components shown member
    rw [component.members_eq] at inside ⊢
    have start := (component.mem_iff name).mp inside
    rw [component.mem_iff]
    exact ⟨start.symm.trans, start.trans⟩
  · intro shown member
    obtain ⟨first, members, component, rfl⟩ := components shown member
    exact ⟨component.rooted, component.spans⟩
  · refine links.trans ?_
    rw [List.filter_eq_self.mpr fun link member => decide_eq_true (joined.ends link member).1]

/-- Nodes `a`, `b` and `c` in a circle, with another link between two of them and one from `a` to itself, and `d` alone. -/
def circleDocument : Document :=
  let link (left right : String) : Document := .dict [("endpoints", .list [.str left, .str right])]
  let node : Document := .dict [("kind", .str "linux")]
  .dict [("version", .int 1), ("name", .str "lab"), ("topology", .dict [
    ("nodes", .dict [("a", node), ("b", node), ("c", node), ("d", node)]),
    ("links", .list [link "a:e0" "b:e0", link "b:e1" "c:e0", link "c:e1" "a:e1", link "a:e2" "b:e2", link "a:e3" "a:e4"])])]

/-- The circle has a tree of two links and three links beside it. -/
theorem display_forest_covers_circle : ∃ manifest plan, validateManifest circleDocument = .ok manifest ∧
    compilePlan manifest none = .ok plan ∧
    (buildDisplayForest plan).map (fun component => (component.root, component.edges.length, component.crossLinks.length)) =
      [("a", 2, 3), ("d", 0, 0)] ∧
    ((buildDisplayForest plan).flatMap DisplayComponent.shown).Perm plan.links := by
  obtain ⟨manifest, plan, read, accepted, compiled, test⟩ := Manifest.compiled_of_test circleDocument (by decide +kernel)
    (fun plan => decide ((buildDisplayForest plan).map (fun component =>
      (component.root, component.edges.length, component.crossLinks.length)) = [("a", 2, 3), ("d", 0, 0)])) (by decide +kernel)
  exact ⟨manifest, plan, read, compiled, of_decide_eq_true test, (display_forest_covers accepted none compiled).2.2.2⟩

end Forest

end Nslab.Graph
