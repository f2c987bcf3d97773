import Mathlib.Logic.Relation
import Mathlib.Data.List.Flatten
import Mathlib.Data.List.Pairwise
import Mathlib.Data.List.Perm.Subperm
import Mathlib.Data.List.Nodup

/-! Loops over a worklist. Each turn takes an item off the list and may put others on it,
at the end of a queue or on top of a stack. -/

namespace Worklist

variable {σ α : Type}

/-- Found items go behind the others. -/
def enqueue (todo found : List α) : List α := todo ++ found

/-- Found items go before the others, the first of them on top. -/
def stack (todo found : List α) : List α := found ++ todo

/-- Turns of a loop until its worklist is empty. What is left of the list comes with the state. -/
def run (visit : σ → α → σ × List α) (join : List α → List α → List α) : Nat → σ → List α → σ × List α
  | 0, state, todo => (state, todo)
  | _ + 1, state, [] => (state, [])
  | fuel + 1, state, item :: todo => run visit join fuel (visit state item).1 (join todo (visit state item).2)

/-- A loop whose turns keep an invariant and decrease a measure empties its worklist. -/
theorem run_done {visit : σ → α → σ × List α} {join : List α → List α → List α} {invariant : σ → List α → Prop}
    {measure : σ → List α → Nat}
    (turn : ∀ state item todo, invariant state (item :: todo) →
      invariant (visit state item).1 (join todo (visit state item).2) ∧
        measure (visit state item).1 (join todo (visit state item).2) < measure state (item :: todo))
    {fuel : Nat} {state : σ} {todo : List α} (initial : invariant state todo) (enough : measure state todo ≤ fuel) :
    (run visit join fuel state todo).2 = [] ∧ invariant (run visit join fuel state todo).1 [] := by
  induction fuel generalizing state todo with
  | zero =>
    cases todo with
    | nil => exact ⟨rfl, initial⟩
    | cons item todo =>
      have less := (turn state item todo initial).2
      omega
  | succ fuel ih =>
    cases todo with
    | nil => exact ⟨rfl, initial⟩
    | cons item todo =>
      obtain ⟨keeps, less⟩ := turn state item todo initial
      exact ih keeps (by omega)

section Exploration

open Relation

variable {next : α → α → Prop} {start item : α} {marked todo : List α}

/-- A search from a start: what it marked can be reached, and only marked items that wait have others next to them that are
not marked. -/
structure Explores (next : α → α → Prop) (start : α) (marked todo : List α) : Prop where
  begun : start ∈ marked
  reached : ∀ item ∈ marked, ReflTransGen next start item
  pending : ∀ item ∈ todo, item ∈ marked
  closed : ∀ item ∈ marked, item ∉ todo → ∀ other, next item other → other ∈ marked

theorem Explores.initial (next : α → α → Prop) (start : α) : Explores next start [start] [start] := by
  refine ⟨List.mem_singleton_self _, ?_, fun _ member => member, fun item member absent => absurd member absent⟩
  intro item member
  rw [List.mem_singleton.mp member]

/-- A turn marks what is next to an item and not yet marked. -/
theorem Explores.turn (explores : Explores next start marked (item :: todo)) {found marked' : List α}
    (marks : ∀ other, other ∈ marked' ↔ other ∈ marked ∨ other ∈ found) (sound : ∀ other ∈ found, next item other)
    (complete : ∀ other, next item other → other ∈ marked') : Explores next start marked' (enqueue todo found) := by
  have here := explores.pending item List.mem_cons_self
  constructor
  · exact (marks _).mpr (.inl explores.begun)
  · intro other member
    rcases (marks other).mp member with before | new
    · exact explores.reached other before
    · exact (explores.reached item here).tail (sound other new)
  · intro other member
    rcases List.mem_append.mp member with before | new
    · exact (marks other).mpr (.inl (explores.pending other (List.mem_cons_of_mem _ before)))
    · exact (marks other).mpr (.inr new)
  · intro other member absent target leads
    rw [enqueue, List.mem_append, not_or] at absent
    by_cases same : other = item
    · exact complete target (same ▸ leads)
    · have before := ((marks other).mp member).resolve_right absent.2
      exact (marks target).mpr (.inl (explores.closed other before (by simp [same, absent.1]) target leads))

/-- A search that is over marked exactly what can be reached. -/
theorem Explores.mem_iff (explores : Explores next start marked []) : item ∈ marked ↔ ReflTransGen next start item := by
  constructor
  · exact explores.reached item
  · intro path
    induction path with
    | refl => exact explores.begun
    | tail _ step ih => exact explores.closed _ ih (List.not_mem_nil) _ step

end Exploration

section Trees

open Relation

variable {β : Type} {children : α → List α} {root item : α} {nodes visited todo : List α}

/-- A finite tree: each node is the root or a child of one node, and the root leads to all of them. -/
structure Tree (children : α → List α) (root : α) (nodes : List α) : Prop where
  distinct : nodes.Nodup
  once : (root :: nodes.flatMap children).Perm nodes
  reached : ∀ node ∈ nodes, ReflTransGen (fun parent child => child ∈ children parent) root node

namespace Tree

theorem nodup_once (tree : Tree children root nodes) : (root :: nodes.flatMap children).Nodup :=
  tree.once.nodup_iff.mpr tree.distinct

theorem mem_child (tree : Tree children root nodes) {parent child : α} (member : parent ∈ nodes)
    (below : child ∈ children parent) : child ∈ nodes :=
  tree.once.mem_iff.mp (List.mem_cons_of_mem _ (List.mem_flatMap.mpr ⟨parent, member, below⟩))

theorem children_nodup (tree : Tree children root nodes) {parent : α} (member : parent ∈ nodes) : (children parent).Nodup :=
  (List.nodup_flatMap.mp (List.nodup_cons.mp tree.nodup_once).2).1 parent member

/-- No node has two parents. -/
theorem parent_unique (tree : Tree children root nodes) {parent other child : α} (member : parent ∈ nodes)
    (inside : other ∈ nodes) (below : child ∈ children parent) (under : child ∈ children other) : parent = other := by
  have apart := (List.nodup_flatMap.mp (List.nodup_cons.mp tree.nodup_once).2).2
  have symmetric : Std.Symm (Function.onFun List.Disjoint children) := ⟨fun _ _ disjoint _ right left => disjoint left right⟩
  by_contra differ
  exact apart.forall member inside differ below under

/-- The root has no parent. -/
theorem root_not_child (tree : Tree children root nodes) {parent : α} (member : parent ∈ nodes) : root ∉ children parent :=
  fun below => (List.nodup_cons.mp tree.nodup_once).1 (List.mem_flatMap.mpr ⟨parent, member, below⟩)

end Tree

/-- A walk through a tree: besides the root, the children of visited nodes are visited or wait. -/
structure Walk (children : α → List α) (root : α) (nodes visited todo : List α) : Prop where
  inside : visited.Subperm nodes
  frontier : (visited ++ todo).Perm (root :: visited.flatMap children)

namespace Walk

theorem initial : Walk children root nodes [] [root] := ⟨List.nil_subperm, List.Perm.refl _⟩

/-- No node is met twice. -/
theorem subperm (walk : Walk children root nodes visited todo) (tree : Tree children root nodes) :
    (visited ++ todo).Subperm nodes := by
  obtain ⟨part, same, sublist⟩ := walk.inside
  have below : (root :: visited.flatMap children).Subperm (root :: nodes.flatMap children) :=
    ⟨root :: part.flatMap children, (same.flatMap_right children).cons root, (sublist.flatMap children).cons_cons root⟩
  exact (walk.frontier.subperm.trans below).trans tree.once.subperm

theorem nodup (walk : Walk children root nodes visited todo) (tree : Tree children root nodes) :
    (visited ++ todo).Nodup := by
  obtain ⟨part, same, sublist⟩ := walk.subperm tree
  exact same.nodup_iff.mp (tree.distinct.sublist sublist)

theorem mem_nodes (walk : Walk children root nodes visited todo) (tree : Tree children root nodes) {node : α}
    (member : node ∈ visited ++ todo) : node ∈ nodes :=
  (walk.subperm tree).subset member

/-- A turn visits a waiting node, and its children wait. -/
theorem turn (walk : Walk children root nodes visited (item :: todo)) (tree : Tree children root nodes) {later : List α}
    (joined : later.Perm (todo ++ children item)) : Walk children root nodes (visited ++ [item]) later := by
  constructor
  · have before := walk.subperm tree
    rw [List.append_cons] at before
    exact (List.sublist_append_left (visited ++ [item]) todo).subperm.trans before
  · have frontier := walk.frontier
    rw [List.append_cons] at frontier
    simp only [List.flatMap_append, List.flatMap_cons, List.flatMap_nil, List.append_nil]
    refine (joined.append_left _).trans ?_
    rw [← List.append_assoc]
    exact frontier.append_right (children item)

/-- The children of a waiting node are new. -/
theorem fresh (walk : Walk children root nodes visited (item :: todo)) (tree : Tree children root nodes) :
    (visited ++ item :: todo ++ children item).Nodup := by
  have later := (walk.turn tree (List.Perm.refl _)).nodup tree
  simpa only [List.append_assoc, List.cons_append, List.nil_append] using later

/-- A walk that is over has visited all nodes. -/
theorem over_perm (walk : Walk children root nodes visited []) (tree : Tree children root nodes) : visited.Perm nodes := by
  have frontier := walk.frontier
  rw [List.append_nil] at frontier
  have distinct := walk.nodup tree
  rw [List.append_nil] at distinct
  refine (List.perm_ext_iff_of_nodup distinct tree.distinct).mpr fun node => ⟨fun member => walk.inside.subset member, ?_⟩
  intro member
  have path := tree.reached node member
  clear member
  induction path with
  | refl => exact frontier.mem_iff.mpr List.mem_cons_self
  | tail _ step ih => exact frontier.mem_iff.mpr (List.mem_cons_of_mem _ (List.mem_flatMap.mpr ⟨_, ih, step⟩))

end Walk

/-- A loop that puts the children of every visited node on its list walks through the whole tree. An invariant speaks of the
items visited, besides the state and the list. -/
theorem run_walk {name : β → α} {visit : σ → β → σ × List β} {join : List β → List β → List β}
    {invariant : σ → List β → List β → Prop} (tree : Tree children root nodes)
    (visits : ∀ state visited item todo, invariant state visited (item :: todo) →
      ((visit state item).2.map name).Perm (children (name item)))
    (joins : ∀ todo found : List β, (join todo found).Perm (todo ++ found))
    (turn : ∀ state visited item todo, Walk children root nodes (visited.map name) ((item :: todo).map name) →
      invariant state visited (item :: todo) →
        invariant (visit state item).1 (visited ++ [item]) (join todo (visit state item).2))
    {fuel : Nat} {state : σ} {start : β} (named : name start = root) (initial : invariant state [] [start])
    (enough : nodes.length ≤ fuel) :
    (run visit join fuel state [start]).2 = [] ∧
      ∃ visited, (visited.map name).Perm nodes ∧ invariant (run visit join fuel state [start]).1 visited [] := by
  have whole : ∀ fuel state visited todo, Walk children root nodes (visited.map name) (todo.map name) →
      invariant state visited todo → nodes.length ≤ fuel + visited.length →
      (run visit join fuel state todo).2 = [] ∧
        ∃ visited, (visited.map name).Perm nodes ∧ invariant (run visit join fuel state todo).1 visited [] := by
    intro fuel
    induction fuel with
    | zero =>
      intro state visited todo walk holds bounded
      have length := (walk.subperm tree).length_le
      simp only [List.length_append, List.length_map] at length
      cases todo with
      | nil => exact ⟨rfl, visited, walk.over_perm tree, holds⟩
      | cons item todo =>
        simp only [List.length_cons] at length
        omega
    | succ fuel ih =>
      intro state visited todo walk holds bounded
      cases todo with
      | nil => exact ⟨rfl, visited, walk.over_perm tree, holds⟩
      | cons item todo =>
        refine ih _ (visited ++ [item]) _ ?_ (turn state visited item todo walk holds) ?_
        · rw [List.map_append, List.map_cons, List.map_nil]
          refine walk.turn tree (((joins todo _).map name).trans ?_)
          rw [List.map_append]
          exact (visits state visited item todo holds).append_left _
        · simp only [List.length_append, List.length_singleton]
          omega
  exact whole fuel state [] [start] (by simpa [named] using Walk.initial) initial (by simpa using enough)

end Trees

end Worklist
