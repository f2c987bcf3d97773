import Mathlib.Data.List.Basic
import Nslab.Library.Worklist
import Nslab.Library.Collections
import Nslab.Plan.Interfaces

/-! The display forest of a topology: one tree for every set of nodes that links
connect, drawn from the node with most links, and the links left over. -/

namespace Nslab.Graph

open Worklist Relation

section Components

structure DisplayEdge where
  link : LinkPlan
  parent : String
  child : String
  parentInterface : String
  childInterface : String
deriving DecidableEq

structure DisplayComponent where
  root : String
  children : Dict String (List DisplayEdge)
  crossLinks : List LinkPlan
deriving DecidableEq

def DisplayComponent.members (component : DisplayComponent) : List String := component.children.keys

def DisplayComponent.edges (component : DisplayComponent) : List DisplayEdge := component.children.values.flatten

def orientedEdge (link : LinkPlan) (parent child : String) : DisplayEdge :=
  if link.left.node = parent ∧ link.right.node = child then
    ⟨link, parent, child, link.left.interface, link.right.interface⟩
  else ⟨link, parent, child, link.right.interface, link.left.interface⟩

/-- The links at a node with the node at their other end. A link from the node to itself stands there twice. -/
def adjacency (plan : TopologyPlan) (name : String) : List (LinkPlan × String) :=
  plan.links.flatMap fun link =>
    (if link.left.node = name then [(link, link.right.node)] else []) ++
      if link.right.node = name then [(link, link.left.node)] else []

/-- The neighbors that remain. What is left of them comes first. -/
def takeRemaining (remaining : List String) : List (LinkPlan × String) → List String × List String
  | [] => (remaining, [])
  | (_, neighbor) :: rest =>
    if neighbor ∈ remaining then
      let (left, found) := takeRemaining (remaining.erase neighbor) rest
      (left, neighbor :: found)
    else takeRemaining remaining rest

/-- A turn of the search for the members of a component, with the members and what remains. -/
def visitMember (plan : TopologyPlan) (state : List String × List String) (current : String) :
    (List String × List String) × List String :=
  let (remaining, found) := takeRemaining state.2 (adjacency plan current)
  ((state.1 ++ [current], remaining), found)

def collectMembers (plan : TopologyPlan) (first : String) (remaining : List String) : List String × List String :=
  (run (visitMember plan) enqueue (remaining.length + 1) ([], remaining) [first]).1

/-- `(-len(adjacency[left]), order[left]) < (-len(adjacency[right]), order[right])`. -/
def precedes (plan : TopologyPlan) (left right : String) : Bool :=
  (adjacency plan right).length < (adjacency plan left).length ||
    ((adjacency plan left).length = (adjacency plan right).length && plan.nodes.keys.idxOf left < plan.nodes.keys.idxOf right)

/-- The member with most links, the first of them in the order of the plan. -/
def chooseRoot (plan : TopologyPlan) (first : String) (members : List String) : String :=
  members.foldl (fun least name => if precedes plan name least then name else least) first

/-- The nodes seen, the indexes of the tree links and the edges in the order in which they are appended to the children of
their parents. -/
structure TreeState where
  seen : List String
  treeLinks : List Nat
  edges : List DisplayEdge

def TreeState.add (state : TreeState) (link : LinkPlan) (parent child : String) : TreeState where
  seen := child :: state.seen
  treeLinks := link.index :: state.treeLinks
  edges := state.edges ++ [orientedEdge link parent child]

/-- Edges to the neighbors that are not yet seen. -/
def growFrom (parent : String) (state : TreeState) : List (LinkPlan × String) → TreeState × List String
  | [] => (state, [])
  | (link, child) :: rest =>
    if child ∈ state.seen then growFrom parent state rest
    else
      let (grown, found) := growFrom parent (state.add link parent child) rest
      (grown, child :: found)

def visitTree (plan : TopologyPlan) (state : TreeState) (parent : String) : TreeState × List String :=
  growFrom parent state (adjacency plan parent)

def growTree (plan : TopologyPlan) (root : String) (members : List String) : TreeState :=
  (run (visitTree plan) enqueue members.length ⟨[root], [], []⟩ [root]).1

def displayComponent (plan : TopologyPlan) (first : String) (members : List String) : DisplayComponent :=
  let root := chooseRoot plan first members
  let tree := growTree plan root members
  { root
    children := Dict.ofEntries (members.map fun name => (name, tree.edges.filter (·.parent = name)))
    crossLinks := plan.links.filter fun link =>
      link.index ∉ tree.treeLinks ∧ link.left.node ∈ members ∧ link.right.node ∈ members }

/-- The components of the nodes that remain, in the order of their first nodes. -/
def forestFrom (plan : TopologyPlan) (remaining : List String) : List String → List DisplayComponent
  | [] => []
  | first :: rest =>
    if first ∈ remaining then
      let (members, left) := collectMembers plan first (remaining.erase first)
      displayComponent plan first members :: forestFrom plan left rest
    else forestFrom plan remaining rest

def buildDisplayForest (plan : TopologyPlan) : List DisplayComponent := forestFrom plan plan.nodes.keys plan.nodes.keys

end Components

section Adjacency

variable {plan : TopologyPlan} {name other : String} {link : LinkPlan}

/-- A link joins two nodes, in either direction. -/
def Joins (link : LinkPlan) (left right : String) : Prop :=
  link.left.node = left ∧ link.right.node = right ∨ link.right.node = left ∧ link.left.node = right

/-- Some link joins two nodes. -/
def Adjacent (plan : TopologyPlan) (left right : String) : Prop := ∃ link ∈ plan.links, Joins link left right

theorem mem_adjacency : (link, other) ∈ adjacency plan name ↔ link ∈ plan.links ∧ Joins link name other := by
  simp only [adjacency, List.mem_flatMap, List.mem_append, Joins]
  constructor
  · rintro ⟨found, member, left | right⟩
    · split at left
      next own =>
        obtain ⟨rfl, rfl⟩ := Prod.mk.inj (List.mem_singleton.mp left)
        exact ⟨member, .inl ⟨own, rfl⟩⟩
      next => cases left
    · split at right
      next own =>
        obtain ⟨rfl, rfl⟩ := Prod.mk.inj (List.mem_singleton.mp right)
        exact ⟨member, .inr ⟨own, rfl⟩⟩
      next => cases right
  · rintro ⟨member, ⟨own, rfl⟩ | ⟨own, rfl⟩⟩
    · exact ⟨link, member, .inl (by rw [if_pos own]; exact List.mem_singleton_self _)⟩
    · exact ⟨link, member, .inr (by rw [if_pos own]; exact List.mem_singleton_self _)⟩

theorem adjacent_iff : Adjacent plan name other ↔ ∃ entry ∈ adjacency plan name, entry.2 = other := by
  simp only [Adjacent, Prod.exists, mem_adjacency]
  constructor
  · intro given
    obtain ⟨link, joins⟩ := given
    exact ⟨link, other, joins, rfl⟩
  · rintro ⟨link, _, joins, rfl⟩
    exact ⟨link, joins⟩

theorem Adjacent.symm (adjacent : Adjacent plan name other) : Adjacent plan other name := by
  obtain ⟨link, member, ⟨left, right⟩ | ⟨right, left⟩⟩ := adjacent
  · exact ⟨link, member, .inr ⟨right, left⟩⟩
  · exact ⟨link, member, .inl ⟨left, right⟩⟩

/-- Nodes that a chain of links connects. -/
abbrev Connected (plan : TopologyPlan) : String → String → Prop := ReflTransGen (Adjacent plan)

theorem Connected.symm (connected : Connected plan name other) : Connected plan other name := by
  induction connected with
  | refl => exact .refl
  | tail _ step ih => exact ih.head step.symm

end Adjacency

section Members

variable {plan : TopologyPlan}

/-- Neighbors that remain are taken, each once, and no neighbor remains. -/
theorem takeRemaining_spec {remaining : List String} (distinct : remaining.Nodup) (entries : List (LinkPlan × String)) :
    ((takeRemaining remaining entries).2 ++ (takeRemaining remaining entries).1).Perm remaining ∧
      (∀ name ∈ (takeRemaining remaining entries).2, ∃ entry ∈ entries, entry.2 = name) ∧
      ∀ entry ∈ entries, entry.2 ∉ (takeRemaining remaining entries).1 := by
  induction entries generalizing remaining with
  | nil => simp [takeRemaining]
  | cons entry rest ih =>
    rw [takeRemaining]
    split
    next inside =>
      obtain ⟨perm, sound, absent⟩ := ih (distinct.erase entry.2)
      refine ⟨?_, ?_, ?_⟩
      · exact (perm.cons entry.2).trans (List.perm_cons_erase inside).symm
      · intro name member
        rcases List.mem_cons.mp member with here | later
        · exact ⟨entry, List.mem_cons_self, here.symm⟩
        · obtain ⟨found, listed, same⟩ := sound name later
          exact ⟨found, List.mem_cons_of_mem _ listed, same⟩
      · intro found listed remains
        rcases List.mem_cons.mp listed with here | later
        · subst here
          have still := perm.mem_iff.mp (List.mem_append_right _ remains)
          exact distinct.not_mem_erase still
        · exact absent found later remains
    next outside =>
      obtain ⟨perm, sound, absent⟩ := ih distinct
      refine ⟨perm, ?_, ?_⟩
      · intro name member
        obtain ⟨found, listed, same⟩ := sound name member
        exact ⟨found, List.mem_cons_of_mem _ listed, same⟩
      · intro found listed remains
        rcases List.mem_cons.mp listed with here | later
        · subst here
          exact outside (perm.mem_iff.mp (List.mem_append_right _ remains))
        · exact absent found later remains

/-- Members, waiting nodes and those that remain make up the nodes that remained before, and the search goes by links. -/
structure Collects (plan : TopologyPlan) (first : String) (whole : List String) (state : List String × List String)
    (queue : List String) : Prop where
  parts : (state.1 ++ queue ++ state.2).Perm whole
  explores : Explores (Adjacent plan) first (state.1 ++ queue) queue

/-- Nodes that links lead to from some nodes are among them. -/
def Closed (plan : TopologyPlan) (names : List String) : Prop :=
  ∀ name ∈ names, ∀ other, Adjacent plan name other → other ∈ names

theorem Collects.turn {first current : String} {whole queue : List String} {state : List String × List String}
    (distinct : whole.Nodup) (closed : Closed plan whole) (collects : Collects plan first whole state (current :: queue)) :
    Collects plan first whole (visitMember plan state current).1 (enqueue queue (visitMember plan state current).2) ∧
      (visitMember plan state current).1.2.length + (enqueue queue (visitMember plan state current).2).length <
        state.2.length + (current :: queue).length := by
  have apart : state.2.Nodup := (List.nodup_append.mp (collects.parts.nodup_iff.mpr distinct)).2.1
  obtain ⟨perm, sound, absent⟩ := takeRemaining_spec apart (adjacency plan current)
  have lengths := perm.length_eq
  simp only [visitMember]
  generalize takeRemaining state.2 (adjacency plan current) = taken at perm sound absent lengths
  have parts : (state.1 ++ [current] ++ enqueue queue taken.2 ++ taken.1).Perm whole := by
    refine List.Perm.trans ?_ collects.parts
    simp only [enqueue, List.append_assoc, List.cons_append]
    exact (List.Perm.append_left queue perm).cons current |>.append_left state.1
  refine ⟨⟨parts, ?_⟩, ?_⟩
  · have member : current ∈ whole := collects.parts.mem_iff.mp (by simp)
    have marks : ∀ other, other ∈ state.1 ++ [current] ++ enqueue queue taken.2 ↔
        other ∈ state.1 ++ current :: queue ∨ other ∈ taken.2 := by
      intro other
      simp [enqueue, or_assoc]
    refine collects.explores.turn marks (fun other found => adjacent_iff.mpr (sound other found)) fun other leads => ?_
    have inside := parts.mem_iff.mpr (closed current member other leads)
    obtain ⟨entry, listed, same⟩ := adjacent_iff.mp leads
    exact (List.mem_append.mp inside).resolve_right (same ▸ absent entry listed)
  · simp only [enqueue, List.length_append, List.length_cons] at lengths ⊢
    omega

/-- The members found are the nodes connected with the first, and the others remain. -/
theorem collectMembers_spec {first : String} {remaining : List String} (distinct : (first :: remaining).Nodup)
    (closed : Closed plan (first :: remaining)) :
    ((collectMembers plan first remaining).1 ++ (collectMembers plan first remaining).2).Perm (first :: remaining) ∧
      ∀ name, name ∈ (collectMembers plan first remaining).1 ↔ Connected plan first name := by
  have initial : Collects plan first (first :: remaining) ([], remaining) [first] :=
    ⟨List.Perm.refl _, Explores.initial _ _⟩
  have done := (@run_done _ _ (visitMember plan) enqueue (Collects plan first (first :: remaining))
    (fun state queue => state.2.length + queue.length) (fun _ _ _ collects => collects.turn distinct closed) _ _ _
    initial le_rfl).2
  have parts := done.parts
  have marked : ∀ name, name ∈ _ ↔ _ := fun name => @Explores.mem_iff _ _ _ name _ done.explores
  simp only [List.append_nil] at parts marked
  exact ⟨parts, marked⟩

end Members

section Trees

variable {plan : TopologyPlan} {members : List String} {root : String} {state : TreeState}

/-- An edge of the display is a link of the plan, with the ends where its nodes are. -/
def DisplayEdge.Wires (edge : DisplayEdge) (plan : TopologyPlan) : Prop :=
  edge.link ∈ plan.links ∧
    ((edge.link.left.node, edge.link.left.interface) = (edge.parent, edge.parentInterface) ∧
        (edge.link.right.node, edge.link.right.interface) = (edge.child, edge.childInterface) ∨
      (edge.link.right.node, edge.link.right.interface) = (edge.parent, edge.parentInterface) ∧
        (edge.link.left.node, edge.link.left.interface) = (edge.child, edge.childInterface))

theorem DisplayEdge.Wires.joins {edge : DisplayEdge} (wires : edge.Wires plan) : Joins edge.link edge.parent edge.child := by
  obtain ⟨_, ⟨left, right⟩ | ⟨right, left⟩⟩ := wires
  · exact .inl ⟨(Prod.mk.inj left).1, (Prod.mk.inj right).1⟩
  · exact .inr ⟨(Prod.mk.inj right).1, (Prod.mk.inj left).1⟩

theorem orientedEdge_nodes (link : LinkPlan) (parent child : String) : (orientedEdge link parent child).link = link ∧
    (orientedEdge link parent child).parent = parent ∧ (orientedEdge link parent child).child = child := by
  unfold orientedEdge
  split <;> exact ⟨rfl, rfl, rfl⟩

theorem orientedEdge_wires {link : LinkPlan} {parent child : String} (member : link ∈ plan.links)
    (joins : Joins link parent child) : (orientedEdge link parent child).Wires plan := by
  unfold orientedEdge
  split
  next own => exact ⟨member, .inl ⟨Prod.ext own.1 rfl, Prod.ext own.2 rfl⟩⟩
  next other =>
    obtain ⟨right, left⟩ := joins.resolve_left other
    exact ⟨member, .inr ⟨Prod.ext right rfl, Prod.ext left rfl⟩⟩

/-- An edge leads from a parent to a child. -/
def Below (edges : List DisplayEdge) (parent child : String) : Prop := ∃ edge ∈ edges, edge.parent = parent ∧ edge.child = child

/-- What the search for a tree has built so far is a tree of links from its root to the nodes seen. -/
structure Grown (plan : TopologyPlan) (members : List String) (root : String) (state : TreeState) : Prop where
  distinct : state.seen.Nodup
  marks : state.seen.Perm (root :: state.edges.map (·.child))
  inside : ∀ name ∈ state.seen, name ∈ members
  parents : ∀ edge ∈ state.edges, edge.parent ∈ state.seen
  wired : ∀ edge ∈ state.edges, edge.Wires plan
  indexes : state.treeLinks.Perm (state.edges.map (·.link.index))
  once : (state.edges.map (·.link)).Nodup
  reached : ∀ name ∈ state.seen, ReflTransGen (Below state.edges) root name

theorem Grown.initial (member : root ∈ members) : Grown plan members root ⟨[root], [], []⟩ := by
  refine ⟨List.nodup_singleton _, List.Perm.refl _, ?_, List.forall_mem_nil _, List.forall_mem_nil _, List.Perm.refl _,
    List.nodup_nil, ?_⟩
  · intro name here
    rwa [List.mem_singleton.mp here]
  · intro name here
    rw [List.mem_singleton.mp here]

theorem Grown.child (grown : Grown plan members root state) {edge : DisplayEdge} (member : edge ∈ state.edges) :
    edge.child ∈ state.seen :=
  grown.marks.mem_iff.mpr (List.mem_cons_of_mem _ (List.mem_map_of_mem member))

/-- A link to a node that is not seen is not yet in the tree, and makes it larger. -/
theorem Grown.add (grown : Grown plan members root state) {link : LinkPlan} {parent child : String} (member : link ∈ plan.links)
    (joins : Joins link parent child) (seen : parent ∈ state.seen) (unseen : child ∉ state.seen) (inside : child ∈ members) :
    Grown plan members root (state.add link parent child) := by
  obtain ⟨sameLink, sameParent, sameChild⟩ := orientedEdge_nodes link parent child
  have wires := orientedEdge_wires member joins
  have more : ∀ first second, Below state.edges first second → Below (state.add link parent child).edges first second := by
    intro first second given
    obtain ⟨edge, listed, ends⟩ := given
    exact ⟨edge, List.mem_append_left _ listed, ends⟩
  constructor
  · exact List.nodup_cons.mpr ⟨unseen, grown.distinct⟩
  · simp only [TreeState.add, List.map_append, List.map_cons, List.map_nil, sameChild]
    have front := (grown.marks.cons child).trans (List.Perm.swap root child _)
    exact front.trans ((List.perm_append_singleton child (state.edges.map (·.child))).symm.cons root)
  · exact List.forall_mem_cons.mpr ⟨inside, grown.inside⟩
  · intro edge listed
    refine List.mem_cons_of_mem _ ?_
    rcases List.mem_append.mp listed with before | new
    · exact grown.parents edge before
    · rwa [List.mem_singleton.mp new, sameParent]
  · intro edge listed
    rcases List.mem_append.mp listed with before | new
    · exact grown.wired edge before
    · rwa [List.mem_singleton.mp new]
  · simp only [TreeState.add, List.map_append, List.map_cons, List.map_nil, sameLink]
    exact (grown.indexes.cons link.index).trans (List.perm_append_singleton _ _).symm
  · simp only [TreeState.add, List.map_append, List.map_cons, List.map_nil, sameLink]
    refine List.nodup_append.mpr ⟨grown.once, List.nodup_singleton _, ?_⟩
    rintro other listed _ new rfl
    rw [List.mem_singleton.mp new] at listed
    obtain ⟨edge, before, same⟩ := List.mem_map.mp listed
    have ends := (grown.wired edge before).joins
    have parentSeen := grown.parents edge before
    have childSeen := grown.child before
    rw [same] at ends
    -- The child is an end of the link, and both ends of a tree link are seen.
    rcases joins with ⟨left, right⟩ | ⟨right, left⟩ <;> rcases ends with ⟨first, second⟩ | ⟨first, second⟩
    · exact unseen (right ▸ second ▸ childSeen)
    · exact unseen (right ▸ first ▸ parentSeen)
    · exact unseen (left ▸ first ▸ parentSeen)
    · exact unseen (left ▸ second ▸ childSeen)
  · intro name listed
    rcases List.mem_cons.mp listed with new | before
    · rw [new]
      refine ReflTransGen.tail (ReflTransGen.mono more _ _ (grown.reached parent seen)) ?_
      exact ⟨_, List.mem_append_right _ (List.mem_singleton_self _), sameParent, sameChild⟩
    · exact ReflTransGen.mono more _ _ (grown.reached name before)

/-- The neighbors of a node are seen after its turn, those that were not seen before through new edges. -/
theorem growFrom_spec (grown : Grown plan members root state) (closed : Closed plan members) {parent : String}
    (seen : parent ∈ state.seen) {entries : List (LinkPlan × String)}
    (listed : ∀ entry ∈ entries, entry.1 ∈ plan.links ∧ Joins entry.1 parent entry.2) :
    Grown plan members root (growFrom parent state entries).1 ∧
      (∀ name, name ∈ (growFrom parent state entries).1.seen ↔ name ∈ state.seen ∨ name ∈ (growFrom parent state entries).2) ∧
      (∀ name ∈ (growFrom parent state entries).2, ∃ entry ∈ entries, entry.2 = name) ∧
      (∀ entry ∈ entries, entry.2 ∈ (growFrom parent state entries).1.seen) ∧
      (growFrom parent state entries).1.seen.length = state.seen.length + (growFrom parent state entries).2.length := by
  induction entries generalizing state with
  | nil => exact ⟨grown, fun name => by simp [growFrom], List.forall_mem_nil _, List.forall_mem_nil _, rfl⟩
  | cons entry rest ih =>
    obtain ⟨link, child⟩ := entry
    obtain ⟨⟨member, joins⟩, later⟩ := List.forall_mem_cons.mp listed
    rw [growFrom]
    split
    next old =>
      obtain ⟨larger, marks, sound, complete, lengths⟩ := ih grown seen later
      refine ⟨larger, marks, ?_, List.forall_mem_cons.mpr ⟨(marks child).mpr (.inl old), complete⟩, lengths⟩
      intro name found
      obtain ⟨entry, inside, same⟩ := sound name found
      exact ⟨entry, List.mem_cons_of_mem _ inside, same⟩
    next new =>
      have inside := closed parent (grown.inside parent seen) child ⟨link, member, joins⟩
      obtain ⟨larger, marks, sound, complete, lengths⟩ :=
        ih (grown.add member joins seen new inside) (List.mem_cons_of_mem _ seen) later
      have first := (marks child).mpr (.inl List.mem_cons_self)
      refine ⟨larger, ?_, ?_, List.forall_mem_cons.mpr ⟨first, complete⟩, ?_⟩
      · intro name
        rw [marks name, TreeState.add]
        simp only [List.mem_cons, or_assoc, or_left_comm]
      · intro name found
        rcases List.mem_cons.mp found with here | later
        · exact ⟨_, List.mem_cons_self, here.symm⟩
        · obtain ⟨entry, inside, same⟩ := sound name later
          exact ⟨entry, List.mem_cons_of_mem _ inside, same⟩
      · simp only [TreeState.add, List.length_cons] at lengths ⊢
        omega

/-- The search for a tree between its turns. -/
structure Grows (plan : TopologyPlan) (members : List String) (root : String) (state : TreeState)
    (queue : List String) : Prop where
  grown : Grown plan members root state
  explores : Explores (Adjacent plan) root state.seen queue

theorem Grows.turn (closed : Closed plan members) {parent : String} {queue : List String}
    (grows : Grows plan members root state (parent :: queue)) :
    Grows plan members root (visitTree plan state parent).1 (enqueue queue (visitTree plan state parent).2) ∧
      members.length - (visitTree plan state parent).1.seen.length + (enqueue queue (visitTree plan state parent).2).length <
        members.length - state.seen.length + (parent :: queue).length := by
  have seen := grows.explores.pending parent List.mem_cons_self
  obtain ⟨grown, marks, sound, complete, lengths⟩ := @growFrom_spec plan members root state grows.grown closed parent seen
    (adjacency plan parent) fun entry inside => mem_adjacency.mp inside
  have bounded : (growFrom parent state (adjacency plan parent)).1.seen.length ≤ members.length :=
    (grown.distinct.subperm grown.inside).length_le
  refine ⟨⟨grown, grows.explores.turn marks (fun name found => adjacent_iff.mpr (sound name found)) fun name leads => ?_⟩, ?_⟩
  · obtain ⟨entry, listed, same⟩ := adjacent_iff.mp leads
    exact same ▸ complete entry listed
  · simp only [visitTree, enqueue, List.length_append, List.length_cons]
    omega

/-- The search for a tree ends with a tree of all members that are connected with its root. -/
theorem growTree_spec (closed : Closed plan members) (member : root ∈ members) :
    Grown plan members root (growTree plan root members) ∧
      ∀ name, name ∈ (growTree plan root members).seen ↔ Connected plan root name := by
  have initial : Grows plan members root ⟨[root], [], []⟩ [root] := ⟨Grown.initial member, Explores.initial _ _⟩
  have filled : 0 < members.length := List.length_pos_of_mem member
  have done := (@run_done _ _ (visitTree plan) enqueue (Grows plan members root)
    (fun state queue => members.length - state.seen.length + queue.length) (fun _ _ _ grows => grows.turn closed)
    members.length _ _ initial (by simp only [List.length_singleton]; omega)).2
  exact ⟨done.grown, fun name => done.explores.mem_iff⟩

end Trees

end Nslab.Graph
