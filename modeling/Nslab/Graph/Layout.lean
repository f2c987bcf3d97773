import Nslab.Graph.ForestCover

/-! Where the boxes of a component are drawn: layers by depth, every subtree in a span
of its own. -/

namespace Nslab.Graph

open Worklist Relation

section Boxes

structure Box where
  width : Nat
  height : Nat
deriving DecidableEq

structure Placement where
  node : String
  x : Int
  y : Int
  box : Box
deriving DecidableEq

def siblingGap : Nat := 5

def layerGap : Nat := 5

/-- The edges from a node to its children. -/
def DisplayComponent.edgesOf (component : DisplayComponent) (name : String) : List DisplayEdge :=
  (component.children.get? name).getD []

def DisplayComponent.childrenOf (component : DisplayComponent) (name : String) : List String :=
  (component.edgesOf name).map (·.child)

def DisplayEdge.label (edge : DisplayEdge) : String := edge.parentInterface ++ " ↔ " ++ edge.childInterface

/-- The number kept for a name. -/
def kept (numbers : Dict String Nat) (name : String) : Nat := (numbers.get? name).getD 0

def deepen (parent : String) (depths : Dict String Nat) (edge : DisplayEdge) : Dict String Nat :=
  depths.insert edge.child (kept depths parent + 1)

def visitDepth (component : DisplayComponent) (depths : Dict String Nat) (parent : String) : Dict String Nat × List String :=
  ((component.edgesOf parent).foldl (deepen parent) depths, component.childrenOf parent)

def treeDepths (component : DisplayComponent) : Dict String Nat :=
  (run (visitDepth component) enqueue component.members.length (Dict.empty.insert component.root 0) [component.root]).1

/-- The height of the highest box of a layer. -/
def layerHeight (depths : Dict String Nat) (boxes : String → Box) (depth : Nat) : Nat :=
  ((depths.entries.filter (·.2 = depth)).map fun entry => (boxes entry.1).height).foldl max 0

def layerTop (depths : Dict String Nat) (boxes : String → Box) : Nat → Nat
  | 0 => 0
  | depth + 1 => layerTop depths boxes depth + layerHeight depths boxes depth + layerGap

/-- The last child is on top of the stack. -/
def visitPreorder (component : DisplayComponent) (traversal : List String) (node : String) : List String × List String :=
  (traversal ++ [node], (component.childrenOf node).reverse)

def preorder (component : DisplayComponent) : List String :=
  (run (visitPreorder component) stack component.members.length [] [component.root]).1

/-- A child spans at least the label of its edge. -/
def stretch (state : Dict String Nat × List Nat) (edge : DisplayEdge) : Dict String Nat × List Nat :=
  let childSpan := max (kept state.1 edge.child) edge.label.length
  (state.1.insert edge.child childSpan, state.2 ++ [childSpan])

def widen (component : DisplayComponent) (boxes : String → Box) (widths : Dict String Nat) (node : String) : Dict String Nat :=
  let (widths, childSpans) := (component.edgesOf node).foldl stretch (widths, [])
  let childrenWidth := if childSpans = [] then 0 else childSpans.sum + siblingGap * (childSpans.length - 1)
  widths.insert node (max (boxes node).width childrenWidth)

def subtreeWidths (component : DisplayComponent) (boxes : String → Box) : Dict String Nat :=
  (preorder component).reverse.foldl (widen component boxes) Dict.empty

def childPositions (widths : Dict String Nat) (left : Int) : List DisplayEdge → List (String × Int)
  | [] => []
  | edge :: rest => (edge.child, left) :: childPositions widths (left + kept widths edge.child + siblingGap) rest

/-- The box of a node in the middle of its span. -/
def place (depths widths : Dict String Nat) (boxes : String → Box) (item : String × Int) : Placement where
  node := item.1
  x := item.2 + (kept widths item.1 - (boxes item.1).width : Int) / 2
  y := layerTop depths boxes (kept depths item.1)
  box := boxes item.1

def visitPlacement (component : DisplayComponent) (depths widths : Dict String Nat) (boxes : String → Box)
    (placements : List Placement) (item : String × Int) : List Placement × List (String × Int) :=
  let children := component.edgesOf item.1
  let childrenWidth := (children.map fun edge => kept widths edge.child).sum + siblingGap * (children.length - 1)
  (placements ++ [place depths widths boxes item],
    childPositions widths (item.2 + (kept widths item.1 - childrenWidth : Int) / 2) children)

def placeComponent (component : DisplayComponent) (boxes : String → Box) : List Placement :=
  (run (visitPlacement component (treeDepths component) (subtreeWidths component boxes) boxes) stack
    component.members.length [] [(component.root, 0)]).1

end Boxes

section Drawing

abbrev Cell := Int × Int

/-- The cells that a line connects, between two columns of a row. -/
def horizontal (y start finish : Int) : List Cell :=
  (List.range (max start finish - min start finish).toNat).flatMap fun (offset : Nat) =>
    [(min start finish + offset, y), (min start finish + offset + 1, y)]

def vertical (x start finish : Int) : List Cell :=
  (List.range (max start finish - min start finish).toNat).flatMap fun (offset : Nat) =>
    [(x, min start finish + offset), (x, min start finish + offset + 1)]

def textCells (x y : Int) (value : String) : List Cell := (List.range value.length).map fun (offset : Nat) => (x + offset, y)

/-- The lines of an edge and the cells of its label. -/
structure Drawing where
  lines : List Cell
  label : List Cell
deriving DecidableEq

def drawTreeEdge (parent child : Placement) (edge : DisplayEdge) : Drawing :=
  let parentX := parent.x + parent.box.width / 2
  let parentBottom := parent.y + parent.box.height - 1
  let childX := child.x + child.box.width / 2
  let childTop := child.y
  let branchY := parentBottom + 2
  let labelY := childTop - 2
  { lines := vertical parentX parentBottom branchY ++ horizontal branchY parentX childX ++
      vertical childX branchY (labelY - 1) ++ vertical childX (labelY + 1) childTop
    label := textCells (childX - edge.label.length / 2) labelY edge.label }

/-- The drawings of all edges between the boxes of their nodes. -/
def drawnEdges (component : DisplayComponent) (placements : List Placement) : List (DisplayEdge × Drawing) :=
  component.edges.filterMap fun edge => do
    let parent ← placements.find? (·.node = edge.parent)
    let child ← placements.find? (·.node = edge.child)
    pure (edge, drawTreeEdge parent child edge)

/-- A cell of the box of a placement. -/
def Placement.Covers (placement : Placement) (cell : Cell) : Prop :=
  placement.x ≤ cell.1 ∧ cell.1 < placement.x + placement.box.width ∧
    placement.y ≤ cell.2 ∧ cell.2 < placement.y + placement.box.height

theorem mem_horizontal {y start finish : Int} {cell : Cell} (member : cell ∈ horizontal y start finish) :
    cell.2 = y ∧ min start finish ≤ cell.1 ∧ cell.1 ≤ max start finish := by
  obtain ⟨offset, inside, here⟩ := List.mem_flatMap.mp member
  have below := List.mem_range.mp inside
  simp only [List.mem_cons, List.not_mem_nil, or_false] at here
  rcases here with rfl | rfl
  · exact ⟨rfl, by omega, by omega⟩
  · exact ⟨rfl, by omega, by omega⟩

theorem mem_vertical {x start finish : Int} {cell : Cell} (member : cell ∈ vertical x start finish) :
    cell.1 = x ∧ min start finish ≤ cell.2 ∧ cell.2 ≤ max start finish := by
  obtain ⟨offset, inside, here⟩ := List.mem_flatMap.mp member
  have below := List.mem_range.mp inside
  simp only [List.mem_cons, List.not_mem_nil, or_false] at here
  rcases here with rfl | rfl
  · exact ⟨rfl, by omega, by omega⟩
  · exact ⟨rfl, by omega, by omega⟩

theorem mem_textCells {x y : Int} {value : String} {cell : Cell} (member : cell ∈ textCells x y value) :
    cell.2 = y ∧ x ≤ cell.1 ∧ cell.1 < x + value.length := by
  obtain ⟨offset, inside, rfl⟩ := List.mem_map.mp member
  have below := List.mem_range.mp inside
  exact ⟨rfl, by omega, by omega⟩

end Drawing

section Trees

variable {component : DisplayComponent}

/-- The children of a component make up a tree from its root. -/
structure DisplayComponent.IsTree (component : DisplayComponent) : Prop where
  keyed : ∀ name edges, component.children.get? name = some edges → ∀ edge ∈ edges, edge.parent = name
  once : (component.root :: component.edges.map (·.child)).Perm component.members
  reached : ∀ name ∈ component.members, ReflTransGen (Below component.edges) component.root name

theorem DisplayComponent.Spans.isTree {plan : TopologyPlan} (spans : component.Spans plan) : component.IsTree :=
  ⟨spans.keyed, spans.once, spans.reached⟩

theorem DisplayComponent.edges_eq (component : DisplayComponent) :
    component.edges = component.members.flatMap component.edgesOf := by
  have each : ∀ entry ∈ component.children.entries, component.edgesOf entry.1 = entry.2 := by
    intro entry member
    rw [edgesOf, Dict.get?_iff.mpr member, Option.getD_some]
  rw [DisplayComponent.edges, Dict.values, DisplayComponent.members, Dict.keys, List.flatMap_map, ← List.flatMap_def]
  exact (List.flatMap_congr each).symm

namespace DisplayComponent.IsTree

variable (tree : component.IsTree)

include tree

theorem mem_edgesOf {name : String} {edge : DisplayEdge} :
    edge ∈ component.edgesOf name ↔ edge ∈ component.edges ∧ edge.parent = name := by
  have listed : ∀ {name : String} {edge : DisplayEdge}, edge ∈ component.edgesOf name →
      name ∈ component.members ∧ edge.parent = name := by
    intro name edge member
    rw [edgesOf] at member
    cases found : component.children.get? name with
    | none =>
      rw [found] at member
      cases member
    | some edges =>
      rw [found, Option.getD_some] at member
      exact ⟨Dict.mem_keys_of_get? found, tree.keyed name edges found edge member⟩
  rw [component.edges_eq, List.mem_flatMap]
  constructor
  · intro member
    obtain ⟨inside, same⟩ := listed member
    exact ⟨⟨name, inside, member⟩, same⟩
  · rintro ⟨⟨other, _, member⟩, rfl⟩
    rwa [(listed member).2]

theorem mem_childrenOf {parent child : String} : child ∈ component.childrenOf parent ↔ Below component.edges parent child := by
  simp only [childrenOf, List.mem_map, tree.mem_edgesOf, Below, and_assoc]

theorem toTree : Tree component.childrenOf component.root component.members := by
  refine ⟨component.children.keys_nodup, ?_, fun name member => ?_⟩
  · have children : component.members.flatMap component.childrenOf = component.edges.map (·.child) := by
      rw [component.edges_eq, List.map_flatMap]
      rfl
    rw [children]
    exact tree.once
  · refine ReflTransGen.mono ?_ _ _ (tree.reached name member)
    exact fun parent child below => tree.mem_childrenOf.mpr below

end DisplayComponent.IsTree

end Trees

section Depths

variable {component : DisplayComponent}

theorem kept_insert (numbers : Dict String Nat) (name other : String) (number : Nat) :
    kept (numbers.insert name number) other = if other = name then number else kept numbers other := by
  rw [kept, Dict.get?_insert]
  split <;> rfl

theorem mem_keys_insert (numbers : Dict String Nat) (name other : String) (number : Nat) :
    other ∈ (numbers.insert name number).keys ↔ other = name ∨ other ∈ numbers.keys := by
  rw [Dict.keys_insert]
  split
  next inside =>
    constructor
    · exact .inr
    · rintro (rfl | member)
      · exact inside
      · exact member
  next => rw [List.mem_append, List.mem_singleton, or_comm]

/-- The children of a node lie one layer below it. -/
theorem kept_deepen {parent : String} {edges : List DisplayEdge} (apart : parent ∉ edges.map (·.child))
    (depths : Dict String Nat) (name : String) :
    kept (edges.foldl (deepen parent) depths) name =
      if name ∈ edges.map (·.child) then kept depths parent + 1 else kept depths name := by
  induction edges generalizing depths with
  | nil => rfl
  | cons edge rest ih =>
    rw [List.map_cons, List.mem_cons, not_or] at apart
    have same : kept (deepen parent depths edge) parent = kept depths parent := by
      rw [deepen, kept_insert, if_neg apart.1]
    rw [List.foldl_cons, ih apart.2, same, deepen, kept_insert, List.map_cons]
    by_cases later : name ∈ rest.map (·.child)
    · rw [if_pos later, if_pos (List.mem_cons_of_mem _ later)]
    · by_cases here : name = edge.child <;> simp [later, here]

theorem mem_keys_deepen {parent : String} (edges : List DisplayEdge) (depths : Dict String Nat) (name : String) :
    name ∈ (edges.foldl (deepen parent) depths).keys ↔ name ∈ depths.keys ∨ name ∈ edges.map (·.child) := by
  induction edges generalizing depths with
  | nil => simp
  | cons edge rest ih =>
    rw [List.foldl_cons, ih, deepen, mem_keys_insert, List.map_cons, List.mem_cons]
    rw [or_assoc, or_left_comm]

/-- The depths kept are those of the nodes met, and children of visited nodes are one deeper. -/
structure Deepens (component : DisplayComponent) (depths : Dict String Nat) (visited todo : List String) : Prop where
  keys : ∀ name, name ∈ depths.keys ↔ name ∈ visited ++ todo
  root : kept depths component.root = 0
  children : ∀ parent ∈ visited, ∀ child ∈ component.childrenOf parent, kept depths child = kept depths parent + 1

theorem Deepens.turn (tree : component.IsTree) {depths : Dict String Nat} {visited todo : List String} {item : String}
    (walk : Walk component.childrenOf component.root component.members visited (item :: todo))
    (deepens : Deepens component depths visited (item :: todo)) :
    Deepens component (visitDepth component depths item).1 (visited ++ [item]) (enqueue todo (component.childrenOf item)) := by
  have fresh := walk.fresh tree.toTree
  have apart := List.disjoint_of_nodup_append fresh
  have own : item ∉ component.childrenOf item := apart (by simp)
  have deeper := kept_deepen own depths
  have old : ∀ name ∈ visited ++ item :: todo, kept (visitDepth component depths item).1 name = kept depths name := by
    intro name member
    rw [visitDepth, deeper]
    exact if_neg (apart member)
  have rootMet : component.root ∈ visited ++ item :: todo := walk.frontier.mem_iff.mpr List.mem_cons_self
  constructor
  · intro name
    rw [visitDepth, mem_keys_deepen, deepens.keys, enqueue, ← DisplayComponent.childrenOf]
    simp only [List.mem_append, List.mem_cons, List.not_mem_nil, or_false, or_assoc]
  · rw [old _ rootMet, deepens.root]
  · intro parent member child below
    rcases List.mem_append.mp member with before | here
    · have met : child ∈ visited ++ item :: todo := walk.frontier.mem_iff.mpr
        (List.mem_cons_of_mem _ (List.mem_flatMap.mpr ⟨parent, before, below⟩))
      rw [old _ met, old _ (List.mem_append_left _ before)]
      exact deepens.children parent before child below
    · rw [List.mem_singleton.mp here] at below ⊢
      rw [old item (by simp), visitDepth, deeper]
      exact if_pos below

/-- What the depths of a component are. -/
structure HasDepths (component : DisplayComponent) (depths : Dict String Nat) : Prop where
  keys : ∀ name ∈ component.members, name ∈ depths.keys
  root : kept depths component.root = 0
  children : ∀ parent ∈ component.members, ∀ child ∈ component.childrenOf parent, kept depths child = kept depths parent + 1

theorem treeDepths_spec (tree : component.IsTree) : HasDepths component (treeDepths component) := by
  have initial : Deepens component (Dict.empty.insert component.root 0) [] [component.root] := by
    refine ⟨fun name => ?_, ?_, List.forall_mem_nil _⟩
    · rw [mem_keys_insert]
      simp [Dict.keys, Dict.empty]
    · rw [kept_insert, if_pos rfl]
  obtain ⟨_, visited, perm, deepens⟩ := @run_walk _ _ _ _ _ _ id (visitDepth component) enqueue (Deepens component) tree.toTree
    (fun _ _ _ _ _ => by simp [visitDepth]) (fun _ _ => List.Perm.refl _)
    (fun _ _ _ _ walk deepens => deepens.turn tree (by simpa using walk)) component.members.length _ _ rfl initial le_rfl
  rw [List.map_id] at perm
  constructor
  · intro name member
    refine (deepens.keys name).mpr ?_
    rw [List.append_nil]
    exact perm.mem_iff.mpr member
  · exact deepens.root
  · intro parent member
    exact deepens.children parent (perm.mem_iff.mpr member)

end Depths

section Layers

variable {component : DisplayComponent} {depths : Dict String Nat}

theorem foldl_max_ge (numbers : List Nat) (start : Nat) :
    start ≤ numbers.foldl max start ∧ ∀ number ∈ numbers, number ≤ numbers.foldl max start := by
  induction numbers generalizing start with
  | nil => exact ⟨le_rfl, List.forall_mem_nil _⟩
  | cons number rest ih =>
    obtain ⟨least, each⟩ := ih (max start number)
    exact ⟨(le_max_left _ _).trans least, List.forall_mem_cons.mpr ⟨(le_max_right _ _).trans least, each⟩⟩

/-- A box is no higher than its layer. -/
theorem HasDepths.height_le (has : HasDepths component depths) (boxes : String → Box) {name : String}
    (member : name ∈ component.members) : (boxes name).height ≤ layerHeight depths boxes (kept depths name) := by
  obtain ⟨depth, found⟩ := Dict.mem_keys_iff.mp (has.keys name member)
  have same : kept depths name = depth := by rw [kept, found, Option.getD_some]
  refine (foldl_max_ge _ 0).2 _ (List.mem_map.mpr ⟨(name, depth), List.mem_filter.mpr ⟨Dict.get?_iff.mp found, ?_⟩, rfl⟩)
  exact decide_eq_true same.symm

/-- A layer begins below the one above it, with a gap between them. -/
theorem layerTop_above (depths : Dict String Nat) (boxes : String → Box) {depth other : Nat} (above : depth < other) :
    layerTop depths boxes depth + layerHeight depths boxes depth + layerGap ≤ layerTop depths boxes other := by
  induction other with
  | zero => cases above
  | succ other ih =>
    rw [layerTop]
    rcases Nat.lt_succ_iff_lt_or_eq.mp above with before | here
    · have earlier := ih before
      omega
    · rw [here]

end Layers

section Widths

variable {component : DisplayComponent} {boxes : String → Box}

/-- No node of a preorder comes before its parent, or is its own child. -/
structure Ordered (component : DisplayComponent) (traversal visited : List String) : Prop where
  same : traversal = visited
  parents : traversal.Pairwise fun before after => before ∉ component.childrenOf after
  apart : ∀ name ∈ traversal, name ∉ component.childrenOf name

theorem Ordered.turn (tree : component.IsTree) {traversal visited todo : List String} {item : String}
    (walk : Walk component.childrenOf component.root component.members visited (item :: todo))
    (ordered : Ordered component traversal visited) : Ordered component (traversal ++ [item]) (visited ++ [item]) := by
  have apart := List.disjoint_of_nodup_append (walk.fresh tree.toTree)
  have same := ordered.same
  subst same
  refine ⟨rfl, ?_, ?_⟩
  · refine List.pairwise_append.mpr ⟨ordered.parents, List.pairwise_singleton _ _, fun before member after here => ?_⟩
    rw [List.mem_singleton.mp here]
    exact apart (List.mem_append_left _ member)
  · intro name member
    rcases List.mem_append.mp member with before | here
    · exact ordered.apart name before
    · rw [List.mem_singleton.mp here]
      exact apart (List.mem_append_right _ List.mem_cons_self)

theorem preorder_spec (tree : component.IsTree) :
    (preorder component).Perm component.members ∧
      (preorder component).Pairwise (fun before after => before ∉ component.childrenOf after) ∧
      ∀ name ∈ preorder component, name ∉ component.childrenOf name := by
  have initial : Ordered component [] [] := ⟨rfl, List.Pairwise.nil, List.forall_mem_nil _⟩
  obtain ⟨_, visited, perm, ordered⟩ := @run_walk _ _ _ _ _ _ id (visitPreorder component) stack
    (fun traversal visited _ => Ordered component traversal visited) tree.toTree
    (fun _ _ _ _ _ => by simp [visitPreorder, List.reverse_perm])
    (fun _ _ => List.perm_append_comm)
    (fun _ _ _ _ walk ordered => ordered.turn tree (by simpa using walk)) component.members.length _ _ rfl initial le_rfl
  rw [List.map_id, ← ordered.same] at perm
  exact ⟨perm, ordered.parents, ordered.apart⟩

/-- A node spans its box and its children, and a child the label of its edge. -/
structure Wide (component : DisplayComponent) (boxes : String → Box) (widths : Dict String Nat) (name : String) : Prop where
  box : (boxes name).width ≤ kept widths name
  labels : ∀ edge ∈ component.edgesOf name, edge.label.length ≤ kept widths edge.child
  children : ((component.edgesOf name).map fun edge => kept widths edge.child).sum +
    siblingGap * ((component.edgesOf name).length - 1) ≤ kept widths name

/-- Children are stretched to their labels. -/
theorem foldl_stretch {edges : List DisplayEdge} (distinct : (edges.map (·.child)).Nodup) (widths : Dict String Nat)
    (spans : List Nat) :
    (∀ name, name ∉ edges.map (·.child) → kept (edges.foldl stretch (widths, spans)).1 name = kept widths name) ∧
      (∀ edge ∈ edges, kept widths edge.child ≤ kept (edges.foldl stretch (widths, spans)).1 edge.child ∧
        edge.label.length ≤ kept (edges.foldl stretch (widths, spans)).1 edge.child) ∧
      (edges.foldl stretch (widths, spans)).2 =
        spans ++ edges.map fun edge => kept (edges.foldl stretch (widths, spans)).1 edge.child := by
  induction edges generalizing widths spans with
  | nil => simp
  | cons edge rest ih =>
    rw [List.map_cons, List.nodup_cons] at distinct
    obtain ⟨absent, distinct⟩ := distinct
    rw [List.foldl_cons, stretch]
    obtain ⟨others, wider, listed⟩ := ih distinct
      (widths.insert edge.child (max (kept widths edge.child) edge.label.length))
      (spans ++ [max (kept widths edge.child) edge.label.length])
    dsimp only
    generalize rest.foldl stretch _ = after at others wider listed
    have own : kept after.1 edge.child = max (kept widths edge.child) edge.label.length := by
      rw [others _ absent, kept_insert, if_pos rfl]
    refine ⟨?_, ?_, ?_⟩
    · intro name outside
      rw [List.map_cons, List.mem_cons, not_or] at outside
      rw [others name outside.2, kept_insert, if_neg outside.1]
    · refine List.forall_mem_cons.mpr ⟨?_, fun other member => ?_⟩
      · rw [own]
        exact ⟨le_max_left _ _, le_max_right _ _⟩
      · obtain ⟨grows, label⟩ := wider other member
        have apart : other.child ≠ edge.child := fun same => absent (same ▸ List.mem_map_of_mem member)
        rw [kept_insert, if_neg apart] at grows
        exact ⟨grows, label⟩
    · rw [listed, List.map_cons, own, List.append_assoc, List.singleton_append]

theorem wide_congr {widths others : Dict String Nat} {name : String} (wide : Wide component boxes widths name)
    (own : kept widths name ≤ kept others name)
    (same : ∀ edge ∈ component.edgesOf name, kept others edge.child = kept widths edge.child) :
    Wide component boxes others name := by
  refine ⟨wide.box.trans own, ?_, ?_⟩
  · intro edge member
    rw [same edge member]
    exact wide.labels edge member
  · rw [List.map_congr_left same]
    exact wide.children.trans own

/-- A turn makes a node wide, and keeps those wide that are not its parent. -/
theorem widen_wide (tree : component.IsTree) {widths : Dict String Nat} {item : String} (member : item ∈ component.members)
    (apart : item ∉ component.childrenOf item) :
    Wide component boxes (widen component boxes widths item) item ∧
      ∀ name ∈ component.members, name ≠ item → item ∉ component.childrenOf name → Wide component boxes widths name →
        Wide component boxes (widen component boxes widths item) name := by
  obtain ⟨others, wider, listed⟩ := @foldl_stretch (component.edgesOf item) (tree.toTree.children_nodup member) widths []
  simp only [widen]
  generalize (component.edgesOf item).foldl stretch (widths, []) = after at others wider listed
  rw [List.nil_append] at listed
  have child : ∀ edge ∈ component.edgesOf item, edge.child ≠ item := by
    intro edge inside same
    have below : edge.child ∈ component.childrenOf item := List.mem_map_of_mem inside
    rw [same] at below
    exact apart below
  constructor
  · constructor
    · rw [kept_insert, if_pos rfl]
      exact le_max_left _ _
    · intro edge inside
      rw [kept_insert, if_neg (child edge inside)]
      exact (wider edge inside).2
    · have same : ∀ edge ∈ component.edgesOf item, kept (after.1.insert item (max (boxes item).width
          (if after.2 = [] then 0 else after.2.sum + siblingGap * (after.2.length - 1)))) edge.child =
            kept after.1 edge.child := by
        intro edge inside
        rw [kept_insert, if_neg (child edge inside)]
      rw [List.map_congr_left same, kept_insert, if_pos rfl, ← listed]
      have lengths : (component.edgesOf item).length = after.2.length := by rw [listed, List.length_map]
      rw [lengths]
      refine le_trans ?_ (le_max_right _ _)
      split
      next empty => simp [empty]
      next => exact le_rfl
  · intro name inside differs below wide
    have own : kept widths name ≤ kept after.1 name := by
      by_cases met : name ∈ (component.edgesOf item).map (·.child)
      · obtain ⟨edge, listed, rfl⟩ := List.mem_map.mp met
        exact (wider edge listed).1
      · exact (others name met).ge
    refine wide_congr wide ?_ ?_
    · rw [kept_insert, if_neg differs]
      exact own
    · intro edge listed
      have under : edge.child ∈ component.childrenOf name := List.mem_map_of_mem listed
      have notItem : edge.child ≠ item := fun same => below (same ▸ under)
      have notChild : edge.child ∉ (component.edgesOf item).map (·.child) := fun also =>
        differs (tree.toTree.parent_unique inside member under also)
      rw [kept_insert, if_neg notItem, others _ notChild]

/-- All nodes are wide after the last turn. -/
theorem subtreeWidths_wide (tree : component.IsTree) {name : String} (member : name ∈ component.members) :
    Wide component boxes (subtreeWidths component boxes) name := by
  obtain ⟨perm, parents, apart⟩ := preorder_spec tree
  have whole : ∀ (order done : List String) (widths : Dict String Nat),
      order.Pairwise (fun before after => after ∉ component.childrenOf before) → (done ++ order).Nodup →
      (∀ name ∈ done ++ order, name ∈ component.members ∧ name ∉ component.childrenOf name) →
      (∀ first ∈ done, ∀ later ∈ order, later ∉ component.childrenOf first) →
      (∀ name ∈ done, Wide component boxes widths name) →
      ∀ name ∈ done ++ order, Wide component boxes (order.foldl (widen component boxes) widths) name := by
    intro order
    induction order with
    | nil =>
      intro done widths _ _ _ _ wide name member
      rw [List.append_nil] at member
      exact wide name member
    | cons item rest ih =>
      intro done widths ordered distinct inside below wide name member
      rw [List.append_cons] at distinct inside member
      obtain ⟨itemInside, itemApart⟩ := inside item (by simp)
      obtain ⟨own, others⟩ := widen_wide tree itemInside itemApart
      rw [List.pairwise_cons] at ordered
      refine ih (done ++ [item]) _ ordered.2 distinct inside ?_ ?_ name member
      · intro first met later waits
        rcases List.mem_append.mp met with before | here
        · exact below first before later (List.mem_cons_of_mem _ waits)
        · rw [List.mem_singleton.mp here]
          exact ordered.1 later waits
      · intro other met
        rcases List.mem_append.mp met with before | here
        · have differs : other ≠ item := by
            rintro rfl
            rw [← List.append_cons] at distinct
            exact List.disjoint_of_nodup_append distinct before List.mem_cons_self
          exact others other (inside other (by simp [before])).1 differs (below other before item List.mem_cons_self)
            (wide other before)
        · rw [List.mem_singleton.mp here]
          exact own
  have reversed := List.pairwise_reverse.mpr parents
  refine whole (preorder component).reverse [] Dict.empty reversed ?_ ?_ (List.forall_mem_nil _) (List.forall_mem_nil _) name ?_
  · exact List.nodup_reverse.mpr (perm.nodup_iff.mpr tree.toTree.distinct)
  · intro name listed
    have met := List.mem_reverse.mp listed
    exact ⟨perm.mem_iff.mp met, apart name met⟩
  · exact List.mem_reverse.mpr (perm.mem_iff.mpr member)

end Widths

end Nslab.Graph
