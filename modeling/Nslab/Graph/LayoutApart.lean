import Nslab.Graph.Layout

/-! Boxes, labels and lines of a component keep apart. Nodes of one layer have spans
with gaps between them, and everything below a node is drawn in its span. -/

namespace Nslab.Graph

open Worklist

variable {component : DisplayComponent} {depths widths : Dict String Nat} {boxes : String → Box}

section Placements

/-- The span of an item ends a gap before that of another. -/
def Before (widths : Dict String Nat) (item other : String × Int) : Prop :=
  item.2 + kept widths item.1 + siblingGap ≤ other.2

/-- The span of a child lies in that of its parent. -/
def Within (widths : Dict String Nat) (child parent : String × Int) : Prop :=
  parent.2 ≤ child.2 ∧ child.2 + kept widths child.1 ≤ parent.2 + kept widths parent.1

/-- Children are put next to each other, as far as their widths and the gaps reach. -/
theorem childPositions_spec (widths : Dict String Nat) (left : Int) (edges : List DisplayEdge) :
    (childPositions widths left edges).map Prod.fst = edges.map (·.child) ∧
      (∀ item ∈ childPositions widths left edges, left ≤ item.2 ∧ item.2 + kept widths item.1 ≤
        left + ((edges.map fun edge => kept widths edge.child).sum + siblingGap * (edges.length - 1) : Nat)) ∧
      (childPositions widths left edges).Pairwise (Before widths) := by
  induction edges generalizing left with
  | nil => exact ⟨rfl, List.forall_mem_nil _, List.Pairwise.nil⟩
  | cons edge rest ih =>
    obtain ⟨names, inside, apart⟩ := ih (left + kept widths edge.child + siblingGap)
    rw [childPositions]
    refine ⟨by rw [List.map_cons, names, List.map_cons], ?_, ?_⟩
    · refine List.forall_mem_cons.mpr ⟨⟨le_rfl, ?_⟩, fun item member => ?_⟩
      · rw [List.map_cons, List.sum_cons]
        dsimp only
        omega
      · obtain ⟨first, last⟩ := inside item member
        have filled : 0 < rest.length := by
          cases rest with
          | nil => cases member
          | cons => exact Nat.succ_pos _
        rw [List.map_cons, List.sum_cons, List.length_cons]
        simp only [siblingGap] at first last ⊢
        omega
    · refine List.pairwise_cons.mpr ⟨fun item member => ?_, apart⟩
      exact (inside item member).1

/-- Items that were placed or wait have their spans: in that of their parents, and apart from others of the same layer. -/
structure Spaced (component : DisplayComponent) (depths widths : Dict String Nat) (boxes : String → Box)
    (placements : List Placement) (visited todo : List (String × Int)) : Prop where
  placed : placements = visited.map (place depths widths boxes)
  within : ∀ item ∈ visited ++ todo, item.1 = component.root ∨
    ∃ parent ∈ visited, item.1 ∈ component.childrenOf parent.1 ∧ Within widths item parent
  apart : ∀ item ∈ visited ++ todo, ∀ other ∈ visited ++ todo, item.1 ≠ other.1 →
    kept depths item.1 = kept depths other.1 → Before widths item other ∨ Before widths other item

/-- The children of an item keep in its span. -/
theorem positions_within {item : String × Int} (wide : Wide component boxes widths item.1) {placements : List Placement} :
    ∀ child ∈ (visitPlacement component depths widths boxes placements item).2,
      child.1 ∈ component.childrenOf item.1 ∧ Within widths child item := by
  intro child member
  obtain ⟨names, inside, _⟩ := childPositions_spec widths _ (component.edgesOf item.1)
  obtain ⟨first, last⟩ := inside child member
  have listed := List.mem_map_of_mem (f := Prod.fst) member
  simp only [visitPlacement, names] at listed
  have room := wide.children
  refine ⟨listed, ?_, ?_⟩ <;> omega

theorem Spaced.turn (tree : component.IsTree) (has : HasDepths component depths)
    (wide : ∀ name ∈ component.members, Wide component boxes widths name) {placements : List Placement}
    {visited todo : List (String × Int)} {item : String × Int}
    (walk : Walk component.childrenOf component.root component.members (visited.map Prod.fst) ((item :: todo).map Prod.fst))
    (spaced : Spaced component depths widths boxes placements visited (item :: todo)) :
    Spaced component depths widths boxes (visitPlacement component depths widths boxes placements item).1 (visited ++ [item])
      (stack todo (visitPlacement component depths widths boxes placements item).2) := by
  have inside : ∀ other ∈ visited ++ item :: todo, other.1 ∈ component.members := by
    intro other member
    refine walk.mem_nodes tree.toTree ?_
    rw [← List.map_append]
    exact List.mem_map_of_mem member
  have here : item ∈ visited ++ item :: todo := by simp
  have distinct := walk.nodup tree.toTree
  have below := @positions_within component depths widths boxes item (wide item.1 (inside item here)) placements
  have pairs := (childPositions_spec widths (item.2 + (kept widths item.1 -
    (((component.edgesOf item.1).map fun edge => kept widths edge.child).sum +
      siblingGap * ((component.edgesOf item.1).length - 1) : Nat) : Int) / 2) (component.edgesOf item.1)).2.2
  have positions : (visitPlacement component depths widths boxes placements item).2.Pairwise (Before widths) := pairs
  have placed : (visitPlacement component depths widths boxes placements item).1 =
      placements ++ [place depths widths boxes item] := rfl
  rw [placed]
  generalize (visitPlacement component depths widths boxes placements item).2 = found at below positions
  have split : ∀ other, other ∈ visited ++ [item] ++ stack todo found ↔ other ∈ visited ++ item :: todo ∨ other ∈ found := by
    intro other
    simp only [stack, List.mem_append, List.mem_cons, List.not_mem_nil, or_false]
    tauto
  have depthBelow : ∀ child ∈ found, kept depths child.1 = kept depths item.1 + 1 := fun child member =>
    has.children item.1 (inside item here) child.1 (below child member).1
  have mixed : ∀ old ∈ visited ++ item :: todo, ∀ new ∈ found, kept depths old.1 = kept depths new.1 →
      Before widths old new ∨ Before widths new old := by
    intro old oldMember new newMember same
    have deep := depthBelow new newMember
    obtain ⟨_, newWithin⟩ := below new newMember
    rcases spaced.within old oldMember with root | ⟨parent, met, child, oldWithin⟩
    · rw [root, has.root] at same
      omega
    · have parentMember : parent ∈ visited ++ item :: todo := List.mem_append_left _ met
      have above := has.children parent.1 (inside parent parentMember) old.1 child
      have differs : parent.1 ≠ item.1 := by
        intro equal
        refine List.disjoint_of_nodup_append distinct (List.mem_map_of_mem met) ?_
        rw [equal]
        exact List.mem_cons_self
      simp only [Before, Within] at oldWithin newWithin ⊢
      rcases spaced.apart parent parentMember item here differs (by omega) with left | right
      · simp only [Before] at left
        exact .inl (by omega)
      · simp only [Before] at right
        exact .inr (by omega)
  constructor
  · rw [spaced.placed, List.map_append]
    rfl
  · intro other member
    rcases (split other).mp member with old | new
    · rcases spaced.within other old with root | ⟨parent, met, facts⟩
      · exact .inl root
      · exact .inr ⟨parent, List.mem_append_left _ met, facts⟩
    · exact .inr ⟨item, by simp, below other new⟩
  · intro first firstMember second secondMember differs same
    rcases (split first).mp firstMember with old | new <;> rcases (split second).mp secondMember with older | newer
    · exact spaced.apart first old second older differs same
    · exact mixed first old second newer same
    · exact (mixed second older first new same.symm).symm
    · have symmetric : Std.Symm fun one two => Before widths one two ∨ Before widths two one := ⟨fun _ _ => Or.symm⟩
      have either : found.Pairwise fun one two => Before widths one two ∨ Before widths two one := positions.imp Or.inl
      exact either.forall new newer fun equal => differs (congrArg Prod.fst equal)

/-- Where the nodes of a component are placed. -/
theorem placeComponent_spec (tree : component.IsTree) (boxes : String → Box) :
    ∃ items : List (String × Int), (items.map Prod.fst).Perm component.members ∧
      Spaced component (treeDepths component) (subtreeWidths component boxes) boxes (placeComponent component boxes)
        items [] := by
  have initial : Spaced component (treeDepths component) (subtreeWidths component boxes) boxes [] [] [(component.root, 0)] := by
    refine ⟨rfl, ?_, ?_⟩
    · intro item member
      exact .inl (congrArg Prod.fst (List.mem_singleton.mp member))
    · intro item member other inside differs
      rw [List.nil_append, List.mem_singleton] at member inside
      exact absurd (congrArg Prod.fst (member.trans inside.symm)) differs
  obtain ⟨_, items, perm, spaced⟩ := @run_walk _ _ _ _ _ _ Prod.fst
    (visitPlacement component (treeDepths component) (subtreeWidths component boxes) boxes) stack
    (Spaced component (treeDepths component) (subtreeWidths component boxes) boxes) tree.toTree
    (fun placements visited item todo _ => by
      rw [visitPlacement, (childPositions_spec _ _ _).1]
      exact List.Perm.refl _)
    (fun _ _ => List.perm_append_comm)
    (fun _ _ _ _ walk spaced => spaced.turn tree (treeDepths_spec tree)
      (fun _ member => subtreeWidths_wide tree member) walk) component.members.length _ _ rfl initial le_rfl
  exact ⟨items, perm, spaced⟩

end Placements

section Geometry

variable {item other parent child : String × Int} {cell : Cell}

theorem layerGap_eq : layerGap = 5 := rfl

theorem siblingGap_eq : siblingGap = 5 := rfl

/-- A box lies in the span of its item and in its layer. -/
theorem covers_place (wide : (boxes item.1).width ≤ kept widths item.1) (covers : (place depths widths boxes item).Covers cell) :
    (item.2 ≤ cell.1 ∧ cell.1 < item.2 + kept widths item.1) ∧ layerTop depths boxes (kept depths item.1) ≤ cell.2 ∧
      cell.2 < layerTop depths boxes (kept depths item.1) + (boxes item.1).height := by
  obtain ⟨left, right, top, bottom⟩ := covers
  simp only [place] at left right top bottom
  exact ⟨⟨by omega, by omega⟩, top, bottom⟩

/-- The middle of the box of an item is that of its span, but for rounding. -/
theorem place_middle (wide : (boxes item.1).width ≤ kept widths item.1) :
    item.2 + (kept widths item.1 : Int) / 2 - 1 ≤
        (place depths widths boxes item).x + ((place depths widths boxes item).box.width : Int) / 2 ∧
      item.2 ≤ (place depths widths boxes item).x + ((place depths widths boxes item).box.width : Int) / 2 ∧
      (place depths widths boxes item).x + ((place depths widths boxes item).box.width : Int) / 2 ≤
        item.2 + (kept widths item.1 : Int) / 2 := by
  simp only [place]
  omega

/-- Boxes of different nodes have no cell in common. -/
theorem boxes_apart (has : HasDepths component depths) (itemMember : item.1 ∈ component.members)
    (otherMember : other.1 ∈ component.members) (itemWide : (boxes item.1).width ≤ kept widths item.1)
    (otherWide : (boxes other.1).width ≤ kept widths other.1)
    (apart : kept depths item.1 = kept depths other.1 → Before widths item other ∨ Before widths other item) :
    ¬ ((place depths widths boxes item).Covers cell ∧ (place depths widths boxes other).Covers cell) := by
  intro given
  obtain ⟨first, second⟩ := given
  obtain ⟨firstSpan, firstTop, firstBottom⟩ := covers_place itemWide first
  obtain ⟨secondSpan, secondTop, secondBottom⟩ := covers_place otherWide second
  have firstHeight := has.height_le boxes itemMember
  have secondHeight := has.height_le boxes otherMember
  rcases lt_trichotomy (kept depths item.1) (kept depths other.1) with above | same | below
  · have layers := layerTop_above depths boxes above
    omega
  · simp only [Before] at apart
    have := apart same
    omega
  · have layers := layerTop_above depths boxes below
    omega

theorem label_length (edge : DisplayEdge) : 3 ≤ edge.label.length := by
  have arrow : " ↔ ".length = 3 := rfl
  simp only [DisplayEdge.label, String.length_append, arrow]
  omega

/-- A parent and a child with the edge between them, as they are placed. -/
structure Adjoins (component : DisplayComponent) (depths widths : Dict String Nat) (boxes : String → Box) (edge : DisplayEdge)
    (parent child : String × Int) : Prop where
  parentWide : (boxes parent.1).width ≤ kept widths parent.1
  childWide : (boxes child.1).width ≤ kept widths child.1
  label : edge.label.length ≤ kept widths child.1
  within : Within widths child parent
  deeper : kept depths child.1 = kept depths parent.1 + 1
  room : layerTop depths boxes (kept depths parent.1) + (boxes parent.1).height + layerGap ≤
    layerTop depths boxes (kept depths child.1)

/-- The label of an edge stands in the gap above the child, over the span of the child and one cell more. -/
theorem Adjoins.mem_label {edge : DisplayEdge} (adjoins : Adjoins component depths widths boxes edge parent child)
    (member : cell ∈ (drawTreeEdge (place depths widths boxes parent) (place depths widths boxes child) edge).label) :
    cell.2 = layerTop depths boxes (kept depths child.1) - 2 ∧ child.2 - 1 ≤ cell.1 ∧ cell.1 < child.2 + kept widths child.1 := by
  have middle := @place_middle depths widths boxes child adjoins.childWide
  have label := adjoins.label
  obtain ⟨row, left, right⟩ := mem_textCells member
  refine ⟨row, ?_, ?_⟩ <;> omega

/-- The lines of an edge keep in the span of the parent, and reach the layer of the child only in the span of the child. -/
theorem Adjoins.mem_lines {edge : DisplayEdge} (adjoins : Adjoins component depths widths boxes edge parent child)
    (member : cell ∈ (drawTreeEdge (place depths widths boxes parent) (place depths widths boxes child) edge).lines) :
    (parent.2 ≤ cell.1 ∧ cell.1 < parent.2 + kept widths parent.1) ∧
      layerTop depths boxes (kept depths parent.1) - 1 ≤ cell.2 ∧ cell.2 ≤ layerTop depths boxes (kept depths child.1) ∧
      (cell.2 = layerTop depths boxes (kept depths child.1) → child.2 ≤ cell.1 ∧ cell.1 < child.2 + kept widths child.1) := by
  have parentMiddle := @place_middle depths widths boxes parent adjoins.parentWide
  have childMiddle := @place_middle depths widths boxes child adjoins.childWide
  have label := adjoins.label
  have least := label_length edge
  obtain ⟨left, right⟩ := adjoins.within
  have room := adjoins.room
  rw [layerGap_eq] at room
  have parentTop : (place depths widths boxes parent).y = layerTop depths boxes (kept depths parent.1) := rfl
  have childTop : (place depths widths boxes child).y = layerTop depths boxes (kept depths child.1) := rfl
  have height : (place depths widths boxes parent).box = boxes parent.1 := rfl
  simp only [drawTreeEdge, List.mem_append, parentTop, childTop, height] at member parentMiddle
  rcases member with ((down | across) | above) | below
  · obtain ⟨column, first, last⟩ := mem_vertical down
    exact ⟨by omega, by omega, by omega, by omega⟩
  · obtain ⟨row, first, last⟩ := mem_horizontal across
    exact ⟨by omega, by omega, by omega, by omega⟩
  · obtain ⟨column, first, last⟩ := mem_vertical above
    exact ⟨by omega, by omega, by omega, by omega⟩
  · obtain ⟨column, first, last⟩ := mem_vertical below
    exact ⟨by omega, by omega, by omega, by omega⟩

end Geometry

section Component

/-- A node is found where it was placed. -/
theorem find?_place {items : List (String × Int)} (distinct : (items.map Prod.fst).Nodup) {item : String × Int}
    (member : item ∈ items) :
    (items.map (place depths widths boxes)).find? (fun placement => decide (placement.node = item.1)) =
      some (place depths widths boxes item) := by
  induction items with
  | nil => cases member
  | cons first rest ih =>
    rw [List.map_cons, List.nodup_cons] at distinct
    rw [List.map_cons]
    rcases List.mem_cons.mp member with here | later
    · rw [here]
      exact List.find?_cons_of_pos (decide_eq_true rfl)
    · have differs : (place depths widths boxes first).node ≠ item.1 := fun same =>
        distinct.1 (List.mem_map.mpr ⟨item, later, same.symm⟩)
      rw [List.find?_cons_of_neg (by simpa using differs)]
      exact ih distinct.2 later

theorem DisplayComponent.IsTree.parent_mem (tree : component.IsTree) {edge : DisplayEdge} (member : edge ∈ component.edges) :
    edge.parent ∈ component.members := by
  rw [component.edges_eq, List.mem_flatMap] at member
  obtain ⟨name, named, stored⟩ := member
  rwa [(tree.mem_edgesOf.mp stored).2]

theorem DisplayComponent.IsTree.child_mem (tree : component.IsTree) {edge : DisplayEdge} (member : edge ∈ component.edges) :
    edge.child ∈ component.members :=
  tree.once.mem_iff.mp (List.mem_cons_of_mem _ (List.mem_map_of_mem member))

/-- Items for all members of a component, each with room for its box in its span, and edges between those they join. -/
structure Arranged (component : DisplayComponent) (depths widths : Dict String Nat) (boxes : String → Box)
    (items : List (String × Int)) : Prop where
  names : (items.map Prod.fst).Perm component.members
  layers : HasDepths component depths
  wide : ∀ item ∈ items, (boxes item.1).width ≤ kept widths item.1
  apart : ∀ item ∈ items, ∀ other ∈ items, item.1 ≠ other.1 → kept depths item.1 = kept depths other.1 →
    Before widths item other ∨ Before widths other item
  adjoins : ∀ edge ∈ component.edges, ∃ parent ∈ items, ∃ child ∈ items, parent.1 = edge.parent ∧ child.1 = edge.child ∧
    Adjoins component depths widths boxes edge parent child

theorem placeComponent_arranged (tree : component.IsTree) (boxes : String → Box) :
    ∃ items, placeComponent component boxes = items.map (place (treeDepths component) (subtreeWidths component boxes) boxes) ∧
      Arranged component (treeDepths component) (subtreeWidths component boxes) boxes items := by
  obtain ⟨items, perm, spaced⟩ := placeComponent_spec tree boxes
  have has := treeDepths_spec tree
  have wide := fun name inside => @subtreeWidths_wide component boxes tree name inside
  have inside : ∀ item ∈ items, item.1 ∈ component.members := fun item member => perm.mem_iff.mp (List.mem_map_of_mem member)
  refine ⟨items, spaced.placed, perm, has, fun item member => (wide item.1 (inside item member)).box, ?_, ?_⟩
  · intro item member other otherMember
    exact spaced.apart item (by simpa using member) other (by simpa using otherMember)
  · intro edge member
    have listed := tree.mem_edgesOf.mpr ⟨member, rfl⟩
    have below : edge.child ∈ component.childrenOf edge.parent := List.mem_map_of_mem listed
    have edgeParent := tree.parent_mem member
    obtain ⟨child, childListed, childName⟩ := List.mem_map.mp (perm.mem_iff.mpr (tree.child_mem member))
    rcases spaced.within child (by simpa using childListed) with root | ⟨parent, parentListed, under, within⟩
    · rw [← childName, root] at below
      exact absurd below (tree.toTree.root_not_child edgeParent)
    · have parentMember := inside parent parentListed
      have parentName := tree.toTree.parent_unique parentMember edgeParent (childName ▸ under) below
      refine ⟨parent, parentListed, child, childListed, parentName, childName, ?_⟩
      have depth := has.children parent.1 parentMember child.1 under
      have height := has.height_le boxes parentMember
      have layers := layerTop_above (treeDepths component) boxes (Nat.lt_of_lt_of_eq (Nat.lt_succ_self _) depth.symm)
      have label := (wide edge.parent edgeParent).labels edge listed
      rw [← childName] at label
      exact ⟨(wide parent.1 parentMember).box, (wide child.1 (inside child childListed)).box, label, within, depth, by omega⟩

namespace Arranged

variable {items : List (String × Int)} (arranged : Arranged component depths widths boxes items)

include arranged

theorem member {item : String × Int} (listed : item ∈ items) : item.1 ∈ component.members :=
  arranged.names.mem_iff.mp (List.mem_map_of_mem listed)

theorem distinct : (items.map Prod.fst).Nodup := arranged.names.nodup_iff.mpr component.children.keys_nodup

theorem boxes_disjoint : (items.map (place depths widths boxes)).Pairwise
    (fun first second => ∀ cell, ¬ (first.Covers cell ∧ second.Covers cell)) := by
  rw [List.pairwise_map]
  refine (List.pairwise_map.mp arranged.distinct).imp_of_mem ?_
  intro item other itemListed otherListed differs cell
  exact boxes_apart arranged.layers (arranged.member itemListed) (arranged.member otherListed) (arranged.wide item itemListed)
    (arranged.wide other otherListed) (arranged.apart item itemListed other otherListed differs)

/-- Each edge is drawn between the items of its ends. -/
theorem drawn_edge {edge : DisplayEdge} (listed : edge ∈ component.edges) :
    ∃ parent ∈ items, ∃ child ∈ items, parent.1 = edge.parent ∧ child.1 = edge.child ∧
      Adjoins component depths widths boxes edge parent child ∧
      (do
        let parent ← (items.map (place depths widths boxes)).find? (·.node = edge.parent)
        let child ← (items.map (place depths widths boxes)).find? (·.node = edge.child)
        pure (edge, drawTreeEdge parent child edge)) =
      some (edge, drawTreeEdge (place depths widths boxes parent) (place depths widths boxes child) edge) := by
  obtain ⟨parent, parentListed, child, childListed, parentName, childName, adjoins⟩ := arranged.adjoins edge listed
  refine ⟨parent, parentListed, child, childListed, parentName, childName, adjoins, ?_⟩
  rw [← parentName, ← childName, find?_place arranged.distinct parentListed, find?_place arranged.distinct childListed]
  rfl

theorem drawnEdges_fst : (drawnEdges component (items.map (place depths widths boxes))).map Prod.fst = component.edges := by
  rw [drawnEdges, List.map_filterMap]
  have each : ∀ edge ∈ component.edges, Option.map Prod.fst (do
      let parent ← (items.map (place depths widths boxes)).find? (·.node = edge.parent)
      let child ← (items.map (place depths widths boxes)).find? (·.node = edge.child)
      pure (edge, drawTreeEdge parent child edge)) = some edge := by
    intro edge listed
    obtain ⟨_, _, _, _, _, _, _, drawing⟩ := arranged.drawn_edge listed
    rw [drawing, Option.map_some]
  rw [List.filterMap_congr each, List.filterMap_some]

theorem mem_drawnEdges {drawn : DisplayEdge × Drawing}
    (listed : drawn ∈ drawnEdges component (items.map (place depths widths boxes))) :
    ∃ parent ∈ items, ∃ child ∈ items, parent.1 = drawn.1.parent ∧ child.1 = drawn.1.child ∧
      Adjoins component depths widths boxes drawn.1 parent child ∧
      drawn.2 = drawTreeEdge (place depths widths boxes parent) (place depths widths boxes child) drawn.1 := by
  obtain ⟨edge, member, drawing⟩ := List.mem_filterMap.mp listed
  obtain ⟨parent, parentListed, child, childListed, parentName, childName, adjoins, same⟩ := arranged.drawn_edge member
  rw [same] at drawing
  obtain rfl := Option.some.inj drawing
  exact ⟨parent, parentListed, child, childListed, parentName, childName, adjoins, rfl⟩

/-- A label meets no box. -/
theorem label_uncovered {drawn : DisplayEdge × Drawing}
    (listed : drawn ∈ drawnEdges component (items.map (place depths widths boxes))) {item : String × Int} (placed : item ∈ items)
    {cell : Cell} (inside : cell ∈ drawn.2.label) : ¬ (place depths widths boxes item).Covers cell := by
  intro covers
  obtain ⟨parent, parentListed, child, childListed, _, _, adjoins, drawing⟩ := arranged.mem_drawnEdges listed
  rw [drawing] at inside
  obtain ⟨row, _⟩ := adjoins.mem_label inside
  obtain ⟨_, top, bottom⟩ := covers_place (arranged.wide item placed) covers
  have height := arranged.layers.height_le boxes (arranged.member placed)
  -- A box is either a layer above the label or begins below it.
  rcases Nat.lt_or_ge (kept depths item.1) (kept depths child.1) with above | below
  · have layers := layerTop_above depths boxes above
    rw [layerGap_eq] at layers
    omega
  · rcases Nat.eq_or_lt_of_le below with same | deeper
    · rw [same] at row
      omega
    · have layers := layerTop_above depths boxes deeper
      omega

/-- Lines meet no boxes but those that they join. -/
theorem lines_uncovered {drawn : DisplayEdge × Drawing}
    (listed : drawn ∈ drawnEdges component (items.map (place depths widths boxes))) {item : String × Int} (placed : item ∈ items)
    {cell : Cell} (inside : cell ∈ drawn.2.lines) (covers : (place depths widths boxes item).Covers cell) :
    item.1 = drawn.1.parent ∨ item.1 = drawn.1.child := by
  obtain ⟨parent, parentListed, child, childListed, parentName, childName, adjoins, drawing⟩ := arranged.mem_drawnEdges listed
  rw [drawing] at inside
  obtain ⟨span, first, last, narrow⟩ := adjoins.mem_lines inside
  obtain ⟨itemSpan, top, bottom⟩ := covers_place (arranged.wide item placed) covers
  have height := arranged.layers.height_le boxes (arranged.member placed)
  have deeper := adjoins.deeper
  rw [← parentName, ← childName]
  by_contra neither
  rw [not_or] at neither
  -- The item is in the layer of the parent or of the child, and there it is the one that the lines are drawn from or to.
  rcases lt_trichotomy (kept depths item.1) (kept depths parent.1) with above | same | below
  · have layers := layerTop_above depths boxes above
    rw [layerGap_eq] at layers
    omega
  · have apart := arranged.apart item placed parent parentListed neither.1 same
    simp only [Before] at apart
    omega
  · rcases Nat.eq_or_lt_of_le (show kept depths child.1 ≤ kept depths item.1 by omega) with same | further
    · have apart := arranged.apart item placed child childListed neither.2 same.symm
      rw [same] at narrow last
      have own := narrow (by omega)
      simp only [Before] at apart
      omega
    · have layers := layerTop_above depths boxes further
      rw [layerGap_eq] at layers
      omega

/-- Labels of different edges have no cell in common. -/
theorem labels_disjoint (tree : component.IsTree) : (drawnEdges component (items.map (place depths widths boxes))).Pairwise
    (fun first second => ∀ cell ∈ first.2.label, cell ∉ second.2.label) := by
  have children : ((drawnEdges component (items.map (place depths widths boxes))).map fun drawn => drawn.1.child).Nodup := by
    have same := congrArg (List.map DisplayEdge.child) arranged.drawnEdges_fst
    rw [List.map_map] at same
    have once := (List.nodup_cons.mp (tree.once.nodup_iff.mpr component.children.keys_nodup)).2
    rw [← same] at once
    exact once
  refine (List.pairwise_map.mp children).imp_of_mem ?_
  intro drawn other listed otherListed differs cell inside also
  obtain ⟨_, _, child, childListed, _, childName, adjoins, drawing⟩ := arranged.mem_drawnEdges listed
  obtain ⟨_, _, second, secondListed, _, secondName, otherAdjoins, otherDrawing⟩ := arranged.mem_drawnEdges otherListed
  rw [drawing] at inside
  rw [otherDrawing] at also
  obtain ⟨row, left, right⟩ := adjoins.mem_label inside
  obtain ⟨otherRow, otherLeft, otherRight⟩ := otherAdjoins.mem_label also
  have names : child.1 ≠ second.1 := by rwa [childName, secondName]
  rcases lt_trichotomy (kept depths child.1) (kept depths second.1) with above | same | below
  · have layers := layerTop_above depths boxes above
    rw [layerGap_eq] at layers
    omega
  · have apart := arranged.apart child childListed second secondListed names same
    simp only [Before, siblingGap_eq] at apart
    omega
  · have layers := layerTop_above depths boxes below
    rw [layerGap_eq] at layers
    omega

end Arranged

/-- The boxes of a component have no cell in common. Labels meet neither each other nor a box, and the lines of an edge meet
no boxes but those of its parent and its child. -/
theorem layout_apart {component : DisplayComponent} (tree : component.IsTree) (boxes : String → Box) :
    ((placeComponent component boxes).map (·.node)).Perm component.members ∧
      (∀ placement ∈ placeComponent component boxes, placement.box = boxes placement.node) ∧
      (placeComponent component boxes).Pairwise (fun first second => ∀ cell, ¬ (first.Covers cell ∧ second.Covers cell)) ∧
      (drawnEdges component (placeComponent component boxes)).map Prod.fst = component.edges ∧
      (drawnEdges component (placeComponent component boxes)).Pairwise
        (fun first second => ∀ cell ∈ first.2.label, cell ∉ second.2.label) ∧
      ∀ drawn ∈ drawnEdges component (placeComponent component boxes), ∀ placement ∈ placeComponent component boxes,
        (∀ cell ∈ drawn.2.label, ¬ placement.Covers cell) ∧
          ∀ cell ∈ drawn.2.lines, placement.Covers cell → placement.node = drawn.1.parent ∨ placement.node = drawn.1.child := by
  obtain ⟨items, placed, arranged⟩ := placeComponent_arranged tree boxes
  rw [placed]
  refine ⟨?_, ?_, arranged.boxes_disjoint, arranged.drawnEdges_fst, arranged.labels_disjoint tree, ?_⟩
  · rw [List.map_map]
    exact arranged.names
  · intro placement listed
    obtain ⟨item, _, rfl⟩ := List.mem_map.mp listed
    rfl
  · intro drawn listed placement placedHere
    obtain ⟨item, member, rfl⟩ := List.mem_map.mp placedHere
    exact ⟨fun cell inside => arranged.label_uncovered listed member inside,
      fun cell inside covers => arranged.lines_uncovered listed member inside covers⟩

/-- The components that are drawn of a plan are trees. -/
theorem isTree_of_plans {manifest : Manifest} {plan : TopologyPlan} (plans : manifest.Plans plan) :
    ∀ component ∈ buildDisplayForest plan, component.IsTree := by
  intro component member
  have joined := joined_of_plans plans
  obtain ⟨first, members, connected, rfl⟩ :=
    (forestFrom_spec joined plan.nodes.keys_nodup joined.closed fun _ member => member).2.1 component member
  exact connected.spans.isTree

/-- In the circle the nodes `b` and `c` are drawn below `a`, with room for boxes of any size. -/
theorem layout_apart_circle : ∃ manifest plan, validateManifest circleDocument = .ok manifest ∧
    compilePlan manifest none = .ok plan ∧ (∃ component ∈ buildDisplayForest plan, component.edges.length = 2) ∧
    ∀ component ∈ buildDisplayForest plan, ∀ boxes : String → Box, (placeComponent component boxes).Pairwise
      (fun first second => ∀ cell, ¬ (first.Covers cell ∧ second.Covers cell)) := by
  obtain ⟨manifest, plan, read, accepted, compiled, test⟩ := Manifest.compiled_of_test circleDocument (by decide +kernel)
    (fun plan => (buildDisplayForest plan).any fun component => decide (component.edges.length = 2)) (by decide +kernel)
  simp only [List.any_eq_true, decide_eq_true_eq] at test
  refine ⟨manifest, plan, read, compiled, test, fun component member boxes => ?_⟩
  exact (layout_apart (isTree_of_plans (accepted.plans compiled) component member) boxes).2.2.1

end Component

end Nslab.Graph
