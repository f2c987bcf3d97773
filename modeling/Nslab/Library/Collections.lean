import Nslab.Library.Dict

/-! Sets built from lists, and their elements in the order of a key. Elements with
equal keys stay in the order in which the set lists them, which is not specified. -/

namespace Collections

variable {α κ : Type} [DecidableEq α]

/-- Two lists of the same elements, however often and in whatever order. -/
def SameSet (left right : List α) : Prop := ∀ item, item ∈ left ↔ item ∈ right

instance (left right : List α) : Decidable (SameSet left right) :=
  decidable_of_iff ((∀ item ∈ left, item ∈ right) ∧ ∀ item ∈ right, item ∈ left)
    ⟨fun both item => ⟨both.1 item, both.2 item⟩, fun same => ⟨fun item => (same item).mp, fun item => (same item).mpr⟩⟩

omit [DecidableEq α] in
theorem SameSet.symm {left right : List α} (same : SameSet left right) : SameSet right left :=
  fun item => (same item).symm

/-- The order in which a set of items lists its elements. -/
class SetOrder where
  elements : ∀ {α : Type} [DecidableEq α], List α → List α
  perm : ∀ {α : Type} [DecidableEq α] (items : List α), (elements items).Perm (Dict.fromKeys items)

section Sorting

variable [LinearOrder κ] [SetOrder]

/-- `sorted(set(items), key=key)`. -/
def sortedSet (key : α → κ) (items : List α) : List α :=
  (SetOrder.elements items).insertionSort fun left right => key left ≤ key right

@[simp] theorem mem_sortedSet {key : α → κ} {items : List α} {item : α} : item ∈ sortedSet key items ↔ item ∈ items := by
  rw [sortedSet, List.mem_insertionSort, (SetOrder.perm items).mem_iff, Dict.mem_fromKeys]

@[simp] theorem sortedSet_singleton (key : α → κ) (item : α) : sortedSet key [item] = [item] := by
  rw [sortedSet, List.perm_singleton.mp (SetOrder.perm [item])]
  rfl

theorem sameSet_of_sortedSet {key : α → κ} {left right : List α} (same : sortedSet key left = sortedSet key right) :
    SameSet left right := by
  intro item
  have members := @mem_sortedSet _ κ _ _ _ key left item
  rw [← members, same, mem_sortedSet]

omit [DecidableEq α] [SetOrder] in
/-- Inserting in order leaves the elements of one key as they are. -/
theorem filter_orderedInsert (key : α → κ) (value : κ) (item : α) (items : List α) :
    (items.orderedInsert (fun left right => key left ≤ key right) item).filter (fun other => key other = value) =
      (item :: items).filter fun other => key other = value := by
  induction items with
  | nil => rfl
  | cons first rest ih =>
    rw [List.orderedInsert_cons]
    split
    next => rfl
    next above =>
      rw [List.filter_cons, ih]
      by_cases own : key item = value <;> by_cases other : key first = value <;> simp_all

omit [DecidableEq α] [SetOrder] in
theorem filter_insertionSort (key : α → κ) (value : κ) (items : List α) :
    (items.insertionSort fun left right => key left ≤ key right).filter (fun other => key other = value) =
      items.filter fun other => key other = value := by
  induction items with
  | nil => rfl
  | cons first rest ih =>
    rw [List.insertionSort_cons, filter_orderedInsert, List.filter_cons, List.filter_cons, ih]

omit [DecidableEq α] [SetOrder] in
/-- Sorted lists that agree key by key are equal. -/
theorem eq_of_filter {key : α → κ} {left right : List α} (ordered : left.Pairwise fun first second => key first ≤ key second)
    (sorted : right.Pairwise fun first second => key first ≤ key second)
    (same : ∀ value, left.filter (fun item => key item = value) = right.filter fun item => key item = value) :
    left = right := by
  induction left generalizing right with
  | nil =>
    cases right with
    | nil => rfl
    | cons first rest => simpa using same (key first)
  | cons first rest ih =>
    cases right with
    | nil => simpa using same (key first)
    | cons other others =>
      have keys : key first = key other := by
        have before := same (key first)
        have after := same (key other)
        rcases lt_trichotomy (key first) (key other) with below | equal | above
        · have none : (other :: others).filter (fun item => key item = key first) = [] := by
            simp only [List.filter_eq_nil_iff, decide_eq_true_eq]
            intro item member
            have bound : key other ≤ key item := by
              rcases List.mem_cons.mp member with rfl | member
              · exact le_rfl
              · exact List.rel_of_pairwise_cons sorted member
            exact (below.trans_le bound).ne'
          rw [none] at before
          simp at before
        · exact equal
        · have none : (first :: rest).filter (fun item => key item = key other) = [] := by
            simp only [List.filter_eq_nil_iff, decide_eq_true_eq]
            intro item member
            have bound : key first ≤ key item := by
              rcases List.mem_cons.mp member with rfl | member
              · exact le_rfl
              · exact List.rel_of_pairwise_cons ordered member
            exact (above.trans_le bound).ne'
          rw [none] at after
          simp at after
      have heads : first = other := by
        have front := same (key first)
        simp only [List.filter_cons, decide_true, if_true, ← keys, List.cons.injEq] at front
        exact front.1
      subst heads
      congr 1
      refine ih (List.Pairwise.of_cons ordered) (List.Pairwise.of_cons sorted) fun value => ?_
      have whole := same value
      by_cases own : key first = value <;> simpa [List.filter_cons, own] using whole

/-- Sets are sorted alike when they list the elements of each key alike. -/
theorem sortedSet_eq_iff {key : α → κ} {left right : List α} : sortedSet key left = sortedSet key right ↔
    ∀ value, (SetOrder.elements left).filter (fun item => key item = value) =
      (SetOrder.elements right).filter fun item => key item = value := by
  have total : Std.Total fun first second : α => key first ≤ key second := ⟨fun first second => le_total _ _⟩
  have transitive : IsTrans α fun first second => key first ≤ key second := ⟨fun _ _ _ => le_trans⟩
  constructor
  · intro same value
    rw [← filter_insertionSort, ← filter_insertionSort key value (SetOrder.elements right)]
    exact congrArg _ same
  · intro same
    refine eq_of_filter (List.pairwise_insertionSort _ (SetOrder.elements left)) (List.pairwise_insertionSort _ (SetOrder.elements right))
      fun value => ?_
    simpa only [sortedSet, filter_insertionSort] using same value

end Sorting

section Grouping

variable {β : Type} [DecidableEq β]

omit [DecidableEq α] in
/-- Items in groups, one for each of their keys. -/
theorem flatMap_filter_perm {keys : List β} (distinct : keys.Nodup) (key : α → β) {items : List α}
    (covered : ∀ item ∈ items, key item ∈ keys) : (keys.flatMap fun value => items.filter (key · = value)).Perm items := by
  induction keys generalizing items with
  | nil =>
    cases items with
    | nil => rfl
    | cons item _ => cases covered item List.mem_cons_self
  | cons value keys ih =>
    obtain ⟨absent, distinct⟩ := List.nodup_cons.mp distinct
    have others : ∀ other ∈ keys, (items.filter fun item => !decide (key item = value)).filter (key · = other) =
        items.filter (key · = other) := by
      intro other member
      rw [List.filter_filter]
      refine List.filter_congr fun item _ => ?_
      by_cases own : key item = other
      · have apart : key item ≠ value := fun same => absent (same ▸ own ▸ member)
        simp [own, own ▸ apart]
      · simp [own]
    have rest := @ih distinct (items.filter fun item => !decide (key item = value)) fun item member => by
      obtain ⟨inside, apart⟩ := List.mem_filter.mp member
      exact (List.mem_cons.mp (covered item inside)).resolve_left (by simpa using apart)
    rw [List.flatMap_congr others] at rest
    rw [List.flatMap_cons]
    exact (rest.append_left _).trans (List.filter_append_perm (fun item => decide (key item = value)) items)

omit [DecidableEq β] in
/-- Items whose keys are in one of two lists that share none. -/
theorem filter_append_perm_filter {left right : List α} (apart : left.Disjoint right) (key : β → α) (items : List β) :
    (items.filter (key · ∈ left) ++ items.filter (key · ∈ right)).Perm (items.filter (key · ∈ left ++ right)) := by
  have parts := List.filter_append_perm (fun item => decide (key item ∈ left)) (items.filter (key · ∈ left ++ right))
  simp only [List.filter_filter] at parts
  have first : ∀ item, (decide (key item ∈ left) && decide (key item ∈ left ++ right)) = decide (key item ∈ left) := by
    intro item
    by_cases inside : key item ∈ left <;> simp [inside]
  have second : ∀ item, (!decide (key item ∈ left) && decide (key item ∈ left ++ right)) = decide (key item ∈ right) := by
    intro item
    by_cases inside : key item ∈ left
    · have outside : key item ∉ right := fun other => apart inside other
      simp [inside, outside]
    · simp [inside]
  simpa only [first, second] using parts

end Grouping

end Collections
