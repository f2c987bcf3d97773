import Mathlib.Data.String.Basic
import Nslab.Library.Checks
import Nslab.Library.Dict
import Nslab.Library.Float64

/-! Untyped documents, as a YAML or JSON loader hands them to a program.
Sequences and mappings carry one flag for their container type: a frozen
sequence is a tuple and a frozen mapping a read-only proxy, an ordinary one a
list and a dict. -/

inductive Document where
  | null
  | bool (value : Bool)
  | int (value : Int)
  | float (value : Float64)
  | str (value : String)
  | sequence (frozen : Bool) (items : List Document)
  | mapping (frozen : Bool) (entries : List (String × Document))

namespace Document

@[match_pattern] abbrev list (items : List Document) : Document := .sequence false items
@[match_pattern] abbrev dict (entries : List (String × Document)) : Document := .mapping false entries

instance : Inhabited Document := ⟨.null⟩

section Equality

mutual
def beq : Document → Document → Bool
  | .null, .null => true
  | .bool left, .bool right => left == right
  | .int left, .int right => left == right
  | .float left, .float right => decide (left = right)
  | .str left, .str right => left == right
  | .sequence frozen left, .sequence other right => frozen == other && beqItems left right
  | .mapping frozen left, .mapping other right => frozen == other && beqEntries left right
  | _, _ => false
termination_by structural document => document

def beqItems : List Document → List Document → Bool
  | [], [] => true
  | left :: lefts, right :: rights => left.beq right && beqItems lefts rights
  | _, _ => false
termination_by structural documents => documents

def beqEntries : List (String × Document) → List (String × Document) → Bool
  | [], [] => true
  | (key, left) :: lefts, (other, right) :: rights => key == other && left.beq right && beqEntries lefts rights
  | _, _ => false
termination_by structural entries => entries
end

mutual
theorem beq_iff (left right : Document) : left.beq right = true ↔ left = right := by
  cases left with
  | sequence frozen items => cases right <;> simp [beq, beqItems_iff items]
  | mapping frozen entries => cases right <;> simp [beq, beqEntries_iff entries]
  | null | bool _ | int _ | float _ | str _ => cases right <;> simp [beq]

theorem beqItems_iff (left right : List Document) : beqItems left right = true ↔ left = right := by
  match left, right with
  | [], [] | [], _ :: _ | _ :: _, [] => simp [beqItems]
  | first :: rest, _ :: _ => simp [beqItems, beq_iff first, beqItems_iff rest]

theorem beqEntries_iff (left right : List (String × Document)) :
    beqEntries left right = true ↔ left = right := by
  match left, right with
  | [], [] | [], _ :: _ | _ :: _, [] => simp [beqEntries]
  | (_, first) :: rest, (_, _) :: _ => simp [beqEntries, beq_iff first, beqEntries_iff rest, and_assoc]
end

instance : DecidableEq Document := fun left right => decidable_of_iff _ (beq_iff left right)

end Equality

section Comparison

/-- The number that a boolean, an integer or a float stands for. -/
def number? : Document → Option Float64
  | .bool value => some (.finite (if value then 1 else 0))
  | .int value => some (.finite value)
  | .float value => some value
  | _ => none

mutual
/-- `left == right`: numbers compare by value, mappings without their order or container type,
and a list never equals a tuple. -/
def same : Document → Document → Bool
  | .null, right => right.beq .null
  | .str left, right => right.beq (.str left)
  | .sequence frozen left, right => match right with
    | .sequence other right => frozen == other && sameItems left right
    | _ => false
  | .mapping _ left, right => match right with
    | .mapping _ right => left.length == right.length && sameEntries left right
    | _ => false
  | .bool left, right => right.number?.any (Float64.same (.finite (if left then 1 else 0)))
  | .int left, right => right.number?.any (Float64.same (.finite left))
  | .float left, right => right.number?.any left.same
termination_by structural document => document

def sameItems : List Document → List Document → Bool
  | [], right => right.isEmpty
  | left :: lefts, right => match right with
    | [] => false
    | right :: rights => left.same right && sameItems lefts rights
termination_by structural documents => documents

/-- Every entry on the left has an equal one under its key on the right. -/
def sameEntries : List (String × Document) → List (String × Document) → Bool
  | [], _ => true
  | (key, left) :: lefts, rights => (rights.lookup key).any left.same && sameEntries lefts rights
termination_by structural entries => entries
end

end Comparison

section Reshape

mutual
/-- One traversal rebuilds every container: `frozen` selects its type, `sorted`
whether the keys of mappings end up in order. -/
def reshape (sorted frozen : Bool) : Document → Document
  | .sequence _ items => .sequence frozen (reshapeItems sorted frozen items)
  | .mapping _ entries =>
    .mapping frozen (if sorted then Dict.sortEntries (reshapeEntries sorted frozen entries)
      else reshapeEntries sorted frozen entries)
  | .null => .null
  | .bool value => .bool value
  | .int value => .int value
  | .float value => .float value
  | .str value => .str value
termination_by structural document => document

def reshapeItems (sorted frozen : Bool) : List Document → List Document
  | [] => []
  | item :: items => item.reshape sorted frozen :: reshapeItems sorted frozen items
termination_by structural items => items

def reshapeEntries (sorted frozen : Bool) : List (String × Document) → List (String × Document)
  | [] => []
  | (key, value) :: entries => (key, value.reshape sorted frozen) :: reshapeEntries sorted frozen entries
termination_by structural entries => entries
end

@[simp] theorem reshapeItems_eq (sorted frozen : Bool) (items : List Document) :
    reshapeItems sorted frozen items = items.map (reshape sorted frozen) := by
  induction items with
  | nil => rfl
  | cons item items ih => simp [reshapeItems, ih]

@[simp] theorem reshapeEntries_eq (sorted frozen : Bool) (entries : List (String × Document)) :
    reshapeEntries sorted frozen entries = entries.map fun entry => (entry.1, entry.2.reshape sorted frozen) := by
  induction entries with
  | nil => rfl
  | cons entry entries ih => simp [reshapeEntries, ih]

mutual
/-- Reshaping again only chooses the container types anew. -/
theorem reshape_reshape (document : Document) (sorted frozen again refrozen : Bool) :
    (document.reshape sorted frozen).reshape again refrozen = document.reshape (sorted || again) refrozen := by
  cases document with
  | sequence _ items => simpa [reshape] using items_reshape items sorted frozen again refrozen
  | mapping _ entries =>
    have ih := entries_reshape entries sorted frozen again refrozen
    cases sorted <;> cases again <;>
      simp only [reshape, reshapeEntries_eq, if_true, Bool.false_eq_true, if_false, Bool.or_false, Bool.or_true,
        List.map_map, Dict.sortEntries_map, Dict.sortEntries_idem] at ih ⊢ <;>
      rw [ih]
  | null | bool _ | int _ | float _ | str _ => rfl

theorem items_reshape (items : List Document) (sorted frozen again refrozen : Bool) :
    (items.map (reshape sorted frozen)).map (reshape again refrozen) =
      items.map (reshape (sorted || again) refrozen) := by
  match items with
  | [] => rfl
  | item :: rest =>
    simp only [List.map_cons, reshape_reshape item, items_reshape rest]

theorem entries_reshape (entries : List (String × Document)) (sorted frozen again refrozen : Bool) :
    entries.map ((fun entry => (entry.1, entry.2.reshape again refrozen)) ∘
        fun entry => (entry.1, entry.2.reshape sorted frozen)) =
      entries.map fun entry => (entry.1, entry.2.reshape (sorted || again) refrozen) := by
  match entries with
  | [] => rfl
  | entry :: rest =>
    simp only [List.map_cons, Function.comp_apply, reshape_reshape entry.2, entries_reshape rest]
end

/-- Mappings as dicts and sequences as lists, in their own order. -/
def thaw (document : Document) : Document := document.reshape false false

/-- What decoding the JSON text with sorted keys gives back. -/
def decoded (document : Document) : Document := document.reshape true false

end Reshape

section Plain

mutual
/-- No container of the document is frozen, as in every document a loader builds. -/
def plain : Document → Bool
  | .sequence frozen items => !frozen && plainItems items
  | .mapping frozen entries => !frozen && plainEntries entries
  | .null => true
  | .bool _ => true
  | .int _ => true
  | .float _ => true
  | .str _ => true
termination_by structural document => document

def plainItems : List Document → Bool
  | [] => true
  | item :: items => item.plain && plainItems items
termination_by structural items => items

def plainEntries : List (String × Document) → Bool
  | [] => true
  | (_, value) :: entries => value.plain && plainEntries entries
termination_by structural entries => entries
end

@[simp] theorem plainItems_iff {items : List Document} :
    plainItems items = true ↔ ∀ item ∈ items, item.plain = true := by
  induction items with
  | nil => simp [plainItems]
  | cons item items ih => simp [plainItems, ih]

@[simp] theorem plainEntries_iff {entries : List (String × Document)} :
    plainEntries entries = true ↔ ∀ entry ∈ entries, entry.2.plain = true := by
  induction entries with
  | nil => simp [plainEntries]
  | cons entry entries ih => simp [plainEntries, ih]

theorem plain_sequence {frozen : Bool} {items : List Document} :
    (Document.sequence frozen items).plain = true ↔ frozen = false ∧ ∀ item ∈ items, item.plain = true := by
  simp [plain]

theorem plain_mapping {frozen : Bool} {entries : List (String × Document)} :
    (Document.mapping frozen entries).plain = true ↔ frozen = false ∧ ∀ entry ∈ entries, entry.2.plain = true := by
  simp [plain]

mutual
theorem plain_reshape (document : Document) (sorted : Bool) : (document.reshape sorted false).plain = true := by
  cases document with
  | sequence _ items => simpa [reshape, plain] using items_plain items sorted
  | mapping _ entries =>
    have values := entries_plain entries sorted
    cases sorted <;>
      simp only [reshape, reshapeEntries_eq, plain_mapping, Bool.false_eq_true, if_false, if_true, true_and]
    · exact values
    · intro entry member
      exact values entry ((Dict.sortEntries_perm _).mem_iff.mp member)
  | null | bool _ | int _ | float _ | str _ => rfl

theorem items_plain (items : List Document) (sorted : Bool) :
    ∀ item ∈ items.map (reshape sorted false), item.plain = true := by
  match items with
  | [] => simp
  | item :: rest =>
    rw [List.map_cons, List.forall_mem_cons]
    exact ⟨plain_reshape item sorted, items_plain rest sorted⟩

theorem entries_plain (entries : List (String × Document)) (sorted : Bool) :
    ∀ entry ∈ entries.map fun entry => (entry.1, entry.2.reshape sorted false), entry.2.plain = true := by
  match entries with
  | [] => simp
  | entry :: rest =>
    rw [List.map_cons, List.forall_mem_cons]
    exact ⟨plain_reshape entry.2 sorted, entries_plain rest sorted⟩
end

mutual
/-- Thawing leaves a plain document as it is. -/
theorem reshape_plain {document : Document} (plain : document.plain = true) :
    document.reshape false false = document := by
  match document with
  | .sequence frozen items =>
    obtain ⟨rfl, all⟩ := plain_sequence.mp plain
    simp [reshape, items_reshape_plain all]
  | .mapping frozen entries =>
    obtain ⟨rfl, all⟩ := plain_mapping.mp plain
    simp [reshape, entries_reshape_plain all]
  | .null | .bool _ | .int _ | .float _ | .str _ => rfl

theorem items_reshape_plain {items : List Document} (plain : ∀ item ∈ items, item.plain = true) :
    items.map (reshape false false) = items := by
  match items with
  | [] => rfl
  | item :: rest =>
    rw [List.forall_mem_cons] at plain
    rw [List.map_cons, reshape_plain plain.1, items_reshape_plain plain.2]

theorem entries_reshape_plain {entries : List (String × Document)} (plain : ∀ entry ∈ entries, entry.2.plain = true) :
    entries.map (fun entry => (entry.1, entry.2.reshape false false)) = entries := by
  match entries with
  | [] => rfl
  | (key, value) :: rest =>
    rw [List.forall_mem_cons] at plain
    rw [List.map_cons, reshape_plain plain.1, entries_reshape_plain plain.2]
end

end Plain

section Finite

mutual
/-- No number of the document is NaN or infinite. -/
def finite : Document → Bool
  | .sequence _ items => finiteItems items
  | .mapping _ entries => finiteEntries entries
  | .null => true
  | .bool _ => true
  | .int _ => true
  | .float value => value.isFinite
  | .str _ => true
termination_by structural document => document

def finiteItems : List Document → Bool
  | [] => true
  | item :: items => item.finite && finiteItems items
termination_by structural items => items

def finiteEntries : List (String × Document) → Bool
  | [] => true
  | (_, value) :: entries => value.finite && finiteEntries entries
termination_by structural entries => entries
end

@[simp] theorem finiteItems_iff {items : List Document} :
    finiteItems items = true ↔ ∀ item ∈ items, item.finite = true := by
  induction items with
  | nil => simp [finiteItems]
  | cons item items ih => simp [finiteItems, ih]

@[simp] theorem finiteEntries_iff {entries : List (String × Document)} :
    finiteEntries entries = true ↔ ∀ entry ∈ entries, entry.2.finite = true := by
  induction entries with
  | nil => simp [finiteEntries]
  | cons entry entries ih => simp [finiteEntries, ih]

mutual
/-- Only the numbers of a document matter for its being finite. -/
theorem finite_reshape (document : Document) (sorted frozen : Bool) :
    (document.reshape sorted frozen).finite = true ↔ document.finite = true := by
  match document with
  | .sequence _ items => simpa [reshape, finite] using items_finite items sorted frozen
  | .mapping _ entries =>
    have values := entries_finite entries sorted frozen
    cases sorted with
    | false =>
      simp only [reshape, finite, Bool.false_eq_true, if_false, reshapeEntries_eq, finiteEntries_iff, List.forall_mem_map]
      exact values
    | true =>
      simp only [reshape, finite, if_true, reshapeEntries_eq, finiteEntries_iff, (Dict.sortEntries_perm _).mem_iff,
        List.forall_mem_map]
      exact values
  | .null | .bool _ | .int _ | .float _ | .str _ => exact Iff.rfl

theorem items_finite (items : List Document) (sorted frozen : Bool) :
    (∀ item ∈ items, (item.reshape sorted frozen).finite = true) ↔ ∀ item ∈ items, item.finite = true := by
  match items with
  | [] => simp
  | item :: rest => rw [List.forall_mem_cons, List.forall_mem_cons, finite_reshape item, items_finite rest]

theorem entries_finite (entries : List (String × Document)) (sorted frozen : Bool) :
    (∀ entry ∈ entries, (entry.2.reshape sorted frozen).finite = true) ↔ ∀ entry ∈ entries, entry.2.finite = true := by
  match entries with
  | [] => simp
  | entry :: rest => rw [List.forall_mem_cons, List.forall_mem_cons, finite_reshape entry.2, entries_finite rest]
end

end Finite

end Document
