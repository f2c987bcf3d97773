import Mathlib.Data.List.Sort
import Mathlib.Data.List.Nodup

/-! Insertion-ordered dictionaries. Iteration follows the order in which keys
were first inserted, while equality of two dictionaries only compares what each
key maps to. The unique-keys invariant is part of the type. -/

structure Dict (κ : Type) (α : Type) where
  entries : List (κ × α)
  unique : (entries.map Prod.fst).Nodup
deriving DecidableEq

namespace Dict

variable {κ α β γ : Type} [DecidableEq κ]

omit [DecidableEq κ] in
theorem ext {left right : Dict κ α} (same : left.entries = right.entries) : left = right := by
  cases left
  cases right
  simpa using same

def empty : Dict κ α := ⟨[], List.nodup_nil⟩

def get? (dict : Dict κ α) (key : κ) : Option α := dict.entries.lookup key

def keys (dict : Dict κ α) : List κ := dict.entries.map Prod.fst

def values (dict : Dict κ α) : List α := dict.entries.map Prod.snd

def contains (dict : Dict κ α) (key : κ) : Bool := (dict.get? key).isSome

def isEmpty (dict : Dict κ α) : Bool := dict.entries.isEmpty

omit [DecidableEq κ] in
theorem keys_nodup (dict : Dict κ α) : dict.keys.Nodup := dict.unique

theorem lookup_cons_if (entry : κ × α) (rest : List (κ × α)) (key : κ) :
    (entry :: rest).lookup key = if key = entry.1 then some entry.2 else rest.lookup key := by
  obtain ⟨head, stored⟩ := entry
  rw [List.lookup_cons]
  by_cases same : key = head
  · simp [same]
  · simp [same, beq_eq_false_iff_ne.mpr same]

theorem get?_iff {dict : Dict κ α} {key : κ} {value : α} :
    dict.get? key = some value ↔ (key, value) ∈ dict.entries := by
  obtain ⟨entries, unique⟩ := dict
  simp only [get?]
  induction entries with
  | nil => simp
  | cons entry entries ih =>
    obtain ⟨head, stored⟩ := entry
    simp only [List.map_cons, List.nodup_cons, List.mem_map, not_exists, not_and] at unique
    rw [lookup_cons_if]
    by_cases same : key = head
    · subst same
      simp only [if_true, Option.some.injEq, List.mem_cons, Prod.mk.injEq, true_and]
      constructor
      · exact fun equal => .inl equal.symm
      · rintro (equal | member)
        · exact equal.symm
        · exact absurd rfl (unique.1 _ member)
    · simp only [same, if_false, ih unique.2, List.mem_cons, Prod.mk.injEq, false_and, false_or]

theorem get?_none_iff {dict : Dict κ α} {key : κ} : dict.get? key = none ↔ key ∉ dict.keys := by
  rw [Option.eq_none_iff_forall_ne_some]
  simp [get?_iff, keys]

theorem mem_keys_iff {dict : Dict κ α} {key : κ} : key ∈ dict.keys ↔ ∃ value, dict.get? key = some value := by
  simp [get?_iff, keys]

theorem contains_iff {dict : Dict κ α} {key : κ} : dict.contains key = true ↔ key ∈ dict.keys := by
  rw [contains, Option.isSome_iff_exists, mem_keys_iff]

theorem mem_values_iff {dict : Dict κ α} {value : α} :
    value ∈ dict.values ↔ ∃ key, dict.get? key = some value := by
  simp [get?_iff, values]

theorem mem_keys_of_get? {dict : Dict κ α} {key : κ} {value : α} (found : dict.get? key = some value) :
    key ∈ dict.keys := mem_keys_iff.mpr ⟨value, found⟩

@[simp] theorem get?_empty (key : κ) : (empty : Dict κ α).get? key = none := rfl

/-- Dictionaries agree when every key maps to related values. -/
def Rel (left : Dict κ α) (relation : α → β → Prop) (right : Dict κ β) : Prop :=
  ∀ key, Option.Rel relation (left.get? key) (right.get? key)

theorem Rel.symm {relation : α → β → Prop} {inverse : β → α → Prop} {left : Dict κ α} {right : Dict κ β}
    (related : left.Rel relation right) (symmetric : ∀ {first second}, relation first second → inverse second first) :
    right.Rel inverse left := by
  intro key
  have values := related key
  generalize left.get? key = first, right.get? key = second at values ⊢
  cases values with
  | none => exact .none
  | some value => exact .some (symmetric value)

theorem Rel.trans {relation : α → α → Prop} {first second third : Dict κ α} (left : first.Rel relation second)
    (right : second.Rel relation third)
    (transitive : ∀ {one two three}, relation one two → relation two three → relation one three) :
    first.Rel relation third := by
  intro key
  have one := left key
  have two := right key
  generalize first.get? key = lower, second.get? key = middle, third.get? key = upper at one two ⊢
  cases one with
  | none =>
    cases two
    exact .none
  | some value => cases two with
    | some other => exact .some (transitive value other)

/-- The equality of dictionaries that ignores their order. -/
def Same (left right : Dict κ α) : Prop := ∀ key, left.get? key = right.get? key

theorem Same.refl (dict : Dict κ α) : dict.Same dict := fun _ => rfl

theorem Same.symm {left right : Dict κ α} (same : left.Same right) : right.Same left :=
  fun key => (same key).symm

theorem Same.trans {first second third : Dict κ α} (left : first.Same second) (right : second.Same third) :
    first.Same third := fun key => (left key).trans (right key)

theorem Same.mem_keys {left right : Dict κ α} (same : left.Same right) {key : κ} :
    key ∈ left.keys ↔ key ∈ right.keys := by
  simp [mem_keys_iff, same key]

theorem Same.mem_values {left right : Dict κ α} (same : left.Same right) {value : α} :
    value ∈ left.values ↔ value ∈ right.values := by
  simp [mem_values_iff, same _]

theorem same_of_perm {left right : Dict κ α} (perm : left.entries.Perm right.entries) : left.Same right := by
  intro key
  apply Option.ext
  intro value
  simp [get?_iff, perm.mem_iff]

theorem Same.perm {left right : Dict κ α} (same : left.Same right) : left.entries.Perm right.entries := by
  have distinct : ∀ dict : Dict κ α, dict.entries.Nodup := fun dict => List.Nodup.of_map _ dict.unique
  refine (List.perm_ext_iff_of_nodup (distinct left) (distinct right)).mpr ?_
  rintro ⟨key, value⟩
  rw [← get?_iff, ← get?_iff, same key]

instance [DecidableEq α] (left right : Dict κ α) : Decidable (left.Same right) :=
  decidable_of_iff (left.entries.Perm right.entries) ⟨same_of_perm, Same.perm⟩

/-- Assignment: an existing key keeps its position, a new one goes last. -/
def insertEntries (entries : List (κ × α)) (key : κ) (value : α) : List (κ × α) :=
  match entries with
  | [] => [(key, value)]
  | (head, stored) :: rest =>
    if head = key then (head, value) :: rest else (head, stored) :: insertEntries rest key value

theorem keys_insertEntries (entries : List (κ × α)) (key : κ) (value : α) :
    (insertEntries entries key value).map Prod.fst =
      if key ∈ entries.map Prod.fst then entries.map Prod.fst else entries.map Prod.fst ++ [key] := by
  induction entries with
  | nil => simp [insertEntries]
  | cons entry rest ih =>
    obtain ⟨head, stored⟩ := entry
    unfold insertEntries
    by_cases same : head = key
    · simp [same]
    · simp only [same, if_false, List.map_cons, ih, List.mem_cons, Ne.symm same, false_or]
      split <;> simp

def insert (dict : Dict κ α) (key : κ) (value : α) : Dict κ α where
  entries := insertEntries dict.entries key value
  unique := by
    rw [keys_insertEntries]
    split
    · exact dict.unique
    next absent =>
      exact List.Nodup.append dict.unique (List.nodup_singleton key) (by simpa using absent)

theorem get?_insert (dict : Dict κ α) (key other : κ) (value : α) :
    (dict.insert key value).get? other = if other = key then some value else dict.get? other := by
  obtain ⟨entries, unique⟩ := dict
  simp only [get?, insert]
  clear unique
  induction entries with
  | nil => simp [insertEntries, lookup_cons_if]
  | cons entry rest ih =>
    obtain ⟨head, stored⟩ := entry
    unfold insertEntries
    by_cases same : head = key
    · subst same
      by_cases equal : other = head <;> simp [lookup_cons_if, equal]
    · simp only [same, if_false, lookup_cons_if, ih]
      by_cases equal : other = head
      · subst equal
        simp [same]
      · simp [equal]

theorem keys_insert (dict : Dict κ α) (key : κ) (value : α) :
    (dict.insert key value).keys = if key ∈ dict.keys then dict.keys else dict.keys ++ [key] :=
  keys_insertEntries dict.entries key value

/-- A later assignment to a key wins. -/
def update (dict : Dict κ α) (entries : List (κ × α)) : Dict κ α :=
  entries.foldl (fun dict entry => dict.insert entry.1 entry.2) dict

def ofEntries (entries : List (κ × α)) : Dict κ α := update empty entries

theorem get?_update (dict : Dict κ α) (entries : List (κ × α)) (key : κ) :
    (dict.update entries).get? key = (entries.reverse.lookup key).or (dict.get? key) := by
  induction entries generalizing dict with
  | nil => simp [update]
  | cons entry rest ih =>
    have step : dict.update (entry :: rest) = (dict.insert entry.1 entry.2).update rest := rfl
    rw [step, ih, get?_insert, List.reverse_cons, List.lookup_append]
    cases rest.reverse.lookup key with
    | some value => simp
    | none =>
      by_cases same : key = entry.1 <;> simp [lookup_cons_if, same]

/-- An assignment of distinct keys: each key maps to its entry. -/
theorem get?_update_of_nodup {dict : Dict κ α} {entries : List (κ × α)}
    (distinct : (entries.map Prod.fst).Nodup) (key : κ) :
    (dict.update entries).get? key = (entries.lookup key).or (dict.get? key) := by
  rw [get?_update]
  congr 1
  have reversed : (entries.reverse.map Prod.fst).Nodup := by
    rw [List.map_reverse]
    exact List.nodup_reverse.mpr distinct
  apply Option.ext
  intro value
  have first := @get?_iff κ α _ ⟨entries.reverse, reversed⟩ key value
  have second := @get?_iff κ α _ ⟨entries, distinct⟩ key value
  simp only [get?] at first second
  rw [first, second, List.mem_reverse]

theorem get?_ofEntries_of_nodup {entries : List (κ × α)} (distinct : (entries.map Prod.fst).Nodup) (key : κ) :
    (ofEntries entries).get? key = entries.lookup key := by
  simp [ofEntries, get?_update_of_nodup distinct]

theorem mem_of_get?_ofEntries {entries : List (κ × α)} {key : κ} {value : α}
    (found : (ofEntries entries).get? key = some value) : (key, value) ∈ entries := by
  rw [ofEntries, get?_update, get?_empty, Option.or_none] at found
  obtain ⟨before, after, shape, _⟩ := List.lookup_eq_some_iff.mp found
  rw [← List.mem_reverse, shape]
  simp

theorem insertEntries_of_fresh {entries : List (κ × α)} {key : κ} (value : α)
    (fresh : key ∉ entries.map Prod.fst) : insertEntries entries key value = entries ++ [(key, value)] := by
  induction entries with
  | nil => rfl
  | cons entry entries ih =>
    simp only [List.map_cons, List.mem_cons, not_or] at fresh
    simp [insertEntries, Ne.symm fresh.1, ih fresh.2]

theorem entries_update_of_fresh {dict : Dict κ α} {entries : List (κ × α)}
    (distinct : (entries.map Prod.fst).Nodup) (fresh : ∀ key ∈ entries.map Prod.fst, key ∉ dict.keys) :
    (dict.update entries).entries = dict.entries ++ entries := by
  induction entries generalizing dict with
  | nil => simp [update]
  | cons entry rest ih =>
    obtain ⟨key, value⟩ := entry
    simp only [List.map_cons, List.nodup_cons, List.mem_cons, forall_eq_or_imp] at distinct fresh
    have appended := insertEntries_of_fresh value fresh.1
    have step : dict.update ((key, value) :: rest) = (dict.insert key value).update rest := rfl
    rw [step, ih distinct.2]
    · simp [insert, appended]
    · intro other member
      rw [keys_insert, if_neg fresh.1]
      simp only [List.mem_append, List.mem_singleton, not_or]
      exact ⟨fresh.2 other member, fun same => distinct.1 (same ▸ member)⟩

/-- Building a dictionary from entries with distinct keys keeps them as they are. -/
theorem entries_ofEntries {entries : List (κ × α)} (distinct : (entries.map Prod.fst).Nodup) :
    (ofEntries entries).entries = entries := by
  rw [ofEntries, entries_update_of_fresh distinct (by simp [keys, empty])]
  rfl

/-- With distinct keys the order of the entries does not matter. -/
theorem ofEntries_same {left right : List (κ × α)} (perm : left.Perm right) (distinct : (left.map Prod.fst).Nodup) :
    (ofEntries left).Same (ofEntries right) := by
  apply same_of_perm
  rwa [entries_ofEntries distinct, entries_ofEntries ((perm.map Prod.fst).nodup_iff.mp distinct)]

theorem mem_keys_update {dict : Dict κ α} {entries : List (κ × α)} {key : κ} :
    key ∈ (dict.update entries).keys ↔ key ∈ dict.keys ∨ key ∈ entries.map Prod.fst := by
  induction entries generalizing dict with
  | nil => simp [update]
  | cons entry rest ih =>
    have step : dict.update (entry :: rest) = (dict.insert entry.1 entry.2).update rest := rfl
    rw [step, ih, keys_insert]
    split
    next present =>
      constructor
      · rintro (old | new)
        · exact .inl old
        · exact .inr (by simp [new])
      · rintro (old | new)
        · exact .inl old
        · rcases List.mem_cons.mp new with rfl | new
          · exact .inl present
          · exact .inr new
    next absent =>
      simp only [List.mem_append, List.mem_cons, List.not_mem_nil, or_false, List.map_cons]
      rw [or_assoc]

/-- `dict.fromkeys(items)`: the items once each, in the order of their first occurrence. -/
def fromKeys (items : List κ) : List κ := (ofEntries (items.map fun item => (item, ()))).keys

@[simp] theorem mem_fromKeys {items : List κ} {item : κ} : item ∈ fromKeys items ↔ item ∈ items := by
  rw [fromKeys, ofEntries, mem_keys_update]
  simp [keys, empty]

theorem nodup_fromKeys (items : List κ) : (fromKeys items).Nodup := keys_nodup _

/-- Values are transformed in place. -/
def map (dict : Dict κ α) (transform : κ → α → β) : Dict κ β where
  entries := dict.entries.map fun entry => (entry.1, transform entry.1 entry.2)
  unique := by simpa [Function.comp_def] using dict.unique

omit [DecidableEq κ] in
@[simp] theorem keys_map (dict : Dict κ α) (transform : κ → α → β) : (dict.map transform).keys = dict.keys := by
  simp [keys, map, Function.comp_def]

@[simp] theorem get?_map (dict : Dict κ α) (transform : κ → α → β) (key : κ) :
    (dict.map transform).get? key = (dict.get? key).map (transform key) := by
  obtain ⟨entries, unique⟩ := dict
  simp only [get?, map]
  clear unique
  induction entries with
  | nil => simp
  | cons entry rest ih =>
    by_cases same : key = entry.1 <;> simp [lookup_cons_if, same, ih]

omit [DecidableEq κ] in
@[simp] theorem isEmpty_map (dict : Dict κ α) (transform : κ → α → β) : (dict.map transform).isEmpty = dict.isEmpty := by
  simp [isEmpty, map]

omit [DecidableEq κ] in
theorem values_map (dict : Dict κ α) (transform : α → β) :
    (dict.map fun _ => transform).values = dict.values.map transform := by
  simp [values, map]

theorem map_insert (dict : Dict κ α) (transform : κ → α → β) (key : κ) (value : α) :
    (dict.insert key value).map transform = (dict.map transform).insert key (transform key value) := by
  apply ext
  simp only [map, insert]
  induction dict.entries with
  | nil => rfl
  | cons entry rest ih =>
    by_cases same : entry.1 = key
    · simp [insertEntries, same]
    · simpa [insertEntries, same] using ih

theorem map_update (dict : Dict κ α) (transform : κ → α → β) (entries : List (κ × α)) :
    (dict.update entries).map transform =
      (dict.map transform).update (entries.map fun entry => (entry.1, transform entry.1 entry.2)) := by
  induction entries generalizing dict with
  | nil => rfl
  | cons entry rest ih =>
    have step : dict.update (entry :: rest) = (dict.insert entry.1 entry.2).update rest := rfl
    rw [step, ih, map_insert]
    rfl

/-- Transforming the values of a dictionary is transforming what it is built from. -/
theorem map_ofEntries (transform : κ → α → β) (entries : List (κ × α)) :
    (ofEntries entries).map transform = ofEntries (entries.map fun entry => (entry.1, transform entry.1 entry.2)) :=
  map_update empty transform entries

omit [DecidableEq κ] in
/-- Entries that correspond key by key list the same keys. -/
theorem map_fst_of_forall₂ {left : List (κ × α)} {right : List (κ × β)}
    (same : List.Forall₂ (fun first second => first.1 = second.1) left right) : left.map Prod.fst = right.map Prod.fst := by
  induction same with
  | nil => rfl
  | cons equal _ ih => simp [equal, ih]

/-- Entries that correspond key by key are found under the same keys. -/
theorem rel_get?_of_forall₂ (relation : κ → α → β → Prop) {left : Dict κ α} {right : Dict κ β}
    (corresponds : List.Forall₂ (fun first second => first.1 = second.1 ∧ relation first.1 first.2 second.2) left.entries
      right.entries) (key : κ) : Option.Rel (relation key) (left.get? key) (right.get? key) := by
  unfold get?
  generalize left.entries = lefts, right.entries = rights at corresponds
  induction corresponds with
  | nil => exact .none
  | @cons first second _ _ facts _ ih =>
    rw [lookup_cons_if, lookup_cons_if, ← facts.1]
    split
    next same => exact .some (same ▸ facts.2)
    next => exact ih

omit [DecidableEq κ] in
/-- Dropping entries keeps the keys of the others in order. -/
theorem keys_filterMap_sublist (entries : List (κ × α)) (transform : κ → α → Option β) :
    ((entries.filterMap fun entry => (transform entry.1 entry.2).map (entry.1, ·)).map Prod.fst).Sublist
      (entries.map Prod.fst) := by
  induction entries with
  | nil => simp
  | cons entry rest ih =>
    rw [List.filterMap_cons]
    cases transform entry.1 entry.2 with
    | none => exact ih.cons _
    | some value => exact ih.cons_cons _

/-- Entries whose transformation is absent are dropped. -/
def filterMap (dict : Dict κ α) (transform : κ → α → Option β) : Dict κ β where
  entries := dict.entries.filterMap fun entry => (transform entry.1 entry.2).map (entry.1, ·)
  unique := (keys_filterMap_sublist dict.entries transform).nodup dict.unique

theorem get?_filterMap (dict : Dict κ α) (transform : κ → α → Option β) (key : κ) :
    (dict.filterMap transform).get? key = (dict.get? key).bind (transform key) := by
  apply Option.ext
  intro value
  simp only [get?_iff, filterMap, List.mem_filterMap, Option.map_eq_some_iff, Prod.mk.injEq, Prod.exists,
    Option.bind_eq_some_iff]
  constructor
  · rintro ⟨_, stored, member, _, transformed, rfl, rfl⟩
    exact ⟨stored, member, transformed⟩
  · rintro ⟨stored, member, transformed⟩
    exact ⟨key, stored, member, value, transformed, rfl, rfl⟩

/-- The entries whose keys are kept. -/
def restrict (dict : Dict κ α) (keep : κ → Bool) : Dict κ α where
  entries := dict.entries.filter fun entry => keep entry.1
  unique := (List.filter_sublist.map Prod.fst).nodup dict.unique

theorem get?_restrict (dict : Dict κ α) (keep : κ → Bool) (key : κ) :
    (dict.restrict keep).get? key = if keep key then dict.get? key else none := by
  apply Option.ext
  intro value
  split
  next kept => simp [get?_iff, restrict, kept]
  next dropped => simp [get?_iff, restrict, dropped]

omit [DecidableEq κ] in
theorem keys_restrict (dict : Dict κ α) (keep : κ → Bool) : (dict.restrict keep).keys = dict.keys.filter keep := by
  simp only [keys, restrict, List.filter_map]
  rfl

omit [DecidableEq κ] in
theorem restrict_restrict (dict : Dict κ α) (first second : κ → Bool) :
    (dict.restrict first).restrict second = dict.restrict fun key => first key && second key := by
  apply ext
  simp [restrict, List.filter_filter, Bool.and_comm]

theorem restrict_insert (dict : Dict κ α) (keep : κ → Bool) (key : κ) (value : α) :
    (dict.insert key value).restrict keep =
      if keep key then (dict.restrict keep).insert key value else dict.restrict keep := by
  obtain ⟨entries, unique⟩ := dict
  apply ext
  rw [apply_ite Dict.entries]
  simp only [restrict, insert]
  clear unique
  induction entries with
  | nil =>
    rw [insertEntries]
    split
    next kept => simp [kept, insertEntries]
    next dropped => simp [dropped]
  | cons entry rest ih =>
    obtain ⟨head, stored⟩ := entry
    rw [insertEntries]
    by_cases same : head = key
    · subst same
      by_cases kept : keep head = true <;> simp [kept, insertEntries]
    · rw [if_neg same, List.filter_cons, ih]
      by_cases kept : keep key = true <;> by_cases first : keep head = true <;>
        simp [kept, first, insertEntries, same]

section Sorting

variable [LinearOrder κ]

omit [DecidableEq κ] in
/-- Sorting by key, the order of a JSON text with sorted keys. -/
def sortEntries (entries : List (κ × α)) : List (κ × α) :=
  entries.insertionSort fun left right => left.1 ≤ right.1

omit [DecidableEq κ] in
theorem sortEntries_perm (entries : List (κ × α)) : (sortEntries entries).Perm entries :=
  List.perm_insertionSort _ _

omit [DecidableEq κ] in
theorem sortEntries_idem (entries : List (κ × α)) : sortEntries (sortEntries entries) = sortEntries entries := by
  have total : Std.Total fun left right : κ × α => left.1 ≤ right.1 := ⟨fun left right => le_total left.1 right.1⟩
  have transitive : IsTrans (κ × α) fun left right => left.1 ≤ right.1 := ⟨fun _ _ _ => le_trans⟩
  exact List.Pairwise.insertionSort_eq (List.pairwise_insertionSort _ entries)

omit [DecidableEq κ] in
/-- With distinct keys there is only one sorted order. -/
theorem sortEntries_eq_of_perm {left right : List (κ × α)} (perm : left.Perm right) (distinct : (left.map Prod.fst).Nodup) :
    sortEntries left = sortEntries right := by
  have total : Std.Total fun left right : κ × α => left.1 ≤ right.1 := ⟨fun left right => le_total left.1 right.1⟩
  have transitive : IsTrans (κ × α) fun left right => left.1 ≤ right.1 := ⟨fun _ _ _ => le_trans⟩
  refine List.Perm.eq_of_pairwise ?_ (List.pairwise_insertionSort _ left) (List.pairwise_insertionSort _ right)
    ((sortEntries_perm left).trans (perm.trans (sortEntries_perm right).symm))
  intro first second inFirst inSecond below above
  have inLeft := (sortEntries_perm left).mem_iff.mp inFirst
  have inRight := perm.mem_iff.mpr ((sortEntries_perm right).mem_iff.mp inSecond)
  exact List.inj_on_of_nodup_map distinct inLeft inRight (le_antisymm below above)

omit [DecidableEq κ] in
theorem sortEntries_map (entries : List (κ × α)) (transform : α → β) :
    (sortEntries entries).map (fun entry => (entry.1, transform entry.2)) =
      sortEntries (entries.map fun entry => (entry.1, transform entry.2)) :=
  List.map_insertionSort _ _ _ _ fun _ _ _ _ => Iff.rfl

omit [DecidableEq κ] in
def sorted (dict : Dict κ α) : Dict κ α where
  entries := sortEntries dict.entries
  unique := (((sortEntries_perm dict.entries).map Prod.fst).nodup_iff).mpr dict.unique

theorem sorted_same (dict : Dict κ α) : dict.sorted.Same dict := same_of_perm (sortEntries_perm dict.entries)

@[simp] theorem get?_sorted (dict : Dict κ α) (key : κ) : dict.sorted.get? key = dict.get? key :=
  dict.sorted_same key

/-- A dictionary with its keys in order, or as they are. -/
def arranged (dict : Dict κ α) (sort : Bool) : Dict κ α := if sort then dict.sorted else dict

theorem arranged_same (dict : Dict κ α) (sort : Bool) : (dict.arranged sort).Same dict := by
  cases sort
  · exact Same.refl dict
  · exact dict.sorted_same

theorem arranged_perm (dict : Dict κ α) (sort : Bool) : (dict.arranged sort).entries.Perm dict.entries :=
  (dict.arranged_same sort).perm

@[simp] theorem isEmpty_arranged (dict : Dict κ α) (sort : Bool) : (dict.arranged sort).isEmpty = dict.isEmpty := by
  rw [Bool.eq_iff_iff, isEmpty, isEmpty, List.isEmpty_iff, List.isEmpty_iff, ← List.length_eq_zero_iff,
    ← List.length_eq_zero_iff, (dict.arranged_perm sort).length_eq]

theorem mem_keys_arranged {dict : Dict κ α} {sort : Bool} {key : κ} : key ∈ (dict.arranged sort).keys ↔ key ∈ dict.keys :=
  (dict.arranged_same sort).mem_keys

theorem mem_values_arranged {dict : Dict κ α} {sort : Bool} {value : α} :
    value ∈ (dict.arranged sort).values ↔ value ∈ dict.values :=
  (dict.arranged_same sort).mem_values

@[simp] theorem get?_arranged (dict : Dict κ α) (sort : Bool) (key : κ) : (dict.arranged sort).get? key = dict.get? key :=
  dict.arranged_same sort key

theorem mem_keys_sorted {dict : Dict κ α} {key : κ} : key ∈ dict.sorted.keys ↔ key ∈ dict.keys :=
  dict.sorted_same.mem_keys

end Sorting

end Dict
