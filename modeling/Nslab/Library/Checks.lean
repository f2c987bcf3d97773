import Mathlib.Data.List.Basic
import Mathlib.Data.List.Nodup

/-! Validators as computations in `Except`. A check either passes or reports its
first issue. Every rule below turns the acceptance of a composite check into
acceptance of its parts, so that a validator is read as the facts it establishes. -/

namespace Checks

variable {ε α β : Type}

/-- `if bad: raise ...`, the shape of every check. -/
def raiseIf (bad : Prop) [Decidable bad] (issue : ε) : Except ε Unit :=
  if bad then .error issue else .ok ()

@[simp] theorem raiseIf_ok {bad : Prop} [Decidable bad] {issue : ε} {done : Unit} :
    raiseIf bad issue = .ok done ↔ ¬ bad := by
  unfold raiseIf
  split <;> simp_all

theorem raiseIf_pass {bad : Prop} [Decidable bad] {issue : ε} (good : ¬ bad) : raiseIf bad issue = .ok () :=
  if_neg good

theorem ok_bind (value : α) (rest : α → Except ε β) : (Except.ok value >>= rest) = rest value := rfl

@[simp] theorem bind_ok {first : Except ε α} {rest : α → Except ε β} {value : β} :
    (first >>= rest) = .ok value ↔ ∃ middle, first = .ok middle ∧ rest middle = .ok value := by
  cases first <;> simp [Bind.bind, Except.bind]

@[simp] theorem pure_ok {first value : α} : (pure first : Except ε α) = .ok value ↔ first = value := by
  simp [Pure.pure, Except.pure]

@[simp] theorem throw_ok {issue : ε} {value : α} : (throw issue : Except ε α) = .ok value ↔ False := by
  simp [throw, throwThe, MonadExceptOf.throw]

@[simp] theorem exists_unit {property : Unit → Prop} : (∃ done, property done) ↔ property () :=
  ⟨fun found => found.elim fun _ holds => holds, fun holds => ⟨(), holds⟩⟩

theorem map_ok {first : Except ε α} {transform : α → β} {value : β} :
    first.map transform = .ok value ↔ ∃ inner, first = .ok inner ∧ transform inner = value := by
  cases first <;> simp [Except.map]

theorem ok_of_toOption {check : Except ε α} {value : α} (found : check.toOption = some value) : check = .ok value := by
  cases check with
  | error issue => simp [Except.toOption] at found
  | ok other => simpa [Except.toOption] using found

/-- Translate the issues of a check, leaving acceptance unchanged. -/
def mapIssue {δ : Type} (translate : ε → δ) : Except ε α → Except δ α
  | .ok value => .ok value
  | .error issue => .error (translate issue)

@[simp] theorem mapIssue_ok {δ : Type} {translate : ε → δ} {check : Except ε α} {value : α} :
    mapIssue translate check = .ok value ↔ check = .ok value := by
  cases check <;> simp [mapIssue]

/-- A check made on a value that may be absent. -/
def ifSome (value : Option α) (check : α → Except ε Unit) : Except ε Unit :=
  match value with
  | none => .ok ()
  | some value => check value

@[simp] theorem ifSome_ok {value : Option α} {check : α → Except ε Unit} {done : Unit} :
    ifSome value check = .ok done ↔ ∀ given, value = some given → check given = .ok () := by
  cases value <;> simp [ifSome]

/-- One check for every element, in order. -/
def each (items : List α) (check : α → Except ε Unit) : Except ε Unit :=
  match items with
  | [] => .ok ()
  | item :: items => do
    check item
    each items check

@[simp] theorem each_ok {items : List α} {check : α → Except ε Unit} {done : Unit} :
    each items check = .ok done ↔ ∀ item ∈ items, check item = .ok () := by
  induction items with
  | nil => simp [each]
  | cons item items ih => simp [each, ih]

/-- A loop that remembers the keys of the elements seen so far: a check before each
element is looked up, an issue for a repeated key, a check after it. -/
def sweepFrom [DecidableEq β] (seen : List β) (items : List α) (key : α → β) (before : α → Except ε Unit)
    (repeated : α → ε) (after : α → Except ε Unit) : Except ε Unit :=
  match items with
  | [] => .ok ()
  | item :: items => do
    before item
    raiseIf (key item ∈ seen) (repeated item)
    after item
    sweepFrom (key item :: seen) items key before repeated after

def sweep [DecidableEq β] (items : List α) (key : α → β) (before : α → Except ε Unit) (repeated : α → ε)
    (after : α → Except ε Unit) : Except ε Unit :=
  sweepFrom [] items key before repeated after

/-- The first repeated key is the issue. -/
def distinct [DecidableEq β] (items : List α) (key : α → β) (repeated : α → ε) : Except ε Unit :=
  sweep items key (fun _ => .ok ()) repeated fun _ => .ok ()

theorem sweepFrom_ok [DecidableEq β] {seen : List β} {items : List α} {key : α → β} {before : α → Except ε Unit}
    {repeated : α → ε} {after : α → Except ε Unit} {done : Unit} :
    sweepFrom seen items key before repeated after = .ok done ↔
      (∀ item ∈ items, before item = .ok () ∧ key item ∉ seen ∧ after item = .ok ()) ∧ (items.map key).Nodup := by
  induction items generalizing seen with
  | nil => simp [sweepFrom]
  | cons item items ih =>
    simp only [sweepFrom, bind_ok, raiseIf_ok, exists_unit, ih, List.mem_cons, not_or, forall_eq_or_imp, List.map_cons,
      List.nodup_cons, List.mem_map, not_exists, not_and]
    constructor
    · rintro ⟨first, fresh, last, rest, unique⟩
      exact ⟨⟨⟨first, fresh, last⟩, fun other member => ⟨(rest other member).1, (rest other member).2.1.2,
        (rest other member).2.2⟩⟩, fun other member => (rest other member).2.1.1, unique⟩
    · rintro ⟨⟨⟨first, fresh, last⟩, rest⟩, alone, unique⟩
      exact ⟨first, fresh, last, fun other member => ⟨(rest other member).1, ⟨alone other member,
        (rest other member).2.1⟩, (rest other member).2.2⟩, unique⟩

@[simp] theorem sweep_ok [DecidableEq β] {items : List α} {key : α → β} {before : α → Except ε Unit} {repeated : α → ε}
    {after : α → Except ε Unit} {done : Unit} : sweep items key before repeated after = .ok done ↔
      (∀ item ∈ items, before item = .ok () ∧ after item = .ok ()) ∧ (items.map key).Nodup := by
  simp [sweep, sweepFrom_ok]

@[simp] theorem distinct_ok [DecidableEq β] {items : List α} {key : α → β} {repeated : α → ε} {done : Unit} :
    distinct items key repeated = .ok done ↔ (items.map key).Nodup := by
  simp [distinct]

/-- Collect the results of a check that produces values. -/
def collect (items : List α) (check : α → Except ε β) : Except ε (List β) :=
  match items with
  | [] => .ok []
  | item :: items => do
    let value ← check item
    let values ← collect items check
    pure (value :: values)

theorem collect_ok {items : List α} {check : α → Except ε β} {values : List β} :
    collect items check = .ok values ↔ List.Forall₂ (fun item value => check item = .ok value) items values := by
  induction items generalizing values with
  | nil => cases values <;> simp [collect]
  | cons item items ih =>
    simp only [collect, bind_ok, pure_ok]
    constructor
    · rintro ⟨value, accepted, rest, collected, rfl⟩
      exact .cons accepted (ih.mp collected)
    · rintro (_ | ⟨accepted, rest⟩)
      exact ⟨_, accepted, _, ih.mpr rest, rfl⟩

/-- What stands on the right of a pointwise relation has a partner on the left. -/
theorem exists_of_mem_right {relation : α → β → Prop} {items : List α} {values : List β}
    (related : List.Forall₂ relation items values) {value : β} (member : value ∈ values) :
    ∃ item ∈ items, relation item value := by
  induction related with
  | nil => cases member
  | @cons item _ _ _ head _ ih =>
    rcases List.mem_cons.mp member with rfl | member
    · exact ⟨item, List.mem_cons_self, head⟩
    · obtain ⟨other, inside, holds⟩ := ih member
      exact ⟨other, List.mem_cons_of_mem _ inside, holds⟩

/-- What stands on the left of a pointwise relation has a partner on the right. -/
theorem exists_of_mem_left {relation : α → β → Prop} {items : List α} {values : List β}
    (related : List.Forall₂ relation items values) {item : α} (member : item ∈ items) :
    ∃ value ∈ values, relation item value := by
  obtain ⟨value, inside, holds⟩ := exists_of_mem_right related.flip member
  exact ⟨value, inside, holds⟩

/-- Collecting values under their keys lists the keys, each with its value. -/
theorem collect_keyed {keys : List α} {check : α → Except ε β} {entries : List (α × β)}
    (collected : collect keys (fun key => (check key).map (key, ·)) = .ok entries) :
    entries.map Prod.fst = keys ∧ ∀ key ∈ keys, ∃ value, check key = .ok value ∧ (key, value) ∈ entries := by
  rw [collect_ok] at collected
  induction collected with
  | nil => exact ⟨rfl, List.forall_mem_nil _⟩
  | @cons key entry keys entries head _ ih =>
    cases found : check key with
    | error issue => simp [found, Except.map] at head
    | ok value =>
      simp only [found, Except.map, Except.ok.injEq] at head
      subst head
      refine ⟨by rw [List.map_cons, ih.1], ?_⟩
      rw [List.forall_mem_cons]
      refine ⟨⟨value, found, List.mem_cons_self⟩, fun other member => ?_⟩
      obtain ⟨result, accepted, inside⟩ := ih.2 other member
      exact ⟨result, accepted, List.mem_cons_of_mem _ inside⟩

/-- Collecting succeeds with the expected values when every element does. -/
theorem collect_map {items : List α} {check : α → Except ε β} {expected : α → β}
    (accepted : ∀ item ∈ items, check item = .ok (expected item)) :
    collect items check = .ok (items.map expected) := by
  induction items with
  | nil => rfl
  | cons item items ih =>
    simp only [List.mem_cons, forall_eq_or_imp] at accepted
    simp [collect, accepted.1, ih accepted.2]

/-- Collecting succeeds when every element does. -/
theorem collect_total {items : List α} {check : α → Except ε β} :
    (∃ values, collect items check = .ok values) ↔ ∀ item ∈ items, ∃ value, check item = .ok value := by
  induction items with
  | nil => simp [collect]
  | cons item items ih =>
    simp only [collect, bind_ok, pure_ok, List.mem_cons, forall_eq_or_imp, ← ih]
    constructor
    · rintro ⟨_, value, accepted, values, collected, _⟩
      exact ⟨⟨value, accepted⟩, values, collected⟩
    · rintro ⟨⟨value, accepted⟩, values, collected⟩
      exact ⟨_, value, accepted, values, collected, rfl⟩

end Checks
