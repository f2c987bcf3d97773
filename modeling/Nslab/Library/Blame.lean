import Nslab.Library.Checks

/-! What a check may end with, when it does not pass. -/

namespace Checks

variable {ε δ α β : Type}

/-- Whatever the check reports is allowed. -/
def Blames (allowed : ε → Prop) (result : Except ε α) : Prop := ∀ issue, result = .error issue → allowed issue

namespace Blames

variable {allowed : ε → Prop} {result : Except ε α}

theorem ok {value : α} : Blames allowed (.ok value : Except ε α) := fun _ failed => by cases failed

theorem error {issue : ε} (holds : allowed issue) : Blames allowed (.error issue : Except ε α) :=
  fun _ failed => Except.error.inj failed ▸ holds

theorem raiseIf {bad : Prop} [Decidable bad] {issue : ε} (holds : allowed issue) : Blames allowed (raiseIf bad issue) := by
  unfold Checks.raiseIf
  split
  · exact error holds
  · exact ok

theorem bind {next : α → Except ε β} (first : Blames allowed result) (rest : ∀ value, Blames allowed (next value)) :
    Blames allowed (result >>= next) := by
  cases result with
  | ok value => exact rest value
  | error issue => exact error (first issue rfl)

theorem map {transform : α → β} (valid : Blames allowed result) : Blames allowed (result.map transform) := by
  cases result with
  | ok value => exact ok
  | error issue => exact error (valid issue rfl)

theorem mapIssue {translate : ε → δ} {others : δ → Prop} (valid : Blames (fun issue => others (translate issue)) result) :
    Blames others (mapIssue translate result) := by
  cases result with
  | ok value => exact ok
  | error issue => exact error (valid issue rfl)

theorem each {items : List α} {check : α → Except ε Unit} (valid : ∀ item ∈ items, Blames allowed (check item)) :
    Blames allowed (each items check) := by
  induction items with
  | nil => exact ok
  | cons item items ih =>
    exact (valid item List.mem_cons_self).bind fun _ => ih fun other member => valid other (List.mem_cons_of_mem _ member)

theorem collect {items : List α} {check : α → Except ε β} (valid : ∀ item ∈ items, Blames allowed (check item)) :
    Blames allowed (collect items check) := by
  induction items with
  | nil => exact ok
  | cons item items ih =>
    apply (valid item List.mem_cons_self).bind
    intro value
    exact (ih fun other member => valid other (List.mem_cons_of_mem _ member)).bind fun _ => ok

end Blames

end Checks
