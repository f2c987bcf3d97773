import Mathlib.Data.List.TakeWhile
import Mathlib.Data.List.Basic
import Mathlib.Data.List.Nodup
import Mathlib.Tactic.Ring

/-! Characters, numerals and separators. Texts are compared and taken apart as
lists of characters, where the facts about splitting and joining live. -/

namespace Text

/-- `text.split(separator)` of a one-character separator. -/
def split (separator : Char) (text : List Char) : List (List Char) := text.splitOn separator

/-- `separator.join(parts)`. -/
def join (separator : Char) (parts : List (List Char)) : List Char := [separator].intercalate parts

/-- `text.partition(separator)`: what stands before the first separator, whether
there is one, and what stands after it. -/
def partition (separator : Char) (text : String) : String × Bool × String :=
  let before := text.toList.takeWhile (· ≠ separator)
  match text.toList.dropWhile (· ≠ separator) with
  | [] => (text, false, "")
  | _ :: after => (String.ofList before, true, String.ofList after)

/-- A text is what its partition says. -/
theorem partition_spec {separator : Char} {text : String} (separated : (partition separator text).2.1 = true) :
    text.toList = (partition separator text).1.toList ++ separator :: (partition separator text).2.2.toList ∧
      separator ∉ (partition separator text).1.toList := by
  have parts := List.takeWhile_append_dropWhile (p := fun char => decide (char ≠ separator)) (l := text.toList)
  have clean : separator ∉ text.toList.takeWhile fun char => decide (char ≠ separator) := fun member => by
    simpa using List.mem_takeWhile_imp member
  unfold partition at separated ⊢
  cases rest : text.toList.dropWhile fun char => decide (char ≠ separator) with
  | nil =>
    rw [rest] at separated
    cases separated
  | cons char after =>
    have stops : char = separator := by
      have some : text.toList.dropWhile (fun char => decide (char ≠ separator)) ≠ [] := by simp only [rest, ne_eq, reduceCtorEq, not_false_eq_true]
      have first := List.head_dropWhile_not (fun char => decide (char ≠ separator)) some
      simpa only [rest, List.head_cons, decide_eq_false_iff_not, not_not] using first
    simp only [rest, String.toList_ofList, stops] at parts ⊢
    exact ⟨parts.symm, clean⟩

/-- A text is partitioned at its first separator. -/
theorem partition_append {separator : Char} {before : String} (after : String) (clean : separator ∉ before.toList) :
    partition separator (before ++ String.singleton separator ++ after) = (before, true, after) := by
  have full : ∀ char ∈ before.toList, decide (char ≠ separator) = true := fun char member => by
    simpa using fun same : char = separator => clean (same ▸ member)
  have shape : (before ++ String.singleton separator ++ after).toList = before.toList ++ separator :: after.toList := by
    simp
  have front : (before ++ String.singleton separator ++ after).toList.takeWhile (· ≠ separator) = before.toList := by
    rw [shape, List.takeWhile_append_of_pos full]
    simp
  have back : (before ++ String.singleton separator ++ after).toList.dropWhile (· ≠ separator) = separator :: after.toList := by
    rw [shape, List.dropWhile_append_of_pos full]
    simp
  unfold partition
  rw [front, back]
  simp

theorem split_join {separator : Char} {parts : List (List Char)} (some : parts ≠ [])
    (clean : ∀ part ∈ parts, separator ∉ part) : split separator (join separator parts) = parts := by
  unfold split join
  induction parts with
  | nil => exact absurd rfl some
  | cons part rest ih =>
    cases rest with
    | nil => simpa [List.intercalate] using List.splitOn_eq_singleton (clean part (by simp))
    | cons next rest =>
      have alone : [separator].intercalate (part :: next :: rest) =
          part ++ separator :: [separator].intercalate (next :: rest) := by
        simp [List.intercalate, List.intersperse]
      rw [alone, List.splitOn_append_cons_self, List.splitOn_eq_singleton (clean part (by simp)),
        ih (by simp) (fun other member => clean other (by simp [member]))]
      rfl

theorem mem_join {separator char : Char} {parts : List (List Char)} (member : char ∈ join separator parts) :
    char = separator ∨ ∃ part ∈ parts, char ∈ part := by
  unfold join at member
  induction parts with
  | nil => simp [List.intercalate] at member
  | cons part rest ih =>
    cases rest with
    | nil => exact .inr ⟨part, by simp, by simpa [List.intercalate] using member⟩
    | cons next rest =>
      have alone : [separator].intercalate (part :: next :: rest) =
          part ++ separator :: [separator].intercalate (next :: rest) := by
        simp [List.intercalate, List.intersperse]
      rw [alone, List.mem_append, List.mem_cons] at member
      rcases member with inside | here | later
      · exact .inr ⟨part, by simp, inside⟩
      · exact .inl here
      · rcases ih later with here | ⟨other, among, inside⟩
        · exact .inl here
        · exact .inr ⟨other, by simp [among], inside⟩

theorem join_split (separator : Char) (text : List Char) : join separator (split separator text) = text :=
  List.intercalate_splitOn separator

/-- A character of a text that is no separator stands in one of its parts. -/
theorem mem_split {separator char : Char} {text : List Char} (member : char ∈ text) (other : char ≠ separator) :
    ∃ part ∈ split separator text, char ∈ part := by
  rw [← join_split separator text] at member
  exact (mem_join member).resolve_left other

/-- The parts of a text consist of its characters other than the separator. -/
theorem mem_of_mem_split {separator char : Char} {text part : List Char} (inside : part ∈ split separator text)
    (member : char ∈ part) : char ∈ text ∧ char ≠ separator := by
  unfold split at inside
  induction text generalizing part with
  | nil => simp_all [List.splitOn_nil]
  | cons first rest ih =>
    rw [List.splitOn_cons_eq_if_modifyHead] at inside
    split at inside
    next => cases List.mem_cons.mp inside with
      | inl empty => simp [empty] at member
      | inr later => exact ⟨List.mem_cons_of_mem _ (ih later member).1, (ih later member).2⟩
    next other =>
      cases parts : rest.splitOn separator with
      | nil => simp [parts] at inside
      | cons head tail =>
        rw [parts, List.modifyHead_cons, List.mem_cons] at inside
        cases inside with
        | inl same =>
          rw [same, List.mem_cons] at member
          cases member with
          | inl here => exact ⟨here ▸ List.mem_cons_self, fun equal => other (by simp [← here, equal])⟩
          | inr here =>
            have facts := ih (parts ▸ List.mem_cons_self) here
            exact ⟨List.mem_cons_of_mem _ facts.1, facts.2⟩
        | inr later =>
          have facts := ih (parts ▸ List.mem_cons_of_mem _ later) member
          exact ⟨List.mem_cons_of_mem _ facts.1, facts.2⟩

theorem split_ne_nil (separator : Char) (text : List Char) : split separator text ≠ [] := List.splitOn_ne_nil separator text

/-- Read every part, or none of them. -/
def readAll {α : Type} (read : List Char → Option α) : List (List Char) → Option (List α)
  | [] => some []
  | part :: parts => (read part).bind fun value => (readAll read parts).map (value :: ·)

theorem readAll_map {α : Type} {read : List Char → Option α} {write : α → List Char} {values : List α}
    (reads : ∀ value ∈ values, read (write value) = some value) : readAll read (values.map write) = some values := by
  induction values with
  | nil => rfl
  | cons value values ih =>
    simp only [List.mem_cons, forall_eq_or_imp] at reads
    simp [readAll, reads.1, ih reads.2]

theorem readAll_none {α : Type} {read : List Char → Option α} {parts : List (List Char)} {part : List Char}
    (member : part ∈ parts) (refused : read part = none) : readAll read parts = none := by
  induction parts with
  | nil => simp at member
  | cons first rest ih =>
    rcases List.mem_cons.mp member with rfl | later
    · simp [readAll, refused]
    · simp [readAll, ih later]

section Bases

/-- The `count` lowest digits of a number, most significant first. -/
def toBase (base count number : Nat) : List Nat :=
  match count with
  | 0 => []
  | count + 1 => toBase base count (number / base) ++ [number % base]

def ofBase (base : Nat) (digits : List Nat) : Nat := digits.foldl (fun value digit => value * base + digit) 0

@[simp] theorem length_toBase (base count number : Nat) : (toBase base count number).length = count := by
  induction count generalizing number with
  | zero => rfl
  | succ count ih => simp [toBase, ih]

theorem toBase_lt {base count number digit : Nat} (positive : 0 < base) (member : digit ∈ toBase base count number) :
    digit < base := by
  induction count generalizing number with
  | zero => simp [toBase] at member
  | succ count ih =>
    rcases List.mem_append.mp member with higher | lowest
    · exact ih higher
    · rw [List.mem_singleton.mp lowest]
      exact Nat.mod_lt _ positive

theorem ofBase_toBase (base count number : Nat) : ofBase base (toBase base count number) = number % base ^ count := by
  induction count generalizing number with
  | zero => simp [toBase, ofBase, Nat.mod_one]
  | succ count ih =>
    have step : ofBase base (toBase base (count + 1) number) =
        ofBase base (toBase base count (number / base)) * base + number % base := by
      simp [toBase, ofBase]
    rw [step, ih, pow_succ', Nat.mod_mul, Nat.mul_comm, Nat.add_comm]

end Bases

section Numerals

/-- `int(text, 10)` of a run of ASCII digits, `none` for any other text. -/
def decimal? (text : List Char) : Option Nat :=
  if text ≠ [] ∧ text.all Char.isDigit = true then some (Nat.ofDigitChars 10 text 0) else none

theorem decimal?_toDigits (number : Nat) : decimal? (Nat.toDigits 10 number) = some number := by
  have digits : (Nat.toDigits 10 number).all Char.isDigit = true :=
    List.all_eq_true.mpr fun _ member => Nat.isDigit_of_mem_toDigits (by decide) (by decide) member
  rw [decimal?, if_pos ⟨Nat.toDigits_ne_nil, digits⟩, Nat.ofDigitChars_ten_toDigits]

theorem toString_natCast (number : Nat) : (toString (number : Int)).toList = Nat.toDigits 10 number := by
  change (Int.repr (number : Int)).toList = _
  simp [Int.repr, Nat.repr]

/-- A hexadecimal digit of either case. -/
def hexValue? (char : Char) : Option Nat :=
  if char.isDigit then some (char.toNat - '0'.toNat)
  else if 'a' ≤ char ∧ char ≤ 'f' then some (char.toNat - 'a'.toNat + 10)
  else if 'A' ≤ char ∧ char ≤ 'F' then some (char.toNat - 'A'.toNat + 10)
  else none

theorem hexValue?_digitChar {digit : Nat} (small : digit < 16) : hexValue? digit.digitChar = some digit := by
  have all : ∀ digit < 16, hexValue? (Nat.digitChar digit) = some digit := by decide
  exact all digit small

/-- `int(text, 16)` of a run of hexadecimal digits. -/
def hexadecimal? (text : List Char) : Option Nat :=
  if text = [] then none
  else text.foldlM (fun value char => (hexValue? char).map (value * 16 + ·)) 0

theorem hexadecimal?_toDigits (number : Nat) : hexadecimal? (Nat.toDigits 16 number) = some number := by
  have folded : ∀ number, (Nat.toDigits 16 number).foldlM
      (fun value char => (hexValue? char).map (value * 16 + ·)) 0 = some number := by
    intro number
    induction number using Nat.strongRecOn with
    | _ number ih =>
      rw [Nat.toDigits_eq_if (by decide)]
      split
      next small => simp [hexValue?_digitChar small]
      next large =>
        rw [List.foldlM_append, ih (number / 16) (by omega)]
        simp only [List.foldlM_cons, hexValue?_digitChar (Nat.mod_lt number (by decide : 0 < 16)), Option.map_some,
          List.foldlM_nil, Option.bind_eq_bind, Option.bind_some, Option.pure_def, Option.some.injEq]
        omega
  rw [hexadecimal?, if_neg Nat.toDigits_ne_nil, folded]

end Numerals

end Text
