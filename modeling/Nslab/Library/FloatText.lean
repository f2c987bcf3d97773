import Mathlib.Tactic.NormNum
import Mathlib.Tactic.Positivity
import Nslab.Library.Float64

/-! Doubles and their texts: seventeen digits always tell a double, so the shortest
digits that `repr` finds do, and reading them gives the double back. -/

namespace Float64

/-- A value that a double can have. -/
def IsDouble : Float64 → Prop
  | .finite value => ofRat value = .finite value
  | _ => True

instance (value : Float64) : Decidable value.IsDouble :=
  match value with
  | .finite value => inferInstanceAs (Decidable (ofRat value = .finite value))
  | .negativeZero | .nan | .infinity _ => isTrue trivial

section Nearness

/-- The exponent of the last bit of a double. -/
def lastBit (value : ℚ) : ℤ := max (Int.log 2 value - 52) (-1074)

/-- What lies less than half a unit from an integer rounds to it. -/
theorem roundHalfEven_near {value : ℚ} {whole : ℤ} (lower : whole - 1 / 2 < value) (upper : value < whole + 1 / 2) :
    roundHalfEven value = whole := by
  have reaches : whole ≤ roundHalfEven value := le_roundHalfEven.mpr (.inl lower)
  have beyond : ¬ whole + 1 ≤ roundHalfEven value := by
    rw [le_roundHalfEven]
    push_cast
    rintro (more | ⟨same, _⟩) <;> linarith
  omega

/-- A positive double is a whole number of its last bits, of which there are fewer than `2 ^ 53`. -/
structure Bits (value : ℚ) (count : ℤ) : Prop where
  whole : value = count * 2 ^ lastBit value
  small : count < 2 ^ 53
  bounded : value < 2 ^ 1024

theorem bits_of_double {value : ℚ} (positive : 0 < value) (double : ofRat value = .finite value) :
    ∃ count, Bits value count := by
  have upper := Int.lt_zpow_succ_log_self (R := ℚ) (b := 2) (by decide) value
  have magnitude : |value| = value := abs_of_pos positive
  have last : max (Int.log 2 |value| - 52) (-1074) = lastBit value := by rw [magnitude, lastBit]
  simp only [ofRat, if_neg positive.ne', last] at double
  split at double
  next => cases double
  next bounded =>
    split at double
    next => cases double
    next =>
      have same : (roundHalfEven (value / 2 ^ lastBit value) : ℚ) * 2 ^ lastBit value = value := by
        simpa using double
      rw [same, magnitude, not_le] at bounded
      refine ⟨_, same.symm, ?_, bounded⟩
      have bit : (0 : ℚ) < 2 ^ lastBit value := zpow_pos (by norm_num) _
      have most : value < 2 ^ 53 * 2 ^ lastBit value := by
        refine upper.trans_le ?_
        rw [← zpow_natCast (2 : ℚ) 53, ← zpow_add₀ (by norm_num)]
        apply zpow_le_zpow_right₀ (by norm_num)
        have := le_max_left (Int.log 2 value - 52) (-1074)
        unfold lastBit
        push_cast
        omega
      have less := lt_of_mul_lt_mul_right (same.le.trans_lt most) bit.le
      exact_mod_cast less

/-- What rounds to a positive double in its last bits is read as the double. -/
theorem ofRat_of_round {value near : ℚ} (positive : 0 < value) (nonnegative : 0 < near) (bounded : value < 2 ^ 1024)
    {whole : ℤ} (exact : value = whole * 2 ^ lastBit near)
    (close : |near - value| < 2 ^ lastBit near / 2) : ofRat near = .finite value := by
  have bit : (0 : ℚ) < 2 ^ lastBit near := zpow_pos (by norm_num) _
  obtain ⟨lower, upper⟩ := abs_lt.mp close
  have rounded : roundHalfEven (near / 2 ^ lastBit near) = whole := by
    apply roundHalfEven_near
    · rw [lt_div_iff₀ bit]
      linarith
    · rw [div_lt_iff₀ bit]
      linarith
  have last : max (Int.log 2 |near| - 52) (-1074) = lastBit near := by rw [abs_of_pos nonnegative, lastBit]
  simp only [ofRat, if_neg nonnegative.ne', last, rounded, ← exact, abs_of_pos positive, if_neg (not_le.mpr bounded),
    positive.ne', false_and, if_false]

/-- What is nearer to a double than a part in `2 * 10 ^ 16` rounds to it. -/
theorem ofRat_near {value near : ℚ} (positive : 0 < value) (double : ofRat value = .finite value)
    (close : |near - value| ≤ value / 20000000000000000) : ofRat near = .finite value := by
  obtain ⟨count, bits⟩ := bits_of_double positive double
  obtain ⟨lower, upper⟩ := abs_le.mp close
  have nonnegative : 0 < near := by linarith
  have small := Int.lt_zpow_succ_log_self (R := ℚ) (b := 2) (by decide) near
  have large := Int.zpow_log_le_self (R := ℚ) (b := 2) (by decide) nonnegative
  push_cast at small large
  have bit : (0 : ℚ) < 2 ^ lastBit near := zpow_pos (by norm_num) _
  have own : (0 : ℚ) < 2 ^ lastBit value := zpow_pos (by norm_num) _
  have scaled : ∀ power : ℤ, (2 : ℚ) ^ (power + 53) = 2 ^ power * 9007199254740992 := by
    intro power
    rw [zpow_add₀ (by norm_num)]
    norm_num
  by_cases finer : lastBit near ≤ lastBit value
  · obtain ⟨shift, shifted⟩ := Int.eq_ofNat_of_zero_le (sub_nonneg.mpr finer)
    have exact : value = (count * 2 ^ shift : ℤ) * 2 ^ lastBit near := by
      rw [bits.whole]
      push_cast
      rw [mul_assoc, ← zpow_natCast, ← zpow_add₀ (by norm_num), ← shifted]
      ring_nf
    have near53 : near < 2 ^ lastBit near * 9007199254740992 := by
      rw [← scaled]
      refine small.trans_le (zpow_le_zpow_right₀ (by norm_num) ?_)
      have := le_max_left (Int.log 2 near - 52) (-1074)
      unfold lastBit
      omega
    apply ofRat_of_round positive nonnegative bits.bounded exact
    rw [abs_lt]
    constructor <;> linarith
  · exfalso
    have top : lastBit value + 53 ≤ Int.log 2 near := by
      unfold lastBit at finer ⊢
      omega
    have reaches : (2 : ℚ) ^ lastBit value * 9007199254740992 ≤ near := by
      rw [← scaled]
      exact (zpow_le_zpow_right₀ (by norm_num) top).trans large
    have fewer : (count : ℚ) ≤ 9007199254740991 := by
      have := bits.small
      norm_num at this
      have whole : count ≤ 9007199254740991 := by omega
      exact_mod_cast whole
    have most : value ≤ 9007199254740991 * 2 ^ lastBit value := by
      calc value = count * 2 ^ lastBit value := bits.whole
        _ ≤ 9007199254740991 * 2 ^ lastBit value := mul_le_mul_of_nonneg_right fewer own.le
    linarith

end Nearness

section Signs

theorem roundHalfEven_neg (value : ℚ) : roundHalfEven (-value) = -roundHalfEven value := by
  have reached := (@le_roundHalfEven value (roundHalfEven value)).mp le_rfl
  have beyond : ¬ roundHalfEven value + 1 ≤ roundHalfEven value := by omega
  rw [le_roundHalfEven] at beyond
  generalize roundHalfEven value = whole at reached beyond
  push_cast at reached beyond
  have lower : -whole ≤ roundHalfEven (-value) := by
    rw [le_roundHalfEven]
    push_cast
    by_cases tie : value = whole + 1 / 2
    · refine .inr ⟨by linarith, ?_⟩
      by_contra odd
      exact beyond (.inr ⟨by linarith, by omega⟩)
    · refine .inl ?_
      have below : value ≤ whole + 1 / 2 := by
        by_contra above
        exact beyond (.inl (by linarith))
      have strict := lt_of_le_of_ne below tie
      linarith
  have upper : ¬ -whole + 1 ≤ roundHalfEven (-value) := by
    rw [le_roundHalfEven]
    push_cast
    rintro (more | ⟨same, even⟩)
    · cases reached with
      | inl near => linarith
      | inr near => linarith [near.1]
    · cases reached with
      | inl near => linarith
      | inr near => omega
  omega

/-- The same magnitude with the other sign. -/
theorem ofRat_neg {value magnitude : ℚ} (nonzero : magnitude ≠ 0) (read : ofRat value = .finite magnitude) :
    ofRat (-value) = .finite (-magnitude) := by
  by_cases zero : value = 0
  · rw [zero] at read
    simp [ofRat] at read
    exact (nonzero read.symm).elim
  · simp only [ofRat, if_neg zero] at read
    simp only [ofRat, neg_eq_zero, if_neg zero, abs_neg, neg_div, roundHalfEven_neg, Int.cast_neg, neg_mul]
    split at read
    next => cases read
    next bounded =>
      rw [if_neg bounded]
      split at read
      next => cases read
      next =>
        have same : (roundHalfEven (value / 2 ^ max (Int.log 2 |value| - 52) (-1074)) : ℚ) *
            2 ^ max (Int.log 2 |value| - 52) (-1074) = magnitude := by simpa using read
        rw [same]
        simp [nonzero]

end Signs

section Shortest

/-- The digits of a positive double to a given count, and their scale. -/
theorem candidate_close {value : ℚ} (positive : 0 < value) :
    |(roundHalfEven (value / 10 ^ (Int.log 10 value - 16)) : ℚ) * 10 ^ (Int.log 10 value - 16) - value| ≤
      value / 20000000000000000 := by
  have scale : (0 : ℚ) < 10 ^ (Int.log 10 value - 16) := zpow_pos (by norm_num) _
  have large := Int.zpow_log_le_self (R := ℚ) (b := 10) (by decide) positive
  push_cast at large
  have magnitude : (10 : ℚ) ^ Int.log 10 value = 10 ^ (Int.log 10 value - 16) * 10000000000000000 := by
    rw [show (10000000000000000 : ℚ) = 10 ^ (16 : ℤ) by norm_num, ← zpow_add₀ (by norm_num)]
    congr 1
    omega
  have whole : value / 10 ^ (Int.log 10 value - 16) * 10 ^ (Int.log 10 value - 16) = value := div_mul_cancel₀ _ scale.ne'
  generalize value / 10 ^ (Int.log 10 value - 16) = quotient at whole
  have reached := (@le_roundHalfEven quotient (roundHalfEven quotient)).mp le_rfl
  have beyond : ¬ roundHalfEven quotient + 1 ≤ roundHalfEven quotient := by omega
  rw [le_roundHalfEven] at beyond
  push_cast at beyond
  have lower : (roundHalfEven quotient : ℚ) - 1 / 2 ≤ quotient := by
    cases reached with
    | inl near => exact near.le
    | inr near => exact near.1.ge
  have upper : quotient ≤ roundHalfEven quotient + 1 / 2 := by
    by_contra above
    exact beyond (.inl (by linarith))
  generalize (10 : ℚ) ^ (Int.log 10 value - 16) = unit at scale whole magnitude
  have first : (roundHalfEven quotient : ℚ) * unit - unit / 2 ≤ value := by
    have := mul_le_mul_of_nonneg_right lower scale.le
    linarith
  have second : value ≤ (roundHalfEven quotient : ℚ) * unit + unit / 2 := by
    have := mul_le_mul_of_nonneg_right upper scale.le
    linarith
  rw [abs_le]
  constructor <;> linarith

/-- The shortest digits denote the double, and there are some. -/
theorem shortest_exact {value : ℚ} (positive : 0 < value) (double : ofRat value = .finite value) :
    ofRat ((shortest value).1 * 10 ^ (shortest value).2) = .finite value := by
  unfold shortest
  dsimp only
  cases found : List.find? (fun candidate : ℤ × ℤ => decide (ofRat (candidate.1 * 10 ^ candidate.2) = .finite value))
      ((List.range 17).map fun index => (roundHalfEven (value / 10 ^ (Int.log 10 value - ((index + 1 : Nat) : ℤ) + 1)),
        Int.log 10 value - ((index + 1 : Nat) : ℤ) + 1)) with
  | some candidate =>
    rw [Option.getD_some]
    have holds := List.find?_some found
    exact of_decide_eq_true holds
  | none =>
    rw [Option.getD_none]
    have scale : Int.log 10 value - ((17 : Nat) : ℤ) + 1 = Int.log 10 value - 16 := by omega
    simp only [scale]
    exact ofRat_near positive double (candidate_close positive)

/-- What denotes a positive double has digits. -/
theorem digits_positive {digits scale : ℤ} {value : ℚ} (positive : 0 < value)
    (read : ofRat (digits * 10 ^ scale) = .finite value) : 0 < digits := by
  have unit : (0 : ℚ) < 10 ^ scale := zpow_pos (by norm_num) _
  by_contra negative
  have signed : (digits * 10 ^ scale : ℚ) ≤ 0 := by
    have whole : (digits : ℚ) ≤ 0 := by exact_mod_cast not_lt.mp negative
    exact mul_nonpos_of_nonpos_of_nonneg whole unit.le
  generalize (digits * 10 ^ scale : ℚ) = given at read signed
  by_cases zero : given = 0
  · rw [zero] at read
    simp only [ofRat, if_true, finite.injEq] at read
    linarith
  · have below : given < 0 := lt_of_le_of_ne signed zero
    simp only [ofRat, if_neg zero, below, and_true] at read
    split at read
    next => cases read
    next =>
      split at read
      next => cases read
      next =>
        have same := finite.inj read
        have bit : (0 : ℚ) < 2 ^ max (Int.log 2 |given| - 52) (-1074) := zpow_pos (by norm_num) _
        have most : ¬ 1 ≤ roundHalfEven (given / 2 ^ max (Int.log 2 |given| - 52) (-1074)) := by
          rw [le_roundHalfEven]
          have quotient := div_neg_of_neg_of_pos below bit
          push_cast
          rintro (more | ⟨same, _⟩) <;> linarith
        have whole : (roundHalfEven (given / 2 ^ max (Int.log 2 |given| - 52) (-1074)) : ℚ) ≤ 0 := by
          have : roundHalfEven (given / 2 ^ max (Int.log 2 |given| - 52) (-1074)) ≤ 0 := by omega
          exact_mod_cast this
        have := mul_nonpos_of_nonpos_of_nonneg whole bit.le
        linarith

end Shortest

section Numerals

/-- A decimal numeral: a sign, digits, and possibly a fraction and an exponent with its sign. -/
structure Numeral where
  negative : Bool
  whole : List Char
  fraction : List Char := []
  exponent : Option (Bool × List Char) := none

namespace Numeral

def exponentChars : Option (Bool × List Char) → List Char
  | none => []
  | some (down, digits) => 'e' :: (if down then '-' else '+') :: digits

/-- The numeral without its sign and exponent. -/
def mantissaChars (numeral : Numeral) : List Char :=
  numeral.whole ++ if numeral.fraction = [] then [] else '.' :: numeral.fraction

def chars (numeral : Numeral) : List Char :=
  (if numeral.negative then ['-'] else []) ++ (numeral.mantissaChars ++ exponentChars numeral.exponent)

/-- Digits where there have to be digits, and no zero in front of others. -/
structure WellFormed (numeral : Numeral) : Prop where
  whole : numeral.whole ≠ []
  digits : ∀ char ∈ numeral.whole ++ numeral.fraction, char.isDigit = true
  leading : numeral.whole.head? = some '0' → numeral.whole = ['0']
  exponent : ∀ down digits, numeral.exponent = some (down, digits) → digits ≠ [] ∧ ∀ char ∈ digits, char.isDigit = true

def size (numeral : Numeral) : ℤ :=
  match numeral.exponent with
  | none => 0
  | some (down, digits) => if down then -(Nat.ofDigitChars 10 digits 0 : ℤ) else Nat.ofDigitChars 10 digits 0

/-- The magnitude that a numeral denotes. -/
def magnitude (numeral : Numeral) : ℚ :=
  (Nat.ofDigitChars 10 (numeral.whole ++ numeral.fraction) 0 : ℚ) / 10 ^ numeral.fraction.length * 10 ^ numeral.size

theorem isDigit_cases {char : Char} (digit : char.isDigit = true) : char ∈ "0123456789".toList := by
  have all : ∀ code < 58, 48 ≤ code → Char.ofNat code ∈ "0123456789".toList := by decide
  simp only [Char.isDigit, Bool.and_eq_true, decide_eq_true_eq] at digit
  have lower : 48 ≤ char.toNat := digit.1
  have upper : char.toNat ≤ 57 := digit.2
  rw [← Char.ofNat_toNat char]
  exact all _ (by omega) lower

/-- A digit is no other character of a numeral, and has no case. -/
theorem isDigit_apart {char : Char} (digit : char.isDigit = true) : char ≠ '.' ∧ char ≠ 'e' ∧ char ≠ 'E' ∧ char ≠ '-' ∧
    char ≠ '+' ∧ char.toLower ≠ 'i' ∧ char.toLower ≠ 'n' := by
  have all : ∀ char ∈ "0123456789".toList, char ≠ '.' ∧ char ≠ 'e' ∧ char ≠ 'E' ∧ char ≠ '-' ∧
      char ≠ '+' ∧ char.toLower ≠ 'i' ∧ char.toLower ≠ 'n' := by simp
  exact all char (isDigit_cases digit)

/-- A run of some characters ends where another kind begins. -/
theorem span_run {keep : Char → Bool} {run rest : List Char} (kept : ∀ char ∈ run, keep char = true)
    (stops : ∀ char ∈ rest.head?, keep char = false) :
    (run ++ rest).takeWhile keep = run ∧ (run ++ rest).dropWhile keep = rest := by
  rw [List.takeWhile_append_of_pos kept, List.dropWhile_append_of_pos kept]
  cases rest with
  | nil => simp
  | cons char rest =>
    have stop := stops char rfl
    simp [stop]

theorem decimal?_digits {digits : List Char} (some : digits ≠ []) (all : ∀ char ∈ digits, char.isDigit = true) :
    Text.decimal? digits = .some (Nat.ofDigitChars 10 digits 0) := by
  rw [Text.decimal?, if_pos ⟨some, List.all_eq_true.mpr all⟩]

theorem parseMantissa_chars {numeral : Numeral} (formed : numeral.WellFormed) :
    parseMantissa numeral.mantissaChars =
      some ((Nat.ofDigitChars 10 (numeral.whole ++ numeral.fraction) 0 : ℚ) / 10 ^ numeral.fraction.length) := by
  obtain ⟨whole, fraction⟩ := List.forall_mem_append.mp formed.digits
  have digits : numeral.whole ++ numeral.fraction ≠ [] := by simp [formed.whole]
  have stops : ∀ char ∈ (if numeral.fraction = [] then [] else '.' :: numeral.fraction).head?, char.isDigit = false := by
    split <;> simp
  obtain ⟨front, back⟩ := span_run whole stops
  simp only [parseMantissa, mantissaChars, front, back]
  by_cases none : numeral.fraction = []
  · rw [none, List.append_nil] at digits
    simp [none, decimal?_digits digits whole]
  · have all : numeral.fraction.all Char.isDigit = true := List.all_eq_true.mpr fraction
    simp [none, all, decimal?_digits digits formed.digits]

/-- The numeral without its sign starts with a digit. -/
theorem first_digit {numeral : Numeral} (formed : numeral.WellFormed) :
    ∃ char rest, numeral.mantissaChars ++ exponentChars numeral.exponent = char :: rest ∧ char.isDigit = true := by
  obtain ⟨char, rest, shape⟩ := List.exists_cons_of_ne_nil formed.whole
  refine ⟨char, rest ++ ((if numeral.fraction = [] then [] else '.' :: numeral.fraction) ++ exponentChars numeral.exponent),
    by simp only [mantissaChars, shape, List.cons_append, List.append_assoc], ?_⟩
  exact formed.digits char (by simp [shape])

theorem signed_chars {numeral : Numeral} (formed : numeral.WellFormed) :
    signed numeral.chars = (numeral.negative, numeral.mantissaChars ++ exponentChars numeral.exponent) := by
  obtain ⟨char, rest, shape, digit⟩ := first_digit formed
  obtain ⟨_, _, _, minus, plus, _⟩ := isDigit_apart digit
  cases sign : numeral.negative with
  | true => simp [chars, sign, signed]
  | false =>
    simp only [chars, sign, shape, Bool.false_eq_true, if_false, List.nil_append]
    unfold signed
    split
    · simp_all
    · simp_all
    · rfl

/-- Reading a numeral gives the double nearest to what it denotes. -/
theorem ofChars?_chars {numeral : Numeral} (formed : numeral.WellFormed) :
    ofChars? numeral.chars = some (if numeral.negative = true ∧ numeral.magnitude = 0 then .negativeZero
      else ofRat (if numeral.negative then -numeral.magnitude else numeral.magnitude)) := by
  obtain ⟨char, rest, shape, digit⟩ := first_digit formed
  obtain ⟨_, _, _, _, _, inf, nan⟩ := isDigit_apart digit
  have mantissa : ∀ char ∈ numeral.mantissaChars, decide (char ≠ 'e' ∧ char ≠ 'E') = true := by
    intro char member
    rw [decide_eq_true_eq]
    have cases : char = '.' ∨ char.isDigit = true := by
      unfold mantissaChars at member
      split at member
      next => exact .inr (formed.digits char (List.mem_append_left _ (by simpa using member)))
      next =>
        rw [List.mem_append, List.mem_cons] at member
        rcases member with inside | dot | inside
        · exact .inr (formed.digits char (List.mem_append_left _ inside))
        · exact .inl dot
        · exact .inr (formed.digits char (List.mem_append_right _ inside))
    rcases cases with rfl | digit
    · decide
    · obtain ⟨_, lower, upper, _⟩ := isDigit_apart digit
      exact ⟨lower, upper⟩
  have stops : ∀ char ∈ (exponentChars numeral.exponent).head?, decide (char ≠ 'e' ∧ char ≠ 'E') = false := by
    cases numeral.exponent with
    | none => simp [exponentChars]
    | some exponent => simp [exponentChars]
  obtain ⟨front, back⟩ := span_run mantissa stops
  have lowered : ((numeral.mantissaChars ++ exponentChars numeral.exponent).map Char.toLower).head? = some char.toLower := by
    rw [shape]
    rfl
  have infinite : ∀ word ∈ ["inf".toList, "infinity".toList, "nan".toList],
      (numeral.mantissaChars ++ exponentChars numeral.exponent).map Char.toLower ≠ word := by
    intro word listed same
    rw [same] at lowered
    simp only [List.mem_cons, List.not_mem_nil, or_false] at listed
    rcases listed with rfl | rfl | rfl
    · exact inf (Option.some.inj lowered).symm
    · exact inf (Option.some.inj lowered).symm
    · exact nan (Option.some.inj lowered).symm
  simp only [List.mem_cons, List.not_mem_nil, or_false, forall_eq_or_imp, forall_eq] at infinite
  obtain ⟨notInf, notInfinity, notNan⟩ := infinite
  simp only [ofChars?, signed_chars formed, if_neg (not_or.mpr ⟨notInf, notInfinity⟩), if_neg notNan, front, back,
    parseMantissa_chars formed]
  have scale : (10 : ℚ) ^ numeral.size ≠ 0 := zpow_ne_zero _ (by norm_num)
  have vanishes : numeral.magnitude = 0 ↔
      (Nat.ofDigitChars 10 (numeral.whole ++ numeral.fraction) 0 : ℚ) / 10 ^ numeral.fraction.length = 0 := by
    rw [magnitude, mul_eq_zero, or_iff_left scale]
  simp only [vanishes]
  cases given : numeral.exponent with
  | none => simp [exponentChars, magnitude, size, given]
  | some exponent =>
    obtain ⟨down, digits⟩ := exponent
    obtain ⟨some, all⟩ := formed.exponent down digits given
    have decimal := decimal?_digits some all
    cases down <;> simp [exponentChars, signed, magnitude, size, given, decimal]

end Numeral

end Numerals

section Layout

theorem head_toDigits {number : Nat} (positive : 0 < number) : (Nat.toDigits 10 number).head? ≠ some '0' := by
  induction number using Nat.strongRecOn with
  | _ number ih =>
    rw [Nat.toDigits_eq_if (by decide)]
    split
    next small =>
      have all : ∀ digit < 10, 0 < digit → [Nat.digitChar digit].head? ≠ some '0' := by decide
      exact all number small positive
    next large =>
      rw [List.head?_append_of_ne_nil _ Nat.toDigits_ne_nil]
      exact ih (number / 10) (by omega) (by omega)

/-- The zeros at the end only scale the number. -/
theorem stripZeros_spec (digits : List Char) : ∃ count, digits = stripZeros digits ++ List.replicate count '0' := by
  refine ⟨(digits.reverse.takeWhile (· = '0')).length, ?_⟩
  have zeros : digits.reverse.takeWhile (· = '0') = List.replicate (digits.reverse.takeWhile (· = '0')).length '0' := by
    apply List.eq_replicate_of_mem
    intro char member
    simpa using List.mem_takeWhile_imp member
  conv_lhs => rw [← List.reverse_reverse digits, ← List.takeWhile_append_dropWhile (p := (· = '0')) (l := digits.reverse),
    List.reverse_append]
  rw [stripZeros, zeros, List.reverse_replicate]
  simp

/-- The text of digits with the decimal point after the given number of them. -/
def layout (digits : List Char) (point : ℤ) : List Char :=
  let zeros := fun count : ℤ => List.replicate count.toNat '0'
  if -4 < point ∧ point ≤ 16 then
    if point ≤ 0 then ['0', '.'] ++ zeros (-point) ++ digits
    else
      let whole := (digits ++ zeros (point - digits.length)).take point.toNat
      let fraction := digits.drop point.toNat
      whole ++ '.' :: (if fraction = [] then ['0'] else fraction)
  else
    let exponent := point - 1
    let size := Nat.toDigits 10 exponent.natAbs
    digits.take 1 ++ (if digits.length = 1 then [] else '.' :: digits.drop 1) ++
      ['e', if exponent < 0 then '-' else '+'] ++ (if size.length = 1 then '0' :: size else size)

theorem repr_finite {value : ℚ} (nonzero : value ≠ 0) : (finite value).repr.toList =
    (if value < 0 then ['-'] else []) ++ layout (stripZeros (Nat.toDigits 10 (shortest |value|).1.toNat))
      ((Nat.toDigits 10 (shortest |value|).1.toNat).length + (shortest |value|).2) := by
  simp only [repr, if_neg nonzero, String.toList_ofList]
  rfl

/-- Digits that do not start with a zero. -/
structure Significant (digits : List Char) : Prop where
  some : digits ≠ []
  all : ∀ char ∈ digits, char.isDigit = true
  first : digits.head? ≠ .some '0'

/-- What a layout spells. -/
structure Spells (digits : List Char) (point : ℤ) (negative : Bool) (numeral : Numeral) : Prop where
  formed : numeral.WellFormed
  negative : numeral.negative = negative
  chars : numeral.mantissaChars ++ Numeral.exponentChars numeral.exponent = layout digits point
  float : numeral.fraction ≠ [] ∨ numeral.exponent ≠ none
  magnitude : numeral.magnitude = (Nat.ofDigitChars 10 digits 0 : ℚ) * 10 ^ (point - digits.length)

theorem isDigit_replicate {count : Nat} : ∀ char ∈ List.replicate count '0', char.isDigit = true := by
  intro char member
  rw [List.eq_of_mem_replicate member]
  decide

theorem spells_small {digits : List Char} {point : ℤ} (significant : Significant digits) (negative : Bool)
    (lower : -4 < point) (small : point ≤ 0) :
    Spells digits point negative ⟨negative, ['0'], List.replicate (-point).toNat '0' ++ digits, none⟩ where
  formed :=
    { whole := List.cons_ne_nil _ _
      digits := by
        intro char member
        simp only [List.cons_append, List.nil_append, List.mem_cons, List.mem_append] at member
        rcases member with rfl | zero | digit
        · decide
        · exact isDigit_replicate char zero
        · exact significant.all char digit
      leading := fun _ => rfl
      exponent := by simp }
  negative := rfl
  chars := by
    have reach : -4 < point ∧ point ≤ 16 := ⟨lower, by omega⟩
    simp [Numeral.mantissaChars, Numeral.exponentChars, layout, reach, small, significant.some]
  float := .inl (by simp [significant.some])
  magnitude := by
    have scale : point - digits.length = -((-point).toNat + digits.length : Nat) := by omega
    have number : Nat.ofDigitChars 10 (['0'] ++ (List.replicate (-point).toNat '0' ++ digits)) 0 =
        Nat.ofDigitChars 10 digits 0 := by
      simp [Nat.ofDigitChars_append, Nat.ofDigitChars_cons]
    simp only [Numeral.magnitude, Numeral.size, number, scale, zpow_neg, zpow_natCast, zpow_zero, mul_one,
      List.length_append, List.length_replicate, div_eq_mul_inv]

theorem spells_whole {digits : List Char} {point : ℤ} (significant : Significant digits) (negative : Bool)
    (positive : 0 < point) (upper : point ≤ 16) (short : digits.length ≤ point) :
    Spells digits point negative
      ⟨negative, digits ++ List.replicate (point - digits.length).toNat '0', ['0'], none⟩ where
  formed :=
    { whole := by simp [significant.some]
      digits := by
        intro char member
        simp only [List.append_assoc, List.mem_append, List.mem_singleton] at member
        rcases member with digit | zero | rfl
        · exact significant.all char digit
        · exact isDigit_replicate char zero
        · decide
      leading := by
        intro zero
        rw [List.head?_append_of_ne_nil _ significant.some] at zero
        exact (significant.first zero).elim
      exponent := by simp }
  negative := rfl
  chars := by
    have reach : -4 < point ∧ point ≤ 16 := ⟨by omega, upper⟩
    have length : (digits ++ List.replicate (point - digits.length).toNat '0').length ≤ point.toNat := by
      simp
      omega
    have none : digits.drop point.toNat = [] := List.drop_eq_nil_of_le (by omega)
    simp only [Numeral.mantissaChars, Numeral.exponentChars, layout, if_pos reach, if_neg (not_le.mpr positive), none,
      List.take_of_length_le length, List.cons_ne_nil, if_true, if_false, List.append_nil]
  float := .inl (by simp)
  magnitude := by
    obtain ⟨count, shape⟩ := Int.eq_ofNat_of_zero_le (sub_nonneg.mpr short)
    have number : Nat.ofDigitChars 10 ((digits ++ List.replicate count '0') ++ ['0']) 0 =
        10 * (10 ^ count * Nat.ofDigitChars 10 digits 0) := by
      simp [Nat.ofDigitChars_append, Nat.ofDigitChars_cons]
    simp only [Numeral.magnitude, Numeral.size, shape, Int.toNat_natCast, number, zpow_natCast, zpow_zero, mul_one,
      List.length_singleton, pow_one]
    push_cast
    ring

theorem spells_split {digits : List Char} {point : ℤ} (significant : Significant digits) (negative : Bool)
    (positive : 0 < point) (upper : point ≤ 16) (long : point < digits.length) :
    Spells digits point negative ⟨negative, digits.take point.toNat, digits.drop point.toNat, none⟩ where
  formed :=
    { whole := by
        simp [significant.some]
        omega
      digits := by
        intro char member
        rw [List.take_append_drop] at member
        exact significant.all char member
      leading := by
        intro zero
        rw [List.head?_take, if_neg (by omega)] at zero
        exact (significant.first zero).elim
      exponent := by simp }
  negative := rfl
  chars := by
    have reach : -4 < point ∧ point ≤ 16 := ⟨by omega, upper⟩
    have some : ¬ digits.drop point.toNat = [] := by
      rw [List.drop_eq_nil_iff]
      omega
    have none : (point - digits.length).toNat = 0 := by omega
    simp only [Numeral.mantissaChars, Numeral.exponentChars, layout, if_pos reach, if_neg (not_le.mpr positive), if_neg some,
      none, List.replicate_zero, List.append_nil]
  float := .inl (by simp; omega)
  magnitude := by
    have scale : point - digits.length = -(digits.length - point.toNat : Nat) := by omega
    simp only [Numeral.magnitude, Numeral.size, List.take_append_drop, scale, zpow_neg, zpow_natCast, zpow_zero, mul_one,
      List.length_drop, div_eq_mul_inv]

theorem spells_scaled {digits : List Char} {point : ℤ} (significant : Significant digits) (negative : Bool)
    (far : ¬ (-4 < point ∧ point ≤ 16)) :
    Spells digits point negative ⟨negative, digits.take 1, digits.drop 1,
      some (decide (point - 1 < 0), if (Nat.toDigits 10 (point - 1).natAbs).length = 1
        then '0' :: Nat.toDigits 10 (point - 1).natAbs else Nat.toDigits 10 (point - 1).natAbs)⟩ where
  formed :=
    { whole := by simp [significant.some]
      digits := by
        intro char member
        rw [List.take_append_drop] at member
        exact significant.all char member
      leading := by
        intro zero
        rw [List.head?_take, if_neg (by omega)] at zero
        exact (significant.first zero).elim
      exponent := by
        intro down size shape
        obtain ⟨_, rfl⟩ := Prod.mk.inj (Option.some.inj shape)
        split
        · refine ⟨List.cons_ne_nil _ _, ?_⟩
          rw [List.forall_mem_cons]
          exact ⟨by decide, fun char => Nat.isDigit_of_mem_toDigits (by decide) (by decide)⟩
        · exact ⟨Nat.toDigits_ne_nil, fun char => Nat.isDigit_of_mem_toDigits (by decide) (by decide)⟩ }
  negative := rfl
  chars := by
    have single : digits.drop 1 = [] ↔ digits.length = 1 := by
      have := List.length_pos_of_ne_nil significant.some
      rw [List.drop_eq_nil_iff]
      omega
    simp only [Numeral.mantissaChars, Numeral.exponentChars, layout, if_neg far, single, decide_eq_true_eq,
      List.append_assoc, List.cons_append, List.nil_append]
  float := .inr (by simp)
  magnitude := by
    have number : Nat.ofDigitChars 10 (if (Nat.toDigits 10 (point - 1).natAbs).length = 1
        then '0' :: Nat.toDigits 10 (point - 1).natAbs else Nat.toDigits 10 (point - 1).natAbs) 0 = (point - 1).natAbs := by
      split <;> simp [Nat.ofDigitChars_cons]
    have size : (if decide (point - 1 < 0) = true then -((point - 1).natAbs : ℤ) else (point - 1).natAbs) = point - 1 := by
      simp only [decide_eq_true_eq]
      omega
    have scale : point - digits.length = -(digits.length - 1 : Nat) + (point - 1) := by
      have := List.length_pos_of_ne_nil significant.some
      omega
    simp only [Numeral.magnitude, Numeral.size, List.take_append_drop, number, size, List.length_drop]
    rw [scale, zpow_add₀ (by norm_num), zpow_neg, zpow_natCast, div_eq_mul_inv, mul_assoc]

theorem layout_spells {digits : List Char} (significant : Significant digits) (point : ℤ) (negative : Bool) :
    ∃ numeral, Spells digits point negative numeral := by
  by_cases near : -4 < point ∧ point ≤ 16
  · by_cases small : point ≤ 0
    · exact ⟨_, spells_small significant negative near.1 small⟩
    · by_cases short : (digits.length : ℤ) ≤ point
      · exact ⟨_, spells_whole significant negative (not_le.mp small) near.2 short⟩
      · exact ⟨_, spells_split significant negative (not_le.mp small) near.2 (not_le.mp short)⟩
  · exact ⟨_, spells_scaled significant negative near⟩

end Layout

section Reading

/-- The digits of a positive number without its last zeros, and what they are scaled by. -/
theorem significant_stripZeros {number : Nat} (positive : 0 < number) :
    Significant (stripZeros (Nat.toDigits 10 number)) ∧
      ∀ scale : ℤ, (Nat.ofDigitChars 10 (stripZeros (Nat.toDigits 10 number)) 0 : ℚ) *
        10 ^ ((Nat.toDigits 10 number).length + scale - (stripZeros (Nat.toDigits 10 number)).length) =
          number * 10 ^ scale := by
  obtain ⟨count, shape⟩ := stripZeros_spec (Nat.toDigits 10 number)
  have first := head_toDigits positive
  have all : ∀ char ∈ Nat.toDigits 10 number, char.isDigit = true := fun char =>
    Nat.isDigit_of_mem_toDigits (by decide) (by decide)
  have value := @Nat.ofDigitChars_ten_toDigits number
  generalize stripZeros (Nat.toDigits 10 number) = digits at shape
  rw [shape] at first all value ⊢
  have some : digits ≠ [] := by
    intro none
    rw [none] at value
    simp at value
    omega
  refine ⟨⟨some, fun char member => all char (List.mem_append_left _ member), ?_⟩, ?_⟩
  · rwa [List.head?_append_of_ne_nil _ some] at first
  · intro scale
    have exponent : ((digits ++ List.replicate count '0').length : ℤ) + scale - digits.length = count + scale := by
      simp only [List.length_append, List.length_replicate]
      omega
    rw [Nat.ofDigitChars_append, Nat.ofDigitChars_replicate_zero] at value
    rw [exponent, zpow_add₀ (by norm_num), zpow_natCast, ← value]
    push_cast
    ring

/-- The text of a finite double: a numeral with a fraction or an exponent, which reads as the double. -/
structure Denotes (value : Float64) (numeral : Numeral) : Prop where
  formed : numeral.WellFormed
  chars : value.repr.toList = numeral.chars
  float : numeral.fraction ≠ [] ∨ numeral.exponent ≠ none
  read : ofChars? numeral.chars = some value

theorem denotes_finite {value : ℚ} (nonzero : value ≠ 0) (double : ofRat value = .finite value) :
    ∃ numeral, Denotes (.finite value) numeral := by
  have positive : 0 < |value| := abs_pos.mpr nonzero
  have magnitude : ofRat |value| = .finite |value| := by
    by_cases negative : value < 0
    · rw [abs_of_neg negative]
      exact ofRat_neg nonzero double
    · rwa [abs_of_nonneg (not_lt.mp negative)]
  have exact := shortest_exact positive magnitude
  have digits := digits_positive positive exact
  obtain ⟨significant, scaled⟩ := @significant_stripZeros (shortest |value|).1.toNat (by omega)
  obtain ⟨numeral, spells⟩ := layout_spells significant
    ((Nat.toDigits 10 (shortest |value|).1.toNat).length + (shortest |value|).2) (decide (value < 0))
  have number : ((shortest |value|).1.toNat : ℚ) = (shortest |value|).1 := by
    have whole := Int.toNat_of_nonneg digits.le
    exact_mod_cast whole
  have denoted : ofRat numeral.magnitude = .finite |value| := by
    rw [spells.magnitude, scaled, number, exact]
  have some : numeral.magnitude ≠ 0 := by
    intro zero
    rw [zero] at denoted
    simp only [ofRat, if_true, finite.injEq] at denoted
    exact positive.ne denoted
  refine ⟨numeral, spells.formed, ?_, spells.float, ?_⟩
  · rw [repr_finite nonzero, ← spells.chars, Numeral.chars, spells.negative]
    simp only [decide_eq_true_eq]
  · rw [Numeral.ofChars?_chars spells.formed, if_neg fun both => some both.2, spells.negative]
    by_cases negative : value < 0
    · rw [if_pos (decide_eq_true negative), ofRat_neg positive.ne' denoted, abs_of_neg negative, neg_neg]
    · rw [if_neg (by simpa using negative), denoted, abs_of_nonneg (not_lt.mp negative)]

/-- Reading what `repr` writes of a finite double gives the double. -/
theorem repr_denotes {value : Float64} (some : value.isFinite = true) (double : value.IsDouble) :
    ∃ numeral, Denotes value numeral := by
  have zero : ∀ negative : Bool, Numeral.WellFormed ⟨negative, ['0'], ['0'], none⟩ := fun negative =>
    ⟨List.cons_ne_nil _ _, by simp, fun _ => rfl, by simp⟩
  have nothing : ∀ negative : Bool, Numeral.magnitude ⟨negative, ['0'], ['0'], none⟩ = 0 := by
    intro negative
    have zeros : Nat.ofDigitChars 10 ['0', '0'] 0 = 0 := by decide
    simp only [Numeral.magnitude, List.cons_append, List.nil_append, zeros, Nat.cast_zero, zero_div, zero_mul]
  cases value with
  | finite value =>
    by_cases nonzero : value = 0
    · refine ⟨⟨false, ['0'], ['0'], none⟩, zero false, ?_, .inl (List.cons_ne_nil _ _), ?_⟩
      · simp [repr, nonzero, Numeral.chars, Numeral.mantissaChars, Numeral.exponentChars]
      · rw [Numeral.ofChars?_chars (zero false), nothing, nonzero]
        simp [ofRat]
    · exact denotes_finite nonzero double
  | negativeZero =>
    refine ⟨⟨true, ['0'], ['0'], none⟩, zero true, by decide, .inl (List.cons_ne_nil _ _), ?_⟩
    rw [Numeral.ofChars?_chars (zero true), if_pos ⟨rfl, nothing true⟩]
  | nan => cases some
  | infinity negative => cases some

end Reading

end Float64
