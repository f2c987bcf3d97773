import Mathlib.Data.Rat.Floor
import Mathlib.Data.Int.Log
import Mathlib.Tactic.Linarith
import Mathlib.Tactic.Ring
import Nslab.Library.Text

/-! Double precision numbers as the rationals they stand for, zero once with
each sign, with the conversions of Python's `float`. -/

inductive Float64 where
  | finite (value : ℚ)
  | negativeZero
  | nan
  | infinity (negative : Bool)
deriving DecidableEq

namespace Float64

def roundHalfEven (value : ℚ) : ℤ :=
  let below := ⌊value⌋
  if value - below < 1 / 2 then below
  else if 1 / 2 < value - below then below + 1
  else if below % 2 = 0 then below else below + 1

section Rounding

/-- Rounding reaches an integer from half below it on, a tie when the integer is even. -/
theorem le_roundHalfEven {value : ℚ} {bound : ℤ} :
    bound ≤ roundHalfEven value ↔ bound - 1 / 2 < value ∨ (value = bound - 1 / 2 ∧ bound % 2 = 0) := by
  have lower : (⌊value⌋ : ℚ) ≤ value := Int.floor_le value
  have upper : value < ⌊value⌋ + 1 := Int.lt_floor_add_one value
  unfold roundHalfEven
  generalize ⌊value⌋ = below at lower upper
  dsimp only
  split
  next near =>
    constructor
    · intro reached
      have cast : (bound : ℚ) ≤ below := by exact_mod_cast reached
      exact .inl (by linarith)
    · intro reached
      have cast : (bound : ℚ) < below + 1 := by
        cases reached with
        | inl more => linarith
        | inr tie => linarith [tie.1]
      exact Int.lt_add_one_iff.mp (by exact_mod_cast cast)
  next far =>
    split
    next near =>
      constructor
      · intro reached
        have cast : (bound : ℚ) ≤ below + 1 := by exact_mod_cast reached
        exact .inl (by linarith)
      · intro reached
        have cast : (bound : ℚ) < below + 2 := by
          cases reached with
          | inl more => linarith
          | inr tie => linarith [tie.1]
        have whole : bound < below + 2 := by exact_mod_cast cast
        omega
    next same =>
      have tie : value = below + 1 / 2 := by linarith
      have above : (bound : ℚ) - 1 / 2 < value ↔ bound < below + 1 := by
        rw [tie, sub_lt_iff_lt_add, add_assoc, add_halves]
        exact_mod_cast Iff.rfl
      have equal : value = bound - 1 / 2 ↔ bound = below + 1 := by
        rw [tie]
        constructor
        · intro same
          have cast : (bound : ℚ) = below + 1 := by linarith
          exact_mod_cast cast
        · intro same
          rw [same]
          push_cast
          ring
      rw [above, equal]
      split
      next even => omega
      next odd => omega

/-- Rounding a quotient reaches an integer, in terms of the dividend. -/
theorem le_roundHalfEven_div {dividend divisor bound : ℤ} (positive : 0 < divisor) :
    bound ≤ roundHalfEven (dividend / divisor) ↔
      (2 * bound - 1) * divisor < 2 * dividend ∨ ((2 * bound - 1) * divisor = 2 * dividend ∧ bound % 2 = 0) := by
  have cast : (0 : ℚ) < divisor := by exact_mod_cast positive
  have less : (bound : ℚ) - 1 / 2 < dividend / divisor ↔ (2 * bound - 1) * divisor < 2 * dividend := by
    rw [lt_div_iff₀ cast]
    constructor
    · intro below
      have doubled : ((2 * bound - 1) * divisor : ℚ) < 2 * dividend := by linarith
      exact_mod_cast doubled
    · intro below
      have doubled : ((2 * bound - 1) * divisor : ℚ) < 2 * dividend := by exact_mod_cast below
      linarith
  have equal : (dividend / divisor : ℚ) = bound - 1 / 2 ↔ (2 * bound - 1) * divisor = 2 * dividend := by
    rw [div_eq_iff cast.ne']
    constructor
    · intro same
      have doubled : ((2 * bound - 1) * divisor : ℚ) = 2 * dividend := by linarith
      exact_mod_cast doubled
    · intro same
      have doubled : ((2 * bound - 1) * divisor : ℚ) = 2 * dividend := by exact_mod_cast same
      linarith
  rw [le_roundHalfEven, less, equal]

end Rounding

/-- The nearest double, ties to even. What rounds to zero keeps its sign. -/
def ofRat (value : ℚ) : Float64 :=
  if value = 0 then .finite 0
  else
    let exponent := max (Int.log 2 |value| - 52) (-1074)
    let rounded : ℚ := roundHalfEven (value / 2 ^ exponent) * 2 ^ exponent
    if 2 ^ 1024 ≤ |rounded| then .infinity (value < 0)
    else if rounded = 0 ∧ value < 0 then .negativeZero
    else .finite rounded

/-- `float(value)` of an integer. -/
def ofInt (value : Int) : Float64 := ofRat value

/-- The number that a finite double stands for. -/
def rational? : Float64 → Option ℚ
  | .finite value => some value
  | .negativeZero => some 0
  | _ => none

/-- `left < right`, which is false on NaN. -/
def lt (left right : Float64) : Bool :=
  match left, right with
  | .nan, _ => false
  | _, .nan => false
  | .infinity negative, .infinity other => negative && !other
  | .infinity negative, _ => negative
  | _, .infinity negative => !negative
  | left, right => left.rational?.getD 0 < right.rational?.getD 0

/-- `left == right`: the zeros are equal, and NaN equals nothing. -/
def same : Float64 → Float64 → Bool
  | .infinity negative, .infinity other => negative == other
  | left, right => left.rational?.any fun value => right.rational? = some value

/-- An operation on finite doubles, rounded once. -/
def arith (operation : ℚ → ℚ → ℚ) (left right : Float64) : Float64 :=
  match left.rational?, right.rational? with
  | some left, some right => ofRat (operation left right)
  | _, _ => .nan

/-- `math.isclose(left, right, rel_tol=relative, abs_tol=absolute)`. -/
def isClose (relative absolute left right : Float64) : Bool :=
  if left.same right then true
  else match left.rational?, right.rational?, (arith (fun first second => |second - first|) left right).rational? with
    | some _, some _, some distance =>
      let within := fun bound : Float64 => bound.rational?.any fun bound => distance ≤ |bound|
      within (arith (· * ·) relative right) || within (arith (· * ·) relative left) || within absolute
    | _, _, _ => false

@[simp] theorem same_nan (value : Float64) : value.same .nan = false ∧ same .nan value = false := by
  cases value <;> simp [same, rational?]

/-- Nothing is close to NaN. -/
@[simp] theorem isClose_nan (relative absolute value : Float64) : isClose relative absolute .nan value = false := by
  simp [isClose, rational?]

def isFinite (value : Float64) : Bool := value.rational?.isSome

section Texts

/-- The shortest digits that denote a positive double, and the power of ten they are scaled by. -/
def shortest (value : ℚ) : ℤ × ℤ :=
  let magnitude := Int.log 10 value
  let candidate := fun count : Nat =>
    let scale := magnitude - count + 1
    (roundHalfEven (value / 10 ^ scale), scale)
  let exact := ((List.range 17).map fun index => candidate (index + 1)).find? fun (digits, scale) =>
    ofRat ((digits : ℚ) * 10 ^ scale) = .finite value
  exact.getD (candidate 17)

/-- Digits without the zeros they end in. -/
def stripZeros (digits : List Char) : List Char := (digits.reverse.dropWhile (· = '0')).reverse

/-- `repr(value)`. -/
def repr : Float64 → String
  | .nan => "nan"
  | .infinity negative => if negative then "-inf" else "inf"
  | .negativeZero => "-0.0"
  | .finite value =>
    if value = 0 then "0.0"
    else
      let (mantissa, scale) := shortest |value|
      let all := Nat.toDigits 10 mantissa.toNat
      let digits := stripZeros all
      let point : ℤ := all.length + scale
      let zeros := fun count : ℤ => List.replicate count.toNat '0'
      let body :=
        if -4 < point ∧ point ≤ 16 then
          if point ≤ 0 then ['0', '.'] ++ zeros (-point) ++ digits
          else
            let whole := (digits ++ zeros (point - digits.length)).take point.toNat
            let fraction := digits.drop point.toNat
            whole ++ '.' :: (if fraction = [] then ['0'] else fraction)
        else
          let exponent := point - 1
          let size := Nat.toDigits 10 exponent.natAbs
          digits.take 1 ++ (if digits.length = 1 then [] else '.' :: digits.drop 1) ++
            ['e', if exponent < 0 then '-' else '+'] ++ (if size.length = 1 then '0' :: size else size)
      String.ofList ((if value < 0 then ['-'] else []) ++ body)

/-- An optional sign in front of a text. -/
def signed (text : List Char) : Bool × List Char :=
  match text with
  | '-' :: rest => (true, rest)
  | '+' :: rest => (false, rest)
  | other => (false, other)

/-- Digits with an optional fraction, at least one digit in all. -/
def parseMantissa (text : List Char) : Option ℚ :=
  let whole := text.takeWhile Char.isDigit
  let rest := text.dropWhile Char.isDigit
  let fraction? := match rest with
    | [] => some []
    | '.' :: fraction => if fraction.all Char.isDigit then some fraction else none
    | _ => none
  fraction?.bind fun fraction =>
    (Text.decimal? (whole ++ fraction)).map fun digits => (digits : ℚ) / 10 ^ fraction.length

/-- The number a text denotes: a decimal numeral with an optional exponent, an infinity or NaN. -/
def ofChars? (text : List Char) : Option Float64 :=
  let (negative, body) := signed text
  let lowered := body.map Char.toLower
  if lowered = "inf".toList ∨ lowered = "infinity".toList then some (.infinity negative)
  else if lowered = "nan".toList then some .nan
  else
    let mantissa := body.takeWhile fun char => char ≠ 'e' ∧ char ≠ 'E'
    let scale? := match body.dropWhile fun char => char ≠ 'e' ∧ char ≠ 'E' with
      | [] => some (0 : ℤ)
      | _ :: exponent =>
        let (down, digits) := signed exponent
        (Text.decimal? digits).map fun size => if down then -(size : ℤ) else size
    scale?.bind fun scale => (parseMantissa mantissa).map fun value =>
      if negative ∧ value = 0 then .negativeZero else ofRat ((if negative then -value else value) * 10 ^ scale)

end Texts

end Float64
