import Nslab.Errors

/-! Rates and sizes of traffic control. -/

namespace Nslab.Tc

open Text

/-- A text is refused, or the lookup of its unit fails. -/
inductive TcError where
  | valueError (message : String)
  | keyError (unit : List Char)
deriving DecidableEq

/-- The blanks that `str.strip` removes. -/
def isSpace (char : Char) : Bool :=
  char.toNat ∈ [9, 10, 11, 12, 13, 28, 29, 30, 31, 32, 0x85, 0xA0, 0x1680, 0x2028, 0x2029, 0x202F, 0x205F, 0x3000] ∨
    (0x2000 ≤ char.toNat ∧ char.toNat ≤ 0x200A)

def strip (text : List Char) : List Char := ((text.dropWhile isSpace).reverse.dropWhile isSpace).reverse

/-- Whether a character matches a lowercase letter of a pattern under `re.IGNORECASE`. -/
def matchesLetter (letter char : Char) : Bool :=
  char.toLower = letter ∨ (letter = 'i' ∧ (char.toNat = 0x130 ∨ char.toNat = 0x131)) ∨
    (letter = 'k' ∧ char.toNat = 0x212A)

def matchesUnit (unit text : List Char) : Bool :=
  unit.length = text.length ∧ (List.zip unit text).all fun (letter, char) => matchesLetter letter char

/-- `str.lower` of one character, on the characters that a unit can match. -/
def lowerChar (char : Char) : List Char :=
  if char.toNat = 0x212A then ['k']
  else if char.toNat = 0x130 then ['i', Char.ofNat 0x307]
  else [char.toLower]

def lower (text : List Char) : List Char := text.flatMap lowerChar

abbrev Units := List (List Char × Nat)

def rateUnits : Units :=
  [("bit".toList, 1), ("kbit".toList, 1000), ("mbit".toList, 1000000), ("gbit".toList, 1000000000)]

def sizeUnits : Units :=
  [("b".toList, 1), ("k".toList, 1024), ("kb".toList, 1024), ("m".toList, 1024 ^ 2), ("mb".toList, 1024 ^ 2),
   ("g".toList, 1024 ^ 3), ("gb".toList, 1024 ^ 3)]

def maxRateBytesPerSecond : Nat := 0xFFFFFFFF

def maxSizeBytes : Nat := 0xFFFFFFFF

/-- `int` converts no longer numerals than this. -/
def maxStrDigits : Nat := 4300

/-- An amount of one of the units, in the base unit. -/
def parseAmount (units : Units) (grammar : String) (text : List Char) : Except TcError Nat :=
  let stripped := strip text
  let unit := stripped.dropWhile Char.isDigit
  match decimal? (stripped.takeWhile Char.isDigit) with
  | none => .error (.valueError grammar)
  | some amount =>
    if units.any fun known => matchesUnit known.1 unit then
      if maxStrDigits < (stripped.takeWhile Char.isDigit).length then
        .error (.valueError "Exceeds the limit (4300 digits) for integer string conversion")
      else match units.lookup (lower unit) with
      | some multiplier => .ok (amount * multiplier)
      | none => .error (.keyError (lower unit))
    else .error (.valueError grammar)

/-- The largest unit in which a count of bits is whole. -/
def formatRateBytes (bytesPerSecond : Nat) : List Char :=
  let bits := bytesPerSecond * 8
  if bits % 1000000000 = 0 then Nat.toDigits 10 (bits / 1000000000) ++ "gbit".toList
  else if bits % 1000000 = 0 then Nat.toDigits 10 (bits / 1000000) ++ "mbit".toList
  else if bits % 1000 = 0 then Nat.toDigits 10 (bits / 1000) ++ "kbit".toList
  else Nat.toDigits 10 bits ++ "bit".toList

def parseRate (text : List Char) : Except TcError Nat := do
  let bits ← parseAmount rateUnits "rate must match '<integer>(bit|kbit|mbit|gbit)'" text
  if bits < 8 ∨ bits % 8 ≠ 0 then
    .error (.valueError "rate must be at least 8bit and represent a whole number of bytes")
  else if maxRateBytesPerSecond < bits / 8 then
    .error (.valueError "rate is too large for the supported tc netlink attributes")
  else .ok (bits / 8)

/-- Canonical text of a rate such as `10mbit`. -/
def normalizeRate (text : List Char) : Except TcError (List Char) := (parseRate text).map formatRateBytes

/-- `rate_to_bytes_per_second`. -/
def rateToBytesPerSecond (text : List Char) : Except TcError Nat := do
  let canonical ← normalizeRate text
  let bits ← parseAmount rateUnits "AssertionError" canonical
  pure (bits / 8)

/-- Canonical text of a rate that the kernel reports. -/
def formatRate (bytesPerSecond : Int) : Except TcError (List Char) :=
  if 0 < bytesPerSecond ∧ bytesPerSecond ≤ maxRateBytesPerSecond then .ok (formatRateBytes bytesPerSecond.toNat)
  else .error (.valueError "kernel rate is outside the supported range")

def parseSizeText (text : List Char) : Except TcError Nat := do
  let amount ← parseAmount sizeUnits "size must be an integer or use b/kb/mb/gb" text
  if amount = 0 ∨ maxSizeBytes < amount then .error (.valueError "size must be in the range 1..4294967295 bytes")
  else .ok amount

theorem strip_of_clean {text : List Char} (clean : ∀ char ∈ text, isSpace char = false) : strip text = text := by
  have drops : ∀ text : List Char, (∀ char ∈ text, isSpace char = false) → text.dropWhile isSpace = text := by
    intro text clean
    cases text with
    | nil => rfl
    | cons first rest => simp [clean first (by simp)]
  rw [strip, drops text clean, drops text.reverse fun char member => clean char (List.mem_reverse.mp member),
    List.reverse_reverse]

theorem isSpace_digit {char : Char} (digit : char.isDigit = true) : isSpace char = false := by
  have bounds : 48 ≤ char.toNat ∧ char.toNat ≤ 57 := by
    simpa [Char.isDigit, UInt32.le_iff_toNat_le] using digit
  simp only [isSpace, List.mem_cons, List.not_mem_nil, or_false, decide_eq_false_iff_not, not_or]
  omega

/-- A numeral followed by a unit in lowercase denotes its amount. -/
theorem parseAmount_toDigits {units : Units} {grammar : String} {unit : List Char} {amount : Nat} (multiplier : Nat)
    (small : amount < 10 ^ 20) (listed : units.lookup unit = some multiplier)
    (letters : unit.all (fun char => !char.isDigit && !isSpace char && lowerChar char == [char] && char.toLower == char) = true) :
    parseAmount units grammar (Nat.toDigits 10 amount ++ unit) = .ok (amount * multiplier) := by
  have lowercase : ∀ char ∈ unit, char.isDigit = false ∧ isSpace char = false ∧ lowerChar char = [char] ∧ char.toLower = char := by
    simpa [and_assoc] using letters
  have digits : ∀ char ∈ Nat.toDigits 10 amount, char.isDigit = true := fun char member =>
    Nat.isDigit_of_mem_toDigits (by decide) (by decide) member
  have stripped : strip (Nat.toDigits 10 amount ++ unit) = Nat.toDigits 10 amount ++ unit := by
    refine strip_of_clean fun char member => ?_
    rcases List.mem_append.mp member with numeral | inUnit
    · exact isSpace_digit (digits char numeral)
    · exact (lowercase char inUnit).2.1
  have stops : unit.takeWhile Char.isDigit = [] ∧ unit.dropWhile Char.isDigit = unit := by
    cases unit with
    | nil => simp
    | cons first rest => simp [(lowercase first (by simp)).1]
  have lowered : lower unit = unit := by
    have each : ∀ text : List Char, (∀ char ∈ text, lowerChar char = [char]) → text.flatMap lowerChar = text := by
      intro text same
      induction text with
      | nil => rfl
      | cons first rest ih =>
        simp only [List.mem_cons, forall_eq_or_imp] at same
        simp [same.1, ih same.2]
    exact each unit fun char member => (lowercase char member).2.2.1
  have matched : units.any (fun known => matchesUnit known.1 unit) = true := by
    obtain ⟨before, after, shape, _⟩ := List.lookup_eq_some_iff.mp listed
    have own : matchesUnit unit unit = true := by
      have pairs : ∀ pair ∈ List.zip unit unit, matchesLetter pair.1 pair.2 = true := by
        rintro ⟨letter, char⟩ member
        have same : letter = char := by
          obtain ⟨index, bound, found⟩ := List.mem_iff_getElem.mp member
          simp only [List.getElem_zip, Prod.mk.injEq] at found
          exact found.1.symm.trans found.2
        have own := (lowercase char (List.of_mem_zip member).2).2.2.2
        simp [matchesLetter, same, own]
      simpa [matchesUnit] using pairs
    simp [shape, own]
  have short : ¬ maxStrDigits < (Nat.toDigits 10 amount).length := by
    have few := (Nat.length_toDigits_le_iff (by decide) (by decide : 0 < 20)).mpr small
    simp only [maxStrDigits]
    omega
  simp [parseAmount, stripped, short, List.takeWhile_append_of_pos digits, List.dropWhile_append_of_pos digits, stops,
    decimal?_toDigits, lowered, listed, matched]

/-- The canonical text of a rate denotes its bits. -/
theorem parseAmount_format {grammar : String} {bytesPerSecond : Nat} (bounded : bytesPerSecond ≤ maxRateBytesPerSecond) :
    parseAmount rateUnits grammar (formatRateBytes bytesPerSecond) = .ok (bytesPerSecond * 8) := by
  have limit : bytesPerSecond ≤ 4294967295 := bounded
  unfold formatRateBytes
  dsimp only
  split
  next whole =>
    rw [parseAmount_toDigits 1000000000 (by omega) (by decide) (by decide), Nat.div_mul_cancel (Nat.dvd_of_mod_eq_zero whole)]
  split
  next whole =>
    rw [parseAmount_toDigits 1000000 (by omega) (by decide) (by decide), Nat.div_mul_cancel (Nat.dvd_of_mod_eq_zero whole)]
  split
  next whole =>
    rw [parseAmount_toDigits 1000 (by omega) (by decide) (by decide), Nat.div_mul_cancel (Nat.dvd_of_mod_eq_zero whole)]
  · rw [parseAmount_toDigits 1 (by omega) (by decide) (by decide), Nat.mul_one]

theorem parseRate_format {bytesPerSecond : Nat} (positive : 0 < bytesPerSecond)
    (bounded : bytesPerSecond ≤ maxRateBytesPerSecond) : parseRate (formatRateBytes bytesPerSecond) = .ok bytesPerSecond := by
  have limit : bytesPerSecond ≤ 4294967295 := bounded
  simp only [parseRate, parseAmount_format bounded, bind, Except.bind]
  rw [if_neg (by omega), Nat.mul_div_cancel _ (by decide : 0 < 8), if_neg (by omega)]

theorem parseRate_range {text : List Char} {bytes : Nat} (parsed : parseRate text = .ok bytes) :
    0 < bytes ∧ bytes ≤ maxRateBytesPerSecond := by
  simp only [parseRate, Checks.bind_ok] at parsed
  obtain ⟨bits, _, valid⟩ := parsed
  split at valid
  · simp at valid
  split at valid
  · simp at valid
  · simp only [Except.ok.injEq] at valid
    omega

/-- A rate that has a canonical text is one of those that `tc` supports. -/
theorem normalizeRate_ok {text canonical : List Char} (normal : normalizeRate text = .ok canonical) :
    ∃ bytes, 0 < bytes ∧ bytes ≤ maxRateBytesPerSecond ∧ canonical = formatRateBytes bytes := by
  unfold normalizeRate at normal
  cases parsed : parseRate text with
  | error issue => simp [parsed, Except.map] at normal
  | ok bytes =>
    simp only [parsed, Except.map, Except.ok.injEq] at normal
    obtain ⟨positive, bounded⟩ := parseRate_range parsed
    exact ⟨bytes, positive, bounded, normal.symm⟩

/-- A canonical rate is its own canonical text. -/
theorem normalizeRate_idem {text canonical : List Char} (normal : normalizeRate text = .ok canonical) :
    normalizeRate canonical = .ok canonical := by
  obtain ⟨bytes, positive, bounded, rfl⟩ := normalizeRate_ok normal
  rw [normalizeRate, parseRate_format positive bounded, Except.map]

theorem rateToBytesPerSecond_format {bytesPerSecond : Nat} (positive : 0 < bytesPerSecond)
    (bounded : bytesPerSecond ≤ maxRateBytesPerSecond) :
    rateToBytesPerSecond (formatRateBytes bytesPerSecond) = .ok bytesPerSecond := by
  have canonical : normalizeRate (formatRateBytes bytesPerSecond) = .ok (formatRateBytes bytesPerSecond) := by
    rw [normalizeRate, parseRate_format positive bounded, Except.map]
  simp only [rateToBytesPerSecond, canonical, Checks.ok_bind, parseAmount_format bounded]
  exact congrArg Except.ok (Nat.mul_div_cancel _ (by decide))

end Nslab.Tc
