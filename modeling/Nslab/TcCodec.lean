import Nslab.Tc

/-! Which texts are rates and sizes, and what comes of one that is none. Canonical
texts stand for the values they are made of. -/

namespace Nslab.Tc

open Text

section Codecs

/-- A count of bytes in the largest unit in which it is whole. -/
def formatSize (value : Int) : Except TcError (List Char) :=
  if value ≤ 0 then .error (.valueError "size must be a positive integer")
  else
    let size := value.toNat
    if size % 1024 ^ 3 = 0 then .ok (Nat.toDigits 10 (size / 1024 ^ 3) ++ "gb".toList)
    else if size % 1024 ^ 2 = 0 then .ok (Nat.toDigits 10 (size / 1024 ^ 2) ++ "mb".toList)
    else if size % 1024 = 0 then .ok (Nat.toDigits 10 (size / 1024) ++ "kb".toList)
    else .ok (Nat.toDigits 10 size ++ "b".toList)

variable {text canonical : List Char} {bytes : Nat}

/-- A canonical text of a size denotes its bytes. -/
theorem parseAmount_formatSize {grammar : String} {size : Nat} (positive : 0 < size) (bounded : size ≤ maxSizeBytes) :
    ∃ text, formatSize size = .ok text ∧ parseAmount sizeUnits grammar text = .ok size := by
  have limit : size ≤ 4294967295 := bounded
  have above : ¬ (size : Int) ≤ 0 := by omega
  simp only [formatSize, if_neg above, Int.toNat_natCast]
  split
  next whole =>
    refine ⟨_, rfl, ?_⟩
    rw [parseAmount_toDigits (1024 ^ 3) (by omega) (by decide) (by decide), Nat.div_mul_cancel (Nat.dvd_of_mod_eq_zero whole)]
  split
  next whole =>
    refine ⟨_, rfl, ?_⟩
    rw [parseAmount_toDigits (1024 ^ 2) (by omega) (by decide) (by decide), Nat.div_mul_cancel (Nat.dvd_of_mod_eq_zero whole)]
  split
  next whole =>
    refine ⟨_, rfl, ?_⟩
    rw [parseAmount_toDigits 1024 (by omega) (by decide) (by decide), Nat.div_mul_cancel (Nat.dvd_of_mod_eq_zero whole)]
  next =>
    refine ⟨_, rfl, ?_⟩
    rw [parseAmount_toDigits 1 (by omega) (by decide) (by decide), Nat.mul_one]

theorem parseSizeText_format {size : Nat} (positive : 0 < size) (bounded : size ≤ maxSizeBytes) :
    ∃ text, formatSize size = .ok text ∧ parseSizeText text = .ok size := by
  obtain ⟨text, formatted, parsed⟩ :=
    @parseAmount_formatSize "size must be an integer or use b/kb/mb/gb" size positive bounded
  refine ⟨text, formatted, ?_⟩
  simp only [parseSizeText, parsed, Checks.ok_bind]
  rw [if_neg (by omega)]

/-- The bytes that an accepted rate stands for, and that its canonical text is made of. -/
theorem rateToBytesPerSecond_of_normal (normal : normalizeRate text = .ok canonical) :
    ∃ bytes, 0 < bytes ∧ bytes ≤ maxRateBytesPerSecond ∧ canonical = formatRateBytes bytes ∧
      rateToBytesPerSecond text = .ok bytes := by
  obtain ⟨bytes, positive, bounded, rfl⟩ := normalizeRate_ok normal
  refine ⟨bytes, positive, bounded, rfl, ?_⟩
  simp only [rateToBytesPerSecond, normal, Checks.ok_bind, parseAmount_format bounded]
  exact congrArg Except.ok (Nat.mul_div_cancel bytes (by decide))

theorem formatRate_of_range (positive : 0 < bytes) (bounded : bytes ≤ maxRateBytesPerSecond) :
    formatRate bytes = .ok (formatRateBytes bytes) := by
  rw [formatRate, if_pos ⟨by omega, by omega⟩, Int.toNat_natCast]

/-- Different rates have different canonical texts. -/
theorem formatRateBytes_injective {other : Nat} (positive : 0 < bytes) (bounded : bytes ≤ maxRateBytesPerSecond)
    (inside : 0 < other) (below : other ≤ maxRateBytesPerSecond) (same : formatRateBytes bytes = formatRateBytes other) :
    bytes = other := by
  have first := parseRate_format positive bounded
  rw [same, parseRate_format inside below] at first
  exact (Except.ok.inj first).symm

/-- An accepted rate keeps its value under `normalize_rate`, which is what `format_rate` makes of that value, and texts have
the same canonical form when they stand for the same rate. Every rate and every size is read back from its text. -/
theorem codecs_consistent :
    (∀ text canonical, normalizeRate text = .ok canonical → normalizeRate canonical = .ok canonical ∧
      rateToBytesPerSecond canonical = rateToBytesPerSecond text ∧
      ∃ bytes : Nat, rateToBytesPerSecond text = .ok bytes ∧ formatRate bytes = .ok canonical) ∧
    (∀ left right first second, normalizeRate left = .ok first → normalizeRate right = .ok second →
      (first = second ↔ rateToBytesPerSecond left = rateToBytesPerSecond right)) ∧
    (∀ bytes : Nat, 1 ≤ bytes → bytes ≤ 2 ^ 32 - 1 →
      ∃ text, formatRate bytes = .ok text ∧ rateToBytesPerSecond text = .ok bytes) ∧
    ∀ size : Nat, 1 ≤ size → size ≤ 2 ^ 32 - 1 → ∃ text, formatSize size = .ok text ∧ parseSizeText text = .ok size := by
  refine ⟨?_, ?_, ?_, ?_⟩
  · intro text canonical normal
    obtain ⟨bytes, positive, bounded, rfl, denotes⟩ := rateToBytesPerSecond_of_normal normal
    refine ⟨normalizeRate_idem normal, ?_, bytes, denotes, formatRate_of_range positive bounded⟩
    rw [denotes, rateToBytesPerSecond_format positive bounded]
  · intro left right first second leftNormal rightNormal
    obtain ⟨bytes, positive, bounded, rfl, denotes⟩ := rateToBytesPerSecond_of_normal leftNormal
    obtain ⟨other, inside, below, rfl, stands⟩ := rateToBytesPerSecond_of_normal rightNormal
    rw [denotes, stands, Except.ok.injEq]
    constructor
    · exact formatRateBytes_injective positive bounded inside below
    · intro same
      rw [same]
  · intro bytes positive bounded
    exact ⟨formatRateBytes bytes, formatRate_of_range positive bounded, rateToBytesPerSecond_format positive bounded⟩
  · intro size positive bounded
    exact parseSizeText_format positive bounded

end Codecs

section Grammar

variable {units : Units} {text digits unit known : List Char} {multiplier : Nat}

/-- The text is a run of digits and a documented unit in any case of its letters, between blanks. -/
def Spells (units : Units) (text : List Char) (amount : Nat) : Prop :=
  ∃ digits unit multiplier, strip text = digits ++ unit ∧ digits ≠ [] ∧ (∀ char ∈ digits, char.isDigit = true) ∧
    (unit.map Char.toLower, multiplier) ∈ units ∧ amount = Nat.ofDigitChars 10 digits 0 * multiplier

/-- The dotted and the dotless capital and small letters that `re.IGNORECASE` takes for an `i`. -/
def isStrayI (char : Char) : Bool := char.toNat = 0x130 ∨ char.toNat = 0x131

def isKelvin (char : Char) : Bool := char.toNat = 0x212A

/-- The text is a numeral with a unit that matches a known one. -/
structure Shaped (units : Units) (text digits unit known : List Char) (multiplier : Nat) : Prop where
  shape : strip text = digits ++ unit
  filled : digits ≠ []
  numeral : ∀ char ∈ digits, char.isDigit = true
  listed : (known, multiplier) ∈ units
  matched : matchesUnit known unit = true

/-- The numerals and units in which a text stands apart from its grammar: a unit that matches, with a letter that is none
of its own, or a numeral that is too long for `int` and yet within range. -/
def Strays (units : Units) (range : Nat → Prop) (text : List Char) : Prop :=
  ∃ digits unit known multiplier, Shaped units text digits unit known multiplier ∧
    if digits.length ≤ maxStrDigits then
      (∃ char ∈ unit, isStrayI char = true) ∨
        (∃ char ∈ unit, isKelvin char = true) ∧ range (Nat.ofDigitChars 10 digits 0 * multiplier)
    else (∀ char ∈ unit, isStrayI char = false ∧ isKelvin char = false) ∧ range (Nat.ofDigitChars 10 digits 0 * multiplier)

/-- A parser accepts the texts of a grammar whose amount is in range, and raises a `ValueError` for every other one. -/
structure Exact {α : Type} (units : Units) (range : Nat → Prop) (parse : List Char → Except TcError α)
    (text : List Char) : Prop where
  accepts : (∃ value, parse text = .ok value) ↔ ∃ amount, Spells units text amount ∧ range amount
  raises : ∀ issue, parse text = .error issue → ∃ message, issue = .valueError message

/-- The letters of the units are small letters of ASCII. -/
structure Lowercase (units : Units) : Prop where
  filled : ∀ entry ∈ units, entry.1 ≠ []
  letters : ∀ entry ∈ units, ∀ char ∈ entry.1, char.toLower = char ∧ char.toNat < 128 ∧ char.isDigit = false
  distinct : (units.map Prod.fst).Nodup

theorem toLower_of_large {char : Char} (large : 128 ≤ char.toNat) : char.toLower = char := by
  have outside : ¬ (char.val ≥ 'A'.val ∧ char.val ≤ 'Z'.val) := by
    intro inside
    have bound : char.toNat ≤ 'Z'.toNat := inside.2
    have last : 'Z'.toNat = 90 := rfl
    omega
  exact dif_neg outside

theorem toLower_of_digit {char : Char} (digit : char.isDigit = true) : char.toLower = char := by
  have outside : ¬ (char.val ≥ 'A'.val ∧ char.val ≤ 'Z'.val) := by
    intro inside
    simp only [Char.isDigit, Bool.and_eq_true, decide_eq_true_eq] at digit
    have bound : 'A'.toNat ≤ char.toNat := inside.1
    have first : 'A'.toNat = 65 := rfl
    have below : char.toNat ≤ 57 := digit.2
    omega
  exact dif_neg outside

theorem matchesUnit_iff : matchesUnit known unit = true ↔
    List.Forall₂ (fun letter char => matchesLetter letter char = true) known unit := by
  induction known generalizing unit with
  | nil => cases unit <;> simp [matchesUnit]
  | cons letter known ih =>
    cases unit with
    | nil => simp [matchesUnit]
    | cons char unit =>
      rw [List.forall₂_cons, ← ih]
      simp only [matchesUnit, List.length_cons, List.zip_cons_cons, List.all_cons, decide_eq_true_eq, Bool.and_eq_true,
        Nat.add_right_cancel_iff]
      exact and_left_comm

/-- A letter is matched by itself in either case, or by a letter that is none of ASCII. -/
theorem matchesLetter_cases {letter char : Char} (matched : matchesLetter letter char = true) :
    char.toLower = letter ∨ isStrayI char = true ∨ letter = 'k' ∧ isKelvin char = true := by
  simp only [matchesLetter, decide_eq_true_eq] at matched
  rcases matched with same | ⟨_, stray⟩ | kelvin
  · exact .inl same
  · exact .inr (.inl (decide_eq_true stray))
  · exact .inr (.inr ⟨kelvin.1, decide_eq_true kelvin.2⟩)

theorem large_of_stray {char : Char} (stray : isStrayI char = true ∨ isKelvin char = true) : 128 ≤ char.toNat := by
  simp only [isStrayI, isKelvin, decide_eq_true_eq] at stray
  omega

/-- What matches a letter of a unit is no digit. -/
theorem not_digit_of_matches {letter char : Char} (plain : letter.isDigit = false) (matched : matchesLetter letter char = true) :
    char.isDigit = false := by
  rw [Bool.eq_false_iff]
  intro digit
  have small : char.toNat ≤ 57 := by
    simp only [Char.isDigit, Bool.and_eq_true, decide_eq_true_eq] at digit
    exact digit.2
  rcases matchesLetter_cases matched with same | stray
  · rw [toLower_of_digit digit] at same
    rw [same, plain] at digit
    cases digit
  · have large := large_of_stray (stray.imp id And.right)
    omega

/-- The digits and the unit of a text are where it stops being digits. -/
theorem Shaped.split (shaped : Shaped units text digits unit known multiplier) (lowercase : Lowercase units) :
    (strip text).takeWhile Char.isDigit = digits ∧ (strip text).dropWhile Char.isDigit = unit := by
  have letters := lowercase.letters _ shaped.listed
  rw [shaped.shape, List.takeWhile_append_of_pos shaped.numeral, List.dropWhile_append_of_pos shaped.numeral]
  cases matchesUnit_iff.mp shaped.matched with
  | nil => exact absurd rfl (lowercase.filled _ shaped.listed)
  | @cons letter char known rest first _ =>
    have other := not_digit_of_matches (letters letter List.mem_cons_self).2.2 first
    simp [other]

/-- The unit is looked up when none of its letters is a stray `i`. -/
theorem lower_of_matches (small : ∀ char ∈ known, char.toNat < 128) (matched : matchesUnit known unit = true)
    (plain : ∀ char ∈ unit, isStrayI char = false) : lower unit = known := by
  induction matchesUnit_iff.mp matched with
  | nil => rfl
  | @cons letter char known unit first rest ih =>
    have own : lowerChar char = [letter] := by
      have below := small letter List.mem_cons_self
      have apart := plain char List.mem_cons_self
      simp only [lowerChar]
      rcases matchesLetter_cases first with same | stray | ⟨rfl, kelvin⟩
      · have ascii : char.toNat < 128 := by
          by_contra large
          rw [toLower_of_large (by omega)] at same
          subst same
          exact large below
        rw [if_neg (by omega), if_neg (by omega), same]
      · rw [apart] at stray
        cases stray
      · rw [if_pos (of_decide_eq_true kelvin)]
    rw [lower, List.flatMap_cons, own, ← lower,
      ih (fun char member => small char (List.mem_cons_of_mem _ member)) (matchesUnit_iff.mpr rest)
        fun char member => plain char (List.mem_cons_of_mem _ member)]
    rfl

/-- Nothing is found for a unit with a stray `i`. -/
theorem lookup_of_stray (lowercase : Lowercase units) (stray : ∃ char ∈ unit, isStrayI char = true) :
    units.lookup (lower unit) = none := by
  obtain ⟨char, member, found⟩ := stray
  have large : ∃ other ∈ lower unit, 128 ≤ other.toNat := by
    simp only [isStrayI, decide_eq_true_eq] at found
    rcases found with dotted | dotless
    · refine ⟨Char.ofNat 0x307, List.mem_flatMap.mpr ⟨char, member, ?_⟩, by decide⟩
      simp [lowerChar, dotted]
    · refine ⟨char, List.mem_flatMap.mpr ⟨char, member, ?_⟩, by omega⟩
      simp [lowerChar, dotless, toLower_of_large (show 128 ≤ char.toNat by omega)]
  obtain ⟨other, inside, beyond⟩ := large
  rw [List.lookup_eq_none_iff]
  intro entry listed
  rw [bne_iff_ne]
  intro same
  have below := (lowercase.letters entry listed other (same ▸ inside)).2.1
  omega

theorem lookup_of_mem (lowercase : Lowercase units) (listed : (known, multiplier) ∈ units) :
    units.lookup known = some multiplier := by
  obtain ⟨before, after, shape⟩ := List.append_of_mem listed
  have distinct := lowercase.distinct
  rw [shape, List.map_append, List.map_cons, List.nodup_append] at distinct
  refine List.lookup_eq_some_iff.mpr ⟨before, after, shape, fun entry member => ?_⟩
  rw [bne_iff_ne]
  exact fun same => distinct.2.2 entry.1 (List.mem_map_of_mem member) known List.mem_cons_self same.symm

/-- What comes of a numeral with a unit that matches. -/
theorem Shaped.parsed {grammar : String} (shaped : Shaped units text digits unit known multiplier) (lowercase : Lowercase units) :
    (maxStrDigits < digits.length → ∃ message, parseAmount units grammar text = .error (.valueError message)) ∧
    (digits.length ≤ maxStrDigits → (∃ char ∈ unit, isStrayI char = true) →
      parseAmount units grammar text = .error (.keyError (lower unit))) ∧
    (digits.length ≤ maxStrDigits → (∀ char ∈ unit, isStrayI char = false) →
      parseAmount units grammar text = .ok (Nat.ofDigitChars 10 digits 0 * multiplier)) := by
  obtain ⟨taken, dropped⟩ := shaped.split lowercase
  have decimal : decimal? digits = some (Nat.ofDigitChars 10 digits 0) := by
    rw [decimal?, if_pos ⟨shaped.filled, List.all_eq_true.mpr shaped.numeral⟩]
  have any : units.any (fun known => matchesUnit known.1 unit) = true :=
    List.any_eq_true.mpr ⟨_, shaped.listed, shaped.matched⟩
  simp only [parseAmount, taken, dropped, decimal, any, if_true]
  refine ⟨fun long => ⟨_, by rw [if_pos long]⟩, fun short stray => ?_, fun short plain => ?_⟩
  · rw [if_neg (by omega), lookup_of_stray lowercase stray]
  · have small := fun char member => (lowercase.letters _ shaped.listed char member).2.1
    rw [if_neg (by omega), lower_of_matches small shaped.matched plain, lookup_of_mem lowercase shaped.listed]

/-- Every other text is refused. -/
theorem parseAmount_unshaped {grammar : String}
    (unshaped : ¬ ∃ digits unit known multiplier, Shaped units text digits unit known multiplier) :
    parseAmount units grammar text = .error (.valueError grammar) := by
  simp only [parseAmount]
  cases decimal : decimal? ((strip text).takeWhile Char.isDigit) with
  | none => rfl
  | some amount =>
    dsimp only
    rw [if_neg]
    intro any
    obtain ⟨⟨known, multiplier⟩, listed, matched⟩ := List.any_eq_true.mp any
    rw [decimal?] at decimal
    split at decimal
    next formed =>
      exact unshaped ⟨_, _, known, multiplier, List.takeWhile_append_dropWhile.symm, formed.1, List.all_eq_true.mp formed.2,
        listed, matched⟩
    next => cases decimal

/-- What is read of a text, by its shape, its length and the letters of its unit. -/
theorem parseAmount_cases (lowercase : Lowercase units) (grammar : String) (text : List Char) :
    (∃ message, parseAmount units grammar text = .error (.valueError message)) ∨
    ∃ digits unit known multiplier, Shaped units text digits unit known multiplier ∧ digits.length ≤ maxStrDigits ∧
      ((∃ char ∈ unit, isStrayI char = true) ∨ (∀ char ∈ unit, isStrayI char = false) ∧
        parseAmount units grammar text = .ok (Nat.ofDigitChars 10 digits 0 * multiplier)) := by
  by_cases present : ∃ digits unit known multiplier, Shaped units text digits unit known multiplier
  · obtain ⟨digits, unit, known, multiplier, shaped⟩ := present
    obtain ⟨long, _, plain⟩ := @Shaped.parsed units text digits unit known multiplier grammar shaped lowercase
    by_cases short : digits.length ≤ maxStrDigits
    · refine .inr ⟨digits, unit, known, multiplier, shaped, short, ?_⟩
      by_cases strays : ∃ char ∈ unit, isStrayI char = true
      · exact .inl strays
      · simp only [not_exists, not_and, Bool.not_eq_true] at strays
        exact .inr ⟨strays, plain short strays⟩
    · exact .inl (long (by omega))
  · exact .inl ⟨grammar, parseAmount_unshaped present⟩

/-- A parser reads an amount and checks its range. -/
structure Ranges {α : Type} (units : Units) (grammar : String) (range : Nat → Prop)
    (parse : List Char → Except TcError α) : Prop where
  issue : ∀ text issue, parseAmount units grammar text = .error issue → parse text = .error issue
  inside : ∀ text amount, parseAmount units grammar text = .ok amount → range amount → ∃ value, parse text = .ok value
  outside : ∀ text amount, parseAmount units grammar text = .ok amount → ¬ range amount →
    ∃ message, parse text = .error (.valueError message)

/-- The letters of a unit that is spelled in ASCII are its own. -/
theorem plain_of_spelled (lowercase : Lowercase units) (listed : (unit.map Char.toLower, multiplier) ∈ units) :
    matchesUnit (unit.map Char.toLower) unit = true ∧ ∀ char ∈ unit, isStrayI char = false ∧ isKelvin char = false := by
  constructor
  · rw [matchesUnit_iff, List.forall₂_map_left_iff, List.forall₂_same]
    intro char _
    simp [matchesLetter]
  · intro char member
    have below := (lowercase.letters _ listed _ (List.mem_map_of_mem member)).2.1
    have apart : ¬ (isStrayI char = true ∨ isKelvin char = true) := by
      intro stray
      have large := large_of_stray stray
      rw [toLower_of_large large] at below
      omega
    rwa [not_or, Bool.not_eq_true, Bool.not_eq_true] at apart

theorem spelled_of_plain (small : ∀ char ∈ known, char.toNat < 128) (matched : matchesUnit known unit = true)
    (plain : ∀ char ∈ unit, isStrayI char = false ∧ isKelvin char = false) : unit.map Char.toLower = known := by
  induction matchesUnit_iff.mp matched with
  | nil => rfl
  | @cons letter char known unit first rest ih =>
    obtain ⟨stray, kelvin⟩ := plain char List.mem_cons_self
    rw [List.map_cons, ih (fun char member => small char (List.mem_cons_of_mem _ member)) (matchesUnit_iff.mpr rest)
      fun char member => plain char (List.mem_cons_of_mem _ member)]
    rcases matchesLetter_cases first with same | found | ⟨_, found⟩
    · rw [same]
    · rw [stray] at found
      cases found
    · rw [kelvin] at found
      cases found

/-- A parser is exact on a text unless the text strays from the grammar. -/
theorem exact_iff {α : Type} {grammar : String} {range : Nat → Prop} {parse : List Char → Except TcError α}
    (lowercase : Lowercase units) (ranges : Ranges units grammar range parse) (text : List Char) :
    Exact units range parse text ↔ ¬ Strays units range text := by
  constructor
  · intro exactness given
    obtain ⟨digits, unit, known, multiplier, shaped, wrong⟩ := given
    obtain ⟨long, stray, plain⟩ := @Shaped.parsed units text digits unit known multiplier grammar shaped lowercase
    split at wrong
    next short =>
      by_cases strays : ∃ char ∈ unit, isStrayI char = true
      · obtain ⟨message, same⟩ := exactness.raises _ (ranges.issue text _ (stray short strays))
        cases same
      · obtain ⟨⟨char, member, kelvin⟩, inside⟩ := wrong.resolve_left strays
        simp only [not_exists, not_and, Bool.not_eq_true] at strays
        obtain ⟨amount, ⟨others, other, factor, again, present, figures, spelled, _⟩, _⟩ :=
          exactness.accepts.mp (ranges.inside text _ (plain short strays) inside)
        obtain ⟨matched, own⟩ := plain_of_spelled lowercase spelled
        have written : Shaped units text others other _ factor := ⟨again, present, figures, spelled, matched⟩
        have same : other = unit := by
          rw [← (written.split lowercase).2, (shaped.split lowercase).2]
        subst same
        rw [(own char member).2] at kelvin
        cases kelvin
    next tall =>
      obtain ⟨message, refused⟩ := long (by omega)
      have small := fun char member => (lowercase.letters _ shaped.listed char member).2.1
      have spelled := spelled_of_plain small shaped.matched wrong.1
      obtain ⟨value, accepted⟩ := exactness.accepts.mpr
        ⟨_, ⟨digits, unit, multiplier, shaped.shape, shaped.filled, shaped.numeral, spelled ▸ shaped.listed, rfl⟩, wrong.2⟩
      rw [ranges.issue text _ refused] at accepted
      cases accepted
  · intro straight
    have spelled : ∀ amount, Spells units text amount → range amount → parseAmount units grammar text = .ok amount := by
      intro amount given inside
      obtain ⟨digits, unit, multiplier, shape, present, numeral, listed, same⟩ := given
      subst same
      obtain ⟨matched, plain⟩ := plain_of_spelled lowercase listed
      have shaped : Shaped units text digits unit _ multiplier := ⟨shape, present, numeral, listed, matched⟩
      by_cases short : digits.length ≤ maxStrDigits
      · exact (shaped.parsed lowercase).2.2 short fun char member => (plain char member).1
      · refine absurd ⟨digits, unit, _, multiplier, shaped, ?_⟩ straight
        rw [if_neg short]
        exact ⟨plain, inside⟩
    have read : ∀ amount, parseAmount units grammar text = .ok amount → range amount → Spells units text amount := by
      intro amount parsed inside
      rcases parseAmount_cases lowercase grammar text with
        ⟨message, refused⟩ | ⟨digits, unit, known, multiplier, shaped, short, stray | ⟨plain, denotes⟩⟩
      · rw [refused] at parsed
        cases parsed
      · rw [(shaped.parsed lowercase).2.1 short stray] at parsed
        cases parsed
      · rw [denotes] at parsed
        cases parsed
        have own : ∀ char ∈ unit, isStrayI char = false ∧ isKelvin char = false := by
          intro char member
          refine ⟨plain char member, ?_⟩
          rw [Bool.eq_false_iff]
          intro kelvin
          refine straight ⟨digits, unit, known, multiplier, shaped, ?_⟩
          rw [if_pos short]
          exact .inr ⟨⟨char, member, kelvin⟩, inside⟩
        have small := fun char member => (lowercase.letters _ shaped.listed char member).2.1
        have same := spelled_of_plain small shaped.matched own
        exact ⟨digits, unit, multiplier, shaped.shape, shaped.filled, shaped.numeral, same.symm ▸ shaped.listed, rfl⟩
    have refused : ∀ issue, parseAmount units grammar text = .error issue → ∃ message, issue = .valueError message := by
      intro issue parsed
      rcases parseAmount_cases lowercase grammar text with
        ⟨message, refused⟩ | ⟨digits, unit, known, multiplier, shaped, short, stray | ⟨_, denotes⟩⟩
      · rw [refused] at parsed
        cases parsed
        exact ⟨message, rfl⟩
      · refine absurd ⟨digits, unit, known, multiplier, shaped, ?_⟩ straight
        rw [if_pos short]
        exact .inl stray
      · rw [denotes] at parsed
        cases parsed
    constructor
    · constructor
      · intro given
        obtain ⟨value, accepted⟩ := given
        cases parsed : parseAmount units grammar text with
        | error issue =>
          rw [ranges.issue text issue parsed] at accepted
          cases accepted
        | ok amount =>
          by_cases inside : range amount
          · exact ⟨amount, read amount parsed inside, inside⟩
          · obtain ⟨message, outside⟩ := ranges.outside text amount parsed inside
            rw [outside] at accepted
            cases accepted
      · intro given
        obtain ⟨amount, spells, inside⟩ := given
        exact ranges.inside text amount (spelled amount spells inside) inside
    · intro issue failed
      cases parsed : parseAmount units grammar text with
      | error other =>
        rw [ranges.issue text other parsed] at failed
        cases failed
        exact refused _ parsed
      | ok amount =>
        by_cases inside : range amount
        · obtain ⟨value, accepted⟩ := ranges.inside text amount parsed inside
          rw [accepted] at failed
          cases failed
        · obtain ⟨message, outside⟩ := ranges.outside text amount parsed inside
          rw [outside] at failed
          cases failed
          exact ⟨message, rfl⟩

/-- The rates that `tc` supports, in bits. -/
def rateRange (bits : Nat) : Prop := 8 ≤ bits ∧ bits % 8 = 0 ∧ bits / 8 ≤ maxRateBytesPerSecond

def sizeRange (bytes : Nat) : Prop := bytes ≠ 0 ∧ bytes ≤ maxSizeBytes

theorem rateUnits_lowercase : Lowercase rateUnits := by
  constructor <;> simp [rateUnits]

theorem sizeUnits_lowercase : Lowercase sizeUnits := by
  constructor <;> simp [sizeUnits]

theorem normalizeRate_ranges : Ranges rateUnits "rate must match '<integer>(bit|kbit|mbit|gbit)'" rateRange normalizeRate := by
  constructor
  · intro text issue parsed
    simp only [normalizeRate, parseRate, parsed, bind, Except.bind, Except.map]
  · intro text amount parsed given
    obtain ⟨enough, whole, bounded⟩ := given
    refine ⟨formatRateBytes (amount / 8), ?_⟩
    simp only [normalizeRate, parseRate, parsed, Checks.ok_bind]
    rw [if_neg (by omega), if_neg (by omega), Except.map]
  · intro text amount parsed outside
    simp only [normalizeRate, parseRate, parsed, Checks.ok_bind]
    split
    next => exact ⟨_, rfl⟩
    split
    next => exact ⟨_, rfl⟩
    next valid bounded => exact absurd ⟨by omega, by omega, by omega⟩ outside

theorem parseSizeText_ranges : Ranges sizeUnits "size must be an integer or use b/kb/mb/gb" sizeRange parseSizeText := by
  constructor
  · intro text issue parsed
    simp only [parseSizeText, parsed, bind, Except.bind]
  · intro text amount parsed given
    obtain ⟨positive, bounded⟩ := given
    refine ⟨amount, ?_⟩
    simp only [parseSizeText, parsed, Checks.ok_bind]
    rw [if_neg (by omega)]
  · intro text amount parsed outside
    simp only [parseSizeText, parsed, Checks.ok_bind]
    split
    next => exact ⟨_, rfl⟩
    next valid => exact absurd ⟨by omega, by omega⟩ outside

/-- Rates and sizes are exactly the texts of their grammars, but for those that stray. -/
theorem exact_iff_straight (text : List Char) :
    (Exact rateUnits rateRange normalizeRate text ↔ ¬ Strays rateUnits rateRange text) ∧
    (Exact sizeUnits sizeRange parseSizeText text ↔ ¬ Strays sizeUnits sizeRange text) :=
  ⟨exact_iff rateUnits_lowercase normalizeRate_ranges text, exact_iff sizeUnits_lowercase parseSizeText_ranges text⟩

/-- The unit of `8bıt`, with a dotless `ı`, matches and is not found. -/
theorem dotless_unit_not_found : ¬ ∀ text, Exact rateUnits rateRange normalizeRate text := by
  intro exactness
  have failed : normalizeRate ['8', 'b', Char.ofNat 0x131, 't'] = .error (.keyError ['b', Char.ofNat 0x131, 't']) := by
    rfl
  obtain ⟨message, same⟩ := (exactness _).raises _ failed
  cases same

end Grammar

end Nslab.Tc
