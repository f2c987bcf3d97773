import Nslab.Library.JsonReader

/-! What is read from a JSON text is a document that a program can hold and can write
again: its containers are plain, no mapping has a key twice, its floats are doubles and
its integers are short. -/

namespace Float64

section Rounded

/-- A positive number of up to `2 ^ 53` bits of some double is a whole number of its own last bits. -/
theorem whole_lastBit {value : ℚ} {count exponent : ℤ} (positive : 0 < value) (least : -1074 ≤ exponent)
    (most : count ≤ 2 ^ 53) (exact : value = count * 2 ^ exponent) : ∃ whole : ℤ, value = whole * 2 ^ lastBit value := by
  have bit : (0 : ℚ) < 2 ^ exponent := zpow_pos (by norm_num) _
  have lower := Int.zpow_log_le_self (R := ℚ) (b := 2) (by decide) positive
  push_cast at lower
  by_cases finer : lastBit value ≤ exponent
  · obtain ⟨shift, shifted⟩ := Int.eq_ofNat_of_zero_le (sub_nonneg.mpr finer)
    refine ⟨count * 2 ^ shift, ?_⟩
    have split : (2 : ℚ) ^ exponent = 2 ^ shift * 2 ^ lastBit value := by
      rw [← zpow_natCast, ← zpow_add₀ (by norm_num), ← shifted]
      ring_nf
    rw [Int.cast_mul, Int.cast_pow, Int.cast_ofNat, mul_assoc, ← split]
    exact exact
  · -- The count is `2 ^ 53` then, which has one bit more than the counts of a double.
    have above : exponent + 53 ≤ Int.log 2 value := by
      unfold lastBit at finer
      omega
    have reaches : (2 : ℚ) ^ exponent * 2 ^ 53 ≤ value := by
      calc (2 : ℚ) ^ exponent * 2 ^ 53 = 2 ^ (exponent + 53) := by
            rw [zpow_add₀ (by norm_num)]
            norm_num
        _ ≤ 2 ^ Int.log 2 value := zpow_le_zpow_right₀ (by norm_num) above
        _ ≤ value := lower
    have bounded : value ≤ 2 ^ exponent * 2 ^ 53 := by
      rw [exact, mul_comm]
      have small : (count : ℚ) ≤ 2 ^ 53 := by exact_mod_cast most
      exact mul_le_mul_of_nonneg_left small bit.le
    have same : value = 2 ^ (exponent + 53) := by
      rw [zpow_add₀ (by norm_num)]
      have both := le_antisymm bounded reaches
      norm_num at both ⊢
      exact both
    have log : Int.log 2 value = exponent + 53 := by
      have cast : ((2 : ℕ) : ℚ) = 2 := by norm_num
      rw [same, ← cast, Int.log_zpow (by decide)]
    refine ⟨2 ^ 52, ?_⟩
    have last : lastBit value = exponent + 1 := by
      unfold lastBit
      omega
    rw [last, same, zpow_add₀ (by norm_num), zpow_add₀ (by norm_num)]
    norm_num
    ring

theorem roundHalfEven_le {value : ℚ} {bound : ℤ} (small : value ≤ bound) : roundHalfEven value ≤ bound := by
  by_contra more
  have reached : bound + 1 ≤ roundHalfEven value := by omega
  rw [le_roundHalfEven] at reached
  push_cast at reached
  cases reached with
  | inl near => linarith
  | inr near => linarith [near.1]

/-- A double is rounded to itself. -/
theorem ofRat_finite {value rounded : ℚ} (read : ofRat value = .finite rounded) : ofRat rounded = .finite rounded := by
  have upward : ∀ {value rounded : ℚ}, ofRat value = .finite rounded → 0 < rounded → ofRat rounded = .finite rounded := by
    intro value rounded read positive
    have nonzero : value ≠ 0 := by
      intro zero
      rw [zero] at read
      simp only [ofRat, if_true, finite.injEq] at read
      exact positive.ne read
    simp only [ofRat, if_neg nonzero] at read
    split at read
    next => cases read
    next bounded =>
      split at read
      next => cases read
      next =>
        rw [finite.injEq] at read
        rw [read, not_le, abs_of_pos positive] at bounded
        have bit : (0 : ℚ) < 2 ^ max (Int.log 2 |value| - 52) (-1074) := zpow_pos (by norm_num) _
        have small := Int.lt_zpow_succ_log_self (R := ℚ) (b := 2) (by decide) |value|
        push_cast at small
        have fewer : roundHalfEven (value / 2 ^ max (Int.log 2 |value| - 52) (-1074)) ≤ 2 ^ 53 := by
          apply roundHalfEven_le
          rw [div_le_iff₀ bit]
          push_cast
          calc value ≤ |value| := le_abs_self value
            _ ≤ 2 ^ (Int.log 2 |value| + 1) := small.le
            _ ≤ 2 ^ (53 + max (Int.log 2 |value| - 52) (-1074)) := by
                apply zpow_le_zpow_right₀ (by norm_num)
                have := le_max_left (Int.log 2 |value| - 52) (-1074)
                omega
            _ = 2 ^ 53 * 2 ^ max (Int.log 2 |value| - 52) (-1074) := by
                rw [zpow_add₀ (by norm_num)]
                norm_num
        obtain ⟨whole, exact⟩ := whole_lastBit positive (le_max_right _ _) fewer read.symm
        apply ofRat_of_round positive positive bounded exact
        rw [sub_self, abs_zero]
        exact div_pos (zpow_pos (by norm_num) _) (by norm_num)
  obtain negative | rfl | positive := lt_trichotomy rounded 0
  · have mirrored := upward (ofRat_neg negative.ne read) (neg_pos.mpr negative)
    have back := ofRat_neg (neg_ne_zero.mpr negative.ne) mirrored
    rwa [neg_neg] at back
  · simp [ofRat]
  · exact upward read positive

theorem isDouble_ofRat (value : ℚ) : (ofRat value).IsDouble := by
  cases read : ofRat value with
  | finite rounded => exact ofRat_finite read
  | negativeZero | nan | infinity => trivial

theorem isDouble_ofChars? {text : List Char} {value : Float64} (read : ofChars? text = some value) : value.IsDouble := by
  have scaled : ∀ {scale? : Option ℤ} {mantissa : Option ℚ} {zero : ℚ → Prop} [DecidablePred zero] {sign : ℚ → ℚ},
      (scale?.bind fun scale => mantissa.map fun value =>
        if zero value then .negativeZero else ofRat (sign value * 10 ^ scale)) = some value → value.IsDouble := by
    intro scale? mantissa zero _ sign read
    rw [Option.bind_eq_some_iff] at read
    obtain ⟨scale, _, read⟩ := read
    rw [Option.map_eq_some_iff] at read
    obtain ⟨mantissa, _, rfl⟩ := read
    split
    · trivial
    · exact isDouble_ofRat _
  simp only [ofChars?] at read
  split_ifs at read with unbounded none negative
  · cases read
    trivial
  · cases read
    trivial
  · exact scaled read
  · exact scaled read

end Rounded

end Float64

namespace JsonReader

open Document Float64

section Sound

/-- What can be held, and written again, but for floats that are not finite. -/
structure Sound (document : Document) : Prop where
  plain : document.plain = true
  genuine : document.genuine = true
  short : document.short = true

theorem sound_list {items : List Document} (each : ∀ item ∈ items, Sound item) : Sound (.list items) where
  plain := by
    rw [Document.list, Document.plain, Bool.not_false, Bool.true_and, plainItems_iff]
    exact fun item member => (each item member).plain
  genuine := by
    rw [Document.list, Document.genuine, genuineItems_iff]
    exact fun item member => (each item member).genuine
  short := by
    rw [Document.list, Document.short, shortItems_iff]
    exact fun item member => (each item member).short

theorem sound_dict {entries : List (String × Document)} (each : ∀ entry ∈ entries, Sound entry.2) :
    Sound (.dict (Dict.ofEntries entries).entries) := by
  have kept : ∀ entry ∈ (Dict.ofEntries entries).entries, Sound entry.2 :=
    fun entry member => each entry (Dict.mem_of_get?_ofEntries (Dict.get?_iff.mpr member))
  constructor
  · rw [Document.dict, Document.plain, Bool.not_false, Bool.true_and, plainEntries_iff]
    exact fun entry member => (kept entry member).plain
  · rw [Document.dict, Document.genuine, Bool.and_eq_true, decide_eq_true_eq, genuineEntries_iff]
    exact ⟨(Dict.ofEntries entries).unique, fun entry member => (kept entry member).genuine⟩
  · rw [Document.dict, Document.short, shortEntries_iff]
    exact fun entry member => (kept entry member).short

theorem ofDigitChars_lt {digits : List Char} (all : ∀ char ∈ digits, char.isDigit = true) :
    Nat.ofDigitChars 10 digits 0 < 10 ^ digits.length := by
  induction digits with
  | nil => exact Nat.one_pos
  | cons char digits ih =>
    rw [List.forall_mem_cons] at all
    have rest := ih all.2
    have single : char.toNat - '0'.toNat ≤ 9 := by
      have bounds := Char.isDigit_iff_toNat.mp all.1
      have zero : '0'.toNat = 48 := rfl
      have nine : '9'.toNat = 57 := rfl
      omega
    rw [Nat.ofDigitChars_cons, Nat.ofDigitChars_eq_ofDigitChars_zero, List.length_cons, pow_succ, Nat.mul_zero, Nat.zero_add]
    have scaled := Nat.mul_le_mul_left (10 ^ digits.length) single
    calc 10 ^ digits.length * (char.toNat - '0'.toNat) + Nat.ofDigitChars 10 digits 0
        < 10 ^ digits.length * 9 + 10 ^ digits.length := by omega
      _ = 10 ^ digits.length * 10 := by ring

theorem sound_numberOf {numeral : Numeral} (some : numeral.whole ≠ []) (all : ∀ char ∈ numeral.whole, char.isDigit = true)
    {document : Document} (read : numberOf numeral = .ok document) : Sound document := by
  unfold numberOf at read
  split at read
  · split at read
    · cases read
    next small =>
      cases read
      refine ⟨rfl, rfl, ?_⟩
      have size : ∀ number : ℕ, (if numeral.negative = true then -(number : ℤ) else number).natAbs = number := by
        intro number
        split
        · rw [Int.natAbs_neg, Int.natAbs_natCast]
        · exact Int.natAbs_natCast number
      rw [Document.short, decide_eq_true_eq, size]
      refine le_trans ?_ (not_lt.mp small)
      exact (Nat.length_toDigits_le_iff (by decide) (List.length_pos_iff.mpr some)).mpr (ofDigitChars_lt all)
  · split at read
    next value found =>
      cases read
      exact ⟨rfl, decide_eq_true (Float64.isDouble_ofChars? found), rfl⟩
    · cases read

theorem scanWhole_digits {text whole rest : List Char} (read : scanWhole text = some (whole, rest)) :
    whole ≠ [] ∧ ∀ char ∈ whole, char.isDigit = true := by
  unfold scanWhole at read
  split at read
  · cases read
  next char more =>
    split at read
    · cases read
      exact ⟨List.cons_ne_nil _ _, fun char member => by rw [List.mem_singleton.mp member]; rfl⟩
    · split at read
      next digit =>
        cases read
        refine ⟨?_, fun char member => List.mem_takeWhile_imp member⟩
        rw [List.takeWhile_cons_of_pos digit]
        exact List.cons_ne_nil _ _
      · cases read

variable {parseConstant : String → Except Issue Document}

theorem sound_scanScalar (constants : ∀ name document, parseConstant name = .ok document → Sound document)
    {text rest : List Char} {document : Document} (read : scanScalar parseConstant text = .ok (document, rest)) :
      Sound document := by
  unfold scanScalar at read
  split at read
  next numeral after found =>
    obtain ⟨number, valued, same⟩ := Checks.map_ok.mp read
    cases same
    simp only [scanNumeral, Option.map_eq_some_iff] at found
    obtain ⟨whole, scanned, same⟩ := found
    cases same
    obtain ⟨some, all⟩ := scanWhole_digits scanned
    exact sound_numberOf some all valued
  · split at read
    next word value found =>
      obtain ⟨number, valued, same⟩ := Checks.map_ok.mp read
      cases same
      have listed := List.mem_of_find?_eq_some found
      simp only [words, List.mem_cons, Prod.mk.injEq, List.not_mem_nil, or_false] at listed
      obtain ⟨_, rfl⟩ | ⟨_, rfl⟩ | ⟨_, rfl⟩ | ⟨_, rfl⟩ | ⟨_, rfl⟩ | ⟨_, rfl⟩ := listed
      · cases valued
        exact ⟨rfl, rfl, rfl⟩
      · cases valued
        exact ⟨rfl, rfl, rfl⟩
      · cases valued
        exact ⟨rfl, rfl, rfl⟩
      · exact constants _ _ valued
      · exact constants _ _ valued
      · exact constants _ _ valued
    · cases read

/-- What is read in so many steps. -/
structure Reads (parseConstant : String → Except Issue Document) (fuel : Nat) : Prop where
  document : ∀ {text document rest}, scan parseConstant fuel text = .ok (document, rest) → Sound document
  items : ∀ {text items rest}, scanItems parseConstant fuel text = .ok (items, rest) → ∀ item ∈ items, Sound item
  entries : ∀ {text entries rest}, scanEntries parseConstant fuel text = .ok (entries, rest) → ∀ entry ∈ entries, Sound entry.2

theorem Reads.scan {fuel : Nat} (reads : Reads parseConstant fuel)
    (constants : ∀ name document, parseConstant name = .ok document → Sound document) {text rest : List Char}
    {document : Document}
    (read : JsonReader.scan parseConstant (fuel + 1) text = .ok (document, rest)) : Sound document := by
  rw [JsonReader.scan.eq_def] at read
  dsimp only at read
  split at read
  · split at read
    · cases read
      exact ⟨rfl, rfl, rfl⟩
    · cases read
  · split at read
    · cases read
      exact sound_list (List.forall_mem_nil _)
    · obtain ⟨inner, scanned, same⟩ := Checks.map_ok.mp read
      cases same
      exact sound_list (reads.items scanned)
  · split at read
    · cases read
      exact ⟨rfl, rfl, rfl⟩
    · obtain ⟨inner, scanned, same⟩ := Checks.map_ok.mp read
      cases same
      exact sound_dict (reads.entries scanned)
  · exact sound_scanScalar constants read

theorem Reads.scanItems {fuel : Nat} (reads : Reads parseConstant fuel) {text rest : List Char} {items : List Document}
    (read : JsonReader.scanItems parseConstant (fuel + 1) text = .ok (items, rest)) : ∀ item ∈ items, Sound item := by
  rw [JsonReader.scanItems.eq_def] at read
  dsimp only at read
  obtain ⟨first, scanned, read⟩ := Checks.bind_ok.mp read
  have sound := reads.document scanned
  split at read
  · cases read
    exact fun item member => List.mem_singleton.mp member ▸ sound
  · obtain ⟨more, others, read⟩ := Checks.bind_ok.mp read
    cases read
    exact List.forall_mem_cons.mpr ⟨sound, reads.items others⟩
  · cases read

theorem Reads.scanEntries {fuel : Nat} (reads : Reads parseConstant fuel) {text rest : List Char}
    {entries : List (String × Document)} (read : JsonReader.scanEntries parseConstant (fuel + 1) text = .ok (entries, rest)) :
    ∀ entry ∈ entries, Sound entry.2 := by
  rw [JsonReader.scanEntries.eq_def] at read
  dsimp only at read
  split at read
  · split at read
    · cases read
    · split at read
      · obtain ⟨first, scanned, read⟩ := Checks.bind_ok.mp read
        have sound := reads.document scanned
        split at read
        · cases read
          exact fun entry member => List.mem_singleton.mp member ▸ sound
        · obtain ⟨more, others, read⟩ := Checks.bind_ok.mp read
          cases read
          exact List.forall_mem_cons.mpr ⟨sound, reads.entries others⟩
        · cases read
      · cases read
  · cases read

theorem reads_sound (constants : ∀ name document, parseConstant name = .ok document → Sound document) (fuel : Nat) :
    Reads parseConstant fuel := by
  induction fuel with
  | zero => exact ⟨fun read => (by cases read), fun read => (by cases read), fun read => (by cases read)⟩
  | succ fuel reads => exact ⟨reads.scan constants, reads.scanItems, reads.scanEntries⟩

/-- Whatever a text says, what is read from it can be held, and written again, but for floats that are not finite. -/
theorem loads_sound (constants : ∀ name document, parseConstant name = .ok document → Sound document) {text : String}
    {document : Document} (read : loads parseConstant text = .ok document) : Sound document := by
  unfold loads at read
  obtain ⟨⟨inner, rest⟩, scanned, read⟩ := Checks.bind_ok.mp read
  dsimp only at read
  split at read
  · cases read
    exact (reads_sound constants _).document scanned
  · cases read

end Sound

end JsonReader
