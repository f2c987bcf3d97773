import Nslab.Library.FloatText
import Nslab.Library.JsonText

/-! Reading JSON texts, as `json.loads` does, and what comes back of the texts that
`json.dumps` writes. -/

namespace JsonReader

open Float64

section Strings

/-- Where a text is read: between characters, after a backslash, or in the digits of an escape. -/
inductive Mode where
  | plain
  | escaped
  | hex (left value : Nat)

def escapes : List (Char × Nat) :=
  [('"', 34), ('\\', 92), ('/', 47), ('b', 8), ('f', 12), ('n', 10), ('r', 13), ('t', 9)]

def found (unit : Nat) (more : List Nat × List Char) : List Nat × List Char := (unit :: more.1, more.2)

/-- The code units of a string up to its closing quote, and what follows it. -/
def scanUnits (mode : Mode) : List Char → Option (List Nat × List Char)
  | [] => none
  | char :: rest => match mode with
    | .plain =>
      if char = '"' then some ([], rest)
      else if char = '\\' then scanUnits .escaped rest
      else if char.toNat < 32 then none
      else (scanUnits .plain rest).map (found char.toNat)
    | .escaped =>
      if char = 'u' then scanUnits (.hex 4 0) rest
      else (escapes.lookup char).bind fun unit => (scanUnits .plain rest).map (found unit)
    | .hex left value => (Text.hexValue? char).bind fun digit =>
      if left ≤ 1 then (scanUnits .plain rest).map (found (value * 16 + digit))
      else scanUnits (.hex (left - 1) (value * 16 + digit)) rest

def isHigh (unit : Nat) : Bool := 55296 ≤ unit && unit < 56320

def isLow (unit : Nat) : Bool := 56320 ≤ unit && unit < 57344

/-- Pairs of surrogates are one character. A text cannot hold one that stands alone. -/
def joinUnits : List Nat → Option (List Char)
  | [] => some []
  | unit :: rest =>
    match rest with
    | low :: others =>
      if isHigh unit && isLow low then
        (joinUnits others).map (Char.ofNat (65536 + (unit - 55296) * 1024 + (low - 56320)) :: ·)
      else if isHigh unit || isLow unit then none
      else (joinUnits (low :: others)).map (Char.ofNat unit :: ·)
    | [] => if isHigh unit || isLow unit then none else some [Char.ofNat unit]

/-- A string after its opening quote. -/
def scanString (text : List Char) : Option (String × List Char) :=
  (scanUnits .plain text).bind fun (units, rest) => (joinUnits units).map fun chars => (String.ofList chars, rest)

end Strings

section Numbers

def scanWhole (text : List Char) : Option (List Char × List Char) :=
  match text with
  | [] => none
  | char :: rest =>
    if char = '0' then some (['0'], rest)
    else if char.isDigit then some (text.takeWhile Char.isDigit, text.dropWhile Char.isDigit)
    else none

def scanFraction (text : List Char) : List Char × List Char :=
  match text with
  | '.' :: rest =>
    if rest.takeWhile Char.isDigit = [] then ([], text) else (rest.takeWhile Char.isDigit, rest.dropWhile Char.isDigit)
  | _ => ([], text)

def scanExponent (text : List Char) : Option (Bool × List Char) × List Char :=
  match text with
  | [] => (none, text)
  | char :: rest =>
    if char = 'e' ∨ char = 'E' then
      let (down, digits) := signed rest
      if digits.takeWhile Char.isDigit = [] then (none, text)
      else (some (down, digits.takeWhile Char.isDigit), digits.dropWhile Char.isDigit)
    else (none, text)

def scanSign (text : List Char) : Bool × List Char :=
  match text with
  | '-' :: rest => (true, rest)
  | _ => (false, text)

/-- The numeral in front of a text. -/
def scanNumeral (text : List Char) : Option (Numeral × List Char) :=
  let (negative, body) := scanSign text
  (scanWhole body).map fun (whole, rest) =>
    let (fraction, rest) := scanFraction rest
    let (exponent, rest) := scanExponent rest
    (⟨negative, whole, fraction, exponent⟩, rest)

end Numbers

/-- Why a text is not read. -/
inductive Issue where
  | malformed
  | constant (name : String)
  | tooLong (digits : Nat)
deriving DecidableEq

section Documents

/-- An integer, or a float where there is a fraction or an exponent. -/
def numberOf (numeral : Numeral) : Except Issue Document :=
  if numeral.fraction = [] ∧ numeral.exponent = none then
    if JsonText.maxDigits < numeral.whole.length then .error (.tooLong numeral.whole.length)
    else
      let size : Int := Nat.ofDigitChars 10 numeral.whole 0
      .ok (.int (if numeral.negative then -size else size))
  else match ofChars? numeral.chars with
    | some value => .ok (.float value)
    | none => .error .malformed

variable (parseConstant : String → Except Issue Document)

/-- The words that are documents, and those that `parse_constant` reads. -/
def words : List (String × Except Issue Document) :=
  [("null", .ok .null), ("true", .ok (.bool true)), ("false", .ok (.bool false)), ("NaN", parseConstant "NaN"),
    ("Infinity", parseConstant "Infinity"), ("-Infinity", parseConstant "-Infinity")]

def scanScalar (text : List Char) : Except Issue (Document × List Char) :=
  match scanNumeral text with
  | some (numeral, rest) => (numberOf numeral).map fun number => (number, rest)
  | none => match (words parseConstant).find? fun word => word.1.toList.isPrefixOf text with
    | some (word, document) => document.map fun document => (document, text.drop word.toList.length)
    | none => .error .malformed

def isBlank (char : Char) : Bool := char = ' ' || char = '\t' || char = '\n' || char = '\r'

def skipBlanks (text : List Char) : List Char := text.dropWhile isBlank

mutual
/-- The document in front of a text, and what follows it. -/
def scan : Nat → List Char → Except Issue (Document × List Char)
  | 0, _ => .error .malformed
  | fuel + 1, text => match text with
    | '"' :: rest => match scanString rest with
      | some (value, rest) => .ok (.str value, rest)
      | none => .error .malformed
    | '[' :: rest => match skipBlanks rest with
      | ']' :: rest => .ok (.list [], rest)
      | rest => (scanItems fuel rest).map fun (items, rest) => (.list items, rest)
    | '\x7b' :: rest => match skipBlanks rest with
      | '\x7d' :: rest => .ok (.dict [], rest)
      | rest => (scanEntries fuel rest).map fun (entries, rest) => (.dict (Dict.ofEntries entries).entries, rest)
    | text => scanScalar parseConstant text
termination_by structural fuel => fuel

def scanItems : Nat → List Char → Except Issue (List Document × List Char)
  | 0, _ => .error .malformed
  | fuel + 1, text => do
    let (item, rest) ← scan fuel text
    match skipBlanks rest with
    | ']' :: rest => pure ([item], rest)
    | ',' :: rest => do
      let (items, rest) ← scanItems fuel (skipBlanks rest)
      pure (item :: items, rest)
    | _ => .error .malformed
termination_by structural fuel => fuel

def scanEntries : Nat → List Char → Except Issue (List (String × Document) × List Char)
  | 0, _ => .error .malformed
  | fuel + 1, text => match text with
    | '"' :: rest => match scanString rest with
      | none => .error .malformed
      | some (key, rest) => match skipBlanks rest with
        | ':' :: rest => do
          let (value, rest) ← scan fuel (skipBlanks rest)
          match skipBlanks rest with
          | '\x7d' :: rest => pure ([(key, value)], rest)
          | ',' :: rest => do
            let (entries, rest) ← scanEntries fuel (skipBlanks rest)
            pure ((key, value) :: entries, rest)
          | _ => .error .malformed
        | _ => .error .malformed
    | _ => .error .malformed
termination_by structural fuel => fuel
end

/-- `json.loads(text, parse_constant=parseConstant)`. -/
def loads (text : String) : Except Issue Document := do
  let text := skipBlanks text.toList
  let (document, rest) ← scan parseConstant (text.length + 1) text
  if skipBlanks rest = [] then pure document else .error .malformed

end Documents

section Quoting

variable {ascii : Bool} {rest : List Char}

theorem scan_escapeUnit {unit : Nat} (small : unit < 65536) :
    scanUnits .plain (JsonText.escapeUnit unit ++ rest) = (scanUnits .plain rest).map (found unit) := by
  have digits : Text.toBase 16 4 unit = [unit / 16 / 16 / 16 % 16, unit / 16 / 16 % 16, unit / 16 % 16, unit % 16] := by
    simp [Text.toBase]
  have read : ∀ number, Text.hexValue? (Nat.digitChar (number % 16)) = some (number % 16) := fun number =>
    Text.hexValue?_digitChar (Nat.mod_lt _ (by decide))
  have value : (((0 * 16 + unit / 16 / 16 / 16 % 16) * 16 + unit / 16 / 16 % 16) * 16 + unit / 16 % 16) * 16 + unit % 16 = unit := by
    omega
  simp only [JsonText.escapeUnit, digits, List.map_cons, List.map_nil, List.cons_append, List.nil_append]
  simp only [scanUnits, read, Option.bind_some, value]
  rfl

/-- The code units that an escaped character is written in. -/
def pieces (ascii : Bool) (char : Char) : List Nat :=
  if ascii = true ∧ 65536 ≤ char.toNat then
    [55296 + (char.toNat - 65536) / 1024, 56320 + (char.toNat - 65536) % 1024]
  else [char.toNat]

def prepend (units : List Nat) (more : List Nat × List Char) : List Nat × List Char := (units ++ more.1, more.2)

theorem toNat_lt (char : Char) : char.toNat < 1114112 := by
  rcases char.valid with small | large
  · exact small.trans (by decide)
  · exact large.2

/-- A character is written with a short escape, with one or two long ones, or as it is. -/
inductive Written (ascii : Bool) (char : Char) : List Char → Prop where
  | short {name : Char} (listed : escapes.lookup name = some char.toNat) (plain : name ≠ 'u') (small : char.toNat < 65536) :
      Written ascii char ['\\', name]
  | long (small : char.toNat < 65536) : Written ascii char (JsonText.escapeUnit char.toNat)
  | itself (quote : char ≠ '"') (backslash : char ≠ '\\') (printable : ¬ char.toNat < 32)
      (single : pieces ascii char = [char.toNat]) : Written ascii char [char]
  | pair (large : 65536 ≤ char.toNat) (escaped : ascii = true) :
      Written ascii char (JsonText.escapeUnit (55296 + (char.toNat - 65536) / 1024) ++
        JsonText.escapeUnit (56320 + (char.toNat - 65536) % 1024))

theorem pieces_small {char : Char} (small : char.toNat < 65536) : pieces ascii char = [char.toNat] := by
  rw [pieces, if_neg (by omega)]

theorem escapeChar_written (char : Char) : Written ascii char (JsonText.escapeChar ascii char) := by
  unfold JsonText.escapeChar
  by_cases quote : char = '"'
  · rw [if_pos quote]
    subst quote
    exact .short (by decide) (by decide) (by decide)
  by_cases backslash : char = '\\'
  · rw [if_neg quote, if_pos backslash]
    subst backslash
    exact .short (by decide) (by decide) (by decide)
  rw [if_neg quote, if_neg backslash]
  by_cases listed : char ∈ ['\n', '\r', '\t', Char.ofNat 8, Char.ofNat 12]
  · simp only [List.mem_cons, List.not_mem_nil, or_false] at listed
    rcases listed with rfl | rfl | rfl | rfl | rfl
    · exact @Written.short ascii _ 'n' (by decide) (by decide) (by decide)
    · exact @Written.short ascii _ 'r' (by decide) (by decide) (by decide)
    · exact @Written.short ascii _ 't' (by decide) (by decide) (by decide)
    · exact @Written.short ascii _ 'b' (by decide) (by decide) (by decide)
    · exact @Written.short ascii _ 'f' (by decide) (by decide) (by decide)
  · have others : ∀ unit : Nat, Char.ofNat unit ∈ ['\n', '\r', '\t', Char.ofNat 8, Char.ofNat 12] → char.toNat ≠ unit := by
      intro unit member same
      rw [← same, Char.ofNat_toNat] at member
      exact listed member
    have eight := others 8 (by decide)
    have twelve := others 12 (by decide)
    simp only [List.mem_cons, not_or] at listed
    rw [if_neg listed.1, if_neg listed.2.1, if_neg listed.2.2.1, if_neg eight, if_neg twelve]
    split
    next control => exact .long (by omega)
    next printable =>
      split
      next kept =>
        refine .itself quote backslash printable ?_
        cases kept with
        | inl raw => rw [pieces, if_neg (by simp [raw])]
        | inr small => exact pieces_small (by omega)
      next escaped =>
        rw [not_or, Bool.not_eq_false] at escaped
        split
        next small => exact .long small
        next large => exact .pair (by omega) escaped.1

theorem scan_escapeChar (char : Char) :
    scanUnits .plain (JsonText.escapeChar ascii char ++ rest) = (scanUnits .plain rest).map (prepend (pieces ascii char)) := by
  have few := toNat_lt char
  have written := @escapeChar_written ascii char
  generalize JsonText.escapeChar ascii char = text at written ⊢
  cases written with
  | short listed plain small =>
    rw [pieces_small small]
    simp only [List.cons_append, List.nil_append, scanUnits, Char.reduceEq, if_false, if_true, if_neg plain, listed,
      Option.bind_some]
    rfl
  | long small =>
    rw [pieces_small small, scan_escapeUnit small]
    rfl
  | itself quote backslash printable single =>
    rw [single]
    simp only [List.cons_append, List.nil_append, scanUnits, if_neg quote, if_neg backslash, if_neg printable]
    rfl
  | pair large escaped =>
    rw [pieces, if_pos ⟨escaped, large⟩, List.append_assoc, scan_escapeUnit (by omega), scan_escapeUnit (by omega), Option.map_map]
    rfl

theorem joinUnits_cons {unit : Nat} {units : List Nat} (high : isHigh unit = false) (low : isLow unit = false) :
    joinUnits (unit :: units) = (joinUnits units).map (Char.ofNat unit :: ·) := by
  cases units with
  | nil => simp [joinUnits, high, low]
  | cons next others => rw [joinUnits]; simp [high, low]

theorem joinUnits_pieces {char : Char} {units : List Nat} :
    joinUnits (pieces ascii char ++ units) = (joinUnits units).map (char :: ·) := by
  have few := toNat_lt char
  unfold pieces
  split
  next pair =>
    have value : 65536 + (55296 + (char.toNat - 65536) / 1024 - 55296) * 1024 +
        (56320 + (char.toNat - 65536) % 1024 - 56320) = char.toNat := by omega
    have high : isHigh (55296 + (char.toNat - 65536) / 1024) = true := by
      simp only [isHigh, Bool.and_eq_true, decide_eq_true_eq]
      omega
    have low : isLow (56320 + (char.toNat - 65536) % 1024) = true := by
      simp only [isLow, Bool.and_eq_true, decide_eq_true_eq]
      omega
    simp only [List.cons_append, List.nil_append, joinUnits, high, low, Bool.and_self, if_true, value, Char.ofNat_toNat]
  next =>
    have valid : char.toNat < 55296 ∨ 57343 < char.toNat := by
      rcases char.valid with small | large
      · exact .inl small
      · exact .inr large.1
    have high : isHigh char.toNat = false := by
      simp only [isHigh, Bool.and_eq_false_iff, decide_eq_false_iff_not]
      omega
    have low : isLow char.toNat = false := by
      simp only [isLow, Bool.and_eq_false_iff, decide_eq_false_iff_not]
      omega
    rw [List.singleton_append, joinUnits_cons high low, Char.ofNat_toNat]

/-- Reading a quoted text gives the text. -/
theorem scanString_quote (text : String) :
    ∃ body, JsonText.quote ascii text = '"' :: body ∧ scanString (body ++ rest) = some (text, rest) := by
  have units : ∀ chars : List Char, scanUnits .plain (chars.flatMap (JsonText.escapeChar ascii) ++ '"' :: rest) =
      some (chars.flatMap (pieces ascii), rest) := by
    intro chars
    induction chars with
    | nil => rfl
    | cons char chars ih =>
      rw [List.flatMap_cons, List.append_assoc, scan_escapeChar, ih]
      rfl
  have joined : ∀ chars : List Char, joinUnits (chars.flatMap (pieces ascii)) = some chars := by
    intro chars
    induction chars with
    | nil => rfl
    | cons char chars ih => rw [List.flatMap_cons, joinUnits_pieces, ih, Option.map_some]
  refine ⟨text.toList.flatMap (JsonText.escapeChar ascii) ++ ['"'], rfl, ?_⟩
  rw [List.append_assoc, List.singleton_append, scanString, units]
  simp [joined]

end Quoting

section Numbering

/-- What can follow a number: nothing that would be part of it. -/
def Delimits (rest : List Char) : Prop := ∀ char ∈ rest.head?, char ∈ [',', '\n', ']', '\x7d']

variable {rest : List Char}

theorem Delimits.apart (delimits : Delimits rest) :
    ∀ char ∈ rest.head?, char.isDigit = false ∧ char ≠ '.' ∧ char ≠ 'e' ∧ char ≠ 'E' := by
  have all : ∀ char ∈ [',', '\n', ']', '\x7d'], char.isDigit = false ∧ char ≠ '.' ∧ char ≠ 'e' ∧ char ≠ 'E' := by simp
  exact fun char first => all char (delimits char first)

theorem scanWhole_run {whole tail : List Char} (some : whole ≠ []) (digits : ∀ char ∈ whole, char.isDigit = true)
    (leading : whole.head? = .some '0' → whole = ['0']) (stops : ∀ char ∈ tail.head?, char.isDigit = false) :
    scanWhole (whole ++ tail) = .some (whole, tail) := by
  obtain ⟨front, back⟩ := Numeral.span_run digits stops
  obtain ⟨char, others, shape⟩ := List.exists_cons_of_ne_nil some
  by_cases zero : char = '0'
  · rw [leading (by rw [shape, zero]; rfl)]
    rfl
  · have digit := digits char (by simp [shape])
    rw [shape, List.cons_append] at front back ⊢
    rw [scanWhole]
    simp only [if_neg zero, digit, if_true, front, back]

theorem scanFraction_run {fraction tail : List Char} (digits : ∀ char ∈ fraction, char.isDigit = true)
    (stops : ∀ char ∈ tail.head?, char.isDigit = false ∧ char ≠ '.') :
    scanFraction ((if fraction = [] then [] else '.' :: fraction) ++ tail) = (fraction, tail) := by
  by_cases none : fraction = []
  · rw [none, if_pos rfl, List.nil_append]
    unfold scanFraction
    split
    next rest => exact absurd rfl (stops '.' rfl).2
    next => rfl
  · obtain ⟨front, back⟩ := Numeral.span_run digits fun char first => (stops char first).1
    simp only [if_neg none, List.cons_append, scanFraction, front, back]

theorem signed_run (down : Bool) (digits : List Char) : signed ((if down then '-' else '+') :: digits) = (down, digits) := by
  cases down <;> rfl

theorem scanExponent_run {exponent : Option (Bool × List Char)} (delimits : Delimits rest)
    (digits : ∀ down digits, exponent = some (down, digits) → digits ≠ [] ∧ ∀ char ∈ digits, char.isDigit = true) :
    scanExponent (Numeral.exponentChars exponent ++ rest) = (exponent, rest) := by
  cases exponent with
  | none =>
    rw [Numeral.exponentChars, List.nil_append]
    cases rest with
    | nil => rfl
    | cons char rest =>
      obtain ⟨_, _, lower, upper⟩ := delimits.apart char rfl
      rw [scanExponent, if_neg (not_or.mpr ⟨lower, upper⟩)]
  | some exponent =>
    obtain ⟨down, size⟩ := exponent
    obtain ⟨some, all⟩ := digits down size rfl
    obtain ⟨front, back⟩ := Numeral.span_run all fun char first => (delimits.apart char first).1
    simp only [Numeral.exponentChars, List.cons_append, scanExponent, true_or, if_true, signed_run, front, back, if_neg some]

/-- Reading a numeral in front of what does not belong to it gives the numeral. -/
theorem scanNumeral_chars {numeral : Numeral} (formed : numeral.WellFormed) (delimits : Delimits rest) :
    scanNumeral (numeral.chars ++ rest) = some (numeral, rest) := by
  obtain ⟨whole, fraction⟩ := List.forall_mem_append.mp formed.digits
  have sign : scanSign (numeral.chars ++ rest) = (numeral.negative, numeral.whole ++
      ((if numeral.fraction = [] then [] else '.' :: numeral.fraction) ++ (Numeral.exponentChars numeral.exponent ++ rest))) := by
    obtain ⟨char, others, shape⟩ := List.exists_cons_of_ne_nil formed.whole
    obtain ⟨_, _, _, minus, _⟩ := Numeral.isDigit_apart (whole char (by simp [shape]))
    unfold Numeral.chars Numeral.mantissaChars
    cases numeral.negative with
    | true => simp [scanSign]
    | false => simp [scanSign, shape, minus]
  have exponent : ∀ char ∈ (Numeral.exponentChars numeral.exponent ++ rest).head?, char.isDigit = false ∧ char ≠ '.' := by
    cases numeral.exponent with
    | none =>
      intro char first
      obtain ⟨digit, point, _⟩ := delimits.apart char first
      exact ⟨digit, point⟩
    | some exponent => simp [Numeral.exponentChars]
  have tail : ∀ char ∈ ((if numeral.fraction = [] then [] else '.' :: numeral.fraction) ++
      (Numeral.exponentChars numeral.exponent ++ rest)).head?, char.isDigit = false := by
    by_cases none : numeral.fraction = []
    · rw [if_pos none, List.nil_append]
      exact fun char first => (exponent char first).1
    · rw [if_neg none]
      simp
  simp only [scanNumeral, sign, scanWhole_run formed.whole whole formed.leading tail, Option.map_some,
    scanFraction_run fraction exponent, scanExponent_run delimits formed.exponent]

/-- The numeral of an integer. -/
def numeralOf (value : Int) : Numeral := ⟨decide (value < 0), Nat.toDigits 10 value.natAbs, [], none⟩

theorem numeralOf_formed (value : Int) : (numeralOf value).WellFormed where
  whole := Nat.toDigits_ne_nil
  digits := by
    intro char member
    rw [numeralOf, List.append_nil] at member
    exact Nat.isDigit_of_mem_toDigits (by decide) (by decide) member
  leading := by
    intro zero
    by_cases none : value.natAbs = 0
    · rw [numeralOf, none, Nat.toDigits_zero]
    · exact absurd zero (head_toDigits (by omega))
  exponent := by simp [numeralOf]

theorem numeralOf_chars (value : Int) : (toString value).toList = (numeralOf value).chars := by
  change (Int.repr value).toList = _
  cases value with
  | ofNat number => simp [Int.repr, Nat.repr, numeralOf, Numeral.chars, Numeral.mantissaChars, Numeral.exponentChars]
  | negSucc number =>
    simp [Int.repr, Nat.repr, numeralOf, Numeral.chars, Numeral.mantissaChars, Numeral.exponentChars]

theorem numberOf_numeralOf {value : Int} (short : (Nat.toDigits 10 value.natAbs).length ≤ JsonText.maxDigits) :
    numberOf (numeralOf value) = .ok (.int value) := by
  have size : (if decide (value < 0) = true then -(value.natAbs : ℤ) else value.natAbs) = value := by
    simp only [decide_eq_true_eq]
    omega
  simp only [numberOf, numeralOf, and_self, if_true, if_neg (not_lt.mpr short), Nat.ofDigitChars_ten_toDigits, size]

end Numbering

end JsonReader

namespace Document

section Genuine

mutual
/-- A document that a program can hold: no mapping has a key twice, and a float is a double. -/
def genuine : Document → Bool
  | .sequence _ items => genuineItems items
  | .mapping _ entries => decide (entries.map Prod.fst).Nodup && genuineEntries entries
  | .null => true
  | .bool _ => true
  | .int _ => true
  | .float value => decide value.IsDouble
  | .str _ => true
termination_by structural document => document

def genuineItems : List Document → Bool
  | [] => true
  | item :: items => item.genuine && genuineItems items
termination_by structural items => items

def genuineEntries : List (String × Document) → Bool
  | [] => true
  | (_, value) :: entries => value.genuine && genuineEntries entries
termination_by structural entries => entries
end

mutual
/-- No integer of the document has more digits than are written. -/
def short : Document → Bool
  | .sequence _ items => shortItems items
  | .mapping _ entries => shortEntries entries
  | .null => true
  | .bool _ => true
  | .int value => decide ((Nat.toDigits 10 value.natAbs).length ≤ JsonText.maxDigits)
  | .float _ => true
  | .str _ => true
termination_by structural document => document

def shortItems : List Document → Bool
  | [] => true
  | item :: items => item.short && shortItems items
termination_by structural items => items

def shortEntries : List (String × Document) → Bool
  | [] => true
  | (_, value) :: entries => value.short && shortEntries entries
termination_by structural entries => entries
end

@[simp] theorem genuineItems_iff {items : List Document} :
    genuineItems items = true ↔ ∀ item ∈ items, item.genuine = true := by
  induction items with
  | nil => simp [genuineItems]
  | cons item items ih => simp [genuineItems, ih]

@[simp] theorem genuineEntries_iff {entries : List (String × Document)} :
    genuineEntries entries = true ↔ ∀ entry ∈ entries, entry.2.genuine = true := by
  induction entries with
  | nil => simp [genuineEntries]
  | cons entry entries ih => simp [genuineEntries, ih]

@[simp] theorem shortItems_iff {items : List Document} : shortItems items = true ↔ ∀ item ∈ items, item.short = true := by
  induction items with
  | nil => simp [shortItems]
  | cons item items ih => simp [shortItems, ih]

@[simp] theorem shortEntries_iff {entries : List (String × Document)} :
    shortEntries entries = true ↔ ∀ entry ∈ entries, entry.2.short = true := by
  induction entries with
  | nil => simp [shortEntries]
  | cons entry entries ih => simp [shortEntries, ih]

/-- A document of which the text reads back as the document. -/
structure Legible (document : Document) : Prop where
  plain : document.plain = true
  finite : document.finite = true
  genuine : document.genuine = true
  short : document.short = true

theorem keys_reshape (entries : List (String × Document)) (sorted frozen : Bool) :
    ((entries.map fun entry => (entry.1, entry.2.reshape sorted frozen)).map Prod.fst) = entries.map Prod.fst := by
  rw [List.map_map]
  rfl

mutual
/-- Neither the order of keys nor the type of containers matters for what a program can hold and write. -/
theorem genuine_reshape (document : Document) (sorted frozen : Bool) :
    ((document.reshape sorted frozen).genuine = true ↔ document.genuine = true) ∧
      ((document.reshape sorted frozen).short = true ↔ document.short = true) := by
  match document with
  | .sequence _ items => simpa [reshape, genuine, short] using items_genuine items sorted frozen
  | .mapping _ entries =>
    obtain ⟨genuineValues, shortValues⟩ := entries_genuine entries sorted frozen
    have keys := keys_reshape entries sorted frozen
    cases sorted with
    | false =>
      simp only [reshape, genuine, short, Bool.false_eq_true, if_false, reshapeEntries_eq, genuineEntries_iff, shortEntries_iff,
        List.forall_mem_map, Bool.and_eq_true, decide_eq_true_eq, keys]
      exact ⟨and_congr Iff.rfl genuineValues, shortValues⟩
    | true =>
      have perm := Dict.sortEntries_perm (entries.map fun entry => (entry.1, entry.2.reshape true frozen))
      simp only [reshape, genuine, short, if_true, reshapeEntries_eq, genuineEntries_iff, shortEntries_iff,
        perm.mem_iff, (perm.map Prod.fst).nodup_iff, List.forall_mem_map, Bool.and_eq_true, decide_eq_true_eq, keys]
      exact ⟨and_congr Iff.rfl genuineValues, shortValues⟩
  | .null | .bool _ | .int _ | .float _ | .str _ => exact ⟨Iff.rfl, Iff.rfl⟩

theorem items_genuine (items : List Document) (sorted frozen : Bool) :
    ((∀ item ∈ items, (item.reshape sorted frozen).genuine = true) ↔ ∀ item ∈ items, item.genuine = true) ∧
      ((∀ item ∈ items, (item.reshape sorted frozen).short = true) ↔ ∀ item ∈ items, item.short = true) := by
  match items with
  | [] => simp
  | item :: rest =>
    obtain ⟨first, firstShort⟩ := genuine_reshape item sorted frozen
    obtain ⟨others, othersShort⟩ := items_genuine rest sorted frozen
    simp only [List.forall_mem_cons, first, firstShort, others, othersShort, and_self]

theorem entries_genuine (entries : List (String × Document)) (sorted frozen : Bool) :
    ((∀ entry ∈ entries, (entry.2.reshape sorted frozen).genuine = true) ↔ ∀ entry ∈ entries, entry.2.genuine = true) ∧
      ((∀ entry ∈ entries, (entry.2.reshape sorted frozen).short = true) ↔ ∀ entry ∈ entries, entry.2.short = true) := by
  match entries with
  | [] => simp
  | entry :: rest =>
    obtain ⟨first, firstShort⟩ := genuine_reshape entry.2 sorted frozen
    obtain ⟨others, othersShort⟩ := entries_genuine rest sorted frozen
    simp only [List.forall_mem_cons, first, firstShort, others, othersShort, and_self]
end

/-- What is finite, genuine and short is legible once its containers are plain. -/
theorem legible_reshape {document : Document} (finite : document.finite = true) (genuine : document.genuine = true)
    (short : document.short = true) (sorted : Bool) : (document.reshape sorted false).Legible where
  plain := plain_reshape document sorted
  finite := (finite_reshape document sorted false).mpr finite
  genuine := (genuine_reshape document sorted false).1.mpr genuine
  short := (genuine_reshape document sorted false).2.mpr short

theorem legible_sequence {frozen : Bool} {items : List Document} (legible : (Document.sequence frozen items).Legible) :
    frozen = false ∧ ∀ item ∈ items, item.Legible := by
  obtain ⟨plain, finite, genuine, short⟩ := legible
  rw [plain_sequence] at plain
  rw [Document.finite, finiteItems_iff] at finite
  rw [Document.genuine, genuineItems_iff] at genuine
  rw [Document.short, shortItems_iff] at short
  exact ⟨plain.1, fun item member => ⟨plain.2 item member, finite item member, genuine item member, short item member⟩⟩

theorem legible_mapping {frozen : Bool} {entries : List (String × Document)} (legible : (Document.mapping frozen entries).Legible) :
    frozen = false ∧ (entries.map Prod.fst).Nodup ∧ ∀ entry ∈ entries, entry.2.Legible := by
  obtain ⟨plain, finite, genuine, short⟩ := legible
  rw [plain_mapping] at plain
  rw [Document.finite, finiteEntries_iff] at finite
  rw [Document.genuine, Bool.and_eq_true, decide_eq_true_eq, genuineEntries_iff] at genuine
  rw [Document.short, shortEntries_iff] at short
  exact ⟨plain.1, genuine.1,
    fun entry member => ⟨plain.2 entry member, finite entry member, genuine.2 entry member, short entry member⟩⟩

/-- A finite number is equal to itself. -/
theorem same_self {value : Float64} (finite : value.isFinite = true) : value.same value = true := by
  cases value with
  | finite value => simp [Float64.same, Float64.rational?]
  | negativeZero => simp [Float64.same, Float64.rational?]
  | nan => cases finite
  | infinity negative => cases finite

theorem lookup_of_mem {entries : List (String × Document)} (distinct : (entries.map Prod.fst).Nodup) {entry : String × Document}
    (member : entry ∈ entries) : entries.lookup entry.1 = some entry.2 :=
  Dict.get?_iff.mpr (show entry ∈ (Dict.mk entries distinct).entries from member)

theorem sameEntries_iff {left right : List (String × Document)} :
    sameEntries left right = true ↔ ∀ entry ∈ left, (right.lookup entry.1).any entry.2.same = true := by
  induction left with
  | nil => simp [sameEntries]
  | cons entry left ih => rw [sameEntries, Bool.and_eq_true, ih, List.forall_mem_cons]

/-- The entries of a mapping, in order or not, and reshaped. -/
theorem mapping_reshape (entries : List (String × Document)) (constant sorted frozen : Bool) :
    ∃ arranged, (Document.mapping constant entries).reshape sorted frozen = .mapping frozen arranged ∧
      arranged.Perm (entries.map fun entry => (entry.1, entry.2.reshape sorted frozen)) := by
  cases sorted with
  | false => exact ⟨_, by rw [reshape, reshapeEntries_eq]; rfl, List.Perm.refl _⟩
  | true => exact ⟨_, by rw [reshape, reshapeEntries_eq]; rfl, Dict.sortEntries_perm _⟩

mutual
/-- A finite document with its keys in order is equal to the document, whatever its mappings are,
as long as its sequences have the same type. -/
theorem same_sorted {document : Document} (finite : document.finite = true) (genuine : document.genuine = true)
    (frozen first second : Bool) : (document.reshape first frozen).same (document.reshape second frozen) = true := by
  match document with
  | .null => rfl
  | .bool value => exact @same_self (.finite (if value then 1 else 0)) rfl
  | .int value => exact @same_self (.finite value) rfl
  | .float value => exact same_self finite
  | .str value => simp [reshape, same, beq]
  | .sequence _ items =>
    rw [Document.finite, finiteItems_iff] at finite
    rw [Document.genuine, genuineItems_iff] at genuine
    simp only [reshape, reshapeItems_eq, same, beq_self_eq_true, Bool.true_and]
    exact items_same finite genuine frozen first second
  | .mapping constant entries =>
    rw [Document.finite, finiteEntries_iff] at finite
    rw [Document.genuine, Bool.and_eq_true, decide_eq_true_eq, genuineEntries_iff] at genuine
    obtain ⟨left, leftShape, leftPerm⟩ := mapping_reshape entries constant first frozen
    obtain ⟨right, rightShape, rightPerm⟩ := mapping_reshape entries constant second frozen
    have distinct : (right.map Prod.fst).Nodup := by
      rw [(rightPerm.map Prod.fst).nodup_iff, keys_reshape]
      exact genuine.1
    rw [leftShape, rightShape, same, Bool.and_eq_true, beq_iff_eq, sameEntries_iff]
    refine ⟨by rw [leftPerm.length_eq, rightPerm.length_eq, List.length_map, List.length_map], ?_⟩
    intro entry member
    obtain ⟨original, among, rfl⟩ := List.mem_map.mp (leftPerm.mem_iff.mp member)
    have listed : (original.1, original.2.reshape second frozen) ∈ right :=
      rightPerm.mem_iff.mpr (List.mem_map.mpr ⟨original, among, rfl⟩)
    rw [lookup_of_mem distinct listed, Option.any_some]
    exact entries_same finite genuine.2 frozen first second original among

theorem items_same {items : List Document} (finite : ∀ item ∈ items, item.finite = true)
    (genuine : ∀ item ∈ items, item.genuine = true) (frozen first second : Bool) :
    sameItems (items.map (reshape first frozen)) (items.map (reshape second frozen)) = true := by
  match items with
  | [] => rfl
  | item :: rest =>
    rw [List.forall_mem_cons] at finite genuine
    simp only [List.map_cons, sameItems, same_sorted finite.1 genuine.1, items_same finite.2 genuine.2, Bool.and_self]

theorem entries_same {entries : List (String × Document)} (finite : ∀ entry ∈ entries, entry.2.finite = true)
    (genuine : ∀ entry ∈ entries, entry.2.genuine = true) (frozen first second : Bool) :
    ∀ entry ∈ entries, (entry.2.reshape first frozen).same (entry.2.reshape second frozen) = true := by
  match entries with
  | [] => exact List.forall_mem_nil _
  | entry :: rest =>
    rw [List.forall_mem_cons] at finite genuine ⊢
    exact ⟨same_sorted finite.1 genuine.1 frozen first second, entries_same finite.2 genuine.2 frozen first second⟩
end

end Genuine

end Document

namespace JsonReader

open Float64 JsonText

section Reading

variable {parseConstant : String → Except Issue Document} {ascii : Bool} {depth : Nat} {rest : List Char}

theorem skip_newline (depth : Nat) (text : List Char) : skipBlanks (newline depth ++ text) = skipBlanks text := by
  have blank : ∀ char ∈ newline depth, isBlank char = true := by
    intro char member
    rcases List.mem_cons.mp member with rfl | space
    · decide
    · rw [List.eq_of_mem_replicate space]
      decide
  rw [skipBlanks, List.dropWhile_append_of_pos blank, skipBlanks]

theorem skip_cons {char : Char} (text : List Char) (visible : isBlank char = false) : skipBlanks (char :: text) = char :: text := by
  rw [skipBlanks, List.dropWhile_cons_of_neg (by simp [visible])]

/-- The first character of a text that is a document: neither a blank nor a closing bracket. -/
def Opens (text : List Char) : Prop := ∃ char more, text = char :: more ∧ isBlank char = false ∧ char ≠ ']' ∧ char ≠ '\x7d'

theorem opens_digit {char : Char} (more : List Char) (first : char.isDigit = true ∨ char = '-') : Opens (char :: more) := by
  refine ⟨char, more, rfl, ?_⟩
  have all : ∀ char ∈ '-' :: "0123456789".toList, isBlank char = false ∧ char ≠ ']' ∧ char ≠ '\x7d' := by simp [isBlank]
  rcases first with digit | rfl
  · exact all char (List.mem_cons_of_mem _ (Numeral.isDigit_cases digit))
  · exact all '-' List.mem_cons_self

theorem numeral_first {numeral : Numeral} (formed : numeral.WellFormed) :
    ∃ char more, numeral.chars = char :: more ∧ (char.isDigit = true ∨ char = '-') := by
  obtain ⟨char, more, shape, digit⟩ := Numeral.first_digit formed
  cases sign : numeral.negative with
  | true => exact ⟨'-', _, by simp [Numeral.chars, sign]; rfl, .inr rfl⟩
  | false => exact ⟨char, more, by simp [Numeral.chars, sign, shape], .inl digit⟩

/-- The text of a number, and what it is read as. -/
theorem number_text {document : Document} (legible : document.Legible) :
    (∀ value, document = .int value → ∃ numeral, encode ascii document = Numeral.chars numeral ∧ numeral.WellFormed ∧
      numberOf numeral = .ok document) ∧
    (∀ value, document = .float value → ∃ numeral, encode ascii document = Numeral.chars numeral ∧ numeral.WellFormed ∧
      numberOf numeral = .ok document) := by
  constructor
  · rintro value rfl
    have short := of_decide_eq_true legible.short
    exact ⟨numeralOf value, numeralOf_chars value, numeralOf_formed value, numberOf_numeralOf short⟩
  · rintro value rfl
    obtain ⟨numeral, denotes⟩ := repr_denotes legible.finite (of_decide_eq_true legible.genuine)
    refine ⟨numeral, ?_, denotes.formed, ?_⟩
    · have text : encodeFloat value = value.repr := by
        cases value with
        | finite value => rfl
        | negativeZero => rfl
        | nan => cases legible.finite
        | infinity negative => cases legible.finite
      rw [encode, text, denotes.chars]
    · have float : ¬ (numeral.fraction = [] ∧ numeral.exponent = none) := fun both =>
        denotes.float.elim (fun some => some both.1) fun some => some both.2
      rw [numberOf, if_neg float, denotes.read]

theorem opens_pretty {document : Document} (legible : document.Legible) : Opens (encodePretty ascii depth document) := by
  obtain ⟨int, float⟩ := @number_text ascii _ legible
  cases document with
  | null => exact ⟨'n', _, rfl, by decide⟩
  | bool value => cases value <;> exact ⟨_, _, rfl, by decide⟩
  | int value =>
    obtain ⟨numeral, text, formed, _⟩ := int value rfl
    obtain ⟨char, more, shape, first⟩ := numeral_first formed
    rw [encodePretty, text, shape]
    exact opens_digit more first
  | float value =>
    obtain ⟨numeral, text, formed, _⟩ := float value rfl
    obtain ⟨char, more, shape, first⟩ := numeral_first formed
    rw [encodePretty, text, shape]
    exact opens_digit more first
  | str value =>
    obtain ⟨body, shape, _⟩ := @scanString_quote ascii [] value
    rw [encodePretty, encode, shape]
    exact ⟨'"', body, rfl, by decide⟩
  | sequence frozen items =>
    rw [encodePretty]
    split
    · rw [encode]
      exact ⟨'[', _, rfl, by decide⟩
    · exact ⟨'[', _, rfl, by decide⟩
  | mapping frozen entries =>
    rw [encodePretty]
    split
    · rw [encode]
      exact ⟨'\x7b', _, rfl, by decide⟩
    · exact ⟨'\x7b', _, rfl, by decide⟩

theorem scan_scalar {char : Char} {more : List Char} (fuel : Nat) (quote : char ≠ '"') (bracket : char ≠ '[')
    (brace : char ≠ '\x7b') : scan parseConstant (fuel + 1) (char :: more) = scanScalar parseConstant (char :: more) := by
  rw [scan] <;> simpa

theorem scan_numeral {numeral : Numeral} {document : Document} (fuel : Nat) (formed : numeral.WellFormed) (delimits : Delimits rest)
    (number : numberOf numeral = .ok document) :
    scan parseConstant (fuel + 1) (numeral.chars ++ rest) = .ok (document, rest) := by
  have read := scanNumeral_chars formed delimits
  obtain ⟨char, more, shape, first⟩ := numeral_first formed
  have all : ∀ char ∈ '-' :: "0123456789".toList, char ≠ '"' ∧ char ≠ '[' ∧ char ≠ '\x7b' := by simp
  have apart : char ≠ '"' ∧ char ≠ '[' ∧ char ≠ '\x7b' := by
    rcases first with digit | rfl
    · exact all char (List.mem_cons_of_mem _ (Numeral.isDigit_cases digit))
    · exact all '-' List.mem_cons_self
  rw [shape, List.cons_append] at read ⊢
  rw [scan_scalar fuel apart.1 apart.2.1 apart.2.2, scanScalar, read]
  simp only [number, Except.map]

/-- The words are read as what they stand for. -/
theorem scan_word (fuel : Nat) :
    scan parseConstant (fuel + 1) ("null".toList ++ rest) = .ok (.null, rest) ∧
      scan parseConstant (fuel + 1) ("true".toList ++ rest) = .ok (.bool true, rest) ∧
      scan parseConstant (fuel + 1) ("false".toList ++ rest) = .ok (.bool false, rest) := by
  refine ⟨?_, ?_, ?_⟩
  · simp [scan, scanScalar, scanNumeral, scanSign, scanWhole, words, Except.map]
  · simp [scan, scanScalar, scanNumeral, scanSign, scanWhole, words, Except.map]
  · simp [scan, scanScalar, scanNumeral, scanSign, scanWhole, words, Except.map]

theorem delimits_newline (depth : Nat) (text : List Char) : Delimits (newline depth ++ text) := by
  intro char first
  rw [newline, List.cons_append, List.head?_cons, Option.mem_some_iff] at first
  simp [← first]

/-- What stands between an item and the end of its container. -/
theorem skip_opens {text more : List Char} (opens : Opens text) : skipBlanks (text ++ more) = text ++ more := by
  obtain ⟨char, others, rfl, visible, _⟩ := opens
  exact skip_cons _ visible

theorem scan_list {fuel : Nat} {text : List Char} {items : List Document} (opens : Opens (skipBlanks text))
    (read : scanItems parseConstant fuel (skipBlanks text) = .ok (items, rest)) :
    scan parseConstant (fuel + 1) ('[' :: text) = .ok (.list items, rest) := by
  obtain ⟨char, more, shape, _, bracket, _⟩ := opens
  rw [scan]
  split
  next others empty => exact absurd (List.cons.inj (shape.symm.trans empty)).1 bracket
  next => simp only [read, Except.map]

theorem scan_dict {fuel : Nat} {text : List Char} {entries : List (String × Document)} (opens : Opens (skipBlanks text))
    (distinct : (entries.map Prod.fst).Nodup)
    (read : scanEntries parseConstant fuel (skipBlanks text) = .ok (entries, rest)) :
    scan parseConstant (fuel + 1) ('\x7b' :: text) = .ok (.dict entries, rest) := by
  obtain ⟨char, more, shape, _, _, brace⟩ := opens
  rw [scan]
  split
  next others empty => exact absurd (List.cons.inj (shape.symm.trans empty)).1 brace
  next => simp only [read, Except.map, Dict.entries_ofEntries distinct]

theorem skip_items {item : Document} (items : List Document) (legible : item.Legible) (more : List Char) :
    skipBlanks (encodePrettyItems ascii depth (item :: items) ++ more) = encodePretty ascii depth item ++
      ((if items.isEmpty then [] else ',' :: encodePrettyItems ascii depth items) ++ more) := by
  rw [encodePrettyItems, List.append_assoc, List.append_assoc, skip_newline, skip_opens (opens_pretty legible)]

theorem skip_entries {key : String} {value : Document} (entries : List (String × Document)) (more : List Char) :
    skipBlanks (encodePrettyEntries ascii depth ((key, value) :: entries) ++ more) = quote ascii key ++ (": ".toList ++
      (encodePretty ascii depth value ++
        ((if entries.isEmpty then [] else ',' :: encodePrettyEntries ascii depth entries) ++ more))) := by
  have opens : Opens (quote ascii key) := ⟨'"', _, rfl, by decide⟩
  simp only [encodePrettyEntries, List.append_assoc]
  rw [skip_newline, skip_opens opens]

theorem opens_append {text : List Char} (opens : Opens text) (more : List Char) : Opens (text ++ more) := by
  obtain ⟨char, others, rfl, visible⟩ := opens
  exact ⟨char, others ++ more, rfl, visible⟩

section Steps

variable {fuel : Nat} {text after more final : List Char} {item value : Document} {items : List Document} {key : String}
  {entries : List (String × Document)}

theorem scanItems_last (first : scan parseConstant fuel text = .ok (item, after)) (ends : skipBlanks after = ']' :: more) :
    scanItems parseConstant (fuel + 1) text = .ok ([item], more) := by
  simp only [scanItems, first, ends, bind, Except.bind]
  rfl

theorem scanItems_more (first : scan parseConstant fuel text = .ok (item, after)) (goes : skipBlanks after = ',' :: more)
    (others : scanItems parseConstant fuel (skipBlanks more) = .ok (items, final)) :
    scanItems parseConstant (fuel + 1) text = .ok (item :: items, final) := by
  simp only [scanItems, first, goes, others, bind, Except.bind]
  rfl

theorem scanEntries_last (first : scan parseConstant fuel (encodePretty ascii depth value ++ after) = .ok (value, after))
    (legible : value.Legible) (ends : skipBlanks after = '\x7d' :: more) :
    scanEntries parseConstant (fuel + 1) (quote ascii key ++ (": ".toList ++ (encodePretty ascii depth value ++ after))) =
      .ok ([(key, value)], more) := by
  obtain ⟨body, shape, read⟩ := @scanString_quote ascii (": ".toList ++ (encodePretty ascii depth value ++ after)) key
  have colon : skipBlanks (": ".toList ++ (encodePretty ascii depth value ++ after)) =
      ':' :: ' ' :: (encodePretty ascii depth value ++ after) := rfl
  have space : skipBlanks (' ' :: (encodePretty ascii depth value ++ after)) = encodePretty ascii depth value ++ after :=
    skip_opens (opens_pretty legible)
  rw [shape, List.cons_append]
  simp only [scanEntries, read, colon, space, first, ends, bind, Except.bind]
  rfl

theorem scanEntries_more (first : scan parseConstant fuel (encodePretty ascii depth value ++ after) = .ok (value, after))
    (legible : value.Legible) (goes : skipBlanks after = ',' :: more)
    (others : scanEntries parseConstant fuel (skipBlanks more) = .ok (entries, final)) :
    scanEntries parseConstant (fuel + 1) (quote ascii key ++ (": ".toList ++ (encodePretty ascii depth value ++ after))) =
      .ok ((key, value) :: entries, final) := by
  obtain ⟨body, shape, read⟩ := @scanString_quote ascii (": ".toList ++ (encodePretty ascii depth value ++ after)) key
  have colon : skipBlanks (": ".toList ++ (encodePretty ascii depth value ++ after)) =
      ':' :: ' ' :: (encodePretty ascii depth value ++ after) := rfl
  have space : skipBlanks (' ' :: (encodePretty ascii depth value ++ after)) = encodePretty ascii depth value ++ after :=
    skip_opens (opens_pretty legible)
  rw [shape, List.cons_append]
  simp only [scanEntries, read, colon, space, first, goes, others, bind, Except.bind]
  rfl

end Steps

mutual
/-- Reading the text of a document gives the document. -/
theorem scan_pretty {depth : Nat} {document : Document} (legible : document.Legible) {rest : List Char} (delimits : Delimits rest)
    {fuel : Nat} (enough : (encodePretty ascii depth document).length < fuel) :
    scan parseConstant fuel (encodePretty ascii depth document ++ rest) = .ok (document, rest) := by
  obtain ⟨fuel, rfl⟩ := Nat.exists_eq_add_one_of_ne_zero (Nat.ne_zero_of_lt enough)
  match document with
  | .null => exact (scan_word fuel).1
  | .bool true => exact (scan_word fuel).2.1
  | .bool false => exact (scan_word fuel).2.2
  | .int value =>
    obtain ⟨numeral, text, formed, number⟩ := (@number_text ascii _ legible).1 value rfl
    rw [encodePretty, text]
    exact scan_numeral fuel formed delimits number
  | .float value =>
    obtain ⟨numeral, text, formed, number⟩ := (@number_text ascii _ legible).2 value rfl
    rw [encodePretty, text]
    exact scan_numeral fuel formed delimits number
  | .str value =>
    obtain ⟨body, shape, read⟩ := @scanString_quote ascii rest value
    rw [encodePretty, encode, shape, List.cons_append, scan]
    simp only [read]
  | .sequence frozen [] =>
    obtain ⟨rfl, _⟩ := Document.legible_sequence legible
    rfl
  | .sequence frozen (item :: items) =>
    obtain ⟨rfl, each⟩ := Document.legible_sequence legible
    have shape : encodePretty ascii depth (.list (item :: items)) =
        '[' :: encodePrettyItems ascii (depth + 1) (item :: items) ++ newline depth ++ [']'] := rfl
    rw [shape] at enough ⊢
    simp only [List.length_append, List.length_cons, List.cons_append] at enough
    simp only [List.cons_append, List.append_assoc, List.nil_append]
    apply scan_list
    · rw [skip_items items (each item List.mem_cons_self)]
      exact opens_append (opens_pretty (each item List.mem_cons_self)) _
    · exact scan_items each depth rest (by omega)
  | .mapping frozen [] =>
    obtain ⟨rfl, _⟩ := Document.legible_mapping legible
    rfl
  | .mapping frozen ((key, value) :: entries) =>
    obtain ⟨rfl, distinct, each⟩ := Document.legible_mapping legible
    have shape : encodePretty ascii depth (.dict ((key, value) :: entries)) =
        '\x7b' :: encodePrettyEntries ascii (depth + 1) ((key, value) :: entries) ++ newline depth ++ ['\x7d'] := rfl
    rw [shape] at enough ⊢
    simp only [List.length_append, List.length_cons, List.cons_append] at enough
    simp only [List.cons_append, List.append_assoc, List.nil_append]
    refine scan_dict ?_ distinct ?_
    · rw [skip_entries entries]
      exact ⟨'"', _, rfl, by decide⟩
    · exact scan_entries each depth rest (by omega)
termination_by fuel

theorem scan_items {depth : Nat} {item : Document} {items : List Document} (each : ∀ other ∈ item :: items, other.Legible)
    (outer : Nat) (rest : List Char) {fuel : Nat} (enough : (encodePrettyItems ascii depth (item :: items)).length < fuel) :
    scanItems parseConstant fuel (skipBlanks (encodePrettyItems ascii depth (item :: items) ++ (newline outer ++ ']' :: rest))) =
      .ok (item :: items, rest) := by
  obtain ⟨fuel, rfl⟩ := Nat.exists_eq_add_one_of_ne_zero (Nat.ne_zero_of_lt enough)
  obtain ⟨legible, others⟩ := List.forall_mem_cons.mp each
  rw [skip_items items legible]
  rw [encodePrettyItems] at enough
  simp only [newline, List.length_append, List.length_cons] at enough
  match items with
  | [] => exact scanItems_last (scan_pretty legible (delimits_newline outer _) (by omega)) (skip_newline outer _)
  | next :: more =>
    simp only [List.isEmpty_cons, Bool.false_eq_true, if_false, List.length_cons] at enough
    have comma : Delimits (',' :: encodePrettyItems ascii depth (next :: more) ++ (newline outer ++ ']' :: rest)) := by
      intro char first
      simp [← Option.mem_some_iff.mp first]
    exact scanItems_more (scan_pretty legible comma (by omega)) (skip_cons _ (by decide))
      (scan_items others outer rest (by omega))
termination_by fuel

theorem scan_entries {depth : Nat} {key : String} {value : Document} {entries : List (String × Document)}
    (each : ∀ entry ∈ (key, value) :: entries, entry.2.Legible) (outer : Nat) (rest : List Char) {fuel : Nat}
    (enough : (encodePrettyEntries ascii depth ((key, value) :: entries)).length < fuel) :
    scanEntries parseConstant fuel
      (skipBlanks (encodePrettyEntries ascii depth ((key, value) :: entries) ++ (newline outer ++ '\x7d' :: rest))) =
        .ok ((key, value) :: entries, rest) := by
  obtain ⟨fuel, rfl⟩ := Nat.exists_eq_add_one_of_ne_zero (Nat.ne_zero_of_lt enough)
  obtain ⟨legible, others⟩ : value.Legible ∧ ∀ entry ∈ entries, entry.2.Legible := List.forall_mem_cons.mp each
  rw [skip_entries entries]
  rw [encodePrettyEntries] at enough
  simp only [newline, List.length_append, List.length_cons] at enough
  match entries with
  | [] => exact scanEntries_last (scan_pretty legible (delimits_newline outer _) (by omega)) legible (skip_newline outer _)
  | (name, next) :: more =>
    simp only [List.isEmpty_cons, Bool.false_eq_true, if_false, List.length_cons] at enough
    have comma : Delimits (',' :: encodePrettyEntries ascii depth ((name, next) :: more) ++ (newline outer ++ '\x7d' :: rest)) := by
      intro char first
      simp [← Option.mem_some_iff.mp first]
    exact scanEntries_more (scan_pretty legible comma (by omega)) legible (skip_cons _ (by decide))
      (scan_entries others outer rest (by omega))
termination_by fuel
end

/-- Reading a document with sorted keys back. -/
theorem loads_pretty {document : Document} (legible : document.decoded.Legible) :
    loads parseConstant (dumpsPretty ascii document) = .ok document.decoded ∧
      loads parseConstant (dumpsPretty ascii document ++ "\n") = .ok document.decoded := by
  have opens : Opens (encodePretty ascii 0 document.decoded) := opens_pretty legible
  have none : skipBlanks (encodePretty ascii 0 document.decoded) = encodePretty ascii 0 document.decoded := by
    simpa using @skip_opens _ [] opens
  constructor
  · have read : scan parseConstant ((encodePretty ascii 0 document.decoded).length + 1)
        (encodePretty ascii 0 document.decoded ++ []) = .ok (document.decoded, []) :=
      scan_pretty legible (by simp [Delimits]) (Nat.lt_succ_self _)
    rw [List.append_nil] at read
    have blank : skipBlanks [] = [] := rfl
    simp only [loads, dumpsPretty, String.toList_ofList, none, read, bind, Except.bind, blank, if_true, pure, Except.pure]
  · have read : scan parseConstant ((encodePretty ascii 0 document.decoded ++ ['\n']).length + 1)
        (encodePretty ascii 0 document.decoded ++ ['\n']) = .ok (document.decoded, ['\n']) :=
      scan_pretty legible (by simp [Delimits]) (by simp only [List.length_append, List.length_cons, List.length_nil]; omega)
    have text : (String.ofList (encodePretty ascii 0 document.decoded) ++ "\n").toList =
        encodePretty ascii 0 document.decoded ++ ['\n'] := by simp
    have blank : skipBlanks ['\n'] = [] := rfl
    simp only [loads, dumpsPretty, text, skip_opens opens, read, bind, Except.bind, blank, if_true, pure, Except.pure]

end Reading

end JsonReader
