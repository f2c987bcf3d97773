import Mathlib.Data.List.TakeWhile
import Nslab.Library.Text

/-! IP addresses, interfaces and networks with the texts that denote them, as
Python's `ipaddress` module reads and writes them. Every text it writes is read
back as the same value. -/

namespace IpAddress

open Text

section Version4

structure IPv4Address where
  value : Nat
  bounded : value < 2 ^ 32
deriving DecidableEq

/-- One to three ASCII digits without a leading zero, at most 255. -/
def parseOctet (text : List Char) : Option Nat :=
  if text.length ≤ 3 ∧ (text.head? ≠ some '0' ∨ text.length = 1) then
    (decimal? text).bind fun value => if value ≤ 255 then some value else none
  else none

def IPv4Address.ofNat? (value : Nat) : Option IPv4Address :=
  if bounded : value < 2 ^ 32 then some ⟨value, bounded⟩ else none

def IPv4Address.parse (text : List Char) : Option IPv4Address :=
  let octets := split '.' text
  if octets.length = 4 then (readAll parseOctet octets).bind fun values => ofNat? (ofBase 256 values) else none

def IPv4Address.chars (address : IPv4Address) : List Char :=
  join '.' ((toBase 256 4 address.value).map (Nat.toDigits 10))

def IPv4Address.isUnspecified (address : IPv4Address) : Bool := address.value = 0

/-- 224.0.0.0/4. -/
def IPv4Address.isMulticast (address : IPv4Address) : Bool := address.value / 2 ^ 28 = 14

/-- 169.254.0.0/16. -/
def IPv4Address.isLinkLocal (address : IPv4Address) : Bool := address.value / 2 ^ 16 = 0xA9FE

theorem parseOctet_toDigits {value : Nat} (small : value < 256) : parseOctet (Nat.toDigits 10 value) = some value := by
  have all : ∀ value < 256, parseOctet (Nat.toDigits 10 value) = some value := by decide +kernel
  exact all value small

theorem IPv4Address.mem_chars {address : IPv4Address} {char : Char} (member : char ∈ address.chars) :
    char = '.' ∨ char.isDigit = true := by
  rcases mem_join member with dot | ⟨part, among, inside⟩
  · exact .inl dot
  · obtain ⟨octet, _, rfl⟩ := List.mem_map.mp among
    exact .inr (Nat.isDigit_of_mem_toDigits (by decide) (by decide) inside)

theorem IPv4Address.parse_chars (address : IPv4Address) : parse address.chars = some address := by
  have octets : split '.' address.chars = (toBase 256 4 address.value).map (Nat.toDigits 10) := by
    refine split_join (by simp [toBase]) ?_
    intro part among member
    obtain ⟨octet, _, rfl⟩ := List.mem_map.mp among
    exact absurd (Nat.isDigit_of_mem_toDigits (by decide) (by decide) member) (by decide)
  have values : readAll parseOctet ((toBase 256 4 address.value).map (Nat.toDigits 10)) =
      some (toBase 256 4 address.value) :=
    readAll_map fun octet among => parseOctet_toDigits (toBase_lt (by decide) among)
  have whole : ofBase 256 (toBase 256 4 address.value) = address.value := by
    rw [ofBase_toBase]
    exact Nat.mod_eq_of_lt address.bounded
  simp only [parse, octets, List.length_map, length_toBase, if_true, values, Option.bind_some, whole]
  exact dif_pos address.bounded

/-- A text with a character that is neither a dot nor a digit is no IPv4 address. -/
theorem IPv4Address.parse_none {text : List Char} {char : Char} (member : char ∈ text) (notDot : char ≠ '.')
    (notDigit : char.isDigit = false) : parse text = none := by
  obtain ⟨part, among, inside⟩ := mem_split member notDot
  have mixed : part.all Char.isDigit = false := by
    simp only [List.all_eq_false]
    exact ⟨char, inside, by simp [notDigit]⟩
  have refused : parseOctet part = none := by simp [parseOctet, decimal?, mixed]
  simp [parse, readAll_none among refused]

end Version4

section Version6

/-- The zone of a scoped address. -/
structure Scope where
  chars : List Char
  given : chars ≠ []
  clean : '%' ∉ chars ∧ '/' ∉ chars
deriving DecidableEq

structure IPv6Address where
  value : Nat
  bounded : value < 2 ^ 128
  scope : Option Scope
deriving DecidableEq

/-- At most four hexadecimal digits. -/
def parseHextet (text : List Char) : Option Nat := if text.length ≤ 4 then hexadecimal? text else none

/-- The last part of an address may be an IPv4 address, which stands for two hextets. -/
def expandSuffix (parts : List (List Char)) : Option (List (List Char)) :=
  match parts.getLast? with
  | none => some parts
  | some last =>
    if '.' ∈ last then (IPv4Address.parse last).map fun suffix =>
      parts.dropLast ++ [Nat.toDigits 16 (suffix.value / 2 ^ 16), Nat.toDigits 16 (suffix.value % 2 ^ 16)]
    else some parts

/-- The hextets before and after the one empty inner part, which stands for the
zeros left out. An empty end is only allowed next to it. -/
def skipZeros (head : List Char) (before after : List (List Char)) (last : List Char) :
    Option (List (List Char) × List (List Char)) :=
  if (head = [] ∧ before ≠ []) ∨ (last = [] ∧ after ≠ []) ∨ [] ∈ after then none
  else some (if head = [] then [] else head :: before, if last = [] then [] else after ++ [last])

def splitZeros : List (List Char) → Option (List (List Char) × List (List Char))
  | [] => none
  | head :: rest =>
    match rest.getLast? with
    | none => none
    | some last =>
      let inner := rest.dropLast
      match inner.dropWhile (· ≠ []) with
      | [] => none
      | _ :: after => skipZeros head (inner.takeWhile (· ≠ [])) after last

def hextets (parts : List (List Char)) : Option (List Nat) :=
  if [] ∈ parts.tail.dropLast then
    (splitZeros parts).bind fun (high, low) =>
      if high.length + low.length < 8 then
        (readAll parseHextet high).bind fun high' => (readAll parseHextet low).map fun low' =>
          high' ++ List.replicate (8 - (high.length + low.length)) 0 ++ low'
      else none
  else if parts.length = 8 then readAll parseHextet parts
  else none

def IPv6Address.parseValue (text : List Char) : Option Nat :=
  let parts := split ':' text
  if 3 ≤ parts.length then
    (expandSuffix parts).bind fun parts =>
      if parts.length ≤ 9 then (hextets parts).map (ofBase 65536) else none
  else none

def Scope.ofChars? (chars : List Char) : Option Scope :=
  if given : chars ≠ [] then
    if clean : '%' ∉ chars ∧ '/' ∉ chars then some ⟨chars, given, clean⟩ else none
  else none

def IPv6Address.make? (value : Nat) (scope : Option Scope) : Option IPv6Address :=
  if bounded : value < 2 ^ 128 then some ⟨value, bounded, scope⟩ else none

def IPv6Address.parse (text : List Char) : Option IPv6Address :=
  let address := text.takeWhile (· ≠ '%')
  match text.dropWhile (· ≠ '%') with
  | [] => (parseValue address).bind (make? · none)
  | _ :: zone => (Scope.ofChars? zone).bind fun scope => (parseValue address).bind (make? · (some scope))

/-- How many zeros a list of hextets starts with. -/
def zeroRun (values : List Nat) : Nat := (values.takeWhile (· = 0)).length

/-- Where the longest run of zeros starts, the first such place. -/
def longestRun (values : List Nat) : Nat :=
  (List.range values.length).foldl
    (fun best start => if zeroRun (values.drop best) < zeroRun (values.drop start) then start else best) 0

/-- Two or more zeros in a row are left out once. -/
def compressHextets (values : List Nat) : List (List Char) :=
  let start := longestRun values
  let run := zeroRun (values.drop start)
  let digits := List.map (Nat.toDigits 16)
  if 1 < run then
    let high := digits (values.take start)
    let low := digits (values.drop (start + run))
    (if high = [] then [[]] else high) ++ [[]] ++ (if low = [] then [[]] else low)
  else digits values

def IPv6Address.valueChars (value : Nat) : List Char := join ':' (compressHextets (toBase 65536 8 value))

def IPv6Address.chars (address : IPv6Address) : List Char :=
  valueChars address.value ++ (match address.scope with
    | none => []
    | some scope => '%' :: scope.chars)

/-- The IPv4 address that an address of ::ffff:0:0/96 stands for. -/
def IPv6Address.ipv4Mapped (address : IPv6Address) : Option IPv4Address :=
  if address.value / 2 ^ 32 = 0xFFFF then some ⟨address.value % 2 ^ 32, Nat.mod_lt _ (by decide)⟩ else none

def IPv6Address.isUnspecified (address : IPv6Address) : Bool :=
  match address.ipv4Mapped with
  | some mapped => mapped.isUnspecified
  | none => address.value = 0

/-- ff00::/8. -/
def IPv6Address.isMulticast (address : IPv6Address) : Bool :=
  match address.ipv4Mapped with
  | some mapped => mapped.isMulticast
  | none => address.value / 2 ^ 120 = 0xFF

/-- fe80::/10. -/
def IPv6Address.isLinkLocal (address : IPv6Address) : Bool :=
  match address.ipv4Mapped with
  | some mapped => mapped.isLinkLocal
  | none => address.value / 2 ^ 118 = 0x3FA

theorem parseHextet_toDigits {value : Nat} (small : value < 65536) :
    parseHextet (Nat.toDigits 16 value) = some value := by
  have short : (Nat.toDigits 16 value).length ≤ 4 :=
    (Nat.length_toDigits_le_iff (by decide) (by decide)).mpr small
  rw [parseHextet, if_pos short, hexadecimal?_toDigits]

theorem mem_hexDigits {char : Char} {value : Nat} (member : char ∈ Nat.toDigits 16 value) :
    char ∉ ['.', ':', '%', '/'] := by
  have all : ∀ digit < 16, Nat.digitChar digit ∉ ['.', ':', '%', '/'] := by decide
  induction value using Nat.strongRecOn with
  | _ value ih =>
    rw [Nat.toDigits_eq_if (by decide)] at member
    split at member
    next small =>
      rw [List.mem_singleton.mp member]
      exact all value small
    next large =>
      rcases List.mem_append.mp member with higher | lowest
      · exact ih (value / 16) (by omega) higher
      · rw [List.mem_singleton.mp lowest]
        exact all _ (Nat.mod_lt _ (by decide))

/-- A list of hextets around the zeros that its compressed text leaves out. -/
theorem zeroRun_spec (values : List Nat) (start : Nat) :
    values = values.take start ++ List.replicate (zeroRun (values.drop start)) 0 ++
      values.drop (start + zeroRun (values.drop start)) := by
  have parts := List.takeWhile_append_dropWhile (p := fun value => decide (value = 0)) (l := values.drop start)
  have zeros : (values.drop start).takeWhile (· = 0) = List.replicate (zeroRun (values.drop start)) 0 :=
    List.eq_replicate_of_mem fun value member => by simpa using List.mem_takeWhile_imp member
  have rest : (values.drop start).drop (zeroRun (values.drop start)) = (values.drop start).dropWhile (· = 0) := by
    have dropped := @List.drop_left _ ((values.drop start).takeWhile (· = 0)) ((values.drop start).dropWhile (· = 0))
    rwa [parts] at dropped
  rw [← List.drop_drop, rest, ← zeros, List.append_assoc, parts, List.take_append_drop]

theorem splitZeros_eq (head last : List Char) {before : List (List Char)} (after : List (List Char)) (full : [] ∉ before) :
    splitZeros (head :: (before ++ [] :: (after ++ [last]))) = skipZeros head before after last := by
  have nonempty : ∀ part ∈ before, decide (part ≠ []) = true := by
    intro part member
    have other : part ≠ [] := fun same => full (same ▸ member)
    simpa using other
  have ends : (before ++ [] :: (after ++ [last])).getLast? = some last := by
    rw [← List.cons_append, ← List.append_assoc, List.getLast?_concat]
  have inner : (before ++ [] :: (after ++ [last])).dropLast = before ++ [] :: after := by
    rw [← List.cons_append, ← List.append_assoc, List.dropLast_concat]
  simp only [splitZeros, ends, inner, List.takeWhile_append_of_pos nonempty, List.dropWhile_append_of_pos nonempty]
  simp

theorem splitZeros_spec {high low : List (List Char)} (highFull : [] ∉ high) (lowFull : [] ∉ low) :
    splitZeros ((if high = [] then [[]] else high) ++ [[]] ++ (if low = [] then [[]] else low)) = some (high, low) := by
  rcases high with _ | ⟨head, before⟩ <;> rcases List.eq_nil_or_concat low with rfl | ⟨after, last, rfl⟩
  · rfl
  · have split := splitZeros_eq [] last after (List.not_mem_nil)
    simp_all [skipZeros]
  · have split := splitZeros_eq head [] [] (by simp_all : [] ∉ before)
    simp_all [skipZeros]
  · have split := splitZeros_eq head last after (by simp_all : [] ∉ before)
    simp_all [skipZeros]

/-- The parts of a compressed text: hexadecimal digits, or nothing around the zeros left out. -/
theorem mem_compressHextets {values : List Nat} {part : List Char} (member : part ∈ compressHextets values) :
    part = [] ∨ ∃ value ∈ values, part = Nat.toDigits 16 value := by
  have digits : ∀ {some : List Nat}, some ⊆ values → part ∈ some.map (Nat.toDigits 16) →
      part = [] ∨ ∃ value ∈ values, part = Nat.toDigits 16 value := by
    intro some among inside
    obtain ⟨value, given, rfl⟩ := List.mem_map.mp inside
    exact .inr ⟨value, among given, rfl⟩
  unfold compressHextets at member
  dsimp only at member
  split at member
  · simp only [List.mem_append, List.mem_singleton] at member
    rcases member with (high | empty) | low
    · split at high
      · exact .inl (List.mem_singleton.mp high)
      · exact digits (List.take_subset _ _) high
    · exact .inl empty
    · split at low
      · exact .inl (List.mem_singleton.mp low)
      · exact digits (List.drop_subset _ _) low
  · exact digits (fun _ given => given) member

theorem nil_notMem_digits (values : List Nat) : [] ∉ values.map (Nat.toDigits 16) := by
  intro member
  obtain ⟨value, _, same⟩ := List.mem_map.mp member
  exact Nat.toDigits_ne_nil same

theorem readAll_hextets {values : List Nat} (small : ∀ value ∈ values, value < 65536) :
    readAll parseHextet (values.map (Nat.toDigits 16)) = some values :=
  readAll_map fun value member => parseHextet_toDigits (small value member)

theorem nil_mem_inner (high low : List (List Char)) :
    [] ∈ ((if high = [] then [[]] else high) ++ [[]] ++ (if low = [] then [[]] else low)).tail.dropLast := by
  have inner : ∀ (before after : List (List Char)) (last : List Char),
      [] ∈ (before ++ [] :: (after ++ [last])).dropLast := by
    intro before after last
    rw [← List.cons_append, ← List.append_assoc, List.dropLast_concat]
    simp
  rcases high with _ | ⟨head, before⟩ <;> rcases List.eq_nil_or_concat low with rfl | ⟨after, last, rfl⟩
  · simp
  · simpa using inner [] after last
  · simp
  · simpa using inner before after last

theorem hextets_compress {values : List Nat} (eight : values.length = 8) (small : ∀ value ∈ values, value < 65536) :
    hextets (compressHextets values) = some values := by
  unfold compressHextets
  dsimp only
  split
  next long =>
    set start := longestRun values
    set run := zeroRun (values.drop start)
    have whole : values = values.take start ++ List.replicate run 0 ++ values.drop (start + run) :=
      zeroRun_spec values start
    have counted := congrArg List.length whole
    simp only [List.length_append, List.length_replicate, eight] at counted
    have zeros : 8 - ((values.take start).length + (values.drop (start + run)).length) = run := by omega
    have few : (values.take start).length + (values.drop (start + run)).length < 8 := by omega
    have parts := splitZeros_spec (nil_notMem_digits (values.take start)) (nil_notMem_digits (values.drop (start + run)))
    have skipped := nil_mem_inner ((values.take start).map (Nat.toDigits 16))
      ((values.drop (start + run)).map (Nat.toDigits 16))
    have high := readAll_hextets fun value member => small value (List.take_subset start values member)
    have low := readAll_hextets fun value member => small value (List.drop_subset (start + run) values member)
    rw [hextets, if_pos skipped, parts]
    simp only [Option.bind_some, List.length_map, few, if_true, high, low, Option.map_some, zeros]
    rw [← whole]
  next short =>
    have full : [] ∉ (values.map (Nat.toDigits 16)).tail.dropLast := fun member =>
      nil_notMem_digits values (List.mem_of_mem_tail (List.dropLast_subset _ member))
    simp only [hextets, full, if_false, List.length_map, eight, if_true]
    exact readAll_hextets small

theorem length_compressHextets {values : List Nat} (eight : values.length = 8) :
    3 ≤ (compressHextets values).length ∧ (compressHextets values).length ≤ 9 := by
  unfold compressHextets
  dsimp only
  split
  next long =>
    set start := longestRun values
    set run := zeroRun (values.drop start)
    have whole : values = values.take start ++ List.replicate run 0 ++ values.drop (start + run) :=
      zeroRun_spec values start
    have counted := congrArg List.length whole
    simp only [List.length_append, List.length_replicate, eight] at counted
    have high : ∀ parts : List (List Char), 1 ≤ (if parts = [] then [[]] else parts).length ∧
        (if parts = [] then [[]] else parts).length ≤ parts.length + 1 := by
      intro parts
      cases parts <;> simp
    have first := high ((values.take start).map (Nat.toDigits 16))
    have last := high ((values.drop (start + run)).map (Nat.toDigits 16))
    simp only [List.length_map] at first last
    simp only [List.length_append, List.length_singleton]
    omega
  next short => simp [eight]

theorem IPv6Address.mem_valueChars {value : Nat} {char : Char} (member : char ∈ valueChars value) :
    char ∉ ['.', '%', '/'] := by
  rcases mem_join member with rfl | ⟨part, among, inside⟩
  · decide
  · rcases mem_compressHextets among with rfl | ⟨hextet, _, rfl⟩
    · simp at inside
    · have clean := mem_hexDigits inside
      simp only [List.mem_cons, List.not_mem_nil, or_false, not_or] at clean ⊢
      exact ⟨clean.1, clean.2.2.1, clean.2.2.2⟩

theorem IPv6Address.parseValue_chars {value : Nat} (bounded : value < 2 ^ 128) :
    parseValue (valueChars value) = some value := by
  have eight := length_toBase 65536 8 value
  have lengths := length_compressHextets eight
  have parts : split ':' (valueChars value) = compressHextets (toBase 65536 8 value) := by
    refine split_join (fun empty => by simp [empty] at lengths) ?_
    intro part among member
    rcases mem_compressHextets among with rfl | ⟨hextet, _, rfl⟩
    · simp at member
    · exact mem_hexDigits member (by simp)
  have suffix : expandSuffix (compressHextets (toBase 65536 8 value)) = some (compressHextets (toBase 65536 8 value)) := by
    unfold expandSuffix
    split
    · rfl
    next last found =>
      rw [if_neg]
      intro dot
      rcases mem_compressHextets (List.mem_of_getLast? found) with rfl | ⟨hextet, _, rfl⟩
      · simp at dot
      · exact mem_hexDigits dot (by simp)
  have whole : ofBase 65536 (toBase 65536 8 value) = value := by
    rw [ofBase_toBase]
    exact Nat.mod_eq_of_lt bounded
  have read := hextets_compress eight fun hextet member => toBase_lt (by decide) member
  simp [parseValue, parts, lengths.1, lengths.2, suffix, read, whole]

theorem Scope.ofChars?_chars (scope : Scope) : ofChars? scope.chars = some scope := by
  simp [ofChars?, scope.given, scope.clean]

theorem IPv6Address.parse_chars (address : IPv6Address) : parse address.chars = some address := by
  obtain ⟨value, bounded, scope⟩ := address
  have before : ∀ char ∈ valueChars value, decide (char ≠ '%') = true := by
    intro char member
    have clean := mem_valueChars member
    simp only [List.mem_cons, not_or] at clean
    simpa using clean.2.1
  have read := parseValue_chars bounded
  cases scope with
  | none =>
    have all := List.takeWhile_eq_self_iff.mpr before
    have rest := List.dropWhile_eq_nil_iff.mpr before
    simp only [parse, chars, List.append_nil, rest, all, read, Option.bind_some, make?, bounded, dif_pos]
  | some zone =>
    simp only [parse, chars, List.takeWhile_append_of_pos before, List.dropWhile_append_of_pos before]
    simp only [ne_eq, decide_not, List.takeWhile_cons, decide_true, Bool.not_true, Bool.false_eq_true, if_false,
      List.append_nil, List.dropWhile_cons, Scope.ofChars?_chars, Option.bind_some, read, make?, bounded, dif_pos]

end Version6

inductive IPAddress where
  | v4 (address : IPv4Address)
  | v6 (address : IPv6Address)
deriving DecidableEq

namespace IPAddress

def version : IPAddress → Nat
  | .v4 _ => 4
  | .v6 _ => 6

/-- `max_prefixlen`. -/
def width : IPAddress → Nat
  | .v4 _ => 32
  | .v6 _ => 128

def value : IPAddress → Nat
  | .v4 address => address.value
  | .v6 address => address.value

def isUnspecified : IPAddress → Bool
  | .v4 address => address.isUnspecified
  | .v6 address => address.isUnspecified

def isMulticast : IPAddress → Bool
  | .v4 address => address.isMulticast
  | .v6 address => address.isMulticast

def isLinkLocal : IPAddress → Bool
  | .v4 address => address.isLinkLocal
  | .v6 address => address.isLinkLocal

def chars : IPAddress → List Char
  | .v4 address => address.chars
  | .v6 address => address.chars

def parse (text : List Char) : Option IPAddress :=
  match IPv4Address.parse text with
  | some address => some (.v4 address)
  | none => (IPv6Address.parse text).map .v6

/-- The address without its zone. -/
def ip : IPAddress → IPAddress
  | .v4 address => .v4 address
  | .v6 address => .v6 { address with scope := none }

/-- The address with its host bits cleared. A zone only stays when nothing had to be cleared. -/
def mask (prefixlen : Nat) : IPAddress → IPAddress
  | .v4 address => .v4 ⟨address.value - address.value % 2 ^ (32 - prefixlen),
      Nat.lt_of_le_of_lt (Nat.sub_le _ _) address.bounded⟩
  | .v6 address => .v6 ⟨address.value - address.value % 2 ^ (128 - prefixlen),
      Nat.lt_of_le_of_lt (Nat.sub_le _ _) address.bounded,
      if address.value % 2 ^ (128 - prefixlen) = 0 then address.scope else none⟩

@[simp] theorem width_mask (prefixlen : Nat) (address : IPAddress) : (address.mask prefixlen).width = address.width := by
  cases address <;> rfl

@[simp] theorem version_mask (prefixlen : Nat) (address : IPAddress) :
    (address.mask prefixlen).version = address.version := by
  cases address <;> rfl

theorem value_mask (prefixlen : Nat) (address : IPAddress) :
    (address.mask prefixlen).value % 2 ^ (address.width - prefixlen) = 0 := by
  have aligned : ∀ value size : Nat, (value - value % size) % size = 0 := fun value size =>
    Nat.sub_mod_eq_zero_of_mod_eq (Nat.mod_mod value size).symm
  cases address <;> exact aligned _ _

theorem version_of_width {left right : IPAddress} (same : left.version = right.version) : left.width = right.width := by
  cases left <;> cases right <;> simp_all [version, width]

theorem notMem_chars {address : IPAddress} : '/' ∉ address.chars := by
  intro member
  cases address with
  | v4 address => rcases IPv4Address.mem_chars member with dot | digit <;> simp_all
  | v6 address =>
    simp only [chars, IPv6Address.chars, List.mem_append] at member
    rcases member with value | zone
    · exact IPv6Address.mem_valueChars value (by simp)
    · split at zone
      · simp at zone
      next scope found =>
        rcases List.mem_cons.mp zone with slash | inside
        · simp at slash
        · exact scope.clean.2 inside

theorem colon_mem_valueChars (value : Nat) : ':' ∈ IPv6Address.valueChars value := by
  have lengths := length_compressHextets (length_toBase 65536 8 value)
  unfold IPv6Address.valueChars
  cases shape : compressHextets (toBase 65536 8 value) with
  | nil => simp [shape] at lengths
  | cons first rest => cases rest with
    | nil => simp [shape] at lengths
    | cons next rest => simp [join, List.intercalate, List.intersperse]

theorem parse_chars (address : IPAddress) : parse address.chars = some address := by
  cases address with
  | v4 address => simp [parse, chars, IPv4Address.parse_chars]
  | v6 address =>
    have colon : ':' ∈ address.chars := List.mem_append_left _ (colon_mem_valueChars address.value)
    simp [parse, chars, IPv4Address.parse_none colon, IPv6Address.parse_chars]

theorem chars_injective {left right : IPAddress} (same : left.chars = right.chars) : left = right := by
  have parsed := parse_chars left
  rw [same, parse_chars right] at parsed
  exact (Option.some.inj parsed).symm

end IPAddress

section Masks

/-- `address` or `address/mask`. -/
def splitMask (text : List Char) : Option (List Char × Option (List Char)) :=
  match split '/' text with
  | [address] => some (address, none)
  | [address, mask] => some (address, some mask)
  | _ => none

/-- The prefix length of a netmask, or of a hostmask. -/
def prefixOfMask (mask : IPv4Address) : Option Nat :=
  let netmask := (List.range 33).find? fun length => mask.value = 2 ^ 32 - 2 ^ (32 - length)
  let hostmask := (List.range 33).find? fun length => mask.value + 1 = 2 ^ (32 - length)
  netmask.or hostmask

def prefixOf (address : IPAddress) (mask : Option (List Char)) : Option Nat :=
  match mask with
  | none => some address.width
  | some text =>
    match decimal? text, address with
    | some length, _ => if length ≤ address.width then some length else none
    | none, .v4 _ => (IPv4Address.parse text).bind prefixOfMask
    | none, .v6 _ => none

theorem splitMask_chars (address : IPAddress) (length : Nat) :
    splitMask (address.chars ++ '/' :: Nat.toDigits 10 length) = some (address.chars, some (Nat.toDigits 10 length)) := by
  have digits : '/' ∉ Nat.toDigits 10 length := fun member =>
    absurd (Nat.isDigit_of_mem_toDigits (by decide) (by decide) member) (by decide)
  have parts : split '/' (address.chars ++ '/' :: Nat.toDigits 10 length) = [address.chars, Nat.toDigits 10 length] := by
    have joined : address.chars ++ '/' :: Nat.toDigits 10 length = join '/' [address.chars, Nat.toDigits 10 length] := by
      simp [join, List.intercalate, List.intersperse]
    rw [joined]
    refine split_join (by simp) ?_
    simp [IPAddress.notMem_chars, digits]
  simp [splitMask, parts]

theorem prefixOf_toDigits {address : IPAddress} {length : Nat} (bounded : length ≤ address.width) :
    prefixOf address (some (Nat.toDigits 10 length)) = some length := by
  simp [prefixOf, decimal?_toDigits, bounded]

end Masks

structure IPNetwork where
  address : IPAddress
  prefixlen : Nat
  bounded : prefixlen ≤ address.width
  aligned : address.value % 2 ^ (address.width - prefixlen) = 0
deriving DecidableEq

namespace IPNetwork

def version (network : IPNetwork) : Nat := network.address.version

def chars (network : IPNetwork) : List Char := network.address.chars ++ '/' :: Nat.toDigits 10 network.prefixlen

/-- A network whose host bits are set is refused. -/
def make? (address : IPAddress) (prefixlen : Nat) : Option IPNetwork :=
  if valid : prefixlen ≤ address.width ∧ address.value % 2 ^ (address.width - prefixlen) = 0 then
    some ⟨address, prefixlen, valid.1, valid.2⟩
  else none

def parse (text : List Char) : Option IPNetwork :=
  (splitMask text).bind fun (address, mask) => (IPAddress.parse address).bind fun address =>
    (prefixOf address mask).bind (make? address)

/-- The last address of a network. -/
def broadcast (network : IPNetwork) : IPAddress :=
  have bounded (width value : Nat) (small : value < 2 ^ width) : value - value % 2 ^ (width - network.prefixlen) +
      (2 ^ (width - network.prefixlen) - 1) < 2 ^ width := by
    have positive : 0 < 2 ^ (width - network.prefixlen) := Nat.pow_pos (by decide)
    have aligned : 2 ^ (width - network.prefixlen) ∣ 2 ^ width := Nat.pow_dvd_pow 2 (Nat.sub_le _ _)
    have whole := Nat.div_add_mod value (2 ^ (width - network.prefixlen))
    have next : value / 2 ^ (width - network.prefixlen) < 2 ^ width / 2 ^ (width - network.prefixlen) :=
      Nat.div_lt_div_of_lt_of_dvd aligned small
    have room := Nat.mul_le_mul_left (2 ^ (width - network.prefixlen)) (Nat.succ_le_of_lt next)
    rw [Nat.mul_div_cancel' aligned, Nat.mul_succ] at room
    omega
  match network.address with
  | .v4 address => .v4 ⟨_, bounded 32 address.value address.bounded⟩
  | .v6 address => .v6 ⟨_, bounded 128 address.value address.bounded, none⟩

/-- A network is link-local when its first and its last address are. -/
def isLinkLocal (network : IPNetwork) : Bool := network.address.isLinkLocal && network.broadcast.isLinkLocal

def isMulticast (network : IPNetwork) : Bool := network.address.isMulticast && network.broadcast.isMulticast

/-- `address in network`, which ignores zones. -/
def contains (network : IPNetwork) (address : IPAddress) : Bool :=
  network.version = address.version ∧
    network.address.value = address.value - address.value % 2 ^ (address.width - network.prefixlen)

theorem parse_chars (network : IPNetwork) : parse network.chars = some network := by
  simp [parse, chars, splitMask_chars, IPAddress.parse_chars, prefixOf_toDigits network.bounded, make?,
    network.bounded, network.aligned]

theorem chars_injective {left right : IPNetwork} (same : left.chars = right.chars) : left = right := by
  have parsed := parse_chars left
  rw [same, parse_chars right] at parsed
  exact (Option.some.inj parsed).symm

end IPNetwork

structure IPInterface where
  address : IPAddress
  prefixlen : Nat
  bounded : prefixlen ≤ address.width
deriving DecidableEq

namespace IPInterface

def version (interface : IPInterface) : Nat := interface.address.version

def chars (interface : IPInterface) : List Char := interface.address.chars ++ '/' :: Nat.toDigits 10 interface.prefixlen

def make? (address : IPAddress) (prefixlen : Nat) : Option IPInterface :=
  if bounded : prefixlen ≤ address.width then some ⟨address, prefixlen, bounded⟩ else none

def parse (text : List Char) : Option IPInterface :=
  (splitMask text).bind fun (address, mask) => (IPAddress.parse address).bind fun address =>
    (prefixOf address mask).bind (make? address)

def ip (interface : IPInterface) : IPAddress := interface.address.ip

def network (interface : IPInterface) : IPNetwork where
  address := interface.address.mask interface.prefixlen
  prefixlen := interface.prefixlen
  bounded := by simpa using interface.bounded
  aligned := by simpa using IPAddress.value_mask interface.prefixlen interface.address

theorem parse_chars (interface : IPInterface) : parse interface.chars = some interface := by
  simp [parse, chars, splitMask_chars, IPAddress.parse_chars, prefixOf_toDigits interface.bounded, make?,
    interface.bounded]

theorem chars_injective {left right : IPInterface} (same : left.chars = right.chars) : left = right := by
  have parsed := parse_chars left
  rw [same, parse_chars right] at parsed
  exact (Option.some.inj parsed).symm

end IPInterface

namespace IPNetwork

/-- An address of one version. -/
def parseAddress (version : Nat) (text : List Char) : Option IPAddress :=
  if version = 4 then (IPv4Address.parse text).map .v4 else (IPv6Address.parse text).map .v6

/-- `IPv4Network(text, strict=False)` or `IPv6Network(text, strict=False)`, which clears the host bits. -/
def parseLoose (version : Nat) (text : List Char) : Option IPNetwork :=
  (splitMask text).bind fun (address, mask) => (parseAddress version address).bind fun address =>
    (prefixOf address mask).bind fun length => (IPInterface.make? address length).map IPInterface.network

theorem parseAddress_chars (address : IPAddress) : parseAddress address.version address.chars = some address := by
  cases address with
  | v4 address => simp [parseAddress, IPAddress.version, IPAddress.chars, IPv4Address.parse_chars]
  | v6 address => simp [parseAddress, IPAddress.version, IPAddress.chars, IPv6Address.parse_chars]

theorem mask_of_aligned {address : IPAddress} {length : Nat} (aligned : address.value % 2 ^ (address.width - length) = 0) :
    address.mask length = address := by
  cases address with
  | v4 address =>
    simp only [IPAddress.value, IPAddress.width] at aligned
    simp [IPAddress.mask, aligned]
  | v6 address =>
    simp only [IPAddress.value, IPAddress.width] at aligned
    simp [IPAddress.mask, aligned]

theorem parseLoose_chars (network : IPNetwork) : parseLoose network.version network.chars = some network := by
  obtain ⟨address, length, bounded, aligned⟩ := network
  simp [parseLoose, chars, version, splitMask_chars, parseAddress_chars, prefixOf_toDigits bounded, IPInterface.make?, bounded,
    IPInterface.network, mask_of_aligned aligned]

end IPNetwork

abbrev IPv4Network := { network : IPNetwork // network.version = 4 }

end IpAddress
