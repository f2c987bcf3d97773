import Nslab.Library.Document

/-! The text that `json.dumps` writes with sorted keys and no blanks, in ASCII or
with every character as it is. -/

namespace JsonText

/-- `\\uXXXX`, the escape of a code unit. -/
def escapeUnit (unit : Nat) : List Char := '\\' :: 'u' :: (Text.toBase 16 4 unit).map Nat.digitChar

def escapeChar (ascii : Bool) (char : Char) : List Char :=
  if char = '"' then ['\\', '"']
  else if char = '\\' then ['\\', '\\']
  else if char = '\n' then ['\\', 'n']
  else if char = '\r' then ['\\', 'r']
  else if char = '\t' then ['\\', 't']
  else if char.toNat = 8 then ['\\', 'b']
  else if char.toNat = 12 then ['\\', 'f']
  else if char.toNat < 32 then escapeUnit char.toNat
  else if ascii = false ∨ char.toNat < 127 then [char]
  else if char.toNat < 65536 then escapeUnit char.toNat
  else
    let offset := char.toNat - 65536
    escapeUnit (55296 + offset / 1024) ++ escapeUnit (56320 + offset % 1024)

def quote (ascii : Bool) (text : String) : List Char := '"' :: text.toList.flatMap (escapeChar ascii) ++ ['"']

def encodeFloat : Float64 → String
  | .nan => "NaN"
  | .infinity negative => if negative then "-Infinity" else "Infinity"
  | value => value.repr

mutual
def encode (ascii : Bool) : Document → List Char
  | .null => "null".toList
  | .bool value => (if value then "true" else "false").toList
  | .int value => (toString value).toList
  | .float value => (encodeFloat value).toList
  | .str value => quote ascii value
  | .sequence _ items => '[' :: encodeItems ascii items ++ [']']
  | .mapping _ entries => '\x7b' :: encodeEntries ascii entries ++ ['\x7d']
termination_by structural document => document

def encodeItems (ascii : Bool) : List Document → List Char
  | [] => []
  | item :: items => encode ascii item ++ (if items.isEmpty then [] else ',' :: encodeItems ascii items)
termination_by structural items => items

def encodeEntries (ascii : Bool) : List (String × Document) → List Char
  | [] => []
  | (key, value) :: entries =>
    quote ascii key ++ ':' :: encode ascii value ++ (if entries.isEmpty then [] else ',' :: encodeEntries ascii entries)
termination_by structural entries => entries
end

/-- `json.dumps(document, sort_keys=True, separators=(",", ":"), ensure_ascii=ascii)`. -/
def dumps (document : Document) (ascii : Bool := false) : String := String.ofList (encode ascii document.decoded)

section Indented

/-- A new line at a depth of two blanks each. -/
def newline (depth : Nat) : List Char := '\n' :: List.replicate (2 * depth) ' '

mutual
def encodeIndented (depth : Nat) : Document → List Char
  | .sequence frozen items =>
    if items.isEmpty then encode true (.sequence frozen items)
    else '[' :: encodeIndentedItems (depth + 1) items ++ newline depth ++ [']']
  | .mapping frozen entries =>
    if entries.isEmpty then encode true (.mapping frozen entries)
    else '\x7b' :: encodeIndentedEntries (depth + 1) entries ++ newline depth ++ ['\x7d']
  | .null => encode true .null
  | .bool value => encode true (.bool value)
  | .int value => encode true (.int value)
  | .float value => encode true (.float value)
  | .str value => encode true (.str value)
termination_by structural document => document

def encodeIndentedItems (depth : Nat) : List Document → List Char
  | [] => []
  | item :: items => newline depth ++ encodeIndented depth item ++
    (if items.isEmpty then [] else ',' :: encodeIndentedItems depth items)
termination_by structural items => items

def encodeIndentedEntries (depth : Nat) : List (String × Document) → List Char
  | [] => []
  | (key, value) :: entries => newline depth ++ quote true key ++ ": ".toList ++ encodeIndented depth value ++
    (if entries.isEmpty then [] else ',' :: encodeIndentedEntries depth entries)
termination_by structural entries => entries
end

/-- `json.dumps(document, sort_keys=True, indent=2)`. -/
def dumpsIndented (document : Document) : String := String.ofList (encodeIndented 0 document.decoded)

end Indented

section Pretty

mutual
/-- The text with a line for every item, and with every character as it is unless `ascii` asks for escapes. -/
def encodePretty (ascii : Bool) (depth : Nat) : Document → List Char
  | .sequence frozen items =>
    if items.isEmpty then encode ascii (.sequence frozen items)
    else '[' :: encodePrettyItems ascii (depth + 1) items ++ newline depth ++ [']']
  | .mapping frozen entries =>
    if entries.isEmpty then encode ascii (.mapping frozen entries)
    else '\x7b' :: encodePrettyEntries ascii (depth + 1) entries ++ newline depth ++ ['\x7d']
  | .null => encode ascii .null
  | .bool value => encode ascii (.bool value)
  | .int value => encode ascii (.int value)
  | .float value => encode ascii (.float value)
  | .str value => encode ascii (.str value)
termination_by structural document => document

def encodePrettyItems (ascii : Bool) (depth : Nat) : List Document → List Char
  | [] => []
  | item :: items => newline depth ++ encodePretty ascii depth item ++
    (if items.isEmpty then [] else ',' :: encodePrettyItems ascii depth items)
termination_by structural items => items

def encodePrettyEntries (ascii : Bool) (depth : Nat) : List (String × Document) → List Char
  | [] => []
  | (key, value) :: entries => newline depth ++ quote ascii key ++ ": ".toList ++ encodePretty ascii depth value ++
    (if entries.isEmpty then [] else ',' :: encodePrettyEntries ascii depth entries)
termination_by structural entries => entries
end

/-- `json.dumps(document, sort_keys=True, indent=2, ensure_ascii=ascii)`. -/
def dumpsPretty (ascii : Bool) (document : Document) : String := String.ofList (encodePretty ascii 0 document.decoded)

mutual
theorem encodeIndented_eq (depth : Nat) (document : Document) : encodeIndented depth document = encodePretty true depth document := by
  match document with
  | .sequence _ items => simp only [encodeIndented, encodePretty, items_indented]
  | .mapping _ entries => simp only [encodeIndented, encodePretty, entries_indented]
  | .null | .bool _ | .int _ | .float _ | .str _ => rfl

theorem items_indented (depth : Nat) (items : List Document) :
    encodeIndentedItems depth items = encodePrettyItems true depth items := by
  match items with
  | [] => rfl
  | item :: rest => simp only [encodeIndentedItems, encodePrettyItems, encodeIndented_eq depth item, items_indented depth rest]

theorem entries_indented (depth : Nat) (entries : List (String × Document)) :
    encodeIndentedEntries depth entries = encodePrettyEntries true depth entries := by
  match entries with
  | [] => rfl
  | (key, value) :: rest =>
    simp only [encodeIndentedEntries, encodePrettyEntries, encodeIndented_eq depth value, entries_indented depth rest]
end

/-- In ASCII the indented text is the pretty one. -/
theorem dumpsIndented_eq (document : Document) : dumpsIndented document = dumpsPretty true document := by
  rw [dumpsIndented, dumpsPretty, encodeIndented_eq]

end Pretty

/-- Integers of more digits are neither written nor read. -/
def maxDigits : Nat := 4300

end JsonText
