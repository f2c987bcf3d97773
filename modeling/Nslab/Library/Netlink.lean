import Nslab.Library.Text

/-! Netlink messages as a netlink library hands them over: named fields of the
header and a list of named attributes, which may hold messages again. -/

namespace Netlink

inductive Value where
  | int (value : Int)
  | text (value : String)
  | message (fields attributes : List (String × Value))
  | list (items : List Value)

structure Message where
  fields : List (String × Value) := []
  attributes : List (String × Value) := []

/-- `int(value)`, on integers and numerals. -/
def Value.int? : Value → Option Int
  | .int value => some value
  | .text numeral => match numeral.toList with
    | '-' :: digits => (Text.decimal? digits).map fun value => -(value : Int)
    | digits => (Text.decimal? digits).map fun value => (value : Int)
  | _ => none

/-- `str(value)` of integers and texts. -/
def Value.text? : Value → Option String
  | .int value => some (toString value)
  | .text chars => some chars
  | _ => none

def Value.message? : Value → Option Message
  | .message fields attributes => some ⟨fields, attributes⟩
  | _ => none

/-- An attribute of a nested message. Nothing else has attributes. -/
def Value.attr (value : Value) (name : String) : Option Value := value.message?.bind fun message =>
  (message.attributes.lookup name).or (message.fields.lookup name)

/-- Whether flags have the one bit of a mask. -/
def flag (flags mask : Int) : Bool := flags / mask % 2 = 1

namespace Message

/-- A field of the header. -/
def field (message : Message) (name : String) : Option Value := message.fields.lookup name

/-- An attribute, or else a field of that name. -/
def attr (message : Message) (name : String) : Option Value :=
  (message.attributes.lookup name).or (message.fields.lookup name)

def attrNames (message : Message) : List String := message.attributes.map Prod.fst

/-- `int(message.get(name, default))`. -/
def intField (message : Message) (name : String) (default : Int) : Option Int :=
  match message.field name with
  | none => some default
  | some value => value.int?

/-- `int(get(name, default))` of an attribute. -/
def intAttr (message : Message) (name : String) (default : Int) : Option Int :=
  match message.attr name with
  | none => some default
  | some value => value.int?

theorem attr_of_field {message : Message} {name : String} (none : message.field name = none) :
    message.attr name = message.attributes.lookup name := by
  rw [attr, ← field, none, Option.or_none]

theorem lookup_of_mem_attrNames {message : Message} {name : String} (listed : name ∈ message.attrNames) :
    message.attributes.lookup name ≠ none := by
  obtain ⟨entry, member, rfl⟩ := List.mem_map.mp listed
  intro absent
  have apart := List.lookup_eq_none_iff.mp absent entry member
  simp at apart

theorem mem_attrNames {message : Message} {name : String} {value : Value} (found : message.attributes.lookup name = some value) :
    name ∈ message.attrNames := by
  obtain ⟨before, after, shape, _⟩ := List.lookup_eq_some_iff.mp found
  rw [attrNames, shape]
  simp

end Message

section Arguments

/-- Named arguments, without those that are absent. -/
def present (arguments : List (String × Option Value)) : List (String × Value) :=
  arguments.filterMap fun argument => argument.2.map (argument.1, ·)

@[simp] theorem lookup_present_nil (name : String) : (present []).lookup name = none := rfl

theorem lookup_present_cons (argument : String × Option Value) (rest : List (String × Option Value)) (name : String) :
    (present (argument :: rest)).lookup name =
      if argument.1 = name then argument.2.or ((present rest).lookup name) else (present rest).lookup name := by
  obtain ⟨own, value⟩ := argument
  cases value with
  | none => simp [present]
  | some value =>
    by_cases same : own = name
    · simp [present, same]
    · have other : (name == own) = false := by simpa using Ne.symm same
      simp [present, same, List.lookup_cons, other]

end Arguments

end Netlink
