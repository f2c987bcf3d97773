import Nslab.Library.Document

/-! Declarative schemas in the manner of pydantic. A codec reads a document into
a value, reporting the first issue, and dumps a value as a document. What it
dumps it reads back, whatever the container types and the order of keys: the
value comes back settled, its mappings in the order the document had them. -/

namespace Schema

structure Issue where
  location : List String
  message : String
deriving DecidableEq

def refuse {α : Type} (message : String) : Except Issue α := .error ⟨[], message⟩

/-- Issues of a part are located below its name. -/
def located {α : Type} (name : String) (result : Except Issue α) : Except Issue α :=
  Checks.mapIssue (fun issue => { issue with location := name :: issue.location }) result

@[simp] theorem located_ok {α : Type} {name : String} {result : Except Issue α} {value : α} :
    located name result = .ok value ↔ result = .ok value := by
  simp [located]

@[simp] theorem refuse_ok {α : Type} {message : String} {value : α} : refuse message = .ok value ↔ False := by
  simp [refuse]

structure Codec (α : Type) where
  read : Document → Except Issue α
  dump : α → Document
  /-- The value as it is read back, from a document with sorted keys or not. -/
  settle : Bool → α → α
  /-- What reading a plain document establishes. -/
  holds : α → Prop
  given : ∀ value, dump value ≠ .null
  plain : ∀ value, (dump value).plain = true
  reads : ∀ value sorted frozen, holds value → read ((dump value).reshape sorted frozen) = .ok (settle sorted value)
  sound : ∀ document value, document.plain = true → read document = .ok value → holds value

namespace Codec

variable {α β : Type}

/-- Settling keeps what was established. -/
theorem holds_settle {codec : Codec α} {value : α} (sorted : Bool) (holds : codec.holds value) :
    codec.holds (codec.settle sorted value) :=
  codec.sound _ _ (Document.plain_reshape _ sorted) (codec.reads value sorted false holds)

/-- A value is read back from its own dump. -/
theorem reads_dump {codec : Codec α} {value : α} (holds : codec.holds value) :
    codec.read (codec.dump value) = .ok (codec.settle false value) := by
  have read := codec.reads value false false holds
  rwa [Document.reshape_plain (codec.plain value)] at read

/-- Every value is read back as it was. -/
class Exact (codec : Codec α) : Prop where
  exact : ∀ sorted value, codec.settle sorted value = value

section Leaves

def text : Codec String where
  read
    | .str value => .ok value
    | _ => refuse "Input should be a valid string"
  dump := .str
  settle _ value := value
  holds _ := True
  given _ := by simp
  plain _ := rfl
  reads _ _ _ _ := rfl
  sound _ _ _ _ := trivial

/-- `StrictInt`. -/
def strictInt : Codec Int where
  read
    | .int value => .ok value
    | _ => refuse "Input should be a valid integer"
  dump := .int
  settle _ value := value
  holds _ := True
  given _ := by simp
  plain _ := rfl
  reads _ _ _ _ := rfl
  sound _ _ _ _ := trivial

/-- `StrictBool`. -/
def strictBool : Codec Bool where
  read
    | .bool value => .ok value
    | _ => refuse "Input should be a valid boolean"
  dump := .bool
  settle _ value := value
  holds _ := True
  given _ := by simp
  plain _ := rfl
  reads _ _ _ _ := rfl
  sound _ _ _ _ := trivial

/-- `float`, which also takes integers, booleans and numerals. -/
def float : Codec Float64 where
  read
    | .float value => .ok value
    | .int value => .ok (Float64.ofInt value)
    | .bool value => .ok (.finite (if value then 1 else 0))
    | .str value => match Float64.ofChars? value.trimAscii.toString.toList with
      | some value => .ok value
      | none => refuse "Input should be a valid number, unable to parse string as a number"
    | _ => refuse "Input should be a valid number"
  dump := .float
  settle _ value := value
  holds _ := True
  given _ := by simp
  plain _ := rfl
  reads _ _ _ _ := rfl
  sound _ _ _ _ := trivial

/-- Values denoted by texts. -/
def ofText (parse : List Char → Option α) (print : α → List Char) (other message : String)
    (parses : ∀ value, parse (print value) = some value) : Codec α where
  read
    | .str text => match parse text.toList with
      | some value => .ok value
      | none => refuse message
    | _ => refuse other
  dump value := .str (String.ofList (print value))
  settle _ value := value
  holds _ := True
  given _ := by simp
  plain _ := rfl
  reads value _ _ _ := by simp [Document.reshape, parses]
  sound _ _ _ _ := trivial

/-- `Literal[...]`: one of a few values, each denoted by its name. -/
def choice (name : α → String) (all : List α) (message : String)
    (complete : ∀ value, all.find? (fun other => name other = name value) = some value) : Codec α where
  read
    | .str text => match all.find? fun value => name value = text with
      | some value => .ok value
      | none => refuse message
    | _ => refuse message
  dump value := .str (name value)
  settle _ value := value
  holds _ := True
  given _ := by simp
  plain _ := rfl
  reads value _ _ _ := by simp [Document.reshape, complete]
  sound _ _ _ _ := trivial

theorem settle_exact (codec : Codec α) [exact : codec.Exact] (sorted : Bool) (value : α) :
    codec.settle sorted value = value := exact.exact sorted value

theorem holds_strictBool (value : Bool) : strictBool.holds value := trivial

instance : text.Exact := ⟨fun _ _ => rfl⟩

instance : strictInt.Exact := ⟨fun _ _ => rfl⟩

instance : strictBool.Exact := ⟨fun _ _ => rfl⟩

instance : float.Exact := ⟨fun _ _ => rfl⟩

instance {parse : List Char → Option α} {print} {other message} {parses} : (ofText parse print other message parses).Exact :=
  ⟨fun _ _ => rfl⟩

instance {name : α → String} {all} {message} {complete} : (choice name all message complete).Exact := ⟨fun _ _ => rfl⟩

end Leaves

/-- A check on the document before it is read. -/
def before (codec : Codec α) (check : Document → Except Issue Unit)
    (passes : ∀ value sorted frozen, codec.holds value → check ((codec.dump value).reshape sorted frozen) = .ok ()) :
    Codec α where
  read document := do
    check document
    codec.read document
  dump := codec.dump
  settle := codec.settle
  holds := codec.holds
  given := codec.given
  plain := codec.plain
  reads value sorted frozen holds := by simp [passes value sorted frozen holds, codec.reads value sorted frozen holds]
  sound document value plain read := by
    simp only [Checks.bind_ok, Checks.exists_unit] at read
    exact codec.sound document value plain read.2

/-- A check on the document that establishes more about the values of plain documents. -/
def guarded (codec : Codec α) (check : Document → Except Issue Unit) (extra : α → Prop)
    (passes : ∀ value sorted frozen, codec.holds value → extra value →
      check ((codec.dump value).reshape sorted frozen) = .ok ())
    (establishes : ∀ document value, document.plain = true → check document = .ok () →
      codec.read document = .ok value → extra value) : Codec α where
  read document := do
    check document
    codec.read document
  dump := codec.dump
  settle := codec.settle
  holds value := codec.holds value ∧ extra value
  given := codec.given
  plain := codec.plain
  reads value sorted frozen holds := by
    simp [passes value sorted frozen holds.1 holds.2, codec.reads value sorted frozen holds.1]
  sound document value plain read := by
    simp only [Checks.bind_ok, Checks.exists_unit] at read
    exact ⟨codec.sound document value plain read.2, establishes document value plain read.1 read.2⟩

/-- A validator that runs on the value read. -/
def checked (codec : Codec α) (check : α → Except Issue Unit)
    (stable : ∀ sorted value, codec.holds value → check value = .ok () → check (codec.settle sorted value) = .ok ()) :
    Codec α where
  read document := do
    let value ← codec.read document
    check value
    pure value
  dump := codec.dump
  settle := codec.settle
  holds value := codec.holds value ∧ check value = .ok ()
  given := codec.given
  plain := codec.plain
  reads value sorted frozen holds := by
    simp [codec.reads value sorted frozen holds.1, stable sorted value holds.1 holds.2]
  sound document value plain read := by
    simp only [Checks.bind_ok, Checks.pure_ok, Checks.exists_unit] at read
    obtain ⟨value, inner, valid, rfl⟩ := read
    exact ⟨codec.sound document value plain inner, valid⟩

/-- A validator of values that are read back as they were. -/
def validated (codec : Codec α) [exact : codec.Exact] (check : α → Except Issue Unit) : Codec α :=
  codec.checked check fun sorted value _ valid => by rw [exact.exact sorted value, valid]

instance {codec : Codec α} [exact : codec.Exact] {check : α → Except Issue Unit} : (codec.validated check).Exact :=
  ⟨exact.exact⟩

instance {codec : Codec α} [exact : codec.Exact] {check} {passes} : (codec.before check passes).Exact := ⟨exact.exact⟩

/-- An integer within bounds. -/
def between (lower upper : Int) : Codec Int :=
  strictInt.validated fun value => do
    Checks.raiseIf (value < lower) ⟨[], "Input should be greater than or equal to " ++ toString lower⟩
    Checks.raiseIf (upper < value) ⟨[], "Input should be less than or equal to " ++ toString upper⟩

def atLeast (lower : Int) : Codec Int :=
  strictInt.validated fun value =>
    Checks.raiseIf (value < lower) ⟨[], "Input should be greater than or equal to " ++ toString lower⟩

theorem holds_between {lower upper value : Int} : (between lower upper).holds value ↔ lower ≤ value ∧ value ≤ upper := by
  simp [between, validated, checked, strictInt]

theorem holds_atLeast {lower value : Int} : (atLeast lower).holds value ↔ lower ≤ value := by
  simp [atLeast, validated, checked, strictInt]

instance {lower upper : Int} : (between lower upper).Exact := inferInstanceAs (strictInt.validated _).Exact

instance {lower : Int} : (atLeast lower).Exact := inferInstanceAs (strictInt.validated _).Exact

/-- An equivalent representation of the values. -/
def iso (codec : Codec α) (make : α → β) (back : β → α) (left : ∀ value, back (make value) = value) : Codec β where
  read document := (codec.read document).map make
  dump value := codec.dump (back value)
  settle sorted value := make (codec.settle sorted (back value))
  holds value := codec.holds (back value)
  given value := codec.given (back value)
  plain value := codec.plain (back value)
  reads value sorted frozen holds := by simp [codec.reads (back value) sorted frozen holds, Except.map]
  sound document value plain read := by
    cases inner : codec.read document with
    | error issue => simp [inner, Except.map] at read
    | ok value =>
      simp only [inner, Except.map, Except.ok.injEq] at read
      rw [← read, left]
      exact codec.sound document value plain inner

/-- Values are completed before they are dumped. -/
def completed (codec : Codec α) (complete : α → α) (keeps : ∀ value, codec.holds value → codec.holds (complete value)) :
    Codec α where
  read := codec.read
  dump value := codec.dump (complete value)
  settle sorted value := codec.settle sorted (complete value)
  holds := codec.holds
  given value := codec.given (complete value)
  plain value := codec.plain (complete value)
  reads value sorted frozen holds := codec.reads (complete value) sorted frozen (keeps value holds)
  sound := codec.sound

section Sequences

/-- Read the items one after the other, each located at its index. -/
def readItems (codec : Codec α) (index : Nat) : List Document → Except Issue (List α)
  | [] => .ok []
  | item :: items => do
    let value ← located (toString index) (codec.read item)
    let values ← readItems codec (index + 1) items
    pure (value :: values)

theorem readItems_dump {codec : Codec α} {values : List α} (index : Nat) (sorted frozen : Bool)
    (holds : ∀ value ∈ values, codec.holds value) :
    codec.readItems index (values.map fun value => (codec.dump value).reshape sorted frozen) =
      .ok (values.map (codec.settle sorted)) := by
  induction values generalizing index with
  | nil => rfl
  | cons value values ih =>
    simp only [List.mem_cons, forall_eq_or_imp] at holds
    simp [readItems, codec.reads value sorted frozen holds.1, ih _ holds.2]

theorem readItems_sound {codec : Codec α} {items : List Document} {index : Nat} {values : List α}
    (plain : ∀ item ∈ items, item.plain = true) (read : codec.readItems index items = .ok values) :
    ∀ value ∈ values, codec.holds value := by
  induction items generalizing index values with
  | nil =>
    simp only [readItems, Except.ok.injEq] at read
    simp [← read]
  | cons item items ih =>
    simp only [readItems, Checks.bind_ok, Checks.pure_ok, located_ok] at read
    obtain ⟨value, first, rest, later, rfl⟩ := read
    simp only [List.mem_cons, forall_eq_or_imp] at plain ⊢
    exact ⟨codec.sound item value plain.1 first, ih plain.2 later⟩

/-- `tuple[X, ...]`, from a list or a tuple. -/
def sequence (codec : Codec α) : Codec (List α) where
  read
    | .sequence _ items => codec.readItems 0 items
    | _ => refuse "Input should be a valid tuple"
  dump values := .list (values.map codec.dump)
  settle sorted values := values.map (codec.settle sorted)
  holds values := ∀ value ∈ values, codec.holds value
  given _ := by simp
  plain values := by
    rw [Document.plain_sequence]
    simp [codec.plain]
  reads values sorted frozen holds := by
    simpa [Document.reshape, Function.comp_def] using readItems_dump 0 sorted frozen holds
  sound document values plain read := by
    cases document with
    | sequence frozen items => exact readItems_sound (Document.plain_sequence.mp plain).2 read
    | _ => simp at read

end Sequences

instance {codec : Codec α} [exact : codec.Exact] : codec.sequence.Exact where
  exact sorted values := by
    have same : codec.settle sorted = id := funext (exact.exact sorted)
    simp [sequence, same]

/-- A sequence whose input is checked to be a list or a tuple before anything else. -/
def listed (label : String) (codec : Codec α) : Codec (List α) :=
  codec.sequence.before
    (fun document => match document with
      | .sequence _ _ => .ok ()
      | _ => refuse (label ++ " must be a list or tuple"))
    fun _ _ _ _ => rfl

instance {label : String} {codec : Codec α} [codec.Exact] : (listed label codec).Exact :=
  ⟨codec.sequence.settle_exact⟩

section Mappings

def readEntries (codec : Codec α) : List (String × Document) → Except Issue (List (String × α))
  | [] => .ok []
  | (key, item) :: entries => do
    let value ← located key (codec.read item)
    let values ← readEntries codec entries
    pure ((key, value) :: values)

theorem readEntries_dump {codec : Codec α} {entries : List (String × α)} (sorted frozen : Bool)
    (holds : ∀ entry ∈ entries, codec.holds entry.2) :
    codec.readEntries (entries.map fun entry => (entry.1, (codec.dump entry.2).reshape sorted frozen)) =
      .ok (entries.map fun entry => (entry.1, codec.settle sorted entry.2)) := by
  induction entries with
  | nil => rfl
  | cons entry entries ih =>
    simp only [List.mem_cons, forall_eq_or_imp] at holds
    simp [readEntries, codec.reads entry.2 sorted frozen holds.1, ih holds.2]

theorem keys_readEntries {codec : Codec α} {items : List (String × Document)} {entries : List (String × α)}
    (read : codec.readEntries items = .ok entries) : entries.map Prod.fst = items.map Prod.fst := by
  induction items generalizing entries with
  | nil =>
    simp only [readEntries, Except.ok.injEq] at read
    simp [← read]
  | cons item items ih =>
    simp only [readEntries, Checks.bind_ok, Checks.pure_ok, located_ok] at read
    obtain ⟨value, _, rest, later, rfl⟩ := read
    simp [ih later]

theorem read_of_readEntries {codec : Codec α} {items : List (String × Document)} {entries : List (String × α)}
    (read : codec.readEntries items = .ok entries) : ∀ item ∈ items, ∃ value, codec.read item.2 = .ok value := by
  induction items generalizing entries with
  | nil => exact List.forall_mem_nil _
  | cons item items ih =>
    simp only [readEntries, Checks.bind_ok, located_ok] at read
    obtain ⟨value, first, rest, later, _⟩ := read
    rw [List.forall_mem_cons]
    exact ⟨⟨value, first⟩, ih later⟩

theorem readEntries_sound {codec : Codec α} {items : List (String × Document)} {entries : List (String × α)}
    (plain : ∀ item ∈ items, item.2.plain = true) (read : codec.readEntries items = .ok entries) :
    ∀ entry ∈ entries, codec.holds entry.2 := by
  induction items generalizing entries with
  | nil =>
    simp only [readEntries, Except.ok.injEq] at read
    simp [← read]
  | cons item items ih =>
    simp only [readEntries, Checks.bind_ok, Checks.pure_ok, located_ok] at read
    obtain ⟨value, first, rest, later, rfl⟩ := read
    simp only [List.mem_cons, forall_eq_or_imp] at plain ⊢
    exact ⟨codec.sound item.2 value plain.1 first, ih plain.2 later⟩

/-- `dict[str, X]`. -/
def mapping (codec : Codec α) : Codec (Dict String α) where
  read
    | .mapping _ items => (codec.readEntries items).map Dict.ofEntries
    | _ => refuse "Input should be a valid dictionary"
  dump dict := .dict (dict.entries.map fun entry => (entry.1, codec.dump entry.2))
  settle sorted dict :=
    let settled := dict.map fun _ => codec.settle sorted
    if sorted then settled.sorted else settled
  holds dict := ∀ value ∈ dict.values, codec.holds value
  given _ := by simp
  plain dict := by
    rw [Document.plain_mapping]
    refine ⟨rfl, fun entry member => ?_⟩
    obtain ⟨given, _, rfl⟩ := List.mem_map.mp member
    exact codec.plain given.2
  reads dict sorted frozen holds := by
    have entries : ∀ entry ∈ dict.entries, codec.holds entry.2 := fun entry member =>
      holds entry.2 (List.mem_map_of_mem member)
    cases sorted with
    | false =>
      have read := readEntries_dump false frozen entries
      simp only [Document.reshape, Document.reshapeEntries_eq, List.map_map, Function.comp_def, Bool.false_eq_true,
        if_false, read, Except.map]
      exact congrArg Except.ok (Dict.ext (Dict.entries_ofEntries (dict.map fun _ => codec.settle false).unique))
    | true =>
      have sorted : ∀ entry ∈ Dict.sortEntries dict.entries, codec.holds entry.2 := fun entry member =>
        entries entry ((Dict.sortEntries_perm _).mem_iff.mp member)
      have read := readEntries_dump true frozen sorted
      rw [Dict.sortEntries_map dict.entries fun value => (codec.dump value).reshape true frozen,
        Dict.sortEntries_map dict.entries (codec.settle true)] at read
      simp only [Document.reshape, Document.reshapeEntries_eq, List.map_map, Function.comp_def, if_true, read,
        Except.map]
      exact congrArg Except.ok (Dict.ext (Dict.entries_ofEntries (dict.map fun _ => codec.settle true).sorted.unique))
  sound document dict plain read := by
    cases document with
    | mapping frozen items =>
      simp only [Except.map] at read
      split at read
      · simp at read
      next entries found =>
        simp only [Except.ok.injEq] at read
        have all := readEntries_sound (Document.plain_mapping.mp plain).2 found
        intro value member
        obtain ⟨key, stored⟩ := Dict.mem_values_iff.mp member
        rw [← read] at stored
        exact all _ (Dict.mem_of_get?_ofEntries stored)
    | _ => simp at read

/-- A dictionary whose keys are checked. -/
def named (codec : Codec α) (check : String → Except Issue Unit) : Codec (Dict String α) :=
  codec.mapping.checked (fun dict => Checks.each dict.keys check) fun sorted dict _ valid => by
    rw [Checks.each_ok] at valid ⊢
    intro key member
    have settled : codec.mapping.settle sorted dict = (dict.map fun _ => codec.settle sorted).arranged sorted := rfl
    rw [settled, Dict.mem_keys_arranged, Dict.keys_map] at member
    exact valid key member

theorem settle_named (codec : Codec α) (check : String → Except Issue Unit) (sorted : Bool) (dict : Dict String α) :
    (codec.named check).settle sorted dict = (dict.map fun _ => codec.settle sorted).arranged sorted := rfl

theorem holds_named {codec : Codec α} {check : String → Except Issue Unit} {dict : Dict String α} :
    (codec.named check).holds dict ↔ (∀ value ∈ dict.values, codec.holds value) ∧ ∀ key ∈ dict.keys, check key = .ok () := by
  simp [named, checked, mapping]

/-- Settling a dictionary of exact values only arranges its keys. -/
theorem settle_mapping {codec : Codec α} [exact : codec.Exact] (sorted : Bool) (dict : Dict String α) :
    codec.mapping.settle sorted dict = dict.arranged sorted := by
  have same : dict.map (fun _ => codec.settle sorted) = dict := by
    apply Dict.ext
    simp [Dict.map, exact.exact sorted]
  simp [mapping, Dict.arranged, same]

end Mappings

end Codec

/-- The fields of a class: each is looked up by its name among the entries of a mapping. -/
structure Fields (α : Type) where
  names : List String
  read : List (String × Document) → Except Issue α
  dump : α → List (String × Document)
  settle : Bool → α → α
  holds : α → Prop
  named : ∀ value, ∀ entry ∈ dump value, entry.1 ∈ names
  distinct : ∀ value, ((dump value).map Prod.fst).Nodup
  plain : ∀ value, ∀ entry ∈ dump value, entry.2.plain = true
  reads : ∀ value sorted frozen entries, holds value →
    (∀ name ∈ names, entries.lookup name = ((dump value).lookup name).map (Document.reshape sorted frozen)) →
    read entries = .ok (settle sorted value)
  sound : ∀ entries value, (∀ entry ∈ entries, entry.2.plain = true) → read entries = .ok value → holds value

namespace Fields

variable {α β : Type}

theorem lookup_absent {entries : List (String × Document)} {name : String}
    (absent : ∀ entry ∈ entries, entry.1 ≠ name) : entries.lookup name = none :=
  List.lookup_eq_none_iff.mpr fun entry member => by simpa using (absent entry member).symm

theorem plain_lookup {entries : List (String × Document)} {name : String} {document : Document}
    (plain : ∀ entry ∈ entries, entry.2.plain = true) (found : entries.lookup name = some document) :
    document.plain = true := by
  obtain ⟨before, after, rfl, _⟩ := List.lookup_eq_some_iff.mp found
  exact plain (name, document) (by simp)

section Members

def required (name : String) (codec : Codec α) : Fields α where
  names := [name]
  read entries := located name (match entries.lookup name with
    | some document => codec.read document
    | none => refuse "Field required")
  dump value := [(name, codec.dump value)]
  settle := codec.settle
  holds := codec.holds
  named value := by simp
  distinct value := by simp
  plain value := by simp [codec.plain]
  reads value sorted frozen entries holds found := by
    have stored := found name (by simp)
    simp only [List.lookup_cons_self, Option.map_some] at stored
    simp [stored, codec.reads value sorted frozen holds]
  sound entries value plain read := by
    rw [located_ok] at read
    split at read
    next document found => exact codec.sound document value (plain_lookup plain found) read
    next => simp at read

/-- A field that is left out of the dump when its value is the default one and `skip` says so. -/
def optional (name : String) (default : α) (codec : Codec α) (skip : α → Bool)
    (fixed : ∀ value sorted, skip value = true → default = codec.settle sorted value) (valid : codec.holds default) :
    Fields α where
  names := [name]
  read entries := located name (match entries.lookup name with
    | some document => codec.read document
    | none => .ok default)
  dump value := if skip value then [] else [(name, codec.dump value)]
  settle := codec.settle
  holds := codec.holds
  named value := by split <;> simp
  distinct value := by split <;> simp
  plain value := by split <;> simp [codec.plain]
  reads value sorted frozen entries holds found := by
    have stored := found name (by simp)
    cases skipped : skip value with
    | true =>
      simp only [skipped, if_true, List.lookup_nil, Option.map_none] at stored
      simp [stored, ← fixed value sorted skipped]
    | false =>
      simp only [skipped, Bool.false_eq_true, if_false, List.lookup_cons_self, Option.map_some] at stored
      simp [stored, codec.reads value sorted frozen holds]
  sound entries value plain read := by
    rw [located_ok] at read
    split at read
    next document found => exact codec.sound document value (plain_lookup plain found) read
    next => exact Except.ok.inj read ▸ valid

/-- A field with a default, which is always dumped. -/
def defaulted (name : String) (default : α) (codec : Codec α) (valid : codec.holds default) : Fields α :=
  optional name default codec (fun _ => false) (fun _ _ skipped => absurd skipped (by simp)) valid

/-- `X | None = None`, left out of the dump when there is no value. -/
def nullable (name : String) (codec : Codec α) : Fields (Option α) where
  names := [name]
  read entries := located name (match entries.lookup name with
    | none => .ok none
    | some .null => .ok none
    | some document => (codec.read document).map some)
  dump
    | none => []
    | some value => [(name, codec.dump value)]
  settle sorted value := value.map (codec.settle sorted)
  holds value := ∀ given ∈ value, codec.holds given
  named value := by cases value <;> simp
  distinct value := by cases value <;> simp
  plain value := by cases value <;> simp [codec.plain]
  reads value sorted frozen entries holds found := by
    have stored := found name (by simp)
    cases value with
    | none =>
      simp only [List.lookup_nil, Option.map_none] at stored
      simp [stored]
    | some value =>
      simp only [List.lookup_cons_self, Option.map_some] at stored
      have given : (codec.dump value).reshape sorted frozen ≠ .null := by
        have nonnull := codec.given value
        cases shape : codec.dump value <;> simp_all [Document.reshape]
      rw [located_ok, stored]
      simp only [codec.reads value sorted frozen (holds value rfl), Except.map, Option.map_some]
  sound entries value plain read := by
    rw [located_ok] at read
    split at read
    · simp [← Except.ok.inj read]
    · simp [← Except.ok.inj read]
    next document _ found =>
      cases inner : codec.read document with
      | error issue => simp [inner, Except.map] at read
      | ok given =>
        simp only [inner, Except.map, Except.ok.injEq] at read
        rw [← read]
        intro other same
        rw [← Option.some.inj same]
        exact codec.sound document given (plain_lookup plain found) inner

/-- The discriminating field of a class, which always has the same value. -/
def tag (name value : String) : Fields Unit where
  names := [name]
  read entries := located name (match entries.lookup name with
    | some (.str given) => Checks.raiseIf (given ≠ value) ⟨[], "Input should be '" ++ value ++ "'"⟩
    | some _ => refuse ("Input should be '" ++ value ++ "'")
    | none => refuse "Field required")
  dump _ := [(name, .str value)]
  settle _ value := value
  holds _ := True
  named _ := by simp
  distinct _ := by simp
  plain _ := by simp [Document.plain]
  reads _ sorted frozen entries _ found := by
    have stored := found name (by simp)
    simp only [List.lookup_cons_self, Option.map_some, Document.reshape] at stored
    simp [stored]
  sound _ _ _ _ := trivial

/-- A field that is dumped under an alias. Either name is read, but not both at once. -/
def aliased (fields : Fields α) (shown name : String) (single : fields.names = [shown]) (other : name ≠ shown) :
    Fields α where
  names := [shown, name]
  read entries := match entries.lookup name with
    | none => fields.read entries
    | some document => match entries.lookup shown with
      | none => fields.read [(shown, document)]
      | some _ => located name (refuse "Extra inputs are not permitted")
  dump := fields.dump
  settle := fields.settle
  holds := fields.holds
  named value entry member := by
    have named := fields.named value entry member
    rw [single] at named
    exact List.mem_cons.mpr (.inl (List.mem_singleton.mp named))
  distinct := fields.distinct
  plain := fields.plain
  reads value sorted frozen entries holds found := by
    have unused : entries.lookup name = none := by
      rw [found name (by simp), lookup_absent, Option.map_none]
      intro entry member same
      have named := fields.named value entry member
      rw [single, same] at named
      exact other (List.mem_singleton.mp named)
    simp only [unused]
    exact fields.reads value sorted frozen entries holds fun field member => found field (by simp_all)
  sound entries value plain read := by
    split at read
    · exact fields.sound entries value plain read
    next document found =>
      split at read
      · exact fields.sound _ value (by simpa using plain_lookup plain found) read
      · simp at read

/-- Every value is read back as it was. -/
class Exact (fields : Fields α) : Prop where
  exact : ∀ sorted value, fields.settle sorted value = value

theorem settle_exact (fields : Fields α) [exact : fields.Exact] (sorted : Bool) (value : α) :
    fields.settle sorted value = value := exact.exact sorted value

instance {name : String} {codec : Codec α} [exact : codec.Exact] : (required name codec).Exact := ⟨exact.exact⟩

instance {name : String} {default : α} {codec : Codec α} {skip fixed valid} [exact : codec.Exact] :
    (optional name default codec skip fixed valid).Exact := ⟨exact.exact⟩

instance {name : String} {default : α} {codec : Codec α} {valid} [exact : codec.Exact] :
    (defaulted name default codec valid).Exact := ⟨exact.exact⟩

instance {name : String} {codec : Codec α} [exact : codec.Exact] : (nullable name codec).Exact where
  exact sorted value := by
    have same : codec.settle sorted = id := funext (exact.exact sorted)
    cases value <;> simp [nullable, same]

instance {fields : Fields α} {shown name : String} {single other} [exact : fields.Exact] :
    (fields.aliased shown name single other).Exact := ⟨exact.exact⟩

instance {name value : String} : (tag name value).Exact := ⟨fun _ _ => rfl⟩

end Members

/-- The fields of both, under different names. -/
def and (left : Fields α) (right : Fields β) (apart : ∀ name ∈ left.names, name ∉ right.names := by decide) :
    Fields (α × β) where
  names := left.names ++ right.names
  read entries := do
    let first ← left.read entries
    let second ← right.read entries
    pure (first, second)
  dump value := left.dump value.1 ++ right.dump value.2
  settle sorted value := (left.settle sorted value.1, right.settle sorted value.2)
  holds value := left.holds value.1 ∧ right.holds value.2
  named value entry member := by
    rcases List.mem_append.mp member with first | second
    · exact List.mem_append_left _ (left.named _ entry first)
    · exact List.mem_append_right _ (right.named _ entry second)
  distinct value := by
    rw [List.map_append]
    refine List.Nodup.append (left.distinct _) (right.distinct _) ?_
    intro name first second
    obtain ⟨entry, inLeft, rfl⟩ := List.mem_map.mp first
    obtain ⟨other, inRight, same⟩ := List.mem_map.mp second
    exact apart _ (left.named _ entry inLeft) (same ▸ right.named _ other inRight)
  plain value entry member := by
    rcases List.mem_append.mp member with first | second
    · exact left.plain _ entry first
    · exact right.plain _ entry second
  reads value sorted frozen entries holds found := by
    have first := left.reads value.1 sorted frozen entries holds.1 fun name member => by
      have stored := found name (List.mem_append_left _ member)
      have absent : (right.dump value.2).lookup name = none :=
        lookup_absent fun entry inside same => apart name member (same ▸ right.named _ entry inside)
      rwa [List.lookup_append, absent, Option.or_none] at stored
    have second := right.reads value.2 sorted frozen entries holds.2 fun name member => by
      have stored := found name (List.mem_append_right _ member)
      have absent : (left.dump value.1).lookup name = none :=
        lookup_absent fun entry inside same => apart name (same ▸ left.named _ entry inside) member
      rwa [List.lookup_append, absent, Option.none_or] at stored
    simp [first, second]
  sound entries value plain read := by
    simp only [Checks.bind_ok, Checks.pure_ok] at read
    obtain ⟨first, inLeft, second, inRight, rfl⟩ := read
    exact ⟨left.sound entries first plain inLeft, right.sound entries second plain inRight⟩

/-- An equivalent representation of the values. -/
def iso (fields : Fields α) (make : α → β) (back : β → α) (left : ∀ value, back (make value) = value := by intros; rfl)
    (_right : ∀ value, make (back value) = value := by intros; rfl) : Fields β where
  names := fields.names
  read entries := (fields.read entries).map make
  dump value := fields.dump (back value)
  settle sorted value := make (fields.settle sorted (back value))
  holds value := fields.holds (back value)
  named value := fields.named (back value)
  distinct value := fields.distinct (back value)
  plain value := fields.plain (back value)
  reads value sorted frozen entries holds found := by
    simp [fields.reads (back value) sorted frozen entries holds found, Except.map]
  sound entries value plain read := by
    cases inner : fields.read entries with
    | error issue => simp [inner, Except.map] at read
    | ok value =>
      simp only [inner, Except.map, Except.ok.injEq] at read
      rw [← read, left]
      exact fields.sound entries value plain inner

instance {left : Fields α} {right : Fields β} {apart} [first : left.Exact] [second : right.Exact] :
    (left.and right apart).Exact where
  exact sorted value := by
    simp [and, first.exact sorted value.1, second.exact sorted value.2]

instance {fields : Fields α} {make : α → β} {back : β → α} {left right} [exact : fields.Exact] :
    (fields.iso make back left right).Exact where
  exact sorted value := by
    simp [iso, exact.exact sorted (back value), right]

/-- A class whose fields are these, and no others. -/
def object (fields : Fields α) : Codec α where
  read
    | .mapping _ entries => do
      let value ← fields.read entries
      Checks.each entries fun entry =>
        located entry.1 (Checks.raiseIf (entry.1 ∉ fields.names) ⟨[], "Extra inputs are not permitted"⟩)
      pure value
    | _ => refuse "Input should be a valid dictionary or instance"
  dump value := .dict (fields.dump value)
  settle := fields.settle
  holds := fields.holds
  given _ := by simp
  plain value := by
    rw [Document.plain_mapping]
    exact ⟨rfl, fields.plain value⟩
  reads value sorted frozen holds := by
    have unique : ((((fields.dump value).map fun entry => (entry.1, entry.2.reshape sorted frozen))).map Prod.fst).Nodup := by
      simpa [Function.comp_def] using fields.distinct value
    have found : ∀ name, (if sorted then Dict.sortEntries ((fields.dump value).map fun entry =>
        (entry.1, entry.2.reshape sorted frozen)) else (fields.dump value).map fun entry =>
        (entry.1, entry.2.reshape sorted frozen)).lookup name =
        ((fields.dump value).lookup name).map (Document.reshape sorted frozen) := by
      intro name
      have direct := Dict.get?_map ⟨fields.dump value, fields.distinct value⟩
        (fun _ document => document.reshape sorted frozen) name
      cases sorted
      · exact direct
      · exact (Dict.get?_sorted ⟨_, unique⟩ name).trans direct
    have members : ∀ entry ∈ (if sorted then Dict.sortEntries ((fields.dump value).map fun entry =>
        (entry.1, entry.2.reshape sorted frozen)) else (fields.dump value).map fun entry =>
        (entry.1, entry.2.reshape sorted frozen)), entry.1 ∈ fields.names := by
      intro entry member
      have original : entry ∈ (fields.dump value).map fun entry => (entry.1, entry.2.reshape sorted frozen) := by
        cases sorted
        · exact member
        · exact (Dict.sortEntries_perm _).mem_iff.mp member
      obtain ⟨dumped, inside, rfl⟩ := List.mem_map.mp original
      exact fields.named value dumped inside
    simp only [Document.reshape, Document.reshapeEntries_eq, fields.reads value sorted frozen _ holds fun name _ => found name,
      Checks.bind_ok, Checks.each_ok, located_ok, Checks.raiseIf_ok, not_not, Checks.exists_unit, Checks.pure_ok]
    exact ⟨_, rfl, members, rfl⟩
  sound document value plain read := by
    cases document with
    | mapping frozen entries =>
      simp only [Checks.bind_ok, Checks.pure_ok, Checks.exists_unit] at read
      obtain ⟨value, inner, _, rfl⟩ := read
      exact fields.sound entries value (Document.plain_mapping.mp plain).2 inner
    | _ => simp at read

instance {fields : Fields α} [exact : fields.Exact] : fields.object.Exact := ⟨exact.exact⟩

end Fields

/-- The text that a document has under the discriminating key. -/
def tagOf (key : String) : Document → Option String
  | .mapping _ entries => match entries.lookup key with
    | some (.str tag) => some tag
    | _ => none
  | _ => none

theorem tagOf_reshape {key tag : String} {entries : List (String × Document)} (distinct : (entries.map Prod.fst).Nodup)
    (found : entries.lookup key = some (.str tag)) (sorted frozen : Bool) :
    tagOf key ((Document.dict entries).reshape sorted frozen) = some tag := by
  have unique : ((entries.map fun entry => (entry.1, entry.2.reshape sorted frozen)).map Prod.fst).Nodup := by
    simpa [Function.comp_def] using distinct
  have direct : (entries.map fun entry => (entry.1, entry.2.reshape sorted frozen)).lookup key = some (.str tag) := by
    have mapped := Dict.get?_map ⟨entries, distinct⟩ (fun _ document => document.reshape sorted frozen) key
    simp only [Dict.get?, Dict.map, found, Option.map_some, Document.reshape] at mapped
    exact mapped
  cases sorted with
  | false => simp [tagOf, Document.reshape, direct]
  | true =>
    have sorted := (Dict.get?_sorted ⟨_, unique⟩ key).trans direct
    simp only [Dict.get?, Dict.sorted] at sorted
    simp [tagOf, Document.reshape, sorted]

/-- A class, or a union of classes, told apart by the text under a discriminating key. -/
structure Variants (key : String) (α : Type) where
  tags : List String
  codec : Codec α
  tagged : ∀ value sorted frozen, ∃ tag ∈ tags, tagOf key ((codec.dump value).reshape sorted frozen) = some tag

namespace Variants

variable {key : String} {α β : Type}

/-- A class with one tag. -/
def single (tag : String) (fields : Fields α)
    (apart : ∀ name ∈ (Fields.tag key tag).names, name ∉ fields.names := by decide) : Variants key α where
  tags := [tag]
  codec := (((Fields.tag key tag).and fields apart).iso Prod.snd (fun value => ((), value))).object
  tagged value sorted frozen := by
    refine ⟨tag, by simp, tagOf_reshape (Fields.distinct _ value) ?_ sorted frozen⟩
    simp [Fields.iso, Fields.and, Fields.tag]

instance {tag : String} {fields : Fields α} {apart} [exact : fields.Exact] :
    (single tag fields apart : Variants key α).codec.Exact := ⟨exact.exact⟩

/-- A class whose tag is one of its fields. -/
def ofField (tags : List String) (fields : Fields α) (tag : α → String) (listed : ∀ value, tag value ∈ tags)
    (found : ∀ value, (fields.dump value).lookup key = some (.str (tag value))) : Variants key α where
  tags := tags
  codec := fields.object
  tagged value sorted frozen :=
    ⟨tag value, listed value, tagOf_reshape (fields.distinct value) (found value) sorted frozen⟩

instance {tags : List String} {fields : Fields α} {tag listed found} [exact : fields.Exact] :
    (ofField tags fields tag listed found : Variants key α).codec.Exact := ⟨exact.exact⟩

/-- A validator that runs on the value read. -/
def checked (variants : Variants key α) (check : α → Except Issue Unit)
    (stable : ∀ sorted value, variants.codec.holds value → check value = .ok () →
      check (variants.codec.settle sorted value) = .ok ()) : Variants key α where
  tags := variants.tags
  codec := variants.codec.checked check stable
  tagged := variants.tagged

/-- A validator of values that are read back as they were. -/
def validated (variants : Variants key α) [exact : variants.codec.Exact] (check : α → Except Issue Unit) :
    Variants key α :=
  variants.checked check fun sorted value _ valid => by rw [exact.exact sorted value, valid]

instance {variants : Variants key α} [exact : variants.codec.Exact] {check : α → Except Issue Unit} :
    (variants.validated check).codec.Exact := ⟨exact.exact⟩

/-- Values are completed before they are dumped. -/
def completed (variants : Variants key α) (complete : α → α)
    (keeps : ∀ value, variants.codec.holds value → variants.codec.holds (complete value)) : Variants key α where
  tags := variants.tags
  codec := variants.codec.completed complete keeps
  tagged value := variants.tagged (complete value)

/-- A document goes to the class that has its tag. -/
def or (left : Variants key α) (right : Variants key β) (apart : ∀ tag ∈ left.tags, tag ∉ right.tags := by decide) :
    Variants key (α ⊕ β) where
  tags := left.tags ++ right.tags
  codec := {
    read := fun document =>
      if (tagOf key document).any (· ∈ left.tags) then (left.codec.read document).map .inl
      else (right.codec.read document).map .inr
    dump := Sum.elim left.codec.dump right.codec.dump
    settle := fun sorted => Sum.map (left.codec.settle sorted) (right.codec.settle sorted)
    holds := Sum.elim left.codec.holds right.codec.holds
    given := by rintro (value | value) <;> simp [Codec.given]
    plain := by rintro (value | value) <;> simp [Codec.plain]
    reads := by
      rintro (value | value) sorted frozen holds
      · obtain ⟨tag, listed, found⟩ := left.tagged value sorted frozen
        simp [found, listed, left.codec.reads value sorted frozen holds, Except.map]
      · obtain ⟨tag, listed, found⟩ := right.tagged value sorted frozen
        have foreign : tag ∉ left.tags := fun inside => apart tag inside listed
        simp [found, foreign, right.codec.reads value sorted frozen holds, Except.map]
    sound := by
      intro document value plain read
      split at read
      · cases inner : left.codec.read document with
        | error issue => simp [inner, Except.map] at read
        | ok first =>
          simp only [inner, Except.map, Except.ok.injEq] at read
          exact read ▸ left.codec.sound document first plain inner
      · cases inner : right.codec.read document with
        | error issue => simp [inner, Except.map] at read
        | ok second =>
          simp only [inner, Except.map, Except.ok.injEq] at read
          exact read ▸ right.codec.sound document second plain inner }
  tagged := by
    rintro (value | value) sorted frozen
    · obtain ⟨tag, listed, found⟩ := left.tagged value sorted frozen
      exact ⟨tag, List.mem_append_left _ listed, found⟩
    · obtain ⟨tag, listed, found⟩ := right.tagged value sorted frozen
      exact ⟨tag, List.mem_append_right _ listed, found⟩

/-- An equivalent representation of the values. -/
def iso (variants : Variants key α) (make : α → β) (back : β → α) (left : ∀ value, back (make value) = value) :
    Variants key β where
  tags := variants.tags
  codec := variants.codec.iso make back left
  tagged value := variants.tagged (back value)

/-- A union discriminated by the key. -/
def union (variants : Variants key α) : Codec α :=
  variants.codec.before
    (fun document => match tagOf key document with
      | none => refuse ("Unable to extract tag using discriminator '" ++ key ++ "'")
      | some tag => Checks.raiseIf (tag ∉ variants.tags)
          ⟨[], "Input tag '" ++ tag ++ "' found using '" ++ key ++ "' does not match any of the expected tags"⟩)
    fun value sorted frozen _ => by
      obtain ⟨tag, listed, found⟩ := variants.tagged value sorted frozen
      simp [found, listed]

end Variants

end Schema
