import Nslab.Library.Schema

/-! Reading frozen documents. An agnostic codec does not tell read-only proxies
from dicts and tuples from lists. A codec that does overlooks some documents:
it refuses them as they are, and may accept their frozen forms. -/

namespace Schema

variable {α β : Type}

/-- Entries whose documents are frozen. -/
def frozenEntries (entries : List (String × Document)) : List (String × Document) :=
  entries.map fun entry => (entry.1, entry.2.reshape false true)

theorem lookup_frozenEntries (entries : List (String × Document)) (name : String) :
    (frozenEntries entries).lookup name = (entries.lookup name).map (Document.reshape false true) := by
  unfold frozenEntries
  induction entries with
  | nil => rfl
  | cons entry entries ih =>
    rw [List.map_cons, Dict.lookup_cons_if, Dict.lookup_cons_if, ih]
    split <;> rfl

theorem reshape_mapping (frozen : Bool) (entries : List (String × Document)) :
    (Document.mapping frozen entries).reshape false true = .mapping true (frozenEntries entries) := by
  simp [Document.reshape, frozenEntries]

theorem reshape_sequence (frozen : Bool) (items : List Document) :
    (Document.sequence frozen items).reshape false true = .sequence true (items.map (Document.reshape false true)) := by
  simp [Document.reshape]

theorem tagOf_frozen (key : String) (document : Document) : tagOf key (document.reshape false true) = tagOf key document := by
  cases document with
  | mapping frozen entries =>
    rw [reshape_mapping]
    simp only [tagOf, lookup_frozenEntries]
    cases entries.lookup key with
    | none => rfl
    | some found => cases found <;> rfl
  | _ => rfl

/-- The frozen form of a document is read as the document is. -/
class Codec.Agnostic (codec : Codec α) : Prop where
  frozen : ∀ document : Document, codec.read (document.reshape false true) = codec.read document

/-- Frozen entries are read as the entries are. -/
class Fields.Agnostic (fields : Fields α) : Prop where
  frozen : ∀ entries, fields.read (frozenEntries entries) = fields.read entries

section Codecs

namespace Codec

theorem read_frozen (codec : Codec α) [agnostic : codec.Agnostic] (document : Document) :
    codec.read (document.reshape false true) = codec.read document := agnostic.frozen document

instance : text.Agnostic := ⟨fun document => by cases document <;> rfl⟩

instance : strictInt.Agnostic := ⟨fun document => by cases document <;> rfl⟩

instance : strictBool.Agnostic := ⟨fun document => by cases document <;> rfl⟩

instance : float.Agnostic := ⟨fun document => by cases document <;> rfl⟩

instance {parse : List Char → Option α} {print} {other message} {parses} :
    (ofText parse print other message parses).Agnostic := ⟨fun document => by cases document <;> rfl⟩

instance {name : α → String} {all} {message} {complete} : (choice name all message complete).Agnostic :=
  ⟨fun document => by cases document <;> rfl⟩

theorem Agnostic.before {codec : Codec α} [codec.Agnostic] {check : Document → Except Issue Unit} {passes}
    (same : ∀ document : Document, check (document.reshape false true) = check document) : (codec.before check passes).Agnostic :=
  ⟨fun document => by simp only [Codec.before, same, read_frozen]⟩

instance {codec : Codec α} [codec.Agnostic] {check : α → Except Issue Unit} {stable} :
    (codec.checked check stable).Agnostic :=
  ⟨fun document => by simp only [checked, read_frozen]⟩

instance {codec : Codec α} [codec.Agnostic] [codec.Exact] {check : α → Except Issue Unit} : (codec.validated check).Agnostic :=
  inferInstanceAs (codec.checked _ _).Agnostic

instance {lower upper : Int} : (between lower upper).Agnostic := inferInstanceAs (strictInt.validated _).Agnostic

instance {lower : Int} : (atLeast lower).Agnostic := inferInstanceAs (strictInt.validated _).Agnostic

instance {codec : Codec α} [codec.Agnostic] {make : α → β} {back} {left} : (codec.iso make back left).Agnostic :=
  ⟨fun document => by simp only [iso, read_frozen]⟩

instance {codec : Codec α} [codec.Agnostic] {complete : α → α} {keeps} : (codec.completed complete keeps).Agnostic :=
  ⟨fun document => by simp only [completed, read_frozen]⟩

theorem readItems_frozen {codec : Codec α} [codec.Agnostic] (index : Nat) (items : List Document) :
    codec.readItems index (items.map (Document.reshape false true)) = codec.readItems index items := by
  induction items generalizing index with
  | nil => rfl
  | cons item items ih => simp only [List.map_cons, readItems, read_frozen, ih]

instance {codec : Codec α} [codec.Agnostic] : codec.sequence.Agnostic where
  frozen document := by
    cases document with
    | sequence frozen items =>
      rw [reshape_sequence]
      exact readItems_frozen 0 items
    | _ => rfl

instance {label : String} {codec : Codec α} [codec.Agnostic] : (listed label codec).Agnostic :=
  .before fun document => by cases document <;> rfl

theorem readEntries_frozen {codec : Codec α} [codec.Agnostic] (entries : List (String × Document)) :
    codec.readEntries (frozenEntries entries) = codec.readEntries entries := by
  unfold frozenEntries
  induction entries with
  | nil => rfl
  | cons entry entries ih => simp only [List.map_cons, readEntries, read_frozen, ih]

instance {codec : Codec α} [codec.Agnostic] : codec.mapping.Agnostic where
  frozen document := by
    cases document with
    | mapping frozen entries =>
      rw [reshape_mapping]
      exact congrArg (Except.map Dict.ofEntries) (readEntries_frozen entries)
    | _ => rfl

instance {codec : Codec α} [codec.Agnostic] {check : String → Except Issue Unit} : (codec.named check).Agnostic :=
  inferInstanceAs (codec.mapping.checked _ _).Agnostic

end Codec

namespace Fields

theorem read_frozen (fields : Fields α) [agnostic : fields.Agnostic] (entries : List (String × Document)) :
    fields.read (frozenEntries entries) = fields.read entries := agnostic.frozen entries

instance {name : String} {codec : Codec α} [codec.Agnostic] : (required name codec).Agnostic where
  frozen entries := by
    simp only [required, lookup_frozenEntries]
    cases entries.lookup name with
    | none => rfl
    | some document => simp only [Option.map_some, Codec.read_frozen]

instance agnostic_optional {name : String} {default : α} {codec : Codec α} {skip fixed valid} [codec.Agnostic] :
    (optional name default codec skip fixed valid).Agnostic where
  frozen entries := by
    simp only [optional, lookup_frozenEntries]
    cases entries.lookup name with
    | none => rfl
    | some document => simp only [Option.map_some, Codec.read_frozen]

instance agnostic_defaulted {name : String} {default : α} {codec : Codec α} {valid} [codec.Agnostic] :
    (defaulted name default codec valid).Agnostic := inferInstanceAs (optional _ _ _ _ _ _).Agnostic

instance {name : String} {codec : Codec α} [codec.Agnostic] : (nullable name codec).Agnostic where
  frozen entries := by
    simp only [nullable, lookup_frozenEntries]
    cases entries.lookup name with
    | none => rfl
    | some document =>
      have same := codec.read_frozen document
      cases document with
      | null => rfl
      | sequence frozen items =>
        rw [reshape_sequence] at same
        simp only [Option.map_some, reshape_sequence, same]
      | mapping frozen entries =>
        rw [reshape_mapping] at same
        simp only [Option.map_some, reshape_mapping, same]
      | bool | int | float | str => rfl

instance {name value : String} : (tag name value).Agnostic where
  frozen entries := by
    simp only [tag, lookup_frozenEntries]
    cases entries.lookup name with
    | none => rfl
    | some document => cases document <;> rfl

instance agnostic_aliased {fields : Fields α} {shown name : String} {single other} [fields.Agnostic] :
    (fields.aliased shown name single other).Agnostic where
  frozen entries := by
    simp only [aliased, lookup_frozenEntries]
    cases entries.lookup name with
    | none => exact fields.read_frozen entries
    | some document =>
      cases entries.lookup shown with
      | none => exact fields.read_frozen [(shown, document)]
      | some _ => rfl

instance agnostic_and {left : Fields α} {right : Fields β} {apart} [left.Agnostic] [right.Agnostic] :
    (left.and right apart).Agnostic :=
  ⟨fun entries => by simp only [and, read_frozen]⟩

instance agnostic_iso {fields : Fields α} {make : α → β} {back} {left right} [fields.Agnostic] :
    (fields.iso make back left right).Agnostic :=
  ⟨fun entries => by simp only [iso, read_frozen]⟩

/-- The names of frozen entries are those of the entries. -/
theorem each_frozen (check : String → Except Issue Unit) (entries : List (String × Document)) :
    Checks.each (frozenEntries entries) (fun entry => check entry.1) = Checks.each entries fun entry => check entry.1 := by
  unfold frozenEntries
  induction entries with
  | nil => rfl
  | cons entry entries ih => simp only [List.map_cons, Checks.each, ih]

instance agnostic_object {fields : Fields α} [fields.Agnostic] : fields.object.Agnostic where
  frozen document := by
    cases document with
    | mapping frozen entries =>
      rw [reshape_mapping]
      simp only [object, read_frozen]
      rw [each_frozen fun name => located name (Checks.raiseIf (name ∉ fields.names) ⟨[], "Extra inputs are not permitted"⟩)]
    | _ => rfl

end Fields

namespace Variants

variable {key : String}

instance {tag : String} {fields : Fields α} {apart} [fields.Agnostic] :
    (single tag fields apart : Variants key α).codec.Agnostic :=
  inferInstanceAs (Fields.object _).Agnostic

instance {tags : List String} {fields : Fields α} {tag listed found} [fields.Agnostic] :
    (ofField tags fields tag listed found : Variants key α).codec.Agnostic := inferInstanceAs (Fields.object _).Agnostic

instance {variants : Variants key α} [variants.codec.Agnostic] {check : α → Except Issue Unit} {stable} :
    (variants.checked check stable).codec.Agnostic := inferInstanceAs (variants.codec.checked check stable).Agnostic

instance {variants : Variants key α} [variants.codec.Agnostic] [variants.codec.Exact] {check : α → Except Issue Unit} :
    (variants.validated check).codec.Agnostic := inferInstanceAs (variants.checked _ _).codec.Agnostic

instance {variants : Variants key α} [variants.codec.Agnostic] {complete : α → α} {keeps} :
    (variants.completed complete keeps).codec.Agnostic := inferInstanceAs (variants.codec.completed complete keeps).Agnostic

instance {left : Variants key α} {right : Variants key β} {apart} [left.codec.Agnostic] [right.codec.Agnostic] :
    (left.or right apart).codec.Agnostic :=
  ⟨fun document => by simp only [or, tagOf_frozen, Codec.read_frozen]⟩

instance {variants : Variants key α} [variants.codec.Agnostic] {make : α → β} {back} {left} :
    (variants.iso make back left).codec.Agnostic := inferInstanceAs (variants.codec.iso make back left).Agnostic

instance {variants : Variants key α} [variants.codec.Agnostic] : variants.union.Agnostic :=
  .before fun document => by simp only [tagOf_frozen]

end Variants

end Codecs

section Overlooking

/-- Entries with an odd document under a name. -/
def FieldOf (name : String) (odd : Document → Prop) (entries : List (String × Document)) : Prop :=
  ∃ document, entries.lookup name = some document ∧ odd document

/-- A mapping with odd entries. -/
def MappingOf (odd : List (String × Document) → Prop) : Document → Prop
  | .mapping _ entries => odd entries
  | _ => False

/-- Entries with an odd document among them. -/
def ValueOf (odd : Document → Prop) (entries : List (String × Document)) : Prop := ∃ entry ∈ entries, odd entry.2

/-- A sequence with an odd item. -/
def ItemOf (odd : Document → Prop) : Document → Prop
  | .sequence _ items => ∃ item ∈ items, odd item
  | _ => False

/-- The codec refuses odd documents, and reads any other as it reads its frozen form. -/
structure Codec.Overlooks (codec : Codec α) (odd : Document → Prop) : Prop where
  alike : ∀ document, document.plain = true → ¬ odd document → ∀ value,
    codec.read (document.reshape false true) = .ok value ↔ codec.read document = .ok value
  refused : ∀ document, document.plain = true → odd document → ∀ value, codec.read document ≠ .ok value

/-- The fields refuse odd entries, and read any others as they read their frozen form. -/
structure Fields.Overlooks (fields : Fields α) (odd : List (String × Document) → Prop) : Prop where
  alike : ∀ entries, (∀ entry ∈ entries, entry.2.plain = true) → ¬ odd entries → ∀ value,
    fields.read (frozenEntries entries) = .ok value ↔ fields.read entries = .ok value
  refused : ∀ entries, (∀ entry ∈ entries, entry.2.plain = true) → odd entries → ∀ value, fields.read entries ≠ .ok value

namespace Codec.Overlooks

variable {codec : Codec α} {odd : Document → Prop}

theorem checked (overlooks : codec.Overlooks odd) {check : α → Except Issue Unit} {stable} :
    (codec.checked check stable).Overlooks odd where
  alike document plain even value := by simp only [Codec.checked, Checks.bind_ok, overlooks.alike document plain even]
  refused document plain given value read := by
    simp only [Codec.checked, Checks.bind_ok] at read
    obtain ⟨inner, accepted, _⟩ := read
    exact overlooks.refused document plain given inner accepted

theorem validated [codec.Exact] (overlooks : codec.Overlooks odd) {check : α → Except Issue Unit} :
    (codec.validated check).Overlooks odd := overlooks.checked

theorem before (overlooks : codec.Overlooks odd) {check : Document → Except Issue Unit} {passes}
    (same : ∀ document : Document, check (document.reshape false true) = check document) :
    (codec.before check passes).Overlooks odd where
  alike document plain even value := by
    simp only [Codec.before, same, Checks.bind_ok, overlooks.alike document plain even]
  refused document plain given value read := by
    simp only [Codec.before, Checks.bind_ok] at read
    obtain ⟨_, _, accepted⟩ := read
    exact overlooks.refused document plain given value accepted

theorem iso (overlooks : codec.Overlooks odd) {make : α → β} {back left} : (codec.iso make back left).Overlooks odd where
  alike document plain even value := by
    simp only [Codec.iso, Checks.map_ok, overlooks.alike document plain even]
  refused document plain given value read := by
    simp only [Codec.iso, Checks.map_ok] at read
    obtain ⟨inner, accepted, _⟩ := read
    exact overlooks.refused document plain given inner accepted

theorem readItems_alike (overlooks : codec.Overlooks odd) (items : List Document) (plain : ∀ item ∈ items, item.plain = true)
    (even : ∀ item ∈ items, ¬ odd item) (index : Nat) (values : List α) :
    codec.readItems index (items.map (Document.reshape false true)) = .ok values ↔ codec.readItems index items = .ok values := by
  induction items generalizing index values with
  | nil => rfl
  | cons item items ih =>
    rw [List.forall_mem_cons] at plain even
    simp only [List.map_cons, readItems, Checks.bind_ok, located_ok, overlooks.alike item plain.1 even.1, ih plain.2 even.2]

theorem readItems_refused (overlooks : codec.Overlooks odd) {items : List Document} (plain : ∀ item ∈ items, item.plain = true)
    {item : Document} (member : item ∈ items) (given : odd item) (index : Nat) (values : List α) :
    codec.readItems index items ≠ .ok values := by
  induction items generalizing index values with
  | nil => cases member
  | cons first items ih =>
    rw [List.forall_mem_cons] at plain
    intro read
    simp only [readItems, Checks.bind_ok, located_ok] at read
    obtain ⟨value, accepted, rest, later, _⟩ := read
    cases member with
    | head => exact overlooks.refused _ plain.1 given value accepted
    | tail _ member => exact ih plain.2 member _ rest later

theorem sequence (overlooks : codec.Overlooks odd) : codec.sequence.Overlooks (ItemOf odd) where
  alike document plain even value := by
    cases document with
    | sequence frozen items =>
      rw [reshape_sequence]
      exact overlooks.readItems_alike items (Document.plain_sequence.mp plain).2
        (fun item member given => even ⟨item, member, given⟩) 0 value
    | _ => rfl
  refused document plain given value read := by
    cases document with
    | sequence frozen items =>
      obtain ⟨item, member, given⟩ := given
      exact overlooks.readItems_refused (Document.plain_sequence.mp plain).2 member given 0 value read
    | _ => exact given

theorem listed (overlooks : codec.Overlooks odd) (label : String) : (Codec.listed label codec).Overlooks (ItemOf odd) :=
  overlooks.sequence.before fun document => by cases document <;> rfl

theorem readEntries_alike (overlooks : codec.Overlooks odd) (entries : List (String × Document))
    (plain : ∀ entry ∈ entries, entry.2.plain = true) (even : ∀ entry ∈ entries, ¬ odd entry.2) (values : List (String × α)) :
    codec.readEntries (frozenEntries entries) = .ok values ↔ codec.readEntries entries = .ok values := by
  unfold frozenEntries
  induction entries generalizing values with
  | nil => rfl
  | cons entry entries ih =>
    rw [List.forall_mem_cons] at plain even
    simp only [List.map_cons, readEntries, Checks.bind_ok, located_ok, overlooks.alike entry.2 plain.1 even.1,
      ih plain.2 even.2]

theorem readEntries_refused (overlooks : codec.Overlooks odd) {entries : List (String × Document)}
    (plain : ∀ entry ∈ entries, entry.2.plain = true) (given : ValueOf odd entries) (values : List (String × α)) :
    codec.readEntries entries ≠ .ok values := by
  induction entries generalizing values with
  | nil =>
    obtain ⟨_, member, _⟩ := given
    cases member
  | cons first entries ih =>
    rw [List.forall_mem_cons] at plain
    intro read
    simp only [readEntries, Checks.bind_ok, located_ok] at read
    obtain ⟨value, accepted, rest, later, _⟩ := read
    obtain ⟨entry, member, given⟩ := given
    cases member with
    | head => exact overlooks.refused _ plain.1 given value accepted
    | tail _ member => exact ih plain.2 ⟨entry, member, given⟩ rest later

theorem mapping (overlooks : codec.Overlooks odd) : codec.mapping.Overlooks (MappingOf (ValueOf odd)) where
  alike document plain even value := by
    cases document with
    | mapping frozen entries =>
      rw [reshape_mapping]
      simp only [Codec.mapping, Checks.map_ok]
      exact exists_congr fun values => and_congr_left' (overlooks.readEntries_alike entries (Document.plain_mapping.mp plain).2
        (fun entry member given => even ⟨entry, member, given⟩) values)
    | _ => rfl
  refused document plain given value read := by
    cases document with
    | mapping frozen entries =>
      simp only [Codec.mapping, Checks.map_ok] at read
      obtain ⟨values, accepted, _⟩ := read
      exact overlooks.readEntries_refused (Document.plain_mapping.mp plain).2 given values accepted
    | _ => exact given

theorem named (overlooks : codec.Overlooks odd) {check : String → Except Issue Unit} :
    (codec.named check).Overlooks (MappingOf (ValueOf odd)) := overlooks.mapping.checked

end Codec.Overlooks

theorem Codec.Agnostic.overlooks {codec : Codec α} [codec.Agnostic] : codec.Overlooks fun _ => False where
  alike document _ _ value := by rw [codec.read_frozen]
  refused _ _ impossible := impossible.elim

namespace Fields.Overlooks

variable {codec : Codec α} {odd : Document → Prop} {name : String}

theorem required (overlooks : codec.Overlooks odd) : (Fields.required name codec).Overlooks (FieldOf name odd) where
  alike entries plain even value := by
    simp only [Fields.required, located_ok, lookup_frozenEntries]
    cases found : entries.lookup name with
    | none => rfl
    | some document =>
      exact overlooks.alike document (plain_lookup plain found) (fun given => even ⟨document, found, given⟩) value
  refused entries plain given value read := by
    obtain ⟨document, found, given⟩ := given
    simp only [Fields.required, located_ok, found] at read
    exact overlooks.refused document (plain_lookup plain found) given value read

theorem optional (overlooks : codec.Overlooks odd) {default : α} {skip fixed valid} :
    (Fields.optional name default codec skip fixed valid).Overlooks (FieldOf name odd) where
  alike entries plain even value := by
    simp only [Fields.optional, located_ok, lookup_frozenEntries]
    cases found : entries.lookup name with
    | none => rfl
    | some document =>
      exact overlooks.alike document (plain_lookup plain found) (fun given => even ⟨document, found, given⟩) value
  refused entries plain given value read := by
    obtain ⟨document, found, given⟩ := given
    simp only [Fields.optional, located_ok, found] at read
    exact overlooks.refused document (plain_lookup plain found) given value read

theorem defaulted (overlooks : codec.Overlooks odd) {default : α} {valid} :
    (Fields.defaulted name default codec valid).Overlooks (FieldOf name odd) := optional overlooks

theorem nullable (overlooks : codec.Overlooks odd) (null : ¬ odd .null) :
    (Fields.nullable name codec).Overlooks (FieldOf name odd) where
  alike entries plain even value := by
    simp only [Fields.nullable, located_ok, lookup_frozenEntries]
    cases found : entries.lookup name with
    | none => rfl
    | some document =>
      have same := overlooks.alike document (plain_lookup plain found) fun given => even ⟨document, found, given⟩
      cases document with
      | sequence frozen items =>
        rw [reshape_sequence] at same
        simp only [Option.map_some, reshape_sequence, Checks.map_ok, same]
      | mapping frozen entries =>
        rw [reshape_mapping] at same
        simp only [Option.map_some, reshape_mapping, Checks.map_ok, same]
      | null | bool | int | float | str => rfl
  refused entries plain given value read := by
    obtain ⟨document, found, given⟩ := given
    simp only [Fields.nullable, located_ok, found] at read
    have refused := overlooks.refused document (plain_lookup plain found) given
    cases document with
    | null => exact null given
    | bool | int | float | str | sequence | mapping =>
      obtain ⟨inner, accepted, _⟩ := Checks.map_ok.mp read
      exact refused inner accepted

theorem and {left : Fields α} {right : Fields β} {first second : List (String × Document) → Prop}
    (inLeft : left.Overlooks first) (inRight : right.Overlooks second) {apart} :
    (left.and right apart).Overlooks fun entries => first entries ∨ second entries where
  alike entries plain even value := by
    have evenLeft := fun given => even (.inl given)
    have evenRight := fun given => even (.inr given)
    simp only [Fields.and, Checks.bind_ok, inLeft.alike entries plain evenLeft, inRight.alike entries plain evenRight]
  refused entries plain given value read := by
    simp only [Fields.and, Checks.bind_ok] at read
    obtain ⟨before, acceptedLeft, after, acceptedRight, _⟩ := read
    cases given with
    | inl given => exact inLeft.refused entries plain given before acceptedLeft
    | inr given => exact inRight.refused entries plain given after acceptedRight

/-- The other fields do not tell documents from their frozen forms. -/
theorem beside {left : Fields α} {right : Fields β} {odd : List (String × Document) → Prop} (overlooks : left.Overlooks odd)
    [right.Agnostic] {apart} : (left.and right apart).Overlooks odd where
  alike entries plain even value := by
    simp only [Fields.and, Checks.bind_ok, overlooks.alike entries plain even, right.read_frozen]
  refused entries plain given value read := by
    simp only [Fields.and, Checks.bind_ok] at read
    obtain ⟨before, accepted, _⟩ := read
    exact overlooks.refused entries plain given before accepted

theorem after {left : Fields α} {right : Fields β} {odd : List (String × Document) → Prop} (overlooks : right.Overlooks odd)
    [left.Agnostic] {apart} : (left.and right apart).Overlooks odd where
  alike entries plain even value := by
    simp only [Fields.and, Checks.bind_ok, overlooks.alike entries plain even, left.read_frozen]
  refused entries plain given value read := by
    simp only [Fields.and, Checks.bind_ok] at read
    obtain ⟨_, _, before, accepted, _⟩ := read
    exact overlooks.refused entries plain given before accepted

theorem iso {fields : Fields α} {odd : List (String × Document) → Prop} (overlooks : fields.Overlooks odd) {make : α → β}
    {back left right} : (fields.iso make back left right).Overlooks odd where
  alike entries plain even value := by simp only [Fields.iso, Checks.map_ok, overlooks.alike entries plain even]
  refused entries plain given value read := by
    simp only [Fields.iso, Checks.map_ok] at read
    obtain ⟨inner, accepted, _⟩ := read
    exact overlooks.refused entries plain given inner accepted

theorem object {fields : Fields α} {odd : List (String × Document) → Prop} (overlooks : fields.Overlooks odd) :
    fields.object.Overlooks (MappingOf odd) where
  alike document plain even value := by
    cases document with
    | mapping frozen entries =>
      rw [reshape_mapping]
      simp only [Fields.object, Checks.bind_ok, overlooks.alike entries (Document.plain_mapping.mp plain).2 even]
      rw [each_frozen fun name => located name (Checks.raiseIf (name ∉ fields.names) ⟨[], "Extra inputs are not permitted"⟩)]
    | _ => rfl
  refused document plain given value read := by
    cases document with
    | mapping frozen entries =>
      simp only [Fields.object, Checks.bind_ok] at read
      obtain ⟨inner, accepted, _⟩ := read
      exact overlooks.refused entries (Document.plain_mapping.mp plain).2 given inner accepted
    | _ => exact given

end Fields.Overlooks

namespace Variants

variable {key : String} {variants : Variants key α} {odd : Document → Prop}

theorem overlooks_single {tag : String} {fields : Fields α} {odd : List (String × Document) → Prop}
    (overlooks : fields.Overlooks odd) {apart} : (single tag fields apart : Variants key α).codec.Overlooks (MappingOf odd) :=
  Fields.Overlooks.object (.iso overlooks.after)

theorem overlooks_checked (overlooks : variants.codec.Overlooks odd) {check : α → Except Issue Unit} {stable} :
    (variants.checked check stable).codec.Overlooks odd := @Codec.Overlooks.checked _ _ _ overlooks check stable

theorem overlooks_iso (overlooks : variants.codec.Overlooks odd) {make : α → β} {back left} :
    (variants.iso make back left).codec.Overlooks odd := @Codec.Overlooks.iso _ _ _ _ overlooks make back left

/-- A union of classes that overlook the same documents. -/
theorem overlooks_or {left : Variants key α} {right : Variants key β}
    (inLeft : left.codec.Overlooks odd) (inRight : right.codec.Overlooks odd) {apart} :
    (left.or right apart).codec.Overlooks odd where
  alike document plain even value := by
    simp only [or, tagOf_frozen]
    split <;> simp only [Checks.map_ok, inLeft.alike document plain even, inRight.alike document plain even]
  refused document plain given value read := by
    simp only [or] at read
    split at read
    · obtain ⟨inner, accepted, _⟩ := Checks.map_ok.mp read
      exact inLeft.refused document plain given inner accepted
    · obtain ⟨inner, accepted, _⟩ := Checks.map_ok.mp read
      exact inRight.refused document plain given inner accepted

theorem overlooks_union (overlooks : variants.codec.Overlooks odd) : variants.union.Overlooks odd :=
  overlooks.before fun document => by simp only [tagOf_frozen]

end Variants

end Overlooking

end Schema
