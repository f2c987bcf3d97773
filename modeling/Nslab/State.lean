import Mathlib.Data.List.Sort
import Nslab.Errors
import Nslab.Library.JsonText
import Nslab.Manifest.Values

/-! Stored deployment state: the snapshot of a deployment and its JSON form. -/

namespace Nslab

section Freezing

mutual
/-- Read-only proxies and tuples in place of dicts and lists; JSON has no number that is not finite. -/
def freezeJson : Document → Except String Document
  | .float value => if value.isFinite then .ok (.float value) else .error "JSON numbers must be finite"
  | .mapping _ entries => (freezeEntries entries).map (.mapping true)
  | .sequence _ items => (freezeItems items).map (.sequence true)
  | .null => .ok .null
  | .bool value => .ok (.bool value)
  | .int value => .ok (.int value)
  | .str value => .ok (.str value)
termination_by structural document => document

def freezeItems : List Document → Except String (List Document)
  | [] => .ok []
  | item :: items => do
    let item ← freezeJson item
    let items ← freezeItems items
    pure (item :: items)
termination_by structural items => items

def freezeEntries : List (String × Document) → Except String (List (String × Document))
  | [] => .ok []
  | (key, value) :: entries => do
    let value ← freezeJson value
    let entries ← freezeEntries entries
    pure ((key, value) :: entries)
termination_by structural entries => entries
end

mutual
/-- Freezing succeeds on finite documents and only changes container types. -/
theorem freezeJson_ok {document frozen : Document} :
    freezeJson document = .ok frozen ↔ document.finite = true ∧ frozen = document.reshape false true := by
  match document with
  | .float value => cases finite : value.isFinite <;> simp [freezeJson, Document.finite, Document.reshape, finite, eq_comm]
  | .sequence _ items =>
    simp only [freezeJson, Document.finite, Document.finiteItems_iff, Document.reshape, Document.reshapeItems_eq]
    constructor
    · intro done
      cases inner : freezeItems items with
      | error message => simp [inner, Except.map] at done
      | ok fixed =>
        obtain ⟨finite, rfl⟩ := freezeItems_ok.mp inner
        simp only [inner, Except.map, Except.ok.injEq] at done
        exact ⟨finite, done.symm⟩
    · rintro ⟨finite, rfl⟩
      rw [freezeItems_ok.mpr ⟨finite, rfl⟩]
      rfl
  | .mapping _ entries =>
    simp only [freezeJson, Document.finite, Document.finiteEntries_iff, Document.reshape, Document.reshapeEntries_eq,
      Bool.false_eq_true, if_false]
    constructor
    · intro done
      cases inner : freezeEntries entries with
      | error message => simp [inner, Except.map] at done
      | ok fixed =>
        obtain ⟨finite, rfl⟩ := freezeEntries_ok.mp inner
        simp only [inner, Except.map, Except.ok.injEq] at done
        exact ⟨finite, done.symm⟩
    · rintro ⟨finite, rfl⟩
      rw [freezeEntries_ok.mpr ⟨finite, rfl⟩]
      rfl
  | .null | .bool _ | .int _ | .str _ => simp [freezeJson, Document.finite, Document.reshape, eq_comm]

theorem freezeItems_ok {items frozen : List Document} : freezeItems items = .ok frozen ↔
    (∀ item ∈ items, item.finite = true) ∧ frozen = items.map (Document.reshape false true) := by
  match items with
  | [] => exact ⟨fun done => ⟨List.forall_mem_nil _, (Except.ok.inj done).symm⟩, fun both => both.2 ▸ rfl⟩
  | item :: rest =>
    simp only [freezeItems, Checks.bind_ok, Checks.pure_ok, @freezeJson_ok item,
      @freezeItems_ok rest, List.forall_mem_cons, List.map_cons]
    constructor
    · rintro ⟨_, ⟨first, rfl⟩, _, ⟨others, rfl⟩, rfl⟩
      exact ⟨⟨first, others⟩, rfl⟩
    · rintro ⟨⟨first, others⟩, rfl⟩
      exact ⟨_, ⟨first, rfl⟩, _, ⟨others, rfl⟩, rfl⟩

theorem freezeEntries_ok {entries frozen : List (String × Document)} : freezeEntries entries = .ok frozen ↔
    (∀ entry ∈ entries, entry.2.finite = true) ∧
      frozen = entries.map fun entry => (entry.1, entry.2.reshape false true) := by
  match entries with
  | [] => exact ⟨fun done => ⟨List.forall_mem_nil _, (Except.ok.inj done).symm⟩, fun both => both.2 ▸ rfl⟩
  | (key, value) :: rest =>
    simp only [freezeEntries, Checks.bind_ok, Checks.pure_ok, @freezeJson_ok value,
      @freezeEntries_ok rest, List.forall_mem_cons, List.map_cons]
    constructor
    · rintro ⟨_, ⟨first, rfl⟩, _, ⟨others, rfl⟩, rfl⟩
      exact ⟨⟨first, others⟩, rfl⟩
    · rintro ⟨⟨first, others⟩, rfl⟩
      exact ⟨_, ⟨first, rfl⟩, _, ⟨others, rfl⟩, rfl⟩
end

/-- `_thaw_json`: dicts and lists in place of read-only proxies and tuples. -/
def thawJson (document : Document) : Document := document.thaw

end Freezing

section Rendering

mutual
/-- `repr(value)`. -/
def reprDocument : Document → String
  | .null => "None"
  | .bool value => if value then "True" else "False"
  | .int value => toString value
  | .float value => value.repr
  | .str value => quoted value
  | .sequence frozen items =>
    if frozen then "(" ++ reprItems items ++ (if items.length = 1 then ",)" else ")") else "[" ++ reprItems items ++ "]"
  | .mapping frozen entries =>
    (if frozen then "mappingproxy(\x7b" else "\x7b") ++ reprEntries entries ++ (if frozen then "\x7d)" else "\x7d")
termination_by structural document => document

def reprItems : List Document → String
  | [] => ""
  | item :: items => reprDocument item ++ (if items.isEmpty then "" else ", " ++ reprItems items)
termination_by structural items => items

def reprEntries : List (String × Document) → String
  | [] => ""
  | (key, value) :: entries =>
    quoted key ++ ": " ++ reprDocument value ++ (if entries.isEmpty then "" else ", " ++ reprEntries entries)
termination_by structural entries => entries
end

end Rendering

section Snapshots

def snapshotStatuses : List String := ["deploying", "deployed", "destroying"]

/-- The fields of a snapshot, in alphabetical order. -/
def snapshotFields : List String :=
  ["created_at", "fingerprint", "interfaces", "manifest", "name", "namespaces", "schema", "status"]

/-- A read-only mapping with nothing in it that could change. -/
structure FrozenMapping where
  entries : List (String × Document)
  frozen : (Document.mapping true entries).reshape false true = .mapping true entries
  finite : (Document.mapping true entries).finite = true

def FrozenMapping.document (mapping : FrozenMapping) : Document := .mapping true mapping.entries

/-- `_freeze_mapping`. -/
def freezeMapping (value : Document) (label : String) : Except String FrozenMapping :=
  match frozen : freezeJson value with
  | .error message => .error message
  | .ok (.mapping true entries) => .ok {
      entries
      frozen := by
        obtain ⟨_, shape⟩ := freezeJson_ok.mp frozen
        rw [shape, Document.reshape_reshape]
        rfl
      finite := by
        obtain ⟨finite, shape⟩ := freezeJson_ok.mp frozen
        rw [shape]
        exact (Document.finite_reshape value false true).mpr finite }
  | .ok _ => .error (label ++ " must be an object")

/-- Finite mappings can be stored, and only their container types change. -/
theorem freezeMapping_ok {document : Document} {label : String} {stored : FrozenMapping} :
    freezeMapping document label = .ok stored ↔
      document.finite = true ∧ document.reshape false true = .mapping true stored.entries := by
  unfold freezeMapping
  split
  next message failed =>
    refine iff_of_false (by simp) fun whole => ?_
    rw [freezeJson_ok.mpr ⟨whole.1, rfl⟩] at failed
    cases failed
  next entries frozen =>
    obtain ⟨finite, shape⟩ := freezeJson_ok.mp frozen
    obtain ⟨others, _, _⟩ := stored
    rw [← shape]
    simp [finite]
  next other notMapping frozen =>
    refine iff_of_false (by simp) fun whole => ?_
    obtain ⟨_, rfl⟩ := freezeJson_ok.mp frozen
    exact (notMapping _ whole.2).elim

theorem freezeMapping_total {entries : List (String × Document)} (finite : (Document.dict entries).finite = true)
    (label : String) : ∃ stored, freezeMapping (.dict entries) label = .ok stored := by
  have shape : (Document.dict entries).reshape false true = .mapping true (entries.map fun entry =>
      (entry.1, entry.2.reshape false true)) := by simp [Document.reshape]
  refine ⟨⟨_, ?_, ?_⟩, freezeMapping_ok.mpr ⟨finite, shape⟩⟩
  · rw [← shape, Document.reshape_reshape]
    rfl
  · rw [← shape]
    exact (Document.finite_reshape _ false true).mpr finite

/-- The durable identity and normalized desired state of one deployment. -/
structure StateSnapshot where
  schema : Int
  name : String
  fingerprint : String
  manifest : FrozenMapping
  namespaces : Dict String String
  interfaces : FrozenMapping
  createdAt : String
  status : String

namespace StateSnapshot

/-- `StateSnapshot(...)`: the documents are frozen when a snapshot is built. -/
def create (schema : Int) (name fingerprint : String) (manifest : Document) (namespaces : Dict String String)
    (interfaces : Document) (createdAt status : String) : Except String StateSnapshot := do
  let manifest ← freezeMapping manifest "manifest"
  let interfaces ← freezeMapping interfaces "interfaces"
  pure { schema, name, fingerprint, manifest, namespaces, interfaces, createdAt, status }

def toDict (snapshot : StateSnapshot) : Document := .dict [
  ("schema", .int snapshot.schema),
  ("name", .str snapshot.name),
  ("fingerprint", .str snapshot.fingerprint),
  ("manifest", thawJson snapshot.manifest.document),
  ("namespaces", .dict (snapshot.namespaces.entries.map fun entry => (entry.1, .str entry.2))),
  ("interfaces", thawJson snapshot.interfaces.document),
  ("created_at", .str snapshot.createdAt),
  ("status", .str snapshot.status)]

/-- `left == right`: mappings are compared without their order. -/
def same (left right : StateSnapshot) : Bool :=
  decide (left.schema = right.schema) && left.name == right.name && left.fingerprint == right.fingerprint &&
    left.manifest.document.same right.manifest.document && decide (left.namespaces.Same right.namespaces) &&
    left.interfaces.document.same right.interfaces.document && left.createdAt == right.createdAt && left.status == right.status

end StateSnapshot

section Reading

/-- A value that must have some form. -/
def demand {α : Type} (value : Option α) (message : String) : Except String α :=
  match value with
  | some value => .ok value
  | none => .error message

/-- `_validate_string_mapping`. -/
def validateStringMapping (value : Document) (label : String) : Except String (Dict String String) :=
  match value with
  | .mapping false entries => do
    let texts ← Checks.collect entries fun entry => match entry.2 with
      | .str text => .ok (entry.1, text)
      | _ => .error (label ++ " keys and values must be strings")
    pure (Dict.ofEntries texts)
  | _ => .error (label ++ " must be an object")

/-- `_validate_object`. -/
def validateObject (value : Document) (label : String) : Except String Document :=
  match value with
  | .mapping false entries => .ok (.mapping false entries)
  | _ => .error (label ++ " must be an object")

def isFingerprint (text : String) : Bool :=
  text.toList.length == 64 && text.toList.all fun char => char ∈ "0123456789abcdef".toList

def text? : Document → Option String
  | .str text => some text
  | _ => none

def readSchema (value : Document) : Except String Int :=
  match value with
  | .int 1 => .ok 1
  | other => .error ("unsupported snapshot schema: " ++ reprDocument other)

def readStatus (value : Option Document) : Except String String :=
  match value with
  | none => .ok "deployed"
  | some value => demand ((text? value).filter (· ∈ snapshotStatuses)) ("invalid snapshot status: " ++ reprDocument value)

/-- The value of a field that is known to be present. -/
def field (entries : List (String × Document)) (name : String) : Document := (entries.lookup name).getD .null

/-- `StateSnapshot.from_dict`. -/
def StateSnapshot.fromDict (document : Document) : Except String StateSnapshot :=
  match document with
  | .mapping false entries => do
    let fields := entries.map Prod.fst
    let missing := (snapshotFields.filter (· ≠ "status")).filter (· ∉ fields)
    let unexpected := (fields.filter (· ∉ snapshotFields)).insertionSort (· ≤ ·)
    Checks.raiseIf (missing ≠ []) ("snapshot is missing fields: " ++ ", ".intercalate missing)
    Checks.raiseIf (unexpected ≠ []) ("snapshot has unknown fields: " ++ ", ".intercalate unexpected)
    let schema ← readSchema (field entries "schema")
    let name ← demand ((text? (field entries "name")).filter (isName ·))
      ("invalid snapshot deployment name: " ++ reprDocument (field entries "name"))
    let fingerprint ← demand ((text? (field entries "fingerprint")).filter (isFingerprint ·))
      "snapshot fingerprint must be a lowercase SHA-256 digest"
    let createdAt ← demand ((text? (field entries "created_at")).filter (· ≠ ""))
      "snapshot creation timestamp must be a non-empty string"
    let status ← readStatus (entries.lookup "status")
    let manifest ← validateObject (field entries "manifest") "manifest"
    let namespaces ← validateStringMapping (field entries "namespaces") "namespaces"
    let interfaces ← validateObject (field entries "interfaces") "interfaces"
    let _ ← freezeJson manifest
    let _ ← freezeJson interfaces
    StateSnapshot.create schema name fingerprint manifest namespaces interfaces createdAt status
  | _ => .error "snapshot must be a JSON object"

end Reading

end Snapshots

end Nslab
