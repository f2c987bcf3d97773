import Nslab.StateOutcome

/-! Loading what a save has stored: the text reads back as the snapshot, with the keys
of its documents in order. -/

namespace Nslab

namespace Store

open JsonReader

section Loading

/-- What a load raises. -/
inductive LoadRaised where
  | nslab (error : NslabError) (cause : Option Store.Issue)
  | raw (issue : Store.Issue)

variable (root : String) (decodeError : String → String)

/-- The text of the error that reading a text raises. `decodeError` is that of a text that is no JSON. -/
def readErrorText (text : String) : JsonReader.Issue → String
  | .malformed => decodeError text
  | .constant name => "invalid JSON number: " ++ name
  | .tooLong digits => "Exceeds the limit (4300 digits) for integer string conversion: value has " ++ toString digits ++
      " digits; use sys.set_int_max_str_digits() to increase the limit"

/-- `load`, with what opening or reading the file raises when it does. -/
def load (reading : Option Store.Issue) (files : String → Option String) (name : String) :
    Except LoadRaised (Option StateSnapshot) :=
  let path := statePath root name
  let invalid := fun text => LoadRaised.nslab (stateInvalid path text) none
  if isName name then
    match reading with
    | some issue => match issue.kind with
      | .fileNotFound => .ok none
      | .unicode => .error (.nslab (stateInvalid path issue.text) (some issue))
      | .os => .error (.nslab (stateError "STATE_READ_FAILED" "read" path issue) (some issue))
      | .other => .error (.raw issue)
    | none => match files name with
      | none => .ok none
      | some text => match loads (fun constant => .error (.constant constant)) text with
        | .error issue => .error (invalid (readErrorText decodeError text issue))
        | .ok document => match StateSnapshot.fromDict document with
          | .error message => .error (invalid message)
          | .ok snapshot => .ok (some snapshot)
  else .error (.nslab (deploymentNameError name) none)

end Loading

end Store

section Valid

/-- A snapshot that `from_dict` accepts. -/
structure StateSnapshot.Valid (snapshot : StateSnapshot) : Prop where
  schema : snapshot.schema = 1
  name : isName snapshot.name = true
  fingerprint : isFingerprint snapshot.fingerprint = true
  createdAt : snapshot.createdAt ≠ ""
  status : snapshot.status ∈ snapshotStatuses

/-- The fields of a snapshot in a document that `from_dict` reads. -/
structure StateSnapshot.StoredIn (snapshot : StateSnapshot) (manifest interfaces : List (String × Document))
    (namespaces : List (String × String)) (entries : List (String × Document)) : Prop where
  fields : ∀ name, name ∈ entries.map Prod.fst ↔ name ∈ snapshotFields
  schema : entries.lookup "schema" = some (.int snapshot.schema)
  name : entries.lookup "name" = some (.str snapshot.name)
  fingerprint : entries.lookup "fingerprint" = some (.str snapshot.fingerprint)
  createdAt : entries.lookup "created_at" = some (.str snapshot.createdAt)
  status : entries.lookup "status" = some (.str snapshot.status)
  manifest : entries.lookup "manifest" = some (.dict manifest)
  interfaces : entries.lookup "interfaces" = some (.dict interfaces)
  namespaces : entries.lookup "namespaces" = some (.dict (namespaces.map fun entry => (entry.1, .str entry.2)))

variable {snapshot : StateSnapshot} {manifest interfaces entries : List (String × Document)} {namespaces : List (String × String)}

theorem readSchema_ok {number schema : Int} : readSchema (.int number) = .ok schema ↔ number = 1 ∧ number = schema := by
  unfold readSchema
  split
  next same =>
    cases same
    simp
  next other =>
    have apart : number ≠ 1 := fun same => other (by rw [same])
    simp [apart]

theorem demand_ok {α : Type} {value : Option α} {message : String} {result : α} :
    demand value message = .ok result ↔ value = some result := by
  cases value <;> simp [demand]

theorem demand_text {text result message : String} {good : String → Bool} :
    demand ((text? (.str text)).filter good) message = .ok result ↔ good text = true ∧ text = result := by
  rw [demand_ok, text?, Option.filter_some]
  split
  next holds => simp [holds]
  next fails => simp [fails]

theorem validateStringMapping_dict (namespaces : List (String × String)) (label : String) :
    validateStringMapping (.dict (namespaces.map fun entry => (entry.1, .str entry.2))) label =
      .ok (Dict.ofEntries namespaces) := by
  rw [validateStringMapping, Checks.bind_ok]
  refine ⟨namespaces, ?_, rfl⟩
  rw [Checks.collect_ok, List.forall₂_map_left_iff]
  exact List.forall₂_same.mpr fun _ _ => rfl

theorem freezeMapping_finite {document : Document} {label : String} {frozen : FrozenMapping}
    (done : freezeMapping document label = .ok frozen) : ∃ fixed, freezeJson document = .ok fixed :=
  ⟨_, freezeJson_ok.mpr ⟨(freezeMapping_ok.mp done).1, rfl⟩⟩

/-- `from_dict` accepts the document of a valid snapshot, wherever its fields stand. -/
theorem fromDict_stored (stored : snapshot.StoredIn manifest interfaces namespaces entries) {loaded : StateSnapshot} :
    StateSnapshot.fromDict (.dict entries) = .ok loaded ↔ snapshot.Valid ∧
      StateSnapshot.create snapshot.schema snapshot.name snapshot.fingerprint (.dict manifest) (Dict.ofEntries namespaces)
        (.dict interfaces) snapshot.createdAt snapshot.status = .ok loaded := by
  have missing : (snapshotFields.filter (· ≠ "status")).filter (· ∉ entries.map Prod.fst) = [] := by
    rw [List.filter_eq_nil_iff]
    intro name member
    simpa using (stored.fields name).mpr (List.mem_of_mem_filter member)
  have unexpected : (entries.map Prod.fst).filter (· ∉ snapshotFields) = [] := by
    rw [List.filter_eq_nil_iff]
    intro name member
    simpa using (stored.fields name).mp member
  simp only [StateSnapshot.fromDict, missing, unexpected, field, stored.schema, stored.name, stored.fingerprint,
    stored.createdAt, stored.status, stored.manifest, stored.interfaces, stored.namespaces, Option.getD_some, readStatus,
    validateObject, validateStringMapping_dict, demand_text, readSchema_ok, Checks.bind_ok]
  constructor
  · rintro ⟨_, _, _, _, _, ⟨schema, rfl⟩, _, ⟨name, rfl⟩, _, ⟨fingerprint, rfl⟩, _, ⟨createdAt, rfl⟩, _, ⟨status, rfl⟩, _,
      manifest, _, mapping, _, interfaces, _, _, _, _, created⟩
    cases manifest
    cases mapping
    cases interfaces
    exact ⟨⟨schema, name, fingerprint, of_decide_eq_true createdAt, of_decide_eq_true status⟩, created⟩
  · rintro ⟨⟨schema, name, fingerprint, createdAt, status⟩, created⟩
    obtain ⟨_, fixed, rest⟩ := Checks.bind_ok.mp created
    obtain ⟨_, others, _⟩ := Checks.bind_ok.mp rest
    obtain ⟨_, first⟩ := freezeMapping_finite fixed
    obtain ⟨_, second⟩ := freezeMapping_finite others
    exact ⟨(), rfl, (), rfl, _, ⟨schema, rfl⟩, _, ⟨name, rfl⟩, _, ⟨fingerprint, rfl⟩, _, ⟨decide_eq_true createdAt, rfl⟩, _,
      ⟨decide_eq_true status, rfl⟩, _, rfl, _, rfl, _, rfl, _, first, _, second, created⟩

/-- The entries of a stored mapping, with plain containers. -/
def FrozenMapping.thawed (mapping : FrozenMapping) (sorted : Bool) : List (String × Document) :=
  match mapping.document.reshape sorted false with
  | .mapping _ entries => entries
  | _ => []

theorem FrozenMapping.thawed_eq (mapping : FrozenMapping) (sorted : Bool) :
    mapping.document.reshape sorted false = .dict (mapping.thawed sorted) := rfl

theorem StateSnapshot.storedIn_toDict (snapshot : StateSnapshot) : ∃ entries, snapshot.toDict = .dict entries ∧
    (entries.map Prod.fst).Nodup ∧
      snapshot.StoredIn (snapshot.manifest.thawed false) (snapshot.interfaces.thawed false) snapshot.namespaces.entries entries := by
  refine ⟨_, rfl, by simp, ?_⟩
  constructor
  · intro name
    simp only [List.map_cons, List.map_nil, List.mem_cons, List.not_mem_nil, or_false, snapshotFields]
    tauto
  · rfl
  · rfl
  · rfl
  · rfl
  · rfl
  · rfl
  · rfl
  · rfl

/-- Sorting keys keeps the fields of a snapshot where they are found. -/
theorem StateSnapshot.StoredIn.decoded (stored : snapshot.StoredIn manifest interfaces namespaces entries)
    (distinct : (entries.map Prod.fst).Nodup) {manifest' interfaces' : List (String × Document)}
    (first : (Document.dict manifest).decoded = .dict manifest') (second : (Document.dict interfaces).decoded = .dict interfaces') :
    ∃ sorted, (Document.dict entries).decoded = .dict sorted ∧
      snapshot.StoredIn manifest' interfaces' (Dict.sortEntries namespaces) sorted := by
  obtain ⟨sorted, shape, perm⟩ := Document.mapping_reshape entries false true false
  have unique : (sorted.map Prod.fst).Nodup := by
    rw [(perm.map Prod.fst).nodup_iff, Document.keys_reshape]
    exact distinct
  have found : ∀ name value, entries.lookup name = some value → sorted.lookup name = some value.decoded := by
    intro name value given
    have member : (name, value) ∈ entries := Dict.get?_iff.mp (show (Dict.mk entries distinct).get? name = some value from given)
    exact Document.lookup_of_mem unique (perm.mem_iff.mpr (List.mem_map.mpr ⟨_, member, rfl⟩))
  refine ⟨sorted, shape, ?_, found _ _ stored.schema, found _ _ stored.name, found _ _ stored.fingerprint,
    found _ _ stored.createdAt, found _ _ stored.status, ?_, ?_, ?_⟩
  · intro name
    rw [(perm.map Prod.fst).mem_iff, Document.keys_reshape]
    exact stored.fields name
  · rw [← first]
    exact found _ _ stored.manifest
  · rw [← second]
    exact found _ _ stored.interfaces
  · rw [found _ _ stored.namespaces]
    simp [Document.decoded, Document.reshape, Dict.sortEntries_map, Function.comp_def]

end Valid

section Restoring

variable {snapshot loaded : StateSnapshot}

theorem FrozenMapping.ext_document {left right : FrozenMapping} (same : left.document = right.document) : left = right := by
  cases left
  cases right
  cases same
  rfl

/-- The snapshot that the text of a snapshot reads back as. -/
structure StateSnapshot.Restores (snapshot loaded : StateSnapshot) : Prop where
  schema : loaded.schema = snapshot.schema
  name : loaded.name = snapshot.name
  fingerprint : loaded.fingerprint = snapshot.fingerprint
  createdAt : loaded.createdAt = snapshot.createdAt
  status : loaded.status = snapshot.status
  manifest : loaded.manifest.document = snapshot.manifest.document.reshape true true
  interfaces : loaded.interfaces.document = snapshot.interfaces.document.reshape true true
  namespaces : loaded.namespaces.Same snapshot.namespaces

/-- What a program can hold, all through the documents of a snapshot. -/
structure StateSnapshot.Genuine (snapshot : StateSnapshot) : Prop where
  manifest : snapshot.manifest.document.genuine = true
  interfaces : snapshot.interfaces.document.genuine = true

theorem create_dict {manifest interfaces : List (String × Document)} (finite : (Document.dict manifest).finite = true)
    (others : (Document.dict interfaces).finite = true) (schema : Int) (name fingerprint : String) (namespaces : Dict String String)
    (createdAt status : String) : ∃ manifestStored interfacesStored,
      StateSnapshot.create schema name fingerprint (.dict manifest) namespaces (.dict interfaces) createdAt status =
        .ok ⟨schema, name, fingerprint, manifestStored, namespaces, interfacesStored, createdAt, status⟩ ∧
      manifestStored.document = (Document.dict manifest).reshape false true ∧
      interfacesStored.document = (Document.dict interfaces).reshape false true := by
  obtain ⟨manifestStored, first⟩ := freezeMapping_total finite "manifest"
  obtain ⟨interfacesStored, second⟩ := freezeMapping_total others "interfaces"
  refine ⟨manifestStored, interfacesStored, ?_, (freezeMapping_ok.mp first).2.symm, (freezeMapping_ok.mp second).2.symm⟩
  rw [StateSnapshot.create, first, second]
  rfl

theorem FrozenMapping.finite_thawed (mapping : FrozenMapping) (sorted : Bool) :
    (Document.dict (mapping.thawed sorted)).finite = true := by
  rw [← mapping.thawed_eq]
  exact (Document.finite_reshape _ _ _).mpr mapping.finite

/-- A snapshot that `from_dict` accepts comes back as it is. -/
theorem fromDict_toDict (accepted : StateSnapshot.fromDict snapshot.toDict = .ok loaded) :
    loaded = snapshot ∧ snapshot.Valid := by
  obtain ⟨entries, shape, _, stored⟩ := snapshot.storedIn_toDict
  rw [shape] at accepted
  obtain ⟨valid, created⟩ := (fromDict_stored stored).mp accepted
  obtain ⟨manifest, interfaces, made, first, second⟩ := create_dict (snapshot.manifest.finite_thawed false)
    (snapshot.interfaces.finite_thawed false) snapshot.schema snapshot.name snapshot.fingerprint
    (Dict.ofEntries snapshot.namespaces.entries) snapshot.createdAt snapshot.status
  rw [created, Except.ok.injEq] at made
  rw [← FrozenMapping.thawed_eq, Document.reshape_reshape] at first second
  have same := FrozenMapping.ext_document (first.trans snapshot.manifest.frozen)
  have others := FrozenMapping.ext_document (second.trans snapshot.interfaces.frozen)
  have namespaces : Dict.ofEntries snapshot.namespaces.entries = snapshot.namespaces :=
    Dict.ext (Dict.entries_ofEntries snapshot.namespaces.unique)
  rw [made, same, others, namespaces]
  exact ⟨rfl, valid⟩

/-- The document of a valid snapshot is accepted with its keys in order. -/
theorem fromDict_decoded (valid : snapshot.Valid) :
    ∃ loaded, StateSnapshot.fromDict snapshot.toDict.decoded = .ok loaded ∧ snapshot.Restores loaded := by
  obtain ⟨entries, shape, distinct, stored⟩ := snapshot.storedIn_toDict
  have decoded : ∀ mapping : FrozenMapping, (Document.dict (mapping.thawed false)).decoded = .dict (mapping.thawed true) := by
    intro mapping
    rw [← mapping.thawed_eq, ← mapping.thawed_eq]
    exact Document.reshape_reshape _ _ _ _ _
  obtain ⟨sorted, sortedShape, sortedStored⟩ := stored.decoded distinct (decoded _) (decoded _)
  obtain ⟨manifest, interfaces, made, first, second⟩ := create_dict (snapshot.manifest.finite_thawed true)
    (snapshot.interfaces.finite_thawed true) snapshot.schema snapshot.name snapshot.fingerprint
    (Dict.ofEntries (Dict.sortEntries snapshot.namespaces.entries)) snapshot.createdAt snapshot.status
  rw [← FrozenMapping.thawed_eq, Document.reshape_reshape] at first second
  have accepted := (fromDict_stored sortedStored).mpr ⟨valid, made⟩
  have perm := Dict.sortEntries_perm snapshot.namespaces.entries
  have unique : ((Dict.sortEntries snapshot.namespaces.entries).map Prod.fst).Nodup := by
    rw [(perm.map Prod.fst).nodup_iff]
    exact snapshot.namespaces.unique
  have namespaces : (Dict.ofEntries (Dict.sortEntries snapshot.namespaces.entries)).Same snapshot.namespaces := by
    apply Dict.same_of_perm
    rw [Dict.entries_ofEntries unique]
    exact perm
  rw [← sortedShape, ← shape] at accepted
  exact ⟨_, accepted, ⟨rfl, rfl, rfl, rfl, rfl, first, second, namespaces⟩⟩

/-- A snapshot that is read back is equal to the one stored, from either side. -/
theorem StateSnapshot.Restores.same (restores : snapshot.Restores loaded) (genuine : snapshot.Genuine) :
    loaded.same snapshot = true ∧ snapshot.same loaded = true := by
  have documents : ∀ stored read : FrozenMapping, stored.document.genuine = true →
      read.document = stored.document.reshape true true →
      read.document.same stored.document = true ∧ stored.document.same read.document = true := by
    intro stored read genuine shape
    have own : stored.document.reshape false true = stored.document := stored.frozen
    have forward : (stored.document.reshape true true).same (stored.document.reshape false true) = true :=
      Document.same_sorted stored.finite genuine true true false
    have backward : (stored.document.reshape false true).same (stored.document.reshape true true) = true :=
      Document.same_sorted stored.finite genuine true false true
    rw [own] at forward backward
    rw [shape]
    exact ⟨forward, backward⟩
  obtain ⟨manifest, manifestBack⟩ := documents _ _ genuine.manifest restores.manifest
  obtain ⟨interfaces, interfacesBack⟩ := documents _ _ genuine.interfaces restores.interfaces
  constructor
  · simp [StateSnapshot.same, restores.schema, restores.name, restores.fingerprint, restores.createdAt, restores.status, manifest,
      interfaces, restores.namespaces]
  · simp [StateSnapshot.same, restores.schema, restores.name, restores.fingerprint, restores.createdAt, restores.status, manifestBack,
      interfacesBack, restores.namespaces.symm]

/-- The document of a genuine snapshot is genuine, and finite. -/
theorem StateSnapshot.Genuine.toDict (genuine : snapshot.Genuine) : snapshot.toDict.genuine = true ∧ snapshot.toDict.finite = true := by
  have manifest : (thawJson snapshot.manifest.document).genuine = true := (Document.genuine_reshape _ _ _).1.mpr genuine.manifest
  have interfaces : (thawJson snapshot.interfaces.document).genuine = true :=
    (Document.genuine_reshape _ _ _).1.mpr genuine.interfaces
  have first : (thawJson snapshot.manifest.document).finite = true := (Document.finite_reshape _ _ _).mpr snapshot.manifest.finite
  have second : (thawJson snapshot.interfaces.document).finite = true :=
    (Document.finite_reshape _ _ _).mpr snapshot.interfaces.finite
  have distinct : (snapshot.namespaces.entries.map Prod.fst).Nodup := snapshot.namespaces.unique
  constructor
  · have namespaces : Document.genuineEntries (snapshot.namespaces.entries.map fun entry => (entry.1, .str entry.2)) = true := by
      rw [Document.genuineEntries_iff, List.forall_mem_map]
      exact fun _ _ => rfl
    simp only [StateSnapshot.toDict, Document.genuine, Document.genuineEntries, manifest, interfaces, namespaces, List.map_map]
    simp [Function.comp_def, distinct]
  · have namespaces : Document.finiteEntries (snapshot.namespaces.entries.map fun entry => (entry.1, .str entry.2)) = true := by
      rw [Document.finiteEntries_iff, List.forall_mem_map]
      exact fun _ _ => rfl
    simp only [StateSnapshot.toDict, Document.finite, Document.finiteEntries, first, second, namespaces, Bool.and_self]

end Restoring

namespace Store

variable (root : String) {calls : SaveCalls} {snapshot : StateSnapshot} (files : String → Option String)

/-- A save that returns has put the text of the snapshot in its file. -/
theorem save_done {after : Session} (saved : save root calls snapshot { files } = (.ok (), after)) :
    Saved snapshot (after.files snapshot.name) := by
  by_cases begins : Begins calls snapshot
  · obtain ⟨serialized, written⟩ := begins.2.1
    rw [save_begun root files begins written] at saved
    rcases @writeTemporary_run calls serialized { files } rfl rfl rfl rfl with ⟨_, wrote⟩ | ⟨_, failure, torn, wrote, _⟩
    · rcases @commit_run calls (statePath root snapshot.name) snapshot.name
          { files, temporary := some serialized, temporaryPath := true } rfl rfl with
        ⟨_, _, run⟩ | ⟨_, failure, final, run, _⟩ | ⟨_, failure, noted, run, _⟩
      · have both : (writeTemporary calls serialized >>= fun _ => commit calls (statePath root snapshot.name) snapshot.name)
            { files } = _ := (Action.bind_of_ok wrote).trans run
        have done := @replaceFile_ok calls (statePath root snapshot.name) snapshot.name serialized _ _ both rfl rfl
        have same := (Prod.mk.inj (done.symm.trans saved)).2
        rw [← same]
        exact ⟨serialized, written, if_pos rfl⟩
      · obtain ⟨_, _, raises, _⟩ := replaceFile_error ((Action.bind_of_ok wrote).trans run)
        cases raises.symm.trans saved
      · obtain ⟨_, _, raises, _⟩ := replaceFile_error ((Action.bind_of_ok wrote).trans run)
        cases raises.symm.trans saved
    · obtain ⟨_, _, raises, _⟩ := @replaceFile_error calls (statePath root snapshot.name) snapshot.name serialized _ _ _
        (Action.bind_of_error wrote)
      cases raises.symm.trans saved
  · have truthful := save_unbegun root files begins
    rw [saved] at truthful
    exact truthful.done rfl

/-- Loading what a save has stored gives a snapshot that is equal to the saved one. -/
theorem load_save (decodeError : String → String) (genuine : snapshot.Genuine) {after : Session}
    (saved : save root calls snapshot { files } = (.ok (), after)) :
    ∃ loaded, load root decodeError none after.files snapshot.name = .ok (some loaded) ∧ snapshot.Restores loaded ∧
      loaded.same snapshot = true ∧ snapshot.same loaded = true := by
  obtain ⟨serialized, written, content⟩ := save_done root files saved
  obtain ⟨validated, accepted, rest⟩ := Checks.bind_ok.mp written
  obtain ⟨_, short, text⟩ := Checks.bind_ok.mp rest
  obtain ⟨rfl, valid⟩ := fromDict_toDict accepted
  rw [Checks.raiseIf_ok, Bool.not_eq_false] at short
  obtain ⟨genuineDocument, finite⟩ := genuine.toDict
  have legible : validated.toDict.decoded.Legible := Document.legible_reshape finite genuineDocument short true
  obtain ⟨loaded, read, restores⟩ := fromDict_decoded valid
  obtain ⟨forward, backward⟩ := restores.same genuine
  refine ⟨loaded, ?_, restores, forward, backward⟩
  rw [Checks.pure_ok] at text
  simp only [load, if_pos valid.name, content, ← text, (JsonReader.loads_pretty legible).2, read]

/-- Every call does what it is asked to. -/
def smoothCalls : SaveCalls where
  mkdir := .done
  chmod := .done
  mkstemp := .done
  fchmod := .done
  fdopen := .done
  write := .done
  flush := .done
  fsync := .done
  fileClose := .done
  replace := .done
  directoryOpen := .done
  directoryFsync := .done
  directoryClose := .done
  descriptorClose := .done
  unlinkTemporary := .done
  torn := ""
  handling := false

/-- A snapshot that `from_dict` accepts is saved where nothing fails. -/
theorem save_smooth (valid : snapshot.Valid) (short : snapshot.toDict.short = true) :
    ∃ after, save root smoothCalls snapshot { files } = (.ok (), after) := by
  obtain ⟨entries, shape, _, stored⟩ := snapshot.storedIn_toDict
  obtain ⟨_, _, made, _⟩ := create_dict (snapshot.manifest.finite_thawed false) (snapshot.interfaces.finite_thawed false)
    snapshot.schema snapshot.name snapshot.fingerprint (Dict.ofEntries snapshot.namespaces.entries) snapshot.createdAt snapshot.status
  have accepted := (fromDict_stored stored).mpr ⟨valid, made⟩
  rw [← shape] at accepted
  obtain ⟨same, _⟩ := fromDict_toDict accepted
  have written : serialize snapshot = .ok (JsonText.dumpsPretty false snapshot.toDict ++ "\n") := by
    rw [serialize, accepted, same, Checks.ok_bind, Checks.raiseIf_pass (by simp [short])]
    rfl
  have begins : Begins smoothCalls snapshot := ⟨valid.name, ⟨_, written⟩, rfl, rfl⟩
  rw [save_begun root files begins written]
  exact ⟨_, rfl⟩

/-- A deployment of one node, with a setting of every kind of value. -/
def exampleSnapshot : StateSnapshot where
  schema := 1
  name := "lab"
  fingerprint := String.ofList (List.replicate 64 'a')
  manifest := {
    entries := [("nodes", .sequence true [.mapping true [("name", .str "a"), ("mtu", .int 1500), ("loss", .float (.finite (1 / 2)))]]),
      ("links", .null)]
    frozen := by rfl
    finite := by rfl }
  namespaces := Dict.ofEntries [("b", "nslab-b"), ("a", "nslab-a")]
  interfaces := ⟨[("owner", .mapping true [("b", .bool true), ("a", .null)])], by rfl, by rfl⟩
  createdAt := "2026-01-01T00:00:00+00:00"
  status := "deployed"

theorem load_save_example : ∃ after loaded, save "/run/nslab" smoothCalls exampleSnapshot { files := fun _ => none } = (.ok (), after) ∧
    load "/run/nslab" (fun _ => "Expecting value") none after.files exampleSnapshot.name = .ok (some loaded) ∧
      loaded.same exampleSnapshot = true := by
  have valid : exampleSnapshot.Valid := ⟨rfl, by decide, by decide, by decide, by decide⟩
  have genuine : exampleSnapshot.Genuine := ⟨by decide +kernel, by decide +kernel⟩
  obtain ⟨after, saved⟩ := save_smooth "/run/nslab" (fun _ => none) valid (by decide +kernel)
  obtain ⟨loaded, read, _, same, _⟩ := load_save "/run/nslab" (fun _ => none) (fun _ => "Expecting value") genuine saved
  exact ⟨after, loaded, saved, read, same⟩

end Store

end Nslab
