import Nslab.Library.JsonSound
import Nslab.StateLoad

/-! Snapshots as they are read: whatever a file holds, what is loaded from it is valid,
holds nothing that a program cannot, and can be saved again with any status. -/

namespace Nslab

open JsonReader

section Accepting

variable {entries : List (String × Document)} {snapshot : StateSnapshot}

theorem sound_field {constant : Bool} (sound : JsonReader.Sound (.mapping constant entries)) (name : String) :
    JsonReader.Sound (field entries name) := by
  unfold field
  cases found : entries.lookup name with
  | none => exact ⟨rfl, rfl, rfl⟩
  | some value =>
    obtain ⟨plain, genuine, short⟩ := sound
    rw [Document.plain, Bool.and_eq_true, Document.plainEntries_iff] at plain
    rw [Document.genuine, Bool.and_eq_true, decide_eq_true_eq, Document.genuineEntries_iff] at genuine
    rw [Document.short, Document.shortEntries_iff] at short
    have member : (name, value) ∈ entries :=
      Dict.get?_iff.mp (show (Dict.mk entries genuine.1).get? name = some value from found)
    exact ⟨plain.2 _ member, genuine.2 _ member, short _ member⟩

/-- A document that is stored as it was read. -/
theorem freezeMapping_sound {document : Document} {label : String} {stored : FrozenMapping} (sound : JsonReader.Sound document)
    (done : freezeMapping document label = .ok stored) :
    stored.document.genuine = true ∧ (thawJson stored.document).short = true := by
  have shape : document.reshape false true = stored.document := (freezeMapping_ok.mp done).2
  have same := Document.genuine_reshape document false true
  have thawed := Document.genuine_reshape stored.document false false
  rw [shape] at same
  exact ⟨same.1.mpr sound.genuine, thawed.2.mpr (same.2.mpr sound.short)⟩

theorem demand_filter {value : Document} {good : String → Bool} {message result : String}
    (read : demand ((text? value).filter good) message = .ok result) : good result = true := by
  rw [demand_ok, Option.filter_eq_some_iff] at read
  exact read.2

/-- What is read as a snapshot is one that can be held, and written again. -/
theorem fromDict_sound {document : Document} (sound : JsonReader.Sound document)
    (read : StateSnapshot.fromDict document = .ok snapshot) :
    snapshot.Valid ∧ snapshot.Genuine ∧ snapshot.toDict.short = true := by
  unfold StateSnapshot.fromDict at read
  split at read
  next entries =>
    simp only [Checks.bind_ok] at read
    obtain ⟨_, _, _, _, schema, schemaRead, name, named, fingerprint, digest, createdAt, created, status, stable, manifest,
      manifestRead,
      namespaces, _, interfaces, interfacesRead, _, _, _, _, made⟩ := read
    unfold StateSnapshot.create at made
    obtain ⟨manifestStored, first, made⟩ := Checks.bind_ok.mp made
    obtain ⟨interfacesStored, second, made⟩ := Checks.bind_ok.mp made
    rw [Checks.pure_ok] at made
    subst made
    have object : ∀ {name label : String} {value : Document}, validateObject (field entries name) label = .ok value →
      JsonReader.Sound value := by
      intro name label value checked
      have own := sound_field sound name
      unfold validateObject at checked
      split at checked
      next same =>
        cases checked
        rwa [same] at own
      · cases checked
    obtain ⟨genuine, short⟩ := freezeMapping_sound (object manifestRead) first
    obtain ⟨others, shorts⟩ := freezeMapping_sound (object interfacesRead) second
    have one : schema = 1 := by
      unfold readSchema at schemaRead
      split at schemaRead
      · exact (Except.ok.inj schemaRead).symm
      · cases schemaRead
    have known : status ∈ snapshotStatuses := by
      unfold readStatus at stable
      split at stable
      · rw [← Except.ok.inj stable]
        decide
      · exact of_decide_eq_true (demand_filter stable)
    refine ⟨⟨one, demand_filter named, demand_filter digest, of_decide_eq_true (demand_filter created), known⟩,
      ⟨genuine, others⟩, ?_⟩
    have texts : ∀ entries : List (String × String),
        Document.shortEntries (entries.map fun entry => (entry.1, .str entry.2)) = true := by
      intro entries
      rw [Document.shortEntries_iff, List.forall_mem_map]
      exact fun _ _ => rfl
    simp only [StateSnapshot.toDict, Document.dict, Document.short, Document.shortEntries, short, shorts, texts, one,
      Bool.and_true]
    decide
  · cases read

end Accepting

namespace Store

variable {root : String} {decodeError : String → String} {reading : Option Store.Issue} {files : String → Option String}
  {name : String} {snapshot : StateSnapshot}

/-- What is loaded is valid, and can be held and written again. -/
theorem load_sound (loaded : load root decodeError reading files name = .ok (some snapshot)) :
    snapshot.Valid ∧ snapshot.Genuine ∧ snapshot.toDict.short = true := by
  unfold load at loaded
  dsimp only at loaded
  split at loaded
  · split at loaded
    · split at loaded <;> cases loaded
    · split at loaded
      · cases loaded
      · split at loaded
        · cases loaded
        next document read =>
          split at loaded
          · cases loaded
          next accepted =>
            cases loaded
            exact fromDict_sound (loads_sound (fun _ _ never => (by cases never)) read) accepted
  · cases loaded

/-- A file with the text of a snapshot is loaded as the snapshot. -/
theorem load_saved (root : String) (decodeError : String → String) (genuine : snapshot.Genuine)
    (content : Saved snapshot (files snapshot.name)) :
    ∃ loaded, load root decodeError none files snapshot.name = .ok (some loaded) ∧ snapshot.Restores loaded := by
  obtain ⟨serialized, written, stored⟩ := content
  obtain ⟨validated, accepted, rest⟩ := Checks.bind_ok.mp written
  obtain ⟨_, short, text⟩ := Checks.bind_ok.mp rest
  obtain ⟨rfl, valid⟩ := fromDict_toDict accepted
  rw [Checks.raiseIf_ok, Bool.not_eq_false] at short
  obtain ⟨whole, finite⟩ := genuine.toDict
  have legible : validated.toDict.decoded.Legible := Document.legible_reshape finite whole short true
  obtain ⟨loaded, read, restores⟩ := fromDict_decoded valid
  refine ⟨loaded, ?_, restores⟩
  rw [Checks.pure_ok] at text
  simp only [load, if_pos valid.name, stored, ← text, (JsonReader.loads_pretty legible).2, read]

end Store

end Nslab
