import Nslab.StateStore

/-! What the errors of the store say about its files: a save or a delete leaves the file
of the deployment as its error code tells, whichever calls fail. -/

namespace Nslab

namespace Store

section Stages

variable (root : String) (calls : SaveCalls) (serialized : String)

/-- All that a save does before it replaces the file succeeds. -/
structure WritesAll : Prop where
  mkstemp : calls.mkstemp = .done
  fchmod : calls.fchmod = .done
  fdopen : calls.fdopen = .done
  write : calls.write = .done
  flush : calls.flush = .done
  fsync : calls.fsync = .done
  fileClose : calls.fileClose = .done ∨ calls.handling = true

/-- The temporary file is made by a call that raises, so that nobody knows its name. -/
def MakesNameless : Prop := ∃ issue, calls.mkstemp = .failed issue true

/-- A session that a failed write leaves: the file of the deployment is as before. -/
structure Unwritten (failure : Failure) (before after : Session) : Prop where
  files : after.files = before.files
  replaced : after.replaced = before.replaced
  unlinkFailed : after.unlinkFailed = before.unlinkFailed
  named : after.temporaryPath = true ∨
    (after.temporaryPath = false ∧ after.fileDescriptor = false ∧ (after.temporary = none ↔ ¬ MakesNameless calls))
  known : MakesNameless calls → after.temporaryPath = false
  noted : ∀ other ∈ after.noted, other.site = .fileClose ∧ failure.site ≠ .fileClose
  primary : failure.site ≠ .descriptorClose ∧ failure.site ≠ .unlinkTemporary

theorem call_done {site : Site} {reply : Reply} {effect : Session → Session} (session : Session) (done : reply = .done) :
    call site reply effect session = (.ok (), effect session) := by
  rw [done]
  rfl

theorem call_cases (site : Site) (reply : Reply) (session : Session) : (reply = .done ∧ call site reply id session = (.ok (), session)) ∨
    ∃ issue took, reply = .failed issue took ∧ call site reply id session = (.error (.raw ⟨site, issue⟩), session) := by
  cases reply with
  | done => exact Or.inl ⟨rfl, rfl⟩
  | failed issue took =>
    refine Or.inr ⟨issue, took, rfl, ?_⟩
    cases took with
    | false => rfl
    | true => rfl

theorem writeText_run (session : Session) :
    (calls.write = .done ∧ calls.flush = .done ∧ calls.fsync = .done ∧
      writeText calls serialized session = (.ok (), { session with temporary := some serialized })) ∨
    (¬ (calls.write = .done ∧ calls.flush = .done ∧ calls.fsync = .done) ∧ ∃ site issue text,
      site ∈ [Site.write, Site.flush, Site.fsync] ∧
      writeText calls serialized session = (.error (.raw ⟨site, issue⟩), { session with temporary := some text })) := by
  simp only [writeText, Bind.bind, Action.andThen]
  cases calls.write with
  | failed issue took => exact Or.inr ⟨by simp, .write, issue, calls.torn, by simp, rfl⟩
  | done => cases calls.flush with
    | failed issue took => exact Or.inr ⟨by simp, .flush, issue, calls.torn, by simp, rfl⟩
    | done =>
      rcases call_cases .fsync calls.fsync { session with temporary := some serialized } with ⟨done, run⟩ | ⟨issue, took, failed, run⟩
      · exact Or.inl ⟨rfl, rfl, done, run⟩
      · exact Or.inr ⟨by simp [failed], .fsync, issue, serialized, by simp, run⟩

theorem closingFile_run (session : Session) :
    (calls.write = .done ∧ calls.flush = .done ∧ calls.fsync = .done ∧ (calls.fileClose = .done ∨ calls.handling = true) ∧
      closingFile calls (writeText calls serialized) session = (.ok (), { session with temporary := some serialized })) ∨
    (¬ (calls.write = .done ∧ calls.flush = .done ∧ calls.fsync = .done ∧ (calls.fileClose = .done ∨ calls.handling = true)) ∧
      ∃ failure text noted, closingFile calls (writeText calls serialized) session =
        (.error (.raw failure), { session with temporary := some text, noted := session.noted ++ noted }) ∧
      (∀ other ∈ noted, other.site = .fileClose ∧ failure.site ≠ .fileClose) ∧
      failure.site ∈ [Site.write, Site.flush, Site.fsync, Site.fileClose]) := by
  rcases writeText_run calls serialized session with ⟨write, flush, fsync, run⟩ | ⟨failed, site, issue, text, member, run⟩
  · rcases call_cases .fileClose calls.fileClose { session with temporary := some serialized } with
      ⟨done, closed⟩ | ⟨issue, took, failed, closed⟩
    · refine Or.inl ⟨write, flush, fsync, Or.inl done, ?_⟩
      simp only [closingFile, Bind.bind, Action.andThen, Action.attempt, run, closed]
      rfl
    · by_cases handling : calls.handling = true
      · refine Or.inl ⟨write, flush, fsync, Or.inr handling, ?_⟩
        simp only [closingFile, Bind.bind, Action.andThen, Action.attempt, run, closed, handling]
        rfl
      · refine Or.inr ⟨by simp [failed, handling], ⟨.fileClose, issue⟩, serialized, [], ?_, List.forall_mem_nil _, by simp⟩
        simp only [closingFile, Bind.bind, Action.andThen, Action.attempt, run, closed, handling, List.append_nil]
        rfl
  · rcases call_cases .fileClose calls.fileClose { session with temporary := some text } with
      ⟨done, closed⟩ | ⟨other, took, undone, closed⟩
    · refine Or.inr ⟨fun all => failed ⟨all.1, all.2.1, all.2.2.1⟩, ⟨site, issue⟩, text, [], ?_, List.forall_mem_nil _, ?_⟩
      · simp only [closingFile, Bind.bind, Action.andThen, Action.attempt, run, closed, List.append_nil]
        rfl
      · exact List.mem_append_left [Site.fileClose] member
    · refine Or.inr ⟨fun all => failed ⟨all.1, all.2.1, all.2.2.1⟩, ⟨site, issue⟩, text, [⟨.fileClose, other⟩], ?_, ?_, ?_⟩
      · simp only [closingFile, Bind.bind, Action.andThen, Action.attempt, run, closed]
        rfl
      · intro noted same
        rw [List.mem_singleton.mp same]
        refine ⟨rfl, ?_⟩
        intro equal
        dsimp only at equal
        subst equal
        simp at member
      · exact List.mem_append_left [Site.fileClose] member

/-- A temporary file is written, or the file of the deployment is untouched. -/
theorem writeTemporary_run {session : Session} (fresh : session.temporary = none) (unnamed : session.temporaryPath = false)
    (closed : session.fileDescriptor = false) (quiet : session.noted = []) :
    (WritesAll calls ∧ writeTemporary calls serialized session =
      (.ok (), { session with temporary := some serialized, temporaryPath := true })) ∨
    (¬ WritesAll calls ∧ ∃ failure after, writeTemporary calls serialized session = (.error (.raw failure), after) ∧
      Unwritten calls failure session after) := by
  simp only [writeTemporary, Bind.bind, Action.andThen]
  cases made : calls.mkstemp with
  | failed issue took =>
    refine Or.inr ⟨fun all => (by cases made.symm.trans all.mkstemp), ⟨.mkstemp, issue⟩, _, rfl, ?_⟩
    cases took with
    | false =>
      have named : ¬ MakesNameless calls := by simp [MakesNameless, made]
      exact ⟨rfl, rfl, rfl, Or.inr ⟨unnamed, closed, by simp [fresh, named]⟩, fun nameless => absurd nameless named,
        by simp [quiet], by simp⟩
    | true =>
      have nameless : MakesNameless calls := ⟨issue, made⟩
      exact ⟨rfl, rfl, rfl, Or.inr ⟨unnamed, closed, by simp [nameless]⟩, fun _ => unnamed, by simp [quiet], by simp⟩
  | done =>
    have named : ¬ MakesNameless calls := by simp [MakesNameless, made]
    simp only [call_done _ rfl, Action.modify]
    rcases call_cases .fchmod calls.fchmod { session with temporary := some "", temporaryPath := true, fileDescriptor := true } with
      ⟨fchmod, run⟩ | ⟨issue, took, failed, run⟩
    · simp only [run]
      rcases call_cases .fdopen calls.fdopen { session with temporary := some "", temporaryPath := true, fileDescriptor := true } with
        ⟨fdopen, run⟩ | ⟨issue, took, failed, run⟩
      · simp only [run]
        rcases closingFile_run calls serialized { session with temporary := some "", temporaryPath := true, fileDescriptor := false }
          with ⟨write, flush, fsync, fileClose, run⟩ | ⟨failed, failure, text, noted, run, others, site⟩
        · refine Or.inl ⟨⟨made, fchmod, fdopen, write, flush, fsync, fileClose⟩, ?_⟩
          rw [run, ← closed]
        · refine Or.inr ⟨fun all => failed ⟨all.write, all.flush, all.fsync, all.fileClose⟩, failure, _, run, ?_⟩
          refine ⟨rfl, rfl, rfl, Or.inl rfl, fun nameless => absurd nameless named, ?_, ?_⟩
          · simpa [quiet] using others
          · simp only [List.mem_cons, List.not_mem_nil, or_false] at site
            rcases site with same | same | same | same
            · simp [same]
            · simp [same]
            · simp [same]
            · simp [same]
      · refine Or.inr ⟨fun all => (by cases failed.symm.trans all.fdopen), ⟨.fdopen, issue⟩, _, by rw [run], ?_⟩
        exact ⟨rfl, rfl, rfl, Or.inl rfl, fun nameless => absurd nameless named, by simp [quiet], by simp⟩
    · refine Or.inr ⟨fun all => (by cases failed.symm.trans all.fchmod), ⟨.fchmod, issue⟩, _, by rw [run], ?_⟩
      exact ⟨rfl, rfl, rfl, Or.inl rfl, fun nameless => absurd nameless named, by simp [quiet], by simp⟩

/-- The directory is closed with an error that replaces the one of writing it out. -/
def Replaces (directoryOpen directoryFsync directoryClose : Reply) : Prop :=
  directoryOpen = .done ∧ directoryFsync ≠ .done ∧ ∃ issue took, directoryClose = .failed issue took ∧ issue.isOSError = false

theorem fsyncDirectory_run (directoryOpen directoryFsync directoryClose : Reply) {session : Session} (quiet : session.noted = []) :
    (fsyncDirectory directoryOpen directoryFsync directoryClose session = (.ok (), session) ∧
      ¬ Replaces directoryOpen directoryFsync directoryClose) ∨
    ∃ failure noted, fsyncDirectory directoryOpen directoryFsync directoryClose session =
      (.error (.raw failure), { session with noted := noted }) ∧
      (failure ∈ noted ↔ Replaces directoryOpen directoryFsync directoryClose) ∧
      failure.site ∈ [Site.directoryOpen, Site.directoryFsync, Site.directoryClose] := by
  simp only [fsyncDirectory, Bind.bind, Action.andThen, Action.attempt]
  rcases call_cases .directoryOpen directoryOpen session with ⟨opened, run⟩ | ⟨issue, took, failed, run⟩
  · rcases call_cases .directoryFsync directoryFsync session with ⟨synced, sync⟩ | ⟨issue, took, failed, sync⟩
    · rcases call_cases .directoryClose directoryClose session with ⟨closed, close⟩ | ⟨issue, took, failed, close⟩
      · refine Or.inl ⟨?_, fun replaces => replaces.2.1 synced⟩
        simp only [run, sync, close]
        rfl
      · cases os : issue.isOSError with
        | true =>
          refine Or.inl ⟨?_, fun replaces => replaces.2.1 synced⟩
          simp only [run, sync, close, os]
          rfl
        | false =>
          refine Or.inr ⟨⟨.directoryClose, issue⟩, session.noted, ?_, ?_, by simp⟩
          · simp only [run, sync, close, os]
            rfl
          · rw [quiet]
            exact iff_of_false List.not_mem_nil fun replaces => replaces.2.1 synced
    · have unsynced : directoryFsync ≠ .done := fun done => by cases failed.symm.trans done
      rcases call_cases .directoryClose directoryClose session with ⟨closed, close⟩ | ⟨other, again, undone, close⟩
      · refine Or.inr ⟨⟨.directoryFsync, issue⟩, session.noted, ?_, ?_, by simp⟩
        · simp only [run, sync, close]
          rfl
        · rw [quiet]
          exact iff_of_false List.not_mem_nil (by simp [Replaces, closed])
      · cases os : other.isOSError with
        | true =>
          refine Or.inr ⟨⟨.directoryFsync, issue⟩, session.noted ++ [⟨.directoryClose, other⟩], ?_, ?_, by simp⟩
          · simp only [run, sync, close, note, os]
            rfl
          · rw [quiet]
            refine iff_of_false (by simp) ?_
            rintro ⟨_, _, _, _, same, outside⟩
            cases undone.symm.trans same
            exact Bool.false_ne_true (outside.symm.trans os)
        | false =>
          refine Or.inr ⟨⟨.directoryClose, other⟩, session.noted ++ [⟨.directoryClose, other⟩], ?_, ?_, by simp⟩
          · simp only [run, sync, close, note, os]
            rfl
          · exact iff_of_true (by simp) ⟨opened, unsynced, other, again, undone, os⟩
  · refine Or.inr ⟨⟨.directoryOpen, issue⟩, session.noted, by simp only [run], ?_, by simp⟩
    rw [quiet]
    exact iff_of_false List.not_mem_nil fun replaces => by cases failed.symm.trans replaces.1

/-- The session when the file is replaced. -/
def Session.put (session : Session) (name : String) (noted : List Failure) : Session :=
  { session.move name with replaced := true, noted := noted }

/-- The file is replaced, or nobody knows whether it is, or it is replaced with a directory that may not be written out. -/
theorem commit_run (path name : String) {session : Session} (quiet : session.noted = []) (fresh : session.replaced = false) :
    (calls.replace = .done ∧ ¬ Replaces calls.directoryOpen calls.directoryFsync calls.directoryClose ∧
      commit calls path name session = (.ok (), session.put name [])) ∨
    (calls.replace ≠ .done ∧ ∃ failure after, commit calls path name session =
      (.error (.nslab (commitOutcomeUnknown path "save" failure.issue) (some failure)), after) ∧
      (after = session ∨ after = session.move name) ∧ failure.site = .replace) ∨
    (calls.replace = .done ∧ ∃ failure noted, commit calls path name session =
      (.error (.nslab (durabilityError path "save" failure.issue) (some failure)),
        session.put name noted) ∧
      (failure ∈ noted ↔ Replaces calls.directoryOpen calls.directoryFsync calls.directoryClose) ∧
      failure.site ∈ [Site.directoryOpen, Site.directoryFsync, Site.directoryClose]) := by
  simp only [commit, Action.recover, Bind.bind, Action.andThen]
  cases replaced : calls.replace with
  | done =>
    have moved : ({ session.move name with replaced := true } : Session).noted = [] := quiet
    rcases fsyncDirectory_run calls.directoryOpen calls.directoryFsync calls.directoryClose moved with ⟨run, calm⟩ | ⟨failure, noted, run, replaces, site⟩
    · refine Or.inl ⟨rfl, calm, ?_⟩
      simp only [call_done _ rfl, Action.modify, run, Session.put]
      rw [← moved]
    · refine Or.inr (Or.inr ⟨rfl, failure, noted, ?_, replaces, site⟩)
      simp only [call_done _ rfl, Action.modify, run]
      rfl
  | failed issue took =>
    refine Or.inr (Or.inl ⟨by simp, ⟨.replace, issue⟩, ?_⟩)
    cases took with
    | false =>
      refine ⟨session, ?_, Or.inl rfl, rfl⟩
      simp only [call, Bool.false_eq_true, if_false, Action.andThen, Action.inspect, fresh, Action.raise]
    | true =>
      refine ⟨session.move name, ?_, Or.inr rfl, rfl⟩
      have moved : (session.move name).replaced = false := fresh
      simp only [call, if_true, Action.andThen, Action.inspect, moved, Bool.false_eq_true, if_false, Action.raise]

theorem closeDescriptor_run (session : Session) : (∃ reply, closeDescriptor calls session = (reply, session) ∧
    ∀ raised, reply = .error raised → ∃ issue, raised = .raw ⟨.descriptorClose, issue⟩ ∧ session.fileDescriptor = true) := by
  simp only [closeDescriptor, Bind.bind, Action.andThen, Action.inspect]
  by_cases descriptor : session.fileDescriptor = true
  · rw [if_pos descriptor]
    rcases call_cases .descriptorClose calls.descriptorClose session with ⟨_, run⟩ | ⟨issue, took, _, run⟩
    · exact ⟨_, run, fun raised failed => by cases failed⟩
    · refine ⟨_, run, fun raised failed => ⟨issue, (Except.error.inj failed).symm, descriptor⟩⟩
  · rw [if_neg descriptor]
    exact ⟨_, rfl, fun raised failed => by cases failed⟩

/-- The temporary file when the cleanup is over: gone, unless it is none of the cleanup's or cannot be removed. -/
structure Cleaned (before after : Session) : Prop where
  files : after.files = before.files
  noted : after.noted = before.noted
  removed : before.temporaryPath = true → before.replaced = false → after.temporary = none ∨ after.unlinkFailed = true
  kept : before.temporaryPath = false ∨ before.replaced = true → after = before

theorem unlinkTemporary_run (session : Session) : ∃ reply after, unlinkTemporary calls session = (reply, after) ∧
    Cleaned session after ∧ ∀ raised, reply = .error raised → ∃ issue, raised = .raw ⟨.unlinkTemporary, issue⟩ := by
  simp only [unlinkTemporary, Bind.bind, Action.andThen, Action.inspect]
  by_cases own : session.temporaryPath = true ∧ session.replaced = false
  · rw [if_pos own]
    have kept {after : Session} : session.temporaryPath = false ∨ session.replaced = true → after = session := by
      intro other
      simp [own] at other
    cases calls.unlinkTemporary with
    | done => exact ⟨_, _, rfl, ⟨rfl, rfl, fun _ _ => Or.inl rfl, kept⟩, fun raised failed => by cases failed⟩
    | failed issue took =>
      by_cases missing : issue.kind = .fileNotFound
      · simp only [if_pos missing]
        exact ⟨_, _, rfl, ⟨rfl, rfl, fun _ _ => Or.inl rfl, kept⟩, fun raised failed => by cases failed⟩
      · simp only [if_neg missing]
        exact ⟨_, _, rfl, ⟨rfl, rfl, fun _ _ => Or.inr rfl, kept⟩, fun raised failed => ⟨issue, (Except.error.inj failed).symm⟩⟩
  · rw [if_neg own]
    refine ⟨_, _, rfl, ⟨rfl, rfl, fun named fresh => absurd ⟨named, fresh⟩ own, fun _ => rfl⟩, fun raised failed => by cases failed⟩

/-- The cleanup raises nothing over an error, and only adds its own failures to those that are noted. -/
theorem cleanupTemporary_active (session : Session) : ∃ after noted, cleanupTemporary calls true session = (.ok (), after) ∧
    after.files = session.files ∧ after.noted = session.noted ++ noted ∧
    (∀ failure ∈ noted, failure.site ∈ [Site.descriptorClose, Site.unlinkTemporary]) ∧
    (session.temporaryPath = true → session.replaced = false → after.temporary = none ∨ after.unlinkFailed = true) ∧
    (session.temporaryPath = false ∨ session.replaced = true →
      after.temporary = session.temporary ∧ after.unlinkFailed = session.unlinkFailed) := by
  obtain ⟨closed, close, descriptor⟩ := closeDescriptor_run calls session
  obtain ⟨removed, after, unlink, cleaned, unlinked⟩ := unlinkTemporary_run calls session
  have kept : session.temporaryPath = false ∨ session.replaced = true →
      after.temporary = session.temporary ∧ after.unlinkFailed = session.unlinkFailed := fun other => by rw [cleaned.kept other]; simp
  simp only [cleanupTemporary, Bind.bind, Action.andThen, Action.attempt, close, unlink]
  cases closed with
  | error error =>
    obtain ⟨issue, rfl, _⟩ := descriptor error rfl
    cases removed with
    | error other =>
      obtain ⟨second, rfl⟩ := unlinked other rfl
      refine ⟨_, [⟨.descriptorClose, issue⟩, ⟨.unlinkTemporary, second⟩], rfl, cleaned.files, ?_, by simp, cleaned.removed, kept⟩
      simp [cleaned.noted]
    | ok done =>
      refine ⟨_, [⟨.descriptorClose, issue⟩], rfl, cleaned.files, ?_, by simp, cleaned.removed, kept⟩
      simp [cleaned.noted]
  | ok done => cases removed with
    | error other =>
      obtain ⟨second, rfl⟩ := unlinked other rfl
      refine ⟨_, [⟨.unlinkTemporary, second⟩], rfl, cleaned.files, ?_, by simp, cleaned.removed, kept⟩
      simp [cleaned.noted]
    | ok done => exact ⟨_, [], rfl, cleaned.files, by simp [cleaned.noted], List.forall_mem_nil _, cleaned.removed, kept⟩

/-- Once the file is replaced and its descriptor handed over there is nothing to clean up. -/
theorem cleanupTemporary_done {session : Session} (replaced : session.replaced = true) (closed : session.fileDescriptor = false) :
    cleanupTemporary calls false session = (.ok (), session) := by
  obtain ⟨files, temporary, path, descriptor, moved, failed, noted⟩ := session
  dsimp only at replaced closed
  subst replaced closed
  cases path with
  | true => rfl
  | false => rfl

theorem ensureDirectory_run (session : Session) :
    (calls.mkdir = .done ∧ calls.chmod = .done ∧ ensureDirectory root calls session = (.ok (), session)) ∨
    (¬ (calls.mkdir = .done ∧ calls.chmod = .done) ∧ ∃ failure, failure.site ∈ [Site.mkdir, Site.chmod] ∧
      (ensureDirectory root calls session = (.error (.raw failure), session) ∨
        ensureDirectory root calls session =
          (.error (.nslab (stateError "STATE_WRITE_FAILED" "write" root failure.issue) (some failure)), session))) := by
  have raised (failure : Failure) : raisingFrom Issue.isOSError (stateError "STATE_WRITE_FAILED" "write" root)
      (Action.raise (.raw failure) : Runs Unit) session = (.error (.raw failure), session) ∨
      raisingFrom Issue.isOSError (stateError "STATE_WRITE_FAILED" "write" root) (Action.raise (.raw failure) : Runs Unit) session =
        (.error (.nslab (stateError "STATE_WRITE_FAILED" "write" root failure.issue) (some failure)), session) := by
    simp only [raisingFrom, Action.recover, Action.raise]
    cases failure.issue.isOSError with
    | true => exact Or.inr rfl
    | false => exact Or.inl rfl
  have same (action : Runs Unit) (failure : Failure) (run : action session = (.error (.raw failure), session)) :
      raisingFrom Issue.isOSError (stateError "STATE_WRITE_FAILED" "write" root) action session =
        raisingFrom Issue.isOSError (stateError "STATE_WRITE_FAILED" "write" root) (Action.raise (.raw failure)) session := by
    simp only [raisingFrom, Action.recover, run, Action.raise]
  unfold ensureDirectory
  rcases call_cases .mkdir calls.mkdir session with ⟨made, first⟩ | ⟨issue, took, failed, first⟩
  · rcases call_cases .chmod calls.chmod session with ⟨set, second⟩ | ⟨issue, took, failed, second⟩
    · refine Or.inl ⟨made, set, ?_⟩
      simp only [raisingFrom, Action.recover, Bind.bind, Action.andThen, first, second]
    · refine Or.inr ⟨fun both => (by cases failed.symm.trans both.2), ⟨.chmod, issue⟩, by simp, ?_⟩
      rw [same _ ⟨.chmod, issue⟩ (by simp only [Bind.bind, Action.andThen, first, second])]
      exact raised ⟨.chmod, issue⟩
  · refine Or.inr ⟨fun both => (by cases failed.symm.trans both.1), ⟨.mkdir, issue⟩, by simp, ?_⟩
    rw [same _ ⟨.mkdir, issue⟩ (by simp only [Bind.bind, Action.andThen, first])]
    exact raised ⟨.mkdir, issue⟩

end Stages

section Truth

def Raised.code : Raised → Option String
  | .nslab error _ => some error.code
  | .raw _ => none

def Raised.failure : Raised → Option Failure
  | .nslab _ cause => cause
  | .raw failure => some failure

/-- The end of a run tells what the file of the deployment holds: nothing has happened to it, the new content is there, or one
of the two. The temporary file is gone if it can be, and no error of the cleanup is raised in place of another. -/
structure Truthful (name : String) (isNew : Option String → Prop) (before : String → Option String)
    (run : Except Raised Unit × Session) : Prop where
  others : ∀ other, other ≠ name → run.2.files other = before other
  done : run.1 = .ok () → isNew (run.2.files name)
  uncertain : ∀ raised, run.1 = .error raised → raised.code = some "STATE_DURABILITY_UNCERTAIN" → isNew (run.2.files name)
  unknown : ∀ raised, run.1 = .error raised → raised.code = some "STATE_COMMIT_OUTCOME_UNKNOWN" →
    run.2.files name = before name ∨ isNew (run.2.files name)
  unwritten : ∀ raised, run.1 = .error raised → raised.code ≠ some "STATE_DURABILITY_UNCERTAIN" →
    raised.code ≠ some "STATE_COMMIT_OUTCOME_UNKNOWN" → run.2.files = before
  temporary : run.2.temporary = none ∨ run.2.unlinkFailed = true
  primary : ∀ raised failure, run.1 = .error raised → raised.failure = some failure → failure ∉ run.2.noted

/-- A run that raises an error of its own before the file is touched. -/
theorem truthful_untouched {name : String} {isNew : Option String → Prop} {before : String → Option String} {raised : Raised}
    {session : Session} (files : session.files = before) (code : raised.code ≠ some "STATE_DURABILITY_UNCERTAIN" ∧
      raised.code ≠ some "STATE_COMMIT_OUTCOME_UNKNOWN")
    (temporary : session.temporary = none ∨ session.unlinkFailed = true)
    (primary : ∀ failure, raised.failure = some failure → failure ∉ session.noted) :
    Truthful name isNew before (.error raised, session) := by
  refine ⟨fun other _ => by rw [files], fun done => (by cases done), ?_, ?_, fun _ _ _ _ => files, temporary, ?_⟩
  · intro other same uncertain
    cases Except.error.inj same
    exact absurd uncertain code.1
  · intro other same unknown
    cases Except.error.inj same
    exact absurd unknown code.2
  · intro other failure same found
    cases Except.error.inj same
    exact primary failure found

/-- The content that a save is to leave. -/
def Saved (snapshot : StateSnapshot) (content : Option String) : Prop :=
  ∃ serialized, serialize snapshot = .ok serialized ∧ content = some serialized

/-- A save that gets to its temporary file. -/
def Begins (calls : SaveCalls) (snapshot : StateSnapshot) : Prop :=
  isName snapshot.name = true ∧ (∃ serialized, serialize snapshot = .ok serialized) ∧ calls.mkdir = .done ∧ calls.chmod = .done

/-- A save that leaves a temporary file without a name, or raises the error of closing the directory in place of another. -/
def Misleads (calls : SaveCalls) (snapshot : StateSnapshot) : Prop :=
  Begins calls snapshot ∧ (MakesNameless calls ∨ (WritesAll calls ∧ calls.replace = .done ∧
    Replaces calls.directoryOpen calls.directoryFsync calls.directoryClose))

variable (root : String) {calls : SaveCalls} {snapshot : StateSnapshot} (files : String → Option String)

theorem checkedPath_done {name : String} (named : isName name = true) (session : Session) :
    checkedPath root name session = (.ok (statePath root name), session) := by
  rw [checkedPath, if_pos named]
  rfl

theorem save_unbegun (stops : ¬ Begins calls snapshot) :
    Truthful snapshot.name (Saved snapshot) files (save root calls snapshot { files }) := by
  unfold save
  by_cases named : isName snapshot.name = true
  · rw [Action.bind_of_ok (checkedPath_done root named _)]
    cases written : serialize snapshot with
    | error message =>
      have raises : serializing (statePath root snapshot.name) snapshot { files } =
          (.error (.nslab (stateInvalid (statePath root snapshot.name) message) none), { files }) := by
        simp only [serializing, written, Action.raise]
      rw [Action.bind_of_error raises]
      exact truthful_untouched rfl (by simp [Raised.code, stateInvalid]) (Or.inl rfl) fun failure found => by cases found
    | ok serialized =>
      have passes : serializing (statePath root snapshot.name) snapshot { files } = (.ok serialized, { files }) := by
        simp only [serializing, written, Action.done]
      rw [Action.bind_of_ok passes]
      rcases ensureDirectory_run root calls { files } with ⟨made, set, _⟩ | ⟨_, failure, _, run | run⟩
      · exact absurd ⟨named, ⟨serialized, written⟩, made, set⟩ stops
      · rw [Action.bind_of_error run]
        exact truthful_untouched rfl (by simp [Raised.code]) (Or.inl rfl) fun failure found => List.not_mem_nil
      · rw [Action.bind_of_error run]
        exact truthful_untouched rfl (by simp [Raised.code, stateError]) (Or.inl rfl) fun failure found => List.not_mem_nil
  · have raises : checkedPath root snapshot.name { files } =
        (.error (.nslab (deploymentNameError snapshot.name) none), { files }) := by
      rw [checkedPath, if_neg named]
      rfl
    rw [Action.bind_of_error raises]
    exact truthful_untouched rfl (by simp [Raised.code, deploymentNameError]) (Or.inl rfl) fun failure found => by cases found

/-- What a save does once its directory is there. -/
theorem save_begun (begins : Begins calls snapshot) {serialized : String} (written : serialize snapshot = .ok serialized) :
    save root calls snapshot { files } = replaceFile calls (statePath root snapshot.name) snapshot.name serialized { files } := by
  obtain ⟨named, _, made, set⟩ := begins
  have directory : ensureDirectory root calls { files } = (.ok (), { files }) := by
    rcases ensureDirectory_run root calls { files } with ⟨_, _, run⟩ | ⟨failed, _⟩
    · exact run
    · exact absurd ⟨made, set⟩ failed
  have passes : serializing (statePath root snapshot.name) snapshot { files } = (.ok serialized, { files }) := by
    simp only [serializing, written, Action.done]
  unfold save
  rw [Action.bind_of_ok (checkedPath_done root named _), Action.bind_of_ok passes, Action.bind_of_ok directory]

theorem raisingFrom_error {selected : Issue → Bool} {code action path : String} {body : Runs Unit} {session after : Session}
    {raised : Raised} (run : body session = (.error raised, after)) : ∃ other,
    raisingFrom selected (stateError code action path) body session = (.error other, after) ∧ other.failure = raised.failure ∧
      (other.code = raised.code ∨ (raised.code = none ∧ other.code = some code)) := by
  simp only [raisingFrom, Action.recover, run]
  cases raised with
  | nslab error cause => exact ⟨_, rfl, rfl, Or.inl rfl⟩
  | raw failure =>
    cases picked : selected failure.issue with
    | true =>
      refine ⟨.nslab (stateError code action path failure.issue) (some failure), ?_, rfl, Or.inr ⟨rfl, rfl⟩⟩
      simp [picked, Action.raise]
    | false =>
      refine ⟨.raw failure, ?_, rfl, Or.inl rfl⟩
      simp [picked, Action.raise]

/-- What a save leaves that raises: its cleanup is over. -/
structure Ended (raised : Raised) (after : Session) (other : Raised) (final : Session) : Prop where
  files : final.files = after.files
  noted : ∀ failure, failure.site ∉ [Site.descriptorClose, Site.unlinkTemporary] → (failure ∈ final.noted ↔ failure ∈ after.noted)
  removed : after.temporaryPath = true → after.replaced = false → final.temporary = none ∨ final.unlinkFailed = true
  kept : after.temporaryPath = false ∨ after.replaced = true →
    final.temporary = after.temporary ∧ final.unlinkFailed = after.unlinkFailed
  failure : other.failure = raised.failure
  code : other.code = raised.code ∨ (raised.code = none ∧ other.code = some "STATE_WRITE_FAILED")

/-- A save that raises cleans up and raises what it has raised, translated when it is an error of writing. -/
theorem replaceFile_error {path name serialized : String} {session after : Session} {raised : Raised}
    (run : (writeTemporary calls serialized >>= fun _ => commit calls path name) session = (.error raised, after)) :
    ∃ other final, replaceFile calls path name serialized session = (.error other, final) ∧ Ended raised after other final := by
  obtain ⟨other, translated, failure, code⟩ :=
    @raisingFrom_error Issue.isWriteError "STATE_WRITE_FAILED" "write" path _ _ _ _ run
  obtain ⟨final, noted, cleaned, files, more, sites, removed, kept⟩ := cleanupTemporary_active calls after
  refine ⟨other, final, ?_, files, ?_, removed, kept, failure, code⟩
  · simp only [replaceFile]
    rw [Action.bind_of_ok (show Action.attempt _ session = (.ok (.error other), after) by rw [Action.attempt, translated])]
    exact Action.bind_of_ok cleaned
  · intro failure site
    rw [more, List.mem_append]
    exact or_iff_left fun member => site (sites failure member)

theorem replaceFile_ok {path name serialized : String} {session after : Session}
    (run : (writeTemporary calls serialized >>= fun _ => commit calls path name) session = (.ok (), after))
    (replaced : after.replaced = true) (closed : after.fileDescriptor = false) :
    replaceFile calls path name serialized session = (.ok (), after) := by
  have saved : Action.attempt (raisingFrom Issue.isWriteError (stateError "STATE_WRITE_FAILED" "write" path)
      (writeTemporary calls serialized >>= fun _ => commit calls path name)) session = (.ok (.ok ()), after) := by
    simp only [Action.attempt, raisingFrom, Action.recover, run]
  exact (Action.bind_of_ok saved).trans (cleanupTemporary_done calls replaced closed)

theorem truthful_raised {raised other : Raised} {name : String} {isNew : Option String → Prop} {before : String → Option String}
    {final : Session} (files : final.files = before) (code : raised.code = none)
    (ended : other.code = raised.code ∨ (raised.code = none ∧ other.code = some "STATE_WRITE_FAILED"))
    (temporary : final.temporary = none ∨ final.unlinkFailed = true)
    (primary : ∀ failure, other.failure = some failure → failure ∉ final.noted) :
    Truthful name isNew before (.error other, final) := by
  apply truthful_untouched files _ temporary primary
  rcases ended with same | ⟨_, same⟩
  · simp [same, code]
  · simp [same]

/-- A save whose temporary file cannot be written leaves the file as it was. -/
theorem save_unwritten {serialized : String} (written : serialize snapshot = .ok serialized) (begins : Begins calls snapshot)
    {failure : Failure} {after : Session} (partly : ¬ WritesAll calls)
    (wrote : writeTemporary calls serialized { files } = (.error (.raw failure), after))
    (unwritten : Unwritten calls failure { files } after) :
    Truthful snapshot.name (Saved snapshot) files (save root calls snapshot { files }) ↔ ¬ Misleads calls snapshot := by
  have misleads : Misleads calls snapshot ↔ MakesNameless calls :=
    ⟨fun both => both.2.resolve_right fun whole => partly whole.1, fun nameless => ⟨begins, Or.inl nameless⟩⟩
  have run : (writeTemporary calls serialized >>= fun _ => commit calls (statePath root snapshot.name) snapshot.name) { files } =
      (.error (.raw failure), after) := Action.bind_of_error wrote
  obtain ⟨other, final, raises, ended⟩ := replaceFile_error run
  rw [save_begun root files begins written, raises, misleads]
  have left : final.temporary = none ∨ final.unlinkFailed = true ↔ ¬ MakesNameless calls := by
    rcases unwritten.named with path | ⟨unnamed, _, gone⟩
    · refine iff_of_true (ended.removed path unwritten.replaced) fun nameless => ?_
      exact Bool.false_ne_true ((unwritten.known nameless).symm.trans path)
    · obtain ⟨temporary, unlinked⟩ := ended.kept (Or.inl unnamed)
      rw [temporary, unlinked, unwritten.unlinkFailed, gone]
      simp
  refine ⟨fun truthful => left.mp truthful.temporary, fun named => ?_⟩
  refine truthful_raised (ended.files.trans unwritten.files) rfl ended.code (left.mpr named) ?_
  intro told found
  rw [ended.failure] at found
  cases Option.some.inj found
  rw [ended.noted failure (by simpa using unwritten.primary)]
  exact fun member => (unwritten.noted failure member).2 (unwritten.noted failure member).1

/-- A save that has written its temporary file tells what comes of replacing the file. -/
theorem save_written {serialized : String} (written : serialize snapshot = .ok serialized) (begins : Begins calls snapshot)
    (all : WritesAll calls) (wrote : writeTemporary calls serialized { files } =
      (.ok (), { files, temporary := some serialized, temporaryPath := true })) :
    Truthful snapshot.name (Saved snapshot) files (save root calls snapshot { files }) ↔ ¬ Misleads calls snapshot := by
  have named : ¬ MakesNameless calls := by simp [MakesNameless, all.mkstemp]
  have misleads : Misleads calls snapshot ↔
      calls.replace = .done ∧ Replaces calls.directoryOpen calls.directoryFsync calls.directoryClose :=
    ⟨fun begun => (begun.2.resolve_left named).2, fun both => ⟨begins, Or.inr ⟨all, both⟩⟩⟩
  rw [save_begun root files begins written, misleads]
  generalize statePath root snapshot.name = path
  have moved : Saved snapshot ((Session.move { files, temporary := some serialized, temporaryPath := true } snapshot.name).files
      snapshot.name) := ⟨serialized, written, if_pos rfl⟩
  have apart (other : String) (different : other ≠ snapshot.name) :
      (Session.move { files, temporary := some serialized, temporaryPath := true } snapshot.name).files other = files other :=
    if_neg different
  rcases @commit_run calls path snapshot.name { files, temporary := some serialized, temporaryPath := true } rfl rfl with
    ⟨_, calm, run⟩ | ⟨undone, failure, after, run, either, site⟩ | ⟨done, failure, noted, run, replaces, site⟩
  · refine iff_of_true ?_ fun both => calm both.2
    have both : (writeTemporary calls serialized >>= fun _ => commit calls path snapshot.name) { files } = _ :=
      (Action.bind_of_ok wrote).trans run
    have ends := @replaceFile_ok calls path snapshot.name serialized _ _ both rfl rfl
    rw [ends]
    refine ⟨apart, fun _ => moved, ?_, ?_, ?_, Or.inl rfl, ?_⟩
    · intro raised failed
      cases failed
    · intro raised failed
      cases failed
    · intro raised failed
      cases failed
    · intro raised failure failed
      cases failed
  · refine iff_of_true ?_ fun both => undone both.1
    obtain ⟨other, final, raises, ended⟩ := replaceFile_error ((Action.bind_of_ok wrote).trans run)
    have code : other.code = some "STATE_COMMIT_OUTCOME_UNKNOWN" := by
      rcases ended.code with same | ⟨absent, _⟩
      · exact same
      · cases absent
    rw [raises]
    refine ⟨?_, by simp, ?_, ?_, ?_, ?_, ?_⟩
    · intro name different
      rw [ended.files]
      rcases either with rfl | rfl
      · rfl
      · exact apart name different
    · intro raised same uncertain
      cases Except.error.inj same
      simp [code] at uncertain
    · intro raised _ _
      rw [ended.files]
      rcases either with rfl | rfl
      · exact Or.inl rfl
      · exact Or.inr moved
    · intro raised same _ known
      cases Except.error.inj same
      exact absurd code known
    · apply ended.removed
      · rcases either with rfl | rfl
        · rfl
        · rfl
      · rcases either with rfl | rfl
        · rfl
        · rfl
    · intro raised told same found
      cases Except.error.inj same
      rw [ended.failure] at found
      cases Option.some.inj found
      rw [ended.noted failure (by simp [site])]
      rcases either with rfl | rfl
      · exact List.not_mem_nil
      · exact List.not_mem_nil
  · obtain ⟨other, final, raises, ended⟩ := replaceFile_error ((Action.bind_of_ok wrote).trans run)
    have code : other.code = some "STATE_DURABILITY_UNCERTAIN" := by
      rcases ended.code with same | ⟨absent, _⟩
      · exact same
      · cases absent
    have primary : failure ∈ final.noted ↔ Replaces calls.directoryOpen calls.directoryFsync calls.directoryClose := by
      rw [ended.noted failure]
      · exact replaces
      · simp only [List.mem_cons, List.not_mem_nil, or_false] at site ⊢
        rcases site with same | same | same
        · simp [same]
        · simp [same]
        · simp [same]
    have told : other.failure = some failure := ended.failure
    rw [raises]
    constructor
    · intro truthful both
      exact truthful.primary other failure rfl told (primary.mpr both.2)
    · intro calm
      refine ⟨?_, by simp, ?_, ?_, ?_, ?_, ?_⟩
      · intro name different
        rw [ended.files]
        exact apart name different
      · intro raised _ _
        rw [ended.files]
        exact moved
      · intro raised same unknown
        cases Except.error.inj same
        simp [code] at unknown
      · intro raised same known _
        cases Except.error.inj same
        exact absurd code known
      · exact Or.inl (ended.kept (Or.inr rfl)).1
      · intro raised given same found
        cases Except.error.inj same
        cases Option.some.inj (told.symm.trans found)
        exact fun member => calm ⟨done, primary.mp member⟩

theorem save_truthful : Truthful snapshot.name (Saved snapshot) files (save root calls snapshot { files }) ↔
    ¬ Misleads calls snapshot := by
  by_cases begins : Begins calls snapshot
  · obtain ⟨serialized, written⟩ := begins.2.1
    rcases @writeTemporary_run calls serialized { files } rfl rfl rfl rfl with ⟨all, wrote⟩ | ⟨partly, failure, after, wrote, unwritten⟩
    · exact save_written root files written begins all wrote
    · exact save_unwritten root files written begins partly wrote unwritten
  · exact iff_of_true (save_unbegun root files begins) fun misleads => begins misleads.1

end Truth

section Deletion

variable (root : String) {calls : DeleteCalls} {name : String} (files : String → Option String)

/-- A delete that raises the error of closing the directory in place of the one of writing it out. -/
def DeleteMisleads (calls : DeleteCalls) (name : String) (files : String → Option String) : Prop :=
  isName name = true ∧ files name ≠ none ∧ calls.unlink = .done ∧
    Replaces calls.directoryOpen calls.directoryFsync calls.directoryClose

/-- The files when one of them is removed. -/
def without (files : String → Option String) (name : String) : String → Option String :=
  fun other => if other = name then none else files other

theorem unlinkState_run : (files name = none ∧ ∃ failure, unlinkState calls name { files } = (.error (.raw failure), { files }) ∧
      failure.issue.kind = .fileNotFound) ∨
    (files name ≠ none ∧ calls.unlink = .done ∧ unlinkState calls name { files } = (.ok (), { files := without files name })) ∨
    (files name ≠ none ∧ ∃ issue took, calls.unlink = .failed issue took ∧
      unlinkState calls name { files } = (.error (.raw ⟨.unlink, issue⟩),
        { files := if took = true ∨ issue.kind = .fileNotFound then without files name else files })) := by
  simp only [unlinkState]
  cases found : files name with
  | none => exact Or.inl ⟨rfl, _, rfl, rfl⟩
  | some content => cases replied : calls.unlink with
    | done => exact Or.inr (Or.inl ⟨by simp, rfl, rfl⟩)
    | failed issue took =>
      refine Or.inr (Or.inr ⟨by simp, issue, took, rfl, ?_⟩)
      by_cases gone : took = true ∨ issue.kind = .fileNotFound
      · simp only [if_pos gone]
        rfl
      · simp only [if_neg gone]

theorem truthful_done {isNew : Option String → Prop} {session : Session} (others : ∀ other, other ≠ name → session.files other = files other)
    (done : isNew (session.files name)) (temporary : session.temporary = none) : Truthful name isNew files (.ok (), session) := by
  refine ⟨others, fun _ => done, ?_, ?_, ?_, Or.inl temporary, ?_⟩
  · intro raised failed
    cases failed
  · intro raised failed
    cases failed
  · intro raised failed
    cases failed
  · intro raised failure failed
    cases failed

theorem delete_unlinked (named : isName name = true) (present : files name ≠ none) (done : calls.unlink = .done) :
    Truthful name (· = none) files (raisingFrom (fun _ => true) (durabilityError (statePath root name) "delete")
      (fsyncDirectory calls.directoryOpen calls.directoryFsync calls.directoryClose) { files := without files name }) ↔
    ¬ DeleteMisleads calls name files := by
  have misleads : DeleteMisleads calls name files ↔ Replaces calls.directoryOpen calls.directoryFsync calls.directoryClose :=
    ⟨fun all => all.2.2.2, fun replaces => ⟨named, present, done, replaces⟩⟩
  rw [misleads]
  have quiet : ({ files := without files name } : Session).noted = [] := rfl
  have apart (other : String) (different : other ≠ name) : without files name other = files other := if_neg different
  have gone : without files name name = none := if_pos rfl
  rcases fsyncDirectory_run calls.directoryOpen calls.directoryFsync calls.directoryClose quiet with
    ⟨run, calm⟩ | ⟨failure, noted, run, replaces, _⟩
  · refine iff_of_true ?_ calm
    simp only [raisingFrom, Action.recover, run]
    exact truthful_done files apart gone rfl
  · have raises : raisingFrom (fun _ => true) (durabilityError (statePath root name) "delete")
        (fsyncDirectory calls.directoryOpen calls.directoryFsync calls.directoryClose) { files := without files name } =
        (.error (.nslab (durabilityError (statePath root name) "delete" failure.issue) (some failure)),
          { files := without files name, noted := noted }) := by
      simp only [raisingFrom, Action.recover, run, if_true]
      rfl
    rw [raises, ← replaces]
    constructor
    · exact fun truthful => truthful.primary _ failure rfl rfl
    · intro clean
      refine ⟨apart, fun done => (by cases done), fun _ _ _ => gone, ?_, ?_, Or.inl rfl, ?_⟩
      · exact fun _ _ _ => Or.inr gone
      · intro raised same known
        cases Except.error.inj same
        exact absurd rfl known
      · intro raised told same found
        cases Except.error.inj same
        cases Option.some.inj found
        exact clean

theorem delete_truthful : Truthful name (· = none) files (delete root calls name { files }) ↔ ¬ DeleteMisleads calls name files := by
  unfold delete
  by_cases named : isName name = true
  · rw [Action.bind_of_ok (checkedPath_done root named _)]
    rcases @unlinkState_run calls name files with ⟨absent, failure, run, missing⟩ | ⟨present, done, run⟩ |
        ⟨present, issue, took, failed, run⟩
    · refine iff_of_true ?_ fun misleads => misleads.2.1 absent
      have tried : Action.attempt (unlinkState calls name) { files } = (.ok (.error (.raw failure)), { files }) := by
        rw [Action.attempt, run]
      rw [Action.bind_of_ok tried]
      simp only [if_pos missing, Action.done]
      exact truthful_done files (fun _ _ => rfl) absent rfl
    · have tried : Action.attempt (unlinkState calls name) { files } = (.ok (.ok ()), { files := without files name }) := by
        rw [Action.attempt, run]
      rw [Action.bind_of_ok tried]
      exact delete_unlinked root files named present done
    · refine iff_of_true ?_ fun misleads => by cases failed.symm.trans misleads.2.2.1
      have tried : Action.attempt (unlinkState calls name) { files } = (.ok (.error (.raw ⟨.unlink, issue⟩)),
          { files := if took = true ∨ issue.kind = .fileNotFound then without files name else files }) := by
        rw [Action.attempt, run]
      rw [Action.bind_of_ok tried]
      by_cases missing : issue.kind = .fileNotFound
      · simp only [missing, or_true, if_true, Action.done]
        exact truthful_done files (fun _ different => if_neg different) (if_pos rfl) rfl
      · simp only [missing, or_false, if_false, Action.raise]
        refine ⟨?_, fun done => (by cases done), ?_, ?_, ?_, Or.inl rfl, ?_⟩
        · intro other different
          cases took with
          | true => exact if_neg different
          | false => rfl
        · intro raised same uncertain
          cases Except.error.inj same
          simp [Raised.code, commitOutcomeUnknown] at uncertain
        · intro raised _ _
          cases took with
          | true => exact Or.inr (if_pos rfl)
          | false => exact Or.inl rfl
        · intro raised same _ known
          cases Except.error.inj same
          exact absurd rfl known
        · exact fun _ _ _ _ => List.not_mem_nil
  · refine iff_of_true ?_ fun misleads => named misleads.1
    have raises : checkedPath root name { files } = (.error (.nslab (deploymentNameError name) none), { files }) := by
      rw [checkedPath, if_neg named]
      rfl
    rw [Action.bind_of_error raises]
    exact truthful_untouched rfl (by simp [Raised.code, deploymentNameError]) (Or.inl rfl) fun failure found => by cases found

/-- The errors of the store tell the truth, except where a temporary file is left that nobody can name, or where the directory
cannot be written out and closing it raises something else than an `OSError`. -/
theorem store_truthful (root : String) (files : String → Option String) :
    (∀ calls snapshot, Truthful snapshot.name (Saved snapshot) files (save root calls snapshot { files }) ↔
      ¬ Misleads calls snapshot) ∧
    ∀ calls name, Truthful name (· = none) files (delete root calls name { files }) ↔ ¬ DeleteMisleads calls name files :=
  ⟨fun _ _ => save_truthful root files, fun _ _ => delete_truthful root files⟩

/-- The directory cannot be written out, and an interrupt arrives while it is closed. -/
def interruptedDelete : DeleteCalls where
  unlink := .done
  directoryOpen := .done
  directoryFsync := .failed ⟨.os, "OSError", "Input/output error", some 5⟩ false
  directoryClose := .failed ⟨.other, "KeyboardInterrupt", "", none⟩ true

/-- The interrupt is raised in place of the error of the disk. -/
theorem delete_misleads : ¬ Truthful "lab" (· = none) (fun _ => some "") (delete "/run/nslab" interruptedDelete "lab" { files := fun _ => some "" }) := by
  intro truthful
  apply (delete_truthful "/run/nslab" fun _ => some "").mp truthful
  exact ⟨by decide, by simp, rfl, rfl, by simp [interruptedDelete], ⟨.other, "KeyboardInterrupt", "", none⟩, true, rfl, rfl⟩

end Deletion

end Store

end Nslab
