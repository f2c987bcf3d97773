import Nslab.Backend.ExecRun

/-! Resources of a command run: whatever fails or is cancelled, what was acquired is
released once, and the signal mask comes back except in the cases named here. -/

namespace Nslab

namespace Exec

open Checks

section Condition

variable (calls : Calls) (netns : String) (argv : List String) (captureOutput : Bool)

/-- The factory returns a process. -/
def Spawns (child : Child) : Prop :=
  (captureOutput = true ∧ calls.factory netns (command argv) { captureOutput } = .ok (some child)) ∨
  (captureOutput = false ∧ ∃ fd, calls.stdinDup = .ok fd ∧
    calls.factory netns (command argv) { captureOutput, stdin := some fd } = .ok (some child))

/-- All that a body needs of its process, up to the block of the signals for the release. -/
structure Works (child : Child) : Prop where
  pid : ∃ pid, child.pid = .ok pid ∧ 0 < pid
  target : ∃ fd, calls.pidfdOpen = .ok fd
  stdinClose : captureOutput = false → calls.stdinClose = .ok ()
  communicates : ∃ output, child.communicate = .ok output
  returns : ∃ returncode, child.returncode = .ok returncode

/-- What a run holds when its body begins. -/
abbrev held (entry : Finset Nat) : Acquired := acquired calls netns (command argv) { captureOutput } (!captureOutput) entry

variable {calls netns argv captureOutput}

theorem held_process {entry : Finset Nat} {child : Child} :
    (held calls netns argv captureOutput entry).process = some child ↔ Spawns calls netns argv captureOutput child := by
  have reply (found : Except Kind (Option Child)) : (tell .factory found).toOption.join = some child ↔ found = .ok (some child) := by
    cases found with
    | error kind => simp [tell, mapIssue, Except.toOption]
    | ok process => simp [tell, mapIssue, Except.toOption]
  cases captureOutput with
  | true => simpa [held, acquired, spawnReply, stdinReply, Spawns] using reply _
  | false =>
    cases duplicated : calls.stdinDup with
    | error kind => simp [held, acquired, spawnReply, stdinReply, Spawns, duplicated, tell, mapIssue, errorOf, Except.toOption]
    | ok fd =>
      simpa [held, acquired, spawnReply, stdinReply, Spawns, duplicated, errorOf, Except.toOption, tell, mapIssue] using reply _

/-- The target of a process can be signalled when its identifier is positive and can be opened. -/
theorem pidfdReply_ok {child : Child} :
    (∃ fd, pidfdReply calls child = .ok fd) ↔ (∃ pid, child.pid = .ok pid ∧ 0 < pid) ∧ ∃ fd, calls.pidfdOpen = .ok fd := by
  unfold pidfdReply
  cases child.pid with
  | error kind => simp [tell, mapIssue]
  | ok pid =>
    by_cases positive : 0 < pid
    · have other : ¬ pid ≤ 0 := by omega
      cases calls.pidfdOpen with
      | error kind => simp [tell, mapIssue, ok_bind, other]
      | ok fd => simp [tell, mapIssue, ok_bind, other, positive]
    · have other : pid ≤ 0 := by omega
      simp [tell, mapIssue, ok_bind, other, positive]

theorem usable_iff {entry : Finset Nat} {child : Child} (spawned : Spawns calls netns argv captureOutput child) :
    (held calls netns argv captureOutput entry).Usable ↔
      (∃ fd, pidfdReply calls child = .ok fd) ∧ (captureOutput = false → calls.stdinClose = .ok ()) := by
  have process := (@held_process calls netns argv captureOutput entry child).mpr spawned
  have target : (held calls netns argv captureOutput entry).timeoutPidfd = (pidfdReply calls child).toOption := by
    change (targetReply calls (held calls netns argv captureOutput entry).process).bind Except.toOption = _
    rw [process]
    rfl
  have pid : (held calls netns argv captureOutput entry).pidError = errorOf (pidfdReply calls child) := by
    change (targetReply calls (held calls netns argv captureOutput entry).process).bind errorOf = _
    rw [process]
    rfl
  have clean : (held calls netns argv captureOutput entry).stdinDupError = none ∧
      (held calls netns argv captureOutput entry).factoryError = none ∧
      ((held calls netns argv captureOutput entry).stdinCloseError = none ↔ (captureOutput = false → calls.stdinClose = .ok ())) := by
    rcases spawned with ⟨rfl, made⟩ | ⟨rfl, fd, duplicated, made⟩
    · simp [held, acquired, stdinReply, spawnReply, made, closeReply, tell, mapIssue, errorOf]
    · cases closed : calls.stdinClose with
      | ok done =>
        simp [held, acquired, stdinReply, spawnReply, made, duplicated, closed, closeReply, tell, mapIssue, errorOf, Except.toOption]
      | error kind =>
        simp [held, acquired, stdinReply, spawnReply, made, duplicated, closed, closeReply, tell, mapIssue, errorOf, Except.toOption]
  constructor
  · intro usable
    refine ⟨?_, clean.2.2.mp usable.stdinClose⟩
    have found := usable.target
    rw [target] at found
    cases replied : pidfdReply calls child with
    | ok fd => exact ⟨fd, rfl⟩
    | error error => simp [replied, Except.toOption] at found
  · intro holds
    obtain ⟨⟨fd, replied⟩, closed⟩ := holds
    refine ⟨clean.1, clean.2.1, ?_, clean.2.2.mpr closed, by rw [process]; rfl, ?_⟩
    · rw [pid, replied]
      rfl
    · rw [target, replied]
      rfl

theorem reaches_iff {entry : Finset Nat} : Reaches calls (held calls netns argv captureOutput entry) ↔
    calls.restore = .done ∧ ∃ child, Spawns calls netns argv captureOutput child ∧ Works calls captureOutput child := by
  constructor
  · intro reaches
    obtain ⟨child, process⟩ := Option.isSome_iff_exists.mp reaches.usable.process
    have spawned := held_process.mp process
    obtain ⟨target, closed⟩ := (usable_iff spawned).mp reaches.usable
    obtain ⟨pid, opened⟩ := pidfdReply_ok.mp target
    exact ⟨reaches.restored, child, spawned, pid, opened, closed, reaches.communicates child process,
      reaches.returns child process⟩
  · intro holds
    obtain ⟨restored, child, spawned, works⟩ := holds
    have process := (@held_process calls netns argv captureOutput entry child).mpr spawned
    refine ⟨restored, (usable_iff spawned).mpr ⟨pidfdReply_ok.mpr ⟨works.pid, works.target⟩, works.stdinClose⟩, ?_, ?_⟩
    · intro other same
      cases process.symm.trans same
      exact works.communicates
    · intro other same
      cases process.symm.trans same
      exact works.returns

end Condition

section Course

variable (calls : Calls) (netns : String) (argv : List String) (captureOutput : Bool) (entry : Finset Nat)

/-- What comes of the body of a run, where it begins. -/
def bodyReply : Option (Except Raised ((Option String × Option String) × Int)) :=
  match acquire calls netns (command argv) { captureOutput } (!captureOutput) { mask := entry } with
  | (.ok acquired, session) =>
    some (executeBody acquired.process (restoreSignalMask calls netns acquired) (blockReleaseSignals calls) session).1
  | (.error _, _) => none

/-- The session when the body begins. -/
def begun : Session where
  mask := entry ∪ execSignals
  log := acquisitions calls netns (command argv) { captureOutput } (!captureOutput)

/-- A session that a body leaves: it has tried to restore the mask, and both its flags tell whether it has ended. -/
structure Left (reply : Except Raised ((Option String × Option String) × Int)) (session : Session) : Prop where
  attempted : session.maskRestoreAttempted = true
  completed : session.maskRestoreCompleted = decide (calls.restore = .done)
  ended : (∃ value, reply = .ok value) ↔
    (Reaches calls (held calls netns argv captureOutput entry) ∧ calls.releaseBlock = .done)
  blocked : session.signalsBlocked = true ↔ ∃ value, reply = .ok value
  released : session.releaseSignalsBlocked = session.signalsBlocked
  log : session.log = (begun calls netns argv captureOutput entry).log ++
    ([.restored (decide (calls.restore ≠ .done))] ++ if session.signalsBlocked then [.releaseBlocked] else [])
  reached : Reaches calls (held calls netns argv captureOutput entry) →
    session.mask = calls.releaseBlock.leave (entry ∪ execSignals) entry
  stopped : calls.restore = .done → ¬ Reaches calls (held calls netns argv captureOutput entry) → session.mask = entry

theorem body_left : ∃ reply session, executeBody (held calls netns argv captureOutput entry).process
      (restoreSignalMask calls netns (held calls netns argv captureOutput entry)) (blockReleaseSignals calls)
      (begun calls netns argv captureOutput entry) = (reply, session) ∧
    Left calls netns argv captureOutput entry reply session := by
  obtain ⟨reply, session, run, course⟩ := executeBody_run calls netns (held calls netns argv captureOutput entry)
    (begun calls netns argv captureOutput entry)
  refine ⟨reply, session, run, ?_⟩
  rcases course with ⟨reaches, rfl, passed⟩ | ⟨stopped, rfl, error, rfl⟩
  · have restored := reaches.restored
    have mask : (unblocked calls (held calls netns argv captureOutput entry) (begun calls netns argv captureOutput entry)).mask =
        entry := by
      simp [unblocked, restored, MaskReply.leave, MaskReply.takesEffect, acquired]
    by_cases done : calls.releaseBlock = .done
    · have finished := passed.mpr done
      refine ⟨?_, ?_, ⟨fun _ => ⟨reaches, done⟩, fun _ => finished⟩, ⟨fun _ => finished, fun _ => ?_⟩, ?_, ?_, ?_, ?_⟩
      · simp [blockedForRelease, done, unblocked]
      · simp [blockedForRelease, done, unblocked, begun]
      · simp [blockedForRelease, done]
      · simp [blockedForRelease, done]
      · simp [blockedForRelease, done, unblocked]
      · intro _
        simp only [blockedForRelease, done, if_true, mask]
      · exact fun _ stopped => absurd reaches stopped
    · have unfinished : ¬ ∃ value, reply = .ok value := fun finished => done (passed.mp finished)
      refine ⟨?_, ?_, ⟨fun finished => absurd finished unfinished, fun both => absurd both.2 done⟩, ?_, ?_, ?_, ?_, ?_⟩
      · simp [blockedForRelease, done, unblocked]
      · simp [blockedForRelease, done, unblocked, begun]
      · simp [blockedForRelease, done, unblocked, unfinished]
      · simp [blockedForRelease, done, unblocked, begun]
      · simp [blockedForRelease, done, unblocked]
      · intro _
        simp only [blockedForRelease, if_neg done, mask]
      · exact fun _ stopped => absurd reaches stopped
  · refine ⟨rfl, ?_, ⟨by simp, fun both => absurd both.1 stopped⟩, ?_, rfl, ?_, ?_, ?_⟩
    · simp [unblocked, begun]
    · simp [unblocked]
    · simp [unblocked]
    · exact fun reaches => absurd reaches stopped
    · intro restored _
      simp [unblocked, restored, MaskReply.leave, MaskReply.takesEffect, acquired]

/-- What is left to be raised by the body. -/
abbrev started (reply : Except Raised ((Option String × Option String) × Int)) (session : Session) : Ending :=
  begin (held calls netns argv captureOutput entry) reply session

/-- The session when the process of a run has been released. -/
abbrev afterRelease (reply : Except Raised ((Option String × Option String) × Int)) (session : Session) : Session :=
  releasedSession calls (held calls netns argv captureOutput entry) (started calls netns argv captureOutput entry reply session) session

/-- What a run raises in the end. -/
abbrev ending (reply : Except Raised ((Option String × Option String) × Int)) (session : Session) : Ending :=
  ((started calls netns argv captureOutput entry reply session).released calls (held calls netns argv captureOutput entry)
    session).last calls (afterRelease calls netns argv captureOutput entry reply session)

end Course

section Ledger

variable {calls : Calls} {netns : String} {argv : List String} {captureOutput : Bool} {entry : Finset Nat}

def Event.restoration : Event → Option Bool
  | .restored failed => some failed
  | _ => none

/-- Whether the last restoration of the mask failed, where there was one. -/
def lastRestoration (log : List Event) : Option Bool := log.reverse.findSome? Event.restoration

theorem lastRestoration_append (earlier later : List Event) :
    lastRestoration (earlier ++ later) = (lastRestoration later).or (lastRestoration earlier) := by
  simp [lastRestoration, List.findSome?_append]

theorem lastRestoration_none {log : List Event} (none : ∀ event ∈ log, event.restoration = none) :
    lastRestoration log = .none := by
  simpa [lastRestoration] using none

theorem count_mark {α : Type} {event own : Event} {resource : Option α} :
    (mark own resource).count event = if own = event ∧ resource.isSome = true then 1 else 0 := by
  cases resource with
  | none => simp [mark]
  | some value => simp [mark, List.count_singleton]

theorem mem_mark {α : Type} {event own : Event} {resource : Option α} (member : event ∈ mark own resource) : event = own := by
  cases resource with
  | none => exact absurd member List.not_mem_nil
  | some value => exact List.mem_singleton.mp member

/-- The events of the cleanup of a process. -/
def cleanupEvents (acquired : Acquired) (selected : Option Nat) : List Event :=
  if acquired.process.isSome then
    signalEvents acquired.timeoutPidfd selected ++ ([.released] ++ mark .pidfdClosed acquired.timeoutPidfd)
  else []

theorem mem_cleanupEvents {acquired : Acquired} {selected : Option Nat} {event : Event}
    (member : event ∈ cleanupEvents acquired selected) :
    (∃ signal, event = .signalled signal ∧ selected.isSome = true) ∨ event = .released ∨ event = .pidfdClosed := by
  unfold cleanupEvents at member
  split at member
  · rcases List.mem_append.mp member with signalled | rest
    · cases selected with
      | none => exact absurd signalled List.not_mem_nil
      | some signal => exact Or.inl ⟨_, List.mem_singleton.mp signalled, rfl⟩
    · rcases List.mem_append.mp rest with released | closed
      · exact Or.inr (Or.inl (List.mem_singleton.mp released))
      · exact Or.inr (Or.inr (mem_mark closed))
  · exact absurd member List.not_mem_nil

theorem cleanupEvents_restoration (acquired : Acquired) (selected : Option Nat) :
    lastRestoration (cleanupEvents acquired selected) = none := by
  apply lastRestoration_none
  intro event member
  rcases mem_cleanupEvents member with ⟨signal, rfl, _⟩ | rfl | rfl
  · rfl
  · rfl
  · rfl

theorem releasedSession_log (calls : Calls) (acquired : Acquired) (ending : Ending) (session : Session) :
    ∃ selected, (releasedSession calls acquired ending session).log = session.log ++ cleanupEvents acquired selected ∧
      (selected.isSome = true → session.releaseSignalsBlocked = false) := by
  unfold releasedSession cleanupEvents
  cases acquired.process with
  | none => exact ⟨none, (List.append_nil _).symm, fun some => by cases some⟩
  | some child =>
    refine ⟨_, rfl, ?_⟩
    intro chosen
    have same : (blockedForCleanup calls session).releaseSignalsBlocked = session.releaseSignalsBlocked := by
      unfold blockedForCleanup
      split
      · rfl
      · rfl
    cases released : session.releaseSignalsBlocked with
    | false => rfl
    | true => simp [selectSignal, same, released] at chosen

theorem lastSession_log (calls : Calls) (acquired : Acquired) (session : Session) :
    ∃ last, (lastSession calls acquired session).log = session.log ++ last ∧
      (last = [] ∨ last = [.restored (decide (calls.lastRestore ≠ .done))]) := by
  unfold lastSession
  split
  · exact ⟨_, rfl, Or.inr rfl⟩
  · exact ⟨[], (List.append_nil _).symm, Or.inl rfl⟩

/-- The log of a run: what was acquired, what the body did, and what the cleanup did. -/
theorem run_log {reply : Except Raised ((Option String × Option String) × Int)} {session : Session}
    (left : Left calls netns argv captureOutput entry reply session) : ∃ selected last,
      (lastSession calls (held calls netns argv captureOutput entry)
        (afterRelease calls netns argv captureOutput entry reply session)).log =
        (begun calls netns argv captureOutput entry).log ++ ([.restored (decide (calls.restore ≠ .done))] ++
          if session.signalsBlocked then [.releaseBlocked] else []) ++
          cleanupEvents (held calls netns argv captureOutput entry) selected ++ last ∧
      (selected.isSome = true → session.signalsBlocked = false) ∧
      (last = [] ∨ last = [.restored (decide (calls.lastRestore ≠ .done))]) := by
  obtain ⟨selected, cleaned, unreleased⟩ := releasedSession_log calls (held calls netns argv captureOutput entry)
    (started calls netns argv captureOutput entry reply session) session
  obtain ⟨last, ended, shape⟩ := lastSession_log calls (held calls netns argv captureOutput entry)
    (afterRelease calls netns argv captureOutput entry reply session)
  refine ⟨selected, last, ?_, ?_, shape⟩
  · rw [ended, cleaned, left.log]
  · rw [← left.released]
    exact unreleased

theorem held_target {entry : Finset Nat} (none : (held calls netns argv captureOutput entry).process = .none) :
    (held calls netns argv captureOutput entry).timeoutPidfd = .none := by
  change (targetReply calls (held calls netns argv captureOutput entry).process).bind Except.toOption = _
  rw [none]
  rfl

/-- What is acquired once is released once. -/
structure Balanced (log : List Event) : Prop where
  process : log.count .released = log.count .spawned ∧ log.count .spawned ≤ 1
  pidfd : log.count .pidfdClosed = log.count .pidfdOpened ∧ log.count .pidfdOpened ≤ 1
  stdin : log.count .stdinClosed = log.count .stdinDuplicated ∧ log.count .stdinDuplicated ≤ 1

theorem count_signalEvents {event : Event} {target : Option Int} {selected : Option Nat}
    (other : ∀ signal, event ≠ .signalled signal) : (signalEvents target selected).count event = 0 := by
  cases selected with
  | none => rfl
  | some signal => exact List.count_eq_zero_of_not_mem fun member => other _ (List.mem_singleton.mp member)

theorem run_balanced {selected : Option Nat} {events last : List Event} (entry : Finset Nat)
    (others : ∀ event ∈ events ++ last, event = .releaseBlocked ∨ ∃ failed, event = .restored failed) :
    Balanced ((begun calls netns argv captureOutput entry).log ++ events ++
      cleanupEvents (held calls netns argv captureOutput entry) selected ++ last) := by
  have quiet (event : Event) (apart : event ≠ .releaseBlocked) (other : ∀ failed, event ≠ .restored failed) :
      events.count event = 0 ∧ last.count event = 0 := by
    refine ⟨?_, ?_⟩
    · apply List.count_eq_zero_of_not_mem
      intro member
      rcases others event (List.mem_append_left _ member) with same | ⟨failed, same⟩
      · exact apart same
      · exact other failed same
    · apply List.count_eq_zero_of_not_mem
      intro member
      rcases others event (List.mem_append_right _ member) with same | ⟨failed, same⟩
      · exact apart same
      · exact other failed same
  have counts (event : Event) (apart : event ≠ .releaseBlocked) (other : ∀ failed, event ≠ .restored failed) :
      ((begun calls netns argv captureOutput entry).log ++ events ++
        cleanupEvents (held calls netns argv captureOutput entry) selected ++ last).count event =
      (begun calls netns argv captureOutput entry).log.count event +
        (cleanupEvents (held calls netns argv captureOutput entry) selected).count event := by
    simp only [List.count_append, (quiet event apart other).1, (quiet event apart other).2]
    omega
  have acquired (event : Event) : (begun calls netns argv captureOutput entry).log.count event =
      (mark .stdinDuplicated ((stdinReply calls (!captureOutput)).bind Except.toOption)).count event +
        ((mark .spawned (held calls netns argv captureOutput entry).process).count event +
          ((mark .stdinClosed ((stdinReply calls (!captureOutput)).bind Except.toOption)).count event +
            (mark .pidfdOpened (held calls netns argv captureOutput entry).timeoutPidfd).count event)) := by
    simp only [begun, acquisitions, List.count_append]
    rfl
  have cleaned (event : Event) (other : ∀ signal, event ≠ .signalled signal) :
      (cleanupEvents (held calls netns argv captureOutput entry) selected).count event =
        if (held calls netns argv captureOutput entry).process.isSome = true then
          [Event.released].count event + (mark .pidfdClosed (held calls netns argv captureOutput entry).timeoutPidfd).count event
        else 0 := by
    unfold cleanupEvents
    split
    · rw [List.count_append, List.count_append, count_signalEvents other, Nat.zero_add]
    · rfl
  have absent := @held_target calls netns argv captureOutput entry
  have total (event : Event) (apart : event ≠ .releaseBlocked) (other : ∀ failed, event ≠ .restored failed)
      (unsent : ∀ signal, event ≠ .signalled signal) := (counts event apart other).trans
    (congrArg₂ (· + ·) (acquired event) (cleaned event unsent))
  refine ⟨?_, ?_, ?_⟩
  · rw [total .released (by simp) (by simp) (by simp), total .spawned (by simp) (by simp) (by simp)]
    cases (held calls netns argv captureOutput entry).process with
    | none => simp [count_mark]
    | some child => simp [count_mark]
  · rw [total .pidfdClosed (by simp) (by simp) (by simp), total .pidfdOpened (by simp) (by simp) (by simp)]
    cases process : (held calls netns argv captureOutput entry).process with
    | none => simp [count_mark, absent process]
    | some child =>
      simp only [count_mark]
      cases (held calls netns argv captureOutput entry).timeoutPidfd with
      | none => simp
      | some fd => simp
  · rw [total .stdinClosed (by simp) (by simp) (by simp), total .stdinDuplicated (by simp) (by simp) (by simp)]
    simp only [count_mark]
    cases (stdinReply calls (!captureOutput)).bind Except.toOption with
    | none => simp
    | some fd => simp

end Ledger


section Mask

variable (calls : Calls) (netns : String) (argv : List String) (captureOutput : Bool) (entry : Finset Nat)

def MaskReply.Interrupted (reply : MaskReply) : Prop := ∃ cancellation, reply = .interrupted cancellation

/-- A cancellation comes out of a block of the signals that nothing undoes: the body has restored the mask, and a block after
it takes effect and is interrupted, and no later block of the cleanup succeeds. -/
def StrandsLate : Prop :=
  calls.restore = .done ∧ calls.cleanupBlock ≠ .done ∧ ∃ child, Spawns calls netns argv captureOutput child ∧
    ¬ (Works calls captureOutput child ∧ calls.releaseBlock = .done) ∧
    (calls.cleanupBlock.Interrupted ∨ (Works calls captureOutput child ∧ calls.releaseBlock.Interrupted))

/-- A run after which the signals stay blocked. -/
def Strands : Prop :=
  ¬ execSignals ⊆ entry ∧
    (calls.firstBlock.Interrupted ∨ (calls.firstBlock = .done ∧ StrandsLate calls netns argv captureOutput))

variable {calls netns argv captureOutput entry}

theorem MaskReply.takesEffect_iff {reply : MaskReply} (undone : reply ≠ .done) : reply.takesEffect = true ↔ reply.Interrupted := by
  cases reply with
  | done => exact absurd rfl undone
  | refused kind => simp [takesEffect, Interrupted]
  | interrupted cancellation => simp [takesEffect, Interrupted]

theorem spawns_unique {child other : Child} (spawned : Spawns calls netns argv captureOutput child)
    (again : Spawns calls netns argv captureOutput other) : other = child :=
  Option.some.inj (((@held_process calls netns argv captureOutput ∅ other).mpr again).symm.trans (held_process.mpr spawned))

/-- The body of a run gets to the block for the release just where its process works. -/
theorem reaches_of_spawns {child : Child} (spawned : Spawns calls netns argv captureOutput child) :
    Reaches calls (held calls netns argv captureOutput entry) ↔ calls.restore = .done ∧ Works calls captureOutput child := by
  rw [reaches_iff]
  constructor
  · intro holds
    obtain ⟨restored, other, again, works⟩ := holds
    exact ⟨restored, spawns_unique spawned again ▸ works⟩
  · intro holds
    exact ⟨holds.1, child, spawned, holds.2⟩

theorem union_execSignals : entry ∪ execSignals = entry ↔ execSignals ⊆ entry := Finset.union_eq_left

theorem leave_eq_iff {reply : MaskReply} (undone : reply ≠ .done) {mask : Finset Nat} :
    reply.leave (mask ∪ execSignals) mask = mask ↔ (reply.Interrupted → execSignals ⊆ mask) := by
  rw [← MaskReply.takesEffect_iff undone, MaskReply.leave]
  split
  · next effect => simp [effect]
  · next effect => simp [effect]

variable {reply : Except Raised ((Option String × Option String) × Int)} {session : Session}

theorem released_unsettled (left : Left calls netns argv captureOutput entry reply session)
    (unsettled : (afterRelease calls netns argv captureOutput entry reply session).unsettled) :
    ¬ StrandsLate calls netns argv captureOutput := by
  intro strands
  obtain ⟨restored, undone, child, spawned, unfinished, _⟩ := strands
  have process := (@held_process calls netns argv captureOutput entry child).mpr spawned
  have open_ : session.signalsBlocked = false := by
    rw [← Bool.not_eq_true, left.blocked, left.ended, reaches_of_spawns spawned]
    exact fun holds => unfinished ⟨holds.1.2, holds.2⟩
  rcases unsettled with blocked | incomplete
  · simp [releasedSession, process, blockedForCleanup, open_, undone] at blocked
  · have kept : (afterRelease calls netns argv captureOutput entry reply session).maskRestoreCompleted =
        session.maskRestoreCompleted := by
      simp [releasedSession, process, blockedForCleanup, open_]
    rw [kept, left.completed] at incomplete
    simp [restored] at incomplete

/-- The mask when the body is over: as on entry, unless the block for the release was interrupted. -/
theorem left_mask (left : Left calls netns argv captureOutput entry reply session) {child : Child}
    (spawned : Spawns calls netns argv captureOutput child) (restored : calls.restore = .done)
    (unfinished : ¬ (Works calls captureOutput child ∧ calls.releaseBlock = .done)) :
    (session.mask = entry ∧ ¬ (Works calls captureOutput child ∧ calls.releaseBlock.Interrupted)) ∨
      (session.mask = entry ∪ execSignals ∧ Works calls captureOutput child ∧ calls.releaseBlock.Interrupted) := by
  by_cases works : Works calls captureOutput child
  · have undone : calls.releaseBlock ≠ .done := fun done => unfinished ⟨works, done⟩
    have mask := left.reached ((reaches_of_spawns spawned).mpr ⟨restored, works⟩)
    rw [MaskReply.leave] at mask
    by_cases interrupted : calls.releaseBlock.Interrupted
    · rw [if_pos ((MaskReply.takesEffect_iff undone).mpr interrupted)] at mask
      exact Or.inr ⟨mask, works, interrupted⟩
    · rw [if_neg (fun effect => interrupted ((MaskReply.takesEffect_iff undone).mp effect))] at mask
      exact Or.inl ⟨mask, fun both => interrupted both.2⟩
  · have stopped : ¬ Reaches calls (held calls netns argv captureOutput entry) :=
      fun reaches => works ((reaches_of_spawns spawned).mp reaches).2
    exact Or.inl ⟨left.stopped restored stopped, fun both => works both.1⟩

theorem released_settled (left : Left calls netns argv captureOutput entry reply session)
    (settled : ¬ (afterRelease calls netns argv captureOutput entry reply session).unsettled) : calls.restore = .done ∧
    ((afterRelease calls netns argv captureOutput entry reply session).mask = entry ↔
      execSignals ⊆ entry ∨ ¬ StrandsLate calls netns argv captureOutput) := by
  simp only [Session.unsettled, not_or, Bool.not_eq_true, Bool.not_eq_false] at settled
  obtain ⟨unblocked, completed⟩ := settled
  cases process : (held calls netns argv captureOutput entry).process with
  | none =>
    simp only [releasedSession, process] at unblocked completed ⊢
    rw [left.completed, decide_eq_true_eq] at completed
    have stopped : ¬ Reaches calls (held calls netns argv captureOutput entry) := by
      intro reaches
      have some := reaches.usable.process
      rw [process] at some
      cases some
    refine ⟨completed, iff_of_true (left.stopped completed stopped) (Or.inr ?_)⟩
    intro strands
    obtain ⟨_, _, child, spawned, _⟩ := strands
    cases process.symm.trans (held_process.mpr spawned)
  | some child =>
    have spawned := held_process.mp process
    have open_ : session.signalsBlocked = false := by
      cases blocked : session.signalsBlocked with
      | false => rfl
      | true => simp [releasedSession, process, blockedForCleanup, blocked] at unblocked
    simp only [releasedSession, process, blockedForCleanup, open_, Bool.false_eq_true, if_false] at unblocked completed ⊢
    rw [left.completed, decide_eq_true_eq] at completed
    rw [decide_eq_false_iff_not] at unblocked
    have unfinished : ¬ (Works calls captureOutput child ∧ calls.releaseBlock = .done) := by
      intro both
      have finished := left.blocked.mpr (left.ended.mpr ⟨(reaches_of_spawns spawned).mpr ⟨completed, both.1⟩, both.2⟩)
      rw [open_] at finished
      cases finished
    have strands : StrandsLate calls netns argv captureOutput ↔
        calls.cleanupBlock.Interrupted ∨ (Works calls captureOutput child ∧ calls.releaseBlock.Interrupted) := by
      constructor
      · intro late
        obtain ⟨_, _, other, again, _, either⟩ := late
        exact spawns_unique spawned again ▸ either
      · exact fun either => ⟨completed, unblocked, child, spawned, unfinished, either⟩
    refine ⟨completed, ?_⟩
    rw [strands]
    rcases left_mask left spawned completed unfinished with ⟨mask, calm⟩ | ⟨mask, works, interrupted⟩
    · rw [mask, leave_eq_iff unblocked]
      tauto
    · rw [mask, Finset.union_assoc, Finset.union_self, MaskReply.leave, ite_self, union_execSignals]
      tauto

/-- The mask comes back exactly where no block of the signals is left to stand. -/
theorem run_mask (left : Left calls netns argv captureOutput entry reply session) {final : Session}
    (ends : lastSession calls (held calls netns argv captureOutput entry)
      (afterRelease calls netns argv captureOutput entry reply session) = final) :
    final.mask = entry ∨ lastRestoration final.log = some true ↔
      execSignals ⊆ entry ∨ ¬ StrandsLate calls netns argv captureOutput := by
  subst ends
  by_cases unsettled : (afterRelease calls netns argv captureOutput entry reply session).unsettled
  · refine iff_of_true ?_ (Or.inr (released_unsettled left unsettled))
    simp only [lastSession, if_pos unsettled, lastRestoration_append]
    cases calls.lastRestore with
    | done => exact Or.inl rfl
    | refused kind => exact Or.inr rfl
    | interrupted cancellation => exact Or.inl rfl
  · obtain ⟨restored, mask⟩ := released_settled left unsettled
    simp only [lastSession, if_neg unsettled]
    have last : lastRestoration (afterRelease calls netns argv captureOutput entry reply session).log = some false := by
      obtain ⟨selected, cleaned, _⟩ := releasedSession_log calls (held calls netns argv captureOutput entry)
        (started calls netns argv captureOutput entry reply session) session
      rw [cleaned, left.log, lastRestoration_append, lastRestoration_append, cleanupEvents_restoration, Option.none_or,
        lastRestoration_append]
      cases session.signalsBlocked with
      | true => simp [restored, lastRestoration, Event.restoration]
      | false => simp [restored, lastRestoration, Event.restoration]
    rw [last, ← mask]
    simp

end Mask

section Errors

variable {calls : Calls} {netns : String} {argv : List String} {captureOutput : Bool} {entry : Finset Nat}

/-- An end that raises what another would, or a cancellation in its place. -/
def Heir (ending heir : Ending) : Prop :=
  heir.bodyError = ending.bodyError ∨ ∃ error, heir.bodyError = some error ∧ error.kind.cancels = true

theorem Heir.trans {first second third : Ending} (left : Heir first second) (right : Heir second third) : Heir first third := by
  rcases right with same | cancelled
  · rcases left with equal | ⟨error, held, cancels⟩
    · exact Or.inl (same.trans equal)
    · exact Or.inr ⟨error, same.trans held, cancels⟩
  · exact Or.inr cancelled

theorem heir_absorb (ending : Ending) (label : String) (reply : Except Raised Unit) : Heir ending (ending.absorb label reply) := by
  cases reply with
  | ok done => exact Or.inl rfl
  | error raised =>
    unfold Ending.absorb
    dsimp only
    split
    · next cancels => exact Or.inr ⟨raised, rfl, cancels⟩
    · exact Or.inl rfl

theorem heir_released (ending : Ending) (acquired : Acquired) (session : Session) :
    Heir ending (ending.released calls acquired session) := by
  unfold Ending.released
  split
  · exact Or.inl rfl
  · have blocked : Heir ending (ending.blocked calls session) := by
      unfold Ending.blocked
      split
      · exact Or.inl rfl
      · exact heir_absorb _ _ _
    exact blocked

theorem heir_last (ending : Ending) (session : Session) : Heir ending (ending.last calls session) := by
  unfold Ending.last
  split
  · exact heir_absorb _ _ _
  · exact Or.inl rfl

variable {reply : Except Raised ((Option String × Option String) × Int)} {session : Session}

theorem heir_ending : Heir (started calls netns argv captureOutput entry reply session)
    (ending calls netns argv captureOutput entry reply session) :=
  (heir_released _ _ _).trans (heir_last _ _)

theorem started_error (left : Left calls netns argv captureOutput entry reply session) :
    (started calls netns argv captureOutput entry reply session).bodyError = errorOf reply := by
  cases reply with
  | error error => rfl
  | ok value =>
    have finished := left.blocked.mpr ⟨value, rfl⟩
    rw [← left.released] at finished
    simp [begin, finished, errorOf]

/-- An end raises its error, with what has failed since noted on it. -/
theorem outcome_error {ending : Ending} {error : Raised} (failed : ending.bodyError = some error) :
    ∃ raised, ending.outcome = .error raised ∧ raised.toFailure = error.toFailure := by
  unfold Ending.outcome
  rw [failed]
  exact ⟨_, rfl, rfl⟩

/-- The error of the body is raised, or a cancellation in its place. -/
theorem ending_wins (left : Left calls netns argv captureOutput entry reply session) {error : Raised} (failed : reply = .error error) :
    ∃ raised, (ending calls netns argv captureOutput entry reply session).outcome = .error raised ∧
      (raised.toFailure = error.toFailure ∨ raised.kind.cancels = true) := by
  subst failed
  have own := started_error left
  rcases @heir_ending calls netns argv captureOutput entry (.error error) session with same | ⟨other, held, cancels⟩
  · obtain ⟨raised, raises, kept⟩ := outcome_error (same.trans own)
    exact ⟨raised, raises, Or.inl kept⟩
  · obtain ⟨raised, raises, kept⟩ := outcome_error held
    refine ⟨raised, raises, Or.inr ?_⟩
    rw [kept]
    exact cancels

def MaskReply.cancels : MaskReply → Bool
  | .done => false
  | .refused kind => kind.cancels
  | .interrupted _ => true

/-- What fails in the cleanup of a process that has worked to the end. -/
def lateFailures (calls : Calls) (child : Child) : List (String × Failure) :=
  notes "NSPopen release" (tell .release child.release) ++ notes "exec pidfd close" (tell .pidfdClose calls.pidfdClose)

/-- A body that ends leaves the failures of the cleanup, and the restoration of the mask after them. -/
theorem ending_ended (left : Left calls netns argv captureOutput entry reply session) {child : Child}
    (spawned : Spawns calls netns argv captureOutput child) {value : (Option String × Option String) × Int}
    (ended : reply = .ok value) : ending calls netns argv captureOutput entry reply session =
      ({ bodyError := none, failures := lateFailures calls child } : Ending).absorb "exec signal mask restoration"
        (maskTell .lastRestore calls.lastRestore) := by
  have process := (@held_process calls netns argv captureOutput entry child).mpr spawned
  have finished := left.blocked.mpr ⟨value, ended⟩
  have released := left.released.trans finished
  have reaches := (left.ended.mp ⟨value, ended⟩).1
  obtain ⟨fd, target⟩ := Option.isSome_iff_exists.mp reaches.usable.target
  have started : started calls netns argv captureOutput entry reply session = { bodyError := none, failures := [] } := by
    simp [begin, ended, released, reaches.usable.stdinClose]
  have unsettled : (afterRelease calls netns argv captureOutput entry reply session).unsettled := by
    apply Or.inl
    simp [releasedSession, process, blockedForCleanup, finished]
  unfold ending
  rw [started, Ending.last, if_pos unsettled]
  congr 1
  simp [Ending.released, process, Ending.blocked, finished, selectSignal, blockedForCleanup, released, signalNotes, closeNotes, target,
    lateFailures]

end Errors

section Discipline

variable (calls : Calls) (netns : String) (argv : List String) (captureOutput : Bool) (entry : Finset Nat)

/-- What a run of a command owes to the processes, the descriptors, the signal mask and the error of its body. -/
structure Disciplined (run : Except Raised ExecResult × Session)
    (body : Option (Except Raised ((Option String × Option String) × Int))) : Prop where
  balanced : Balanced run.2.log
  signals : ∀ signal, .signalled signal ∈ run.2.log → .releaseBlocked ∉ run.2.log ∧ ∃ error, body = some (.error error)
  mask : run.2.mask = entry ∨ lastRestoration run.2.log = some true
  wins : ∀ error, body = some (.error error) →
    ∃ raised, run.1 = .error raised ∧ (raised.toFailure = error.toFailure ∨ raised.kind.cancels = true)
  cancelled : ∀ value, body = some (.ok value) → calls.lastRestore.cancels = true →
    ∃ raised, run.1 = .error raised ∧ raised.kind.cancels = true

/-- No cancellation of the cleanup is only noted on an error of the cleanup. -/
def CancellationFirst (run : Except Raised ExecResult × Session)
    (body : Option (Except Raised ((Option String × Option String) × Int))) : Prop :=
  ∀ raised, run.1 = .error raised → raised.kind.cancels = true ∨
    (∃ error, body = some (.error error) ∧ raised.toFailure = error.toFailure) ∨
    ∀ note ∈ raised.notes, note.2.kind.cancels = false

/-- A run that ends well but for its cleanup: the release fails, and the closing of the descriptor is cancelled after it. -/
def Outraced : Prop :=
  calls.firstBlock = .done ∧ calls.restore = .done ∧ calls.releaseBlock = .done ∧ calls.lastRestore.cancels = false ∧
    ∃ child, Spawns calls netns argv captureOutput child ∧ Works calls captureOutput child ∧
      (∃ kind, child.release = .error kind ∧ kind.cancels = false) ∧ ∃ kind, calls.pidfdClose = .error kind ∧ kind.cancels = true

variable {calls netns argv captureOutput entry}

/-- What a run gives: the value of its body, unless its end raises. -/
def concluded {α : Type} (outcome : Except Raised Unit) (reply : Except Raised α) : Except Raised α :=
  match outcome with
  | .ok _ => reply
  | .error raised => .error raised

variable (calls netns argv captureOutput entry) in
/-- A run whose signals are blocked has a body; its end raises what the body and the cleanup leave. -/
theorem execute_run (blocks : calls.firstBlock = .done) : ∃ reply session,
    bodyReply calls netns argv captureOutput entry = some reply ∧ Left calls netns argv captureOutput entry reply session ∧
    (execute calls netns argv captureOutput { mask := entry }).2 =
      lastSession calls (held calls netns argv captureOutput entry) (afterRelease calls netns argv captureOutput entry reply session) ∧
    ∀ raised, (execute calls netns argv captureOutput { mask := entry }).1 = .error raised ↔
      (ending calls netns argv captureOutput entry reply session).outcome = .error raised := by
  obtain ⟨reply, session, run, left⟩ := body_left calls netns argv captureOutput entry
  have acquires : acquire calls netns (command argv) { captureOutput } (!captureOutput) { mask := entry } =
      (.ok (held calls netns argv captureOutput entry), begun calls netns argv captureOutput entry) :=
    acquire_run calls netns (command argv) { captureOutput } (!captureOutput) entry blocks
  have settles := settle_run calls (held calls netns argv captureOutput entry) reply left.attempted
  have spawned : spawnNspopen calls netns (command argv) { captureOutput } (!captureOutput) executeBody { mask := entry } =
      (concluded (ending calls netns argv captureOutput entry reply session).outcome reply,
        lastSession calls (held calls netns argv captureOutput entry)
          (afterRelease calls netns argv captureOutput entry reply session)) := by
    simp only [spawnNspopen, Bind.bind, Action.andThen, acquires, Action.attempt, run, settles]
    cases (ending calls netns argv captureOutput entry reply session).outcome with
    | error raised => rfl
    | ok done => cases reply with
      | ok value => rfl
      | error error => rfl
  refine ⟨reply, session, ?_, left, ?_, ?_⟩
  · simp only [bodyReply, acquires, run]
  · simp only [execute, Bind.bind, Action.andThen, spawned]
    split
    · next value after shape => exact (congrArg Prod.snd shape).symm
    · next error after shape => exact (congrArg Prod.snd shape).symm
  · intro raised
    simp only [execute, Bind.bind, Action.andThen, spawned]
    cases ends : (ending calls netns argv captureOutput entry reply session).outcome with
    | error error => simp [concluded]
    | ok done => cases replied : reply with
      | ok value => simp [concluded, Pure.pure, Action.done]
      | error error =>
        obtain ⟨raised, raises, _⟩ := ending_wins left replied
        cases ends.symm.trans raises

/-- A run whose signals cannot be blocked does nothing else. -/
theorem execute_refused (blocks : calls.firstBlock ≠ .done) : bodyReply calls netns argv captureOutput entry = none ∧
    ∃ raised, execute calls netns argv captureOutput { mask := entry } =
      (.error raised, { mask := if calls.firstBlock.takesEffect then entry ∪ execSignals else entry }) ∧ raised.notes = [] := by
  obtain ⟨raised, refused, plain⟩ := acquire_refused calls netns (command argv) { captureOutput } (!captureOutput) entry blocks
  refine ⟨?_, raised, ?_, plain⟩
  · simp only [bodyReply, refused]
  · simp only [execute, spawnNspopen, Bind.bind, Action.andThen, refused]

theorem disciplined_refused (blocks : calls.firstBlock ≠ .done) :
    Disciplined calls entry (execute calls netns argv captureOutput { mask := entry })
      (bodyReply calls netns argv captureOutput entry) ↔ ¬ Strands calls netns argv captureOutput entry := by
  obtain ⟨absent, raised, run, _⟩ := @execute_refused calls netns argv captureOutput entry blocks
  have strands : Strands calls netns argv captureOutput entry ↔ ¬ execSignals ⊆ entry ∧ calls.firstBlock.Interrupted := by
    simp [Strands, blocks]
  rw [run, absent, strands]
  have mask : (if calls.firstBlock.takesEffect then entry ∪ execSignals else entry) = entry ↔
      ¬ (¬ execSignals ⊆ entry ∧ calls.firstBlock.Interrupted) := by
    rw [show (if calls.firstBlock.takesEffect then entry ∪ execSignals else entry) =
      calls.firstBlock.leave (entry ∪ execSignals) entry from rfl, leave_eq_iff blocks]
    tauto
  constructor
  · intro disciplined
    rcases disciplined.mask with same | failed
    · exact mask.mp same
    · cases failed
  · intro calm
    refine ⟨⟨?_, ?_, ?_⟩, ?_, Or.inl (mask.mpr calm), ?_, ?_⟩
    · simp
    · simp
    · simp
    · exact fun signal member => absurd member List.not_mem_nil
    · intro error failed
      cases failed
    · intro value ended
      cases ended

/-- Events that come before a body. -/
def Event.acquires : Event → Bool
  | .stdinDuplicated | .stdinClosed | .spawned | .pidfdOpened => true
  | _ => false

/-- The events of a body are the restoration of the mask and the block for the release. -/
theorem mem_bodyEvents {blocked : Bool} {failed : Bool} {event : Event}
    (member : event ∈ [Event.restored failed] ++ if blocked then [Event.releaseBlocked] else []) :
    event = .restored failed ∨ (event = .releaseBlocked ∧ blocked = true) := by
  rcases List.mem_append.mp member with restored | rest
  · exact Or.inl (List.mem_singleton.mp restored)
  · cases blocked with
    | true => exact Or.inr ⟨List.mem_singleton.mp rest, rfl⟩
    | false => exact absurd rest List.not_mem_nil

theorem mem_begun {event : Event} (member : event ∈ (begun calls netns argv captureOutput entry).log) : event.acquires = true := by
  simp only [begun, acquisitions, List.mem_append] at member
  rcases member with held | held | held | held
  · rw [mem_mark held]
    rfl
  · rw [mem_mark held]
    rfl
  · rw [mem_mark held]
    rfl
  · rw [mem_mark held]
    rfl

/-- A signal is sent only where the body has not blocked the signals for the release. -/
theorem run_signals {reply : Except Raised ((Option String × Option String) × Int)} {session final : Session}
    (left : Left calls netns argv captureOutput entry reply session)
    (ends : final = lastSession calls (held calls netns argv captureOutput entry)
      (afterRelease calls netns argv captureOutput entry reply session)) {signal : Nat} (sent : .signalled signal ∈ final.log) :
    .releaseBlocked ∉ final.log ∧ ∃ error, reply = .error error := by
  obtain ⟨selected, last, log, unreleased, shape⟩ := run_log left
  rw [ends, log] at sent ⊢
  have final (event : Event) (member : event ∈ last) : ∃ failed, event = .restored failed := by
    rcases shape with rfl | rfl
    · exact absurd member List.not_mem_nil
    · exact ⟨_, List.mem_singleton.mp member⟩
  have chosen : selected.isSome = true := by
    rcases List.mem_append.mp sent with rest | lasts
    · rcases List.mem_append.mp rest with rest | cleaned
      · rcases List.mem_append.mp rest with acquired | body
        · cases mem_begun acquired
        · rcases mem_bodyEvents body with same | ⟨same, _⟩
          · cases same
          · cases same
      · rcases mem_cleanupEvents cleaned with ⟨_, _, chosen⟩ | same | same
        · exact chosen
        · cases same
        · cases same
    · obtain ⟨failed, same⟩ := final _ lasts
      cases same
  have unblocked := unreleased chosen
  refine ⟨?_, ?_⟩
  · intro member
    rcases List.mem_append.mp member with rest | lasts
    · rcases List.mem_append.mp rest with rest | cleaned
      · rcases List.mem_append.mp rest with acquired | body
        · cases mem_begun acquired
        · rcases mem_bodyEvents body with same | ⟨_, blocked⟩
          · cases same
          · exact Bool.false_ne_true (unblocked.symm.trans blocked)
      · rcases mem_cleanupEvents cleaned with ⟨_, same, _⟩ | same | same
        · cases same
        · cases same
        · cases same
    · obtain ⟨failed, same⟩ := final _ lasts
      cases same
  · cases reply with
    | error error => exact ⟨error, rfl⟩
    | ok value => exact absurd (unblocked.symm.trans (left.blocked.mpr ⟨value, rfl⟩)) Bool.false_ne_true

theorem run_log_balanced {reply : Except Raised ((Option String × Option String) × Int)} {session : Session}
    (left : Left calls netns argv captureOutput entry reply session) : Balanced (lastSession calls
      (held calls netns argv captureOutput entry) (afterRelease calls netns argv captureOutput entry reply session)).log := by
  obtain ⟨selected, last, log, _, shape⟩ := run_log left
  rw [log]
  apply run_balanced
  intro event member
  rcases List.mem_append.mp member with body | lasts
  · rcases mem_bodyEvents body with same | ⟨same, _⟩
    · exact Or.inr ⟨_, same⟩
    · exact Or.inl same
  · rcases shape with rfl | rfl
    · exact absurd lasts List.not_mem_nil
    · exact Or.inr ⟨_, List.mem_singleton.mp lasts⟩

/-- A process whose body has ended. -/
theorem spawned_of_ended {reply : Except Raised ((Option String × Option String) × Int)} {session : Session}
    (left : Left calls netns argv captureOutput entry reply session) {value : (Option String × Option String) × Int}
    (ended : reply = .ok value) : calls.restore = .done ∧ calls.releaseBlock = .done ∧
      ∃ child, Spawns calls netns argv captureOutput child ∧ Works calls captureOutput child := by
  obtain ⟨reaches, blocks⟩ := left.ended.mp ⟨value, ended⟩
  obtain ⟨restored, child, spawned, works⟩ := reaches_iff.mp reaches
  exact ⟨restored, blocks, child, spawned, works⟩

theorem maskTell_cancels {site : Site} {reply : MaskReply} (cancels : reply.cancels = true) :
    ∃ raised, maskTell site reply = .error raised ∧ raised.kind.cancels = true := by
  cases reply with
  | done => exact by cases cancels
  | refused kind => exact ⟨_, rfl, cancels⟩
  | interrupted cancellation => exact ⟨_, rfl, rfl⟩

theorem disciplined_done (blocks : calls.firstBlock = .done) :
    Disciplined calls entry (execute calls netns argv captureOutput { mask := entry })
      (bodyReply calls netns argv captureOutput entry) ↔ ¬ Strands calls netns argv captureOutput entry := by
  obtain ⟨reply, session, body, left, final, raises⟩ := execute_run calls netns argv captureOutput entry blocks
  have mask := run_mask left final.symm
  have strands : ¬ Strands calls netns argv captureOutput entry ↔
      execSignals ⊆ entry ∨ ¬ StrandsLate calls netns argv captureOutput := by
    have uninterrupted : ¬ calls.firstBlock.Interrupted := by
      rw [blocks]
      simp [MaskReply.Interrupted]
    unfold Strands
    tauto
  rw [strands, ← mask]
  refine ⟨fun disciplined => disciplined.mask, fun restored => ⟨?_, ?_, restored, ?_, ?_⟩⟩
  · rw [final]
    exact run_log_balanced left
  · intro signal sent
    obtain ⟨unblocked, error, failed⟩ := run_signals left final sent
    exact ⟨unblocked, error, body.trans (congrArg some failed)⟩
  · intro error failed
    rw [body] at failed
    obtain ⟨raised, ends, wins⟩ := ending_wins left (Option.some.inj failed)
    exact ⟨raised, (raises raised).mpr ends, wins⟩
  · intro value ended cancels
    rw [body] at ended
    have finished := Option.some.inj ended
    obtain ⟨_, _, child, spawned, _⟩ := spawned_of_ended left finished
    obtain ⟨error, told, cancelled⟩ := @maskTell_cancels .lastRestore _ cancels
    have ends := ending_ended left spawned finished
    obtain ⟨raised, failed, kept⟩ := @outcome_error (ending calls netns argv captureOutput entry reply session) error (by
      rw [ends, told, Ending.absorb, if_pos cancelled])
    exact ⟨raised, (raises raised).mpr failed, kept ▸ cancelled⟩

/-- The first failure is raised, and the others are noted on it. -/
theorem outcome_failures {ending : Ending} (well : ending.bodyError = none) {raised : Raised}
    (raises : ending.outcome = .error raised) : ∃ label failure secondary, ending.failures = (label, failure) :: secondary ∧
      raised.toFailure = failure ∧ raised.notes = secondary := by
  unfold Ending.outcome at raises
  rw [well] at raises
  cases failures : ending.failures with
  | nil =>
    rw [failures] at raises
    cases raises
  | cons first secondary =>
    rw [failures] at raises
    obtain ⟨label, failure⟩ := first
    cases Except.error.inj raises
    exact ⟨label, failure, secondary, rfl, rfl, rfl⟩

theorem absorb_calm {ending : Ending} {label : String} {site : Site} {reply : MaskReply} (calm : reply.cancels = false) :
    ∃ noted, ending.absorb label (maskTell site reply) = { ending with failures := ending.failures ++ noted } ∧
      ∀ note ∈ noted, note.2.kind.cancels = false := by
  cases reply with
  | done => exact ⟨[], by simp [Ending.absorb, maskTell], List.forall_mem_nil _⟩
  | refused kind =>
    have other : ¬ kind.cancels = true := by simpa [MaskReply.cancels] using calm
    refine ⟨[(label, ⟨site, kind⟩)], ?_, ?_⟩
    · simp [Ending.absorb, maskTell, Failure.raised, other]
    · simpa using other
  | interrupted cancellation => exact by cases calm

/-- Of the failures of a cleanup the first is raised: a cancellation behind it is only noted. -/
theorem outcome_late {child : Child} {noted : List (String × Failure)} (calm : ∀ note ∈ noted, note.2.kind.cancels = false) :
    (∀ raised, ({ bodyError := none, failures := lateFailures calls child ++ noted } : Ending).outcome = .error raised →
      raised.kind.cancels = true ∨ ∀ note ∈ raised.notes, note.2.kind.cancels = false) ↔
    ¬ ((∃ kind, child.release = .error kind ∧ kind.cancels = false) ∧
      ∃ kind, calls.pidfdClose = .error kind ∧ kind.cancels = true) := by
  cases released : child.release with
  | ok done =>
    refine iff_of_true ?_ (by simp)
    intro raised raises
    obtain ⟨label, failure, secondary, shape, _, rest⟩ := outcome_failures rfl raises
    apply Or.inr
    rw [rest]
    intro note member
    apply calm
    cases closed : calls.pidfdClose with
    | ok done =>
      simp only [lateFailures, released, closed, notes, tell, mapIssue, errorOf, Option.toList_none, List.map_nil,
        List.nil_append] at shape
      rw [shape]
      exact List.mem_cons_of_mem _ member
    | error kind =>
      simp only [lateFailures, released, closed, notes, tell, mapIssue, errorOf, Option.toList_none, Option.toList_some, List.map_nil,
        List.map_cons, List.nil_append, List.cons_append, List.cons.injEq] at shape
      rw [shape.2]
      exact member
  | error kind =>
    have outcome : ({ bodyError := none, failures := lateFailures calls child ++ noted } : Ending).outcome =
        .error ((Failure.raised ⟨.release, kind⟩).annotate
          (notes "exec pidfd close" (tell .pidfdClose calls.pidfdClose) ++ noted)) := by
      simp [Ending.outcome, lateFailures, released, notes, tell, mapIssue, errorOf, Failure.raised]
    have noting : ((Failure.raised ⟨.release, kind⟩).annotate
        (notes "exec pidfd close" (tell .pidfdClose calls.pidfdClose) ++ noted)).notes =
        notes "exec pidfd close" (tell .pidfdClose calls.pidfdClose) ++ noted := rfl
    constructor
    · intro first both
      obtain ⟨⟨_, same, silent⟩, other, closed, cancels⟩ := both
      cases Except.error.inj same
      rcases first _ outcome with loud | quiet
      · exact Bool.false_ne_true (silent.symm.trans loud)
      · rw [noting] at quiet
        have heard := quiet ("exec pidfd close", ⟨.pidfdClose, other⟩) (by
          simp [notes, tell, closed, mapIssue, errorOf, Failure.raised])
        exact Bool.false_ne_true (heard.symm.trans cancels)
    · intro apart raised raises
      cases Except.error.inj (outcome.symm.trans raises)
      cases cancels : kind.cancels with
      | true => exact Or.inl cancels
      | false =>
        apply Or.inr
        rw [noting, List.forall_mem_append]
        refine ⟨?_, calm⟩
        cases closed : calls.pidfdClose with
        | ok done => exact List.forall_mem_nil _
        | error other =>
          have quiet : ¬ other.cancels = true := fun loud => apart ⟨⟨kind, rfl, cancels⟩, other, closed, loud⟩
          simpa [notes, tell, mapIssue, errorOf, Failure.raised] using quiet

theorem cancellationFirst_done (blocks : calls.firstBlock = .done) :
    CancellationFirst (execute calls netns argv captureOutput { mask := entry })
      (bodyReply calls netns argv captureOutput entry) ↔ ¬ Outraced calls netns argv captureOutput := by
  obtain ⟨reply, session, body, left, _, raises⟩ := execute_run calls netns argv captureOutput entry blocks
  simp only [CancellationFirst, body, raises]
  cases replied : reply with
  | error error =>
    subst replied
    refine iff_of_true ?_ ?_
    · intro raised failed
      obtain ⟨other, ends, wins⟩ := ending_wins left rfl
      cases Except.error.inj (failed.symm.trans ends)
      rcases wins with same | cancels
      · exact Or.inr (Or.inl ⟨error, rfl, same⟩)
      · exact Or.inl cancels
    · intro outraced
      obtain ⟨_, restored, blocked, _, child, spawned, works, _⟩ := outraced
      obtain ⟨value, finished⟩ := left.ended.mpr ⟨(reaches_of_spawns spawned).mpr ⟨restored, works⟩, blocked⟩
      cases finished
  | ok value =>
    subst replied
    obtain ⟨restored, blocked, child, spawned, works⟩ := spawned_of_ended left rfl
    have ends := ending_ended left spawned rfl
    cases last : calls.lastRestore.cancels with
    | true =>
      refine iff_of_true ?_ (fun outraced => by cases last.symm.trans outraced.2.2.2.1)
      intro raised failed
      obtain ⟨error, told, cancels⟩ := @maskTell_cancels .lastRestore _ last
      obtain ⟨other, raises, kept⟩ := @outcome_error (ending calls netns argv captureOutput entry (.ok value) session) error (by
        rw [ends, told, Ending.absorb, if_pos cancels])
      cases Except.error.inj (failed.symm.trans raises)
      exact Or.inl (kept ▸ cancels)
    | false =>
      obtain ⟨noted, calm, quiet⟩ := @absorb_calm { bodyError := none, failures := lateFailures calls child }
        "exec signal mask restoration" .lastRestore _ last
      rw [ends, calm]
      have outraced : Outraced calls netns argv captureOutput ↔ (∃ kind, child.release = .error kind ∧ kind.cancels = false) ∧
          ∃ kind, calls.pidfdClose = .error kind ∧ kind.cancels = true := by
        constructor
        · intro outraced
          obtain ⟨_, _, _, _, other, again, _, late⟩ := outraced
          exact spawns_unique spawned again ▸ late
        · exact fun late => ⟨blocks, restored, blocked, last, child, spawned, works, late⟩
      rw [outraced, ← outcome_late quiet]
      simp

/-- A run of a command releases what it acquires, signals the target only when it must and raises the error of its body; the
signal mask comes back just where no interrupted block of the signals is left to stand, and a cancellation of the cleanup is
raised just where no failed release comes before it. -/
theorem execute_disciplined (calls : Calls) (netns : String) (argv : List String) (captureOutput : Bool) (entry : Finset Nat) :
    (Disciplined calls entry (execute calls netns argv captureOutput { mask := entry })
      (bodyReply calls netns argv captureOutput entry) ↔ ¬ Strands calls netns argv captureOutput entry) ∧
    (CancellationFirst (execute calls netns argv captureOutput { mask := entry })
      (bodyReply calls netns argv captureOutput entry) ↔ ¬ Outraced calls netns argv captureOutput) := by
  by_cases blocks : calls.firstBlock = .done
  · exact ⟨disciplined_done blocks, cancellationFirst_done blocks⟩
  · refine ⟨disciplined_refused blocks, iff_of_true ?_ fun outraced => blocks outraced.1⟩
    obtain ⟨_, raised, run, plain⟩ := @execute_refused calls netns argv captureOutput entry blocks
    intro other raises
    rw [run] at raises
    cases Except.error.inj raises
    rw [plain]
    exact Or.inr (Or.inr (List.forall_mem_nil _))

/-- A process that is interrupted while it communicates. -/
def interruptedChild : Child where
  pid := .ok 4711
  communicate := .error (.cancelled .keyboardInterrupt)
  returncode := .ok 0
  terminate := .ok ()
  release := .ok ()

/-- The block of the signals for the cleanup takes effect, and then raises the termination that was pending. -/
def interruptedCalls : Calls where
  firstBlock := .done
  stdinDup := .ok 3
  factory := fun _ _ _ => .ok (some interruptedChild)
  stdinClose := .ok ()
  pidfdOpen := .ok 4
  restore := .done
  releaseBlock := .done
  earlyRestore := .done
  cleanupBlock := .interrupted .operationCancelled
  signal := .ok ()
  pidfdClose := .ok ()
  lastRestore := .done

/-- The signals stay blocked after a run that was interrupted twice. -/
theorem execute_strands : ¬ Disciplined interruptedCalls ∅
    (execute interruptedCalls "lab-r" ["true"] true { mask := ∅ }) (bodyReply interruptedCalls "lab-r" ["true"] true ∅) := by
  intro disciplined
  have mask := disciplined.mask
  revert mask
  decide

end Discipline

end Exec

end Nslab
