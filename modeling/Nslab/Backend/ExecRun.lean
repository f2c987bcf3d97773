import Nslab.Backend.Exec

/-! The stages of a command run in closed form: what each of them replies, and the session
in which it leaves the run. -/

namespace Nslab

namespace Exec

open Checks

section Acquisition

variable {α β : Type} (calls : Calls) (netns : String)

/-- A computation that raises nothing and only adds to the log. -/
def Yields (action : Runs α) (value : α) (events : List Event) : Prop :=
  ∀ session, action session = (.ok value, { session with log := session.log ++ events })

theorem Yields.pure (value : α) : Yields (Pure.pure value) value [] := by
  intro session
  simp [Pure.pure, Action.done]

theorem Yields.bind {first : Runs α} {next : α → Runs β} {value : α} {result : β} {events later : List Event}
    (head : Yields first value events) (tail : Yields (next value) result later) :
    Yields (first >>= next) result (events ++ later) := by
  intro session
  simp only [Bind.bind, Action.andThen, head session]
  rw [tail, List.append_assoc]

theorem Yields.attempt_call {site : Site} {reply : Except Kind α} {events : List Event} :
    Yields (Action.attempt (call site reply events)) (tell site reply) events := fun _ => rfl

/-- What duplicating the standard input replies. -/
def stdinReply (inheritStdin : Bool) : Option (Except Raised Int) :=
  if inheritStdin then some (tell .stdinDup calls.stdinDup) else none

def spawnReply (argv : List String) (options : PopenOptions) (stdin : Option (Except Raised Int)) :
    Except Raised (Option Child) :=
  if (stdin.bind errorOf).isNone then
    tell .factory (calls.factory netns argv { options with stdin := stdin.bind Except.toOption })
  else .ok none

def closeReply (stdin : Option (Except Raised Int)) : Except Raised Unit :=
  if (stdin.bind Except.toOption).isSome then tell .stdinClose calls.stdinClose else .ok ()

def pidfdReply (child : Child) : Except Raised Int := do
  let timeoutPid ← tell .pid child.pid
  if timeoutPid ≤ 0 then
    .error (Failure.raised ⟨.pid, .valueError ("NSPopen PID must be positive, got " ++ toString timeoutPid)⟩)
  else tell .pidfdOpen calls.pidfdOpen

def targetReply (process : Option Child) : Option (Except Raised Int) := process.map (pidfdReply calls)

/-- The event of a resource, where there is one. -/
def mark (event : Event) (resource : Option α) : List Event :=
  match resource with
  | some _ => [event]
  | none => []

theorem duplicateStdin_yields (inheritStdin : Bool) : Yields (duplicateStdin calls inheritStdin) (stdinReply calls inheritStdin)
    (mark .stdinDuplicated ((stdinReply calls inheritStdin).bind Except.toOption)) := by
  cases inheritStdin with
  | false => exact Yields.pure none
  | true =>
    intro session
    cases replied : calls.stdinDup with
    | ok fd => simp [duplicateStdin, stdinReply, replied, onSuccess, Bind.bind, Action.andThen, Action.attempt, call, tell, mapIssue,
        Pure.pure, Action.done, mark, Except.toOption]
    | error kind => simp [duplicateStdin, stdinReply, replied, onSuccess, Bind.bind, Action.andThen, Action.attempt, call, tell,
        mapIssue, Pure.pure, Action.done, mark, Except.toOption]

theorem startProcess_yields (argv : List String) (options : PopenOptions) (stdin : Option (Except Raised Int)) :
    Yields (startProcess calls netns argv options stdin) (spawnReply calls netns argv options stdin)
      (mark .spawned (spawnReply calls netns argv options stdin).toOption.join) := by
  unfold startProcess spawnReply
  split
  · cases replied : calls.factory netns argv { options with stdin := stdin.bind Except.toOption } with
    | error kind => exact Yields.attempt_call
    | ok process => cases process with
      | none => exact Yields.attempt_call
      | some child => exact Yields.attempt_call
  · exact Yields.pure _

theorem closeStdin_yields (stdin : Option (Except Raised Int)) :
    Yields (closeStdin calls stdin) (closeReply calls stdin) (mark .stdinClosed (stdin.bind Except.toOption)) := by
  unfold closeStdin closeReply
  cases opened : stdin.bind Except.toOption with
  | none => exact Yields.pure _
  | some fd => exact Yields.attempt_call

theorem openPidfd_run (child : Child) (session : Session) : openPidfd calls child session =
    (pidfdReply calls child,
      { session with log := session.log ++ mark .pidfdOpened (pidfdReply calls child).toOption }) := by
  simp only [openPidfd, pidfdReply, Bind.bind, Action.andThen, call]
  cases child.pid with
  | error kind => simp [tell, mapIssue, Except.bind, Except.toOption, mark]
  | ok pid =>
    simp only [tell, mapIssue, Except.bind]
    split
    · simp [Action.raise, Except.toOption, mark]
    · cases calls.pidfdOpen with
      | error kind => simp [call, tell, onSuccess, mapIssue, Except.toOption, mark]
      | ok fd => simp [call, tell, onSuccess, mapIssue, Except.toOption, mark]

theorem openTarget_yields (process : Option Child) : Yields (openTarget calls process) (targetReply calls process)
    (mark .pidfdOpened ((targetReply calls process).bind Except.toOption)) := by
  cases process with
  | none => exact Yields.pure none
  | some child =>
    intro session
    simp [openTarget, Bind.bind, Action.andThen, Action.attempt, openPidfd_run, targetReply, Pure.pure, Action.done]

/-- What a run holds when its body begins. -/
def acquired (argv : List String) (options : PopenOptions) (inheritStdin : Bool) (entry : Finset Nat) : Acquired :=
  let stdin := stdinReply calls inheritStdin
  let spawned := spawnReply calls netns argv options stdin
  let pidfd := targetReply calls spawned.toOption.join
  { previousMask := entry
    process := spawned.toOption.join
    timeoutPidfd := pidfd.bind Except.toOption
    stdinDupError := stdin.bind errorOf
    factoryError := errorOf spawned
    stdinCloseError := errorOf (closeReply calls stdin)
    pidError := pidfd.bind errorOf }

/-- What has happened when the body begins. -/
def acquisitions (argv : List String) (options : PopenOptions) (inheritStdin : Bool) : List Event :=
  let stdin := (stdinReply calls inheritStdin).bind Except.toOption
  let held := acquired calls netns argv options inheritStdin ∅
  mark .stdinDuplicated stdin ++ (mark .spawned held.process ++ (mark .stdinClosed stdin ++ mark .pidfdOpened held.timeoutPidfd))

def MaskReply.takesEffect : MaskReply → Bool
  | .refused _ => false
  | _ => true

theorem gather_yields (argv : List String) (options : PopenOptions) (inheritStdin : Bool) (entry : Finset Nat) :
    Yields (gather calls netns argv options inheritStdin entry) (acquired calls netns argv options inheritStdin entry)
      (acquisitions calls netns argv options inheritStdin) := by
  rw [← List.append_nil (acquisitions calls netns argv options inheritStdin)]
  simp only [acquisitions, List.append_assoc]
  apply (duplicateStdin_yields calls inheritStdin).bind
  apply (startProcess_yields calls netns argv options (stdinReply calls inheritStdin)).bind
  apply (closeStdin_yields calls (stdinReply calls inheritStdin)).bind
  apply (openTarget_yields calls (spawnReply calls netns argv options (stdinReply calls inheritStdin)).toOption.join).bind
  exact Yields.pure _

theorem acquire_run (argv : List String) (options : PopenOptions) (inheritStdin : Bool) (entry : Finset Nat)
    (blocks : calls.firstBlock = .done) : acquire calls netns argv options inheritStdin { mask := entry } =
      (.ok (acquired calls netns argv options inheritStdin entry),
        { mask := entry ∪ execSignals, log := acquisitions calls netns argv options inheritStdin }) := by
  simp only [acquire, blockExecSignals, sigmask, blocks, Action.inspect, Bind.bind, Action.andThen]
  exact gather_yields calls netns argv options inheritStdin entry { mask := entry ∪ execSignals }

theorem acquire_refused (argv : List String) (options : PopenOptions) (inheritStdin : Bool) (entry : Finset Nat)
    (blocks : calls.firstBlock ≠ .done) : ∃ raised, acquire calls netns argv options inheritStdin { mask := entry } =
      (.error raised, { mask := if calls.firstBlock.takesEffect then entry ∪ execSignals else entry }) ∧ raised.notes = [] := by
  simp only [acquire, blockExecSignals, sigmask, Action.inspect, Bind.bind, Action.andThen]
  cases replied : calls.firstBlock with
  | done => exact absurd replied blocks
  | refused kind => exact ⟨_, rfl, rfl⟩
  | interrupted cancellation => exact ⟨_, rfl, rfl⟩

end Acquisition

section Body

variable (calls : Calls) (netns : String)

/-- What a call on the mask replies. -/
def maskTell (site : Site) (reply : MaskReply) : Except Raised Unit :=
  match reply with
  | .done => .ok ()
  | .refused kind => .error (Failure.raised ⟨site, kind⟩)
  | .interrupted cancellation => .error (Failure.raised ⟨site, .cancelled cancellation⟩)

/-- The mask as a call leaves it. -/
def MaskReply.leave (reply : MaskReply) (changed mask : Finset Nat) : Finset Nat := if reply.takesEffect then changed else mask

theorem sigmask_run (site : Site) (reply : MaskReply) (change : Finset Nat → Finset Nat) (session : Session) :
    sigmask site reply change session =
      (maskTell site reply, { session with mask := reply.leave (change session.mask) session.mask }) := by
  cases reply with
  | done => rfl
  | refused kind => rfl
  | interrupted cancellation => rfl

theorem restoreExecSignalMask_run (site : Site) (reply : MaskReply) (previousMask : Finset Nat) (session : Session) :
    restoreExecSignalMask site reply previousMask session = (maskTell site reply,
      { session with mask := reply.leave previousMask session.mask, log := session.log ++ [.restored (decide (reply ≠ .done))] }) := by
  simp only [restoreExecSignalMask, Bind.bind, Action.andThen, Action.modify, sigmask_run]

theorem maskTell_ok {site : Site} {reply : MaskReply} : maskTell site reply = .ok () ↔ reply = .done := by
  cases reply with
  | done => simp [maskTell]
  | refused kind => simp [maskTell]
  | interrupted cancellation => simp [maskTell]

/-- Nothing is left to be raised, and there is a process to be run. -/
structure Acquired.Usable (acquired : Acquired) : Prop where
  stdinDup : acquired.stdinDupError = none
  factory : acquired.factoryError = none
  pid : acquired.pidError = none
  stdinClose : acquired.stdinCloseError = none
  process : acquired.process.isSome = true
  target : acquired.timeoutPidfd.isSome = true

/-- The session when the body has tried to restore the mask. -/
def unblocked (acquired : Acquired) (session : Session) : Session :=
  { session with
    mask := calls.restore.leave acquired.previousMask session.mask
    log := session.log ++ [.restored (decide (calls.restore ≠ .done))]
    signalsBlocked := false
    maskRestoreAttempted := true
    maskRestoreCompleted := session.maskRestoreCompleted || decide (calls.restore = .done) }

/-- A check in front of others: the session stays, and all of them pass or something is raised. -/
theorem raiseSome_bind (error : Option Raised) {rest : Runs Unit} {session : Session} {passes : Prop}
    (run : ∃ reply, rest session = (reply, session) ∧ (reply = .ok () ↔ passes)) :
    ∃ reply, (raiseSome error >>= fun _ => rest) session = (reply, session) ∧ (reply = .ok () ↔ error = none ∧ passes) := by
  cases error with
  | none =>
    obtain ⟨reply, run, passed⟩ := run
    exact ⟨reply, run, by simpa using passed⟩
  | some error => exact ⟨.error error, rfl, by simp⟩

theorem raiseDeferred_run (acquired : Acquired) (session : Session) : ∃ reply,
    raiseDeferred netns acquired session = (reply, session) ∧ (reply = .ok () ↔ acquired.Usable) := by
  have last : ∃ reply, (if acquired.process.isNone then refuse (.runtimeError "NSPopen factory returned no process")
      else if acquired.timeoutPidfd.isNone then refuse (.runtimeError "NSPopen target pidfd is unavailable")
      else pure () : Runs Unit) session = (reply, session) ∧
      (reply = .ok () ↔ acquired.process.isSome = true ∧ acquired.timeoutPidfd.isSome = true) := by
    cases acquired.process with
    | none => exact ⟨_, rfl, by simp⟩
    | some child => cases acquired.timeoutPidfd with
      | none => exact ⟨_, rfl, by simp⟩
      | some fd => exact ⟨.ok (), rfl, by simp⟩
  obtain ⟨reply, run, passed⟩ := raiseSome_bind acquired.stdinDupError
    (raiseSome_bind (acquired.factoryError.map (translateFactoryError netns))
      (raiseSome_bind acquired.pidError (raiseSome_bind acquired.stdinCloseError last)))
  refine ⟨reply, run, passed.trans ?_⟩
  rw [Option.map_eq_none_iff]
  constructor
  · intro holds
    obtain ⟨stdinDup, factory, pid, stdinClose, process, target⟩ := holds
    exact ⟨stdinDup, factory, pid, stdinClose, process, target⟩
  · intro usable
    exact ⟨usable.stdinDup, usable.factory, usable.pid, usable.stdinClose, usable.process, usable.target⟩

theorem restoreSignalMask_run (acquired : Acquired) (session : Session) : ∃ reply,
    restoreSignalMask calls netns acquired session = (reply, unblocked calls acquired session) ∧
      (reply = .ok () ↔ calls.restore = .done ∧ acquired.Usable) := by
  simp only [restoreSignalMask, Bind.bind, Action.andThen, Action.modify, restoreExecSignalMask_run]
  cases replied : calls.restore with
  | done =>
    obtain ⟨reply, run, passed⟩ := raiseDeferred_run netns acquired (unblocked calls acquired session)
    refine ⟨reply, ?_, by simpa using passed⟩
    simpa [unblocked, replied, maskTell] using run
  | refused kind =>
    refine ⟨.error (Failure.raised ⟨.restore, kind⟩), ?_, by simp⟩
    simp [maskTell, unblocked, replied]
  | interrupted cancellation =>
    refine ⟨.error (Failure.raised ⟨.restore, .cancelled cancellation⟩), ?_, by simp⟩
    simp [maskTell, unblocked, replied]

/-- The session when the body has tried to block the signals for the release. -/
def blockedForRelease (session : Session) : Session :=
  let session := { session with mask := calls.releaseBlock.leave (session.mask ∪ execSignals) session.mask }
  if calls.releaseBlock = .done then
    { session with signalsBlocked := true, releaseSignalsBlocked := true, log := session.log ++ [.releaseBlocked] }
  else session

/-- The body gets to the block of the signals for the release. -/
structure Reaches (acquired : Acquired) : Prop where
  restored : calls.restore = .done
  usable : acquired.Usable
  communicates : ∀ child, acquired.process = some child → ∃ output, child.communicate = .ok output
  returns : ∀ child, acquired.process = some child → ∃ returncode, child.returncode = .ok returncode

theorem blockReleaseSignals_run (session : Session) : ∃ reply,
    blockReleaseSignals calls session = (reply, blockedForRelease calls session) ∧ (reply = .ok () ↔ calls.releaseBlock = .done) := by
  simp only [blockReleaseSignals, blockExecSignals, Bind.bind, Action.andThen, sigmask_run]
  cases replied : calls.releaseBlock with
  | done => exact ⟨.ok (), by simp [maskTell, blockedForRelease, replied, Action.modify], by simp⟩
  | refused kind =>
    refine ⟨.error (Failure.raised ⟨.releaseBlock, kind⟩), ?_, by simp⟩
    simp [maskTell, blockedForRelease, replied]
  | interrupted cancellation =>
    refine ⟨.error (Failure.raised ⟨.releaseBlock, .cancelled cancellation⟩), ?_, by simp⟩
    simp [maskTell, blockedForRelease, replied]

/-- A body either stops before the block for the release, or gets to it. -/
theorem executeBody_run (acquired : Acquired) (session : Session) : ∃ reply after,
    executeBody acquired.process (restoreSignalMask calls netns acquired) (blockReleaseSignals calls) session = (reply, after) ∧
      ((Reaches calls acquired ∧ after = blockedForRelease calls (unblocked calls acquired session) ∧
          ((∃ value, reply = .ok value) ↔ calls.releaseBlock = .done)) ∨
        (¬ Reaches calls acquired ∧ after = unblocked calls acquired session ∧ ∃ error, reply = .error error)) := by
  obtain ⟨reply, run, passed⟩ := restoreSignalMask_run calls netns acquired session
  simp only [executeBody, Bind.bind, Action.andThen, run]
  cases reply with
  | error error =>
    refine ⟨_, _, rfl, Or.inr ⟨?_, rfl, error, rfl⟩⟩
    intro reaches
    cases passed.mpr ⟨reaches.restored, reaches.usable⟩
  | ok done =>
    obtain ⟨restored, usable⟩ := passed.mp rfl
    obtain ⟨child, held⟩ := Option.isSome_iff_exists.mp usable.process
    rw [held]
    simp only [Action.andThen, call]
    cases communicated : child.communicate with
    | error kind =>
      refine ⟨.error (Failure.raised ⟨.communicate, kind⟩), unblocked calls acquired session, ?_, Or.inr ⟨?_, rfl, _, rfl⟩⟩
      · simp [tell, mapIssue]
      intro reaches
      obtain ⟨output, told⟩ := reaches.communicates child held
      rw [communicated] at told
      cases told
    | ok output =>
      cases returned : child.returncode with
      | error kind =>
        refine ⟨.error (Failure.raised ⟨.returncode, kind⟩), unblocked calls acquired session, ?_, Or.inr ⟨?_, rfl, _, rfl⟩⟩
        · simp [tell, mapIssue]
        intro reaches
        obtain ⟨returncode, told⟩ := reaches.returns child held
        rw [returned] at told
        cases told
      | ok returncode =>
        have reaches : Reaches calls acquired := by
          refine ⟨restored, usable, ?_, ?_⟩
          · intro other same
            cases held.symm.trans same
            exact ⟨output, communicated⟩
          · intro other same
            cases held.symm.trans same
            exact ⟨returncode, returned⟩
        obtain ⟨reply, run, passed⟩ := blockReleaseSignals_run calls (unblocked calls acquired session)
        simp only [tell, mapIssue, List.append_nil, run]
        cases reply with
        | ok done => exact ⟨_, _, rfl, Or.inl ⟨reaches, rfl, by simpa using passed⟩⟩
        | error error => exact ⟨_, _, rfl, Or.inl ⟨reaches, rfl, by simpa using passed⟩⟩

end Body

section Cleanup

variable (calls : Calls)

/-- What is noted of a reply. -/
def notes (label : String) (reply : Except Raised Unit) : List (String × Failure) :=
  (errorOf reply).toList.map fun error => (label, error.toFailure)

theorem noting_run (label : String) (action : Runs Unit) (session : Session) :
    noting label action session = (.ok (notes label (action session).1), (action session).2) := rfl

def signalReply (child : Child) (timeoutPidfd : Option Int) : Except Raised Unit :=
  match timeoutPidfd, calls.signal with
  | none, _ => tell .signal child.terminate
  | some _, .error (.lookupError _) => .ok ()
  | some _, reply => tell .signal reply

theorem signalExecTarget_run (child : Child) (fd : Int) (selected : Nat) (session : Session) :
    signalExecTarget calls selected session =
      (signalReply calls child (some fd), { session with log := session.log ++ [.signalled selected] }) := by
  simp only [signalExecTarget, Action.recover, call]
  cases replied : calls.signal with
  | ok done => simp [tell, mapIssue, signalReply, replied]
  | error kind => cases kind with
    | lookupError number => simp [tell, mapIssue, signalReply, replied, Failure.raised, Pure.pure, Action.done]
    | _ => simp [tell, mapIssue, signalReply, replied, Failure.raised, Action.raise]

def signalNotes (child : Child) (timeoutPidfd : Option Int) (selected : Option Nat) : List (String × Failure) :=
  match selected with
  | some _ => notes "exec target termination" (signalReply calls child timeoutPidfd)
  | none => []

def signalEvents (timeoutPidfd : Option Int) (selected : Option Nat) : List Event :=
  match selected with
  | some signal => [.signalled (if timeoutPidfd.isSome then signal else sigterm)]
  | none => []

def closeNotes (timeoutPidfd : Option Int) : List (String × Failure) :=
  match timeoutPidfd with
  | some _ => notes "exec pidfd close" (tell .pidfdClose calls.pidfdClose)
  | none => []

theorem cleanupExecProcess_yields (child : Child) (timeoutPidfd : Option Int) (selected : Option Nat) :
    Yields (cleanupExecProcess calls child timeoutPidfd selected)
      (signalNotes calls child timeoutPidfd selected ++ notes "NSPopen release" (tell .release child.release) ++
        closeNotes calls timeoutPidfd)
      (signalEvents timeoutPidfd selected ++ ([.released] ++ mark .pidfdClosed timeoutPidfd)) := by
  have released : Yields (noting "NSPopen release" (call .release child.release [.released]))
      (notes "NSPopen release" (tell .release child.release)) [.released] := fun _ => rfl
  unfold cleanupExecProcess
  rw [← List.append_nil (mark .pidfdClosed timeoutPidfd)]
  refine Yields.bind (show Yields _ (signalNotes calls child timeoutPidfd selected) (signalEvents timeoutPidfd selected) from ?_)
    (released.bind (Yields.bind (show Yields _ (closeNotes calls timeoutPidfd) _ from ?_) (Yields.pure _)))
  · cases selected with
    | none => exact Yields.pure []
    | some signal => cases timeoutPidfd with
      | none => exact fun _ => rfl
      | some fd =>
        intro session
        simp only [noting_run, signalExecTarget_run calls child fd]
        rfl
  · cases timeoutPidfd with
    | none => exact Yields.pure []
    | some fd => exact fun _ => rfl

/-- The session when the signals are to be blocked for the cleanup. -/
def blockedForCleanup (session : Session) : Session :=
  if session.signalsBlocked then session
  else { session with
    mask := calls.cleanupBlock.leave (session.mask ∪ execSignals) session.mask
    signalsBlocked := decide (calls.cleanupBlock = .done) }

def Ending.blocked (ending : Ending) (session : Session) : Ending :=
  if session.signalsBlocked then ending else ending.absorb "exec signal block" (maskTell .cleanupBlock calls.cleanupBlock)

theorem blockForCleanup_run (ending : Ending) (session : Session) : blockForCleanup calls ending session =
    (.ok (ending.blocked calls session), blockedForCleanup calls session) := by
  obtain ⟨mask, log, signalsBlocked, attempted, completed, releaseBlocked⟩ := session
  cases signalsBlocked with
  | true => rfl
  | false =>
    simp only [blockForCleanup, Bind.bind, Action.andThen, Action.inspect, if_true, Action.attempt, blockExecSignals, sigmask_run,
      Ending.blocked, blockedForCleanup]
    cases calls.cleanupBlock with
    | done => rfl
    | refused kind => rfl
    | interrupted cancellation => rfl

/-- What is left to be raised when the process has been released. -/
def Ending.released (ending : Ending) (acquired : Acquired) (session : Session) : Ending :=
  match acquired.process with
  | none => ending
  | some child =>
    let blocked := ending.blocked calls session
    let selected := selectSignal blocked (blockedForCleanup calls session)
    { blocked with failures := blocked.failures ++ (signalNotes calls child acquired.timeoutPidfd selected ++
        notes "NSPopen release" (tell .release child.release) ++ closeNotes calls acquired.timeoutPidfd) }

/-- The session when the process has been released. -/
def releasedSession (acquired : Acquired) (ending : Ending) (session : Session) : Session :=
  match acquired.process with
  | none => session
  | some _ =>
    let selected := selectSignal (ending.blocked calls session) (blockedForCleanup calls session)
    { blockedForCleanup calls session with
      log := session.log ++ (signalEvents acquired.timeoutPidfd selected ++ ([.released] ++ mark .pidfdClosed acquired.timeoutPidfd)) }

theorem blockedForCleanup_log (session : Session) : (blockedForCleanup calls session).log = session.log := by
  unfold blockedForCleanup
  split
  · rfl
  · rfl

theorem releaseProcess_run (acquired : Acquired) (ending : Ending) (session : Session) :
    releaseProcess calls acquired ending session =
      (.ok (ending.released calls acquired session), releasedSession calls acquired ending session) := by
  unfold releaseProcess Ending.released releasedSession
  cases acquired.process with
  | none => rfl
  | some child =>
    simp only [Bind.bind, Action.andThen, blockForCleanup_run, Action.inspect]
    rw [cleanupExecProcess_yields]
    simp only [Pure.pure, Action.done, blockedForCleanup_log]

/-- The mask is to be restored once more. -/
def Session.unsettled (session : Session) : Prop := session.signalsBlocked = true ∨ session.maskRestoreCompleted = false

instance (session : Session) : Decidable session.unsettled := inferInstanceAs (Decidable (_ ∨ _))

def Ending.last (ending : Ending) (session : Session) : Ending :=
  if session.unsettled then ending.absorb "exec signal mask restoration" (maskTell .lastRestore calls.lastRestore) else ending

def lastSession (acquired : Acquired) (session : Session) : Session :=
  if session.unsettled then { session with
    mask := calls.lastRestore.leave acquired.previousMask session.mask
    log := session.log ++ [.restored (decide (calls.lastRestore ≠ .done))]
    signalsBlocked := false }
  else session

theorem restoreLast_run (acquired : Acquired) (ending : Ending) (session : Session) :
    restoreLast calls acquired ending session = (.ok (ending.last calls session), lastSession calls acquired session) := by
  simp only [restoreLast, Bind.bind, Action.andThen, Action.inspect, Ending.last, lastSession]
  by_cases unsettled : session.signalsBlocked = true ∨ session.maskRestoreCompleted = false
  · have again : session.unsettled := unsettled
    simp only [if_pos unsettled, if_pos again, Action.andThen, Action.modify, Action.attempt, restoreExecSignalMask_run, Pure.pure,
      Action.done]
  · have finished : ¬ session.unsettled := unsettled
    simp only [if_neg unsettled, if_neg finished, Pure.pure, Action.done]

theorem restoreEarly_run (acquired : Acquired) (ending : Ending) {session : Session}
    (attempted : session.maskRestoreAttempted = true) : restoreEarly calls acquired ending session = (.ok ending, session) := by
  simp [restoreEarly, Bind.bind, Action.andThen, Action.inspect, attempted, Pure.pure, Action.done]

/-- How a run ends: its error, or nothing. -/
def Ending.outcome (ending : Ending) : Except Raised Unit :=
  match ending.bodyError with
  | some error =>
    let replaced := ending.replacementCause.filter fun cause => cause.site ≠ error.site
    .error { error.annotate ending.failures with cause := (replaced.map Raised.toFailure).or error.cause }
  | none => match ending.failures with
    | [] => .ok ()
    | (_, primary) :: secondary => .error (primary.raised.annotate secondary)

theorem conclude_run (ending : Ending) (session : Session) : conclude ending session = (ending.outcome, session) := by
  unfold conclude Ending.outcome
  cases ending.bodyError with
  | some error => rfl
  | none => cases ending.failures with
    | nil => rfl
    | cons first secondary => rfl

/-- What follows a body that has tried to restore the mask. -/
theorem settle_run {α : Type} (acquired : Acquired) (reply : Except Raised α) {session : Session}
    (attempted : session.maskRestoreAttempted = true) :
    let started := begin acquired reply session
    let released := releasedSession calls acquired started session
    settle calls acquired reply session =
      (((started.released calls acquired session).last calls released).outcome, lastSession calls acquired released) := by
  simp only [settle, Bind.bind, Action.andThen, Action.inspect, restoreEarly_run calls acquired _ attempted, releaseProcess_run,
    restoreLast_run, conclude_run]

end Cleanup

end Exec

end Nslab
