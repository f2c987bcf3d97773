import Mathlib.Data.Finset.Insert
import Mathlib.Data.Finset.Lattice.Basic
import Nslab.Errors
import Nslab.Library.Action
import Nslab.Library.Checks

/-! Running a command in a namespace: a child process, its descriptors and the signal
mask, acquired and released around the calls that can fail. -/

namespace Nslab

namespace Exec

section Failures

inductive Cancellation where
  | keyboardInterrupt
  | operationCancelled
deriving DecidableEq

/-- Exceptions as the code tells them apart. -/
inductive Kind where
  | cancelled (cancellation : Cancellation)
  | netlinkError (code : Option Int)
  | lookupError (errno : Option Int)
  | osError (errno : Option Int)
  | nslabError (error : NslabError)
  | valueError (text : String)
  | runtimeError (text : String)
  | other (text : String)
deriving DecidableEq

/-- Where an exception comes from, which tells exceptions of one run apart. -/
inductive Site where
  | firstBlock | stdinDup | factory | stdinClose | pid | pidfdOpen | restore | check | communicate | returncode | releaseBlock
  | earlyRestore | cleanupBlock | signal | release | pidfdClose | lastRestore
deriving DecidableEq

structure Failure where
  site : Site
  kind : Kind
deriving DecidableEq

/-- An exception with its cause and the failures that are noted on it. -/
structure Raised extends Failure where
  cause : Option Failure := none
  notes : List (String × Failure) := []
deriving DecidableEq

def Failure.raised (failure : Failure) : Raised := { failure with }

def Kind.cancels : Kind → Bool
  | .cancelled _ => true
  | _ => false

/-- `error.add_note` for each of the failures. -/
def Raised.annotate (raised : Raised) (failures : List (String × Failure)) : Raised :=
  { raised with notes := raised.notes ++ failures }

def eexist : Int := 17

def absentErrnos : List Int := [2, 19, 6, 3]

def translateErrno (number : Option Int) (operation resource : String) : NslabError :=
  let normalized := number.map fun errno => (errno.natAbs : Int)
  let (code, message) :=
    if normalized = some eexist then ("RESOURCE_EXISTS", "network resource already exists: " ++ resource)
    else if normalized.any (· ∈ absentErrnos) then ("RESOURCE_MISSING", "network resource is missing: " ++ resource)
    else ("NETLINK_ERROR", "netlink operation failed for network resource: " ++ resource)
  { code, message, details := [("errno", (normalized.map Document.int).getD .null), ("operation", .str operation),
      ("resource", .str resource)] }

end Failures

section Calls

def sigint : Nat := 2

def sigterm : Nat := 15

def execSignals : Finset Nat := {sigint, sigterm}

/-- What comes of a call that changes the signal mask. A pending cancellation is raised when the mask is already changed. -/
inductive MaskReply where
  | done
  | refused (kind : Kind)
  | interrupted (cancellation : Cancellation)
deriving DecidableEq

structure PopenOptions where
  captureOutput : Bool
  stdin : Option Int := none

/-- A child process: what comes of using it. -/
structure Child where
  pid : Except Kind Int
  communicate : Except Kind (Option String × Option String)
  returncode : Except Kind Int
  terminate : Except Kind Unit
  release : Except Kind Unit

/-- What comes of each of the calls. The factory may also return no process. -/
structure Calls where
  firstBlock : MaskReply
  stdinDup : Except Kind Int
  factory : String → List String → PopenOptions → Except Kind (Option Child)
  stdinClose : Except Kind Unit
  pidfdOpen : Except Kind Int
  restore : MaskReply
  releaseBlock : MaskReply
  earlyRestore : MaskReply
  cleanupBlock : MaskReply
  signal : Except Kind Unit
  pidfdClose : Except Kind Unit
  lastRestore : MaskReply

/-- What a run does to processes, descriptors and the mask. -/
inductive Event where
  | stdinDuplicated
  | stdinClosed
  | spawned
  | released
  | pidfdOpened
  | pidfdClosed
  | signalled (signal : Nat)
  | restored (failed : Bool)
  | releaseBlocked
deriving DecidableEq

structure Session where
  mask : Finset Nat
  log : List Event := []
  signalsBlocked : Bool := true
  maskRestoreAttempted : Bool := false
  maskRestoreCompleted : Bool := false
  releaseSignalsBlocked : Bool := false

abbrev Runs (α : Type) := Action Session Raised α

/-- The reply to a call, with the exception that it raises. -/
def tell {α : Type} (site : Site) (reply : Except Kind α) : Except Raised α :=
  Checks.mapIssue (fun kind => Failure.raised ⟨site, kind⟩) reply

/-- A call with the events that it makes happen. -/
def call {α : Type} (site : Site) (reply : Except Kind α) (events : List Event) : Runs α := fun session =>
  (tell site reply, { session with log := session.log ++ events })

/-- `signal.pthread_sigmask`. -/
def sigmask (site : Site) (reply : MaskReply) (change : Finset Nat → Finset Nat) : Runs Unit := fun session =>
  match reply with
  | .done => (.ok (), { session with mask := change session.mask })
  | .refused kind => (.error (Failure.raised ⟨site, kind⟩), session)
  | .interrupted cancellation =>
    (.error (Failure.raised ⟨site, .cancelled cancellation⟩), { session with mask := change session.mask })

def blockExecSignals (site : Site) (reply : MaskReply) : Runs Unit := sigmask site reply (· ∪ execSignals)

def restoreExecSignalMask (site : Site) (reply : MaskReply) (previousMask : Finset Nat) : Runs Unit := do
  Action.modify fun session => { session with log := session.log ++ [.restored (decide (reply ≠ .done))] }
  sigmask site reply fun _ => previousMask

def refuse {α : Type} (kind : Kind) : Runs α := Action.raise (Failure.raised ⟨.check, kind⟩)

def errorOf {ε α : Type} : Except ε α → Option ε
  | .error issue => some issue
  | .ok _ => none

/-- `raise error`, where there is one. -/
def raiseSome (error : Option Raised) : Runs Unit :=
  match error with
  | some error => Action.raise error
  | none => pure ()

/-- What an action raises, as a failure of the cleanup. -/
def noting (label : String) (action : Runs Unit) : Runs (List (String × Failure)) := do
  let reply ← Action.attempt action
  pure ((errorOf reply).toList.map fun error => (label, error.toFailure))

end Calls

section Program

variable (calls : Calls) (netns : String)

/-- What a run holds before its body begins, with the errors that are raised later. -/
structure Acquired where
  previousMask : Finset Nat
  process : Option Child
  timeoutPidfd : Option Int
  stdinDupError : Option Raised
  factoryError : Option Raised
  stdinCloseError : Option Raised
  pidError : Option Raised

/-- The events of a call that happen only where it succeeds. -/
def onSuccess {α : Type} (reply : Except Kind α) (event : Event) : List Event :=
  match reply with
  | .ok _ => [event]
  | .error _ => []

def duplicateStdin (inheritStdin : Bool) : Runs (Option (Except Raised Int)) :=
  if inheritStdin then do
    let reply ← Action.attempt (call .stdinDup calls.stdinDup (onSuccess calls.stdinDup .stdinDuplicated))
    pure (some reply)
  else pure none

def spawnedEvents (reply : Except Kind (Option Child)) : List Event :=
  match reply with
  | .ok (some _) => [.spawned]
  | _ => []

def startProcess (argv : List String) (options : PopenOptions) (stdin : Option (Except Raised Int)) :
    Runs (Except Raised (Option Child)) :=
  if (stdin.bind errorOf).isNone then
    let reply := calls.factory netns argv { options with stdin := stdin.bind Except.toOption }
    Action.attempt (call .factory reply (spawnedEvents reply))
  else pure (.ok none)

def closeStdin (stdin : Option (Except Raised Int)) : Runs (Except Raised Unit) :=
  if (stdin.bind Except.toOption).isSome then Action.attempt (call .stdinClose calls.stdinClose [.stdinClosed])
  else pure (.ok ())

def openPidfd (child : Child) : Runs Int := do
  let timeoutPid ← call .pid child.pid []
  if timeoutPid ≤ 0 then
    Action.raise (Failure.raised ⟨.pid, .valueError ("NSPopen PID must be positive, got " ++ toString timeoutPid)⟩)
  else call .pidfdOpen calls.pidfdOpen (onSuccess calls.pidfdOpen .pidfdOpened)

def openTarget (process : Option Child) : Runs (Option (Except Raised Int)) :=
  match process with
  | some child => do
    let reply ← Action.attempt (openPidfd calls child)
    pure (some reply)
  | none => pure none

/-- The descriptors and the process. What fails here is raised later. -/
def gather (argv : List String) (options : PopenOptions) (inheritStdin : Bool) (previousMask : Finset Nat) : Runs Acquired := do
  let stdin ← duplicateStdin calls inheritStdin
  let spawned ← startProcess calls netns argv options stdin
  let stdinClose ← closeStdin calls stdin
  let pidfd ← openTarget calls spawned.toOption.join
  pure {
    previousMask
    process := spawned.toOption.join
    timeoutPidfd := pidfd.bind Except.toOption
    stdinDupError := stdin.bind errorOf
    factoryError := errorOf spawned
    stdinCloseError := errorOf stdinClose
    pidError := pidfd.bind errorOf }

/-- The mask, the descriptors and the process. -/
def acquire (argv : List String) (options : PopenOptions) (inheritStdin : Bool) : Runs Acquired := do
  let previousMask ← Action.inspect fun session => .ok session.mask
  blockExecSignals .firstBlock calls.firstBlock
  gather calls netns argv options inheritStdin previousMask

/-- The error of the factory as it is raised. -/
def translateFactoryError (error : Raised) : Raised :=
  match error.kind with
  | .netlinkError number | .osError number | .lookupError number =>
    { site := .check, kind := .nslabError (translateErrno number "execute" netns), cause := some error.toFailure }
  | _ => error

/-- What went wrong before the body began. -/
def raiseDeferred (acquired : Acquired) : Runs Unit := do
  raiseSome acquired.stdinDupError
  raiseSome (acquired.factoryError.map (translateFactoryError netns))
  raiseSome acquired.pidError
  raiseSome acquired.stdinCloseError
  if acquired.process.isNone then refuse (.runtimeError "NSPopen factory returned no process")
  else if acquired.timeoutPidfd.isNone then refuse (.runtimeError "NSPopen target pidfd is unavailable")
  else pure ()

def restoreSignalMask (acquired : Acquired) : Runs Unit := do
  Action.modify fun session => { session with maskRestoreAttempted := true, signalsBlocked := false }
  restoreExecSignalMask .restore calls.restore acquired.previousMask
  Action.modify fun session => { session with maskRestoreCompleted := true }
  raiseDeferred netns acquired

def blockReleaseSignals : Runs Unit := do
  blockExecSignals .releaseBlock calls.releaseBlock
  Action.modify fun session =>
    { session with signalsBlocked := true, releaseSignalsBlocked := true, log := session.log ++ [.releaseBlocked] }

/-- What is to be raised in the end: an error, the error that it replaces, and the failures of the cleanup. -/
structure Ending where
  bodyError : Option Raised
  replacementCause : Option Raised := none
  failures : List (String × Failure)

/-- A cancellation takes the place of the error; anything else that the mask raises is noted. -/
def Ending.absorb (ending : Ending) (label : String) (reply : Except Raised Unit) : Ending :=
  match reply with
  | .ok () => ending
  | .error raised =>
    if raised.kind.cancels then
      { ending with bodyError := some raised, replacementCause := ending.bodyError.or ending.replacementCause }
    else { ending with failures := ending.failures ++ [(label, raised.toFailure)] }

def signalExecTarget (selected : Nat) : Runs Unit :=
  Action.recover (call .signal calls.signal [.signalled selected]) fun error =>
    match error.kind with
    | .lookupError _ => pure ()
    | _ => Action.raise error

def cleanupExecProcess (child : Child) (timeoutPidfd : Option Int) (selectedSignal : Option Nat) :
    Runs (List (String × Failure)) := do
  let terminated ← (match selectedSignal with
    | some selected => noting "exec target termination" (match timeoutPidfd with
      | none => call .signal child.terminate [.signalled sigterm]
      | some _ => signalExecTarget calls selected)
    | none => pure [] : Runs (List (String × Failure)))
  let released ← noting "NSPopen release" (call .release child.release [.released])
  let closed ← (match timeoutPidfd with
    | some _ => noting "exec pidfd close" (call .pidfdClose calls.pidfdClose [.pidfdClosed])
    | none => pure [] : Runs (List (String × Failure)))
  pure (terminated ++ released ++ closed)

/-- The restoration of the mask where the body has failed without trying it. -/
def restoreEarly (acquired : Acquired) (ending : Ending) : Runs Ending := do
  let session ← Action.inspect .ok
  if ending.bodyError.isSome ∧ session.maskRestoreAttempted = false then do
    Action.modify fun session => { session with signalsBlocked := false }
    let reply ← Action.attempt (restoreExecSignalMask .earlyRestore calls.earlyRestore acquired.previousMask)
    Action.modify fun session => { session with maskRestoreCompleted := session.maskRestoreCompleted || (errorOf reply).isNone }
    pure (ending.absorb "exec signal mask restoration" reply)
  else pure ending

def blockForCleanup (ending : Ending) : Runs Ending := do
  let session ← Action.inspect .ok
  if session.signalsBlocked = false then do
    let reply ← Action.attempt (blockExecSignals .cleanupBlock calls.cleanupBlock)
    Action.modify fun session => { session with signalsBlocked := session.signalsBlocked || (errorOf reply).isNone }
    pure (ending.absorb "exec signal block" reply)
  else pure ending

/-- The signal that ends the target: none is sent once the body has blocked the signals for the release. -/
def selectSignal (ending : Ending) (session : Session) : Option Nat :=
  if session.releaseSignalsBlocked then none
  else ending.bodyError.map fun error => if error.kind = .cancelled .keyboardInterrupt then sigint else sigterm

def releaseProcess (acquired : Acquired) (ending : Ending) : Runs Ending :=
  match acquired.process with
  | none => pure ending
  | some child => do
    let ending ← blockForCleanup calls ending
    let session ← Action.inspect .ok
    let failures ← cleanupExecProcess calls child acquired.timeoutPidfd (selectSignal ending session)
    pure { ending with failures := ending.failures ++ failures }

def restoreLast (acquired : Acquired) (ending : Ending) : Runs Ending := do
  let session ← Action.inspect .ok
  if session.signalsBlocked = true ∨ session.maskRestoreCompleted = false then do
    Action.modify fun session => { session with signalsBlocked := false }
    let reply ← Action.attempt (restoreExecSignalMask .lastRestore calls.lastRestore acquired.previousMask)
    pure (ending.absorb "exec signal mask restoration" reply)
  else pure ending

/-- The end of a run: its error, or else the first failure of the cleanup. -/
def conclude (ending : Ending) : Runs Unit :=
  match ending.bodyError with
  | some error =>
    let replaced := ending.replacementCause.filter fun cause => cause.site ≠ error.site
    Action.raise { error.annotate ending.failures with cause := (replaced.map Raised.toFailure).or error.cause }
  | none => match ending.failures with
    | [] => pure ()
    | (_, primary) :: secondary => Action.raise (primary.raised.annotate secondary)

/-- What the body has left to be raised. -/
def begin {α : Type} (acquired : Acquired) (reply : Except Raised α) (session : Session) : Ending :=
  let bodyError := match reply with
    | .error error => some error
    | .ok _ =>
      if session.releaseSignalsBlocked then none
      else some (Failure.raised ⟨.check, .runtimeError "exec release signals were not blocked"⟩)
  let unraised := acquired.stdinCloseError.filter fun error => (bodyError.map fun error => error.site) ≠ some error.site
  { bodyError, failures := unraised.toList.map fun error => ("exec stdin fd close", error.toFailure) }

/-- What follows the body. -/
def settle {α : Type} (acquired : Acquired) (reply : Except Raised α) : Runs Unit := do
  let session ← Action.inspect .ok
  let ending ← restoreEarly calls acquired (begin acquired reply session)
  let ending ← releaseProcess calls acquired ending
  let ending ← restoreLast calls acquired ending
  conclude ending

/-- A body run with a child process. -/
def spawnNspopen {α : Type} (argv : List String) (options : PopenOptions) (inheritStdin : Bool)
    (body : Option Child → Runs Unit → Runs Unit → Runs α) : Runs α := do
  let acquired ← acquire calls netns argv options inheritStdin
  let reply ← Action.attempt (body acquired.process (restoreSignalMask calls netns acquired) (blockReleaseSignals calls))
  settle calls acquired reply
  match reply with
  | .ok value => pure value
  | .error error => Action.raise error

structure ExecResult where
  argv : List String
  returncode : Int
  stdout : String
  stderr : String
deriving DecidableEq

def executeBody (process : Option Child) (restore block : Runs Unit) : Runs ((Option String × Option String) × Int) := do
  restore
  match process with
  | none => refuse (.other "'NoneType' object has no attribute 'communicate'")
  | some child => do
    let output ← call .communicate child.communicate []
    let returncode ← call .returncode child.returncode []
    block
    pure (output, returncode)

def command (argv : List String) : List String :=
  ["/usr/bin/timeout", "--foreground", "--kill-after=1s", "--", "0"] ++ argv

def execute (argv : List String) (captureOutput : Bool) : Runs ExecResult := do
  let ((stdout, stderr), returncode) ←
    spawnNspopen calls netns (command argv) { captureOutput } (!captureOutput) executeBody
  pure { argv, returncode, stdout := stdout.getD "", stderr := stderr.getD "" }

end Program

end Exec

end Nslab
