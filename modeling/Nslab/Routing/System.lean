import Nslab.Library.Action
import Nslab.Routing.Artifacts

/-! The calls that the runtime makes. The daemons act on the files between any two
of them, and any call on files or processes can fail. -/

namespace Nslab

/-- What the code raises. An error of its own tells the failed call that caused it. -/
inductive Raised where
  | nslab (error : NslabError) (cause : Option OSError)
  | os (error : OSError)
  | value (text : String)
deriving DecidableEq

/-- Whether something belongs to another configuration, or to nobody. -/
def conflicts : Except Raised Unit → Bool
  | .error (.nslab error _) => error.code = "ROUTING_RUNTIME_CONFLICT"
  | _ => false

/-- What comes of a signal. -/
inductive SignalReply where
  | delivered
  | lookupError
  | refused
deriving DecidableEq

structure Account where
  name : String
  uid : Int
  gid : Int

structure Group where
  gid : Int
  members : List String

/-- What surrounds a run. All that can change in time is told for the number of calls made before. -/
structure Host where
  fails : Nat → Option OSError := fun _ => none
  /-- What a removal that fails has chosen to remove. -/
  torn : Nat → RuntimePath → Bool := fun _ _ => false
  /-- The entries that running daemons write and remove. -/
  daemons : Nat → List (RuntimePath × Option (Entry RuntimeTree)) := fun _ => []
  pid : Nat → List String → Int
  pidExists : Nat → Int → Bool := fun _ _ => false
  returncode : Nat → Int → Option Int := fun _ _ => none
  killpg : Nat → Int → SignalReply := fun _ _ => .delivered
  binary : String → Option String
  geteuid : Int
  getpwnam : String → Option Account
  getgrnam : String → Option Group
  /-- `json.load`, nothing where it raises. -/
  loads : String → Option Document

structure World where
  files : RuntimeFiles
  clock : Nat := 0
  /-- The daemons that the current start has started. -/
  started : List Int := []
  /-- The entries that calls have removed. -/
  removed : List RuntimePath := []
  signalled : List Int := []
  /-- The files that the first failed call left. -/
  failure : Option RuntimeFiles := none

/-- The entries that are gone. -/
def vanished (before after : RuntimeFiles) : List RuntimePath := before.entries.keys.filter fun path => !after.lexists path

/-- The world with other files. -/
def World.change (world : World) (files : RuntimeFiles) : World :=
  { world with files, removed := world.removed ++ vanished world.files files }

abbrev Runs (α : Type) := Action World Raised α

namespace Host

variable (host : Host) {α : Type}

/-- An entry that a daemon writes or removes, where that is possible. -/
def applyChange (files : RuntimeFiles) : RuntimePath × Option (Entry RuntimeTree) → RuntimeFiles
  | (path, some entry) => files.place path entry
  | (path, none) => files.remove path

/-- The files after the daemons have acted. -/
def act (clock : Nat) (files : RuntimeFiles) : RuntimeFiles := (host.daemons clock).foldl applyChange files

/-- The daemons act, and a call begins. -/
def tick (world : World) : World := { world with files := host.act world.clock world.files, clock := world.clock + 1 }

/-- A call on files or processes. When it fails, `torn` is what it leaves. -/
def call (effect : RuntimeFiles → Except OSError (α × RuntimeFiles)) (torn : RuntimeFiles → RuntimeFiles := id) : Runs α :=
  fun world =>
    let ready := host.tick world
    match host.fails world.clock with
    | some error =>
      (.error (.os error), { ready.change (torn ready.files) with failure := some (world.failure.getD (torn ready.files)) })
    | none => match effect ready.files with
      | .error error => (.error (.os error), ready)
      | .ok (value, files) => (.ok value, ready.change files)

/-- A call without a result. -/
def perform (effect : RuntimeFiles → Except OSError RuntimeFiles) : Runs Unit := host.call fun files => (effect files).map ((), ·)

/-- A question about processes. -/
def observe (reply : Nat → α) : Runs α := fun world => (.ok (reply world.clock), host.tick world)

/-- A signal to a process or to its group. -/
def signal (reply : Nat → SignalReply) (pid : Int) : Runs SignalReply := fun world =>
  (.ok (reply world.clock), { host.tick world with signalled := world.signalled ++ [pid] })

def mkdir (path : RuntimePath) : Runs Unit := host.perform (·.mkdir path)

def chmod (path : RuntimePath) : Runs Unit := host.perform (·.chmod path)

def chown (path : RuntimePath) : Runs Unit := host.perform (·.chmod path)

def mkstemp (directory : RuntimePath) (start : String) : Runs RuntimePath := host.call (·.mkstemp directory start)

/-- A step on an open file that changes none of the entries. -/
def handle : Runs Unit := host.perform .ok

def write (path : RuntimePath) (text : String) : Runs Unit := host.perform (·.write path text)

def replace (source target : RuntimePath) : Runs Unit := host.perform (·.replace source target)

def unlink (path : RuntimePath) : Runs Unit := host.perform (·.unlink path)

def openAppend (path : RuntimePath) : Runs Unit := host.perform (·.openAppend path)

/-- Starting a process; its identifier. -/
def popen (arguments : List String) : Runs Int := fun world =>
  host.call (fun files => .ok (host.pid world.clock arguments, files)) id world

/-- A removal that fails leaves what it has not chosen. -/
def rmtree (path : RuntimePath) : Runs Unit := fun world =>
  host.call (fun files => (files.rmtree path).map ((), ·)) (·.prune path (host.torn world.clock)) world

end Host

section Control

variable {α : Type}

/-- What can be read off the files. -/
def look (read : RuntimeFiles → α) : Runs α := Action.inspect fun world => .ok (read world.files)

/-- A check of the files. -/
def check (validate : RuntimeFiles → Except NslabError α) : Runs α :=
  Action.inspect fun world => Checks.mapIssue (Raised.nslab · none) (validate world.files)

def fail (error : NslabError) : Runs α := Action.raise (.nslab error none)

/-- `if bad: raise error`. -/
def refuseIf (bad : RuntimeFiles → Bool) (error : NslabError) : Runs Unit :=
  check fun files => Checks.raiseIf (bad files = true) error

/-- `except OSError as error: raise translate(error) from error`. -/
def raisingFrom (translate : OSError → NslabError) (action : Runs α) : Runs α :=
  Action.recover action fun
    | .os error => Action.raise (.nslab (translate error) (some error))
    | raised => Action.raise raised

/-- `with suppress(OSError): action`. -/
def suppressing (action : Runs Unit) : Runs Unit :=
  Action.recover action fun
    | .os _ => pure ()
    | raised => Action.raise raised

end Control

end Nslab
