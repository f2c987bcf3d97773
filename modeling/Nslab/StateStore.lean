import Nslab.Library.Action
import Nslab.Library.JsonReader
import Nslab.State

/-! Snapshots in files: a save writes a temporary file and puts it in the place of the
old one. Every call on files can fail, before or after it takes effect. -/

namespace Nslab

namespace Store

section Calls

inductive Kind where
  | fileNotFound
  | os
  | unicode
  | other
deriving DecidableEq

/-- What a call raises: its class, its text and its number. -/
structure Issue where
  kind : Kind
  type : String
  text : String
  errno : Option Int
deriving DecidableEq

inductive Site where
  | mkdir | chmod | mkstemp | fchmod | fdopen | write | flush | fsync | fileClose | replace | directoryOpen | directoryFsync
  | directoryClose | descriptorClose | unlinkTemporary | unlink
deriving DecidableEq

structure Failure where
  site : Site
  issue : Issue
deriving DecidableEq

def Issue.isOSError (issue : Issue) : Bool := issue.kind = .fileNotFound || issue.kind = .os

inductive Raised where
  | nslab (error : NslabError) (cause : Option Failure)
  | raw (failure : Failure)
deriving DecidableEq

/-- What comes of a call. One that fails may have taken effect. -/
inductive Reply where
  | done
  | failed (issue : Issue) (effect : Bool)
deriving DecidableEq

/-- What comes of each call of a save. -/
structure SaveCalls where
  mkdir : Reply
  chmod : Reply
  mkstemp : Reply
  fchmod : Reply
  fdopen : Reply
  write : Reply
  flush : Reply
  fsync : Reply
  fileClose : Reply
  replace : Reply
  directoryOpen : Reply
  directoryFsync : Reply
  directoryClose : Reply
  descriptorClose : Reply
  unlinkTemporary : Reply
  /-- What a write that fails leaves in the temporary file. -/
  torn : String
  /-- The caller is handling an exception of its own. -/
  handling : Bool

structure DeleteCalls where
  unlink : Reply
  directoryOpen : Reply
  directoryFsync : Reply
  directoryClose : Reply

/-- The files of all deployments by their names, and the temporary file and the variables of the save that runs. -/
structure Session where
  files : String → Option String
  temporary : Option String := none
  temporaryPath : Bool := false
  fileDescriptor : Bool := false
  replaced : Bool := false
  unlinkFailed : Bool := false
  /-- What cleanup calls have raised while an error was being raised. -/
  noted : List Failure := []

abbrev Runs (α : Type) := Action Session Raised α

def call (site : Site) (reply : Reply) (effect : Session → Session) : Runs Unit := fun session =>
  match reply with
  | .done => (.ok (), effect session)
  | .failed issue took => (.error (.raw ⟨site, issue⟩), if took then effect session else session)

end Calls

section Errors

variable (root : String)

def statePath (name : String) : String := root ++ "/" ++ name ++ ".json"

def deploymentNameError (name : String) : NslabError where
  code := "DEPLOYMENT_NAME_INVALID"
  message := "invalid deployment name: " ++ quoted name
  details := [("name", .str name)]

def errorDetails (path text : String) (errno : Option Int) : List (String × Document) :=
  [("path", .str path), ("error", .str text)] ++ (errno.map fun number => ("errno", Document.int number)).toList

def causeDetails (issue : Issue) : List (String × Document) :=
  [("cause_type", .str issue.type), ("cause_message", .str issue.text)]

def stateInvalid (path text : String) : NslabError where
  code := "STATE_INVALID"
  message := "invalid deployment state: " ++ path
  details := errorDetails path text none

def stateError (code action path : String) (issue : Issue) : NslabError where
  code
  message := "failed to " ++ action ++ " deployment state: " ++ path
  details := errorDetails path issue.text issue.errno

def durabilityError (path operation : String) (issue : Issue) : NslabError where
  code := "STATE_DURABILITY_UNCERTAIN"
  message := "deployment state " ++ operation ++ " committed but durability is uncertain: " ++ path
  details := errorDetails path issue.text issue.errno ++
    [("operation", .str operation), ("committed", .bool true)] ++ causeDetails issue

def commitOutcomeUnknown (path operation : String) (issue : Issue) : NslabError where
  code := "STATE_COMMIT_OUTCOME_UNKNOWN"
  message := "deployment state " ++ operation ++ " outcome is unknown: " ++ path
  details := [("path", .str path), ("operation", .str operation), ("committed", .str "unknown")] ++ causeDetails issue

end Errors

section Saving

variable (root : String) (calls : SaveCalls)

/-- `_path`. -/
def checkedPath (name : String) : Runs String :=
  if isName name then Action.done (statePath root name) else Action.raise (.nslab (deploymentNameError name) none)

/-- `except selected as error: raise translate(error) from error`. -/
def raisingFrom {α : Type} (selected : Issue → Bool) (translate : Issue → NslabError) (action : Runs α) : Runs α :=
  Action.recover action fun
    | .raw failure =>
      if selected failure.issue then Action.raise (.nslab (translate failure.issue) (some failure))
      else Action.raise (.raw failure)
    | raised => Action.raise raised

/-- The text of a snapshot that reads back as a snapshot. -/
def serialize (snapshot : StateSnapshot) : Except String String := do
  let validated ← StateSnapshot.fromDict snapshot.toDict
  Checks.raiseIf (validated.toDict.short = false)
    "Exceeds the limit (4300 digits) for integer string conversion; use sys.set_int_max_str_digits() to increase the limit"
  pure (JsonText.dumpsPretty false validated.toDict ++ "\n")

def ensureDirectory : Runs Unit :=
  raisingFrom Issue.isOSError (stateError "STATE_WRITE_FAILED" "write" root) do
    call .mkdir calls.mkdir id
    call .chmod calls.chmod id

/-- Note the failure of a cleanup call while an error is being raised. -/
def note (raised : Raised) : Runs Unit := Action.modify fun session => { session with
  noted := match raised with
    | .raw failure => session.noted ++ [failure]
    | .nslab _ _ => session.noted }

/-- `action`, and then the file is closed. The error of closing is raised where no other is being handled. -/
def closingFile (action : Runs Unit) : Runs Unit := do
  let written ← Action.attempt action
  let closed ← Action.attempt (call .fileClose calls.fileClose id)
  match written, closed with
  | .error error, .error other => do
    note other
    Action.raise error
  | .error error, .ok _ => Action.raise error
  | .ok _, .error error => if calls.handling then Action.done () else Action.raise error
  | .ok _, .ok _ => Action.done ()

def writeText (serialized : String) : Runs Unit := do
  let tearing := fun session : Session => { session with temporary := some calls.torn }
  let step := fun (site : Site) (reply : Reply) (written : Session → Session) => (fun session =>
    match reply with
    | .done => (.ok (), written session)
    | .failed issue _ => (.error (.raw ⟨site, issue⟩), tearing session) : Runs Unit)
  step .write calls.write id
  step .flush calls.flush fun session => { session with temporary := some serialized }
  call .fsync calls.fsync id

/-- The temporary file with the text of the snapshot. -/
def writeTemporary (serialized : String) : Runs Unit := do
  call .mkstemp calls.mkstemp fun session => { session with temporary := some "" }
  Action.modify fun session => { session with temporaryPath := true, fileDescriptor := true }
  call .fchmod calls.fchmod id
  call .fdopen calls.fdopen id
  Action.modify fun session => { session with fileDescriptor := false }
  closingFile calls (writeText calls serialized)

/-- `_fsync_directory`: an error of closing the directory is dropped when it is an `OSError`, and is raised otherwise. -/
def fsyncDirectory (directoryOpen directoryFsync directoryClose : Reply) : Runs Unit := do
  call .directoryOpen directoryOpen id
  let synced ← Action.attempt (call .directoryFsync directoryFsync id)
  let closed ← Action.attempt (call .directoryClose directoryClose id)
  match synced, closed with
  | .error error, .error (.raw failure) => do
    note (.raw failure)
    if failure.issue.isOSError then Action.raise error else Action.raise (.raw failure)
  | .ok _, .error (.raw failure) => if failure.issue.isOSError then Action.done () else Action.raise (.raw failure)
  | .ok _, .error error => Action.raise error
  | .error error, _ => Action.raise error
  | .ok _, .ok _ => Action.done ()

/-- The temporary file takes the place of the file of a deployment. -/
def Session.move (session : Session) (name : String) : Session :=
  { session with
    files := fun other => if other = name then session.temporary else session.files other
    temporary := none }

def commit (path name : String) : Runs Unit :=
  Action.recover (do
    call .replace calls.replace (·.move name)
    Action.modify fun session => { session with replaced := true }
    fsyncDirectory calls.directoryOpen calls.directoryFsync calls.directoryClose) fun
    | .raw failure => do
      let session ← Action.inspect .ok
      if session.replaced then Action.raise (.nslab (durabilityError path "save" failure.issue) (some failure))
      else Action.raise (.nslab (commitOutcomeUnknown path "save" failure.issue) (some failure))
    | raised => Action.raise raised

def closeDescriptor : Runs Unit := do
  let session ← Action.inspect .ok
  if session.fileDescriptor then call .descriptorClose calls.descriptorClose id else Action.done ()

/-- `temporary_path.unlink()`, where a file that is already gone is no failure. -/
def unlinkTemporary : Runs Unit := do
  let session ← Action.inspect .ok
  if session.temporaryPath = true ∧ session.replaced = false then
    match calls.unlinkTemporary with
    | .done => Action.modify fun session => { session with temporary := none }
    | .failed issue took =>
      if issue.kind = .fileNotFound then Action.modify fun session => { session with temporary := none }
      else do
        Action.modify fun session => { session with
          temporary := if took then none else session.temporary
          unlinkFailed := true }
        Action.raise (.raw ⟨.unlinkTemporary, issue⟩)
  else Action.done ()

/-- `_cleanup_temporary`. Its first error is raised where no other is being handled. -/
def cleanupTemporary (active : Bool) : Runs Unit := do
  let closed ← Action.attempt (closeDescriptor calls)
  let unlinked ← Action.attempt (unlinkTemporary calls)
  match closed, unlinked with
  | .error error, .error other =>
    if active then do
      note error
      note other
    else if calls.handling then Action.done ()
    else do
      note other
      Action.raise error
  | .error error, .ok _ | .ok _, .error error =>
    if active then note error else if calls.handling then Action.done () else Action.raise error
  | .ok _, .ok _ => Action.done ()

/-- `except (OSError, UnicodeError) as error`. -/
def Issue.isWriteError (issue : Issue) : Bool := issue.isOSError || issue.kind = .unicode

def serializing (path : String) (snapshot : StateSnapshot) : Runs String :=
  match serialize snapshot with
  | .error message => Action.raise (.nslab (stateInvalid path message) none)
  | .ok serialized => Action.done serialized

/-- The temporary file is written and put in the place of the file, and cleaned up. -/
def replaceFile (path name serialized : String) : Runs Unit := do
  let saved ← Action.attempt (raisingFrom Issue.isWriteError (stateError "STATE_WRITE_FAILED" "write" path) do
    writeTemporary calls serialized
    commit calls path name)
  match saved with
  | .ok _ => cleanupTemporary calls false
  | .error error => do
    cleanupTemporary calls true
    Action.raise error

def save (snapshot : StateSnapshot) : Runs Unit := do
  let path ← checkedPath root snapshot.name
  let serialized ← serializing path snapshot
  ensureDirectory root calls
  replaceFile calls path snapshot.name serialized

end Saving

section Deleting

variable (root : String) (calls : DeleteCalls)

/-- `path.unlink()`. Where it finds no file there is none. -/
def unlinkState (name : String) : Runs Unit := fun session =>
  let removed : Session := { session with files := fun other => if other = name then none else session.files other }
  match session.files name with
  | none => (.error (.raw ⟨.unlink, ⟨.fileNotFound, "FileNotFoundError", "No such file or directory", some 2⟩⟩), session)
  | some _ => match calls.unlink with
    | .done => (.ok (), removed)
    | .failed issue took =>
      (.error (.raw ⟨.unlink, issue⟩), if took = true ∨ issue.kind = .fileNotFound then removed else session)

def delete (name : String) : Runs Unit := do
  let path ← checkedPath root name
  let unlinked ← Action.attempt (unlinkState calls name)
  match unlinked with
  | .error (.raw failure) =>
    if failure.issue.kind = .fileNotFound then Action.done ()
    else Action.raise (.nslab (commitOutcomeUnknown path "delete" failure.issue) (some failure))
  | .error error => Action.raise error
  | .ok _ =>
    raisingFrom (fun _ => true) (durabilityError path "delete")
      (fsyncDirectory calls.directoryOpen calls.directoryFsync calls.directoryClose)

end Deleting

end Store

end Nslab
