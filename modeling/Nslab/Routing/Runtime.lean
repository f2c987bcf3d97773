import Nslab.Routing.System

/-! One isolated set of FRRouting daemons per deployment: starting them, telling
whether they are ready, and stopping them. -/

namespace Nslab

structure ProcessRecord where
  daemon : String
  pid : Int
deriving DecidableEq

structure FrrIdentity where
  uid : Int
  gid : Int

structure RoutingStatus where
  node : String
  protocols : List String
  ready : Bool
  pids : List Int

section Numerals

/-- The blanks of ASCII. -/
def isBlank (char : Char) : Bool := (9 ≤ char.toNat && char.toNat ≤ 13) || (28 ≤ char.toNat && char.toNat ≤ 32)

/-- `int(text.strip())`: a sign, and digits that single underscores may separate. -/
def parseInt (text : String) : Option Int :=
  let stripped := ((text.toList.dropWhile isBlank).reverse.dropWhile isBlank).reverse
  let magnitude := fun digits : List Char =>
    (Text.readAll (fun part => (Text.decimal? part).map fun _ => part) (Text.split '_' digits)).bind fun parts =>
      Text.decimal? parts.flatten
  match stripped with
  | '-' :: digits => (magnitude digits).map fun value => -(value : Int)
  | '+' :: digits => (magnitude digits).map Int.ofNat
  | digits => (magnitude digits).map Int.ofNat

/-- `document == number`. -/
def equalsInt (document : Document) (number : Int) : Bool :=
  match document with
  | .bool value => (if value then 1 else 0) = number
  | .int value => value = number
  | .float (.finite value) => value = number
  | .float .negativeZero => number = 0
  | _ => false

end Numerals

namespace FrrRuntime

variable (runtime : FrrRuntime) (host : Host)

section Records

def recordFromFields (daemon pid : Option Document) : Option ProcessRecord :=
  match daemon, pid with
  | some (.str daemon), some (.int pid) => if daemon ∈ frrDaemons ∧ 0 < pid then some ⟨daemon, pid⟩ else none
  | _, _ => none

def recordOf : Document → Option ProcessRecord
  | .mapping _ entries => recordFromFields (entries.lookup "daemon") (entries.lookup "pid")
  | _ => none

/-- A record unless there is one of the same daemon. -/
def addRecord (records : List ProcessRecord) (record : ProcessRecord) : List ProcessRecord :=
  if record.daemon ∈ records.map (·.daemon) then records else records ++ [record]

/-- The processes of the metadata file, then those of pid files. -/
def readRecords (files : RuntimeFiles) (plan : TopologyPlan) (node : NodePlan) : List ProcessRecord :=
  let directory := nodeDir plan node
  if files.isSymlink directory || !files.isDir directory then []
  else
    let metadata := metadataPath plan node
    let document := if files.isSymlink metadata then none else (files.readUtf8 metadata).toOption.bind host.loads
    let recorded := match document with
      | some (.mapping _ entries) => match entries.lookup "processes" with
        | some (.sequence _ items) => (items.filterMap recordOf).foldl addRecord []
        | _ => []
      | _ => []
    (frrDaemons.filterMap fun daemon =>
      let path := Location.child directory (daemon ++ ".pid")
      if files.isSymlink path then none
      else match (files.readAscii path).toOption.bind parseInt with
        | some pid => if 0 < pid then some (ProcessRecord.mk daemon pid) else none
        | none => none).foldl addRecord recorded

/-- Records of exactly the expected daemons, or nothing. -/
def expectedRecords (expected : List String) : List Document → List ProcessRecord → Bool
  | [], records => records.length = expected.length && expected.all fun daemon => (records.map (·.daemon)).contains daemon
  | item :: items, records => match recordOf item with
    | some record =>
      if record.daemon ∉ expected ∨ record.daemon ∈ records.map (·.daemon) then false
      else expectedRecords expected items (records ++ [record])
    | none => false

def expectedDaemons (node : NodePlan) : List String := "zebra" :: routingDaemons node.routing

def metadataMatches (files : RuntimeFiles) (plan : TopologyPlan) (node : NodePlan) : Bool :=
  let path := metadataPath plan node
  let validated : Except NslabError Bool := do
    if files.lexists (deploymentDir plan) then
      let _ ← runtime.validateRuntimeArtifacts files plan
      if ← runtime.validateManagedDirectory files (nodeDir plan node) (runtimeNodeMarker plan node) then
        if ← runtime.validateManagedDirectory files (stateDir plan node) (stateMarker plan node) then
          let directory := vtyConfigDir plan node
          if files.lexists directory then
            let _ ← runtime.validateManagedDirectory files directory (vtyConfigMarker plan node)
            .ok true
          else .ok true
        else .ok false
      else .ok false
    else .ok false
  if validated.toOption ≠ some true || files.isSymlink path then false
  else match (files.readUtf8 path).toOption.bind host.loads with
    | some (.mapping _ entries) =>
      (entries.lookup "version").any (equalsInt · 1) &&
        entries.lookup "fingerprint" == some (.str plan.fingerprint) &&
        entries.lookup "node" == some (.str node.name) && entries.lookup "namespace" == some (.str node.netns) &&
        entries.lookup "pathspace" == some (.str (routingPathspace plan node)) &&
        entries.lookup "protocols" == some (.list ((routingProtocols node.routing).map .str)) &&
        match entries.lookup "processes" with
        | some (.sequence _ items) => expectedRecords (expectedDaemons node) items []
        | _ => false
    | _ => false

end Records

section Status

/-- `all(pid_exists(record.pid) for record in records)`. -/
def allAlive : List ProcessRecord → Runs Bool
  | [] => pure true
  | record :: records => do
    if ← host.observe (host.pidExists · record.pid) then allAlive records else pure false

def statusForNode (plan : TopologyPlan) (node : NodePlan) : Runs RoutingStatus := do
  let records ← look (readRecords host · plan node)
  let known ← look (runtime.metadataMatches host · plan node)
  let alive ← if known then allAlive host records else pure false
  let expected := expectedDaemons node
  pure {
    node := node.name
    protocols := routingProtocols node.routing
    ready := known && alive && records.all (fun record => expected.contains record.daemon) &&
      expected.all fun daemon => (records.map (·.daemon)).contains daemon
    pids := records.map (·.pid) }

def status (plan : TopologyPlan) : Runs (List RoutingStatus) :=
  Action.fold (fun statuses node => do
    let status ← runtime.statusForNode host plan node
    pure (statuses ++ [status])) plan.routingNodes []

def ready (plan : TopologyPlan) : Runs Bool := do
  let statuses ← runtime.status host plan
  pure (statuses.all (·.ready))

end Status

section Dependencies

def resolveBinaries (node : NodePlan) : Except NslabError (List (String × String)) :=
  Checks.collect (expectedDaemons node) fun daemon => match host.binary daemon with
    | some binary => .ok (daemon, binary)
    | none => .error {
        code := "ROUTING_DEPENDENCY_MISSING"
        message := "FRRouting daemon is not installed: " ++ daemon
        details := [("daemon", .str daemon), ("package", .str "frr")] }

def resolveFrrIdentity : Except NslabError (Option FrrIdentity) := do
  let notInstalled := fun missing : String => {
    code := "ROUTING_DEPENDENCY_MISSING"
    message := "FRRouting account is not installed: " ++ quoted missing
    details := [("user", .str runtime.frrUser), ("group", .str runtime.frrGroup), ("vty_group", .str "frrvty"),
      ("package", .str "frr")] : NslabError }
  if host.geteuid ≠ 0 then .ok none
  else match host.getpwnam runtime.frrUser with
    | none => .error (notInstalled ("getpwnam(): name not found: " ++ quoted runtime.frrUser))
    | some user => match host.getgrnam runtime.frrGroup with
      | none => .error (notInstalled ("getgrnam(): name not found: " ++ quoted runtime.frrGroup))
      | some group => match host.getgrnam "frrvty" with
        | none => .error (notInstalled "getgrnam(): name not found: 'frrvty'")
        | some vty =>
          Checks.raiseIf (user.gid ≠ vty.gid ∧ user.name ∉ vty.members) {
            code := "ROUTING_DEPENDENCY_MISSING"
            message := "FRRouting user is not a member of frrvty: " ++ runtime.frrUser
            details := [("user", .str runtime.frrUser), ("vty_group", .str "frrvty"), ("package", .str "frr")] }
          .ok (some ⟨user.uid, group.gid⟩)

end Dependencies

section Files

def ensureDirectory (path : RuntimePath) : Runs Unit := do
  refuseIf (·.isSymlink path) (runtime.invalidPath path "routing runtime path is a symlink")
  refuseIf (fun files => files.lexists path && !files.isDir path)
    (runtime.invalidPath path "routing runtime path is not a directory")
  raisingFrom (fun error => runtime.failedPath path "failed to prepare routing runtime directory" error.text) do
    host.mkdir path
    host.chmod path

/-- The file is written under a temporary name and put in its place. -/
def writeText (directory : RuntimePath) (name text : String) : Runs Unit := do
  let path := Location.child directory name
  let symlink := runtime.invalidPath path "routing runtime file is a symlink"
  refuseIf (·.isSymlink path) symlink
  raisingFrom (fun error => runtime.failedPath path "failed to write routing runtime file" error.text) do
    let temporary ← host.mkstemp directory ("." ++ name ++ ".tmp-")
    let body : Runs Unit := do
      host.handle
      host.write temporary text
      host.handle
      host.handle
      host.chmod temporary
      refuseIf (·.isSymlink path) symlink
      host.replace temporary path
    Action.recover body fun raised => do
      if ← look (·.lexists temporary) then suppressing (host.unlink temporary)
      Action.raise raised

def prepareOwnedDirectory (path : RuntimePath) (identity : Option FrrIdentity) : Runs Unit :=
  match identity with
  | none => pure ()
  | some _ => do
    refuseIf (·.isSymlink path) (runtime.invalidPath path "cannot change ownership of symlink")
    raisingFrom (fun error => runtime.failedPath path "failed to prepare FRRouting runtime directory" error.text) do
      host.chown path
      host.chmod path

def prepareOwnedFile (path : RuntimePath) (identity : Option FrrIdentity) : Runs Unit :=
  match identity with
  | none => pure ()
  | some _ => do
    refuseIf (·.isSymlink path) (runtime.invalidPath path "cannot change ownership of symlink")
    raisingFrom (fun error => runtime.failedPath path "failed to prepare FRRouting runtime file" error.text) do
      host.chown path
      host.chmod path

def prepareManagedDirectory (path : RuntimePath) (marker : String) (identity : Option FrrIdentity) : Runs Unit := do
  let existed ← look (·.lexists path)
  runtime.ensureDirectory host path
  if existed then
    let _ ← check (runtime.readMatchingMarker · path marker)
  else
    runtime.writeText host path markerFile marker
  runtime.prepareOwnedDirectory host path identity
  runtime.prepareOwnedFile host (markerPath path) identity

/-- The configuration of a node, as a step of a run. -/
def rendered (plan : TopologyPlan) (node : NodePlan) : Runs String :=
  match renderFrrConfig node (some plan) with
  | .ok text => pure text
  | .error (.valueError text) => Action.raise (.value text)
  | .error _ => Action.raise (.value "")

/-- The files of a pathspace that `vtysh -N` reads. -/
def prepareVtyConfig (plan : TopologyPlan) (node : NodePlan) (identity : Option FrrIdentity) : Runs Unit := do
  if identity.isNone ∧ runtime.frrConfigRoot = "/etc/frr" then return
  runtime.ensureDirectory host (.root .frrConfig)
  let directory := vtyConfigDir plan node
  runtime.prepareManagedDirectory host directory (vtyConfigMarker plan node) identity
  runtime.writeText host directory "vtysh.conf" "service integrated-vtysh-config\n"
  runtime.prepareOwnedFile host (.child directory "vtysh.conf") identity
  let config ← rendered plan node
  runtime.writeText host directory "frr.conf" config
  runtime.prepareOwnedFile host (.child directory "frr.conf") identity

def saveMetadata (plan : TopologyPlan) (node : NodePlan) (records : List ProcessRecord) : Runs Unit :=
  let document := Document.dict [
    ("version", .int 1), ("fingerprint", .str plan.fingerprint), ("node", .str node.name), ("namespace", .str node.netns),
    ("pathspace", .str (routingPathspace plan node)),
    ("protocols", .list ((routingProtocols node.routing).map .str)),
    ("processes", .list (records.map fun record => .dict [("daemon", .str record.daemon), ("pid", .int record.pid)]))]
  runtime.writeText host (nodeDir plan node) "processes.json" (JsonText.dumpsIndented document ++ "\n")

end Files

section Processes

/-- The command line of a daemon. -/
def daemonArguments (plan : TopologyPlan) (node : NodePlan) (daemon binary : String) : List String :=
  let directory := nodeDir plan node
  [binary, "-N", routingPathspace plan node, "-f", runtime.text (.child directory "frr.conf"), "-z",
    runtime.text (.child directory "zebra.api"), "-i", runtime.text (.child directory (daemon ++ ".pid")), "-u",
    runtime.frrUser, "-g", runtime.frrGroup, "-P", "0", "--vty_socket", runtime.text (stateDir plan node), "--log",
    "file:" ++ runtime.text (.child directory (daemon ++ ".log"))]

def spawn (plan : TopologyPlan) (node : NodePlan) (daemon binary : String) (identity : Option FrrIdentity) : Runs Int := do
  let directory := nodeDir plan node
  let log := Location.child directory (daemon ++ ".log")
  refuseIf (·.isSymlink log) (runtime.invalidPath log "FRRouting log path is a symlink")
  refuseIf (fun files => files.lexists log && !files.isFile log)
    (runtime.invalidPath log "FRRouting log path is not a regular file")
  Action.each ["frr.conf", "zebra.api", daemon ++ ".pid"] fun name => do
    let path := Location.child directory name
    refuseIf (·.isSymlink path) (runtime.invalidPath path "FRRouting runtime file is a symlink")
    refuseIf (fun files => files.lexists path && files.isDir path)
      (runtime.invalidPath path "FRRouting runtime file is a directory")
  if !(← look (·.lexists log)) then
    raisingFrom (fun error => runtime.failedPath log "failed to create FRRouting log file" error.text) (host.openAppend log)
  runtime.prepareOwnedFile host log identity
  host.openAppend log
  let failed := fun error : OSError => {
    code := "ROUTING_START_FAILED"
    message := "failed to start FRRouting daemon: " ++ daemon
    details := [("daemon", .str daemon), ("node", .str node.name), ("error", .str error.text)] : NslabError }
  raisingFrom failed (host.popen (runtime.daemonArguments plan node daemon binary))

/-- Wait for a daemon to start, for a socket to appear if one is named. -/
def waitStarted (node : NodePlan) (daemon : String) (pid : Int) (socket : Option RuntimePath) (passes : Nat) : Runs Unit := do
  match ← host.observe (host.returncode · pid) with
  | some code => fail {
      code := "ROUTING_START_FAILED"
      message := "FRRouting daemon exited during startup: " ++ daemon
      details := [("daemon", .str daemon), ("node", .str node.name), ("returncode", .int code)] }
  | none =>
    if ← look fun files => socket.all (files.exists? ·) || !runtime.requireZebraSocket then return
    match passes with
    | 0 => fail {
        code := "ROUTING_START_FAILED"
        message := "FRRouting zebra socket was not ready: " ++ node.name
        details := [("node", .str node.name), ("socket", .str ((socket.map runtime.text).getD "None"))] }
    | passes + 1 => waitStarted node daemon pid socket passes

/-- Whether a process is still there after some looks at it. -/
def waitGone (pid : Int) : Nat → Runs Unit
  | 0 => pure ()
  | passes + 1 => do
    if ← host.observe (host.pidExists · pid) then waitGone pid passes else pure ()

/-- Signal the group of a process, and the process itself when that is refused; kill what stays. -/
def terminateProcess (pid : Int) : Runs Unit := do
  match ← host.signal (host.killpg · pid) pid with
  | .lookupError => return
  | .refused => let _ ← host.signal (host.killpg · pid) pid
  | .delivered => pure ()
  waitGone host pid runtime.stopPasses
  if ← host.observe (host.pidExists · pid) then
    let _ ← host.signal (host.killpg · pid) pid
    let _ ← host.signal (host.killpg · pid) pid

def terminateProcesses (pids : List Int) : Runs Unit := Action.each pids.reverse (runtime.terminateProcess host)

end Processes

section Stopping

def removeDirectory (path : RuntimePath) (description : String) : Runs Unit := do
  if ← look (·.lexists path) then
    refuseIf (·.isSymlink path) (runtime.invalidPath path "routing pathspace is a symlink")
    raisingFrom (fun error => runtime.failedPath path description error.text) (host.rmtree path)

def cleanupDeployment (plan : TopologyPlan) : Runs Unit := do
  let _ ← check (runtime.validateArtifacts · plan)
  Action.each plan.routingNodes fun node => do
    let _ ← check (runtime.validateManagedDirectory · (stateDir plan node) (stateMarker plan node))
    let _ ← check (runtime.validateManagedDirectory · (vtyConfigDir plan node) (vtyConfigMarker plan node))
  -- All targets have been checked before the first removal.
  runtime.removeDirectory host (deploymentDir plan) "failed to remove routing runtime directory"
  Action.each plan.routingNodes fun node => do
    runtime.removeDirectory host (stateDir plan node) "failed to remove FRRouting state directory"
    runtime.removeDirectory host (vtyConfigDir plan node) "failed to remove FRRouting config directory"

/-- The recorded processes of a node that are still there. -/
def livingProcesses (plan : TopologyPlan) (pids : List Int) (node : NodePlan) : Runs (List Int) := do
  let records ← look (readRecords host · plan node)
  Action.fold (fun pids record => do
    if ← host.observe (host.pidExists · record.pid) then pure (pids ++ [record.pid]) else pure pids) records pids

def stop (plan : TopologyPlan) : Runs Unit := do
  let _ ← check (runtime.validateArtifacts · plan)
  let processes ← Action.fold (livingProcesses host plan) plan.routingNodes []
  runtime.terminateProcesses host processes
  runtime.cleanupDeployment host plan

end Stopping

section Starting

/-- Start a daemon and wait for it; the daemon is known as started as soon as it has a process. -/
def startDaemon (plan : TopologyPlan) (node : NodePlan) (identity : Option FrrIdentity) (binaries : List (String × String))
    (socket : Option RuntimePath) (records : List ProcessRecord) (daemon : String) : Runs (List ProcessRecord) := do
  let pid ← runtime.spawn host plan node daemon ((binaries.lookup daemon).getD "") identity
  Action.modify fun world => { world with started := world.started ++ [pid] }
  runtime.waitStarted host node daemon pid socket runtime.startupPasses
  let records := records ++ [⟨daemon, pid⟩]
  runtime.saveMetadata host plan node records
  pure records

def startNode (plan : TopologyPlan) (identity : Option FrrIdentity) (node : NodePlan) (binaries : List (String × String)) :
    Runs Unit := do
  runtime.prepareManagedDirectory host (nodeDir plan node) (runtimeNodeMarker plan node) identity
  runtime.prepareManagedDirectory host (stateDir plan node) (stateMarker plan node) identity
  runtime.prepareVtyConfig host plan node identity
  let config ← rendered plan node
  runtime.writeText host (nodeDir plan node) "frr.conf" config
  runtime.prepareOwnedFile host (.child (nodeDir plan node) "frr.conf") identity
  let zebra ← runtime.startDaemon host plan node identity binaries (some (.child (nodeDir plan node) "zebra.api")) [] "zebra"
  let _ ← Action.fold (runtime.startDaemon host plan node identity binaries none) (routingDaemons node.routing) zebra

/-- What `start` does under its `try`. -/
def startDaemons (plan : TopologyPlan) : Runs Unit := do
  let identity ← check fun _ => runtime.resolveFrrIdentity host
  let binaries ← check fun _ => Checks.collect plan.routingNodes fun node => (resolveBinaries host node).map (node, ·)
  runtime.ensureDirectory host (.root .runtime)
  runtime.ensureDirectory host (.root .frrState)
  runtime.prepareManagedDirectory host (deploymentDir plan) (runtimeMarker plan) identity
  Action.each binaries fun (node, binaries) => runtime.startNode host plan identity node binaries

/-- What `start` does with an error: it stops what it has started and raises the error. -/
def abandon (plan : TopologyPlan) (raised : Raised) : Runs Unit := do
  let failed := fun text : String => {
    code := "ROUTING_START_FAILED"
    message := "failed to start routing daemons: " ++ plan.name
    details := [("name", .str plan.name), ("error", .str text)] : NslabError }
  let started ← Action.inspect fun world => .ok world.started
  Action.ensuring (runtime.terminateProcesses host started) (runtime.cleanupDeployment host plan)
  match raised with
  | .nslab _ _ => Action.raise raised
  | .os error => Action.raise (.nslab (failed error.text) (some error))
  | .value text => Action.raise (.nslab (failed text) none)

def start (plan : TopologyPlan) : Runs Unit := do
  if plan.routingNodes = [] then return
  if ← look (hasArtifacts · plan) then
    let _ ← check (runtime.validateArtifacts · plan)
    if ← runtime.ready host plan then return
    runtime.stop host plan
  Action.modify fun world => { world with started := [] }
  Action.recover (runtime.startDaemons host plan) (runtime.abandon host plan)

end Starting

end FrrRuntime

end Nslab
