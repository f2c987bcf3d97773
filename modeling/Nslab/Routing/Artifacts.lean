import Nslab.Library.Filesystem
import Nslab.Library.JsonText
import Nslab.Routing.Config

/-! The paths that the FRRouting runtime manages, their ownership markers, and the
checks that it makes on them. A check reads the filesystem and changes nothing. -/

namespace Nslab

/-- The directories that the runtime works in, each with what lies below it. -/
inductive RuntimeTree where
  | runtime
  | frrState
  | frrConfig
deriving DecidableEq

abbrev RuntimePath := Location RuntimeTree

abbrev RuntimeFiles := Filesystem RuntimeTree

/-- The roots are real paths, none within another. A timeout is the number of times that a wait looks again. -/
structure FrrRuntime where
  runtimeRoot : String := "/run/nslab"
  frrStateRoot : String := "/var/run/frr"
  frrConfigRoot : String := "/etc/frr"
  startupPasses : Nat := 100
  stopPasses : Nat := 150
  requireZebraSocket : Bool := true
  frrUser : String := "frr"
  frrGroup : String := "frr"

section Paths

def FrrRuntime.text (runtime : FrrRuntime) : RuntimePath → String
  | .root .runtime => runtime.runtimeRoot
  | .root .frrState => runtime.frrStateRoot
  | .root .frrConfig => runtime.frrConfigRoot
  | .child directory name => runtime.text directory ++ "/" ++ name

def routingPathspace (plan : TopologyPlan) (node : NodePlan) : String := "nslab-" ++ plan.name ++ "-" ++ node.name

def deploymentDir (plan : TopologyPlan) : RuntimePath := .child (.root .runtime) plan.name

def nodeDir (plan : TopologyPlan) (node : NodePlan) : RuntimePath := .child (deploymentDir plan) node.name

def stateDir (plan : TopologyPlan) (node : NodePlan) : RuntimePath := .child (.root .frrState) (routingPathspace plan node)

def vtyConfigDir (plan : TopologyPlan) (node : NodePlan) : RuntimePath := .child (.root .frrConfig) (routingPathspace plan node)

def metadataPath (plan : TopologyPlan) (node : NodePlan) : RuntimePath := .child (nodeDir plan node) "processes.json"

end Paths

section Markers

def markerFile : String := ".nslab-marker"

def markerPath (directory : RuntimePath) : RuntimePath := .child directory markerFile

def runtimeMarker (plan : TopologyPlan) : String :=
  "nslab-managed-runtime-v1" ++ "\nname=" ++ plan.name ++ "\nfingerprint=" ++ plan.fingerprint ++ "\n"

def runtimeNodeMarker (plan : TopologyPlan) (node : NodePlan) : String :=
  "nslab-managed-runtime-node-v1" ++ "\nname=" ++ plan.name ++ "\nnode=" ++ node.name ++ "\nfingerprint=" ++
    plan.fingerprint ++ "\n"

def stateMarker (plan : TopologyPlan) (node : NodePlan) : String :=
  "nslab-managed-state-pathspace-v1" ++ "\nname=" ++ plan.name ++ "\nnode=" ++ node.name ++ "\npathspace=" ++
    routingPathspace plan node ++ "\nfingerprint=" ++ plan.fingerprint ++ "\n"

def vtyConfigMarker (plan : TopologyPlan) (node : NodePlan) : String :=
  "nslab-managed-pathspace-v1" ++ "\nname=" ++ plan.name ++ "\nnode=" ++ node.name ++ "\nfingerprint=" ++
    plan.fingerprint ++ "\n"

/-- The directories of a node, each with its marker. -/
def TopologyPlan.nodeDirectories (plan : TopologyPlan) (node : NodePlan) : List (RuntimePath × String) :=
  [(nodeDir plan node, runtimeNodeMarker plan node), (stateDir plan node, stateMarker plan node),
    (vtyConfigDir plan node, vtyConfigMarker plan node)]

/-- The directories of all routing nodes. -/
def TopologyPlan.below (plan : TopologyPlan) : List (RuntimePath × String) := plan.routingNodes.flatMap plan.nodeDirectories

/-- All managed directories of a plan, each with its marker. -/
def TopologyPlan.managed (plan : TopologyPlan) : List (RuntimePath × String) :=
  (deploymentDir plan, runtimeMarker plan) :: plan.below

end Markers

namespace FrrRuntime

variable (runtime : FrrRuntime) (files : RuntimeFiles)

section Errors

def invalidPath (path : RuntimePath) (description : String) : NslabError where
  code := "ROUTING_RUNTIME_INVALID"
  message := description ++ ": " ++ runtime.text path
  details := [("path", .str (runtime.text path))]

def conflictingPath (path : RuntimePath) (description : String) : NslabError where
  code := "ROUTING_RUNTIME_CONFLICT"
  message := description ++ ": " ++ runtime.text path
  details := [("path", .str (runtime.text path))]

/-- An error of the system about a path. -/
def failedPath (path : RuntimePath) (description : String) (error : String) : NslabError where
  code := "ROUTING_RUNTIME_INVALID"
  message := description ++ ": " ++ runtime.text path
  details := [("path", .str (runtime.text path)), ("error", .str error)]

end Errors

section Checks

def readMatchingMarker (directory : RuntimePath) (expected : String) (required : Bool := true) : Except NslabError Bool := do
  let marker := markerPath directory
  Checks.raiseIf (files.isSymlink marker) (runtime.invalidPath marker "routing runtime marker is a symlink")
  if files.lexists marker then
    Checks.raiseIf (files.isFile marker = false) (runtime.invalidPath marker "routing runtime marker is not a regular file")
    match files.readAscii marker with
    | .error error => .error (runtime.failedPath marker "cannot read routing runtime marker" error)
    | .ok current =>
      Checks.raiseIf (current ≠ expected)
        (runtime.conflictingPath directory "routing pathspace is owned by another configuration")
      .ok true
  else
    Checks.raiseIf required (runtime.conflictingPath directory "routing pathspace is not managed by nslab")
    .ok false

def validateManagedDirectory (path : RuntimePath) (marker : String) : Except NslabError Bool := do
  if files.lexists path then
    Checks.raiseIf (files.isSymlink path) (runtime.invalidPath path "routing pathspace is a symlink")
    Checks.raiseIf (files.isDir path = false) (runtime.invalidPath path "routing pathspace is not a directory")
    let _ ← runtime.readMatchingMarker files path marker
    .ok true
  else .ok false

def legacyNames : List String :=
  ["processes.json", "frr.conf", "zebra.api", "zebra.pid", "ospfd.pid", "bgpd.pid", "zebra.log", "ospfd.log", "bgpd.log"]

/-- The narrow set of files that runtimes without markers left behind. -/
def legacyRuntimeNodeSafe (path : RuntimePath) : Bool :=
  if files.isSymlink path || !files.isDir path then false
  else
    let children := files.iterdir path
    if children.isEmpty || !children.any (fun name => ".pid".toList.isSuffixOf name.toList) then false
    else children.all fun name =>
      !files.isSymlink (.child path name) && legacyNames.contains name && !files.isDir (.child path name)

/-- Validate the deployment runtime and return whether it is legacy. -/
def validateRuntimeArtifacts (plan : TopologyPlan) : Except NslabError Bool := do
  let directory := deploymentDir plan
  let expected := plan.routingNodes.map (·.name)
  if files.lexists directory then
    Checks.raiseIf (files.isSymlink directory) (runtime.invalidPath directory "routing pathspace is a symlink")
    Checks.raiseIf (files.isDir directory = false) (runtime.invalidPath directory "routing pathspace is not a directory")
    let marker := markerPath directory
    Checks.raiseIf (files.isSymlink marker) (runtime.invalidPath marker "routing runtime marker is a symlink")
    if files.lexists marker then
      let _ ← runtime.readMatchingMarker files directory (runtimeMarker plan)
      Checks.each ((files.iterdir directory).filter (· ≠ markerFile)) fun name => do
        let child := Location.child directory name
        Checks.raiseIf (name ∉ expected) (runtime.conflictingPath child "unexpected routing runtime path")
        Checks.raiseIf (files.isSymlink child) (runtime.invalidPath child "routing runtime node path is a symlink")
        Checks.raiseIf (files.isDir child = false) (runtime.invalidPath child "routing runtime node path is not a directory")
      .ok false
    else
      let children := files.iterdir directory
      Checks.raiseIf (children = [] ∨ (∃ name ∈ children, name ∉ expected) ∨
          ∃ name ∈ children, legacyRuntimeNodeSafe files (.child directory name) = false)
        (runtime.conflictingPath directory "routing runtime is not managed by nslab")
      .ok true
  else .ok false

/-- Validate the runtime directory of a node, below a deployment that is legacy or not. -/
def validateNodeDirectory (plan : TopologyPlan) (legacy : Bool) (node : NodePlan) : Except NslabError Unit :=
  let directory := nodeDir plan node
  if legacy then
    Checks.raiseIf (files.lexists directory = true ∧ legacyRuntimeNodeSafe files directory = false)
      (runtime.conflictingPath directory "routing runtime is not managed by nslab")
  else do
    let _ ← runtime.validateManagedDirectory files directory (runtimeNodeMarker plan node)
    .ok ()

/-- No file of the runtime directory of a node is a symlink. -/
def validateNodeFiles (plan : TopologyPlan) (node : NodePlan) : Except NslabError Unit :=
  let directory := nodeDir plan node
  if files.lexists directory then
    Checks.each (files.iterdir directory) fun name => Checks.raiseIf (files.isSymlink (.child directory name))
      (runtime.invalidPath (.child directory name) "routing runtime file is a symlink")
  else .ok ()

def validateNodeArtifacts (plan : TopologyPlan) (legacy : Bool) (node : NodePlan) : Except NslabError Unit := do
  runtime.validateNodeDirectory files plan legacy node
  runtime.validateNodeFiles files plan node
  let _ ← runtime.validateManagedDirectory files (stateDir plan node) (stateMarker plan node)
  let _ ← runtime.validateManagedDirectory files (vtyConfigDir plan node) (vtyConfigMarker plan node)
  .ok ()

/-- Validate every existing path before reading or removing it. -/
def validateArtifacts (plan : TopologyPlan) : Except NslabError Bool := do
  let legacy ← runtime.validateRuntimeArtifacts files plan
  Checks.each plan.routingNodes (runtime.validateNodeArtifacts files plan legacy)
  .ok legacy

def hasArtifacts (plan : TopologyPlan) : Bool :=
  files.lexists (deploymentDir plan) ||
    plan.routingNodes.any fun node => files.lexists (stateDir plan node) || files.lexists (vtyConfigDir plan node)

end Checks

end FrrRuntime

end Nslab
