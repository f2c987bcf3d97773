import Nslab.Backend.Exec
import Nslab.Library.NetDevices
import Nslab.Plan.Types
import Nslab.State

/-! Creating a veth pair: it is made in the root namespace, its ends are moved and
renamed, and what is left of it is removed when that fails. Every call can fail,
before or after it takes effect. -/

namespace Nslab

namespace Veth

open NetDevices

section Issues

/-- Exceptions as the code tells them apart. A `TimeoutError` is an `OSError` by its type. -/
inductive Issue where
  | nslab (error : NslabError)
  | netlink (code : Int)
  | os (type : String) (errno : Option Int)
  | keyboardInterrupt
  | other (type : String)
deriving DecidableEq

/-- `type(error).__name__`. -/
def Issue.typeName : Issue → String
  | .nslab _ => "NslabError"
  | .netlink _ => "NetlinkError"
  | .os type _ => type
  | .keyboardInterrupt => "KeyboardInterrupt"
  | .other type => type

/-- `_is_missing_error`. -/
def isMissing (code : Int) : Bool := (code.natAbs : Int) ∈ Exec.absentErrnos

/-- `_is_transient_veth_error`. -/
def Issue.isTransient : Issue → Bool
  | .nslab error => error.code = "RESOURCE_MISSING"
  | .netlink code => isMissing code
  | .os type errno => type = "TimeoutError" || errno.any isMissing
  | _ => false

/-- The creation reports that there is something of the name already. -/
def Issue.exists : Issue → Bool
  | .netlink code => (code.natAbs : Int) = Exec.eexist
  | .os _ errno => errno = some Exec.eexist
  | _ => false

def Issue.errno : Issue → Option Int
  | .netlink code => some code.natAbs
  | .os _ (some errno) => some errno.natAbs
  | _ => none

/-- `_veth_missing_error`. -/
def missingError (resource phase interface : String) (netns : Option String) (cause : Option Issue) : Issue :=
  let location := (netns.map (· ++ ":")).getD "" ++ interface
  .nslab {
    code := "RESOURCE_MISSING"
    message := "network resource is missing during " ++ phase ++ ": " ++ location ++ " (" ++ resource ++ ")"
    details := [("operation", .str "create_veth"), ("resource", .str resource), ("phase", .str phase), ("interface", .str interface)] ++
      (netns.map fun netns => ("namespace", Document.str netns)).toList ++
      ((cause.bind Issue.errno).map fun errno => ("errno", Document.int errno)).toList ++
      (cause.map fun cause => ("last_error", Document.str cause.typeName)).toList }

/-- What `create_veth` raises in place of an exception. -/
def Issue.translate (resource : String) : Issue → Issue
  | .netlink code => .nslab (Exec.translateErrno (some code) "create_veth" resource)
  | .os _ errno => .nslab (Exec.translateErrno errno "create_veth" resource)
  | issue => issue

end Issues

section Calls

/-- A call with its arguments. -/
inductive Call where
  | token
  | openHandle (home : Home)
  | closeHandle (home : Home)
  | linkLookup (home : Home) (name : String)
  | getLinks (home : Home) (index : Nat)
  | linkAdd (name : String) (peer : String) (ifalias : String)
  | setAlias (home : Home) (index : Nat) (ifalias : String)
  | setNamespace (home : Home) (index : Nat) (netns : String)
  | setName (home : Home) (index : Nat) (name : String)
  | setMtu (home : Home) (index : Nat) (mtu : Int)
  | setUp (home : Home) (index : Nat)
  | tc (home : Home) (command kind : String) (index : Nat) (handle : String) (arguments : List (String × Document))
  | execute (netns : String) (command : List String)
  | linkDel (home : Home) (index : Nat)
deriving DecidableEq

/-- What comes of a call. One that fails may have taken effect. -/
inductive Reply where
  | done
  | failed (issue : Issue) (effect : Bool)
deriving DecidableEq

/-- What comes of the calls, by how many came before, and how many attempts the time until a deadline allows. -/
structure World where
  creating : Nat → Call → Reply
  cleaning : Nat → Call → Reply
  patience : Nat → Nat

structure Session where
  kernel : Kernel
  calls : Nat := 0
  patience : Nat := 0
  phase : String := ""
  rootNamesVerifiedAbsent : Bool := false
  creationAttempted : Bool := false
  created : Bool := false
  movedEndpoints : List EndpointPlan := []
  renamedEndpoints : List EndpointPlan := []
  /-- The devices that a cleanup has asked to be deleted. -/
  deleted : List Device := []

abbrev Runs (α : Type) := Action Session Issue α

/-- A call that the kernel may refuse, and that may fail in other ways. -/
def call {α : Type} (replies : Nat → Call → Reply) (request : Call) (effect : Session → Except Issue (α × Session)) : Runs α :=
  fun session =>
    let counted := { session with calls := session.calls + 1 }
    match replies session.calls request, effect counted with
    | .done, .ok (value, after) => (.ok value, after)
    | .done, .error issue => (.error issue, counted)
    | .failed issue true, .ok (_, after) => (.error issue, after)
    | .failed issue _, _ => (.error issue, counted)

/-- The error of a request that the kernel refuses. -/
def refuse : Kernel.Refusal → Issue
  | .missing => .netlink 19
  | .taken => .netlink Exec.eexist

def changing (home : Home) (index : Nat) (update : Kernel → Device → Device) (session : Session) : Except Issue (Unit × Session) :=
  match session.kernel.change home index (update session.kernel) with
  | .error refusal => .error (refuse refusal)
  | .ok kernel => .ok ((), { session with kernel })

/-- A request about a device that leaves its place as it is. -/
def touching (home : Home) (index : Nat) (session : Session) : Except Issue (Unit × Session) :=
  match session.kernel.find? home index with
  | none => .error (refuse .missing)
  | some _ => .ok ((), session)

def nothing (session : Session) : Except Issue (Unit × Session) := .ok ((), session)

variable (replies : Nat → Call → Reply)

def linkLookup (home : Home) (name : String) : Runs (List Nat) :=
  call replies (.linkLookup home name) fun session => .ok (session.kernel.lookup home name, session)

def getLinks (home : Home) (index : Nat) : Runs (List Device) :=
  call replies (.getLinks home index) fun session => match session.kernel.find? home index with
    | none => .error (refuse .missing)
    | some device => .ok ([device], session)

def setAlias (home : Home) (index : Nat) (token : String) : Runs Unit :=
  call replies (.setAlias home index token) (changing home index fun _ device => { device with ifalias := some token })

def setNamespace (home : Home) (index : Nat) (netns : String) : Runs Unit :=
  call replies (.setNamespace home index netns) (changing home index fun kernel => kernel.moved (some netns))

def setName (home : Home) (index : Nat) (name : String) : Runs Unit :=
  call replies (.setName home index name) (changing home index fun _ device => { device with name })

def linkAdd (name peer token : String) : Runs Unit :=
  call replies (.linkAdd name peer token) fun session =>
    match session.kernel.addPair none name peer (some token) (some token) with
    | .error refusal => .error (refuse refusal)
    | .ok kernel => .ok ((), { session with kernel })

def linkDel (home : Home) (index : Nat) : Runs Unit :=
  call replies (.linkDel home index) fun session => match session.kernel.delete home index with
    | .error refusal => .error (refuse refusal)
    | .ok (device, kernel) => .ok ((), { session with kernel, deleted := session.deleted ++ [device] })

/-- `with _managed_handle(...)`: the error of closing is raised where the body has raised none. -/
def managedHandle {α : Type} (home : Home) (body : Runs α) : Runs α := do
  call replies (.openHandle home) nothing
  let outcome ← Action.attempt body
  let closed ← Action.attempt (call replies (.closeHandle home) nothing)
  match outcome, closed with
  | .error issue, _ => Action.raise issue
  | .ok _, .error issue => Action.raise issue
  | .ok value, .ok _ => Action.done value

end Calls

section Waiting

variable (world : World)

def enter (phase : String) : Runs Unit := Action.modify fun session => { session with phase }

/-- `deadline = time.monotonic() + _VETH_VISIBILITY_TIMEOUT`. -/
def startWaiting : Runs Unit := Action.modify fun session => { session with patience := world.patience session.calls }

/-- Attempts until one succeeds, raises what is not transient, or the deadline has passed: then `late` tells what is raised. -/
def retrying (attempt : Runs Unit) (late : Session → Issue → Issue) : Nat → Runs Unit
  | 0 => Action.recover attempt fun issue => Action.inspect fun session =>
    .error (if issue.isTransient then late session issue else issue)
  | fuel + 1 => Action.recover attempt fun issue =>
    if issue.isTransient then do
      let session ← Action.inspect .ok
      match session.patience with
      | 0 => Action.raise (late session issue)
      | left + 1 => do
        Action.modify fun session => { session with patience := left }
        retrying attempt late fuel
    else Action.raise issue

/-- `while True` until the deadline that has just been set. -/
def untilDeadline (attempt : Runs Unit) (late : Session → Issue → Issue) : Runs Unit := do
  startWaiting world
  let session ← Action.inspect .ok
  retrying attempt late session.patience

/-- One lookup of a wait, with the last error of all lookups so far. -/
def lookupOnce (home : Home) (name : String) (last : Option Issue) : Runs (List Nat × Option Issue) :=
  Action.recover (do
    let indexes ← linkLookup world.creating home name
    pure (indexes, last)) fun
  | .netlink code => if isMissing code then pure ([], some (.netlink code)) else Action.raise (.netlink code)
  | .os type errno =>
    if (Issue.os type errno).isTransient then pure ([], some (.os type errno)) else Action.raise (.os type errno)
  | issue => Action.raise issue

/-- `_wait_for_required_index`, with the attempts that the deadline still allows. -/
def waitForRequiredIndex (home : Home) (name resource phase : String) : Nat → Option Issue → Runs Nat
  | 0, last => do
    let (indexes, last) ← lookupOnce world home name last
    match indexes.head? with
    | some index => pure index
    | none => Action.raise (missingError resource phase name none last)
  | left + 1, last => do
    let (indexes, last) ← lookupOnce world home name last
    match indexes.head? with
    | some index => pure index
    | none => do
      Action.modify fun session => { session with patience := left }
      waitForRequiredIndex home name resource phase left last

end Waiting

section Disciplines

variable (world : World) (home : Home) (index : Nat)

/-- `str(value)` of the value of an option. -/
def optionText : Document → String
  | .str value => value
  | value => reprDocument value

/-- Whether an option is on: `bool(value)`. -/
def truthy : Document → Bool
  | .null => false
  | .bool value => value
  | .int value => value ≠ 0
  | .float value => value.rational? ≠ some 0
  | .str value => value ≠ ""
  | .sequence _ items => !items.isEmpty
  | .mapping _ entries => !entries.isEmpty

/-- `_tc_qdisc_arguments`. -/
def tcQdiscArguments (qdisc : SimpleQdiscPlan) : List String :=
  qdisc.kind :: qdisc.options.entries.flatMap fun (name, value) =>
    if name = "target_ms" then ["target", optionText value ++ "ms"]
    else if name = "interval_ms" then ["interval", optionText value ++ "ms"]
    else if name = "tupdate_ms" then ["tupdate", optionText value ++ "ms"]
    else if name = "ecn" ∨ name = "bytemode" then
      if truthy value then [name]
      else if qdisc.kind ∈ ["codel", "pie", "fq_pie"] then ["no" ++ name]
      else []
    else if value = .null then [name]
    else [name, optionText value]

/-- `_fq_codel_arguments`. -/
def fqCodelArguments (qdisc : FqCodelPlan) : List (String × Document) :=
  [("fqc_limit", .int qdisc.limit), ("fqc_target", .str (toString qdisc.targetMs ++ "ms")),
    ("fqc_interval", .str (toString qdisc.intervalMs ++ "ms")), ("fqc_ecn", .int (if qdisc.ecn then 1 else 0))]

/-- `_qdisc_kind`. -/
def qdiscKind : QdiscPlan → String
  | .simple plan => plan.kind
  | .tbf _ => "tbf"
  | .fqCodel _ => "fq_codel"
  | .htb _ => "htb"
  | .cake _ => "cake"

def tc (command kind : String) (handle : String) (arguments : List (String × Document)) : Runs Unit :=
  call world.creating (.tc home command kind index handle arguments) (touching home index)

/-- A command that ends with another code than zero fails with `EOPNOTSUPP`, as every other failure of the call. -/
def tcExecute (netns : String) (command : List String) : Runs Unit := call world.creating (.execute netns command) nothing

/-- `_add_qdisc`, with `tc_executor` and `interface` given. -/
def addQdisc (qdisc : QdiscPlan) (netns interface : String) : Runs Unit :=
  let resource := netns ++ ":" ++ interface
  Action.recover (match qdisc with
    | .simple plan =>
      tcExecute world (String.ofList (resource.toList.takeWhile (· ≠ ':')))
        (["tc", "qdisc", "replace", "dev", interface, "root"] ++ tcQdiscArguments plan)
    | .tbf plan => tc world home index "add" "tbf" "1:" [("rate", .str plan.rate), ("burst", .int plan.burstBytes),
        ("latency", .str (toString plan.latencyMs ++ "ms"))]
    | .fqCodel plan => tc world home index "add" "fq_codel" "1:" (fqCodelArguments plan)
    | .htb plan => do
      tc world home index "add" "htb" "1:" [("default", .int 1)]
      tc world home index "add-class" "htb" "1:1" [("parent", .str "1:"), ("rate", .str plan.rate), ("ceil", .str plan.rate)]
      match plan.leaf with
      | .simple leaf =>
        tcExecute world (String.ofList (resource.toList.takeWhile (· ≠ ':')))
          (["tc", "qdisc", "replace", "dev", interface, "parent", "1:1", "handle", "10:"] ++ tcQdiscArguments leaf)
      | .fqCodel leaf => tc world home index "add" "fq_codel" "10:" (("parent", .str "1:1") :: fqCodelArguments leaf)
    | .cake plan => tc world home index "add" "cake" "1:" [("bandwidth", .str plan.bandwidth), ("flow_mode", .str plan.flowMode),
        ("diffserv_mode", .str plan.diffservMode), ("rtt", .int (plan.rttMs * 1000)), ("nat", .bool plan.nat)]) fun issue =>
    let unsupported := fun errno : Int => Issue.nslab {
      code := "QDISC_UNSUPPORTED"
      message := "kernel qdisc is unavailable: " ++ qdiscKind qdisc
      details := [("errno", .int errno.natAbs), ("operation", .str "create_veth"), ("qdisc", .str (qdiscKind qdisc)),
        ("resource", .str resource)] }
    match issue with
    | .netlink code => Action.raise (if isMissing code then unsupported code else issue)
    | .os _ (some errno) => Action.raise (if isMissing errno then unsupported errno else issue)
    | _ => Action.raise issue

/-- The netem request. With a rate it is a filter that is made of these arguments, without the rate at its top level. -/
def addNetem (netem : NetemPlan) : Runs Unit :=
  let timing : List (String × Document) :=
    [("delay", .int (netem.delayMs * 1000)), ("jitter", .int (netem.jitterMs * 1000)), ("loss", .int netem.lossPercent)]
  match netem.rate with
  | some rate => tc world home index "add" "netem" "1:" [("request_filter",
      .dict ([("kind", .str "netem"), ("index", .int index), ("handle", .str "1:")] ++ timing ++ [("rate", .str rate)]))]
  | none => tc world home index "add" "netem" "1:" timing

end Disciplines

section Creating

variable (world : World) (resource token : String)

/-- `_veth_resource`. -/
def vethResource (link : LinkPlan) : String := link.left.temporaryName ++ "<->" ++ link.right.temporaryName

/-- One attempt to move an end. -/
def moveOnce (endpoint : EndpointPlan) : Runs Unit := do
  enter "root-after-create"
  let session ← Action.inspect .ok
  let index ← waitForRequiredIndex world none endpoint.temporaryName resource "root-after-create" session.patience none
  enter "root-set-ownership"
  setAlias world.creating none index token
  enter "root-move-to-namespace"
  setNamespace world.creating none index endpoint.netns

/-- `_move_veth_endpoint`. -/
def moveVethEndpoint (endpoint : EndpointPlan) : Runs Unit := do
  enter "root-after-create"
  untilDeadline world (moveOnce world resource token endpoint) fun session issue =>
    missingError resource session.phase endpoint.temporaryName
      (if session.phase = "root-move-to-namespace" then some endpoint.netns else none) (some issue)

/-- The index of an end in its namespace, under its final name when it bears the token. -/
def endpointIndex (endpoint : EndpointPlan) : Runs Nat := do
  let home := some endpoint.netns
  let session ← Action.inspect .ok
  let renamed := endpoint ∈ session.renamedEndpoints
  let lookupName := if renamed then endpoint.interface else endpoint.temporaryName
  let missing := missingError resource "namespace-after-move" lookupName (some endpoint.netns) none
  let indexes ← linkLookup world.creating home lookupName
  match indexes.head? with
  | some index => pure index
  | none =>
    if renamed then Action.raise missing
    else do
      let finals ← linkLookup world.creating home endpoint.interface
      match finals.head? with
      | none => Action.raise missing
      | some index => do
        let messages ← getLinks world.creating home index
        if (messages.head?.bind Device.ifalias) = some token then do
          Action.modify fun session => { session with renamedEndpoints := endpoint :: session.renamedEndpoints }
          pure index
        else Action.raise missing

/-- An end that has not been renamed gets its final name. -/
def nameEndpoint (endpoint : EndpointPlan) (index : Nat) : Runs Unit := do
  let session ← Action.inspect .ok
  if endpoint ∈ session.renamedEndpoints then pure ()
  else do
    enter "namespace-rename"
    setName world.creating (some endpoint.netns) index endpoint.interface
    Action.modify fun session => { session with renamedEndpoints := endpoint :: session.renamedEndpoints }

/-- The queueing discipline of a link, for one of its ends. -/
def shapeEndpoint (endpoint : EndpointPlan) (index : Nat) (netem : Option NetemPlan) (qdisc : Option QdiscPlan) : Runs Unit :=
  match netem, qdisc with
  | some netem, _ => do
    enter "namespace-set-netem"
    addNetem world (some endpoint.netns) index netem
  | none, some qdisc => do
    enter "namespace-set-qdisc"
    addQdisc world (some endpoint.netns) index qdisc endpoint.netns endpoint.interface
  | none, none => pure ()

/-- One attempt to configure an end. -/
def configureOnce (endpoint : EndpointPlan) (mtu : Int) (netem : Option NetemPlan) (qdisc : Option QdiscPlan) : Runs Unit :=
  let home := some endpoint.netns
  managedHandle world.creating home do
    enter "namespace-after-move"
    let index ← endpointIndex world resource token endpoint
    nameEndpoint world endpoint index
    enter "namespace-set-mtu"
    call world.creating (.setMtu home index mtu) (touching home index)
    enter "namespace-set-up"
    call world.creating (.setUp home index) (touching home index)
    shapeEndpoint world endpoint index netem qdisc

/-- `_configure_veth_endpoint`. -/
def configureVethEndpoint (link : LinkPlan) (endpoint : EndpointPlan) : Runs Unit := do
  enter "namespace-after-move"
  untilDeadline world (configureOnce world resource token endpoint link.mtu link.netem link.qdisc) fun session issue =>
    missingError resource session.phase
      (if endpoint ∈ session.renamedEndpoints then endpoint.interface else endpoint.temporaryName) (some endpoint.netns) (some issue)

/-- The pair is made in the root namespace and its ends are moved. -/
def createInRoot (link : LinkPlan) : Runs Unit :=
  managedHandle world.creating none do
    Action.each [link.left.temporaryName, link.right.temporaryName] fun name => do
      let indexes ← linkLookup world.creating none name
      if indexes = [] then pure ()
      else Action.raise (.nslab {
        code := "RESOURCE_EXISTS"
        message := "network resource already exists: " ++ resource
        details := [("operation", .str "create_veth"), ("resource", .str resource)] })
    Action.modify fun session => { session with rootNamesVerifiedAbsent := true, creationAttempted := true }
    linkAdd world.creating link.left.temporaryName link.right.temporaryName token
    Action.modify fun session => { session with created := true }
    Action.each link.endpoints fun endpoint => do
      moveVethEndpoint world resource token endpoint
      Action.modify fun session => { session with movedEndpoints := endpoint :: session.movedEndpoints }

end Creating

section Cleaning

variable (world : World) (token : String)

/-- Remove a device that is found under a name, when it bears the token. -/
def cleanupName (home : Home) (name : String) : Runs Bool := do
  let indexes ← linkLookup world.cleaning home name
  match indexes.head? with
  | none => pure false
  | some index => do
    let messages ← getLinks world.cleaning home index
    match messages.head? with
    | none => pure false
    | some device =>
      if device.ifalias = some token then do
        linkDel world.cleaning home index
        pure true
      else pure false

/-- The names of a location in turn, until a device has been removed. -/
def cleanupNames (home : Home) : List String → Runs Unit
  | [] => pure ()
  | name :: names => do
    let removed ← Action.recover (cleanupName world token home name) fun _ => pure false
    if removed then pure () else cleanupNames home names

/-- `_cleanup_veth_location`, which raises nothing. -/
def cleanupVethLocation (home : Home) (names : List String) : Runs Unit :=
  Action.recover (managedHandle world.cleaning home (cleanupNames world token home names)) fun _ => pure ()

/-- Where a session has an end by its books. -/
def Session.location (session : Session) (endpoint : EndpointPlan) : Home × String :=
  if endpoint ∈ session.renamedEndpoints then (some endpoint.netns, endpoint.interface)
  else if endpoint ∈ session.movedEndpoints then (some endpoint.netns, endpoint.temporaryName)
  else (none, endpoint.temporaryName)

/-- `_cleanup_veth`: the root names, and then the names of each namespace. -/
def cleanupVeth (link : LinkPlan) : Runs Unit := do
  let session ← Action.inspect .ok
  let locations := link.endpoints.map session.location
  let homes := if (none : Home) ∈ locations.map Prod.fst then none :: (locations.map Prod.fst).filter (·.isSome)
    else locations.map Prod.fst
  Action.each (Dict.fromKeys homes) fun home =>
    cleanupVethLocation world token home ((locations.filter (·.1 = home)).map Prod.snd)

end Cleaning

/-- `create_veth`. -/
def createVeth (world : World) (token : String) (link : LinkPlan) : Runs Unit := do
  let resource := vethResource link
  call world.creating .token nothing
  Action.recover (do
    createInRoot world resource token link
    configureVethEndpoint world resource token link link.left
    configureVethEndpoint world resource token link link.right) fun issue => do
    let session ← Action.inspect .ok
    let failedOwnedAdd := session.rootNamesVerifiedAbsent && session.creationAttempted && !issue.exists
    if session.created || failedOwnedAdd then cleanupVeth world token link else pure ()
    Action.raise (issue.translate resource)

end Veth

end Nslab
