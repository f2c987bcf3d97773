import Nslab.Backend.Tbf
import Nslab.Lifecycle.Outcomes
import Nslab.Lifecycle.WriteAhead
import Nslab.StateRead

/-! The lifecycle service with its records in files: whatever comes of the calls on the
files, loading, saving and deleting are atomic, so all that follows from that holds. -/

namespace Nslab

namespace Store

section Atomicity

variable (root : String) (files : String → Option String) {name : String}

/-- However a run that is truthful ends, the file is as it was or as it was to be. -/
theorem Truthful.either {isNew : Option String → Prop} {before : String → Option String} {run : Except Raised Unit × Session}
    (truthful : Truthful name isNew before run) : run.2.files name = before name ∨ isNew (run.2.files name) := by
  cases outcome : run.1 with
  | ok done => exact .inr (truthful.done outcome)
  | error raised =>
    by_cases uncertain : raised.code = some "STATE_DURABILITY_UNCERTAIN"
    · exact .inr (truthful.uncertain raised outcome uncertain)
    · by_cases unknown : raised.code = some "STATE_COMMIT_OUTCOME_UNKNOWN"
      · exact truthful.unknown raised outcome unknown
      · exact .inl (congrFun (truthful.unwritten raised outcome uncertain unknown) name)

/-- However a save ends, the file is as it was or has the text of the snapshot. -/
theorem save_either (calls : SaveCalls) (snapshot : StateSnapshot) :
    (save root calls snapshot { files }).2.files snapshot.name = files snapshot.name ∨
      Saved snapshot ((save root calls snapshot { files }).2.files snapshot.name) := by
  by_cases begins : Begins calls snapshot
  · obtain ⟨serialized, written⟩ := begins.2.1
    rw [save_begun root files begins written]
    obtain ⟨_, wrote⟩ | ⟨_, failure, after, wrote, unwritten⟩ := @writeTemporary_run calls serialized { files } rfl rfl rfl rfl
    · have moved : Saved snapshot ((Session.move { files, temporary := some serialized, temporaryPath := true }
      snapshot.name).files
          snapshot.name) := ⟨serialized, written, if_pos rfl⟩
      obtain ⟨_, _, run⟩ | ⟨_, failure, after, run, either, _⟩ | ⟨_, failure, noted, run, _⟩ :=
        @commit_run calls (statePath root snapshot.name) snapshot.name
          { files, temporary := some serialized, temporaryPath := true } rfl rfl
      · have both : (writeTemporary calls serialized >>= fun _ => commit calls (statePath root snapshot.name) snapshot.name)
            { files } = _ := (Action.bind_of_ok wrote).trans run
        rw [@replaceFile_ok calls (statePath root snapshot.name) snapshot.name serialized _ _ both rfl rfl]
        exact .inr moved
      · obtain ⟨_, _, raises, ended⟩ := replaceFile_error ((Action.bind_of_ok wrote).trans run)
        rw [raises, ended.files]
        obtain rfl | rfl := either
        · exact .inl rfl
        · exact .inr moved
      · obtain ⟨_, _, raises, ended⟩ := replaceFile_error ((Action.bind_of_ok wrote).trans run)
        rw [raises, ended.files]
        exact .inr moved
    · obtain ⟨_, _, raises, ended⟩ := @replaceFile_error calls (statePath root snapshot.name) snapshot.name serialized _ _ _
        (Action.bind_of_error wrote)
      rw [raises, ended.files, unwritten.files]
      exact .inl rfl
  · exact (save_unbegun root files begins).either

/-- However a deletion ends, the file is as it was or is gone, and it is gone when nothing is raised. -/
theorem delete_either (calls : DeleteCalls) (name : String) :
    ((delete root calls name { files }).2.files name = files name ∨ (delete root calls name { files }).2.files name = none) ∧
      ((delete root calls name { files }).1 = .ok () → (delete root calls name { files }).2.files name = none) := by
  unfold delete
  by_cases named : isName name = true
  · rw [Action.bind_of_ok (checkedPath_done root named _)]
    have gone : without files name name = none := if_pos rfl
    obtain ⟨absent, failure, run, missing⟩ | ⟨_, _, run⟩ | ⟨_, issue, took, _, run⟩ := @unlinkState_run calls name files
    · rw [Action.bind_of_ok (show Action.attempt (unlinkState calls name) { files } = (.ok (.error (.raw failure)), { files }) by
        rw [Action.attempt, run])]
      simp only [if_pos missing, Action.done]
      exact ⟨.inl trivial, fun _ => absent⟩
    · rw [Action.bind_of_ok (show Action.attempt (unlinkState calls name) { files } =
      (.ok (.ok ()), { files := without files name }) by
        rw [Action.attempt, run])]
      have kept : (raisingFrom (fun _ => true) (durabilityError (statePath root name) "delete")
        (fsyncDirectory calls.directoryOpen
          calls.directoryFsync calls.directoryClose) { files := without files name }).2.files name = none := by
        obtain ⟨synced, _⟩ | ⟨failure, noted, synced, _⟩ :=
          @fsyncDirectory_run calls.directoryOpen calls.directoryFsync calls.directoryClose { files := without files name } rfl
        · simp only [raisingFrom, Action.recover, synced, gone]
        · simp only [raisingFrom, Action.recover, synced, if_true, Action.raise, gone]
      exact ⟨.inr kept, fun _ => kept⟩
    · rw [Action.bind_of_ok (show Action.attempt (unlinkState calls name) { files } = (.ok (.error (.raw ⟨.unlink, issue⟩)),
        { files := if took = true ∨ issue.kind = .fileNotFound then without files name else files }) by rw [Action.attempt, run])]
      by_cases missing : issue.kind = .fileNotFound
      · simp only [missing, or_true, if_true, Action.done]
        exact ⟨.inr gone, fun _ => gone⟩
      · simp only [missing, or_false, if_false, Action.raise]
        refine ⟨?_, fun done => (by cases done)⟩
        cases took with
        | true => exact .inr gone
        | false => exact .inl rfl
  · rw [Action.bind_of_error (show checkedPath root name { files } =
      (.error (.nslab (deploymentNameError name) none), { files }) by rw [checkedPath, if_neg named]; rfl)]
    exact ⟨.inl rfl, fun done => (by cases done)⟩

variable {root files} {decodeError : String → String}

/-- What is loaded for a deployment is up to its own file. -/
theorem load_file {reading : Option Issue} {others : String → Option String} (same : files name = others name) :
    load root decodeError reading files name = load root decodeError reading others name := by
  simp only [load, same]

/-- What reading a file raises is never that it was loaded, where a file that is there is found. -/
theorem load_reads {reading : Option Issue} (found : ∀ issue ∈ reading, issue.kind ≠ .fileNotFound)
    {record : Option StateSnapshot}
    (loaded : load root decodeError reading files name = .ok record) : load root decodeError none files name = .ok record := by
  cases reading with
  | none => exact loaded
  | some issue =>
    have other := found issue rfl
    unfold load at loaded
    dsimp only at loaded
    split at loaded
    · split at loaded
      next kind => exact absurd kind other
      · cases loaded
      · cases loaded
      · cases loaded
    · cases loaded

end Atomicity

end Store

namespace Lifecycle

section Machines

/-- What is raised by a call on files. -/
def Raised.ofIssue (issue : Store.Issue) : Raised :=
  if issue.type = "KeyboardInterrupt" then .interrupt issue.text else .exception issue.type issue.text

def Raised.ofStore : Store.Raised → Raised
  | .nslab error _ => .nslab error
  | .raw failure => .ofIssue failure.issue

def Raised.ofLoad : Store.LoadRaised → Raised
  | .nslab error _ => .nslab error
  | .raw issue => .ofIssue issue

/-- A system with the files of its deployments and all else. -/
structure Machine (ω : Type) where
  files : String → Option String
  rest : ω

/-- A call that has nothing to do with the files. -/
def Machine.aside {ω α : Type} (effect : Action ω Raised α) : Action (Machine ω) Raised α := fun machine =>
  ((effect machine.rest).1, { machine with rest := (effect machine.rest).2 })

/-- A store in a directory, and what comes of the calls that are made on the files of it. A file that is there is found. -/
structure StateStore (ω : Type) where
  root : String
  decodeError : String → String
  reading : ω → Option Store.Issue
  found : ∀ state, ∀ issue ∈ reading state, issue.kind ≠ .fileNotFound
  saving : ω → Store.SaveCalls
  deleting : ω → Store.DeleteCalls
  /-- What happens to all else in the meantime. -/
  passes : ω → ω

namespace StateStore

variable {ω : Type} (store : StateStore ω)

def load (name : String) : Action (Machine ω) Raised (Option StateSnapshot) := fun machine =>
  (Checks.mapIssue Raised.ofLoad (Store.load store.root store.decodeError (store.reading machine.rest) machine.files name),
    { machine with rest := store.passes machine.rest })

def save (snapshot : StateSnapshot) : Action (Machine ω) Raised Unit := fun machine =>
  let (reply, after) := Store.save store.root (store.saving machine.rest) snapshot { files := machine.files }
  (Checks.mapIssue Raised.ofStore reply, ⟨after.files, store.passes machine.rest⟩)

def delete (name : String) : Action (Machine ω) Raised Unit := fun machine =>
  let (reply, after) := Store.delete store.root (store.deleting machine.rest) name { files := machine.files }
  (Checks.mapIssue Raised.ofStore reply, ⟨after.files, store.passes machine.rest⟩)

/-- What the file of a deployment reads as. -/
def record (name : String) (machine : Machine ω) : Option StateSnapshot :=
  (Store.load store.root store.decodeError none machine.files name).toOption.join

/-- A lifecycle service with its records in files. -/
def service (backend : NetworkBackend ω) (lock : Lock ω) (timestamp : ω → String) (schemaError : Schema.Issue → String) :
    LifecycleService (Machine ω) where
  backend := {
    inventory := fun plan => Machine.aside (backend.inventory plan)
    createNamespace := fun node => Machine.aside (backend.createNamespace node)
    createBridge := fun node => Machine.aside (backend.createBridge node)
    createVeth := fun link => Machine.aside (backend.createVeth link)
    configureNode := fun node plan => Machine.aside (backend.configureNode node plan)
    deleteNamespace := fun netns => Machine.aside (backend.deleteNamespace netns)
    startRouting := backend.startRouting.map fun method plan => Machine.aside (method plan)
    stopRouting := backend.stopRouting.map fun method plan => Machine.aside (method plan)
    routingReady := backend.routingReady.map fun method plan => Machine.aside (method plan) }
  stateStore := ⟨store.load, store.save, store.delete⟩
  lock := {
    enter := fun name => Machine.aside (lock.enter name)
    exit := fun name raised => Machine.aside (lock.exit name raised) }
  timestamp := fun machine => timestamp machine.rest
  schemaError

variable {store} {backend : NetworkBackend ω} {lock : Lock ω} {timestamp : ω → String} {schemaError : Schema.Issue → String}
  {name : String} {machine after : Machine ω}

theorem aside_files {α : Type} {effect : Action ω Raised α} {reply : Except Raised α}
    (performed : Machine.aside effect machine = (reply, after)) : after.files = machine.files := by
  rw [Machine.aside, Prod.mk.injEq] at performed
  exact performed.2 ▸ rfl

/-- Only saving and deleting change files. -/
theorem files_kept {call : Call} (quiet : call.Stores = false)
    (performed : (store.service backend lock timestamp schemaError).Performs machine call after) :
    after.files = machine.files := by
  cases call with
  | save | delete => cases quiet
  | load name reply =>
    obtain ⟨_, same⟩ := Prod.mk.inj performed
    exact same ▸ rfl
  | startRouting | stopRouting | routingReady =>
    obtain ⟨method, supported, performed⟩ := performed
    obtain ⟨own, _, rfl⟩ := Option.map_eq_some_iff.mp supported
    exact aside_files performed
  | _ => exact aside_files performed

theorem record_of_load {found : Option StateSnapshot}
    (loaded : Store.load store.root store.decodeError none machine.files name = .ok found) :
    store.record name machine = found := by
  rw [record, loaded]
  rfl

theorem record_files (same : after.files name = machine.files name) : store.record name after = store.record name machine := by
  rw [record, record, Store.load_file same]

theorem backs_of_saved {snapshot : StateSnapshot} (genuine : snapshot.Genuine)
    (content : Store.Saved snapshot (machine.files snapshot.name)) : Backs snapshot (store.record snapshot.name machine) := by
  obtain ⟨loaded, read, restores⟩ := Store.load_saved store.root store.decodeError genuine content
  exact ⟨loaded, record_of_load read, restores⟩

theorem record_gone (gone : machine.files name = none) : store.record name machine = none := by
  unfold record Store.load
  dsimp only
  split
  · rw [gone]
    rfl
  · rfl

/-- Whatever comes of the calls on the files, the records of the service are kept atomically. -/
theorem atomic [RedEvaluation] : (store.service backend lock timestamp schemaError).AtomicStore name (store.record name) where
  loads := by
    intro before found after performed
    obtain ⟨read, _⟩ := Prod.mk.inj performed
    exact (record_of_load (Store.load_reads (store.found _) (Checks.mapIssue_ok.mp read))).symm
  genuine := by
    intro before snapshot same
    unfold record at same
    cases loaded : Store.load store.root store.decodeError none before.files name with
    | error raised =>
      rw [loaded] at same
      cases same
    | ok found =>
      rw [loaded] at same
      cases same
      exact (Store.load_sound loaded).2.1
  saves := by
    intro before snapshot reply after named genuine performed
    subst named
    obtain ⟨_, rfl⟩ := Prod.mk.inj performed
    cases Store.save_either store.root before.files (store.saving before.rest) snapshot with
    | inl same => exact .inl (record_files same)
    | inr content => exact .inr (backs_of_saved genuine content)
  saved := by
    intro before snapshot after named genuine performed
    subst named
    obtain ⟨reply, rfl⟩ := Prod.mk.inj performed
    exact backs_of_saved genuine (Store.save_done store.root before.files (Prod.ext (Checks.mapIssue_ok.mp reply) rfl))
  deletes := by
    intro before reply after performed
    obtain ⟨_, rfl⟩ := Prod.mk.inj performed
    cases (Store.delete_either store.root before.files (store.deleting before.rest) name).1 with
    | inl same => exact .inl (record_files same)
    | inr gone => exact .inr (record_gone gone)
  deleted := by
    intro before after performed
    obtain ⟨reply, rfl⟩ := Prod.mk.inj performed
    exact record_gone ((Store.delete_either store.root before.files (store.deleting before.rest) name).2
      (Checks.mapIssue_ok.mp reply))
  keeps := by
    intro before call after quiet performed
    exact record_files (congrFun (files_kept quiet performed) name)

end StateStore

end Machines

section Examples

def loopback : InterfaceInventory where
  name := "lo"
  kind := "loopback"
  ifindex := some 1
  master := none
  mtu := 65536
  up := true
  addresses := [loopbackAddress]

/-- A namespace as it is seen where only namespaces are told apart. -/
def observedNode (live : List String) (node : NodePlan) : NamespaceInventory where
  node := node.name
  kind := node.kind
  netns := node.netns
  live := decide (node.netns ∈ live)
  interfaces := if node.netns ∈ live then .ofEntries [("lo", loopback)] else .empty
  routes := if node.netns ∈ live then (expectedRoutes node).toOption.getD [] else []
  sysctls := .empty

/-- A backend that has nothing but namespaces. -/
def bareBackend : NetworkBackend (List String) where
  inventory plan := Action.inspect fun live => .ok {
    namespaces := .ofEntries (plan.nodes.values.map fun node => (node.netns, observedNode live node)) }
  createNamespace node := fun live =>
    if node.netns ∈ live then (.error (.nslab ⟨"RESOURCE_EXISTS", "namespace already exists: " ++ node.netns, []⟩), live)
    else (.ok (), node.netns :: live)
  createBridge _ := pure ()
  createVeth _ := pure ()
  configureNode _ _ := pure ()
  deleteNamespace netns := fun live =>
    if netns ∈ live then (.ok (), live.filter (· ≠ netns))
    else (.error (.nslab ⟨"RESOURCE_MISSING", "namespace does not exist: " ++ netns, []⟩), live)
  startRouting := none
  stopRouting := none
  routingReady := none

/-- A directory on which nothing fails. -/
def smoothStore : StateStore (List String) where
  root := "/run/nslab"
  decodeError _ := "Expecting value"
  reading _ := none
  found _ _ never := (by cases never)
  saving _ := Store.smoothCalls
  deleting _ := ⟨.done, .done, .done, .done⟩
  passes := id

def bareService : LifecycleService (Machine (List String)) :=
  smoothStore.service bareBackend ⟨fun _ => pure (), fun _ _ => pure ()⟩ (fun _ => "2026-01-01T00:00:00+00:00") fun _ => "invalid"

theorem bareService_observant : bareService.Observant fun machine netns => netns ∈ machine.rest where
  sees := by
    intro before plan inventory after performed netns _ observed found
    obtain ⟨reply, _⟩ := Prod.mk.inj performed
    cases reply
    have member := Dict.mem_of_get?_ofEntries found
    obtain ⟨node, _, same⟩ := List.mem_map.mp member
    cases same
    exact decide_eq_true_iff
  creates := by
    intro before call after netns performed now earlier
    cases call with
    | createNamespace node reply =>
      obtain ⟨_, rfl⟩ := Prod.mk.inj performed
      simp only [bareBackend] at now
      split at now
      · exact absurd now earlier
      · cases now with
        | head => exact ⟨node, reply, rfl, rfl⟩
        | tail _ member => exact absurd member earlier
    | deleteNamespace other reply =>
      obtain ⟨_, rfl⟩ := Prod.mk.inj performed
      simp only [bareBackend] at now
      split at now
      · exact absurd (List.mem_of_mem_filter now) earlier
      · exact absurd now earlier
    | startRouting | stopRouting | routingReady =>
      obtain ⟨_, supported, _⟩ := performed
      cases supported
    | _ =>
      obtain ⟨_, rfl⟩ := Prod.mk.inj performed
      exact absurd now earlier

/-- One node without interfaces. -/
def bareDocument : Document :=
  .dict [("version", .int 1), ("name", .str "lab"), ("topology", .dict [
    ("nodes", .dict [("a", .dict [("kind", .str "linux")])]), ("links", .list [])])]

/-- Nothing is recorded, and nothing is there. -/
def bareStart : Session (Machine (List String)) := ⟨⟨fun _ => none, []⟩, []⟩

/-- A namespace was created, and is there. -/
def leavesNamespace (session : Session (Machine (List String))) : Bool :=
  session.state.rest.any fun netns => session.calls.any fun call => match call with
    | .createNamespace node _ => node.netns = netns
    | _ => false

theorem bare_runs : ∃ manifest plan, validateManifest bareDocument = .ok manifest ∧ Held manifest ∧
    compilePlan manifest none = .ok plan ∧
    plan.name = "lab" ∧ (@LifecycleService.deploy noRed _ bareService plan manifest bareStart).1.isOk = true ∧
      (@LifecycleService.destroy noRed _ bareService (some plan) "lab" bareStart).1.isOk = true ∧
      (@LifecycleService.redeploy noRed _ bareService plan manifest bareStart).1.isOk = true ∧
      leavesNamespace (@LifecycleService.redeploy noRed _ bareService plan manifest bareStart).2 = true := by
  obtain ⟨manifest, read, accepted, passes⟩ := Manifest.accepted_of_test bareDocument (by decide +kernel)
    (fun manifest => (normalizedManifest manifest).genuine && (compilePlan manifest none).toOption.any fun plan =>
      plan.name = "lab" && (@LifecycleService.deploy noRed _ bareService plan manifest bareStart).1.isOk &&
        (@LifecycleService.destroy noRed _ bareService (some plan) "lab" bareStart).1.isOk &&
        (@LifecycleService.redeploy noRed _ bareService plan manifest bareStart).1.isOk &&
        leavesNamespace (@LifecycleService.redeploy noRed _ bareService plan manifest bareStart).2) (by decide +kernel)
  rw [Bool.and_eq_true] at passes
  obtain ⟨genuine, compiles⟩ := passes
  cases compiled : compilePlan manifest none with
  | error issue => simp [compiled, Except.toOption] at compiles
  | ok plan =>
    simp only [compiled, Except.toOption, Option.any_some, Bool.and_eq_true, decide_eq_true_eq] at compiles
    exact ⟨manifest, plan, read, ⟨accepted, genuine⟩, compiled, compiles.1.1.1.1, compiles.1.1.1.2, compiles.1.1.2,
      compiles.1.2, compiles.2⟩

theorem bare_history {plan : TopologyPlan} {manifest : Manifest} (held : Held manifest) (named : plan.name = "lab") :
    @LifecycleService.History noRed _ bareService "lab" (fun _ => True)
      (@LifecycleService.redeploy noRed _ bareService plan manifest bareStart).2 :=
  @LifecycleService.History.serve noRed _ _ _ _ _ (@LifecycleService.History.initial noRed _ _ _ _ _ trivial)
    (.redeploy plan manifest held) named

end Examples

section Reports

variable {ω : Type} {store : StateStore ω} {backend : NetworkBackend ω} {lock : Lock ω} {timestamp : ω → String}
  {schemaError : Schema.Issue → String} {name : String}

/-- Whatever comes of the calls on the files, of those of the backend and of the lock, and wherever a crash cuts a request
short: what is recorded for a deployment only moves from nothing to deploying, from there to deployed or to nothing, and
from deployed to destroying and to nothing, with its name, fingerprint, manifest and time of creation as they were; and a
record that an earlier request has left deploying or destroying is not changed by a later one. -/
theorem record_moves [RedEvaluation] {initial : Machine ω → Prop} {session : Session (Machine ω)}
    (history : (store.service backend lock timestamp schemaError).History name initial session) :
    session.Evolves (fun before after => Moves (store.record name before) (store.record name after)) ∧
    ∀ request later stuck, request.name = name → session.Earlier later →
      later.Earlier ((store.service backend lock timestamp schemaError).serve request session).2 →
      store.record name session.state = some stuck → stuck.status ≠ "deployed" → store.record name later.state = some stuck :=
  history_moves StateStore.atomic history

theorem record_moves_lab : ∃ plan manifest,
    (@LifecycleService.redeploy noRed _ bareService plan manifest bareStart).1.isOk = true ∧
    (@LifecycleService.redeploy noRed _ bareService plan manifest bareStart).2.Evolves fun before after =>
      Moves (smoothStore.record "lab" before) (smoothStore.record "lab" after) := by
  obtain ⟨manifest, plan, _, held, _, named, _, _, redeployed, _⟩ := bare_runs
  exact ⟨plan, manifest, redeployed, (@record_moves _ smoothStore _ _ _ _ _ noRed _ _ (bare_history held named)).1⟩

/-- Where inventories tell what is live and nobody else creates the namespaces: whatever fails, whatever is interrupted and
wherever a crash cuts a request short, the file of the deployment compiles to a plan with every live namespace that was
created for it. -/
theorem record_covers [RedEvaluation] {initial : Machine ω → Prop} {session : Session (Machine ω)}
    {live : Machine ω → String → Prop}
    (observant : (store.service backend lock timestamp schemaError).Observant live)
    (history : (store.service backend lock timestamp schemaError).History name initial session) {netns : String}
    (created : Created netns session.calls) (now : live session.state netns) :
    ∃ snapshot manifest plan, store.record name session.state = some snapshot ∧
      snapshot.manifest.validate = .ok manifest ∧ compilePlan manifest (some name) = .ok plan ∧ netns ∈ plannedNamespaces plan :=
  history_recorded StateStore.atomic observant history created now

theorem record_covers_lab : ∃ plan manifest netns,
    netns ∈ (@LifecycleService.redeploy noRed _ bareService plan manifest bareStart).2.state.rest ∧
    ∃ snapshot written again,
      smoothStore.record "lab" (@LifecycleService.redeploy noRed _ bareService plan manifest bareStart).2.state = some snapshot ∧
      snapshot.manifest.validate = .ok written ∧ compilePlan written (some "lab") = .ok again ∧
        netns ∈ plannedNamespaces again := by
  obtain ⟨manifest, plan, _, held, _, named, _, _, _, leaves⟩ := bare_runs
  obtain ⟨netns, live, made⟩ := List.any_eq_true.mp leaves
  obtain ⟨call, member, creates⟩ := List.any_eq_true.mp made
  cases call with
  | createNamespace node reply =>
    exact ⟨plan, manifest, netns, live, @record_covers _ smoothStore _ _ _ _ _ noRed _ _ _ bareService_observant
      (bare_history held named) _
      ⟨node, reply, member, of_decide_eq_true creates⟩ live⟩
  | _ => cases creates

/-- Whatever is in the files and whatever fails, a deployment that returns leaves the topology live as it is recorded, with
routing ready, in one that has changed nothing without a call that could; and one that claims to be undone leaves no
record, and nothing live. -/
theorem deploy_reports [RedEvaluation] {plan : TopologyPlan} {manifest : Manifest} (held : Held manifest) (origin : Machine ω)
    {reply : Except Raised LifecycleResult} {after : Session (Machine ω)}
    (run : (store.service backend lock timestamp schemaError).deploy plan manifest ⟨origin, []⟩ = (reply, after)) :
    (∀ result, reply = .ok result →
      result.changed = true ∧ Stood (store.record plan.name after.state) plan manifest after.calls ∨
        result.changed = false ∧ Untouched after.calls ∧
          Found schemaError plan.name (store.record plan.name after.state) plan after.calls) ∧
    ∀ raised, reply = .error raised → raised.Claims → (store.service backend lock timestamp schemaError).Misleads ∨
      store.record plan.name after.state = none ∧ SeesNothing plan after.calls := by
  have truthful := deploy_truthful (@StateStore.atomic _ store backend lock timestamp schemaError plan.name _) held origin
  rw [run] at truthful
  exact truthful

theorem deploy_reports_lab : ∃ plan manifest result after,
    @LifecycleService.deploy noRed _ bareService plan manifest bareStart = (.ok result, after) ∧
      (result.changed = true ∧ @Stood noRed (smoothStore.record plan.name after.state) plan manifest after.calls ∨
        result.changed = false) := by
  obtain ⟨manifest, plan, _, held, _, _, deployed, _⟩ := bare_runs
  cases run : @LifecycleService.deploy noRed _ bareService plan manifest bareStart with
  | mk reply after =>
    rw [run] at deployed
    cases reply with
    | error raised => cases deployed
    | ok result =>
      refine ⟨plan, manifest, result, after, run, ?_⟩
      obtain stood | found := (@deploy_reports _ smoothStore _ _ _ _ noRed _ _ held _ _ _ run).1 result rfl
      · exact .inl stood
      · exact .inr found.1

/-- A removal that returns leaves no record, and nothing live: of the topology that was recorded, or of the one that
was asked for. -/
theorem destroy_reports [RedEvaluation] {wanted : Option TopologyPlan} (origin : Machine ω) {result : LifecycleResult}
    {after : Session (Machine ω)}
    (run : (store.service backend lock timestamp schemaError).destroy wanted name ⟨origin, []⟩ = (.ok result, after)) :
    store.record name after.state = none ∧
      (result.changed = true ∧ (∃ job : Retirement schemaError name,
          .load name (.ok (some job.snapshot)) ∈ after.calls ∧ SeesNothing job.plan after.calls) ∨
        result.changed = false ∧ ∃ plan, wanted = some plan ∧ SeesNothing plan after.calls) := by
  have returned : ((store.service backend lock timestamp schemaError).destroy wanted name ⟨origin, []⟩).1 = .ok result := by
    rw [run]
  have truthful := destroy_truthful (@StateStore.atomic _ store backend lock timestamp schemaError name _) wanted origin returned
  rw [run] at truthful
  exact truthful

theorem destroy_reports_lab : ∃ plan result after,
    @LifecycleService.destroy noRed _ bareService (some plan) "lab" bareStart = (.ok result, after) ∧
      smoothStore.record "lab" after.state = none := by
  obtain ⟨manifest, plan, _, _, _, _, _, destroyed, _⟩ := bare_runs
  cases run : @LifecycleService.destroy noRed _ bareService (some plan) "lab" bareStart with
  | mk reply after =>
    rw [run] at destroyed
    cases reply with
    | error raised => cases destroyed
    | ok result => exact ⟨plan, result, after, run, (@destroy_reports _ smoothStore _ _ _ _ _ noRed _ _ _ _ run).1⟩

/-- A redeployment that returns has changed something, and leaves the topology live as it is recorded. -/
theorem redeploy_reports [RedEvaluation] {plan : TopologyPlan} {manifest : Manifest} (held : Held manifest) (origin : Machine ω)
    {result : LifecycleResult} {after : Session (Machine ω)}
    (run : (store.service backend lock timestamp schemaError).redeploy plan manifest ⟨origin, []⟩ = (.ok result, after)) :
    result.changed = true ∧ Stood (store.record plan.name after.state) plan manifest after.calls := by
  have returned : ((store.service backend lock timestamp schemaError).redeploy plan manifest ⟨origin, []⟩).1 = .ok result := by
    rw [run]
  have truthful := redeploy_truthful (@StateStore.atomic _ store backend lock timestamp schemaError plan.name _) held
    origin returned
  rw [run] at truthful
  exact truthful

theorem redeploy_reports_lab : ∃ plan manifest result after,
    @LifecycleService.redeploy noRed _ bareService plan manifest bareStart = (.ok result, after) ∧ result.changed = true ∧
      @Stood noRed (smoothStore.record plan.name after.state) plan manifest after.calls := by
  obtain ⟨manifest, plan, _, held, _, _, _, _, redeployed, _⟩ := bare_runs
  cases run : @LifecycleService.redeploy noRed _ bareService plan manifest bareStart with
  | mk reply after =>
    rw [run] at redeployed
    cases reply with
    | error raised => cases redeployed
    | ok result =>
      exact ⟨plan, manifest, result, after, run, @redeploy_reports _ smoothStore _ _ _ _ noRed _ _ held _ _ _ run⟩

end Reports

end Lifecycle

end Nslab
