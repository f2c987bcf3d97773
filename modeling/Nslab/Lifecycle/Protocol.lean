import Nslab.Lifecycle.Service

/-! What a lifecycle operation may do when: a protocol between what it knows of the
record and of the live resources, and the calls that it makes. The phases carry what
the calls before have shown, and each rule asks for what makes its call safe. -/

namespace Nslab

namespace Lifecycle

section Tasks

theorem planFromSnapshot_ok {text : Schema.Issue → String} {snapshot : StateSnapshot} {plan : TopologyPlan}
    (valid : planFromSnapshot text snapshot = .ok plan) :
    ∃ manifest, snapshot.manifest.validate = .ok manifest ∧ compilePlan manifest (some snapshot.name) = .ok plan ∧
      snapshot.namespaces.Same (plan.nodes.map fun _ node => node.netns) := by
  rw [planFromSnapshot, Checks.mapIssue_ok, Checks.map_ok] at valid
  obtain ⟨outcome, valid, rfl⟩ := valid
  obtain ⟨whole, planned, rest⟩ := Checks.bind_ok.mp valid
  simp only [Checks.bind_ok, Checks.pure_ok] at rest
  obtain ⟨_, _, rfl⟩ := rest
  unfold snapshotPlan at planned
  split at planned
  · cases planned
  next manifest validated =>
    obtain ⟨plan, compiled, rest⟩ := Checks.bind_ok.mp planned
    simp only [Checks.bind_ok, Except.ok.injEq, Checks.raiseIf_ok, not_not] at rest
    obtain ⟨_, _, _, same, rfl⟩ := rest
    exact ⟨manifest, validated, compiled, same⟩

theorem compilePlan_name {manifest : Manifest} {name : String} {plan : TopologyPlan}
    (compiled : compilePlan manifest (some name) = .ok plan) : plan.name = name := by
  simp only [compilePlan, Checks.bind_ok, Checks.pure_ok] at compiled
  obtain ⟨deployment, named, _, _, _, _, rfl⟩ := compiled
  unfold effectiveDeploymentName at named
  split at named
  next missing => cases missing
  next other same =>
    split at named
    · rw [← Except.ok.inj named, Option.some.inj same]
    · cases named

/-- A manifest as it is held once it is validated: its floats are doubles, and no mapping has a key twice. -/
structure Held (manifest : Manifest) : Prop where
  accepted : manifest.Accepted
  genuine : (normalizedManifest manifest).genuine = true

/-- A deployment that is being built, with its record. -/
structure Undertaking (name : String) where
  plan : TopologyPlan
  manifest : Manifest
  createdAt : String
  record : StateSnapshot
  held : Held manifest
  named : plan.name = name
  compiled : validatePlanManifest plan manifest = .ok ()
  recorded : snapshotForPlan plan manifest createdAt "deploying" none = .ok record

/-- A deployment that is there as it was planned, with its record. -/
structure Undertaking.Verification [RedEvaluation] {name : String} (job : Undertaking name) where
  inventory : LiveInventory
  record : StateSnapshot
  live : inventoryMatchesPlan job.plan inventory = .ok true
  recorded : snapshotForPlan job.plan job.manifest job.createdAt "deployed" (some inventory) = .ok record

/-- A recorded deployment that is being taken down. -/
structure Retirement (text : Schema.Issue → String) (name : String) where
  snapshot : StateSnapshot
  plan : TopologyPlan
  named : snapshot.name = name
  stable : snapshot.status = "deployed"
  valid : planFromSnapshot text snapshot = .ok plan

def Retirement.record {text : Schema.Issue → String} {name : String} (job : Retirement text name) : StateSnapshot :=
  { job.snapshot with status := "destroying" }

theorem Retirement.plan_named {text : Schema.Issue → String} {name : String} (job : Retirement text name) :
    job.plan.name = name := by
  obtain ⟨manifest, _, compiled, _⟩ := planFromSnapshot_ok job.valid
  exact (compilePlan_name compiled).trans job.named

/-- An inventory that has nothing of a plan. -/
structure Absence (plan : TopologyPlan) where
  inventory : LiveInventory
  absent : inventoryIsAbsent plan inventory = true

/-- What is under way. A deployment whose last record may have been written is only undone. -/
inductive Task (text : Schema.Issue → String) (name : String) where
  | build (job : Undertaking name) (created : List String)
  | undo (job : Undertaking name) (created : List String)
  | retire (job : Retirement text name)

variable {text : Schema.Issue → String} {name : String}

namespace Task

def plan : Task text name → TopologyPlan
  | .build job _ => job.plan
  | .undo job _ => job.plan
  | .retire job => job.plan

/-- The record that stands for the task, and that may be deleted when nothing is left. -/
def record : Task text name → StateSnapshot
  | .build job _ => job.record
  | .undo job _ => job.record
  | .retire job => job.record

/-- The namespaces that may be deleted. -/
def may : Task text name → List String
  | .build _ created => created
  | .undo _ created => created
  | .retire job => plannedNamespaces job.plan

/-- Whether the record has to be read again before it is deleted. -/
def rereads : Task text name → Bool
  | .retire _ => false
  | _ => true

end Task

end Tasks

section Phases

variable [RedEvaluation] (text : Schema.Issue → String) (name : String)

/-- What an operation knows. -/
inductive Phase where
  | idle
  | loaded (found : Option StateSnapshot)
  /-- What is recorded is compared with what is live. -/
  | compared (current : StateSnapshot) (plan : TopologyPlan) (inventory : LiveInventory) (ready : Bool)
  /-- Nothing is recorded. -/
  | surveyed (plan : TopologyPlan) (inventory : LiveInventory)
  | working (task : Task text name)
  /-- Whether routing is ready, as far as there is any. -/
  | observed (task : Task text name) (inventory : LiveInventory) (ready : Bool)
  | complete (job : Undertaking name) (verification : job.Verification)
  | reloaded (task : Task text name) (absence : Absence task.plan) (found : Option StateSnapshot)
  /-- The record may have been deleted. -/
  | doubtful (task : Task text name)
  | rechecked (task : Task text name) (found : Option StateSnapshot)
  | reconciled (task : Task text name) (found : Option StateSnapshot) (inventory : LiveInventory)
  | removed (task : Task text name) (absence : Absence task.plan)
  /-- Nothing more is changed. -/
  | halted

variable {text name}

/-- The task that is worked on. -/
def Phase.task? : Phase text name → Option (Task text name)
  | .working task => some task
  | .observed task _ _ => some task
  | _ => none

/-- The record is gone, and nothing of the plan is left. -/
def Phase.Gone (plan : TopologyPlan) : Phase text name → Prop
  | .removed task _ => task.plan = plan
  | .reloaded task _ none => task.plan = plan
  | _ => False

end Phases

section Rules

/-- What a reply leads to. -/
def replied {α π : Type} (reply : Except Raised α) (done : α → π) (failed : π) : π :=
  match reply with
  | .ok value => done value
  | .error _ => failed

@[simp] theorem replied_ok {α π : Type} {value : α} {done : α → π} {failed : π} :
    replied (.ok value) done failed = done value := rfl

@[simp] theorem replied_error {α π : Type} {issue : Raised} {done : α → π} {failed : π} :
    replied (.error issue) done failed = failed := rfl

theorem replied_holds {α π : Type} {holds : π → Prop} {reply : Except Raised α} {done : α → π} {failed : π}
    (succeeds : ∀ value, reply = .ok value → holds (done value)) (fails : holds failed) : holds (replied reply done failed) := by
  cases reply with
  | ok value => exact succeeds value rfl
  | error raised => exact fails

/-- A call that builds, but for namespaces. -/
def Call.Constructs (plan : TopologyPlan) : Call → Prop
  | .createBridge node _ => node ∈ plan.nodes.values ∧ node.kind = .bridge
  | .createVeth link _ => link ∈ plan.links
  | .configureNode node whole _ => node ∈ plan.nodes.values ∧ whole = plan
  | .startRouting whole _ => whole = plan
  | _ => False

/-- A call that takes down what a task may take down. -/
def Call.Cleans {text : Schema.Issue → String} {name : String} (task : Task text name) : Call → Prop
  | .stopRouting plan _ => plan = task.plan
  | .deleteNamespace netns _ => netns ∈ task.may
  | _ => False

variable [RedEvaluation] (text : Schema.Issue → String) (name : String)

/-- The protocol. -/
inductive Step : Phase text name → Call → Phase text name → Prop where
  | enter {phase reply} : Step phase (.enter name reply) phase
  | exit {phase raised reply} : Step phase (.exit name raised reply) phase
  | load {reply} : Step .idle (.load name reply) (replied reply .loaded .halted)
  | compare {current plan reply} : Step (.loaded (some current)) (.inventory plan reply)
      (replied reply (fun inventory => .compared current plan inventory !hasRouting plan) (.loaded (some current)))
  | compareRouting {current plan inventory ready reply} : Step (.compared current plan inventory ready) (.routingReady plan reply)
      (replied reply (.compared current plan inventory) (.loaded (some current)))
  | survey {plan reply} (named : plan.name = name) :
    Step (.loaded none) (.inventory plan reply) (replied reply (.surveyed plan) .halted)
  | recover {plan inventory reply} (absent : inventoryIsAbsent plan inventory = true) :
    Step (.surveyed plan inventory) (.stopRouting plan reply) (.surveyed plan inventory)
  | begin {job : Undertaking name} {inventory reply} (absent : inventoryIsAbsent job.plan inventory = true) :
    Step (.surveyed job.plan inventory) (.save job.record reply) (replied reply (fun _ => .working (.build job [])) .halted)
  | retire {job : Retirement text name} {reply} :
    Step (.loaded (some job.snapshot)) (.save job.record reply) (replied reply (fun _ => .working (.retire job)) .halted)
  | create {job : Undertaking name} {created node reply} (planned : node ∈ job.plan.nodes.values) :
    Step (.working (.build job created)) (.createNamespace node reply)
      (.working (.build job (replied reply (fun _ => created ++ [node.netns]) created)))
  | construct {job : Undertaking name} {created call} (constructs : call.Constructs job.plan) :
    Step (.working (.build job created)) call (.working (.build job created))
  | clean {phase call} {task : Task text name} (busy : phase.task? = some task) (cleans : call.Cleans task) :
    Step phase call (.working task)
  | observe {phase reply} {task : Task text name} (busy : phase.task? = some task) :
    Step phase (.inventory task.plan reply)
      (replied reply (fun inventory => .observed task inventory !hasRouting task.plan) (.working task))
  | poll {task : Task text name} {inventory ready reply} : Step (.observed task inventory ready) (.routingReady task.plan reply)
      (replied reply (fun ready => .observed task inventory ready) (.working task))
  | confirm {job : Undertaking name} {created reply} (verification : job.Verification) :
    Step (.observed (.build job created) verification.inventory true) (.save verification.record reply)
      (replied reply (fun _ => .complete job verification) (.working (.undo job created)))
  | reread {task : Task text name} {reply} : Step (.working task) (.load name reply) (.working task)
  | reload {task : Task text name} {reply ready} (absence : Absence task.plan) (rereads : task.rereads = true) :
    Step (.observed task absence.inventory ready) (.load name reply)
      (replied reply (fun found => .reloaded task absence found) .halted)
  | abandon {task : Task text name} {absence : Absence task.plan} {current reply} (expected : current.same task.record = true) :
    Step (.reloaded task absence (some current)) (.delete name reply)
      (replied reply (fun _ => .removed task absence) (.doubtful task))
  | finish {task : Task text name} {reply ready} (absence : Absence task.plan) (rereads : task.rereads = false) :
    Step (.observed task absence.inventory ready) (.delete name reply)
      (replied reply (fun _ => .removed task absence) (.doubtful task))
  | recheck {task : Task text name} {reply} :
    Step (.doubtful task) (.load name reply) (replied reply (.rechecked task) .halted)
  | reconcile {task : Task text name} {found reply} : Step (.rechecked task found) (.inventory task.plan reply)
      (replied reply (.reconciled task found) .halted)
  | retry {task : Task text name} {current reply} (absence : Absence task.plan) (expected : current.same task.record = true) :
    Step (.reconciled task (some current) absence.inventory) (.delete name reply)
      (replied reply (fun _ => .removed task absence) .halted)
  | inspectRecord {reply} : Step .halted (.load name reply) .halted
  | inspectLive {plan reply} : Step .halted (.inventory plan reply) .halted

end Rules

end Lifecycle

end Nslab
