import Nslab.Lifecycle.Authority
import Nslab.Lifecycle.Record

/-! What a request reports is so: what its phase has last seen of the live resources,
together with what is recorded, is what its result says; and the record is deleted only
after that, and a second time only after it was found again. -/

namespace Nslab

namespace Lifecycle

section Observations

namespace Call

def inventoried : Call → Option (TopologyPlan × Except Raised LiveInventory)
  | .inventory plan reply => some (plan, reply)
  | _ => none

def polled : Call → Option (TopologyPlan × Except Raised Bool)
  | .routingReady plan reply => some (plan, reply)
  | _ => none

/-- Whether the record is deleted, or may be. -/
def deletes : Call → Bool
  | .delete _ _ => true
  | _ => false

end Call

variable (name : String) (plan : TopologyPlan) (calls : List Call)

/-- The last inventory. -/
def Sees (inventory : LiveInventory) : Prop := latest Call.inventoried calls = some (plan, .ok inventory)

/-- Routing was ready when it was last looked at, if the plan has any. -/
def RoutingReady : Prop := hasRouting plan = true → latest Call.polled calls = some (plan, .ok true)

/-- The last inventory has nothing of a plan. -/
def SeesNothing : Prop := ∃ inventory, Sees plan calls inventory ∧ inventoryIsAbsent plan inventory = true

def Undeleted : Prop := ∀ call ∈ calls, call.deletes = false

/-- Nothing has been changed. -/
def Untouched : Prop := ∀ call ∈ calls, call.Mutates = false

/-- A deletion of a record has failed, and then the record was found as it was, with nothing left of its plan. -/
def Rechecked (expected : StateSnapshot) : Prop :=
  ∃ before raised since current, calls = before ++ .delete name (.error raised) :: since ∧ Undeleted before ∧ Undeleted since ∧
    .load name (.ok (some current)) ∈ since ∧ current.same expected = true ∧ SeesNothing plan since

/-- A record may be deleted: it was written, nothing is left of what it stands for, and it has not been deleted
before, or could not be. -/
structure Deletable (expected : StateSnapshot) : Prop where
  named : expected.name = name
  written : .save expected (.ok ()) ∈ calls
  planned : expected.namespaces.Same (plan.nodes.map fun _ node => node.netns)
  nothing : SeesNothing plan calls
  once : Undeleted calls ∨ Rechecked name plan calls expected

/-- Every record that was deleted could be. -/
def Checked : Prop := ∀ before other reply after, calls = before ++ .delete other reply :: after →
  other = name ∧ ∃ plan expected, Deletable name plan before expected

variable {name plan calls} {inventory : LiveInventory} {call : Call}

theorem Sees.concat (sees : Sees plan calls inventory) (other : call.inventoried = none) :
    Sees plan (calls ++ [call]) inventory := by
  rw [Sees, latest_concat, other]
  exact sees

theorem Sees.after {before : List Call} (sees : Sees plan calls inventory) : Sees plan (before ++ call :: calls) inventory := by
  have same : latest Call.inventoried calls = some (plan, .ok inventory) := sees
  rw [Sees, List.append_cons, latest_append, same]
  rfl

theorem RoutingReady.concat (ready : RoutingReady plan calls) (other : call.polled = none) :
    RoutingReady plan (calls ++ [call]) := by
  intro routes
  rw [latest_concat, other]
  exact ready routes

theorem SeesNothing.concat (nothing : SeesNothing plan calls) (other : call.inventoried = none) :
    SeesNothing plan (calls ++ [call]) := by
  obtain ⟨inventory, sees, absent⟩ := nothing
  exact ⟨inventory, sees.concat other, absent⟩

theorem SeesNothing.after {before : List Call} (nothing : SeesNothing plan calls) :
    SeesNothing plan (before ++ call :: calls) := by
  obtain ⟨inventory, sees, absent⟩ := nothing
  exact ⟨inventory, sees.after, absent⟩

theorem Undeleted.concat (undeleted : Undeleted calls) (other : call.deletes = false) : Undeleted (calls ++ [call]) := by
  intro earlier member
  rw [List.mem_append, List.mem_singleton] at member
  obtain member | rfl := member
  · exact undeleted earlier member
  · exact other

theorem Untouched.concat (untouched : Untouched calls) (other : call.Mutates = false) : Untouched (calls ++ [call]) := by
  intro earlier member
  rw [List.mem_append, List.mem_singleton] at member
  obtain member | rfl := member
  · exact untouched earlier member
  · exact other

theorem Call.not_deletes (other : call.Mutates = false) : call.deletes = false := by
  cases call with
  | delete => cases other
  | _ => rfl

theorem Untouched.undeleted (untouched : Untouched calls) : Undeleted calls :=
  fun call member => Call.not_deletes (untouched call member)

theorem Checked.concat (checked : Checked name calls)
    (deletes : ∀ other reply, call = .delete other reply → other = name ∧ ∃ plan expected, Deletable name plan calls expected) :
    Checked name (calls ++ [call]) := by
  intro before other reply after same
  cases List.eq_nil_or_concat after with
  | inl last =>
    subst last
    obtain ⟨whole, single⟩ := List.append_inj' same rfl
    rw [List.cons.injEq] at single
    exact whole ▸ deletes other reply single.1
  | inr more =>
    obtain ⟨rest, final, rfl⟩ := more
    rw [List.concat_eq_append, ← List.cons_append, ← List.append_assoc] at same
    exact checked before other reply rest (List.append_inj' same rfl).1

theorem Undeleted.count (undeleted : Undeleted calls) : calls.countP Call.deletes = 0 := by
  rw [List.countP_eq_zero]
  intro call member
  rw [undeleted call member]
  exact Bool.false_ne_true

theorem Deletable.count {expected : StateSnapshot} (deletable : Deletable name plan calls expected) :
    calls.countP Call.deletes ≤ 1 := by
  obtain undeleted | ⟨before, raised, since, current, rfl, first, last, _⟩ := deletable.once
  · rw [undeleted.count]
    omega
  · rw [List.countP_append, List.countP_cons, first.count, last.count]
    simp [Call.deletes]

/-- A record is deleted at most twice. -/
theorem Checked.count (checked : Checked name calls) : calls.countP Call.deletes ≤ 2 := by
  induction calls using List.reverseRecOn with
  | nil => exact Nat.zero_le 2
  | append_singleton calls call ih =>
    have before : calls.countP Call.deletes ≤ 2 := by
      apply ih
      intro before other reply after same
      exact checked before other reply (after ++ [call]) (by rw [same, List.append_assoc, List.cons_append])
    rw [List.countP_append, List.countP_singleton]
    split
    next deletes =>
      cases call with
      | delete other reply =>
        obtain ⟨_, _, _, deletable⟩ := checked calls other reply [] rfl
        have once := deletable.count
        omega
      | _ => cases deletes
    · omega

end Observations

section Knowledge

variable [RedEvaluation] {text : Schema.Issue → String} {name : String} (calls : List Call)

/-- A task is recorded, and its record has not been deleted. -/
structure Task.Seen (task : Task text name) : Prop where
  written : .save task.record (.ok ()) ∈ calls
  undeleted : Undeleted calls

/-- The record of a task may have been deleted, once. -/
def Task.Doubted (task : Task text name) (seen : List Call → Prop) : Prop :=
  ∃ before raised since, calls = before ++ .delete name (.error raised) :: since ∧ task.Seen before ∧ Undeleted since ∧ seen since

/-- What has been seen in a phase. -/
def Phase.Seen : Phase text name → Prop
  | .idle => Untouched calls
  | .loaded _ => Untouched calls
  | .compared _ plan inventory ready => Untouched calls ∧ Sees plan calls inventory ∧ (ready = true → RoutingReady plan calls)
  | .surveyed plan inventory => Sees plan calls inventory ∧ Undeleted calls
  | .working task => task.Seen calls
  | .observed task inventory ready => task.Seen calls ∧ Sees task.plan calls inventory ∧
    (ready = true → RoutingReady task.plan calls)
  | .complete job verification => Sees job.plan calls verification.inventory ∧ RoutingReady job.plan calls
  | .reloaded task absence _ => task.Seen calls ∧ Sees task.plan calls absence.inventory
  | .doubtful task => task.Doubted calls fun _ => True
  | .rechecked task found => task.Doubted calls fun since => .load name (.ok found) ∈ since
  | .reconciled task found inventory =>
    task.Doubted calls fun since => .load name (.ok found) ∈ since ∧ Sees task.plan since inventory
  | .removed task absence => Sees task.plan calls absence.inventory
  | .halted => True

variable {calls} {task : Task text name} {phase next : Phase text name} {call : Call}

omit [RedEvaluation] in
theorem Task.record_named (task : Task text name) : task.record.name = name := by
  cases task with
  | build job created | undo job created => exact job.record_ok.1
  | retire job => exact job.named

omit [RedEvaluation] in
/-- The record of a task has the namespaces of its plan. -/
theorem Task.record_planned (task : Task text name) :
    task.record.namespaces.Same (task.plan.nodes.map fun _ node => node.netns) := by
  cases task with
  | build job created | undo job created =>
    have same := (snapshotForPlan_ok job.recorded).namespaces
    exact same ▸ Dict.Same.refl _
  | retire job =>
    obtain ⟨_, _, _, same⟩ := planFromSnapshot_ok job.valid
    exact same

omit [RedEvaluation] in
theorem Task.Seen.concat (seen : task.Seen calls) (other : call.deletes = false) : task.Seen (calls ++ [call]) :=
  ⟨List.mem_append_left _ seen.written, seen.undeleted.concat other⟩

omit [RedEvaluation] in
theorem Task.Doubted.concat {seen later : List Call → Prop} (doubted : task.Doubted calls seen) (other : call.deletes = false)
    (follows : ∀ since, seen since → later (since ++ [call])) : task.Doubted (calls ++ [call]) later := by
  obtain ⟨before, raised, since, rfl, written, undeleted, holds⟩ := doubted
  exact ⟨before, raised, since ++ [call], by simp, written, undeleted.concat other, follows since holds⟩

theorem Phase.Seen.of_task (seen : phase.Seen calls) (busy : phase.task? = some task) : task.Seen calls := by
  cases phase with
  | working other =>
    cases busy
    exact seen
  | observed other =>
    cases busy
    exact seen.1
  | _ => cases busy

omit [RedEvaluation] in
theorem Call.Cleans.not_deletes (cleans : call.Cleans task) : call.deletes = false := by
  cases call with
  | delete => exact cleans.elim
  | _ => rfl

omit [RedEvaluation] in
theorem Call.Constructs.not_deletes {plan : TopologyPlan} (constructs : call.Constructs plan) : call.deletes = false := by
  cases call with
  | delete => exact constructs.elim
  | _ => rfl

/-- Entering and leaving the lock show nothing. -/
theorem Phase.Seen.concat (seen : phase.Seen calls) (mutates : call.Mutates = false) (inventoried : call.inventoried = none)
    (polled : call.polled = none) : phase.Seen (calls ++ [call]) := by
  have deletes := Call.not_deletes mutates
  cases phase with
  | idle | loaded found => exact Untouched.concat seen mutates
  | compared => exact ⟨seen.1.concat mutates, seen.2.1.concat inventoried, fun ready => (seen.2.2 ready).concat polled⟩
  | surveyed => exact ⟨seen.1.concat inventoried, seen.2.concat deletes⟩
  | working => exact Task.Seen.concat seen deletes
  | observed => exact ⟨seen.1.concat deletes, seen.2.1.concat inventoried, fun ready => (seen.2.2 ready).concat polled⟩
  | complete => exact ⟨seen.1.concat inventoried, seen.2.concat polled⟩
  | reloaded => exact ⟨seen.1.concat deletes, seen.2.concat inventoried⟩
  | doubtful => exact Task.Doubted.concat seen deletes fun _ _ => trivial
  | rechecked => exact Task.Doubted.concat seen deletes fun _ => List.mem_append_left _
  | reconciled => exact Task.Doubted.concat seen deletes fun _ holds =>
    ⟨List.mem_append_left _ holds.1, holds.2.concat inventoried⟩
  | removed => exact Sees.concat seen inventoried
  | halted => trivial

omit [RedEvaluation] in
theorem Task.Seen.deletable (seen : task.Seen calls) (absence : Absence task.plan)
    (sees : Sees task.plan calls absence.inventory) :
    Deletable name task.plan calls task.record where
  named := task.record_named
  written := seen.written
  planned := task.record_planned
  nothing := ⟨absence.inventory, sees, absence.absent⟩
  once := .inl seen.undeleted

/-- A record is only deleted when it may be. -/
theorem Phase.Seen.deletable (seen : phase.Seen calls) {other : String} {reply : Except Raised Unit}
    (allowed : Step text name phase (.delete other reply) next) :
    other = name ∧ ∃ plan expected, Deletable name plan calls expected := by
  cases allowed with
  | construct constructs => exact constructs.elim
  | clean busy cleans => exact cleans.elim
  | @abandon task absence => exact ⟨rfl, _, _, seen.1.deletable absence seen.2⟩
  | @finish task reply ready absence => exact ⟨rfl, _, _, seen.1.deletable absence seen.2.1⟩
  | @retry task current reply absence expected =>
    obtain ⟨before, raised, since, rfl, written, undeleted, found, sees⟩ := seen
    have nothing : SeesNothing task.plan since := ⟨absence.inventory, sees, absence.absent⟩
    refine ⟨rfl, task.plan, task.record, task.record_named, List.mem_append_left _ written.written, task.record_planned,
      ?_, .inr ?_⟩
    · exact nothing.after
    · exact ⟨before, raised, since, current, rfl, written.undeleted, undeleted, found, expected, nothing⟩

/-- What has been seen leads to what is seen next. -/
theorem Phase.Seen.step (seen : phase.Seen calls) (allowed : Step text name phase call next) : next.Seen (calls ++ [call]) := by
  cases allowed with
  | enter | exit => exact seen.concat rfl rfl rfl
  | load => exact replied_holds (fun _ _ => Untouched.concat seen rfl) trivial
  | @compare current plan reply =>
    have kept : Untouched (calls ++ [.inventory plan reply]) := Untouched.concat seen rfl
    refine replied_holds (fun inventory same => ?_) kept
    subst same
    refine ⟨kept, latest_concat _ _ _, fun ready routes => ?_⟩
    rw [routes] at ready
    cases ready
  | @compareRouting current plan inventory ready reply =>
    have kept : Untouched (calls ++ [.routingReady plan reply]) := seen.1.concat rfl
    refine replied_holds (fun ready same => ?_) kept
    subst same
    refine ⟨kept, seen.2.1.concat rfl, fun ready => ?_⟩
    subst ready
    exact fun _ => latest_concat _ _ _
  | @survey plan reply =>
    apply replied_holds _ trivial
    intro inventory same
    subst same
    exact ⟨latest_concat _ _ _, (Untouched.undeleted seen).concat rfl⟩
  | recover => exact ⟨seen.1.concat rfl, seen.2.concat rfl⟩
  | begin =>
    apply replied_holds _ trivial
    intro _ same
    subst same
    exact ⟨List.mem_append_right _ (List.mem_singleton_self _), seen.2.concat rfl⟩
  | retire =>
    apply replied_holds _ trivial
    intro _ same
    subst same
    exact ⟨List.mem_append_right _ (List.mem_singleton_self _), (Untouched.undeleted seen).concat rfl⟩
  | @create job created node reply =>
    have seen : (Task.build job created).Seen calls := seen
    exact ⟨List.mem_append_left _ seen.written, seen.undeleted.concat rfl⟩
  | construct constructs => exact Task.Seen.concat seen constructs.not_deletes
  | clean busy cleans => exact (seen.of_task busy).concat cleans.not_deletes
  | @reread task reply => exact @Task.Seen.concat text name calls task (.load name reply) seen rfl
  | @observe phase reply task busy =>
    have kept := @Task.Seen.concat text name calls task (.inventory task.plan reply) (seen.of_task busy) rfl
    refine replied_holds (fun inventory same => ?_) kept
    subst same
    refine ⟨kept, latest_concat _ _ _, fun ready routes => ?_⟩
    rw [routes] at ready
    cases ready
  | @poll task inventory ready reply =>
    have kept := @Task.Seen.concat text name calls task (.routingReady task.plan reply) seen.1 rfl
    refine replied_holds (fun ready same => ?_) kept
    subst same
    refine ⟨kept, seen.2.1.concat rfl, fun ready => ?_⟩
    subst ready
    exact fun _ => latest_concat _ _ _
  | @confirm job created reply verification =>
    apply replied_holds
    · exact fun _ _ => ⟨seen.2.1.concat rfl, (seen.2.2 rfl).concat rfl⟩
    · exact @Task.Seen.concat text name calls (.undo job created) _ ⟨seen.1.written, seen.1.undeleted⟩ rfl
  | reload => exact replied_holds (fun _ _ => ⟨seen.1.concat rfl, seen.2.1.concat rfl⟩) trivial
  | @abandon task absence current reply =>
    cases reply with
    | ok done => exact seen.2.concat rfl
    | error raised => exact ⟨calls, raised, [], rfl, seen.1, List.forall_mem_nil _, trivial⟩
  | @finish task reply =>
    cases reply with
    | ok done => exact seen.2.1.concat rfl
    | error raised => exact ⟨calls, raised, [], rfl, seen.1, List.forall_mem_nil _, trivial⟩
  | recheck =>
    apply replied_holds _ trivial
    intro found same
    subst same
    exact Task.Doubted.concat seen rfl fun _ _ => List.mem_append_right _ (List.mem_singleton_self _)
  | reconcile =>
    apply replied_holds _ trivial
    intro inventory same
    subst same
    exact Task.Doubted.concat seen rfl fun _ found => ⟨List.mem_append_left _ found, latest_concat _ _ _⟩
  | @retry task current reply absence =>
    apply replied_holds _ trivial
    intro _ _
    obtain ⟨before, raised, since, rfl, _, _, _, sees⟩ := seen
    exact sees.after.concat rfl
  | inspectRecord | inspectLive => trivial

end Knowledge

section Runs

open LifecycleService

variable [RedEvaluation] {σ : Type} {service : LifecycleService σ} {name : String} {start session : Session σ}
  {record : σ → Option StateSnapshot} {phase : Phase service.schemaError name} {plan : TopologyPlan} {manifest : Manifest}

/-- The calls of a run show what its phase says, and delete records that may be. -/
theorem seen_of_at (followed : service.At name start phase session) :
    ∃ made, session.calls = start.calls ++ made ∧ phase.Seen made ∧ Checked name made := by
  apply Follows.invariant followed
  · refine ⟨[], by simp, List.forall_mem_nil _, ?_⟩
    intro before other reply after same
    cases before <;> cases same
  · intro phase next session call after given allowed _
    obtain ⟨made, same, seen, checked⟩ := given
    refine ⟨made ++ [call], by simp [same], seen.step allowed, checked.concat fun other reply deletes => ?_⟩
    subst deletes
    exact seen.deletable allowed

/-- Where nothing is recorded when a run starts, nothing is found. -/
def Phase.Unfound {text : Schema.Issue → String} (record : Option StateSnapshot) : Phase text name → Prop
  | .idle => record = none
  | .loaded found => found = none
  | .compared _ _ _ _ => False
  | _ => True

theorem unfound_of_at (store : service.AtomicStore name record) (unrecorded : record start.state = none)
    (followed : service.At name start phase session) : phase.Unfound (record session.state) := by
  apply @Follows.invariant _ _ _ _ _ _ _ _ _ (fun phase session => phase.Unfound (record session.state)) followed unrecorded
  intro phase next session call after unfound allowed performed
  rw [Traced.state_record]
  cases allowed with
  | enter | exit =>
    cases phase with
    | idle => exact (store.keeps rfl performed).trans unfound
    | loaded found => exact unfound
    | _ => trivial
  | @load reply =>
    refine replied_holds (fun found same => ?_) trivial
    subst same
    exact (store.loads performed).trans unfound
  | compare => cases unfound
  | compareRouting => exact unfound.elim
  | survey | begin | retire | observe | poll | confirm | reload | abandon | finish | recheck | reconcile | retry =>
    exact replied_holds (fun _ _ => trivial) trivial
  | recover | create | construct | clean | reread | inspectRecord | inspectLive => trivial

/-- What a deployment that has changed something has left: the record of the plan as it is live. -/
def Stood (record : Option StateSnapshot) (plan : TopologyPlan) (manifest : Manifest) (calls : List Call) : Prop :=
  ∃ inventory createdAt snapshot, snapshotForPlan plan manifest createdAt "deployed" (some inventory) = .ok snapshot ∧
    Backs snapshot record ∧ inventoryMatchesPlan plan inventory = .ok true ∧ Sees plan calls inventory ∧ RoutingReady plan calls

/-- What a deployment that has changed nothing has found. -/
def Found (text : Schema.Issue → String) (name : String) (record : Option StateSnapshot) (plan : TopologyPlan)
    (calls : List Call) : Prop :=
  ∃ current inventory, record = some current ∧ LifecycleService.Agrees text name plan current inventory ∧
    Sees plan calls inventory ∧
    RoutingReady plan calls

variable {result : LifecycleResult} {calls : List Call}

omit [RedEvaluation] in
theorem Sees.before {made : List Call} {inventory : LiveInventory} (sees : Sees plan made inventory) :
    Sees plan (calls ++ made) inventory := by
  have same : latest Call.inventoried made = some (plan, .ok inventory) := sees
  rw [Sees, latest_append, same]
  rfl

omit [RedEvaluation] in
theorem RoutingReady.before {made : List Call} (ready : RoutingReady plan made) : RoutingReady plan (calls ++ made) := by
  intro routes
  rw [latest_append, ready routes]
  rfl

/-- What a deployment that returns has seen and left. -/
theorem deployed_at (store : service.AtomicStore name record)
    (reached : service.Reached name start (service.DeployedAt name plan manifest result) session) :
    ∃ made, session.calls = start.calls ++ made ∧
      (result.changed = true ∧ Stood (record session.state) plan manifest made ∨
        result.changed = false ∧ Untouched made ∧ Found service.schemaError name (record session.state) plan made) := by
  obtain ⟨phase, followed, ended⟩ := reached
  obtain ⟨made, same, seen, _⟩ := seen_of_at followed
  have knows := knows_of_at store followed
  refine ⟨made, same, ?_⟩
  cases phase with
  | complete job verification =>
    obtain ⟨changed, rfl, rfl⟩ := ended
    exact .inl ⟨changed, verification.inventory, job.createdAt, verification.record, verification.recorded, knows,
      verification.live, seen⟩
  | compared current other inventory ready =>
    obtain ⟨changed, rfl, rfl, agrees⟩ := ended
    exact .inr ⟨changed, seen.1, current, inventory, knows, agrees, seen.2.1, seen.2.2 rfl⟩
  | _ => exact ended.elim

/-- What a deployment that claims to be undone has seen and left. -/
theorem settled_at {raised : Raised} (store : service.AtomicStore name record)
    (reached : service.Reached name start (service.SettledAt name plan raised) session) :
    ∃ made, session.calls = start.calls ++ made ∧
      (raised.Claims → service.Misleads ∨ record session.state = none ∧ SeesNothing plan made) := by
  obtain ⟨phase, followed, settles⟩ := reached
  obtain ⟨made, same, seen, _⟩ := seen_of_at followed
  have knows := knows_of_at store followed
  refine ⟨made, same, fun claims => ?_⟩
  obtain misleads | gone := settles claims
  · exact .inl misleads
  · cases phase with
    | removed task absence =>
      cases gone
      exact .inr ⟨knows, absence.inventory, seen, absence.absent⟩
    | reloaded task absence found =>
      cases found with
      | none =>
        cases gone
        exact .inr ⟨knows.1, absence.inventory, seen.2, absence.absent⟩
      | some current => exact gone.elim
    | _ => exact gone.elim

/-- What a removal that returns has seen and left. -/
theorem destroyed_at {wanted : Option TopologyPlan} (store : service.AtomicStore name record)
    (reached : service.Reached name start (service.DestroyedAt name wanted result) session) :
    record session.state = none ∧ ∃ made, session.calls = start.calls ++ made ∧
      (result.changed = true ∧ (∃ job : Retirement service.schemaError name,
          .load name (.ok (some job.snapshot)) ∈ made ∧ SeesNothing job.plan made) ∨
        result.changed = false ∧ ∃ plan, wanted = some plan ∧ SeesNothing plan made) := by
  obtain ⟨phase, followed, ended⟩ := reached
  obtain ⟨made, same, seen, _⟩ := seen_of_at followed
  obtain ⟨others, again, _, grounded⟩ := authorized_of_at followed
  rw [same, List.append_cancel_left_eq] at again
  subst again
  have knows := knows_of_at store followed
  cases phase with
  | removed task absence =>
    cases task with
    | retire job => exact ⟨knows, made, same, .inl ⟨ended, job, grounded, absence.inventory, seen, absence.absent⟩⟩
    | _ => exact ended.elim
  | surveyed plan inventory => exact ⟨knows, made, same, .inr ⟨ended.1, plan, ended.2.1, inventory, seen.1, ended.2.2⟩⟩
  | _ => exact ended.elim

/-- Whatever is recorded and whatever fails, a deployment that returns leaves the topology live as it is recorded, with
routing ready, in one that has changed nothing without a call that could; and one that claims to be undone leaves no
record, and nothing live. -/
theorem deploy_truthful (store : service.AtomicStore plan.name record) (held : Held manifest) (origin : σ) :
    (∀ result, (service.deploy plan manifest ⟨origin, []⟩).1 = .ok result →
      result.changed = true ∧ Stood (record (service.deploy plan manifest ⟨origin, []⟩).2.state) plan manifest
          (service.deploy plan manifest ⟨origin, []⟩).2.calls ∨
        result.changed = false ∧ Untouched (service.deploy plan manifest ⟨origin, []⟩).2.calls ∧
          Found service.schemaError plan.name (record (service.deploy plan manifest ⟨origin, []⟩).2.state) plan
            (service.deploy plan manifest ⟨origin, []⟩).2.calls) ∧
    ∀ raised, (service.deploy plan manifest ⟨origin, []⟩).1 = .error raised → raised.Claims → service.Misleads ∨
      record (service.deploy plan manifest ⟨origin, []⟩).2.state = none ∧
        SeesNothing plan (service.deploy plan manifest ⟨origin, []⟩).2.calls := by
  obtain ⟨returns, raises⟩ := (@deploy_follows _ _ service ⟨origin, []⟩ plan manifest held).outcomes .start
  have fresh : (Traced.mk origin [] : Session σ).calls = [] := rfl
  refine ⟨fun result returned => ?_, fun raised failed => ?_⟩
  · obtain ⟨made, same, reported⟩ := deployed_at store (returns result returned)
    rw [fresh, List.nil_append] at same
    exact same ▸ reported
  · obtain ⟨made, same, reported⟩ := settled_at store (raises raised failed)
    rw [fresh, List.nil_append] at same
    exact same ▸ reported

/-- A removal that returns leaves no record, and nothing live: of the topology that was recorded, or of the one that
was asked for. -/
theorem destroy_truthful (store : service.AtomicStore name record) (wanted : Option TopologyPlan) (origin : σ)
    (returned : (service.destroy wanted name ⟨origin, []⟩).1 = .ok result) :
    record (service.destroy wanted name ⟨origin, []⟩).2.state = none ∧
      (result.changed = true ∧ (∃ job : Retirement service.schemaError name,
          .load name (.ok (some job.snapshot)) ∈ (service.destroy wanted name ⟨origin, []⟩).2.calls ∧
          SeesNothing job.plan (service.destroy wanted name ⟨origin, []⟩).2.calls) ∨
        result.changed = false ∧ ∃ plan, wanted = some plan ∧
          SeesNothing plan (service.destroy wanted name ⟨origin, []⟩).2.calls) := by
  have fresh : (Traced.mk origin [] : Session σ).calls = [] := rfl
  obtain ⟨gone, made, same, reported⟩ := destroyed_at store ((destroy_follows.outcomes .start).1 result returned)
  rw [fresh, List.nil_append] at same
  exact ⟨gone, same ▸ reported⟩

/-- A redeployment that returns has changed something, and leaves the topology live as it is recorded. -/
theorem redeploy_truthful (store : service.AtomicStore plan.name record) (held : Held manifest) (origin : σ)
    (returned : (service.redeploy plan manifest ⟨origin, []⟩).1 = .ok result) : result.changed = true ∧
      Stood (record (service.redeploy plan manifest ⟨origin, []⟩).2.state) plan manifest
        (service.redeploy plan manifest ⟨origin, []⟩).2.calls := by
  obtain ⟨middle, destroyed, deployed, first, changed, last⟩ := ((redeploy_follows held).outcomes .start).1 result returned
  obtain ⟨gone, _⟩ := destroyed_at store first
  obtain ⟨phase, followed, ended⟩ := last
  have unfound := unfound_of_at store gone followed
  obtain ⟨made, same, reported⟩ := deployed_at store ⟨phase, followed, ended⟩
  obtain ⟨some, inventory, createdAt, snapshot, recorded, backs, live, sees, ready⟩ | ⟨none, _⟩ := reported
  · refine ⟨by rw [changed, some, Bool.or_true], inventory, createdAt, snapshot, recorded, backs, live, ?_, ?_⟩
    · exact same ▸ sees.before
    · exact same ▸ ready.before
  · -- A deployment that changes nothing has found a record.
    cases phase with
    | complete job verification => exact absurd (ended.1.symm.trans none) (by decide)
    | compared => exact unfound.elim
    | _ => exact ended.elim

/-- The records that a request deletes could be deleted. -/
theorem checked_of_stands (stands : service.Stands name start session) :
    ∃ made, session.calls = start.calls ++ made ∧ Checked name made := by
  obtain ⟨_, followed⟩ := stands
  obtain ⟨made, same, _, checked⟩ := seen_of_at followed
  exact ⟨made, same, checked⟩

/-- Whatever fails, a request deletes a record only after it was written and nothing is left of what it stands for, and
a second time only after it was found as it was, with nothing left still. Redeploying is a removal and a deployment. -/
theorem serve_checked (request : Request) (origin : σ) : ∃ first second,
    (service.serve request ⟨origin, []⟩).2.calls = first ++ second ∧ Checked request.name first ∧ Checked request.name second ∧
      first.countP Call.deletes ≤ 2 ∧ second.countP Call.deletes ≤ 2 ∧
      ((∀ plan manifest held, request ≠ .redeploy plan manifest held) → second = []) := by
  have empty : Checked request.name [] := by
    intro before other reply after same
    cases before <;> cases same
  have once : service.Stands request.name ⟨origin, []⟩ (service.serve request ⟨origin, []⟩).2 → ∃ first second,
      (service.serve request ⟨origin, []⟩).2.calls = first ++ second ∧ Checked request.name first ∧ Checked request.name second ∧
        first.countP Call.deletes ≤ 2 ∧ second.countP Call.deletes ≤ 2 ∧
        ((∀ plan manifest held, request ≠ .redeploy plan manifest held) → second = []) := by
    intro stands
    obtain ⟨made, same, checked⟩ := checked_of_stands stands
    exact ⟨made, [], same.trans (List.append_nil made).symm, checked, empty, checked.count, Nat.zero_le 2, fun _ => rfl⟩
  cases request with
  | deploy plan manifest held =>
    obtain ⟨returns, raises⟩ := (@deploy_follows _ _ service ⟨origin, []⟩ plan manifest held).outcomes .start
    apply once
    cases outcome : (service.deploy plan manifest ⟨origin, []⟩).1 with
    | ok result => exact (returns result outcome).stands
    | error raised => exact (raises raised outcome).stands
  | destroy wanted name =>
    obtain ⟨returns, raises⟩ := (@destroy_follows _ _ service name ⟨origin, []⟩ wanted).outcomes .start
    apply once
    cases outcome : (service.destroy wanted name ⟨origin, []⟩).1 with
    | ok result => exact (returns result outcome).stands
    | error raised => exact (raises raised outcome).stands
  | redeploy plan manifest held =>
    obtain ⟨middle, first, second⟩ := @serve_ran _ _ service (.redeploy plan manifest held) ⟨origin, []⟩
    obtain ⟨made, same, checked⟩ := checked_of_stands first
    obtain ⟨others, later, again⟩ := checked_of_stands second
    exact ⟨made, others, by rw [later, same]; rfl, checked, again, checked.count, again.count,
      fun other => absurd rfl (other plan manifest held)⟩

end Runs

end Lifecycle

end Nslab
