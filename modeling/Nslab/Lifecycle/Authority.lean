import Nslab.Lifecycle.Requests

/-! Nothing is changed without authority: either the record that was found may be taken
down, or nothing was recorded and nothing of the plan was there. A namespace is only
deleted when it belongs to such a record or was created by the request itself. -/

namespace Nslab

namespace Lifecycle

section Evidence

/-- A call that changes the record, the live resources or the routing. -/
def Call.Mutates : Call → Bool
  | .enter _ _ | .exit _ _ _ | .load _ _ | .inventory _ _ | .routingReady _ _ => false
  | _ => true

variable (text : Schema.Issue → String) (name : String) (calls : List Call)

/-- The record was found stable, consistent and with the requested name. -/
def Retires (job : Retirement text name) : Prop := .load name (.ok (some job.snapshot)) ∈ calls

/-- Nothing was recorded and nothing of the plan was there, before the last of the calls. -/
def Clear (plan : TopologyPlan) (since : List Call) : Prop :=
  ∃ before inventory, calls = before ++ .inventory plan (.ok inventory) :: since ∧ .load name (.ok none) ∈ before ∧
    plan.name = name ∧ inventoryIsAbsent plan inventory = true

def Authority : Prop := (∃ job, Retires text name calls job) ∨ ∃ plan since, Clear name calls plan since

/-- A namespace of a record that may be taken down, or one that was created since nothing was there. -/
def Owns (netns : String) : Prop :=
  (∃ job, Retires text name calls job ∧ netns ∈ plannedNamespaces job.plan) ∨
  ∃ plan since, Clear name calls plan since ∧ ∃ node ∈ plan.nodes.values, node.netns = netns ∧
    .createNamespace node (.ok ()) ∈ since

variable {text name calls} {others : List Call}

theorem Retires.mono {job : Retirement text name} (retires : Retires text name calls job) (within : calls <:+: others) :
    Retires text name others job := within.subset retires

theorem Clear.mono {plan : TopologyPlan} {since : List Call} (clear : Clear name calls plan since) (within : calls <:+: others) :
    ∃ later, Clear name others plan later ∧ since ⊆ later := by
  obtain ⟨before, inventory, rfl, recorded, named, absent⟩ := clear
  obtain ⟨first, last, rfl⟩ := within
  refine ⟨since ++ last, ⟨first ++ before, inventory, by simp, ?_, named, absent⟩, List.subset_append_left _ _⟩
  exact List.mem_append_right _ recorded

theorem Clear.concat {plan : TopologyPlan} {since : List Call} (clear : Clear name calls plan since) (call : Call) :
    Clear name (calls ++ [call]) plan (since ++ [call]) := by
  obtain ⟨before, inventory, rfl, rest⟩ := clear
  exact ⟨before, inventory, by simp, rest⟩

theorem Authority.mono (authority : Authority text name calls) (within : calls <:+: others) : Authority text name others := by
  obtain ⟨job, retires⟩ | ⟨plan, since, clear⟩ := authority
  · exact .inl ⟨job, retires.mono within⟩
  · obtain ⟨later, clear, _⟩ := clear.mono within
    exact .inr ⟨plan, later, clear⟩

theorem Owns.mono {netns : String} (owns : Owns text name calls netns) (within : calls <:+: others) :
    Owns text name others netns := by
  obtain ⟨job, retires, planned⟩ | ⟨plan, since, clear, node, planned, same, created⟩ := owns
  · exact .inl ⟨job, retires.mono within, planned⟩
  · obtain ⟨later, clear, subset⟩ := clear.mono within
    exact .inr ⟨plan, later, clear, node, planned, same, subset created⟩

/-- Every call that changes something has authority, and every namespace that is deleted is owned. -/
def Authorized (text : Schema.Issue → String) (name : String) (calls : List Call) : Prop :=
  ∀ before call after, calls = before ++ call :: after → (call.Mutates = true → Authority text name before) ∧
    ∀ netns reply, call = .deleteNamespace netns reply → Owns text name before netns

theorem Authorized.nil : Authorized text name [] := by
  intro before call after same
  cases before <;> cases same

theorem Authorized.concat {call : Call} (authorized : Authorized text name calls)
    (mutates : call.Mutates = true → Authority text name calls)
    (deletes : ∀ netns reply, call = .deleteNamespace netns reply → Owns text name calls netns) :
    Authorized text name (calls ++ [call]) := by
  intro before other after same
  cases List.eq_nil_or_concat after with
  | inl last =>
    subst last
    obtain ⟨whole, single⟩ := List.append_inj' same rfl
    rw [List.cons.injEq] at single
    exact whole ▸ single.1 ▸ ⟨mutates, deletes⟩
  | inr more =>
    obtain ⟨rest, final, rfl⟩ := more
    rw [List.concat_eq_append, ← List.cons_append, ← List.append_assoc] at same
    exact authorized before other rest (List.append_inj' same rfl).1

/-- What is authorized is so after other calls. -/
theorem Authorized.append (first : Authorized text name calls) (second : Authorized text name others) :
    Authorized text name (calls ++ others) := by
  intro before call after same
  rw [List.append_eq_append_iff] at same
  obtain ⟨middle, rfl, same⟩ | ⟨middle, rfl, same⟩ := same
  · have own := second middle call after same
    have within : middle <:+: calls ++ middle := (List.suffix_append calls middle).isInfix
    exact ⟨fun mutates => (own.1 mutates).mono within, fun netns reply deletes => (own.2 netns reply deletes).mono within⟩
  · cases middle with
    | nil =>
      rw [List.nil_append] at same
      have own := second [] call after same.symm
      have within : [] <:+: before := List.nil_infix
      exact ⟨fun mutates => (own.1 mutates).mono within, fun netns reply deletes => (own.2 netns reply deletes).mono within⟩
    | cons head rest =>
      rw [List.cons_append, List.cons.injEq] at same
      obtain ⟨rfl, rfl⟩ := same
      exact first before call rest rfl

end Evidence

section Knowledge

variable [RedEvaluation] {text : Schema.Issue → String} {name : String} {calls : List Call}

/-- What has been seen for a task. -/
def Task.Grounded (calls : List Call) : Task text name → Prop
  | .build job created => ∃ since, Clear name calls job.plan since ∧
      ∀ netns ∈ created, ∃ node ∈ job.plan.nodes.values, node.netns = netns ∧ .createNamespace node (.ok ()) ∈ since
  | .undo job created => ∃ since, Clear name calls job.plan since ∧
      ∀ netns ∈ created, ∃ node ∈ job.plan.nodes.values, node.netns = netns ∧ .createNamespace node (.ok ()) ∈ since
  | .retire job => Retires text name calls job

/-- What has been seen in a phase. -/
def Phase.Grounded (calls : List Call) : Phase text name → Prop
  | .idle => True
  | .loaded found => .load name (.ok found) ∈ calls
  | .compared current _ _ _ => .load name (.ok (some current)) ∈ calls
  | .surveyed plan inventory => plan.name = name ∧
      ∃ before since, calls = before ++ .inventory plan (.ok inventory) :: since ∧ .load name (.ok none) ∈ before
  | .working task => task.Grounded calls
  | .observed task _ _ => task.Grounded calls
  | .complete job _ => ∃ since, Clear name calls job.plan since
  | .reloaded task _ _ => task.Grounded calls
  | .doubtful task => task.Grounded calls
  | .rechecked task _ => task.Grounded calls
  | .reconciled task _ _ => task.Grounded calls
  | .removed task _ => task.Grounded calls
  | .halted => True

variable {task : Task text name} {phase next : Phase text name} {call : Call}

omit [RedEvaluation] in
theorem Task.Grounded.concat (grounded : task.Grounded calls) : task.Grounded (calls ++ [call]) := by
  have within : calls <:+: calls ++ [call] := (List.prefix_append calls [call]).isInfix
  have since : ∀ (job : Undertaking name) (created : List String), (∃ since, Clear name calls job.plan since ∧
      ∀ netns ∈ created, ∃ node ∈ job.plan.nodes.values, node.netns = netns ∧ .createNamespace node (.ok ()) ∈ since) →
      ∃ since, Clear name (calls ++ [call]) job.plan since ∧
        ∀ netns ∈ created, ∃ node ∈ job.plan.nodes.values, node.netns = netns ∧ .createNamespace node (.ok ()) ∈ since := by
    intro job created given
    obtain ⟨since, clear, made⟩ := given
    obtain ⟨later, clear, subset⟩ := clear.mono within
    refine ⟨later, clear, fun netns member => ?_⟩
    obtain ⟨node, planned, same, created⟩ := made netns member
    exact ⟨node, planned, same, subset created⟩
  cases task with
  | build job created => exact since job created grounded
  | undo job created => exact since job created grounded
  | retire job => exact Retires.mono grounded within

omit [RedEvaluation] in
theorem Task.Grounded.authority (grounded : task.Grounded calls) : Authority text name calls := by
  cases task with
  | build job created | undo job created =>
    obtain ⟨since, clear, _⟩ := grounded
    exact .inr ⟨_, since, clear⟩
  | retire job => exact .inl ⟨job, grounded⟩

omit [RedEvaluation] in
theorem Task.Grounded.owns (grounded : task.Grounded calls) {netns : String} (may : netns ∈ task.may) :
    Owns text name calls netns := by
  cases task with
  | build job created | undo job created =>
    obtain ⟨since, clear, made⟩ := grounded
    exact .inr ⟨_, since, clear, made netns may⟩
  | retire job => exact .inl ⟨job, grounded, may⟩

theorem Phase.Grounded.of_task (grounded : phase.Grounded calls) (busy : phase.task? = some task) : task.Grounded calls := by
  cases phase with
  | working other | observed other =>
    cases busy
    exact grounded
  | _ => cases busy

theorem Phase.Grounded.concat (grounded : phase.Grounded calls) : phase.Grounded (calls ++ [call]) := by
  cases phase with
  | idle | halted => trivial
  | loaded | compared => exact List.mem_append_left _ grounded
  | surveyed plan inventory =>
    obtain ⟨named, before, since, rfl, recorded⟩ := grounded
    exact ⟨named, before, since ++ [call], by simp, recorded⟩
  | complete job verification =>
    obtain ⟨since, clear⟩ := grounded
    obtain ⟨later, clear, _⟩ := clear.mono (List.prefix_append calls [call]).isInfix
    exact ⟨later, clear⟩
  | working | observed | reloaded | doubtful | rechecked | reconciled | removed => exact Task.Grounded.concat grounded

/-- A request only changes something with authority. -/
theorem Phase.Grounded.authority (grounded : phase.Grounded calls) (allowed : Step text name phase call next)
    (mutates : call.Mutates = true) : Authority text name calls := by
  cases allowed with
  | enter | exit | load | compare | compareRouting | survey | observe | poll | reread | reload | recheck | reconcile
  | inspectRecord | inspectLive => cases mutates
  | recover absent =>
    obtain ⟨named, before, since, same, recorded⟩ := grounded
    exact .inr ⟨_, since, before, _, same, recorded, named, absent⟩
  | begin absent =>
    obtain ⟨named, before, since, same, recorded⟩ := grounded
    exact .inr ⟨_, since, before, _, same, recorded, named, absent⟩
  | @retire job reply => exact .inl ⟨job, grounded⟩
  | clean busy cleans => exact (grounded.of_task busy).authority
  | @create job created | @construct job created | @confirm job created =>
    exact @Task.Grounded.authority _ _ _ (.build job created) grounded
  | abandon | finish | retry => exact Task.Grounded.authority grounded

/-- A request only deletes what it owns. -/
theorem Phase.Grounded.owns (grounded : phase.Grounded calls) {netns : String} {reply : Except Raised Unit}
    (allowed : Step text name phase (.deleteNamespace netns reply) next) : Owns text name calls netns := by
  cases allowed with
  | construct constructs => exact constructs.elim
  | clean busy cleans => exact (grounded.of_task busy).owns cleans

/-- What has been seen leads to what is seen next. -/
theorem Phase.Grounded.step (grounded : phase.Grounded calls) (allowed : Step text name phase call next) :
    next.Grounded (calls ++ [call]) := by
  cases allowed with
  | enter | exit | recover | inspectRecord | inspectLive => exact grounded.concat
  | compare | compareRouting => exact replied_holds (fun _ _ => List.mem_append_left _ grounded) (List.mem_append_left _ grounded)
  | @load reply =>
    cases reply with
    | ok found => exact List.mem_append_right _ (List.mem_singleton_self _)
    | error raised => trivial
  | @survey plan reply named =>
    cases reply with
    | ok inventory => exact ⟨named, calls, [], rfl, grounded⟩
    | error raised => trivial
  | begin absent =>
    obtain ⟨named, before, since, same, recorded⟩ := grounded
    have clear : Clear name calls _ since := ⟨before, _, same, recorded, named, absent⟩
    exact replied_holds (fun _ _ => ⟨_, clear.concat _, List.forall_mem_nil _⟩) trivial
  | retire => exact replied_holds (fun _ _ => Retires.mono grounded (List.prefix_append calls _).isInfix) trivial
  | @create job created node reply planned =>
    cases reply with
    | error raised => exact @Task.Grounded.concat text _ _ (.build job created) _ grounded
    | ok done =>
      obtain ⟨since, clear, made⟩ := grounded
      refine ⟨_, clear.concat _, fun netns member => ?_⟩
      rw [replied_ok, List.mem_append, List.mem_singleton] at member
      obtain earlier | rfl := member
      · obtain ⟨other, planned, same, created⟩ := made netns earlier
        exact ⟨other, planned, same, List.mem_append_left _ created⟩
      · exact ⟨node, planned, rfl, List.mem_append_right _ (List.mem_singleton_self _)⟩
  | @construct job created => exact @Task.Grounded.concat text _ _ (.build job created) _ grounded
  | reread => exact Task.Grounded.concat grounded
  | clean busy cleans => exact (grounded.of_task busy).concat
  | observe busy => exact replied_holds (fun _ _ => (grounded.of_task busy).concat) (grounded.of_task busy).concat
  | @confirm job created reply verification =>
    obtain ⟨since, clear, made⟩ := grounded
    exact replied_holds (fun _ _ => ⟨_, clear.concat _⟩)
      (@Task.Grounded.concat text _ _ (.undo job created) _ ⟨since, clear, made⟩)
  | poll | abandon | finish => exact replied_holds (fun _ _ => Task.Grounded.concat grounded) (Task.Grounded.concat grounded)
  | reload | recheck | reconcile | retry => exact replied_holds (fun _ _ => Task.Grounded.concat grounded) trivial

end Knowledge

section Runs

open LifecycleService

variable [RedEvaluation] {σ : Type} {service : LifecycleService σ} {name : String} {start session : Session σ}
  {phase : Phase service.schemaError name}

/-- The calls of a run are authorized, and show what its phase says. -/
theorem authorized_of_at (followed : service.At name start phase session) :
    ∃ made, session.calls = start.calls ++ made ∧ Authorized service.schemaError name made ∧ phase.Grounded made := by
  apply Follows.invariant followed
  · exact ⟨[], by simp, .nil, trivial⟩
  · intro phase next session call after given allowed _
    obtain ⟨made, same, authorized, grounded⟩ := given
    refine ⟨made ++ [call], by simp [same], ?_, grounded.step allowed⟩
    apply authorized.concat fun mutates => grounded.authority allowed mutates
    intro netns reply deletes
    subst deletes
    exact grounded.owns allowed

/-- Where a request ends that returns, it had authority for what it says. -/
theorem authority_of_deployed {plan : TopologyPlan} {manifest : Manifest} {result : LifecycleResult}
    (reached : service.Reached name start (service.DeployedAt name plan manifest result) session) :
    ∃ made, session.calls = start.calls ++ made ∧ Authorized service.schemaError name made ∧
      Authority service.schemaError name made := by
  obtain ⟨phase, followed, ended⟩ := reached
  obtain ⟨made, same, authorized, grounded⟩ := authorized_of_at followed
  refine ⟨made, same, authorized, ?_⟩
  cases phase with
  | complete job verification =>
    obtain ⟨since, clear⟩ := grounded
    exact .inr ⟨_, since, clear⟩
  | compared current other inventory ready =>
    obtain ⟨_, _, _, agrees⟩ := ended
    obtain ⟨recorded, rfl⟩ := agrees.stable
    exact .inl ⟨recorded, grounded⟩
  | _ => exact ended.elim

theorem authority_of_destroyed {wanted : Option TopologyPlan} {result : LifecycleResult}
    (reached : service.Reached name start (service.DestroyedAt name wanted result) session) :
    ∃ made, session.calls = start.calls ++ made ∧ Authorized service.schemaError name made ∧
      Authority service.schemaError name made := by
  obtain ⟨phase, followed, ended⟩ := reached
  obtain ⟨made, same, authorized, grounded⟩ := authorized_of_at followed
  refine ⟨made, same, authorized, ?_⟩
  cases phase with
  | removed task absence => exact Task.Grounded.authority grounded
  | surveyed plan inventory =>
    obtain ⟨named, before, since, same, recorded⟩ := grounded
    exact .inr ⟨plan, since, before, inventory, same, recorded, named, ended.2.2⟩
  | _ => exact ended.elim

theorem authorized_of_ran (ran : service.Ran name start session) :
    ∃ made, session.calls = start.calls ++ made ∧ Authorized service.schemaError name made := by
  obtain ⟨middle, ⟨_, first⟩, ⟨_, second⟩⟩ := ran
  obtain ⟨made, same, authorized, _⟩ := authorized_of_at first
  obtain ⟨others, later, again, _⟩ := authorized_of_at second
  exact ⟨made ++ others, by rw [later, same, List.append_assoc], authorized.append again⟩

theorem authority_of_redeployed {plan : TopologyPlan} {manifest : Manifest} {result : LifecycleResult}
    (redeployed : service.Redeployed plan manifest start result session) :
    ∃ made, session.calls = start.calls ++ made ∧ Authorized service.schemaError plan.name made ∧
      Authority service.schemaError plan.name made := by
  obtain ⟨middle, destroyed, deployed, first, _, last⟩ := redeployed
  obtain ⟨made, same, authorized, authority⟩ := authority_of_destroyed first
  obtain ⟨others, later, again, _⟩ := authority_of_deployed last
  exact ⟨made ++ others, by rw [later, same, List.append_assoc], authorized.append again,
    authority.mono (List.prefix_append made others).isInfix⟩

/-- A request that returns had authority for what it says. -/
theorem serve_authority {request : Request} {result : LifecycleResult}
    (returned : (service.serve request start).1 = .ok result) :
    ∃ made, (service.serve request start).2.calls = start.calls ++ made ∧
      Authority service.schemaError request.name made := by
  cases request with
  | deploy plan manifest held =>
    obtain ⟨made, same, _, authority⟩ := authority_of_deployed (((deploy_follows held).outcomes .start).1 _ returned)
    exact ⟨made, same, authority⟩
  | destroy wanted name =>
    obtain ⟨made, same, _, authority⟩ := authority_of_destroyed ((destroy_follows.outcomes .start).1 _ returned)
    exact ⟨made, same, authority⟩
  | redeploy plan manifest held =>
    obtain ⟨made, same, _, authority⟩ := authority_of_redeployed (((redeploy_follows held).outcomes .start).1 _ returned)
    exact ⟨made, same, authority⟩

/-- Whatever is recorded, whatever is there and whatever fails: a namespace is only deleted when it is of a stable
and consistent record of the requested name, or was created by the request since nothing was there; and a request
that has neither such a record nor an inventory with nothing of its plan changes nothing, and raises. -/
theorem serve_owned (request : Request) (origin : σ) :
    (∀ before netns reply after,
      (service.serve request ⟨origin, []⟩).2.calls = before ++ .deleteNamespace netns reply :: after →
      Owns service.schemaError request.name before netns) ∧
    (∀ before call after, (service.serve request ⟨origin, []⟩).2.calls = before ++ call :: after →
      call.Mutates = true → Authority service.schemaError request.name before) ∧
    ∀ result, (service.serve request ⟨origin, []⟩).1 = .ok result →
      Authority service.schemaError request.name (service.serve request ⟨origin, []⟩).2.calls := by
  obtain ⟨made, same, authorized⟩ := authorized_of_ran (@serve_ran _ _ service request ⟨origin, []⟩)
  have fresh : (Traced.mk origin [] : Session σ).calls = [] := rfl
  rw [fresh, List.nil_append] at same
  rw [same]
  refine ⟨?_, ?_, ?_⟩
  · exact fun before netns reply after deletes => (authorized before _ after deletes).2 netns reply rfl
  · exact fun before call after changes => (authorized before call after changes).1
  · intro result returned
    obtain ⟨others, again, authority⟩ := serve_authority returned
    rw [fresh, List.nil_append, same] at again
    exact again ▸ authority

end Runs

end Lifecycle

end Nslab
