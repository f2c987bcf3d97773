import Nslab.Lifecycle.Destroying

/-! The requests that the lifecycle service serves, each a run of the protocol or two of
them, and the histories of requests that end or are cut short. -/

namespace Nslab

namespace Lifecycle

/-- What is asked of the lifecycle service. Manifests have been validated. -/
inductive Request where
  | deploy (plan : TopologyPlan) (manifest : Manifest) (held : Held manifest)
  | destroy (plan : Option TopologyPlan) (name : String)
  | redeploy (plan : TopologyPlan) (manifest : Manifest) (held : Held manifest)

/-- The deployment that is asked for. -/
def Request.name : Request → String
  | .deploy plan _ _ => plan.name
  | .destroy _ name => name
  | .redeploy plan _ _ => plan.name

namespace LifecycleService

variable [RedEvaluation] {σ : Type} (service : LifecycleService σ) (name : String) (start : Session σ)

def serve : Request → Runs σ LifecycleResult
  | .deploy plan manifest _ => service.deploy plan manifest
  | .destroy plan name => service.destroy plan name
  | .redeploy plan manifest _ => service.redeploy plan manifest

/-- The sessions of requests for one deployment, one after the other. A crash cuts a request short. -/
inductive History (initial : σ → Prop) : Session σ → Prop where
  | initial {origin : σ} (holds : initial origin) : History initial ⟨origin, []⟩
  | request {session later : Session σ} (history : History initial session) (request : Request) (named : request.name = name)
    (begun : session.Earlier later) (cut : later.Earlier (service.serve request session).2) : History initial later

/-- Where a run has led to, and what holds there. -/
def Reached (holds : Phase service.schemaError name → Prop) (session : Session σ) : Prop :=
  ∃ phase, service.At name start phase session ∧ holds phase

/-- Where a deployment ends that returns. -/
def DeployedAt (plan : TopologyPlan) (manifest : Manifest) (result : LifecycleResult) : Phase service.schemaError name → Prop
  | .complete job _ => result.changed = true ∧ job.plan = plan ∧ job.manifest = manifest
  | .compared current other inventory ready =>
    result.changed = false ∧ ready = true ∧ other = plan ∧ Agrees service.schemaError name plan current inventory
  | _ => False

/-- Where a deployment ends that raises. -/
def SettledAt (plan : TopologyPlan) (raised : Raised) (phase : Phase service.schemaError name) : Prop :=
  raised.Claims → service.Misleads ∨ phase.Gone plan

/-- Where a removal ends that returns. -/
def DestroyedAt (wanted : Option TopologyPlan) (result : LifecycleResult) : Phase service.schemaError name → Prop
  | .removed (.retire _) _ => result.changed = true
  | .surveyed plan inventory => result.changed = false ∧ wanted = some plan ∧ inventoryIsAbsent plan inventory = true
  | _ => False

/-- One run after another. -/
def Ran (session : Session σ) : Prop := ∃ middle, service.Stands name start middle ∧ service.Stands name middle session

variable {service name start} {plan : TopologyPlan} {manifest : Manifest}

theorem Reached.stands {holds : Phase service.schemaError name → Prop} {session : Session σ}
    (reached : service.Reached name start holds session) : service.Stands name start session := by
  obtain ⟨phase, followed, _⟩ := reached
  exact ⟨phase, followed⟩

theorem Stands.ran {session : Session σ} (stands : service.Stands name start session) : service.Ran name start session :=
  ⟨session, stands, _, .start⟩

section Locks

/-- Leaving the lock changes nothing about where a run has led to. -/
theorem exit_follows {raised : Bool} {holds : Phase service.schemaError name → Prop}
    {fails : Raised → Phase service.schemaError name → Prop}
    (trusted : ∀ issue phase, service.Vouches issue → fails issue phase) :
    Action.Triple (service.Reached name start holds) (Traced.perform (service.lock.exit name raised) (.exit name raised))
      (fun _ => service.Reached name start holds) fun issue => service.Reached name start (fails issue) := by
  apply Action.Triple.some
  intro phase
  apply Action.Triple.requires _ fun session given => And.symm given
  apply Action.Triple.given
  intro found
  apply (performs tells_exit fun reply => .exit).weaken (fun _ followed => followed)
  · exact fun _ _ followed => ⟨phase, followed, found⟩
  · exact fun issue _ ended => ⟨phase, ended.1, trusted issue phase ended.2⟩

theorem locked_triple {α : Type} {body : Runs σ α} {post : α → Session σ → Prop} {fails : Raised → Session σ → Prop}
    (enters : ∀ raised session, service.Ends name start .idle raised session → fails raised session)
    (valid : Action.Triple (service.At name start .idle) body post fails)
    (leaves : ∀ value, Action.Triple (post value) (Traced.perform (service.lock.exit name false) (.exit name false))
      (fun _ => post value) fails)
    (raises : ∀ issue, Action.Triple (fails issue) (Traced.perform (service.lock.exit name true) (.exit name true))
      (fun _ => fails issue) fails) : Action.Triple (service.At name start .idle) (service.locked name body) post fails := by
  apply Action.Triple.bind ((performs tells_enter fun reply => .enter).weaken (fun _ followed => followed)
    (fun _ _ followed => followed) enters)
  intro _
  apply valid.attempted
  · intro value
    apply (leaves value).bind
    exact fun _ => Action.Triple.returns fun _ reached => reached
  · intro issue
    apply (raises issue).bind
    exact fun _ => Action.Triple.raises fun _ reached => reached

theorem locked_follows {α : Type} {body : Runs σ α} {holds : α → Phase service.schemaError name → Prop}
    {fails : Raised → Phase service.schemaError name → Prop} (trusted : ∀ issue phase, service.Vouches issue → fails issue phase)
    (valid : Action.Triple (service.At name start .idle) body (fun value => service.Reached name start (holds value))
      fun raised => service.Reached name start (fails raised)) :
    Action.Triple (service.At name start .idle) (service.locked name body) (fun value => service.Reached name start (holds value))
      fun raised => service.Reached name start (fails raised) :=
  locked_triple (fun raised _ ended => ⟨_, ended.1, trusted raised _ ended.2⟩) valid (fun _ => exit_follows trusted)
    fun _ => exit_follows trusted

end Locks

section Serving

omit [RedEvaluation] in
theorem validatePlanManifest_vouches (raised : Raised) (failed : validatePlanManifest plan manifest = .error raised) :
    service.Vouches raised := by
  unfold validatePlanManifest at failed
  cases compiled : Checks.mapIssue Raised.ofPlanError (compilePlan manifest (some plan.name)) with
  | error other =>
    rw [compiled] at failed
    exact Except.error.inj failed ▸ vouches_plan compilePlan_silent compiled
  | ok expected =>
    rw [compiled] at failed
    exact vouches_raiseIf rfl failed

theorem deployed_reached {result : LifecycleResult} {session : Session σ}
    (deployed : service.Deployed name start plan manifest result session) :
    service.Reached name start (service.DeployedAt name plan manifest result) session := by
  obtain ⟨changed, job, verification, same, wanted, followed⟩ | ⟨changed, current, inventory, agrees, followed⟩ := deployed
  · exact ⟨_, followed, changed, same, wanted⟩
  · exact ⟨_, followed, changed, rfl, rfl, agrees⟩

theorem destroyed_reached {wanted : Option TopologyPlan} {result : LifecycleResult} {session : Session σ}
    (destroyed : service.Destroyed name start wanted result session) :
    service.Reached name start (service.DestroyedAt name wanted result) session := by
  obtain ⟨changed, job, absence, followed⟩ | ⟨changed, plan, same, inventory, absent, followed⟩ := destroyed
  · exact ⟨_, followed, changed⟩
  · exact ⟨_, followed, changed, same, absent⟩

/-- A deployment keeps to the protocol, and ends where it says that it does. -/
theorem deploy_follows (held : Held manifest) : Action.Triple (service.At plan.name start .idle) (service.deploy plan manifest)
    (fun result => service.Reached plan.name start (service.DeployedAt plan.name plan manifest result))
    fun raised => service.Reached plan.name start (service.SettledAt plan.name plan raised) := by
  apply locked_follows fun _ _ vouched claims => .inl (vouched claims)
  apply (settling (settle_stands validatePlanManifest_vouches)).bind
  intro _
  apply Action.Triple.given
  intro compiled
  exact (deployLocked_follows rfl held compiled).weaken (fun _ followed => followed)
    (fun _ _ deployed => deployed_reached deployed) fun _ _ settles => settles

/-- A removal keeps to the protocol, and ends where it says that it does. -/
theorem destroy_follows {wanted : Option TopologyPlan} : Action.Triple (service.At name start .idle) (service.destroy wanted name)
    (fun result => service.Reached name start (service.DestroyedAt name wanted result))
    fun raised => service.Reached name start fun _ => service.Vouches raised := by
  apply locked_follows fun _ _ vouched => vouched
  apply destroyLocked_follows.weaken (fun _ followed => followed)
  · exact fun _ _ destroyed => destroyed_reached destroyed
  · intro raised session fails
    obtain ⟨⟨phase, followed⟩, vouched⟩ := fails
    exact ⟨phase, followed, vouched⟩

/-- What a redeployment that returns has done: a removal and then a deployment. -/
def Redeployed (service : LifecycleService σ) (plan : TopologyPlan) (manifest : Manifest) (start : Session σ)
    (result : LifecycleResult) (session : Session σ) : Prop :=
  ∃ middle destroyed deployed, service.Reached plan.name start (service.DestroyedAt plan.name (some plan) destroyed) middle ∧
    result.changed = (destroyed.changed || deployed.changed) ∧
    service.Reached plan.name middle (service.DeployedAt plan.name plan manifest deployed) session

theorem exit_ran {raised : Bool} : Action.Triple (service.Ran name start)
    (Traced.perform (service.lock.exit name raised) (.exit name raised)) (fun _ => service.Ran name start)
    fun _ => service.Ran name start := by
  apply Action.Triple.some
  intro middle
  apply Action.Triple.given
  intro first
  apply (@exit_follows _ _ _ _ _ _ (fun _ => True) (fun _ _ => True) fun _ _ _ => trivial).weaken
  · intro _ stands
    obtain ⟨phase, followed⟩ := stands
    exact ⟨phase, followed, trivial⟩
  · exact fun _ _ reached => ⟨middle, first, reached.stands⟩
  · exact fun _ _ reached => ⟨middle, first, reached.stands⟩

theorem exit_redeployed {result : LifecycleResult} : Action.Triple (service.Redeployed plan manifest start result)
    (Traced.perform (service.lock.exit plan.name false) (.exit plan.name false))
    (fun _ => service.Redeployed plan manifest start result) fun _ => service.Ran plan.name start := by
  apply Action.Triple.some
  intro middle
  apply Action.Triple.some
  intro destroyed
  apply Action.Triple.some
  intro deployed
  apply Action.Triple.given
  intro first
  apply Action.Triple.given
  intro changed
  apply (@exit_follows _ _ _ _ _ _ _ (fun _ _ => True) fun _ _ _ => trivial).weaken (fun _ reached => reached)
  · exact fun _ _ reached => ⟨middle, destroyed, deployed, first, changed, reached⟩
  · exact fun _ _ reached => ⟨middle, first.stands, reached.stands⟩

/-- A redeployment is a run that removes, and another that deploys. -/
theorem redeploy_follows (held : Held manifest) : Action.Triple (service.At plan.name start .idle)
    (service.redeploy plan manifest) (service.Redeployed plan manifest start) fun _ => service.Ran plan.name start := by
  apply locked_triple (fun _ _ ended => Stands.ran ⟨_, ended.1⟩) _ (fun _ => exit_redeployed) fun _ => exit_ran
  apply Action.Triple.bind ((settle_stands validatePlanManifest_vouches).weaken (fun _ followed => followed)
    (fun _ _ holds => holds) fun _ _ fails => Stands.ran fails.1)
  intro _
  apply Action.Triple.given
  intro compiled
  apply Action.Triple.bind (destroyLocked_follows.weaken (fun _ followed => followed)
    (fun _ _ destroyed => destroyed_reached destroyed) fun _ _ fails => Stands.ran fails.1)
  intro destroyed
  apply Action.Triple.restart
  intro middle first
  -- What comes next is a run of its own.
  have again : Action.Triple (service.At plan.name middle .idle) (service.deployLocked plan manifest)
      (fun deployed => service.Reached plan.name middle (service.DeployedAt plan.name plan manifest deployed))
      fun _ => service.Ran plan.name start := by
    apply (deployLocked_follows rfl held compiled).weaken (fun _ followed => followed)
    · exact fun _ _ deployed => deployed_reached deployed
    · intro _ _ settles
      obtain ⟨phase, followed, _⟩ := settles
      exact ⟨middle, first.stands, phase, followed⟩
  apply Action.Triple.bind (again.requires (by exact fun _ same => same ▸ Follows.start))
  exact fun deployed => Action.Triple.returns fun _ last => ⟨middle, destroyed, deployed, first, rfl, last⟩

theorem Redeployed.ran {result : LifecycleResult} {session : Session σ}
    (redeployed : service.Redeployed plan manifest start result session) : service.Ran plan.name start session := by
  obtain ⟨middle, _, _, first, _, last⟩ := redeployed
  exact ⟨middle, first.stands, last.stands⟩

/-- Every request is a run of the protocol, or two. -/
theorem serve_ran (request : Request) (start : Session σ) : service.Ran request.name start (service.serve request start).2 := by
  have serves : Action.Triple (service.At request.name start .idle) (service.serve request)
      (fun _ => service.Ran request.name start) fun _ => service.Ran request.name start := by
    cases request with
    | deploy plan manifest held =>
      apply (deploy_follows held).weaken (fun _ followed => followed)
      · exact fun _ _ reached => reached.stands.ran
      · exact fun _ _ reached => reached.stands.ran
    | destroy wanted name =>
      apply destroy_follows.weaken (fun _ followed => followed)
      · exact fun _ _ reached => reached.stands.ran
      · exact fun _ _ reached => reached.stands.ran
    | redeploy plan manifest held =>
      apply (redeploy_follows held).weaken (fun _ followed => followed)
      · exact fun _ _ redeployed => redeployed.ran
      · exact fun _ _ ran => ran
  obtain ⟨returns, raises⟩ := serves.outcomes .start
  cases outcome : (service.serve request start).1 with
  | ok result => exact returns result outcome
  | error raised => exact raises raised outcome

theorem Ran.earlier {session : Session σ} (ran : service.Ran name start session) : start.Earlier session := by
  obtain ⟨middle, ⟨_, first⟩, ⟨_, second⟩⟩ := ran
  exact ⟨first.earlier.1.trans second.earlier.1, first.earlier.2.trans second.earlier.2⟩

/-- A request that is not cut short. -/
theorem History.serve {initial : σ → Prop} {session : Session σ} (history : service.History name initial session)
    (request : Request)
    (named : request.name = name) : service.History name initial (service.serve request session).2 :=
  history.request request named (Ran.earlier (serve_ran request session)) (.refl _)

/-- What is cut short of a run is a run. -/
theorem Ran.cut {session short : Session σ} (ran : service.Ran name start session) (earlier : short.Earlier session) :
    short.Earlier start ∨ service.Ran name start short := by
  obtain ⟨middle, ⟨phase, first⟩, ⟨_, second⟩⟩ := ran
  obtain before | again := second.cut earlier
  · obtain before | again := first.cut before
    · exact .inl before
    · exact .inr (Stands.ran again)
  · exact .inr ⟨middle, ⟨phase, first⟩, again⟩

/-- Histories of requests are runs of the protocol. -/
theorem History.reaches {initial : σ → Prop} {session : Session σ} (history : service.History name initial session) :
    Reaches (Step service.schemaError name) service.Performs .idle initial session := by
  induction history with
  | initial holds => exact .initial holds
  | @request session later history request named begun cut ih =>
    have ran := @serve_ran _ _ service request session
    rw [named] at ran
    obtain ⟨middle, ⟨_, first⟩, ⟨_, second⟩⟩ := ran
    exact ((ih.run first).run second).cut cut

end Serving

end LifecycleService

end Lifecycle

end Nslab
