import Nslab.Lifecycle.Undoing

/-! How a deployment keeps to the protocol: built as planned, verified, and recorded as it is
built and when it is there. -/

namespace Nslab

namespace Lifecycle

namespace LifecycleService

variable [RedEvaluation] {σ : Type} {service : LifecycleService σ} {name : String} {start : Session σ}
  {phase : Phase service.schemaError name} {task : Task service.schemaError name} {plan : TopologyPlan}

section Deploying

variable {manifest : Manifest} {job : Undertaking name} {created : List String}

omit [RedEvaluation] in
theorem vouches_plan {α : Type} {result : Except PlanError α} {raised : Raised} (silent : Silent result)
    (failed : Checks.mapIssue Raised.ofPlanError result = .error raised) : service.Vouches raised := by
  cases result with
  | ok value => cases failed
  | error error =>
    simp only [Checks.mapIssue, Except.error.injEq] at failed
    exact fun claims => absurd (failed ▸ claims) (silent error rfl)

omit [RedEvaluation] in
theorem vouches_raiseIf {bad : Prop} [Decidable bad] {error : NslabError} {raised : Raised}
    (silent : error.details.lookup "rollback_complete" = none)
    (failed : Checks.raiseIf bad (Raised.nslab error) = .error raised) :
    service.Vouches raised := by
  unfold Checks.raiseIf at failed
  split at failed
  · exact fun claims => absurd (Except.error.inj failed ▸ claims) (not_claims_nslab silent)
  · cases failed

theorem Fails.settles {raised : Raised} {session : Session σ} (fails : service.Fails name start raised session) :
    service.Settles name start plan raised session := by
  obtain ⟨⟨phase, followed⟩, vouched⟩ := fails
  exact ⟨phase, followed, fun claims => .inl (vouched claims)⟩

theorem createNamespaces_follows {nodes : List NodePlan} (planned : ∀ node ∈ nodes, node ∈ job.plan.nodes.values)
    {fails : Raised → Session σ → Prop} : Action.Triple (service.At name start (.working (.build job created)))
      (service.createNamespaces nodes created) (fun outcome session =>
        service.At name start (.working (.build job outcome.1)) session ∧ ∀ raised, outcome.2 = .error raised →
          service.Vouches raised)
      fails := by
  induction nodes generalizing created with
  | nil => exact Action.Triple.returns fun _ followed => ⟨followed, fun _ failed => by cases failed⟩
  | cons node rest ih =>
    apply Action.Triple.attempted (performs tells_createNamespace fun reply => .create (planned node List.mem_cons_self))
    · intro _
      exact ih fun other member => planned other (List.mem_cons_of_mem _ member)
    · intro raised
      exact Action.Triple.returns fun _ ended => ⟨ended.1, fun _ same => Except.error.inj same ▸ ended.2⟩

omit [RedEvaluation] in
/-- A result that has nothing to do with the system. -/
theorem settle_follows {α : Type} {result : Except Raised α} {holds : Session σ → Prop}
    (vouched : ∀ raised, result = .error raised → service.Vouches raised) : Action.Triple holds (settle result)
      (fun value session => result = .ok value ∧ holds session) fun raised session => service.Vouches raised ∧ holds session :=
  Action.Triple.settled (fun _ done _ given => ⟨done, given⟩) fun raised failed _ given => ⟨vouched raised failed, given⟩

theorem observe_follows (task : Task service.schemaError name) (busy : phase.task? = some task) :
    Action.Triple (service.At name start phase) (service.inventory task.plan)
    (fun inventory => service.At name start (.observed task inventory !hasRouting task.plan))
    fun raised session => service.Busy name start task session ∧ service.Vouches raised := by
  apply (performs tells_inventory fun reply => .observe busy).weaken (fun _ followed => followed) (fun _ _ followed => followed)
  exact fun _ _ ended => ⟨⟨_, ended.1, rfl⟩, ended.2⟩

theorem readyWhen_follows (task : Task service.schemaError name) {inventory : LiveInventory} {live : Bool} :
    Action.Triple (service.At name start (.observed task inventory !hasRouting task.plan)) (service.readyWhen live task.plan)
      (fun ready session => service.Busy name start task session ∧
        (ready = true → live = true ∧ service.At name start (.observed task inventory true) session))
      fun raised session => service.Busy name start task session ∧ service.Vouches raised := by
  unfold readyWhen
  split
  next found =>
    apply routingCall_follows
    · intro plain session followed
      rw [plain] at followed
      exact ⟨⟨_, followed, rfl⟩, fun _ => ⟨found, followed⟩⟩
    · exact fun _ _ ended => ⟨⟨_, ended.1, rfl⟩, ended.2⟩
    · intro _ effect supported
      apply (performs (tells_routingReady supported) fun reply => .poll).weaken (fun _ followed => followed)
      · exact fun ready _ followed => ⟨⟨_, followed, rfl⟩, fun same => ⟨found, same ▸ followed⟩⟩
      · exact fun _ _ ended => ⟨⟨_, ended.1, rfl⟩, ended.2⟩
  · exact Action.Triple.returns fun _ followed => ⟨⟨_, followed, rfl⟩, fun same => by cases same⟩

/-- What is verified matches the plan, with routing ready. -/
theorem verify_follows : Action.Triple (service.At name start (.working (.build job created))) (service.verify job.plan)
    (fun inventory session => inventoryMatchesPlan job.plan inventory = .ok true ∧
      service.At name start (.observed (.build job created) inventory true) session)
    fun raised session => service.Busy name start (.build job created) session ∧ service.Vouches raised := by
  apply (observe_follows (.build job created) rfl).bind
  intro inventory
  apply Action.Triple.bind ((settle_follows fun _ => vouches_plan (inventoryMatchesPlan_silent inventory)).weaken
    (fun _ followed => followed) (fun _ _ holds => holds) fun _ _ ended => ⟨⟨_, ended.2, rfl⟩, ended.1⟩)
  intro live
  apply Action.Triple.given
  intro decided
  rw [Checks.mapIssue_ok] at decided
  apply (readyWhen_follows (.build job created)).bind
  intro ready
  split
  next found =>
    apply Action.Triple.returns
    intro session given
    obtain ⟨same, followed⟩ := given.2 found
    exact ⟨same ▸ decided, followed⟩
  · exact Action.Triple.raises fun _ given => ⟨given.1, fun claims => absurd claims (not_claims_nslab rfl)⟩

theorem construct_follows : Action.Triple (service.At name start (.working (.build job created))) (service.construct job.plan)
    (fun inventory session => inventoryMatchesPlan job.plan inventory = .ok true ∧
      service.At name start (.observed (.build job created) inventory true) session)
    fun raised session => service.Busy name start (.build job created) session ∧ service.Vouches raised := by
  have each : ∀ {α : Type} (items : List α) (step : α → Runs σ Unit), (∀ item ∈ items,
      Action.Triple (service.At name start (.working (.build job created))) (step item)
        (fun _ => service.At name start (.working (.build job created)))
        fun raised session => service.Ends name start (.working (.build job created)) raised session) →
      Action.Triple (service.At name start (.working (.build job created))) (Action.each items step)
        (fun _ => service.At name start (.working (.build job created)))
        fun raised session => service.Busy name start (.build job created) session ∧ service.Vouches raised := by
    intro α items step keeps
    refine @Action.Triple.each _ _ _ _ _ (fun _ => service.At name start (.working (.build job created))) _
      fun item rest suffix => ?_
    exact (keeps item (suffix.subset List.mem_cons_self)).weaken (fun _ followed => followed) (fun _ _ followed => followed)
      fun _ _ ended => ⟨⟨_, ended.1, rfl⟩, ended.2⟩
  apply (each _ _ fun node member => performs tells_createBridge fun reply => .construct (by
    rw [List.mem_filter, decide_eq_true_eq] at member
    exact member)).bind
  intro _
  apply (each _ _ fun link member => performs tells_createVeth fun reply => .construct member).bind
  intro _
  apply (each _ _ fun node member => performs tells_configureNode fun reply => .construct ⟨member, rfl⟩).bind
  intro _
  apply Action.Triple.bind _ fun _ => verify_follows
  apply routingCall_follows
  · exact fun _ _ followed => followed
  · exact fun _ _ ended => ⟨⟨_, ended.1, rfl⟩, ended.2⟩
  · intro _ effect supported
    exact (performs (tells_startRouting supported) fun reply => .construct rfl).weaken
      (fun _ followed => followed) (fun _ _ followed => followed) fun _ _ ended => ⟨⟨_, ended.1, rfl⟩, ended.2⟩

theorem settle_stands {α : Type} {result : Except Raised α}
    (vouched : ∀ raised, result = .error raised → service.Vouches raised) :
    Action.Triple (service.At name start phase) (settle result)
      (fun value session => result = .ok value ∧ service.At name start phase session) (service.Fails name start) :=
  (settle_follows vouched).weaken (fun _ followed => followed) (fun _ _ holds => holds) fun _ _ ended => ⟨⟨_, ended.2⟩, ended.1⟩

omit [RedEvaluation] in
theorem planFromSnapshot_vouches {snapshot : StateSnapshot} (raised : Raised)
    (failed : planFromSnapshot service.schemaError snapshot = .error raised) : service.Vouches raised :=
  vouches_plan validateSnapshot_silent.map failed

theorem compareRouting_follows {current : StateSnapshot} {inventory : LiveInventory} {live : Bool} :
    Action.Triple (service.At name start (.compared current plan inventory !hasRouting plan)) (service.readyWhen live plan)
      (fun ready session => service.Stands name start session ∧
        (ready = true → live = true ∧ service.At name start (.compared current plan inventory true) session))
      (service.Fails name start) := by
  unfold readyWhen
  split
  next found =>
    apply routingCall_follows
    · intro plain session followed
      rw [plain] at followed
      exact ⟨⟨_, followed⟩, fun _ => ⟨found, followed⟩⟩
    · exact fun _ _ ended => ⟨⟨_, ended.1⟩, ended.2⟩
    · intro _ effect supported
      apply (performs (tells_routingReady supported) fun reply => .compareRouting).weaken (fun _ followed => followed)
      · exact fun ready _ followed => ⟨⟨_, followed⟩, fun same => ⟨found, same ▸ followed⟩⟩
      · exact fun _ _ ended => ⟨⟨_, ended.1⟩, ended.2⟩
  · exact Action.Triple.returns fun _ followed => ⟨⟨_, followed⟩, fun same => by cases same⟩

/-- What is recorded and what is live are as a plan wants them. -/
structure Agrees (text : Schema.Issue → String) (name : String) (plan : TopologyPlan) (current : StateSnapshot)
    (inventory : LiveInventory) : Prop where
  stable : ∃ recorded : Retirement text name, recorded.snapshot = current
  fingerprint : current.fingerprint = plan.fingerprint
  live : inventoryMatchesPlan plan inventory = .ok true
  wired : recordedLinkIdsMatchInventory plan inventory (.ofEntries current.interfaces.entries) = true

/-- Nothing is changed of a topology that is there already. -/
theorem deployAgain_follows {current : StateSnapshot} (named : plan.name = name) :
    Action.Triple (service.At name start (.loaded (some current))) (service.deployAgain plan current)
      (fun result session => result.changed = false ∧ ∃ inventory, Agrees service.schemaError name plan current inventory ∧
        service.At name start (.compared current plan inventory true) session) (service.Fails name start) := by
  apply (settle_stands fun _ => vouches_raiseIf rfl).bind
  intro _
  apply Action.Triple.given
  intro own
  apply (settle_stands fun _ => vouches_raiseIf rfl).bind
  intro _
  apply Action.Triple.given
  intro stable
  rw [Checks.raiseIf_ok, not_not] at own stable
  apply (settle_stands fun _ => vouches_raiseIf rfl).bind
  intro _
  apply Action.Triple.given
  intro wanted
  rw [Checks.raiseIf_ok, not_not] at wanted
  apply (settle_stands planFromSnapshot_vouches).bind
  intro statePlan
  apply Action.Triple.given
  intro valid
  apply Action.Triple.bind ((performs tells_inventory fun reply => .compare).weaken (fun _ followed => followed)
    (fun _ _ followed => followed) fun _ _ ended => ⟨⟨_, ended.1⟩, ended.2⟩)
  intro inventory
  apply (settle_stands fun _ => vouches_plan (inventoryMatchesPlan_silent inventory)).bind
  intro live
  apply Action.Triple.given
  intro decided
  rw [Checks.mapIssue_ok] at decided
  apply compareRouting_follows.bind
  intro ready
  split
  next found =>
    apply Action.Triple.returns
    intro session given
    obtain ⟨both, followed⟩ := given.2 found
    rw [Bool.and_eq_true] at both
    have stands : Agrees service.schemaError name plan current inventory :=
      ⟨⟨⟨current, statePlan, own.trans named, stable, valid⟩, rfl⟩, wanted, both.1 ▸ decided, both.2⟩
    exact ⟨rfl, inventory, stands, followed⟩
  · exact Action.Triple.raises fun _ given => ⟨given.1, fun claims => absurd claims (not_claims_nslab rfl)⟩

omit [RedEvaluation] in
theorem snapshotForPlan_vouches {createdAt status : String} {inventory : Option LiveInventory} (raised : Raised)
    (failed : snapshotForPlan plan manifest createdAt status inventory = .error raised) : service.Vouches raised := by
  unfold snapshotForPlan at failed
  cases owned : Checks.mapIssue Raised.ofPlanError (interfaceOwnership plan inventory) with
  | error other =>
    rw [owned] at failed
    exact Except.error.inj failed ▸ vouches_plan interfaceOwnership_silent owned
  | ok interfaces =>
    rw [owned, Checks.ok_bind] at failed
    unfold Checks.mapIssue at failed
    split at failed
    · cases failed
    · exact fun claims => absurd (Except.error.inj failed ▸ claims) not_claims_exception

theorem build_follows {fails : Raised → Session σ → Prop} : Action.Triple (service.At name start (.working (.build job [])))
    (service.build job.plan) (fun outcome session =>
      (∀ inventory, outcome.2 = .ok inventory → inventoryMatchesPlan job.plan inventory = .ok true ∧
        service.At name start (.observed (.build job outcome.1) inventory true) session) ∧
      ∀ raised, outcome.2 = .error raised → service.Vouches raised ∧ service.Busy name start (.build job outcome.1) session)
    fails := by
  apply (createNamespaces_follows fun _ member => member).bind
  intro outcome
  obtain ⟨created, outcome⟩ := outcome
  cases outcome with
  | error raised =>
    apply Action.Triple.returns
    intro session given
    refine ⟨fun _ done => (by cases done), fun other failed => ?_⟩
    exact ⟨given.2 _ (Except.error.inj failed ▸ rfl), _, given.1, rfl⟩
  | ok done =>
    apply (Action.Triple.requires construct_follows fun _ given => given.1).attempted
    · intro inventory
      apply Action.Triple.returns
      intro session given
      exact ⟨fun other done => Except.ok.inj done ▸ given, fun _ failed => (by cases failed)⟩
    · intro raised
      apply Action.Triple.returns
      intro session given
      exact ⟨fun _ done => (by cases done), fun other failed => Except.error.inj failed ▸ given.symm⟩

theorem settling {α : Type} {action : Runs σ α} {pre : Session σ → Prop} {post : α → Session σ → Prop}
    (valid : Action.Triple pre action post (service.Fails name start)) :
    Action.Triple pre action post (service.Settles name start plan) :=
  valid.weaken (fun _ holds => holds) (fun _ _ holds => holds) fun _ _ fails => fails.settles

/-- A deployment that is recorded is built, verified and recorded as deployed, or undone. -/
theorem deployRecorded_follows : Action.Triple (service.At name start (.working (.build job [])))
    (service.deployRecorded job.plan job.manifest job.createdAt job.record)
    (fun result session => result.changed = true ∧ ∃ verification, service.At name start (.complete job verification) session)
    (service.Settles name start job.plan) := by
  apply build_follows.bind
  intro outcome
  obtain ⟨created, outcome⟩ := outcome
  cases outcome with
  | error raised =>
    apply Action.Triple.requires _ fun session given => given.2 raised rfl
    apply Action.Triple.given
    intro vouched
    apply (settling (rollbackAndAttach_follows (.build job created) job.named rfl (fun _ member => member) vouched)).bind
    exact fun _ => Action.Triple.raises fun _ settles => settles
  | ok inventory =>
    apply Action.Triple.requires _ fun session given => given.1 inventory rfl
    apply Action.Triple.given
    intro live
    apply (settling (settle_stands snapshotForPlan_vouches)).bind
    intro deployed
    apply Action.Triple.given
    intro recorded
    apply Action.Triple.attempted (performs tells_save fun reply => .confirm ⟨inventory, deployed, live, recorded⟩)
    · exact fun _ => Action.Triple.returns fun _ followed => ⟨rfl, _, followed⟩
    · intro raised
      apply Action.Triple.requires _ fun session ended => And.symm ended
      apply Action.Triple.given
      intro vouched
      apply (settling (handleFinalDeploySaveFailure_follows (.undo job created) job.named rfl (fun _ member => member)
        vouched)).bind
      exact fun _ => Action.Triple.raises fun _ settles => settles

/-- What a deployment that returns has done. -/
abbrev Deployed (service : LifecycleService σ) (name : String) (start : Session σ) (plan : TopologyPlan) (manifest : Manifest)
    (result : LifecycleResult) (session : Session σ) : Prop :=
  (result.changed = true ∧ ∃ job : Undertaking name, ∃ verification, job.plan = plan ∧ job.manifest = manifest ∧
    service.At name start (.complete job verification) session) ∨
  (result.changed = false ∧ ∃ current inventory, Agrees service.schemaError name plan current inventory ∧
    service.At name start (.compared current plan inventory true) session)

theorem deployAnew_follows (named : plan.name = name) (held : Held manifest)
    (compiled : validatePlanManifest plan manifest = .ok ()) : Action.Triple (service.At name start (.loaded none))
      (service.deployAnew plan manifest) (service.Deployed name start plan manifest) (service.Settles name start plan) := by
  apply Action.Triple.bind ((performs tells_inventory fun reply => .survey named).weaken (fun _ followed => followed)
    (fun _ _ followed => followed) fun _ _ ended => ⟨_, ended.1, fun claims => .inl (ended.2 claims)⟩)
  intro preflight
  apply (settling (settle_stands fun _ => vouches_raiseIf rfl)).bind
  intro _
  apply Action.Triple.given
  intro absent
  rw [Checks.raiseIf_ok, Bool.not_eq_false] at absent
  apply Action.Triple.reads.bind
  intro createdAt
  apply (settling (settle_stands snapshotForPlan_vouches)).bind
  intro deploying
  apply Action.Triple.given
  intro recorded
  let job : Undertaking name := ⟨plan, manifest, createdAt, deploying, held, named, compiled, recorded⟩
  apply (settling (saveInitialTransition_follows named fun reply => @Step.begin _ _ name job _ reply absent)).bind
  intro _
  apply (@deployRecorded_follows _ _ _ _ _ job).weaken (fun _ followed => followed)
  · intro result session given
    obtain ⟨changed, verification, followed⟩ := given
    exact .inl ⟨changed, job, verification, rfl, rfl, followed⟩
  · exact fun _ _ settles => settles

theorem deployLocked_follows (named : plan.name = name) (held : Held manifest)
    (compiled : validatePlanManifest plan manifest = .ok ()) : Action.Triple (service.At name start .idle)
      (service.deployLocked plan manifest) (service.Deployed name start plan manifest) (service.Settles name start plan) := by
  unfold deployLocked
  rw [named]
  apply Action.Triple.bind ((performs tells_load fun reply => .load).weaken (fun _ followed => followed)
    (fun _ _ followed => followed) fun _ _ ended => ⟨_, ended.1, fun claims => .inl (ended.2 claims)⟩)
  intro found
  cases found with
  | none => exact deployAnew_follows named held compiled
  | some current =>
    apply (settling (deployAgain_follows named)).weaken (fun _ followed => followed)
    · exact fun _ _ given => .inr ⟨given.1, current, given.2⟩
    · exact fun _ _ settles => settles

end Deploying

end LifecycleService

end Lifecycle

end Nslab
