import Nslab.Lifecycle.Deploying

/-! How a removal keeps to the protocol: what is recorded is taken down, and its record when
nothing is left. -/

namespace Nslab

namespace Lifecycle

namespace LifecycleService

variable [RedEvaluation] {σ : Type} {service : LifecycleService σ} {name : String} {start : Session σ}
  {phase : Phase service.schemaError name} {task : Task service.schemaError name} {plan : TopologyPlan}

section Destroying

variable {job : Retirement service.schemaError name}

/-- What a removal that returns has done. -/
abbrev Destroyed (service : LifecycleService σ) (name : String) (start : Session σ) (plan : Option TopologyPlan)
    (result : LifecycleResult) (session : Session σ) : Prop :=
  (result.changed = true ∧ ∃ job : Retirement service.schemaError name, ∃ absence,
    service.At name start (.removed (.retire job) absence) session) ∨
  (result.changed = false ∧ ∃ wanted ∈ plan, ∃ inventory, inventoryIsAbsent wanted inventory = true ∧
    service.At name start (.surveyed wanted inventory) session)

theorem deleteFinalState_follows (absence : Absence job.plan) {ready : Bool} :
    Action.Triple (service.At name start (.observed (.retire job) absence.inventory ready))
      (service.deleteFinalState job.plan job.record)
      (fun _ session => ∃ absence, service.At name start (.removed (.retire job) absence) session)
        (service.Fails name start) := by
  have named := job.plan_named
  unfold deleteFinalState
  rw [named]
  apply Action.Triple.attempted (performs tells_delete fun reply => @Step.finish _ _ _ (.retire job) reply ready absence rfl)
  · exact fun _ => Action.Triple.returns fun _ followed => ⟨_, followed⟩
  · intro raised
    apply Action.Triple.requires _ fun session ended => And.symm ended
    apply Action.Triple.given
    intro vouched
    dsimp only
    unfold handleFinalDeleteFailure
    split
    · exact Action.Triple.raises fun _ followed => ⟨⟨_, followed⟩, vouched⟩
    · apply (deleteGate_doubtful (.retire job) named).bind
      intro gate
      have looked : service.Vouches (raised.attach "reconciliation" (.dict gate.reconciliation.diagnostics)) :=
        vouched.attach (by decide)
      dsimp only
      split
      · exact Action.Triple.raises fun _ given => ⟨given.1, looked⟩
      next proceeds =>
        rw [not_or, Bool.not_eq_false] at proceeds
        apply Action.Triple.requires _ fun session given => given.2 proceeds.2
        apply Action.Triple.some
        intro current
        apply Action.Triple.some
        intro again
        apply Action.Triple.given
        intro expected
        rw [named]
        apply Action.Triple.attempted (performs tells_delete fun reply => .retry again expected)
        · exact fun _ => Action.Triple.returns fun _ followed => ⟨_, followed⟩
        · intro retryError
          apply Action.Triple.requires _ fun session ended => And.symm ended
          apply Action.Triple.given
          intro retried
          dsimp only
          split
          · exact raiseDeleteRetryInterrupt_follows named retried
          · split
            · exact Action.Triple.raises fun _ followed => ⟨⟨_, followed⟩, looked.attach (by decide)⟩
            · apply (deleteGate_halted named).bind
              intro retryGate
              apply Action.Triple.raises
              exact fun _ followed => ⟨⟨_, followed⟩, (looked.attach (by decide)).attach (by decide)⟩

theorem destroyRouting_follows {fails : Raised → Session σ → Prop} : Action.Triple (service.Busy name start task)
    (service.destroyRouting task.plan)
    (fun outcome session => (∀ raised ∈ outcome.2, service.Vouches raised) ∧ service.Busy name start task session) fails := by
  unfold destroyRouting
  split
  · exact Action.Triple.returns fun _ followed => ⟨fun _ none => (by cases none), followed⟩
  · apply Action.Triple.some
    intro phase
    apply Action.Triple.requires _ fun session holds => And.symm holds
    apply Action.Triple.given
    intro busy
    apply Action.Triple.attempted (stopRouting_follows busy)
    · exact fun _ => Action.Triple.returns fun _ followed => ⟨fun _ none => (by cases none), followed⟩
    · intro raised
      apply Action.Triple.returns
      exact fun _ ended => ⟨fun _ same => Option.some.inj same ▸ ended.2, ended.1⟩

theorem destroyNamespaces_follows {namespaces : List String} {first : Option Raised}
    (may : ∀ netns ∈ namespaces, netns ∈ task.may) (vouched : ∀ raised ∈ first, service.Vouches raised)
    {fails : Raised → Session σ → Prop} : Action.Triple (service.Busy name start task)
    (service.destroyNamespaces namespaces first)
      (fun outcome session => (∀ raised ∈ outcome.2, service.Vouches raised) ∧ service.Busy name start task session) fails := by
  induction namespaces generalizing first with
  | nil => exact Action.Triple.returns fun _ followed => ⟨vouched, followed⟩
  | cons netns rest ih =>
    have goes : ∀ first : Option Raised, (∀ raised ∈ first, service.Vouches raised) →
        Action.Triple (service.Busy name start task) (service.destroyNamespaces rest first)
          (fun outcome session => (∀ raised ∈ outcome.2, service.Vouches raised) ∧ service.Busy name start task session) fails :=
      fun _ vouched => ih (fun other member => may other (List.mem_cons_of_mem _ member)) vouched
    apply Action.Triple.some
    intro phase
    apply Action.Triple.requires _ fun session holds => And.symm holds
    apply Action.Triple.given
    intro busy
    apply Action.Triple.attempted (performs tells_deleteNamespace fun reply => .clean busy (may netns List.mem_cons_self))
    · intro _
      apply ((goes first vouched).requires fun _ followed => ⟨_, followed, rfl⟩).bind
      exact fun _ => Action.Triple.returns fun _ given => given
    · intro raised
      apply Action.Triple.requires _ fun session ended => And.symm ended
      apply Action.Triple.given
      intro trusted
      dsimp only
      split
      · apply Action.Triple.returns
        exact fun _ followed => ⟨fun _ same => Option.some.inj same ▸ trusted, _, followed, rfl⟩
      · split
        · apply ((goes first vouched).requires fun _ followed => ⟨_, followed, rfl⟩).bind
          exact fun _ => Action.Triple.returns fun _ given => given
        · have either : ∀ error ∈ first <|> some raised, service.Vouches error := by
            cases first with
            | none => exact fun _ same => Option.some.inj same ▸ trusted
            | some earlier => exact vouched
          apply ((goes _ either).requires fun _ followed => ⟨_, followed, rfl⟩).bind
          exact fun _ => Action.Triple.returns fun _ given => given

theorem destroyAbsent_follows {wanted : Option TopologyPlan} (named : ∀ plan ∈ wanted, plan.name = name) :
    Action.Triple (service.At name start (.loaded none)) (service.destroyAbsent wanted name)
      (service.Destroyed name start wanted) (service.Fails name start) := by
  cases wanted with
  | none => exact Action.Triple.raises fun _ followed => ⟨⟨_, followed⟩, fun claims => absurd claims (not_claims_nslab rfl)⟩
  | some plan =>
    apply Action.Triple.bind ((performs tells_inventory fun reply => .survey (named plan rfl)).weaken (fun _ followed => followed)
      (fun _ _ followed => followed) fun _ _ ended => ⟨⟨_, ended.1⟩, ended.2⟩)
    intro inventory
    apply (settle_stands fun _ => vouches_raiseIf rfl).bind
    intro _
    apply Action.Triple.given
    intro absent
    rw [Checks.raiseIf_ok, Bool.not_eq_false] at absent
    have stops : Action.Triple (service.At name start (.surveyed plan inventory)) (service.stopRouting plan)
        (fun _ => service.At name start (.surveyed plan inventory)) (service.Fails name start) := by
      apply routingCall_follows
      · exact fun _ _ followed => followed
      · exact fun _ _ ended => ⟨⟨_, ended.1⟩, ended.2⟩
      · intro _ effect supported
        exact (performs (tells_stopRouting supported) fun reply => .recover absent).weaken
          (fun _ followed => followed) (fun _ _ followed => followed) fun _ _ ended => ⟨⟨_, ended.1⟩, ended.2⟩
    apply stops.bind
    exact fun _ => Action.Triple.returns fun _ followed => .inr ⟨rfl, plan, rfl, inventory, absent, followed⟩

/-- What is recorded is taken down, and its record when nothing is left. -/
theorem destroyRecorded_follows {wanted : Option TopologyPlan} {current : StateSnapshot} :
    Action.Triple (service.At name start (.loaded (some current))) (service.destroyRecorded name current)
      (service.Destroyed name start wanted) (service.Fails name start) := by
  apply (settle_stands fun _ => vouches_raiseIf rfl).bind
  intro _
  apply Action.Triple.given
  intro own
  apply (settle_stands fun _ => vouches_raiseIf rfl).bind
  intro _
  apply Action.Triple.given
  intro stable
  rw [Checks.raiseIf_ok, not_not] at own stable
  apply (settle_stands planFromSnapshot_vouches).bind
  intro statePlan
  apply Action.Triple.given
  intro valid
  let job : Retirement service.schemaError name := ⟨current, statePlan, own, stable, valid⟩
  have named : statePlan.name = name := job.plan_named
  apply (saveInitialTransition_follows named fun reply => @Step.retire _ _ name job reply).bind
  intro _
  apply Action.Triple.requires _ fun session followed => (⟨_, followed, rfl⟩ : service.Busy name start (.retire job) session)
  apply (@destroyRouting_follows _ _ _ _ _ (.retire job)).bind
  intro routing
  obtain ⟨routing, first⟩ := routing
  apply Action.Triple.given
  intro trusted
  apply (@destroyNamespaces_follows _ _ _ _ _ (.retire job) (plannedNamespaces statePlan).reverse first
    (by simp [Task.may, job]) trusted).bind
  intro namespaces
  obtain ⟨namespaces, first⟩ := namespaces
  apply Action.Triple.given
  intro trusted
  apply Action.Triple.some
  intro phase
  apply Action.Triple.requires _ fun session holds => And.symm holds
  apply Action.Triple.given
  intro busy
  have incomplete : ∀ (first : Option Raised) (error : NslabError) (notes : List Document),
      error.details.lookup "rollback_complete" = none → (∀ raised ∈ first, service.Vouches raised) →
      service.Vouches ((first.getD (.nslab error)).attach "cleanup" (.list notes)) := by
    intro first error notes silent trusted
    cases first with
    | none =>
      have own : service.Vouches (.nslab error) := fun claims => absurd claims (not_claims_nslab silent)
      exact own.attach (by decide)
    | some raised => exact (trusted raised rfl).attach (by decide)
  apply Action.Triple.attempted (observe_follows (.retire job) busy)
  · intro inventory
    dsimp only
    split
    next absent =>
      apply (deleteFinalState_follows ⟨inventory, absent⟩).bind
      exact fun _ => Action.Triple.returns fun _ given => .inl ⟨rfl, job, given⟩
    next =>
      exact Action.Triple.raises fun _ followed => ⟨⟨_, followed⟩, incomplete _ _ _ rfl trusted⟩
  · intro raised
    apply Action.Triple.requires _ fun session ended => And.symm ended
    apply Action.Triple.given
    intro vouched
    dsimp only
    split
    next absent => cases absent
    next =>
      apply Action.Triple.raises
      intro session given
      obtain ⟨phase, followed, _⟩ := given
      refine ⟨⟨phase, followed⟩, incomplete _ _ _ rfl ?_⟩
      cases first with
      | none => exact fun _ same => Option.some.inj same ▸ vouched
      | some earlier => exact trusted

theorem destroyLocked_follows {wanted : Option TopologyPlan} : Action.Triple (service.At name start .idle)
    (service.destroyLocked wanted name) (service.Destroyed name start wanted) (service.Fails name start) := by
  apply (settle_stands fun _ => vouches_raiseIf rfl).bind
  intro _
  apply Action.Triple.given
  intro named
  have named : ∀ plan ∈ wanted, plan.name = name := by
    intro plan given
    rw [Option.mem_def.mp given] at named
    simpa using named
  apply Action.Triple.bind ((performs tells_load fun reply => .load).weaken (fun _ followed => followed)
    (fun _ _ followed => followed) fun _ _ ended => ⟨⟨_, ended.1⟩, ended.2⟩)
  intro found
  cases found with
  | none => exact destroyAbsent_follows named
  | some current => exact destroyRecorded_follows

end Destroying

end LifecycleService

end Lifecycle

end Nslab
