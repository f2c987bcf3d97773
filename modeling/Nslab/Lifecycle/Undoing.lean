import Nslab.Lifecycle.Protocol
import Nslab.Lifecycle.Silence

/-! How the lifecycle service keeps to the protocol when something fails: what is found
out of a record that may be gone, and what a failed deployment leaves behind. -/

namespace Nslab

namespace Lifecycle

/-- What a call has raised. -/
def Call.failure : Call → Option Raised
  | .enter _ (.error raised) => some raised
  | .exit _ _ (.error raised) => some raised
  | .load _ (.error raised) => some raised
  | .save _ (.error raised) => some raised
  | .delete _ (.error raised) => some raised
  | .inventory _ (.error raised) => some raised
  | .createNamespace _ (.error raised) => some raised
  | .createBridge _ (.error raised) => some raised
  | .createVeth _ (.error raised) => some raised
  | .configureNode _ _ (.error raised) => some raised
  | .deleteNamespace _ (.error raised) => some raised
  | .startRouting _ (.error raised) => some raised
  | .stopRouting _ (.error raised) => some raised
  | .routingReady _ (.error raised) => some raised
  | _ => none

namespace LifecycleService

variable [RedEvaluation] {σ : Type} (service : LifecycleService σ) (name : String) (start : Session σ)

/-- A call of the system raises an error that tells of a complete rollback by itself. -/
def Misleads : Prop := ∃ before call after raised, service.Performs before call after ∧ call.failure = some raised ∧ raised.Claims

def Vouches (raised : Raised) : Prop := raised.Claims → service.Misleads

/-- Where the protocol has led to. -/
abbrev At (phase : Phase service.schemaError name) (session : Session σ) : Prop :=
  Follows (Step service.schemaError name) service.Performs start .idle phase session

/-- What is raised, and where. -/
abbrev Ends (phase : Phase service.schemaError name) (raised : Raised) (session : Session σ) : Prop :=
  service.At name start phase session ∧ service.Vouches raised

/-- Somewhere in a task. -/
abbrev Busy (task : Task service.schemaError name) (session : Session σ) : Prop :=
  ∃ phase, service.At name start phase session ∧ phase.task? = some task

/-- Wherever it is. -/
abbrev Stands (session : Session σ) : Prop := ∃ phase, service.At name start phase session

variable {service name start} {phase : Phase service.schemaError name} {task : Task service.schemaError name}
  {plan : TopologyPlan}

section Telling

/-- The effect of a part of the system is told as a call with its reply. -/
structure Tells (service : LifecycleService σ) {α : Type} (effect : Action σ Raised α)
    (label : Except Raised α → Call) : Prop where
  performed : ∀ state, service.Performs state (label (effect state).1) (effect state).2
  failing : ∀ raised, (label (.error raised)).failure = some raised

omit [RedEvaluation]

variable {raised : Bool} {snapshot : StateSnapshot} {node : NodePlan} {link : LinkPlan} {netns : String}

theorem tells_enter : service.Tells (service.lock.enter name) (.enter name) := ⟨fun _ => rfl, fun _ => rfl⟩

theorem tells_exit : service.Tells (service.lock.exit name raised) (.exit name raised) := ⟨fun _ => rfl, fun _ => rfl⟩

theorem tells_load : service.Tells (service.stateStore.load name) (.load name) := ⟨fun _ => rfl, fun _ => rfl⟩

theorem tells_save : service.Tells (service.stateStore.save snapshot) (.save snapshot) := ⟨fun _ => rfl, fun _ => rfl⟩

theorem tells_delete : service.Tells (service.stateStore.delete name) (.delete name) := ⟨fun _ => rfl, fun _ => rfl⟩

theorem tells_inventory : service.Tells (service.backend.inventory plan) (.inventory plan) := ⟨fun _ => rfl, fun _ => rfl⟩

theorem tells_createNamespace : service.Tells (service.backend.createNamespace node) (.createNamespace node) :=
  ⟨fun _ => rfl, fun _ => rfl⟩

theorem tells_createBridge : service.Tells (service.backend.createBridge node) (.createBridge node) :=
  ⟨fun _ => rfl, fun _ => rfl⟩

theorem tells_createVeth : service.Tells (service.backend.createVeth link) (.createVeth link) := ⟨fun _ => rfl, fun _ => rfl⟩

theorem tells_configureNode : service.Tells (service.backend.configureNode node plan) (.configureNode node plan) :=
  ⟨fun _ => rfl, fun _ => rfl⟩

theorem tells_deleteNamespace : service.Tells (service.backend.deleteNamespace netns) (.deleteNamespace netns) :=
  ⟨fun _ => rfl, fun _ => rfl⟩

theorem tells_startRouting {method : TopologyPlan → Action σ Raised Unit} (supported : method ∈ service.backend.startRouting) :
    service.Tells (method plan) (.startRouting plan) := ⟨fun _ => ⟨method, supported, rfl⟩, fun _ => rfl⟩

theorem tells_stopRouting {method : TopologyPlan → Action σ Raised Unit} (supported : method ∈ service.backend.stopRouting) :
    service.Tells (method plan) (.stopRouting plan) := ⟨fun _ => ⟨method, supported, rfl⟩, fun _ => rfl⟩

theorem tells_routingReady {method : TopologyPlan → Action σ Raised Bool} (supported : method ∈ service.backend.routingReady) :
    service.Tells (method plan) (.routingReady plan) := ⟨fun _ => ⟨method, supported, rfl⟩, fun _ => rfl⟩

end Telling

theorem performs {α : Type} {effect : Action σ Raised α} {label : Except Raised α → Call} (tells : service.Tells effect label)
    {next : Except Raised α → Phase service.schemaError name}
    (allowed : ∀ reply, Step service.schemaError name phase (label reply) (next reply)) :
    Action.Triple (service.At name start phase) (Traced.perform effect label)
      (fun value => service.At name start (next (.ok value)))
      fun raised => service.Ends name start (next (.error raised)) raised := by
  intro session followed
  have followed := Follows.perform tells.performed allowed session followed
  have performed := tells.performed session.state
  simp only [Traced.perform] at followed ⊢
  generalize effect session.state = outcome at followed performed ⊢
  obtain ⟨reply, after⟩ := outcome
  cases reply with
  | ok value => exact followed
  | error raised => exact ⟨followed, fun claims => ⟨_, _, _, raised, performed, tells.failing raised, claims⟩⟩

section Reconciling

theorem reconcile_follows {after : Except Raised (Option StateSnapshot) → Phase service.schemaError name}
    {final : Except Raised (Option StateSnapshot) → Except Raised LiveInventory → Phase service.schemaError name}
    (named : plan.name = name) (loads : ∀ state, Step service.schemaError name phase (.load name state) (after state))
    (looks : ∀ state live, Step service.schemaError name (after state) (.inventory plan live) (final state live))
    {fails : Raised → Session σ → Prop} : Action.Triple (service.At name start phase) (service.reconcile plan)
    (fun found session => ∃ state live, found = reconciliation plan state live ∧
        service.At name start (final state live) session)
      fails := by
  have last : ∀ state, Action.Triple (service.At name start (after state))
      (do let live ← Action.attempt (service.inventory plan); pure (reconciliation plan state live))
      (fun found session => ∃ state live, found = reconciliation plan state live ∧
        service.At name start (final state live) session)
      fails := by
    intro state
    apply Action.Triple.attempted (performs tells_inventory (looks state))
    · intro inventory
      exact Action.Triple.returns fun _ followed => ⟨state, _, rfl, followed⟩
    · intro raised
      exact Action.Triple.returns fun _ ended => ⟨state, _, rfl, ended.1⟩
  unfold reconcile
  rw [named]
  apply Action.Triple.attempted (performs tells_load loads)
  · intro found
    exact last (.ok found)
  · intro raised
    exact (last (.error raised)).weaken (fun _ ended => ended.1) (fun _ _ holds => holds) fun _ _ holds => holds

theorem reconcile_halted (named : plan.name = name) {fails : Raised → Session σ → Prop} :
    Action.Triple (service.At name start .halted) (service.reconcile plan) (fun _ => service.At name start .halted) fails := by
  apply (reconcile_follows named (fun _ => .inspectRecord) fun _ _ => .inspectLive).weaken (fun _ followed => followed)
  · intro _ session given
    obtain ⟨_, _, _, followed⟩ := given
    exact followed
  · exact fun _ _ holds => holds

theorem reconcile_working (named : task.plan.name = name) {fails : Raised → Session σ → Prop} :
    Action.Triple (service.At name start (.working task)) (service.reconcile task.plan)
      (fun _ => service.Busy name start task) fails := by
  apply (reconcile_follows named (fun _ => .reread) fun _ _ => .observe rfl).weaken (fun _ followed => followed)
  · intro _ session given
    obtain ⟨_, live, _, followed⟩ := given
    refine ⟨_, followed, ?_⟩
    cases live with
    | ok inventory => rfl
    | error raised => rfl
  · exact fun _ _ holds => holds

/-- What has been found out of a record that may be gone. -/
theorem reconcile_doubtful (named : task.plan.name = name) {fails : Raised → Session σ → Prop} :
    Action.Triple (service.At name start (.doubtful task)) (service.reconcile task.plan)
      (fun found session => service.Stands name start session ∧ (Conclusive found = true → ∀ inventory ∈ found.inventory,
        service.At name start (.reconciled task found.snapshot inventory) session)) fails := by
  have looks : ∀ state live, Step service.schemaError name (replied state (.rechecked task) .halted) (.inventory task.plan live)
      (replied state (fun found => replied live (.reconciled task found) .halted) .halted) := by
    intro state live
    cases state with
    | ok found => exact .reconcile
    | error raised => exact .inspectLive
  apply (reconcile_follows named (fun _ => .recheck) looks).weaken (fun _ followed => followed)
  · intro found session given
    obtain ⟨state, live, same, followed⟩ := given
    subst same
    refine ⟨⟨_, followed⟩, fun conclusive inventory observed => ?_⟩
    cases state with
    | error raised => simp [Conclusive, reconciliation, stateDiagnostic] at conclusive
    | ok found =>
      cases live with
      | error raised => simp [reconciliation, Except.toOption] at observed
      | ok other =>
        simp only [reconciliation, Except.toOption, Option.mem_def, Option.some.injEq] at observed
        subst observed
        exact followed
  · exact fun _ _ holds => holds

end Reconciling

section Gates

/-- Somewhere, with an error that can be trusted. -/
abbrev Fails (service : LifecycleService σ) (name : String) (start : Session σ) (raised : Raised) (session : Session σ) : Prop :=
  service.Stands name start session ∧ service.Vouches raised

omit [RedEvaluation] in
theorem Vouches.attach {raised : Raised} {key : String} {value : Document} (vouched : service.Vouches raised)
    (other : key ≠ "rollback_complete") : service.Vouches (raised.attach key value) := by
  intro claims
  cases Raised.attached_attach raised key _ value _ claims with
  | inl same => exact absurd same.1.symm other
  | inr before => exact vouched before

theorem deleteGate_halted {expected : StateSnapshot} (named : plan.name = name) {fails : Raised → Session σ → Prop} :
    Action.Triple (service.At name start .halted) (service.deleteGate plan expected)
      (fun _ => service.At name start .halted) fails :=
  Action.Triple.bind (reconcile_halted named) fun _ => Action.Triple.returns fun _ followed => followed

/-- A record is only deleted again after it was found as it was, with nothing left. -/
theorem deleteGate_doubtful (task : Task service.schemaError name) (named : task.plan.name = name)
    {fails : Raised → Session σ → Prop} :
    Action.Triple (service.At name start (.doubtful task)) (service.deleteGate task.plan task.record)
      (fun gate session => service.Stands name start session ∧ (gate.retrySafe = true → ∃ current, ∃ absence : Absence task.plan,
        current.same task.record = true ∧ service.At name start (.reconciled task (some current) absence.inventory) session))
          fails := by
  apply Action.Triple.bind (reconcile_doubtful named)
  intro found
  apply Action.Triple.returns
  intro session given
  refine ⟨given.1, fun safe => ?_⟩
  simp only [DeleteGate.retrySafe, Bool.and_eq_true, Option.any_eq_true] at safe
  obtain ⟨⟨conclusive, current, recorded, expected⟩, inventory, observed, absent⟩ := safe
  have followed := given.2 conclusive inventory observed
  rw [recorded] at followed
  exact ⟨current, ⟨inventory, absent⟩, expected, followed⟩

theorem raiseDeleteRetryInterrupt_follows {α : Type} {interrupt previousOperation previousStateError : Raised}
    {previousGate : DeleteGate} {expected : StateSnapshot} {post : α → Session σ → Prop} (named : plan.name = name)
    (vouched : service.Vouches interrupt) : Action.Triple (service.At name start .halted)
      (service.raiseDeleteRetryInterrupt interrupt previousOperation previousStateError previousGate plan expected) post
      (service.Fails name start) := by
  apply Action.Triple.bind (deleteGate_halted named)
  intro gate
  apply Action.Triple.raises
  intro session followed
  refine ⟨⟨_, followed⟩, ?_⟩
  exact (((vouched.attach (by decide)).attach (by decide)).attach (by decide)).attach (by decide)

theorem saveInitialTransition_follows {snapshot : StateSnapshot} {next : Phase service.schemaError name}
    (named : plan.name = name)
    (allowed : ∀ reply, Step service.schemaError name phase (.save snapshot reply) (replied reply (fun _ => next) .halted)) :
    Action.Triple (service.At name start phase) (service.saveInitialTransition snapshot plan)
      (fun _ => service.At name start next) (service.Fails name start) := by
  apply Action.Triple.attempted (performs tells_save allowed)
  · intro _
    exact Action.Triple.returns fun _ followed => followed
  · intro raised
    dsimp only
    split
    · apply Action.Triple.requires _ fun session ended => And.symm ended
      apply Action.Triple.given
      intro vouched
      apply Action.Triple.bind (reconcile_halted named)
      intro found
      exact Action.Triple.raises fun session followed => ⟨⟨_, followed⟩, vouched.attach (by decide)⟩
    · exact Action.Triple.raises fun session ended => ⟨⟨_, ended.1⟩, ended.2⟩

end Gates

section RollingBack

/-- A record that is said to be gone is gone, and the error can be trusted. -/
abbrev Clears (service : LifecycleService σ) (name : String) (start : Session σ) (plan : TopologyPlan) (outcome : Bool × Raised)
    (session : Session σ) : Prop :=
  (∃ phase, service.At name start phase session ∧ (outcome.1 = true → phase.Gone plan)) ∧ service.Vouches outcome.2

variable {original : Raised}

theorem reconcileRollbackStateDelete_follows {stateError : Raised} (named : task.plan.name = name)
    (vouched : service.Vouches original) : Action.Triple (service.At name start (.doubtful task))
      (service.reconcileRollbackStateDelete original stateError task.plan task.record) (service.Clears name start task.plan)
      (service.Fails name start) := by
  have noted : service.Vouches (original.attach "rollback_state" stateError.payload) := vouched.attach (by decide)
  unfold reconcileRollbackStateDelete
  dsimp only
  split
  · exact Action.Triple.returns fun _ followed => ⟨⟨_, followed, fun gone => by cases gone⟩, noted⟩
  · apply Action.Triple.bind (deleteGate_doubtful task named)
    intro gate
    have looked : service.Vouches ((original.attach "rollback_state" stateError.payload).attach "rollback_state_reconciliation"
        (.dict gate.reconciliation.diagnostics)) := noted.attach (by decide)
    split
    · apply Action.Triple.returns
      intro session given
      obtain ⟨phase, followed⟩ := given.1
      exact ⟨⟨phase, followed, fun gone => by cases gone⟩, looked⟩
    next proceeds =>
      rw [not_or, Bool.not_eq_false] at proceeds
      apply Action.Triple.requires _ fun session given => given.2 proceeds.2
      apply Action.Triple.some
      intro current
      apply Action.Triple.some
      intro absence
      apply Action.Triple.given
      intro expected
      rw [named]
      apply Action.Triple.attempted (performs tells_delete fun reply => .retry absence expected)
      · intro _
        exact Action.Triple.returns fun _ followed => ⟨⟨_, followed, fun _ => rfl⟩, looked⟩
      · intro retryError
        apply Action.Triple.requires _ fun session ended => And.symm ended
        apply Action.Triple.given
        intro retried
        dsimp only
        split
        · exact raiseDeleteRetryInterrupt_follows named retried
        · split
          · exact Action.Triple.returns fun _ followed => ⟨⟨_, followed, fun gone => by cases gone⟩, looked.attach (by decide)⟩
          · apply Action.Triple.bind (deleteGate_halted named)
            intro retryGate
            apply Action.Triple.returns
            intro session followed
            exact ⟨⟨_, followed, fun gone => by cases gone⟩, (looked.attach (by decide)).attach (by decide)⟩

theorem removeRollbackState_follows {ready : Bool} (named : task.plan.name = name) (rereads : task.rereads = true)
    (absence : Absence task.plan) (vouched : service.Vouches original) :
    Action.Triple (service.At name start (.observed task absence.inventory ready))
      (service.removeRollbackState original task.plan task.record) (service.Clears name start task.plan)
      (service.Fails name start) := by
  unfold removeRollbackState
  rw [named]
  apply Action.Triple.attempted (performs tells_load fun reply => .reload absence rereads)
  · intro found
    cases found with
    | none => exact Action.Triple.returns fun _ followed => ⟨⟨_, followed, fun _ => rfl⟩, vouched⟩
    | some current =>
      dsimp only
      split
      · exact Action.Triple.returns fun _ followed => ⟨⟨_, followed, fun gone => by cases gone⟩, vouched.attach (by decide)⟩
      next expected =>
        rw [Bool.not_eq_false] at expected
        apply Action.Triple.attempted (performs tells_delete fun reply => .abandon expected)
        · intro _
          exact Action.Triple.returns fun _ followed => ⟨⟨_, followed, fun _ => rfl⟩, vouched⟩
        · intro stateError
          exact (reconcileRollbackStateDelete_follows named vouched).requires fun _ ended => ended.1
  · intro stateError
    exact Action.Triple.returns fun _ ended => ⟨⟨_, ended.1, fun gone => by cases gone⟩, vouched.attach (by decide)⟩

/-- Routing is called for topologies with routing only. -/
theorem routingCall_follows {α : Type} {method : Option (TopologyPlan → Action σ Raised α)} {without : α}
    {call : Except Raised α → Call} {post : α → Session σ → Prop} {fails : Raised → Session σ → Prop}
    (silent : hasRouting plan = false → ∀ session, service.At name start phase session → post without session)
    (unsupported : ∀ session raised, service.Ends name start phase raised session → fails raised session)
    (supported : hasRouting plan = true → ∀ effect ∈ method, Action.Triple (service.At name start phase)
      (Traced.perform (effect plan) call) post fails) :
    Action.Triple (service.At name start phase) (routingCall plan method without call) post fails := by
  unfold routingCall
  split
  next plain => exact Action.Triple.returns (silent plain)
  next routed =>
    cases method with
    | none =>
      apply Action.Triple.raises
      intro session followed
      exact unsupported _ _ ⟨followed, fun claims => by simp [Raised.Claims, Raised.attached, Dict.lookup_cons_if] at claims⟩
    | some effect => exact supported (by simpa using routed) effect rfl

theorem stopRouting_follows (busy : phase.task? = some task) : Action.Triple (service.At name start phase)
    (service.stopRouting task.plan) (fun _ => service.Busy name start task)
      fun raised session => service.Busy name start task session ∧ service.Vouches raised := by
  apply routingCall_follows
  · exact fun _ _ followed => ⟨_, followed, busy⟩
  · exact fun _ _ ended => ⟨⟨_, ended.1, busy⟩, ended.2⟩
  · intro _ effect supported
    apply (performs (tells_stopRouting supported) fun reply => .clean busy rfl).weaken (fun _ followed => followed)
    · exact fun _ _ followed => ⟨_, followed, rfl⟩
    · exact fun _ _ ended => ⟨⟨_, ended.1, rfl⟩, ended.2⟩

theorem rollbackRouting_follows {fails : Raised → Session σ → Prop} : Action.Triple (service.Busy name start task)
    (service.rollbackRouting task.plan) (fun _ => service.Busy name start task) fails := by
  unfold rollbackRouting
  split
  · exact Action.Triple.returns fun _ followed => followed
  · apply Action.Triple.some
    intro phase
    apply Action.Triple.requires _ fun session holds => And.symm holds
    apply Action.Triple.given
    intro busy
    apply Action.Triple.attempted (stopRouting_follows busy)
    · intro _
      exact Action.Triple.returns fun _ followed => followed
    · intro raised
      cases raised <;> exact Action.Triple.returns fun _ ended => ended.1

theorem rollbackNamespaces_follows {namespaces : List String} (may : ∀ netns ∈ namespaces, netns ∈ task.may)
    {fails : Raised → Session σ → Prop} : Action.Triple (service.Busy name start task) (service.rollbackNamespaces namespaces)
      (fun _ => service.Busy name start task) fails := by
  induction namespaces with
  | nil => exact Action.Triple.returns fun _ followed => followed
  | cons netns rest ih =>
    have others := ih fun other member => may other (List.mem_cons_of_mem _ member)
    apply Action.Triple.some
    intro phase
    apply Action.Triple.requires _ fun session holds => And.symm holds
    apply Action.Triple.given
    intro busy
    apply Action.Triple.attempted (performs tells_deleteNamespace fun reply => .clean busy (may netns List.mem_cons_self))
    · intro _
      apply (others.requires fun _ followed => ⟨_, followed, rfl⟩).bind
      exact fun _ => Action.Triple.returns fun _ followed => followed
    · intro raised
      apply (others.requires fun _ ended => ⟨_, ended.1, rfl⟩).bind
      intro _
      dsimp only
      split
      · exact Action.Triple.returns fun _ followed => followed
      · exact Action.Triple.returns fun _ followed => followed

/-- An error that tells of a complete rollback tells the truth, unless the system misleads. -/
abbrev Settles (service : LifecycleService σ) (name : String) (start : Session σ) (plan : TopologyPlan) (raised : Raised)
    (session : Session σ) : Prop :=
  ∃ phase, service.At name start phase session ∧ (raised.Claims → service.Misleads ∨ phase.Gone plan)

omit [RedEvaluation] in
theorem Vouches.complete {raised : Raised} {complete : Bool} (vouched : service.Vouches raised)
    (claims : (raised.attach "rollback_complete" (.bool complete)).Claims) : service.Misleads ∨ complete = true := by
  cases Raised.attached_attach raised _ _ _ _ claims with
  | inl same => exact .inr (Document.bool.inj same.2).symm
  | inr before => exact .inl (vouched before)

/-- What the last inventory of an undoing has told, with an error that can be trusted. -/
abbrev Looks (service : LifecycleService σ) (name : String) (start : Session σ) (task : Task service.schemaError name)
    (seen : Bool × Raised) (session : Session σ) : Prop :=
  service.Vouches seen.2 ∧ ((∃ absence : Absence task.plan, ∃ ready,
    service.At name start (.observed task absence.inventory ready) session) ∨ seen.1 = false ∧ service.Stands name start session)

/-- What a task has left behind is taken down, and its record when nothing is left. -/
theorem rollbackAndAttach_follows (task : Task service.schemaError name) {created : List String}
    (named : task.plan.name = name) (rereads : task.rereads = true)
    (may : ∀ netns ∈ created, netns ∈ task.may) (vouched : service.Vouches original) :
    Action.Triple (service.Busy name start task) (service.rollbackAndAttach original task.plan created task.record)
      (service.Settles name start task.plan) (service.Fails name start) := by
  have attaches : ∀ (outcome : Bool × Raised) (notes : List Document), Action.Triple (service.Clears name start task.plan outcome)
      (pure ((outcome.2.attach "rollback" (.list notes)).attach "rollback_complete" (.bool outcome.1)))
      (service.Settles name start task.plan) (service.Fails name start) := by
    intro outcome notes
    apply Action.Triple.returns
    intro session given
    obtain ⟨⟨phase, followed, gone⟩, trusted⟩ := given
    refine ⟨phase, followed, fun claims => ?_⟩
    cases (trusted.attach (by decide)).complete claims with
    | inl misleads => exact .inl misleads
    | inr complete => exact .inr (gone complete)
  unfold rollbackAndAttach
  apply rollbackRouting_follows.bind
  intro routing
  apply (rollbackNamespaces_follows (by simpa using may)).bind
  intro namespaces
  apply Action.Triple.some
  intro phase
  apply Action.Triple.requires _ fun session holds => And.symm holds
  apply Action.Triple.given
  intro busy
  refine Action.Triple.bind (?looks : Action.Triple _ _ (service.Looks name start task) _) fun seen => ?_
  case looks =>
    apply Action.Triple.attempted (performs tells_inventory fun reply => .observe busy)
    · intro inventory
      apply Action.Triple.returns
      intro session followed
      refine ⟨vouched, ?_⟩
      cases absent : inventoryIsAbsent task.plan inventory with
      | true => exact .inl ⟨⟨inventory, absent⟩, _, followed⟩
      | false => exact .inr ⟨rfl, _, followed⟩
    · intro inventoryError
      exact Action.Triple.returns fun _ ended => ⟨vouched.attach (by decide), .inr ⟨rfl, _, ended.1⟩⟩
  obtain ⟨absent, error⟩ := seen
  apply Action.Triple.given
  intro trusted
  dsimp only
  split
  next removes =>
    apply Action.Triple.bind _ fun outcome => attaches outcome (routing.1 ++ namespaces.1)
    intro session given
    rw [removes.2] at given
    obtain ⟨absence, ready, followed⟩ | given := given
    · exact removeRollbackState_follows named rereads absence trusted session followed
    · cases given.1
  next keeps =>
    apply Action.Triple.bind (Action.Triple.returns _) fun outcome => attaches outcome (routing.1 ++ namespaces.1)
    intro session given
    obtain ⟨absence, ready, followed⟩ | given := given
    · exact ⟨⟨_, followed, fun gone => by cases gone⟩, trusted⟩
    · obtain ⟨phase, followed⟩ := given.2
      exact ⟨⟨phase, followed, fun gone => by cases gone⟩, trusted⟩

/-- A deployment that may have been recorded is looked at, and undone unless it was. -/
theorem handleFinalDeploySaveFailure_follows (task : Task service.schemaError name) {created : List String}
    (named : task.plan.name = name)
    (rereads : task.rereads = true) (may : ∀ netns ∈ created, netns ∈ task.may) (vouched : service.Vouches original) :
    Action.Triple (service.At name start (.working task))
      (service.handleFinalDeploySaveFailure original task.plan created task.record)
      (service.Settles name start task.plan) (service.Fails name start) := by
  have stays : ∀ error, service.Vouches error → Action.Triple (service.Busy name start task) (pure error)
      (service.Settles name start task.plan) (service.Fails name start) := by
    intro error trusted
    apply Action.Triple.returns
    intro session given
    obtain ⟨phase, followed, _⟩ := given
    exact ⟨phase, followed, fun claims => .inl (trusted claims)⟩
  unfold handleFinalDeploySaveFailure
  split
  · apply (reconcile_working named).bind
    intro found
    have trusted : service.Vouches (original.attach "reconciliation" (.dict found.diagnostics)) := vouched.attach (by decide)
    dsimp only
    split
    · exact stays _ trusted
    · split
      · exact stays _ trusted
      · exact rollbackAndAttach_follows task named rereads may trusted
  · exact (rollbackAndAttach_follows task named rereads may vouched).requires fun _ followed => ⟨_, followed, rfl⟩

end RollingBack

end LifecycleService

end Lifecycle

end Nslab
