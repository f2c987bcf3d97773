import Nslab.Lifecycle.Record
import Nslab.Plan.RoundTrip

/-! What is recorded is ahead of what is there: as long as a namespace that was created
for a deployment is live, the record of the deployment compiles to a plan with it. -/

namespace Nslab

namespace Lifecycle

section Coverage

/-- The plan of a record has a namespace. -/
def Covers (name : String) (snapshot : StateSnapshot) (netns : String) : Prop :=
  ∃ manifest plan, snapshot.manifest.validate = .ok manifest ∧ compilePlan manifest (some name) = .ok plan ∧
    netns ∈ plannedNamespaces plan

/-- A manifest as it is read back from what was written. -/
def Written (snapshot : StateSnapshot) : Prop := snapshot.manifest.document.reshape true true = snapshot.manifest.document

theorem namespaces_of_same {left right : TopologyPlan} (same : left.Same right) {netns : String}
    (planned : netns ∈ plannedNamespaces left) : netns ∈ plannedNamespaces right := by
  obtain ⟨node, member, own⟩ := List.mem_map.mp planned
  obtain ⟨key, found⟩ := Dict.mem_values_iff.mp member
  have related := same.nodes key
  rw [found] at related
  cases other : right.nodes.get? key with
  | none =>
    rw [other] at related
    cases related
  | some equal =>
    rw [other] at related
    cases related with
    | some equals => exact List.mem_map.mpr ⟨equal, Dict.mem_values_iff.mpr ⟨key, other⟩, equals.netns.symm.trans own⟩

variable {name : String}

theorem Undertaking.expected (job : Undertaking name) :
    ∃ expected, compilePlan job.manifest (some name) = .ok expected ∧ job.plan.Same expected := by
  have compiled := job.compiled
  simp only [validatePlanManifest, Checks.bind_ok, Checks.mapIssue_ok, Checks.raiseIf_ok, not_or, not_not] at compiled
  obtain ⟨expected, planned, _, same, _⟩ := compiled
  rw [job.named] at planned
  exact ⟨expected, planned, same⟩

/-- A record with the manifest of a deployment covers its namespaces. -/
theorem Undertaking.covers (job : Undertaking name) {loaded : StateSnapshot}
    (manifest : loaded.manifest.document = (normalizedManifest job.manifest).reshape true true) {netns : String}
    (planned : netns ∈ plannedNamespaces job.plan) : Written loaded ∧ Covers name loaded netns := by
  have valid := job.held.accepted.valid
  have written : Written loaded := by
    rw [Written, manifest, Document.reshape_reshape]
    rfl
  refine ⟨written, ?_⟩
  have validated : loaded.manifest.validate = .ok (job.manifest.settled true) := by
    have same : loaded.manifest.validate = validateManifest loaded.manifest.document := rfl
    rw [same, manifest]
    exact validateManifest_normalized valid true true
  obtain ⟨expected, compiled, same⟩ := job.expected
  obtain ⟨again, compiles⟩ := (compilePlan_settled valid true (some name)).total.mpr ⟨expected, compiled⟩
  have equal := (compilePlan_settled valid true (some name)).ok compiles compiled
  exact ⟨_, again, validated, compiles, namespaces_of_same equal.symm (namespaces_of_same same planned)⟩

theorem Undertaking.covers_record [RedEvaluation] (job : Undertaking name) {record : Option StateSnapshot}
    (backed : Backs job.record record ∨ ∃ verification : job.Verification, Backs verification.record record) {netns : String}
    (planned : netns ∈ plannedNamespaces job.plan) : ∃ loaded, record = some loaded ∧ Written loaded ∧
      Covers name loaded netns := by
  have read : ∀ {snapshot loaded : StateSnapshot}, snapshot.manifest.document =
    (normalizedManifest job.manifest).reshape false true →
      snapshot.Restores loaded → loaded.manifest.document = (normalizedManifest job.manifest).reshape true true := by
    intro snapshot loaded own restores
    rw [restores.manifest, own, Document.reshape_reshape]
    rfl
  obtain ⟨loaded, same, restores⟩ | ⟨verification, loaded, same, restores⟩ := backed
  · exact ⟨loaded, same, job.covers (read (snapshotForPlan_ok job.recorded).manifest restores) planned⟩
  · exact ⟨loaded, same, job.covers (read (snapshotForPlan_ok verification.recorded).manifest restores) planned⟩

end Coverage

section Observing

variable {σ : Type}

/-- Inventories tell which namespaces are live, and only creating one makes it live. -/
structure LifecycleService.Observant (service : LifecycleService σ) (live : σ → String → Prop) : Prop where
  sees : ∀ {before plan inventory after}, service.Performs before (.inventory plan (.ok inventory)) after →
    ∀ netns ∈ plannedNamespaces plan, ∀ observed, inventory.namespaces.get? netns = some observed →
      (observed.live = true ↔ live before netns)
  creates : ∀ {before call after netns}, service.Performs before call after → live after netns → ¬ live before netns →
    ∃ node reply, call = .createNamespace node reply ∧ node.netns = netns

/-- A call that may create a namespace. -/
def Call.Creates : Call → Bool
  | .createNamespace _ _ => true
  | _ => false

theorem Call.Cleans.not_creates {text : Schema.Issue → String} {name : String} {task : Task text name} {call : Call}
    (cleans : call.Cleans task) : call.Creates = false := by
  cases call with
  | createNamespace => exact cleans.elim
  | _ => rfl

theorem Call.Constructs.not_creates {plan : TopologyPlan} {call : Call} (constructs : call.Constructs plan) :
    call.Creates = false := by
  cases call with
  | createNamespace => exact constructs.elim
  | _ => rfl

/-- A namespace that was created, or may have been. -/
def Created (netns : String) (calls : List Call) : Prop :=
  ∃ node reply, Call.createNamespace node reply ∈ calls ∧ node.netns = netns

variable (record : σ → Option StateSnapshot) (live : σ → String → Prop)

/-- What was created and is live is recorded. -/
def Recorded (name : String) (session : Session σ) : Prop :=
  ∀ netns, Created netns session.calls → live session.state netns →
    ∃ snapshot, record session.state = some snapshot ∧ Written snapshot ∧ Covers name snapshot netns

/-- What was created and is live belongs to a plan. -/
def Spans (plan : TopologyPlan) (session : Session σ) : Prop :=
  ∀ netns, Created netns session.calls → live session.state netns → netns ∈ plannedNamespaces plan

/-- Nothing of a plan is live. -/
def Bare (plan : TopologyPlan) (session : Session σ) : Prop := ∀ netns ∈ plannedNamespaces plan, ¬ live session.state netns

variable {record live} {service : LifecycleService σ} {name : String} {session : Session σ} {call : Call} {after : σ}
  {plan : TopologyPlan}

/-- A call that creates nothing makes nothing live, and leaves nothing created that was not. -/
theorem LifecycleService.Observant.steady (observant : service.Observant live) (quiet : call.Creates = false)
    (performed : service.Performs session.state call after) {netns : String}
    (created : Created netns (session.record call after).calls) (now : live (session.record call after).state netns) :
    Created netns session.calls ∧ live session.state netns := by
  constructor
  · obtain ⟨node, reply, member, own⟩ := created
    rw [Traced.calls_record, List.mem_append, List.mem_singleton] at member
    obtain earlier | same := member
    · exact ⟨node, reply, earlier, own⟩
    · subst same
      cases quiet
  · rw [Traced.state_record] at now
    by_contra before
    obtain ⟨node, reply, same, _⟩ := observant.creates performed now before
    subst same
    cases quiet

theorem Spans.steady (spans : Spans live plan session) (observant : service.Observant live) (quiet : call.Creates = false)
    (performed : service.Performs session.state call after) : Spans live plan (session.record call after) := by
  intro netns created now
  obtain ⟨earlier, before⟩ := observant.steady quiet performed created now
  exact spans netns earlier before

theorem Bare.steady (bare : Bare live plan session) (observant : service.Observant live) (quiet : call.Creates = false)
    (performed : service.Performs session.state call after) : Bare live plan (session.record call after) := by
  intro netns planned now
  rw [Traced.state_record] at now
  by_cases before : live session.state netns
  · exact bare netns planned before
  · obtain ⟨node, reply, same, _⟩ := observant.creates performed now before
    subst same
    cases quiet

theorem Recorded.steady (recorded : Recorded record live name session) (observant : service.Observant live)
    (quiet : call.Creates = false) (performed : service.Performs session.state call after)
    (kept : record after = record session.state) : Recorded record live name (session.record call after) := by
  intro netns created now
  obtain ⟨earlier, before⟩ := observant.steady quiet performed created now
  rw [Traced.state_record, kept]
  exact recorded netns earlier before

/-- An inventory with nothing of a plan is right. -/
theorem LifecycleService.Observant.bare (observant : service.Observant live) {inventory : LiveInventory}
    (absent : inventoryIsAbsent plan inventory = true)
    (performed : service.Performs session.state (.inventory plan (.ok inventory)) after) :
    Bare live plan (session.record (.inventory plan (.ok inventory)) after) := by
  refine Bare.steady (fun netns planned now => ?_) observant rfl performed
  obtain ⟨observed, found, dead⟩ := not_live_of_absent absent netns planned
  rw [← observant.sees performed netns planned observed found, dead] at now
  cases now

/-- Where all that was created belongs to a plan with nothing live, nothing has to be recorded. -/
theorem recorded_of_bare (spans : Spans live plan session) (bare : Bare live plan session) : Recorded record live name session :=
  fun netns created now => absurd now (bare netns (spans netns created now))

end Observing

section Steps

variable [RedEvaluation] {σ : Type} {service : LifecycleService σ} {name : String} {record : σ → Option StateSnapshot}
  {live : σ → String → Prop} {session : Session σ} {call : Call} {after : σ} {phase next : Phase service.schemaError name}
  {task : Task service.schemaError name}

/-- What is live in a phase. -/
def Phase.Spans {text : Schema.Issue → String} (live : σ → String → Prop) (session : Session σ) : Phase text name → Prop
  | .working task => Lifecycle.Spans live task.plan session
  | .observed task inventory _ =>
    Lifecycle.Spans live task.plan session ∧ (inventoryIsAbsent task.plan inventory = true → Bare live task.plan session)
  | .reloaded task _ _ => Lifecycle.Spans live task.plan session ∧ Bare live task.plan session
  | .doubtful task => Lifecycle.Spans live task.plan session ∧ Bare live task.plan session
  | .rechecked task _ => Lifecycle.Spans live task.plan session ∧ Bare live task.plan session
  | .reconciled task _ _ => Lifecycle.Spans live task.plan session ∧ Bare live task.plan session
  | _ => True

theorem Phase.Spans.of_task (spans : phase.Spans live session) (busy : phase.task? = some task) :
    Lifecycle.Spans live task.plan session := by
  cases phase with
  | working other =>
    cases busy
    exact spans
  | observed other =>
    cases busy
    exact spans.1
  | _ => cases busy

theorem Phase.Spans.steady (spans : phase.Spans live session) (observant : service.Observant live) (quiet : call.Creates = false)
    (performed : service.Performs session.state call after) : phase.Spans live (session.record call after) := by
  cases phase with
  | working task => exact Lifecycle.Spans.steady spans observant quiet performed
  | observed task inventory ready =>
    exact ⟨spans.1.steady observant quiet performed, fun absent => (spans.2 absent).steady observant quiet performed⟩
  | reloaded | doubtful | rechecked | reconciled =>
    exact ⟨spans.1.steady observant quiet performed, spans.2.steady observant quiet performed⟩
  | _ => trivial

omit [RedEvaluation] in
/-- A record that is about to be retired covers what its plan has. -/
theorem Retirement.planned {text : Schema.Issue → String} (job : Retirement text name) {netns : String}
    (covers : Covers name job.snapshot netns) : netns ∈ plannedNamespaces job.plan := by
  obtain ⟨manifest, plan, validated, compiled, planned⟩ := covers
  obtain ⟨other, again, compiles, _⟩ := planFromSnapshot_ok job.valid
  rw [validated, Except.ok.injEq] at again
  subst again
  rw [job.named, compiled, Except.ok.injEq] at compiles
  exact compiles ▸ planned

/-- What is created and live stays recorded, and within the plan of what is under way. -/
theorem Phase.Spans.step (store : service.AtomicStore name record) (observant : service.Observant live)
    (knows : phase.Knows (record session.state)) (recorded : Recorded record live name session) (spans : phase.Spans live session)
    (allowed : Step service.schemaError name phase call next) (performed : service.Performs session.state call after) :
    Recorded record live name (session.record call after) ∧ next.Spans live (session.record call after) := by
  cases allowed with
  | enter | exit | recover | inspectRecord | inspectLive | reread =>
    exact ⟨recorded.steady observant rfl performed (store.keeps rfl performed), spans.steady observant rfl performed⟩
  | load | survey | compare | compareRouting =>
    exact ⟨recorded.steady observant rfl performed (store.keeps rfl performed), replied_holds (fun _ _ => trivial) trivial⟩
  | @begin job inventory reply =>
    have unrecorded : record session.state = none := knows
    have vacuous : ∀ netns, Created netns (session.record (.save job.record reply) after).calls →
        ¬ live (session.record (.save job.record reply) after).state netns := by
      intro netns created now
      obtain ⟨earlier, before⟩ := observant.steady rfl performed created now
      obtain ⟨snapshot, same, _⟩ := recorded netns earlier before
      cases same.symm.trans unrecorded
    exact ⟨fun netns created now => absurd now (vacuous netns created),
      replied_holds (fun _ _ netns created now => absurd now (vacuous netns created)) trivial⟩
  | @retire job reply =>
    have found : record session.state = some job.snapshot := knows
    have covered : ∀ netns, Created netns (session.record (.save job.record reply) after).calls →
        live (session.record (.save job.record reply) after).state netns →
        Written job.snapshot ∧ Covers name job.snapshot netns := by
      intro netns created now
      obtain ⟨earlier, before⟩ := observant.steady rfl performed created now
      obtain ⟨snapshot, same, covers⟩ := recorded netns earlier before
      cases same.symm.trans found
      exact covers
    refine ⟨fun netns created now => ?_, replied_holds (fun _ _ netns created now => ?_) trivial⟩
    · obtain ⟨written, covers⟩ := covered netns created now
      rw [Traced.state_record]
      have named : job.record.name = name := job.named
      have genuine : job.record.Genuine := ⟨(store.genuine found).manifest, (store.genuine found).interfaces⟩
      obtain same | ⟨loaded, now, restores⟩ := store.saves named genuine performed
      · exact ⟨job.snapshot, same.trans found, written, covers⟩
      · have manifest : loaded.manifest = job.snapshot.manifest :=
          FrozenMapping.ext_document (restores.manifest.trans written)
        refine ⟨loaded, now, ?_, ?_⟩
        · rw [Written, manifest]
          exact written
        · rw [Covers, manifest]
          exact covers
    · exact job.planned (covered netns created now).2
  | @create job created node reply planned =>
    have within : Lifecycle.Spans live job.plan (session.record (.createNamespace node reply) after) := by
      intro netns creates now
      rw [Traced.state_record] at now
      by_cases before : live session.state netns
      · obtain ⟨other, answer, member, own⟩ := creates
        rw [Traced.calls_record, List.mem_append, List.mem_singleton] at member
        obtain earlier | same := member
        · exact spans netns ⟨other, answer, earlier, own⟩ before
        · cases same
          exact own ▸ List.mem_map_of_mem planned
      · obtain ⟨other, answer, same, own⟩ := observant.creates performed now before
        cases same
        exact own ▸ List.mem_map_of_mem planned
    refine ⟨fun netns creates now => ?_, within⟩
    rw [Traced.state_record, store.keeps rfl performed]
    exact job.covers_record (.inl knows) (within netns creates now)
  | construct constructs =>
    exact ⟨recorded.steady observant constructs.not_creates performed (store.keeps constructs.not_stores performed),
      spans.steady observant constructs.not_creates performed⟩
  | clean busy cleans =>
    exact ⟨recorded.steady observant cleans.not_creates performed (store.keeps cleans.not_stores performed),
      (spans.of_task busy).steady observant cleans.not_creates performed⟩
  | observe busy =>
    have within := (spans.of_task busy).steady observant rfl performed
    refine ⟨recorded.steady observant rfl performed (store.keeps rfl performed), replied_holds (fun inventory same => ?_) within⟩
    subst same
    exact ⟨within, fun absent => observant.bare absent performed⟩
  | poll =>
    exact ⟨recorded.steady observant rfl performed (store.keeps rfl performed),
      replied_holds (fun _ _ => spans.steady observant rfl performed) (spans.1.steady observant rfl performed)⟩
  | @confirm job created reply verification =>
    have within := spans.1.steady observant rfl performed
    refine ⟨fun netns creates now => ?_, replied_holds (fun _ _ => trivial) within⟩
    rw [Traced.state_record]
    obtain same | backs := store.saves verification.record_ok.1 verification.record_ok.2.2 performed
    · rw [same]
      exact job.covers_record (.inl knows) (within netns creates now)
    · exact job.covers_record (.inr ⟨verification, backs⟩) (within netns creates now)
  | @reload task reply ready absence rereads =>
    refine ⟨recorded.steady observant rfl performed (store.keeps rfl performed), replied_holds (fun _ _ => ?_) trivial⟩
    exact ⟨spans.1.steady observant rfl performed, (spans.2 absence.absent).steady observant rfl performed⟩
  | abandon =>
    have within := spans.1.steady observant rfl performed
    have bare := spans.2.steady observant rfl performed
    exact ⟨recorded_of_bare within bare, replied_holds (fun _ _ => trivial) ⟨within, bare⟩⟩
  | @finish task reply ready absence rereads =>
    have within := spans.1.steady observant rfl performed
    have bare := (spans.2 absence.absent).steady observant rfl performed
    exact ⟨recorded_of_bare within bare, replied_holds (fun _ _ => trivial) ⟨within, bare⟩⟩
  | recheck | reconcile =>
    refine ⟨recorded.steady observant rfl performed (store.keeps rfl performed), replied_holds (fun _ _ => ?_) trivial⟩
    exact ⟨spans.1.steady observant rfl performed, spans.2.steady observant rfl performed⟩
  | retry =>
    have within := spans.1.steady observant rfl performed
    have bare := spans.2.steady observant rfl performed
    exact ⟨recorded_of_bare within bare, replied_holds (fun _ _ => trivial) trivial⟩

/-- Where the calls of the store are atomic, inventories tell what is live and nobody else creates the namespaces:
whatever fails, whatever is interrupted and wherever a crash cuts a request short, the record of the deployment
compiles to a plan with every live namespace that was created for it. -/
theorem history_recorded {initial : σ → Prop} (store : service.AtomicStore name record) (observant : service.Observant live)
    (history : service.History name initial session) {netns : String} (created : Created netns session.calls)
    (now : live session.state netns) : ∃ snapshot manifest plan, record session.state = some snapshot ∧
      snapshot.manifest.validate = .ok manifest ∧ compilePlan manifest (some name) = .ok plan ∧
        netns ∈ plannedNamespaces plan := by
  have recorded : Recorded record live name session := by
    apply @Reaches.invariant _ _ _ _ _ _ _ _ (Recorded record live name)
      (fun phase session => phase.Knows (record session.state) ∧ phase.Spans live session) history.reaches
    · intro origin _ netns created
      obtain ⟨_, _, member, _⟩ := created
      cases member
    · exact fun _ _ => ⟨trivial, trivial⟩
    · intro phase next session call after recorded holds allowed performed
      obtain ⟨later, spans⟩ := holds.2.step store observant holds.1 recorded allowed performed
      rw [Traced.state_record]
      exact ⟨later, (holds.1.step store allowed performed).1, spans⟩
  obtain ⟨snapshot, same, _, manifest, plan, validated, compiled, planned⟩ := recorded netns created now
  exact ⟨snapshot, manifest, plan, same, validated, compiled, planned⟩

end Steps

end Lifecycle

end Nslab
