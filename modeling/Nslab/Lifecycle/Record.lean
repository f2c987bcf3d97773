import Nslab.Lifecycle.Requests
import Nslab.StateLoad

/-! The record of a deployment, where the calls of the store are atomic: it only moves
from nothing to deploying, from there to deployed or to nothing, and from deployed to
destroying and to nothing, and one that was left behind stays as it is. -/

namespace Nslab

namespace Lifecycle

section Moves

/-- Records of one deployment, from when it is begun until it is gone. -/
structure SameLife (before after : StateSnapshot) : Prop where
  name : after.name = before.name
  fingerprint : after.fingerprint = before.fingerprint
  createdAt : after.createdAt = before.createdAt
  /-- The manifest is the same but for the order of its keys. -/
  manifest : after.manifest.document.reshape true true = before.manifest.document.reshape true true

/-- What may become of a record. -/
inductive Moves : Option StateSnapshot → Option StateSnapshot → Prop where
  | stays {record} : Moves record record
  | begins {new} (status : new.status = "deploying") : Moves none (some new)
  | confirms {old new} (before : old.status = "deploying") (after : new.status = "deployed") (life : SameLife old new) :
    Moves (some old) (some new)
  | retires {old new} (before : old.status = "deployed") (after : new.status = "destroying") (life : SameLife old new) :
    Moves (some old) (some new)
  | abandons {old} (before : old.status = "deploying") : Moves (some old) none
  | finishes {old} (before : old.status = "destroying") : Moves (some old) none

/-- What a store has of a snapshot, as it reads it back. -/
def Backs (snapshot : StateSnapshot) (record : Option StateSnapshot) : Prop :=
  ∃ loaded, record = some loaded ∧ snapshot.Restores loaded

/-- A snapshot of a plan and its manifest. -/
structure Describes (plan : TopologyPlan) (manifest : Manifest) (createdAt status : String)
    (snapshot : StateSnapshot) : Prop where
  name : snapshot.name = plan.name
  fingerprint : snapshot.fingerprint = plan.fingerprint
  createdAt : snapshot.createdAt = createdAt
  status : snapshot.status = status
  manifest : snapshot.manifest.document = (normalizedManifest manifest).reshape false true
  namespaces : snapshot.namespaces = plan.nodes.map fun _ node => node.netns
  interfaces : snapshot.interfaces.document.genuine = true

theorem snapshotForPlan_ok {plan : TopologyPlan} {manifest : Manifest} {createdAt status : String}
    {inventory : Option LiveInventory}
    {snapshot : StateSnapshot} (made : snapshotForPlan plan manifest createdAt status inventory = .ok snapshot) :
    Describes plan manifest createdAt status snapshot := by
  unfold snapshotForPlan at made
  obtain ⟨interfaces, owned, created⟩ := Checks.bind_ok.mp made
  rw [Checks.mapIssue_ok, StateSnapshot.create] at created
  obtain ⟨stored, freezes, rest⟩ := Checks.bind_ok.mp created
  obtain ⟨others, records, same⟩ := Checks.bind_ok.mp rest
  rw [Checks.pure_ok] at same
  subst same
  have shape : others.document = (Document.dict interfaces.entries).reshape false true := (freezeMapping_ok.mp records).2.symm
  refine ⟨rfl, rfl, rfl, rfl, (freezeMapping_ok.mp freezes).2.symm, rfl, ?_⟩
  rw [shape, (Document.genuine_reshape _ _ _).1]
  exact genuine_interfaceOwnership (Checks.mapIssue_ok.mp owned)

end Moves

/-- A call that may change a record. -/
def Call.Stores : Call → Bool
  | .save _ _ => true
  | .delete _ _ => true
  | _ => false

theorem Call.Cleans.not_stores {text : Schema.Issue → String} {name : String} {task : Task text name} {call : Call}
    (cleans : call.Cleans task) : call.Stores = false := by
  cases call with
  | save | delete => exact cleans.elim
  | _ => rfl

theorem Call.Constructs.not_stores {plan : TopologyPlan} {call : Call} (constructs : call.Constructs plan) :
    call.Stores = false := by
  cases call with
  | save | delete => exact constructs.elim
  | _ => rfl

variable [RedEvaluation] {σ : Type}

/-- Loading, saving and deleting are atomic for what can be held, and nothing else changes the record. -/
structure LifecycleService.AtomicStore (service : LifecycleService σ) (name : String)
    (record : σ → Option StateSnapshot) : Prop where
  loads : ∀ {before found after}, service.Performs before (.load name (.ok found)) after → found = record before
  genuine : ∀ {before snapshot}, record before = some snapshot → snapshot.Genuine
  saves : ∀ {before snapshot reply after}, snapshot.name = name → snapshot.Genuine →
    service.Performs before (.save snapshot reply) after →
    record after = record before ∨ Backs snapshot (record after)
  saved : ∀ {before snapshot after}, snapshot.name = name → snapshot.Genuine →
    service.Performs before (.save snapshot (.ok ())) after →
    Backs snapshot (record after)
  deletes : ∀ {before reply after}, service.Performs before (.delete name reply) after →
    record after = record before ∨ record after = none
  deleted : ∀ {before after}, service.Performs before (.delete name (.ok ())) after → record after = none
  keeps : ∀ {before call after}, call.Stores = false → service.Performs before call after → record after = record before

section Knowledge

variable {text : Schema.Issue → String} {name : String}

/-- What is recorded for a task. -/
def Task.Backed (record : Option StateSnapshot) : Task text name → Prop
  | .build job _ => Backs job.record record
  | .undo job _ => Backs job.record record ∨ ∃ verification : job.Verification, Backs verification.record record
  | .retire job => Backs job.record record

/-- What is recorded in a phase. -/
def Phase.Knows (record : Option StateSnapshot) : Phase text name → Prop
  | .idle => True
  | .loaded found => record = found
  | .compared current _ _ _ => record = some current
  | .surveyed _ _ => record = none
  | .working task => task.Backed record
  | .observed task _ _ => task.Backed record
  | .complete _ verification => Backs verification.record record
  | .reloaded task _ found => record = found ∧ task.Backed record
  | .doubtful task => record = none ∨ Backs task.record record
  | .rechecked task found => record = found ∧ (record = none ∨ Backs task.record record)
  | .reconciled task found _ => record = found ∧ (record = none ∨ Backs task.record record)
  | .removed _ _ => record = none
  | .halted => True

variable {record : Option StateSnapshot} {task : Task text name} {phase : Phase text name}

omit [RedEvaluation] in
theorem Describes.held {plan : TopologyPlan} {manifest : Manifest} {createdAt status : String} {snapshot : StateSnapshot}
    (describes : Describes plan manifest createdAt status snapshot) (held : Held manifest) : snapshot.Genuine := by
  refine ⟨?_, describes.interfaces⟩
  rw [describes.manifest, (Document.genuine_reshape _ _ _).1]
  exact held.genuine

omit [RedEvaluation] in
theorem Undertaking.record_ok (job : Undertaking name) :
    job.record.name = name ∧ job.record.status = "deploying" ∧ job.record.Genuine := by
  have describes := snapshotForPlan_ok job.recorded
  exact ⟨describes.name.trans job.named, describes.status, describes.held job.held⟩

theorem Undertaking.Verification.record_ok {job : Undertaking name} (verification : job.Verification) :
    verification.record.name = name ∧ verification.record.status = "deployed" ∧ verification.record.Genuine := by
  have describes := snapshotForPlan_ok verification.recorded
  exact ⟨describes.name.trans job.named, describes.status, describes.held job.held⟩

/-- The two records of a deployment are of one life. -/
theorem Undertaking.Verification.sameLife {job : Undertaking name} (verification : job.Verification) {old new : StateSnapshot}
    (before : job.record.Restores old) (after : verification.record.Restores new) : SameLife old new := by
  have first := snapshotForPlan_ok job.recorded
  have second := snapshotForPlan_ok verification.recorded
  constructor
  · rw [after.name, before.name, first.name, second.name]
  · rw [after.fingerprint, before.fingerprint, first.fingerprint, second.fingerprint]
  · rw [after.createdAt, before.createdAt, first.createdAt, second.createdAt]
  · rw [after.manifest, before.manifest, first.manifest, second.manifest]

theorem Phase.Knows.of_task (knows : phase.Knows record) (busy : phase.task? = some task) : task.Backed record := by
  cases phase with
  | working other | observed other =>
    cases busy
    exact knows
  | _ => cases busy

/-- A record that is found as it was written for a task is that of the task. -/
theorem Task.Backed.expected {current : StateSnapshot} (backed : task.Backed (some current))
    (expected : current.same task.record = true) : Backs task.record (some current) := by
  cases task with
  | build job created => exact backed
  | retire job => exact backed
  | undo job created =>
    obtain backed | ⟨verification, loaded, same, restores⟩ := backed
    · exact backed
    · cases same
      have status : current.status = job.record.status := by
        simp only [StateSnapshot.same, Bool.and_eq_true, beq_iff_eq] at expected
        exact expected.2
      rw [restores.status, verification.record_ok.2.1, job.record_ok.2.1] at status
      exact absurd status (by decide)

omit [RedEvaluation] in
/-- The record of a task may be deleted. -/
theorem Backs.deleted {after : Option StateSnapshot} (backs : Backs task.record record)
    (deletes : after = record ∨ after = none) : Moves record after := by
  obtain same | gone := deletes
  · exact same ▸ .stays
  · subst gone
    obtain ⟨loaded, rfl, restores⟩ := backs
    cases task with
    | build job created | undo job created => exact .abandons (restores.status.trans job.record_ok.2.1)
    | retire job => exact .finishes restores.status

end Knowledge

section Steps

variable {service : LifecycleService σ} {name : String} {record : σ → Option StateSnapshot} {before after : σ} {call : Call}
  {phase next : Phase service.schemaError name} {task : Task service.schemaError name}

omit [RedEvaluation] in
/-- A record that may be deleted, and was or was not. -/
theorem LifecycleService.AtomicStore.delete_backed (store : service.AtomicStore name record) {reply : Except Raised Unit}
    (backs : Backs task.record (record before)) (performed : service.Performs before (.delete name reply) after) :
    Moves (record before) (record after) ∧ (record after = none ∨ Backs task.record (record after)) := by
  refine ⟨backs.deleted (store.deletes performed), ?_⟩
  obtain same | gone := store.deletes performed
  · exact .inr (same ▸ backs)
  · exact .inl gone

/-- What is recorded moves with the phases, and only as it may. -/
theorem Phase.Knows.step (store : service.AtomicStore name record) (knows : phase.Knows (record before))
    (allowed : Step service.schemaError name phase call next) (performed : service.Performs before call after) :
    next.Knows (record after) ∧ Moves (record before) (record after) := by
  have kept : record after = record before → ∀ {later : Phase service.schemaError name}, later.Knows (record before) →
      later.Knows (record after) ∧ Moves (record before) (record after) := by
    intro same later known
    rw [same]
    exact ⟨known, .stays⟩
  cases allowed with
  | enter | exit | recover | inspectRecord | inspectLive | reread | create => exact kept (store.keeps rfl performed) knows
  | compare | compareRouting =>
    refine kept (store.keeps rfl performed) ?_
    exact replied_holds (fun _ _ => knows) knows
  | load =>
    refine kept (store.keeps rfl performed) ?_
    exact replied_holds (fun found same => by
      subst same
      exact (store.loads performed).symm) trivial
  | survey =>
    refine kept (store.keeps rfl performed) ?_
    exact replied_holds (fun _ _ => knows) trivial
  | @begin job inventory reply =>
    have knows : record before = none := knows
    obtain ⟨named, status, genuine⟩ := job.record_ok
    refine ⟨replied_holds (fun _ same => ?_) trivial, ?_⟩
    · subst same
      exact store.saved named genuine performed
    · obtain same | ⟨loaded, now, restores⟩ := store.saves named genuine performed
      · exact same ▸ .stays
      · rw [knows, now]
        exact .begins (restores.status.trans status)
  | @retire job reply =>
    have knows : record before = some job.snapshot := knows
    have named : job.record.name = name := job.named
    have genuine : job.record.Genuine := ⟨(store.genuine knows).manifest, (store.genuine knows).interfaces⟩
    refine ⟨replied_holds (fun _ same => ?_) trivial, ?_⟩
    · subst same
      exact store.saved named genuine performed
    · obtain same | ⟨loaded, now, restores⟩ := store.saves named genuine performed
      · exact same ▸ .stays
      · rw [knows, now]
        refine .retires job.stable restores.status ⟨restores.name, restores.fingerprint, restores.createdAt, ?_⟩
        rw [restores.manifest, Document.reshape_reshape]
        rfl
  | construct constructs => exact kept (store.keeps constructs.not_stores performed) knows
  | clean busy cleans => exact kept (store.keeps cleans.not_stores performed) (knows.of_task busy)
  | observe busy =>
    refine kept (store.keeps rfl performed) ?_
    exact replied_holds (fun _ _ => knows.of_task busy) (knows.of_task busy)
  | poll =>
    refine kept (store.keeps rfl performed) ?_
    exact replied_holds (fun _ _ => knows) knows
  | @confirm job created reply verification =>
    obtain ⟨named, status, genuine⟩ := verification.record_ok
    refine ⟨?_, ?_⟩
    · apply replied_holds
      · intro _ same
        subst same
        exact store.saved named genuine performed
      · obtain same | backs := store.saves named genuine performed
        · exact .inl (same ▸ knows)
        · exact .inr ⟨verification, backs⟩
    · obtain same | ⟨loaded, now, restores⟩ := store.saves named genuine performed
      · exact same ▸ .stays
      · obtain ⟨old, was, restored⟩ := knows
        rw [was, now]
        exact .confirms (restored.status.trans job.record_ok.2.1) (restores.status.trans status)
          (verification.sameLife restored restores)
  | reload =>
    refine kept (store.keeps rfl performed) ?_
    exact replied_holds (fun found same => by
      subst same
      exact ⟨(store.loads performed).symm, knows⟩) trivial
  | @abandon task absence current reply expected =>
    obtain ⟨found, backed⟩ := knows
    rw [found] at backed
    obtain ⟨moves, left⟩ := store.delete_backed (found ▸ backed.expected expected) performed
    exact ⟨replied_holds (fun _ same => by
      subst same
      exact store.deleted performed) left, moves⟩
  | @finish task reply ready absence rereads =>
    have backs : Backs task.record (record before) := by
      cases task with
      | build | undo => cases rereads
      | retire job => exact knows
    obtain ⟨moves, left⟩ := store.delete_backed backs performed
    exact ⟨replied_holds (fun _ same => by
      subst same
      exact store.deleted performed) left, moves⟩
  | recheck =>
    refine kept (store.keeps rfl performed) ?_
    exact replied_holds (fun found same => by
      subst same
      exact ⟨(store.loads performed).symm, knows⟩) trivial
  | reconcile =>
    refine kept (store.keeps rfl performed) ?_
    exact replied_holds (fun _ _ => knows) trivial
  | @retry task current reply absence expected =>
    obtain ⟨found, gone | backs⟩ := knows
    · cases found.symm.trans gone
    · obtain ⟨moves, left⟩ := store.delete_backed backs performed
      exact ⟨replied_holds (fun _ same => by
        subst same
        exact store.deleted performed) trivial, moves⟩

/-- What is recorded is as the phase says, in every run. -/
theorem knows_of_at {start session : Session σ} (store : service.AtomicStore name record)
    (followed : service.At name start phase session) : phase.Knows (record session.state) := by
  apply @Follows.invariant _ _ _ _ _ _ _ _ _ (fun phase session => phase.Knows (record session.state)) followed
  · trivial
  · intro phase next session call after knows allowed performed
    rw [Traced.state_record]
    exact (knows.step store allowed performed).1

/-- How far a request comes with a record that is not stable. -/
def Phase.Stuck {text : Schema.Issue → String} (stuck : StateSnapshot) : Phase text name → Prop
  | .idle => True
  | .loaded found => found = some stuck
  | .compared current _ _ _ => current = stuck
  | .halted => True
  | _ => False

/-- A record that is not stable is left as it is. -/
theorem stuck_of_at {start session : Session σ} {stuck : StateSnapshot} (store : service.AtomicStore name record)
    (recorded : record start.state = some stuck) (unstable : stuck.status ≠ "deployed")
    (followed : service.At name start phase session) : record session.state = some stuck := by
  have invariant : record session.state = some stuck ∧ phase.Stuck stuck := by
    apply @Follows.invariant _ _ _ _ _ _ _ _ _
      (fun (phase : Phase service.schemaError name) session => record session.state = some stuck ∧ phase.Stuck stuck) followed
    · exact ⟨recorded, trivial⟩
    · intro phase next session call after given allowed performed
      obtain ⟨same, place⟩ := given
      have kept : call.Stores = false → record after = some stuck := fun quiet => (store.keeps quiet performed).trans same
      rw [Traced.state_record]
      cases allowed with
      | enter | exit => exact ⟨kept rfl, place⟩
      | @load reply =>
        refine ⟨kept rfl, replied_holds (fun found told => ?_) trivial⟩
        subst told
        exact (store.loads performed).trans same
      | compare | compareRouting =>
        refine ⟨kept rfl, ?_⟩
        cases place
        exact replied_holds (fun _ _ => rfl) rfl
      | @retire job =>
        cases place
        exact absurd job.stable unstable
      | inspectRecord | inspectLive => exact ⟨kept rfl, trivial⟩
      | survey => cases place
      | clean busy | observe busy =>
        cases phase with
        | working | observed => exact place.elim
        | _ => cases busy
      | recover | begin | create | construct | poll | confirm | reread | reload | abandon | finish | recheck | reconcile
      | retry =>
        exact place.elim
  exact invariant.1

/-- Where the calls of the store are atomic, and however requests for a deployment fail, are interrupted or are cut
short: what is recorded only moves from nothing to deploying, from there to deployed or to nothing, and from deployed
to destroying and to nothing, with its name, fingerprint, manifest and time of creation as they were; and a record
that an earlier request has left deploying or destroying is not changed by a later one. -/
theorem history_moves {initial : σ → Prop} {session : Session σ} (store : service.AtomicStore name record)
    (history : service.History name initial session) :
    session.Evolves (fun before after => Moves (record before) (record after)) ∧
    ∀ request later stuck, request.name = name → session.Earlier later → later.Earlier (service.serve request session).2 →
      record session.state = some stuck → stuck.status ≠ "deployed" → record later.state = some stuck := by
  constructor
  · apply @Reaches.invariant _ _ _ _ _ _ _ _ _ (fun phase session => phase.Knows (record session.state)) history.reaches
    · exact fun _ _ => .start
    · exact fun _ _ => trivial
    · intro phase next session call after evolves knows allowed performed
      obtain ⟨known, moved⟩ := knows.step store allowed performed
      rw [Traced.state_record]
      exact ⟨evolves.record moved, known⟩
  · intro request later stuck named begun cut recorded unstable
    have ran := @LifecycleService.serve_ran _ _ service request session
    rw [named] at ran
    obtain before | ⟨middle, ⟨_, first⟩, ⟨_, second⟩⟩ := ran.cut cut
    · rw [before.antisymm begun]
      exact recorded
    · exact stuck_of_at store (stuck_of_at store recorded unstable first) unstable second

end Steps

end Lifecycle

end Nslab
