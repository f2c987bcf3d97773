import Nslab.Routing.Ownership

/-! Stopping validates all that it may remove before it signals or removes anything. -/

namespace Nslab

open Filesystem

section Invariants

section Control

variable {invariant : World → Prop} {α : Type}

theorem triple_look {read : RuntimeFiles → α} {fails : Raised → World → Prop} :
    Action.Triple invariant (look read) (fun _ => invariant) fails := fun _ holds => holds

theorem keeps_look {read : RuntimeFiles → α} : Action.Keeps invariant (look read) := Action.Keeps.inspect

theorem keeps_check {validate : RuntimeFiles → Except NslabError α} : Action.Keeps invariant (check validate) :=
  Action.Keeps.inspect

theorem keeps_raisingFrom {translate : OSError → NslabError} {action : Runs α} (keeps : Action.Keeps invariant action) :
    Action.Keeps invariant (raisingFrom translate action) := by
  apply Action.Keeps.recover keeps
  intro raised
  cases raised <;> exact Action.Keeps.raise

end Control

/-- What neither the daemons nor signals disturb. -/
structure Host.Allows (host : Host) (invariant : World → Prop) : Prop where
  tick : ∀ world, invariant world → invariant (host.tick world)
  signal : ∀ world signalled, invariant world → invariant { world with signalled := signalled }

namespace Host.Allows

variable {host : Host} {invariant : World → Prop} (allows : host.Allows invariant) {runtime : FrrRuntime} {α : Type}
  {fails : Raised → World → Prop}

include allows

theorem observe {reply : Nat → α} : Action.Triple invariant (host.observe reply) (fun _ => invariant) fails :=
  fun world holds => allows.tick world holds

theorem signals {reply : Nat → SignalReply} {pid : Int} :
    Action.Triple invariant (host.signal reply pid) (fun _ => invariant) fails :=
  fun world holds => allows.signal _ _ (allows.tick world holds)

theorem waitGone {pid : Int} (passes : Nat) :
    Action.Triple invariant (FrrRuntime.waitGone host pid passes) (fun _ => invariant) fails := by
  induction passes with
  | zero => exact fun _ holds => holds
  | succ passes ih =>
    apply Action.Triple.bind allows.observe
    intro alive
    cases alive with
    | true => exact ih
    | false => exact fun _ holds => holds

/-- Signalling processes never raises. -/
theorem terminateProcess {pid : Int} :
    Action.Triple invariant (runtime.terminateProcess host pid) (fun _ => invariant) fails := by
  have kills : Action.Triple invariant (do
      FrrRuntime.waitGone host pid runtime.stopPasses
      if ← host.observe (host.pidExists · pid) then
        let _ ← host.signal (host.killpg · pid) pid
        let _ ← host.signal (host.killpg · pid) pid) (fun _ => invariant) fails := by
    apply Action.Triple.bind (allows.waitGone _)
    intro _
    apply Action.Triple.bind allows.observe
    intro alive
    cases alive with
    | true =>
      apply Action.Triple.bind allows.signals
      intro _
      apply Action.Triple.bind allows.signals
      intro _ _ holds
      exact holds
    | false => exact fun _ holds => holds
  apply Action.Triple.bind allows.signals
  intro reply
  cases reply with
  | delivered => exact kills
  | lookupError => exact fun _ holds => holds
  | refused => exact Action.Triple.bind allows.signals fun _ => kills

theorem terminateProcesses {pids : List Int} :
    Action.Triple invariant (runtime.terminateProcesses host pids) (fun _ => invariant) fails := by
  apply @Action.Triple.each _ _ _ _ _ fun _ => invariant
  intro pid rest _
  exact allows.terminateProcess

theorem livingProcesses {plan : TopologyPlan} {node : NodePlan} {pids : List Int} :
    Action.Triple invariant (FrrRuntime.livingProcesses host plan pids node) (fun _ => invariant) fails := by
  apply Action.Triple.bind triple_look
  intro records
  apply @Action.Triple.fold _ _ _ _ _ _ fun _ _ => invariant
  intro record rest pids _
  apply Action.Triple.bind allows.observe
  intro alive
  cases alive <;> exact fun _ holds => holds

end Host.Allows

end Invariants

section Foreign

/-- A path in the place of a managed directory that is not one of this plan. -/
def Foreign (files : RuntimeFiles) (plan : TopologyPlan) (path : RuntimePath) (marker : String) : Prop :=
  ∃ entry, files.get? path = some entry ∧
    (entry ≠ .directory ∨ (∃ found, files.get? (markerPath path) = some found ∧ found ≠ .file (.ok marker)) ∨
      files.get? (markerPath path) = none ∧ ¬ LegacySafe files plan path)

variable {runtime : FrrRuntime} {files : RuntimeFiles} {plan : TopologyPlan}

theorem legacyRuntimeNodeSafe_spec {path : RuntimePath} (safe : FrrRuntime.legacyRuntimeNodeSafe files path = true) :
    files.get? path = some .directory ∧ ∀ name ∈ files.iterdir path, name ∈ FrrRuntime.legacyNames := by
  rw [FrrRuntime.legacyRuntimeNodeSafe] at safe
  split at safe
  next => cases safe
  next shape =>
    simp only [Bool.or_eq_true, Bool.not_eq_true', not_or, Bool.not_eq_true, Bool.not_eq_false] at shape
    dsimp only at safe
    split at safe
    next => cases safe
    next =>
      simp only [List.all_eq_true, Bool.and_eq_true, List.contains_iff_mem] at safe
      exact ⟨(isDir_of_plain shape.1).mp shape.2, fun name member => (safe name member).1.2⟩

/-- Older runtimes wrote no markers. -/
theorem unmarked_of_legacySafe {path : RuntimePath} (legacy : LegacySafe files plan path) : files.get? (markerPath path) = none := by
  cases legacy with
  | inl deployment => exact deployment.1 ▸ deployment.2.unmarked
  | inr node =>
    obtain ⟨node, _, _, safe⟩ := node
    obtain ⟨_, names⟩ := legacyRuntimeNodeSafe_spec safe
    rw [Option.eq_none_iff_forall_ne_some]
    intro entry found
    have listed := names markerFile (mem_iterdir.mpr ⟨entry, found⟩)
    revert listed
    decide

/-- Every managed directory of validated files is absent, carries its marker, or is a legacy one. -/
theorem owned_of_validated {legacy : Bool} (validated : runtime.validateArtifacts files plan = .ok legacy) :
    ∀ managed ∈ plan.managed, files.get? managed.1 = none ∨ files.get? managed.1 = some .directory ∧
      (Marked files managed.1 managed.2 ∨ LegacySafe files plan managed.1) := by
  obtain ⟨deployment, nodes⟩ := validateArtifacts_ok.mp validated
  have settled {path : RuntimePath} {marker : String} (owned : Settled files path marker) : files.get? path = none ∨
      files.get? path = some .directory ∧ (Marked files path marker ∨ LegacySafe files plan path) :=
    owned.imp id fun marked => ⟨marked.1.directory, .inl marked.1⟩
  intro managed member
  cases List.mem_cons.mp member with
  | inl same =>
    subst same
    obtain absent | ⟨_, marked⟩ | ⟨_, directory, older⟩ := validateRuntimeArtifacts_ok.mp deployment
    · exact .inl absent.2
    · exact .inr ⟨marked.marked.directory, .inl marked.marked⟩
    · exact .inr ⟨directory, .inr (.inl ⟨rfl, older⟩)⟩
  | inr below =>
    obtain ⟨node, routing, listed⟩ := List.mem_flatMap.mp below
    have owned := nodes node routing
    simp only [TopologyPlan.nodeDirectories, List.mem_cons, List.not_mem_nil, or_false] at listed
    obtain rfl | rfl | rfl := listed
    · cases legacy with
      | false => exact settled (owned.current rfl)
      | true =>
        cases owned.older rfl with
        | inl absent => exact .inl absent
        | inr safe => exact .inr ⟨(legacyRuntimeNodeSafe_spec safe).1, .inr (.inr ⟨node, routing, rfl, safe⟩)⟩
    · exact settled owned.state
    · exact settled owned.config

theorem not_foreign_of_validated {legacy : Bool} (validated : runtime.validateArtifacts files plan = .ok legacy) :
    ∀ managed ∈ plan.managed, ¬ Foreign files plan managed.1 managed.2 := by
  intro managed member given
  obtain ⟨entry, found, foreign⟩ := given
  cases owned_of_validated validated managed member with
  | inl absent => simp [absent] at found
  | inr owned =>
    obtain ⟨directory, owned⟩ := owned
    obtain other | ⟨marker, read, differs⟩ | ⟨unmarked, older⟩ := foreign
    · rw [directory, Option.some.injEq] at found
      exact other found.symm
    · cases owned with
      | inl marked =>
        rw [marked.marker, Option.some.injEq] at read
        exact differs read.symm
      | inr legacy => simp [unmarked_of_legacySafe legacy] at read
    · cases owned with
      | inl marked => simp [marked.marker] at unmarked
      | inr legacy => exact older legacy

end Foreign

section Quiet

/-- The host when nothing else changes the files. -/
def Host.quiet (host : Host) : Host := { host with daemons := fun _ => [] }

theorem Host.tick_quiet (host : Host) (world : World) : host.quiet.tick world = { world with clock := world.clock + 1 } := rfl

/-- Entries have only been removed, and within directories of the plan that were there at the start. -/
structure Shrunk (plan : TopologyPlan) (start world : World) : Prop where
  files : ∀ path, world.files.get? path = none ∨ world.files.get? path = start.files.get? path
  removed : ∀ path ∈ world.removed, path ∈ start.removed ∨
    ∃ managed ∈ plan.managed, managed.1.within path = true ∧ ∃ entry, start.files.get? managed.1 = some entry

variable {runtime : FrrRuntime} {host : Host} {plan : TopologyPlan} {start : World} {α : Type}

/-- A removal within a directory of the plan leaves what has only shrunk. -/
theorem Shrunk.change {world : World} {files : RuntimeFiles} {path : RuntimePath} (shrunk : Shrunk plan start world)
    {marker : String} (member : (path, marker) ∈ plan.managed)
    (removes : ∀ other, files.get? other = world.files.get? other ∨ files.get? other = none ∧ path.within other = true) :
    Shrunk plan start (world.change files) := by
  constructor
  · intro other
    cases removes other with
    | inl same => exact same ▸ shrunk.files other
    | inr gone => exact .inl gone.1
  · intro other listed
    simp only [World.change, List.mem_append, vanished, List.mem_filter, Bool.not_eq_true', lexists_eq_false] at listed
    cases listed with
    | inl earlier => exact shrunk.removed other earlier
    | inr gone =>
      obtain ⟨entry, found⟩ := Dict.mem_keys_iff.mp gone.1
      have inside : path.within other = true := by
        cases removes other with
        | inl same => exact absurd (same.symm.trans gone.2) (by rw [Filesystem.get?, found]; exact Option.some_ne_none entry)
        | inr gone => exact gone.2
      obtain ⟨above, there⟩ := world.files.exists_of_within found inside
      refine .inr ⟨(path, marker), member, inside, above, ?_⟩
      cases shrunk.files path with
      | inl absent => simp [absent] at there
      | inr same => rw [← same, there]

theorem Shrunk.step {world : World} (shrunk : Shrunk plan start world) (clock : Nat) (signalled : List Int)
    (failure : Option RuntimeFiles) :
    Shrunk plan start { world with clock := clock, signalled := signalled, failure := failure } := ⟨shrunk.files, shrunk.removed⟩

theorem Shrunk.keeps_rmtree {path : RuntimePath} {marker : String} (member : (path, marker) ∈ plan.managed) :
    Action.Keeps (Shrunk plan start) (host.quiet.rmtree path) := by
  intro world shrunk
  simp only [Host.rmtree, Host.call, Host.tick_quiet]
  cases fault : host.quiet.fails world.clock with
  | some error =>
    have changed := shrunk.change member (fun other => world.files.get?_prune path other (host.quiet.torn world.clock))
    exact changed.step _ _ _
  | none =>
    by_cases found : world.files.get? path = some .directory
    · rw [Filesystem.rmtree, if_pos found]
      have changed := shrunk.change member (fun other => by
        rw [world.files.get?_removeTree]
        by_cases inside : path.within other = true
        · exact .inr ⟨if_pos inside, inside⟩
        · exact .inl (if_neg inside))
      exact changed.step _ _ _
    · rw [Filesystem.rmtree, if_neg found]
      exact shrunk.step _ _ _

theorem Host.quiet_allows : host.quiet.Allows (Shrunk plan start) where
  tick _ shrunk := shrunk.step _ _ _
  signal _ _ shrunk := shrunk.step _ _ _

theorem Shrunk.keeps_removeDirectory {path : RuntimePath} {marker description : String}
    (member : (path, marker) ∈ plan.managed) :
    Action.Keeps (Shrunk plan start) (runtime.removeDirectory host.quiet path description) := by
  apply Action.Keeps.bind keeps_look
  intro exists?
  cases exists? with
  | false => exact Action.Keeps.done
  | true => exact Action.Keeps.bind keeps_check fun _ => keeps_raisingFrom (Shrunk.keeps_rmtree member)

theorem mem_managed {node : NodePlan} (routing : node ∈ plan.routingNodes) :
    (nodeDir plan node, runtimeNodeMarker plan node) ∈ plan.managed ∧ (stateDir plan node, stateMarker plan node) ∈ plan.managed ∧
      (vtyConfigDir plan node, vtyConfigMarker plan node) ∈ plan.managed := by
  have listed : ∀ managed ∈ plan.nodeDirectories node, managed ∈ plan.managed := fun managed inside =>
    List.mem_cons_of_mem _ (List.mem_flatMap.mpr ⟨node, routing, inside⟩)
  exact ⟨listed _ (by simp [TopologyPlan.nodeDirectories]), listed _ (by simp [TopologyPlan.nodeDirectories]),
    listed _ (by simp [TopologyPlan.nodeDirectories])⟩

theorem Shrunk.keeps_cleanup : Action.Keeps (Shrunk plan start) (runtime.cleanupDeployment host.quiet plan) := by
  apply Action.Keeps.bind keeps_check
  intro _
  apply Action.Keeps.bind
  · exact Action.Keeps.each fun node _ => Action.Keeps.bind keeps_check fun _ => Action.Keeps.bind keeps_check fun _ =>
      Action.Keeps.done
  intro _
  apply Action.Keeps.bind (Shrunk.keeps_removeDirectory List.mem_cons_self)
  intro _
  apply Action.Keeps.each
  intro node routing
  obtain ⟨_, state, config⟩ := mem_managed routing
  exact Action.Keeps.bind (Shrunk.keeps_removeDirectory state) fun _ => Shrunk.keeps_removeDirectory config

theorem Shrunk.keeps_stop : Action.Keeps (Shrunk plan start) (runtime.stop host.quiet plan) := by
  apply Action.Keeps.bind keeps_check
  intro _
  apply Action.Keeps.bind
  · apply Action.Keeps.fold
    intro node _ pids
    exact Host.quiet_allows.livingProcesses
  intro processes
  exact Action.Keeps.bind Host.quiet_allows.terminateProcesses fun _ => Shrunk.keeps_cleanup

/-- Refused files are left alone. -/
theorem stop_refused {issue : NslabError} {world : World} (refused : runtime.validateArtifacts world.files plan = .error issue) :
    runtime.stop host plan world = (.error (.nslab issue none), world) := by
  simp [FrrRuntime.stop, Bind.bind, Action.andThen, check, Action.inspect, refused, Checks.mapIssue]

end Quiet

/-- When nothing else changes the files: with a foreign path in the place of any directory of the plan, stopping raises, and
removes and signals nothing. Whatever it removes lies in a directory with the marker of the plan, or in a legacy one. -/
theorem stop_foreign (runtime : FrrRuntime) (host : Host) (plan : TopologyPlan) (world : World) :
    ((∃ managed ∈ plan.managed, Foreign world.files plan managed.1 managed.2) →
      ∃ issue, runtime.stop host.quiet plan world = (.error (.nslab issue none), world)) ∧
    ∀ path ∈ (runtime.stop host.quiet plan world).2.removed, path ∈ world.removed ∨
      ∃ managed ∈ plan.managed, managed.1.within path = true ∧
        (Marked world.files managed.1 managed.2 ∨ LegacySafe world.files plan managed.1) := by
  constructor
  · intro given
    obtain ⟨managed, member, foreign⟩ := given
    cases validated : runtime.validateArtifacts world.files plan with
    | ok legacy => exact absurd foreign (not_foreign_of_validated validated managed member)
    | error issue => exact ⟨issue, stop_refused validated⟩
  · intro path listed
    cases validated : runtime.validateArtifacts world.files plan with
    | error issue =>
      rw [stop_refused validated] at listed
      exact .inl listed
    | ok legacy =>
      have shrunk : Shrunk plan world (runtime.stop host.quiet plan world).2 := by
        have keeps := @Shrunk.keeps_stop runtime host plan world world ⟨fun _ => .inr rfl, fun _ earlier => .inl earlier⟩
        cases outcome : runtime.stop host.quiet plan world with
        | mk reply after =>
          rw [outcome] at keeps
          cases reply with
          | ok _ => exact keeps
          | error _ => exact keeps
      cases shrunk.removed path listed with
      | inl earlier => exact .inl earlier
      | inr removed =>
        obtain ⟨managed, member, inside, entry, found⟩ := removed
        refine .inr ⟨managed, member, inside, ?_⟩
        cases owned_of_validated validated managed member with
        | inl absent => simp [absent] at found
        | inr owned => exact owned.2

end Nslab
