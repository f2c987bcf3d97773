import Nslab.Routing.Footprint

/-! Runs of the runtime keep to the part of their plan: they cannot tell what lies
elsewhere, and leave it alone. -/

namespace Nslab

open Filesystem

/-- The files after the daemons have acted for a number of calls. -/
def Host.elapse (host : Host) (clock : Nat) : Nat → RuntimeFiles → RuntimeFiles
  | 0, files => files
  | calls + 1, files => host.act (clock + calls) (host.elapse clock calls files)

/-- The daemons of all deployments write and remove files and sockets, and leave the entries of the roots alone. -/
def Host.Nested (host : Host) : Prop :=
  ∀ clock, ∀ change ∈ host.daemons clock, (∃ above parent name, change.1 = .child (.child above parent) name) ∧
    ∀ entry ∈ change.2, entry.isPlain = true

/-- Worlds that a run cannot tell apart; in another part the first has what the daemons have made of the files of `origin`. -/
structure Together (host : Host) (plan : TopologyPlan) (rest : Region RuntimeTree) (origin left right : World) : Prop where
  files : Agree plan.part left.files right.files
  spared : ∃ calls, left.clock = origin.clock + calls ∧ Agree rest (host.elapse origin.clock calls origin.files) left.files
  clock : left.clock = right.clock
  started : left.started = right.started

variable {host : Host} {runtime : FrrRuntime} {plan : TopologyPlan} {rest : Region RuntimeTree} {origin : World} {α β : Type}

section Host

theorem Host.Tame.nested (tame : host.Tame plan) : host.Nested := by
  intro clock change member
  obtain ⟨⟨managed, below, name, _, inside⟩, plain⟩ := tame clock change member
  refine ⟨?_, plain⟩
  obtain ⟨directory, own, shape, _⟩ := managed_child (List.mem_cons_of_mem (deploymentDir plan, runtimeMarker plan) below)
  rw [shape] at inside
  cases path : change.1 with
  | root tree => simp [path, Location.within] at inside
  | child above other =>
    rw [path, Location.within, Bool.or_eq_true, decide_eq_true_eq] at inside
    cases above with
    | root tree => simp [Location.within] at inside
    | child upper parent => exact ⟨upper, parent, other, rfl⟩

/-- What the daemons do leaves alike files alike, in any part. -/
theorem Filesystem.Agree.act {part : Region RuntimeTree} {left right : RuntimeFiles} (nested : host.Nested) (clock : Nat)
    (agree : Agree part left right) : Agree part (host.act clock left) (host.act clock right) := by
  have each := nested clock
  unfold Host.act
  generalize host.daemons clock = changes at each
  induction changes generalizing left right with
  | nil => exact agree
  | cons change changes ih =>
    refine ih ?_ fun other member => each other (List.mem_cons_of_mem _ member)
    obtain ⟨⟨above, parent, name, shape⟩, _⟩ := each change List.mem_cons_self
    obtain ⟨path, entry⟩ := change
    subst shape
    cases entry with
    | none => exact agree.remove_below
    | some entry => exact agree.place_below

/-- The daemons leave the roots alone. -/
theorem act_root (nested : host.Nested) (clock : Nat) (files : RuntimeFiles) (tree : RuntimeTree) :
    (host.act clock files).get? (.root tree) = files.get? (.root tree) := by
  have each := nested clock
  unfold Host.act
  generalize host.daemons clock = changes at each
  induction changes generalizing files with
  | nil => rfl
  | cons change changes ih =>
    rw [List.foldl_cons, ih _ fun other member => each other (List.mem_cons_of_mem _ member)]
    obtain ⟨⟨above, parent, name, shape⟩, _⟩ := each change List.mem_cons_self
    obtain ⟨path, entry⟩ := change
    subst shape
    cases entry with
    | none =>
      refine (files.get?_remove_other _ _).elim id fun gone => ?_
      simp [Location.within] at gone
    | some entry => exact place_child name tree

end Host

section Steps

theorem Together.tick {left right : World} (nested : host.Nested) (together : Together host plan rest origin left right) :
    Together host plan rest origin (host.tick left) (host.tick right) := by
  obtain ⟨files, ⟨calls, ticks, spared⟩, clock, started⟩ := together
  refine ⟨?_, ⟨calls + 1, ?_, ?_⟩, by simp [Host.tick, clock], started⟩
  · simp only [Host.tick, ← clock]
    exact files.act nested left.clock
  · simp only [Host.tick, ticks]
    omega
  · simp only [Host.tick, ticks, Host.elapse]
    exact spared.act nested _

/-- A change that spares the other part. -/
theorem Together.changed {left right after final : World} (together : Together host plan rest origin left right)
    (files : Agree plan.part after.files final.files) (spared : Agree rest left.files after.files)
    (first : after.clock = left.clock ∧ after.started = left.started)
    (second : final.clock = right.clock ∧ final.started = right.started) : Together host plan rest origin after final := by
  obtain ⟨calls, ticks, elapsed⟩ := together.spared
  refine ⟨files, ⟨calls, first.1.trans ticks, elapsed.trans spared⟩, ?_, ?_⟩
  · rw [first.1, second.1, together.clock]
  · rw [first.2, second.2, together.started]

variable (nested : host.Nested)

include nested

/-- A call that keeps to the part, where it may ask for what holds of the files. -/
theorem together_call {effect : RuntimeFiles → Except OSError (α × RuntimeFiles)} {torn : RuntimeFiles → RuntimeFiles}
    {holds : RuntimeFiles → Prop} (stays : ∀ clock files, holds files → holds (host.act clock files))
    (keeps : ∀ left right, Agree plan.part left right → holds left → holds right →
      (∃ value after final, effect left = .ok (value, after) ∧ effect right = .ok (value, final) ∧ Agree plan.part after final ∧
        Agree rest left after) ∨ ∃ issue, effect left = .error issue ∧ effect right = .error issue)
    (tears : Confined plan.part rest torn) :
    Action.Relates (fun left right => Together host plan rest origin left right ∧ holds left.files ∧ holds right.files)
      (host.call effect torn) (fun _ => Together host plan rest origin) (Together host plan rest origin) := by
  intro left right related
  obtain ⟨together, first, second⟩ := related
  have ready := together.tick nested
  have clock := together.clock
  unfold Host.call
  rw [← clock]
  cases host.fails left.clock with
  | some error =>
    obtain ⟨kept, spared⟩ := tears _ _ ready.files
    exact .inr ⟨_, _, _, rfl, rfl, ready.changed kept spared ⟨rfl, rfl⟩ ⟨rfl, rfl⟩⟩
  | none =>
    obtain ⟨value, after, final, made, done, kept, spared⟩ | ⟨issue, made, done⟩ :=
      keeps _ _ ready.files (stays _ _ first) (stays _ _ second)
    · simp only [made, done]
      exact .inl ⟨value, _, _, rfl, rfl, ready.changed kept spared ⟨rfl, rfl⟩ ⟨rfl, rfl⟩⟩
    · simp only [made, done]
      exact .inr ⟨_, _, _, rfl, rfl, ready⟩

theorem respects_call {effect : RuntimeFiles → Except OSError (α × RuntimeFiles)} {torn : RuntimeFiles → RuntimeFiles}
    (keeps : Keeps plan.part rest effect) (tears : Confined plan.part rest torn) :
    Action.Respects (Together host plan rest origin) (host.call effect torn) := by
  have relates := @together_call host plan rest origin α nested effect torn (fun _ => True) (fun _ _ _ => trivial)
    (fun left right agree _ _ => keeps left right agree) tears
  intro left right together
  obtain ⟨value, after, final, run, other, ends⟩ | ⟨issue, after, final, run, other, ends⟩ :=
    relates left right ⟨together, trivial, trivial⟩
  · rw [run, other]
    exact ⟨rfl, ends⟩
  · rw [run, other]
    exact ⟨rfl, ends⟩

theorem respects_perform {effect : RuntimeFiles → Except OSError RuntimeFiles} (performs : Performs plan.part rest effect) :
    Action.Respects (Together host plan rest origin) (host.perform effect) :=
  respects_call nested performs fun left _ agree => ⟨agree, Agree.refl left⟩

theorem respects_observe {reply : Nat → α} : Action.Respects (Together host plan rest origin) (host.observe reply) := by
  intro left right together
  exact ⟨congrArg (fun clock => Except.ok (reply clock)) together.clock, together.tick nested⟩

theorem respects_signal {reply : Nat → SignalReply} {pid : Int} :
    Action.Respects (Together host plan rest origin) (host.signal reply pid) := by
  intro left right together
  have ready := together.tick nested
  exact ⟨congrArg (fun clock => Except.ok (reply clock)) together.clock, ready.files, ready.spared, ready.clock, ready.started⟩

theorem respects_popen {arguments : List String} : Action.Respects (Together host plan rest origin) (host.popen arguments) := by
  intro left right together
  have keeps : Keeps plan.part rest fun files => .ok (host.pid left.clock arguments, files) :=
    fun left right agree => .inl ⟨_, left, right, rfl, rfl, agree, Agree.refl left⟩
  have respects := @respects_call host plan rest origin _ nested _ id keeps (fun left _ agree => ⟨agree, Agree.refl left⟩)
    left right together
  simp only [Host.popen, ← together.clock]
  exact respects

theorem respects_rmtree {path : RuntimePath} (apart : plan.part.Apart rest) (own : plan.part.owns path = true) :
    Action.Respects (Together host plan rest origin) (host.rmtree path) := by
  intro left right together
  have respects := @respects_call host plan rest origin _ nested _ _ (performs_rmtree apart own)
    (confined_prune apart own (host.torn left.clock)) left right together
  simp only [Host.rmtree, ← together.clock]
  exact respects

end Steps

section Control

theorem respects_look {read : RuntimeFiles → α} (same : ∀ left right, Agree plan.part left right → read left = read right) :
    Action.Respects (Together host plan rest origin) (look read) := by
  apply Action.Respects.inspect
  intro left right together
  rw [same _ _ together.files]

theorem respects_check {validate : RuntimeFiles → Except NslabError α}
    (same : ∀ left right, Agree plan.part left right → validate left = validate right) :
    Action.Respects (Together host plan rest origin) (check validate) := by
  apply Action.Respects.inspect
  intro left right together
  rw [same _ _ together.files]

theorem respects_refuseIf {bad : RuntimeFiles → Bool} {issue : NslabError}
    (same : ∀ left right, Agree plan.part left right → bad left = bad right) :
    Action.Respects (Together host plan rest origin) (refuseIf bad issue) := by
  apply respects_check
  intro left right agree
  rw [same left right agree]

theorem refuseIf_run {bad : RuntimeFiles → Bool} {issue : NslabError} (world : World) : refuseIf bad issue world =
    if bad world.files then (.error (.nslab issue none), world) else (.ok (), world) := by
  cases asked : bad world.files <;> simp [refuseIf, check, Action.inspect, Checks.raiseIf, Checks.mapIssue, asked]

/-- What follows a question about symbolic links needs to be alike only where there is none. -/
theorem respects_unless {linked : RuntimeFiles → Bool} {issue : NslabError} {next : Runs α}
    (same : ∀ left right, Agree plan.part left right → linked left = linked right)
    (after : ∀ left right, Together host plan rest origin left right → linked left.files = false →
      (next left).1 = (next right).1 ∧ Together host plan rest origin (next left).2 (next right).2) :
    Action.Respects (Together host plan rest origin) (do refuseIf linked issue; next) := by
  intro left right together
  have equal := same _ _ together.files
  cases first : linked left.files with
  | true =>
    have second := equal.symm.trans first
    rw [Action.bind_of_error (refuseIf_run left |>.trans (if_pos first)),
      Action.bind_of_error (refuseIf_run right |>.trans (if_pos second))]
    exact ⟨rfl, together⟩
  | false =>
    have second := equal.symm.trans first
    rw [Action.bind_of_ok (refuseIf_run left |>.trans (if_neg (by simp [first]))),
      Action.bind_of_ok (refuseIf_run right |>.trans (if_neg (by simp [second])))]
    exact after left right together first

/-- Another question that is asked of what is no symbolic link. -/
theorem respects_refusals {linked bad : RuntimeFiles → Bool} {issue other : NslabError} {next : Runs α}
    (same : ∀ left right, Agree plan.part left right → linked left = linked right)
    (alike : ∀ left right, Agree plan.part left right → linked left = false → bad left = bad right)
    (after : Action.Respects (Together host plan rest origin) next) :
    Action.Respects (Together host plan rest origin) (do refuseIf linked issue; refuseIf bad other; next) := by
  apply respects_unless same
  intro left right together plain
  have equal := alike _ _ together.files plain
  cases first : bad left.files with
  | true =>
    have second := equal.symm.trans first
    rw [Action.bind_of_error (refuseIf_run left |>.trans (if_pos first)),
      Action.bind_of_error (refuseIf_run right |>.trans (if_pos second))]
    exact ⟨rfl, together⟩
  | false =>
    have second := equal.symm.trans first
    rw [Action.bind_of_ok (refuseIf_run left |>.trans (if_neg (by simp [first]))),
      Action.bind_of_ok (refuseIf_run right |>.trans (if_neg (by simp [second])))]
    exact after left right together

theorem respects_raisingFrom {translate : OSError → NslabError} {action : Runs α}
    (respects : Action.Respects (Together host plan rest origin) action) :
    Action.Respects (Together host plan rest origin) (raisingFrom translate action) := by
  apply Action.Respects.recover respects
  intro raised
  cases raised <;> exact Action.Respects.raise

theorem respects_suppressing {action : Runs Unit} (respects : Action.Respects (Together host plan rest origin) action) :
    Action.Respects (Together host plan rest origin) (suppressing action) := by
  apply Action.Respects.recover respects
  intro raised
  cases raised
  · exact Action.Respects.raise
  · exact Action.Respects.done
  · exact Action.Respects.raise

end Control

section Owned

variable (nested : host.Nested) {path : RuntimePath}

include nested

theorem respects_chmod (own : plan.part.owns path = true) : Action.Respects (Together host plan rest origin) (host.chmod path) :=
  respects_perform nested (performs_chmod own)

/-- The roots may be there or not: they are directories in the end. -/
theorem respects_ensureRoot (tree : RuntimeTree) :
    Action.Respects (Together host plan rest origin) (runtime.ensureDirectory host (.root tree)) := by
  have free : ∀ files : RuntimeFiles, files.Free tree → files.isSymlink (.root tree) = false ∧
      (files.lexists (.root tree) && !files.isDir (.root tree)) = false := by
    intro files free
    have plain : files.isSymlink (.root tree) = false := by
      cases free with
      | inl absent => simp [isSymlink, absent]
      | inr present => simp [isSymlink, present, Entry.isSymlink]
    refine ⟨plain, ?_⟩
    cases free with
    | inl absent => simp [lexists, absent]
    | inr present => simp [(isDir_of_plain plain).mpr present]
  apply respects_refusals
  · intro left right agree
    cases agree.roots tree with
    | inl same => rw [isSymlink, isSymlink, same]
    | inr both => rw [(free left both.1).1, (free right both.2).1]
  · intro left right agree plain
    cases agree.roots tree with
    | inr both => rw [(free left both.1).2, (free right both.2).2]
    | inl same =>
      have other : right.isSymlink (.root tree) = false := by rwa [isSymlink, ← same]
      rw [lexists, lexists, isDir, isDir, follow_of_plain plain, follow_of_plain other, same]
  · apply respects_raisingFrom
    apply Action.Relates.respects
    have made : Action.Relates (Together host plan rest origin) (host.mkdir (.root tree))
        (fun _ left right => Together host plan rest origin left right ∧ left.files.get? (.root tree) = some .directory ∧
          right.files.get? (.root tree) = some .directory) (Together host plan rest origin) := by
      apply @Action.Respects.establishes _ _ _ _ _ (fun _ world => world.files.get? (.root tree) = some .directory)
        (respects_perform nested (performs_mkdir_root tree))
      intro world _
      simp only [Host.perform, Host.call]
      cases host.fails world.clock with
      | some error => trivial
      | none =>
        cases made : (host.tick world).files.mkdir (.root tree) with
        | error issue => trivial
        | ok after => exact (mkdir_spec made).1
    apply made.bind
    intro _
    refine @together_call host plan rest origin Unit nested (fun files => (files.chmod (.root tree)).map ((), ·)) id
      (fun files => files.get? (.root tree) = some .directory) ?_ ?_ ?_
    · intro clock files present
      exact (act_root nested clock files tree).trans present
    · intro left right agree first second
      simp only [Filesystem.chmod, lexists, first, second]
      exact .inl ⟨(), left, right, rfl, rfl, agree, Agree.refl left⟩
    · exact fun left right agree => ⟨agree, Agree.refl left⟩

theorem respects_prepareOwnedDirectory (own : plan.part.owns path = true) (identity : Option FrrIdentity) :
    Action.Respects (Together host plan rest origin) (runtime.prepareOwnedDirectory host path identity) := by
  cases identity with
  | none => exact Action.Respects.done
  | some identity =>
    apply Action.Respects.bind (respects_refuseIf fun _ _ agree => agree.isSymlink own)
    intro _
    apply respects_raisingFrom
    exact Action.Respects.bind (respects_chmod nested own) fun _ => respects_chmod nested own

theorem respects_prepareOwnedFile (own : plan.part.owns path = true) (identity : Option FrrIdentity) :
    Action.Respects (Together host plan rest origin) (runtime.prepareOwnedFile host path identity) := by
  cases identity with
  | none => exact Action.Respects.done
  | some identity =>
    apply Action.Respects.bind (respects_refuseIf fun _ _ agree => agree.isSymlink own)
    intro _
    apply respects_raisingFrom
    exact Action.Respects.bind (respects_chmod nested own) fun _ => respects_chmod nested own

end Owned

section Files

variable (nested : host.Nested) (apart : plan.part.Apart rest) {path directory : RuntimePath}

include nested apart

theorem respects_ensureDirectory (own : plan.part.owns path = true) :
    Action.Respects (Together host plan rest origin) (runtime.ensureDirectory host path) := by
  apply respects_refusals fun left right agree => agree.isSymlink own
  · intro left right agree plain
    rw [agree.lexists own, agree.isDir own plain]
  · apply respects_raisingFrom
    exact Action.Respects.bind (respects_perform nested (performs_mkdir apart own)) fun _ => respects_chmod nested own

theorem respects_writeText (own : plan.part.owns directory = true) (name text : String) :
    Action.Respects (Together host plan rest origin) (runtime.writeText host directory name text) := by
  have owned := plan.part.below directory name own
  have handle : Action.Respects (Together host plan rest origin) host.handle := by
    apply respects_perform nested
    rw [performs_iff]
    exact fun left right agree => .inl ⟨left, right, rfl, rfl, agree, Agree.refl left⟩
  have linked : ∀ left right, Agree plan.part left right →
      left.isSymlink (.child directory name) = right.isSymlink (.child directory name) := fun _ _ agree => agree.isSymlink owned
  apply Action.Respects.bind (respects_refuseIf linked)
  intro _
  apply respects_raisingFrom
  have made : Action.Relates (Together host plan rest origin) (host.mkstemp directory ("." ++ name ++ ".tmp-"))
      (fun temporary left right => Together host plan rest origin left right ∧
        (∃ name, temporary = Location.child directory name) ∧
        ∃ name, temporary = Location.child directory name) (Together host plan rest origin) := by
    apply @Action.Respects.establishes _ _ _ _ _ (fun temporary _ => ∃ name, temporary = Location.child directory name)
      (respects_call nested (keeps_mkstemp apart own _) fun left _ agree => ⟨agree, Agree.refl left⟩)
    intro world _
    simp only [Host.call]
    cases host.fails world.clock with
    | some error => trivial
    | none =>
      by_cases opened : (host.tick world).files.get? directory = some .directory
      · simp only [Filesystem.mkstemp, if_pos opened]
        exact ⟨_, rfl⟩
      · simp only [Filesystem.mkstemp, if_neg opened]
  apply Action.Relates.respects
  apply made.bind
  intro temporary left right given
  obtain ⟨together, ⟨other, rfl⟩, _⟩ := given
  have mine := plan.part.below directory other own
  refine Action.Respects.relates ?_ (fun _ _ together => together) left right together
  apply Action.Respects.recover
  · apply Action.Respects.bind handle
    intro _
    apply Action.Respects.bind (respects_perform nested (performs_write apart own text))
    intro _
    apply Action.Respects.bind handle
    intro _
    apply Action.Respects.bind handle
    intro _
    apply Action.Respects.bind (respects_chmod nested mine)
    intro _
    apply Action.Respects.bind (respects_refuseIf linked)
    intro _
    exact respects_perform nested (performs_replace apart own mine)
  · intro raised
    apply Action.Respects.bind (respects_look fun _ _ agree => agree.lexists mine)
    intro found
    cases found with
    | false => exact Action.Respects.raise
    | true =>
      apply Action.Respects.bind (respects_suppressing (respects_perform nested (performs_unlink apart mine)))
      intro _
      exact Action.Respects.raise

theorem respects_prepareManagedDirectory (own : plan.part.owns path = true) (marker : String) (identity : Option FrrIdentity) :
    Action.Respects (Together host plan rest origin) (runtime.prepareManagedDirectory host path marker identity) := by
  have owned : Action.Respects (Together host plan rest origin) (runtime.prepareOwnedDirectory host path identity) :=
    respects_prepareOwnedDirectory nested own identity
  apply Action.Respects.bind (respects_look fun _ _ agree => agree.lexists own)
  intro existed
  apply Action.Respects.bind (respects_ensureDirectory nested apart own)
  intro _
  have rest : ∀ _ : Unit, Action.Respects (Together host plan rest origin) (do
      runtime.prepareOwnedDirectory host path identity
      runtime.prepareOwnedFile host (markerPath path) identity) := fun _ =>
    Action.Respects.bind owned fun _ =>
      respects_prepareOwnedFile nested (owns_marker own) identity
  cases existed with
  | true =>
    apply Action.Respects.bind (respects_check fun _ _ agree => readMatchingMarker_agree agree own marker true)
    exact fun _ => rest ()
  | false => exact Action.Respects.bind (respects_writeText nested apart own markerFile marker) rest

end Files

section Starting

variable (nested : host.Nested) (apart : plan.part.Apart rest) {node : NodePlan}

theorem respects_rendered : Action.Respects (Together host plan rest origin) (FrrRuntime.rendered plan node) := by
  unfold FrrRuntime.rendered
  split
  next => exact Action.Respects.done
  next => exact Action.Respects.raise
  next => exact Action.Respects.raise

include nested apart

theorem respects_prepareVtyConfig (routing : node ∈ plan.routingNodes) (identity : Option FrrIdentity) :
    Action.Respects (Together host plan rest origin) (runtime.prepareVtyConfig host plan node identity) := by
  obtain ⟨_, _, config⟩ := owns_node routing
  unfold FrrRuntime.prepareVtyConfig
  split
  next => exact Action.Respects.done
  next =>
    apply Action.Respects.bind (respects_ensureRoot nested .frrConfig)
    intro _
    apply Action.Respects.bind (respects_prepareManagedDirectory nested apart config _ identity)
    intro _
    apply Action.Respects.bind (respects_writeText nested apart config _ _)
    intro _
    apply Action.Respects.bind (respects_prepareOwnedFile nested (plan.part.below _ _ config) identity)
    intro _
    apply Action.Respects.bind respects_rendered
    intro text
    apply Action.Respects.bind (respects_writeText nested apart config _ text)
    intro _
    exact respects_prepareOwnedFile nested (plan.part.below _ _ config) identity

theorem respects_spawn (routing : node ∈ plan.routingNodes) (daemon binary : String) (identity : Option FrrIdentity) :
    Action.Respects (Together host plan rest origin) (runtime.spawn host plan node daemon binary identity) := by
  obtain ⟨own, _⟩ := owns_node routing
  have owned := fun name => plan.part.below _ name own
  unfold FrrRuntime.spawn
  apply respects_refusals fun _ _ agree => agree.isSymlink (owned _)
  · intro left right agree plain
    rw [agree.lexists (owned _), agree.isFile (owned _) plain]
  · apply Action.Respects.bind
    · apply Action.Respects.each
      intro name _
      apply respects_unless fun _ _ agree => agree.isSymlink (owned name)
      intro left right together plain
      rw [refuseIf_run, refuseIf_run, together.files.lexists (owned name), together.files.isDir (owned name) plain]
      split
      next => exact ⟨rfl, together⟩
      next => exact ⟨rfl, together⟩
    intro _
    have opened : Action.Respects (Together host plan rest origin)
      (host.openAppend (.child (nodeDir plan node) (daemon ++ ".log"))) :=
      respects_perform nested (performs_openAppend apart own)
    have begun : ∀ _ : Unit, Action.Respects (Together host plan rest origin) (do
        runtime.prepareOwnedFile host (.child (nodeDir plan node) (daemon ++ ".log")) identity
        host.openAppend (.child (nodeDir plan node) (daemon ++ ".log"))
        raisingFrom (fun error => {
          code := "ROUTING_START_FAILED"
          message := "failed to start FRRouting daemon: " ++ daemon
          details := [("daemon", .str daemon), ("node", .str node.name), ("error", .str error.text)] })
          (host.popen (runtime.daemonArguments plan node daemon binary))) := by
      intro _
      apply Action.Respects.bind (respects_prepareOwnedFile nested (owned _) identity)
      intro _
      apply Action.Respects.bind opened
      intro _
      exact respects_raisingFrom (respects_popen nested)
    apply Action.Respects.bind (respects_look fun _ _ agree => agree.lexists (owned _))
    intro present
    cases present with
    | true => exact begun ()
    | false => exact Action.Respects.bind (respects_raisingFrom opened) begun

end Starting

section Sockets

/-- The socket of a node is no symbolic link. -/
def Unlinked (plan : TopologyPlan) (node : NodePlan) (files : RuntimeFiles) : Prop :=
  files.isSymlink (.child (nodeDir plan node) "zebra.api") = false

variable {node : NodePlan}

theorem Unlinked.place {files : RuntimeFiles} {path : RuntimePath} {entry : Entry RuntimeTree}
    (unlinked : Unlinked plan node files) (plain : entry.isSymlink = false) : Unlinked plan node (files.place path entry) := by
  rw [Unlinked, isSymlink, get?_place]
  split
  next => exact plain
  next => exact unlinked

variable (nested : host.Nested)

include nested

theorem Unlinked.act {files : RuntimeFiles} (unlinked : Unlinked plan node files) (clock : Nat) :
    Unlinked plan node (host.act clock files) := by
  have each := nested clock
  unfold Host.act
  generalize host.daemons clock = changes at each
  induction changes generalizing files with
  | nil => exact unlinked
  | cons change changes ih =>
    refine ih ?_ fun other member => each other (List.mem_cons_of_mem _ member)
    obtain ⟨_, entries⟩ := each change List.mem_cons_self
    obtain ⟨path, entry⟩ := change
    cases entry with
    | some entry =>
      have shape := entries entry rfl
      simp only [Entry.isPlain, Bool.and_eq_true, Bool.not_eq_true'] at shape
      exact unlinked.place shape.2
    | none =>
      cases files.get?_remove_other path (.child (nodeDir plan node) "zebra.api") with
      | inl same => rwa [Host.applyChange, Unlinked, isSymlink, same]
      | inr gone =>
        rw [Host.applyChange, Unlinked, isSymlink, gone.1]
        rfl

theorem unlinked_call {effect : RuntimeFiles → Except OSError (α × RuntimeFiles)} {torn : RuntimeFiles → RuntimeFiles}
    (keeps : ∀ files value after, Unlinked plan node files → effect files = .ok (value, after) → Unlinked plan node after) :
    Action.Triple (fun world => Unlinked plan node world.files) (host.call effect torn)
      (fun _ world => Unlinked plan node world.files) fun _ _ => True := by
  intro world unlinked
  have ready : Unlinked plan node (host.tick world).files := unlinked.act nested world.clock
  simp only [Host.call]
  cases host.fails world.clock with
  | some error => trivial
  | none =>
    cases made : effect (host.tick world).files with
    | error issue => trivial
    | ok reply => exact keeps _ _ _ ready made

theorem unlinked_perform {effect : RuntimeFiles → Except OSError RuntimeFiles}
    (keeps : ∀ files after, Unlinked plan node files → effect files = .ok after → Unlinked plan node after) :
    Action.Triple (fun world => Unlinked plan node world.files) (host.perform effect)
      (fun _ world => Unlinked plan node world.files) fun _ _ => True := by
  apply unlinked_call nested
  intro files value after unlinked made
  cases done : effect files with
  | error issue => simp [done, Except.map] at made
  | ok ended =>
    simp only [done, Except.map, Except.ok.injEq, Prod.mk.injEq] at made
    exact made.2 ▸ keeps files ended unlinked done

theorem unlinked_chmod {path : RuntimePath} : Action.Triple (fun world => Unlinked plan node world.files) (host.chmod path)
    (fun _ world => Unlinked plan node world.files) fun _ _ => True := by
  apply unlinked_perform nested
  intro files after unlinked made
  rw [Filesystem.chmod] at made
  split at made
  next => exact Except.ok.inj made ▸ unlinked
  next => cases made

theorem unlinked_openAppend {path : RuntimePath} : Action.Triple (fun world => Unlinked plan node world.files)
    (host.openAppend path)
    (fun _ world => Unlinked plan node world.files) fun _ _ => True := by
  apply unlinked_perform nested
  intro files after unlinked made
  rw [Filesystem.openAppend] at made
  split at made
  next => cases made
  next => exact Except.ok.inj made ▸ unlinked
  next =>
    split at made
    next => exact Except.ok.inj made ▸ unlinked.place rfl
    next => cases made

theorem unlinked_prepareOwnedFile {path : RuntimePath} (identity : Option FrrIdentity) :
    Action.Triple (fun world => Unlinked plan node world.files) (runtime.prepareOwnedFile host path identity)
      (fun _ world => Unlinked plan node world.files) fun _ _ => True := by
  cases identity with
  | none => exact fun _ unlinked => unlinked
  | some identity =>
    apply Action.Triple.bind
    · apply Action.Triple.inspect
      intro world unlinked
      split
      next => exact unlinked
      next => trivial
    · intro _
      apply Action.Triple.recover (Action.Triple.bind (unlinked_chmod nested) fun _ => unlinked_chmod nested)
      intro raised world _
      cases raised <;> trivial

theorem spawn_unlinked (daemon binary : String) (identity : Option FrrIdentity) :
    Action.Triple (fun _ => True) (runtime.spawn host plan node daemon binary identity)
      (fun _ world => Unlinked plan node world.files) fun _ _ => True := by
  have asks : ∀ {bad : RuntimeFiles → Bool} {issue : NslabError} {holds : World → Prop},
      Action.Triple holds (refuseIf bad issue) (fun _ => holds) fun _ _ => True := by
    intro bad issue holds
    apply Action.Triple.inspect
    intro world kept
    split
    next => exact kept
    next => trivial
  apply Action.Triple.bind asks
  intro _
  apply Action.Triple.bind asks
  intro _
  -- Once its turn has come, the socket is known for no symbolic link.
  have checked : Action.Triple (fun _ => True) (Action.each ["frr.conf", "zebra.api", daemon ++ ".pid"] fun name => do
      let path := Location.child (nodeDir plan node) name
      refuseIf (·.isSymlink path) (runtime.invalidPath path "FRRouting runtime file is a symlink")
      refuseIf (fun files => files.lexists path && files.isDir path)
        (runtime.invalidPath path "FRRouting runtime file is a directory"))
      (fun _ world => Unlinked plan node world.files) fun _ _ => True := by
    refine Action.Triple.weaken (@Action.Triple.each World Raised _ (fun _ _ => True) _
      (fun rest (world : World) => "zebra.api" ∉ rest → Unlinked plan node world.files)
        ["frr.conf", "zebra.api", daemon ++ ".pid"] ?_)
      (fun _ _ absent => absurd (by simp) absent) (fun _ _ kept => kept (by simp)) fun _ _ _ => trivial
    intro name rest _
    have passed : Action.Triple (fun world => "zebra.api" ∉ name :: rest → Unlinked plan node world.files)
        (refuseIf (·.isSymlink (.child (nodeDir plan node) name))
          (runtime.invalidPath (.child (nodeDir plan node) name) "FRRouting runtime file is a symlink"))
        (fun _ world => "zebra.api" ∉ rest → Unlinked plan node world.files) fun _ _ => True := by
      intro world kept
      rw [refuseIf_run]
      cases linked : world.files.isSymlink (.child (nodeDir plan node) name) with
      | true => trivial
      | false =>
        intro later
        by_cases own : name = "zebra.api"
        · subst own
          exact linked
        · exact kept (by simp [later, Ne.symm own])
    exact passed.bind fun _ => asks
  apply Action.Triple.bind checked
  intro _
  have begun : ∀ _ : Unit, Action.Triple (fun world => Unlinked plan node world.files) (do
      runtime.prepareOwnedFile host (.child (nodeDir plan node) (daemon ++ ".log")) identity
      host.openAppend (.child (nodeDir plan node) (daemon ++ ".log"))
      raisingFrom (fun error => {
        code := "ROUTING_START_FAILED"
        message := "failed to start FRRouting daemon: " ++ daemon
        details := [("daemon", .str daemon), ("node", .str node.name), ("error", .str error.text)] })
        (host.popen (runtime.daemonArguments plan node daemon binary)))
      (fun _ world => Unlinked plan node world.files) fun _ _ => True := by
    intro _
    apply Action.Triple.bind (unlinked_prepareOwnedFile nested identity)
    intro _
    apply Action.Triple.bind (unlinked_openAppend nested)
    intro _
    apply Action.Triple.recover
    · intro world unlinked
      exact @unlinked_call host plan _ node nested _ id (fun files value after kept made => by
        simp only [Except.ok.injEq, Prod.mk.injEq] at made
        exact made.2 ▸ kept) world unlinked
    · intro raised world _
      cases raised <;> trivial
  apply Action.Triple.bind triple_look
  intro present
  cases present with
  | true => exact begun ()
  | false =>
    refine Action.Triple.bind (Action.Triple.recover (unlinked_openAppend nested) ?_) begun
    intro raised world _
    cases raised <;> trivial

end Sockets

section Processes

variable (nested : host.Nested) {node : NodePlan}

include nested

/-- Waiting for the socket of a node, when that is no symbolic link. -/
theorem relates_waitStarted (routing : node ∈ plan.routingNodes) (daemon : String) (pid : Int) {socket : Option RuntimePath}
    (waits : ∀ path ∈ socket, path = .child (nodeDir plan node) "zebra.api") (passes : Nat) :
    Action.Relates (fun left right => Together host plan rest origin left right ∧ Unlinked plan node left.files ∧
      Unlinked plan node right.files)
      (runtime.waitStarted host node daemon pid socket passes) (fun _ => Together host plan rest origin)
        (Together host plan rest origin) := by
  obtain ⟨own, _⟩ := owns_node routing
  have owned := plan.part.below _ "zebra.api" own
  have observed : ∀ {reply : Nat → Option Int}, Action.Relates
      (fun left right => Together host plan rest origin left right ∧ Unlinked plan node left.files ∧
        Unlinked plan node right.files)
      (host.observe reply)
      (fun _ left right => Together host plan rest origin left right ∧ Unlinked plan node left.files ∧
        Unlinked plan node right.files)
      (Together host plan rest origin) := by
    intro reply left right related
    obtain ⟨together, first, second⟩ := related
    refine .inl ⟨reply left.clock, host.tick left, host.tick right, rfl, ?_, together.tick nested, first.act nested _,
      second.act nested _⟩
    rw [Host.observe, together.clock]
  have looked : Action.Relates
      (fun left right => Together host plan rest origin left right ∧ Unlinked plan node left.files ∧
        Unlinked plan node right.files)
      (look fun files => socket.all (files.exists? ·) || !runtime.requireZebraSocket)
      (fun _ left right => Together host plan rest origin left right ∧ Unlinked plan node left.files ∧
        Unlinked plan node right.files)
      (Together host plan rest origin) := by
    intro left right related
    refine .inl ⟨_, left, right, rfl, ?_, related⟩
    have same := related.1.files.exists? owned related.2.1
    cases socket with
    | none => rfl
    | some path =>
      obtain rfl := waits path rfl
      simp only [look, Action.inspect, Option.all_some, same]
  induction passes with
  | zero =>
    unfold FrrRuntime.waitStarted
    apply observed.bind
    intro code
    cases code with
    | some code => exact fun left right related => .inr ⟨_, left, right, rfl, rfl, related.1⟩
    | none =>
      apply looked.bind
      intro ready
      cases ready with
      | true => exact fun left right related => .inl ⟨_, left, right, rfl, rfl, related.1⟩
      | false => exact fun left right related => .inr ⟨_, left, right, rfl, rfl, related.1⟩
  | succ passes ih =>
    unfold FrrRuntime.waitStarted
    apply observed.bind
    intro code
    cases code with
    | some code => exact fun left right related => .inr ⟨_, left, right, rfl, rfl, related.1⟩
    | none =>
      apply looked.bind
      intro ready
      cases ready with
      | true => exact fun left right related => .inl ⟨_, left, right, rfl, rfl, related.1⟩
      | false => exact ih

theorem respects_waitGone (pid : Int) (passes : Nat) :
    Action.Respects (Together host plan rest origin) (FrrRuntime.waitGone host pid passes) := by
  induction passes with
  | zero => exact Action.Respects.done
  | succ passes ih =>
    apply Action.Respects.bind (respects_observe nested)
    intro alive
    cases alive with
    | true => exact ih
    | false => exact Action.Respects.done

theorem respects_terminateProcess (pid : Int) :
    Action.Respects (Together host plan rest origin) (runtime.terminateProcess host pid) := by
  have kills : ∀ _ : Unit, Action.Respects (Together host plan rest origin) (do
      FrrRuntime.waitGone host pid runtime.stopPasses
      if ← host.observe (host.pidExists · pid) then
        let _ ← host.signal (host.killpg · pid) pid
        let _ ← host.signal (host.killpg · pid) pid) := by
    intro _
    apply Action.Respects.bind (respects_waitGone nested pid _)
    intro _
    apply Action.Respects.bind (respects_observe nested)
    intro alive
    cases alive with
    | true =>
      apply Action.Respects.bind (respects_signal nested)
      intro _
      apply Action.Respects.bind (respects_signal nested)
      intro _
      exact Action.Respects.done
    | false => exact Action.Respects.done
  apply Action.Respects.bind (respects_signal nested)
  intro reply
  cases reply with
  | delivered => exact kills ()
  | lookupError => exact Action.Respects.done
  | refused => exact Action.Respects.bind (respects_signal nested) fun _ => kills ()

theorem respects_terminateProcesses (pids : List Int) :
    Action.Respects (Together host plan rest origin) (runtime.terminateProcesses host pids) := by
  apply Action.Respects.each
  intro pid _
  exact respects_terminateProcess nested pid

theorem respects_allAlive (records : List ProcessRecord) :
    Action.Respects (Together host plan rest origin) (FrrRuntime.allAlive host records) := by
  induction records with
  | nil => exact Action.Respects.done
  | cons record records ih =>
    apply Action.Respects.bind (respects_observe nested)
    intro alive
    cases alive with
    | true => exact ih
    | false => exact Action.Respects.done

theorem respects_ready : Action.Respects (Together host plan rest origin) (runtime.ready host plan) := by
  apply Action.Respects.bind
  · apply Action.Respects.fold
    intro node routing statuses
    apply Action.Respects.bind
    · apply Action.Respects.bind (respects_look fun _ _ agree => readRecords_agree agree routing)
      intro records
      apply Action.Respects.bind (respects_look fun _ _ agree => metadataMatches_agree agree routing)
      intro known
      cases known with
      | true =>
        apply Action.Respects.bind (respects_allAlive nested records)
        intro alive
        exact Action.Respects.done
      | false => exact Action.Respects.done
    · intro status
      exact Action.Respects.done
  · intro statuses
    exact Action.Respects.done

end Processes

section Runs

variable (nested : host.Nested) (apart : plan.part.Apart rest) {node : NodePlan}

include nested apart

theorem respects_saveMetadata (routing : node ∈ plan.routingNodes) (records : List ProcessRecord) :
    Action.Respects (Together host plan rest origin) (runtime.saveMetadata host plan node records) :=
  respects_writeText nested apart (owns_node routing).1 _ _

theorem respects_startDaemon (routing : node ∈ plan.routingNodes) (identity : Option FrrIdentity)
    (binaries : List (String × String))
    {socket : Option RuntimePath} (waits : ∀ path ∈ socket, path = .child (nodeDir plan node) "zebra.api")
    (records : List ProcessRecord) (daemon : String) :
    Action.Respects (Together host plan rest origin)
      (runtime.startDaemon host plan node identity binaries socket records daemon) := by
  apply Action.Relates.respects
  have spawns : Action.Respects (Together host plan rest origin)
    (runtime.spawn host plan node daemon ((binaries.lookup daemon).getD "")
      identity) := respects_spawn nested apart routing daemon _ identity
  have spawned := spawns.establishes (spawn_unlinked nested daemon _ identity)
  apply spawned.bind
  intro pid
  have counted : Action.Relates
      (fun left right => Together host plan rest origin left right ∧ Unlinked plan node left.files ∧
        Unlinked plan node right.files)
      (Action.modify fun world : World => { world with started := world.started ++ [pid] } : Runs Unit)
      (fun _ left right => Together host plan rest origin left right ∧ Unlinked plan node left.files ∧
        Unlinked plan node right.files)
      (Together host plan rest origin) := by
    intro left right related
    obtain ⟨together, plain⟩ := related
    refine .inl ⟨(), _, _, rfl, rfl, ⟨together.files, together.spared, together.clock, ?_⟩, plain⟩
    exact congrArg (· ++ [pid]) together.started
  apply counted.bind
  intro _
  apply (relates_waitStarted nested routing daemon pid waits _).bind
  intro _
  refine Action.Respects.relates ?_ fun _ _ together => together
  apply Action.Respects.bind (respects_saveMetadata nested apart routing _)
  intro _
  exact Action.Respects.done

theorem respects_startNode (routing : node ∈ plan.routingNodes) (identity : Option FrrIdentity)
    (binaries : List (String × String)) :
    Action.Respects (Together host plan rest origin) (runtime.startNode host plan identity node binaries) := by
  obtain ⟨own, state, _⟩ := owns_node routing
  apply Action.Respects.bind (respects_prepareManagedDirectory nested apart own _ identity)
  intro _
  apply Action.Respects.bind (respects_prepareManagedDirectory nested apart state _ identity)
  intro _
  apply Action.Respects.bind (respects_prepareVtyConfig nested apart routing identity)
  intro _
  apply Action.Respects.bind respects_rendered
  intro config
  apply Action.Respects.bind (respects_writeText nested apart own _ config)
  intro _
  apply Action.Respects.bind (respects_prepareOwnedFile nested (plan.part.below _ _ own) identity)
  intro _
  apply Action.Respects.bind (respects_startDaemon nested apart routing identity binaries (by simp) [] "zebra")
  intro zebra
  apply Action.Respects.bind
  · apply Action.Respects.fold
    intro daemon _ records
    exact respects_startDaemon nested apart routing identity binaries (by simp) records daemon
  · intro _
    exact Action.Respects.done

theorem respects_startDaemons : Action.Respects (Together host plan rest origin) (runtime.startDaemons host plan) := by
  apply Action.Respects.bind (respects_check fun _ _ _ => rfl)
  intro identity
  have listed : Action.Relates (Together host plan rest origin) (check fun _ => Checks.collect plan.routingNodes fun node =>
      (FrrRuntime.resolveBinaries host node).map (node, ·))
      (fun binaries left right => Together host plan rest origin left right ∧ (∀ entry ∈ binaries, entry.1 ∈ plan.routingNodes) ∧
        ∀ entry ∈ binaries, entry.1 ∈ plan.routingNodes) (Together host plan rest origin) := by
    have respects : Action.Respects (Together host plan rest origin) (check fun _ => Checks.collect plan.routingNodes fun node =>
        (FrrRuntime.resolveBinaries host node).map (node, ·)) := respects_check fun _ _ _ => rfl
    apply respects.establishes
    apply Action.Triple.inspect
    intro world _
    cases found : Checks.collect plan.routingNodes fun node => (FrrRuntime.resolveBinaries host node).map (node, ·) with
    | error issue => trivial
    | ok binaries =>
      intro entry member
      rw [← (Checks.collect_keyed found).1]
      exact List.mem_map_of_mem member
  apply Action.Relates.respects
  apply listed.bind
  intro binaries left right related
  obtain ⟨together, nodes, _⟩ := related
  refine Action.Respects.relates ?_ (fun _ _ together => together) left right together
  apply Action.Respects.bind (respects_ensureRoot nested .runtime)
  intro _
  apply Action.Respects.bind (respects_ensureRoot nested .frrState)
  intro _
  apply Action.Respects.bind (respects_prepareManagedDirectory nested apart owns_deployment _ identity)
  intro _
  apply Action.Respects.each
  intro entry member
  exact respects_startNode nested apart (nodes entry member) identity entry.2

theorem respects_removeDirectory {path : RuntimePath} (own : plan.part.owns path = true) (description : String) :
    Action.Respects (Together host plan rest origin) (runtime.removeDirectory host path description) := by
  apply Action.Respects.bind (respects_look fun _ _ agree => agree.lexists own)
  intro present
  cases present with
  | false => exact Action.Respects.done
  | true =>
    apply Action.Respects.bind (respects_refuseIf fun _ _ agree => agree.isSymlink own)
    intro _
    exact respects_raisingFrom (respects_rmtree nested apart own)

theorem respects_cleanupDeployment : Action.Respects (Together host plan rest origin) (runtime.cleanupDeployment host plan) := by
  apply Action.Respects.bind (respects_check fun _ _ agree => validateArtifacts_agree agree)
  intro _
  apply Action.Respects.bind
  · apply Action.Respects.each
    intro node routing
    obtain ⟨_, state, config⟩ := owns_node routing
    apply Action.Respects.bind (respects_check fun _ _ agree => validateManagedDirectory_agree agree state _)
    intro _
    apply Action.Respects.bind (respects_check fun _ _ agree => validateManagedDirectory_agree agree config _)
    intro _
    exact Action.Respects.done
  intro _
  apply Action.Respects.bind (respects_removeDirectory nested apart owns_deployment _)
  intro _
  apply Action.Respects.each
  intro node routing
  obtain ⟨_, state, config⟩ := owns_node routing
  exact Action.Respects.bind (respects_removeDirectory nested apart state _)
    fun _ => respects_removeDirectory nested apart config _

/-- Stopping does the same whatever lies in other parts. -/
theorem respects_stop : Action.Respects (Together host plan rest origin) (runtime.stop host plan) := by
  apply Action.Respects.bind (respects_check fun _ _ agree => validateArtifacts_agree agree)
  intro _
  apply Action.Respects.bind
  · apply Action.Respects.fold
    intro node routing pids
    apply Action.Respects.bind (respects_look fun _ _ agree => readRecords_agree agree routing)
    intro records
    apply Action.Respects.fold
    intro record _ pids
    apply Action.Respects.bind (respects_observe nested)
    intro alive
    cases alive <;> exact Action.Respects.done
  intro processes
  exact Action.Respects.bind (respects_terminateProcesses nested processes) fun _ => respects_cleanupDeployment nested apart

theorem respects_abandon (raised : Raised) : Action.Respects (Together host plan rest origin)
    (runtime.abandon host plan raised) := by
  apply Action.Respects.bind
  · apply Action.Respects.inspect
    intro left right together
    rw [together.started]
  intro started
  apply Action.Respects.bind (Action.Respects.ensuring (respects_terminateProcesses nested started)
    (respects_cleanupDeployment nested apart))
  intro _
  cases raised <;> exact Action.Respects.raise

/-- Starting does the same whatever lies in other parts. -/
theorem respects_start : Action.Respects (Together host plan rest origin) (runtime.start host plan) := by
  have begun : ∀ _ : Unit, Action.Respects (Together host plan rest origin) (do
      Action.modify fun world : World => { world with started := [] }
      Action.recover (runtime.startDaemons host plan) (runtime.abandon host plan)) := by
    intro _
    apply Action.Respects.bind
    · apply Action.Respects.modify
      intro left right together
      exact ⟨together.files, together.spared, together.clock, rfl⟩
    intro _
    exact Action.Respects.recover (respects_startDaemons nested apart) fun raised => respects_abandon nested apart raised
  unfold FrrRuntime.start
  split
  next => exact Action.Respects.done
  next =>
    apply Action.Respects.bind (respects_look fun _ _ agree => hasArtifacts_agree agree)
    intro present
    cases present with
    | false => exact begun ()
    | true =>
      apply Action.Respects.bind (respects_check fun _ _ agree => validateArtifacts_agree agree)
      intro _
      apply Action.Respects.bind (respects_ready nested)
      intro ready
      cases ready with
      | true => exact Action.Respects.done
      | false => exact Action.Respects.bind (respects_stop nested apart) begun

end Runs

end Nslab
