import Nslab.Routing.Start

/-! What a start leaves behind when one of its calls fails, and what a later stop
makes of it. -/

namespace Nslab

open Filesystem

section Making

variable {host : Host} {plan : TopologyPlan} {call : Nat} {error : OSError} {runtime : FrrRuntime} {α : Type}
  {base : RuntimeFiles → Prop} {managed : RuntimePath × String} {pending : List (RuntimePath × String)}

/-- Making a directory that is not there. -/
theorem Steadfast.ensureDirectory {opened : RuntimeFiles → Prop} {path : RuntimePath} (steadfast : Steadfast plan base)
    (tame : host.Tame plan) (stable : Stable plan opened)
    (enter : ∀ files after, base files → files.mkdir path = .ok after → opened after)
    (present : ∀ files, opened files → files.get? path = some .directory) (opens : ∀ files, opened files → Opened plan files) :
    Action.Triple (Steady base) (runtime.ensureDirectory (host.failingAt call error) path) (fun _ => Steady opened)
      (Aborted plan call error) := by
  apply Action.Triple.bind steadfast.check
  intro _
  apply Action.Triple.bind steadfast.check
  intro _
  apply triple_raisingFrom
  · apply Action.Triple.bind
    · apply Action.Triple.weaken (Host.perform_steady opened (steadfast.stable.leaves tame) ?_)
        (fun _ holds => holds) (fun _ _ holds => holds) fun _ _ => steadfast.interrupted
      intro files holds
      cases made : files.mkdir path with
      | error issue => exact holds
      | ok after => exact enter files after holds made
    · intro _
      have changed := @Host.perform_steady host call error opened (fun _ => False) (·.chmod path) opened (stable.leaves tame)
      apply Action.Triple.weaken (changed ?_) (fun _ holds => holds) (fun _ _ holds => holds)
      · intro raised world interrupted
        cases interrupted with
        | inl impossible => exact impossible.2.elim
        | inr faulted => exact .inr (faulted.weaken opens opens)
      · intro files holds
        rw [Filesystem.chmod, if_pos (lexists_iff.mpr ⟨_, present files holds⟩)]
        exact holds
  · intro found world aborted
    apply aborted.translate
    simp [FrrRuntime.failedPath]

/-- Making a directory that is not there, and its marker. -/
theorem Steadfast.prepareManagedDirectory {opened ended : RuntimeFiles → Prop} {filling : String → String → RuntimeFiles → Prop}
    {path : RuntimePath} {marker : String} {identity : Option FrrIdentity} (steadfast : Steadfast plan base)
    (ends : Steadfast plan ended) (tame : host.Tame plan) (stable : Stable plan opened)
    (absent : ∀ files, base files → files.get? path = none)
    (enter : ∀ files after, base files → files.mkdir path = .ok after → opened after)
    (present : ∀ files, opened files → files.get? path = some .directory)
    (window : Window host path markerFile marker opened filling ended) (opens : ∀ files, opened files → Opened plan files)
    (fills : ∀ temporary content files, filling temporary content files → Opened plan files) :
    Action.Triple (Steady base) (runtime.prepareManagedDirectory (host.failingAt call error) path marker identity)
      (fun _ => Steady ended) (Aborted plan call error) := by
  have looked : Action.Triple (Steady base) (look (·.lexists path)) (fun found world => found = false ∧ Steady base world)
      (Aborted plan call error) := by
    apply Action.Triple.inspect
    intro world steady
    exact ⟨lexists_eq_false.mpr (absent _ steady.2), steady⟩
  have written : Action.Triple (Steady opened) (runtime.writeText (host.failingAt call error) path markerFile marker)
      (fun _ => Steady ended) (Aborted plan call error) := by
    apply window.writeText
    intro raised world interrupted
    cases interrupted with
    | inl steady => exact absurd (present _ steady.2.1) steady.2.2
    | inr faulted =>
      refine .inr (faulted.weaken (fun files holds => ?_) opens)
      cases holds with
      | inl holds => exact opens files holds
      | inr filled =>
        obtain ⟨temporary, content, holds⟩ := filled
        exact fills temporary content files holds
  apply Action.Triple.bind looked
  intro found world given
  obtain ⟨same, steady⟩ := given
  subst same
  refine (Action.Triple.bind (steadfast.ensureDirectory tame stable enter present opens) fun _ =>
    Action.Triple.bind written fun _ => ?_) world steady
  exact Action.Triple.bind (ends.prepareOwnedDirectory tame) fun _ => ends.prepareOwnedFile tame

/-- Making the deployment directory. -/
theorem prepareDeployment {identity : Option FrrIdentity} (named : plan.WellNamed) (tame : host.Tame plan) :
    Action.Triple (Steady (Bare plan))
      (runtime.prepareManagedDirectory (host.failingAt call error) (deploymentDir plan) (runtimeMarker plan) identity)
      (fun _ => Steady (Layout plan none plan.below)) (Aborted plan call error) := by
  apply Bare.steadfast.prepareManagedDirectory Layout.steadfast tame Begun.stable (fun _ bare => bare _ List.mem_cons_self)
    (fun files after bare made => ?_) (fun _ begun => begun.opened) (Begun.window named tame) (fun _ begun => .inl ⟨_, begun⟩)
    fun _ _ _ begun => .inl ⟨_, begun⟩
  exact Begun.enter made (bare _ List.mem_cons_self) fun managed member => bare managed (List.mem_cons_of_mem _ member)

/-- Making a directory of a node. -/
theorem Layout.prepareManagedDirectory {identity : Option FrrIdentity} (named : plan.WellNamed) (tame : host.Tame plan)
    (member : managed ∈ plan.below) (distinct : managed.1 ∉ pending.map Prod.fst) :
    Action.Triple (Steady (Layout plan none (managed :: pending)))
      (runtime.prepareManagedDirectory (host.failingAt call error) managed.1 managed.2 identity)
      (fun _ => Steady (Layout plan none pending)) (Aborted plan call error) := by
  apply Layout.steadfast.prepareManagedDirectory Layout.steadfast tame Layout.stable
    (fun _ layout => layout.pending managed List.mem_cons_self) (fun files after layout made => layout.enter named made distinct)
    (fun _ layout => (layout.opened managed rfl).1) (Layout.window_marker member named tame)
    (fun _ layout => .inr ⟨managed, pending, layout⟩) fun _ _ _ filling => .inr ⟨managed, pending, filling.1⟩

/-- Writing another file in the directory of a node. -/
theorem Layout.writeText {name text : String} (member : managed ∈ plan.below) (free : name ≠ markerFile) (tame : host.Tame plan) :
    Action.Triple (Steady (Layout plan none pending)) (runtime.writeText (host.failingAt call error) managed.1 name text)
      (fun _ => Steady (Layout plan none pending)) (Aborted plan call error) := by
  apply (Layout.window member free tame).writeText
  intro raised world interrupted
  apply Layout.steadfast.interrupted
  refine interrupted.imp (·.weaken fun _ holds => holds.1) fun faulted => faulted.weaken (fun files holds => ?_) fun _ holds => holds
  exact holds.elim id fun found => found.elim fun _ later => later.elim fun _ filling => filling.1

/-- A directory that is not made after all. -/
theorem Layout.skip {files : RuntimeFiles} (layout : Layout plan none (managed :: pending) files) : Layout plan none pending files where
  listed other given := layout.listed other (given.imp id (List.mem_cons_of_mem _))
  runtime := layout.runtime
  settled := layout.settled
  plain := layout.plain
  pending other member := layout.pending other (List.mem_cons_of_mem _ member)
  opened := layout.opened

end Making

section Starting

variable {host : Host} {plan : TopologyPlan} {call : Nat} {error : OSError} {runtime : FrrRuntime} {identity : Option FrrIdentity}
  {pending : List (RuntimePath × String)} {node : NodePlan}

theorem log_ne_marker (daemon : String) : daemon ++ ".log" ≠ markerFile := by
  intro same
  have last := congrArg (fun text => text.toList.getLast?) same
  simp [String.toList_append, markerFile] at last

theorem Layout.spawn {daemon binary : String} (tame : host.Tame plan) (routing : node ∈ plan.routingNodes) :
    Action.Triple (Steady (Layout plan none pending))
      (runtime.spawn (host.failingAt call error) plan node daemon binary identity) (fun _ => Steady (Layout plan none pending))
      (Aborted plan call error) := by
  have member := mem_below routing _ List.mem_cons_self
  have steadfast : Steadfast plan (Layout plan none pending) := Layout.steadfast
  have opened : Action.Triple (Steady (Layout plan none pending))
      ((host.failingAt call error).openAppend (.child (nodeDir plan node) (daemon ++ ".log")))
      (fun _ => Steady (Layout plan none pending)) (Aborted plan call error) :=
    steadfast.openAppend tame member (log_ne_marker daemon)
  apply Action.Triple.bind steadfast.check
  intro _
  apply Action.Triple.bind steadfast.check
  intro _
  apply Action.Triple.bind
  · apply @Action.Triple.each _ _ _ _ _ (fun _ => Steady (Layout plan none pending))
    intro name rest _
    exact Action.Triple.bind steadfast.check fun _ => steadfast.check
  intro _
  apply Action.Triple.bind triple_look
  intro found
  have begun : Action.Triple (Steady (Layout plan none pending)) (do
      runtime.prepareOwnedFile (host.failingAt call error) (.child (nodeDir plan node) (daemon ++ ".log")) identity
      (host.failingAt call error).openAppend (.child (nodeDir plan node) (daemon ++ ".log"))
      raisingFrom (fun error => {
          code := "ROUTING_START_FAILED"
          message := "failed to start FRRouting daemon: " ++ daemon
          details := [("daemon", .str daemon), ("node", .str node.name), ("error", .str error.text)] : NslabError })
        ((host.failingAt call error).popen (runtime.daemonArguments plan node daemon binary)))
      (fun _ => Steady (Layout plan none pending)) (Aborted plan call error) := by
    apply Action.Triple.bind (steadfast.prepareOwnedFile tame)
    intro _
    apply Action.Triple.bind opened
    intro _
    apply triple_raisingFrom (steadfast.popen tame)
    intro found world aborted
    apply aborted.translate
    simp
  cases found with
  | true => exact begun
  | false =>
    apply Action.Triple.bind
    · apply triple_raisingFrom opened
      intro found world aborted
      apply aborted.translate
      simp [FrrRuntime.failedPath]
    · intro _
      exact begun

theorem Layout.waitStarted {daemon : String} {pid : Int} {socket : Option RuntimePath} (tame : host.Tame plan) (passes : Nat) :
    Action.Triple (Steady (Layout plan none pending))
      (runtime.waitStarted (host.failingAt call error) node daemon pid socket passes) (fun _ => Steady (Layout plan none pending))
      (Aborted plan call error) := by
  have steadfast : Steadfast plan (Layout plan none pending) := Layout.steadfast
  induction passes with
  | zero =>
    rw [FrrRuntime.waitStarted]
    apply Action.Triple.bind (steadfast.observe tame)
    intro code
    cases code with
    | some code => exact steadfast.raise
    | none =>
      apply Action.Triple.bind triple_look
      intro ready
      cases ready with
      | true => exact fun _ steady => steady
      | false => exact steadfast.raise
  | succ passes ih =>
    rw [FrrRuntime.waitStarted]
    apply Action.Triple.bind (steadfast.observe tame)
    intro code
    cases code with
    | some code => exact steadfast.raise
    | none =>
      apply Action.Triple.bind triple_look
      intro ready
      cases ready with
      | true => exact fun _ steady => steady
      | false => exact ih

theorem Layout.startDaemon {binaries : List (String × String)} {socket : Option RuntimePath} {records : List ProcessRecord}
    {daemon : String} (tame : host.Tame plan) (routing : node ∈ plan.routingNodes) :
    Action.Triple (Steady (Layout plan none pending))
      (runtime.startDaemon (host.failingAt call error) plan node identity binaries socket records daemon)
      (fun _ => Steady (Layout plan none pending)) (Aborted plan call error) := by
  apply Action.Triple.bind (Layout.spawn tame routing)
  intro pid
  have known : Action.Triple (Steady (Layout plan none pending))
      (Action.modify fun world : World => { world with started := world.started ++ [pid] })
      (fun _ => Steady (Layout plan none pending)) (Aborted plan call error) := fun _ steady => steady
  apply Action.Triple.bind known
  intro _
  apply Action.Triple.bind (Layout.waitStarted tame _)
  intro _
  apply Action.Triple.bind (Layout.writeText (mem_below routing _ List.mem_cons_self) (by decide) tame)
  intro _ _ steady
  exact steady

theorem steady_rendered : Action.Triple (Steady (Layout plan none pending)) (FrrRuntime.rendered plan node)
    (fun _ => Steady (Layout plan none pending)) (Aborted plan call error) := by
  rw [FrrRuntime.rendered]
  split
  next => exact fun _ steady => steady
  next => exact Layout.steadfast.raise
  next => exact Layout.steadfast.raise

theorem Layout.prepareVtyConfig (named : plan.WellNamed) (tame : host.Tame plan) (routing : node ∈ plan.routingNodes)
    (distinct : vtyConfigDir plan node ∉ pending.map Prod.fst) :
    Action.Triple (Steady (Layout plan none ((vtyConfigDir plan node, vtyConfigMarker plan node) :: pending)))
      (runtime.prepareVtyConfig (host.failingAt call error) plan node identity) (fun _ => Steady (Layout plan none pending))
      (Aborted plan call error) := by
  have steadfast : Steadfast plan (Layout plan none pending) := Layout.steadfast
  have member : (vtyConfigDir plan node, vtyConfigMarker plan node) ∈ plan.below :=
    mem_below routing _ (by simp [TopologyPlan.nodeDirectories])
  have written : ∀ name text, name ≠ markerFile → Action.Triple (Steady (Layout plan none pending))
      (runtime.writeText (host.failingAt call error) (vtyConfigDir plan node) name text)
      (fun _ => Steady (Layout plan none pending)) (Aborted plan call error) :=
    fun name text free => Layout.writeText member free tame
  rw [FrrRuntime.prepareVtyConfig]
  split
  next => exact fun _ steady => steady.weaken fun _ layout => layout.skip
  next =>
    apply Action.Triple.bind (Layout.steadfast.ensureRoot tame)
    intro _
    apply Action.Triple.bind (Layout.prepareManagedDirectory named tame member distinct)
    intro _
    apply Action.Triple.bind (written _ _ (by decide))
    intro _
    apply Action.Triple.bind (steadfast.prepareOwnedFile tame)
    intro _
    apply Action.Triple.bind steady_rendered
    intro config
    apply Action.Triple.bind (written _ _ (by decide))
    intro _
    exact steadfast.prepareOwnedFile tame

theorem Layout.startNode {binaries : List (String × String)} (named : plan.WellNamed) (tame : host.Tame plan)
    (routing : node ∈ plan.routingNodes) (distinct : ((plan.nodeDirectories node ++ pending).map Prod.fst).Nodup) :
    Action.Triple (Steady (Layout plan none (plan.nodeDirectories node ++ pending)))
      (runtime.startNode (host.failingAt call error) plan identity node binaries) (fun _ => Steady (Layout plan none pending))
      (Aborted plan call error) := by
  have steadfast : Steadfast plan (Layout plan none pending) := Layout.steadfast
  have member := mem_below routing
  simp only [TopologyPlan.nodeDirectories, List.cons_append, List.nil_append, List.map_cons, List.nodup_cons] at distinct member ⊢
  obtain ⟨first, second, third, _⟩ := distinct
  apply Action.Triple.bind (Layout.prepareManagedDirectory named tame (member _ (by simp)) first)
  intro _
  apply Action.Triple.bind (Layout.prepareManagedDirectory named tame (member _ (by simp)) second)
  intro _
  apply Action.Triple.bind (Layout.prepareVtyConfig named tame routing third)
  intro _
  apply Action.Triple.bind steady_rendered
  intro config
  apply Action.Triple.bind (Layout.writeText (member _ List.mem_cons_self) (by decide) tame)
  intro _
  apply Action.Triple.bind (steadfast.prepareOwnedFile tame)
  intro _
  apply Action.Triple.bind (Layout.startDaemon tame routing)
  intro zebra
  apply Action.Triple.bind
  · apply @Action.Triple.fold _ _ _ _ _ _ (fun _ _ => Steady (Layout plan none pending))
    intro daemon rest records _
    exact Layout.startDaemon tame routing
  · intro _ _ steady
    exact steady

/-- Before the first daemon is started the plan has no directories, and all of them when the last one is. -/
theorem startDaemons_aborted (named : plan.WellNamed) (tame : host.Tame plan) :
    Action.Triple (Steady (Bare plan)) (runtime.startDaemons (host.failingAt call error) plan) (fun _ => Steady (Sound plan))
      (Aborted plan call error) := by
  have bare : Steadfast plan (Bare plan) := Bare.steadfast
  have resolved : Action.Triple (Steady (Bare plan)) (check fun _ => Checks.collect plan.routingNodes fun node =>
      (FrrRuntime.resolveBinaries (host.failingAt call error) node).map (node, ·))
      (fun binaries world => binaries.map Prod.fst = plan.routingNodes ∧ Steady (Bare plan) world) (Aborted plan call error) := by
    apply Action.Triple.inspect
    intro world steady
    cases found : Checks.collect plan.routingNodes fun node =>
        (FrrRuntime.resolveBinaries (host.failingAt call error) node).map (node, ·) with
    | ok binaries => exact ⟨(Checks.collect_keyed found).1, steady⟩
    | error issue => exact bare.natural steady
  apply Action.Triple.bind bare.check
  intro identity
  apply Action.Triple.bind resolved
  intro binaries world given
  obtain ⟨nodes, steady⟩ := given
  refine (Action.Triple.bind (bare.ensureRoot tame) fun _ => Action.Triple.bind (bare.ensureRoot tame) fun _ =>
    Action.Triple.bind (prepareDeployment named tame) fun _ => ?_) world steady
  have started : Action.Triple (Steady (Layout plan none ((binaries.map Prod.fst).flatMap plan.nodeDirectories)))
      (Action.each binaries fun entry => runtime.startNode (host.failingAt call error) plan identity entry.1 entry.2)
      (fun _ => Steady (Layout plan none [])) (Aborted plan call error) := by
    apply @Action.Triple.each _ _ _ _ _
      (fun rest => Steady (Layout plan none ((rest.map Prod.fst).flatMap plan.nodeDirectories)))
    intro entry rest suffix
    have nodes : entry.1 :: rest.map Prod.fst <:+ plan.routingNodes := by
      rw [← nodes]
      exact suffix.map Prod.fst
    have below : plan.nodeDirectories entry.1 ++ (rest.map Prod.fst).flatMap plan.nodeDirectories <:+ plan.below := by
      obtain ⟨before, same⟩ := nodes
      exact ⟨before.flatMap plan.nodeDirectories, by rw [TopologyPlan.below, ← same, List.flatMap_append, List.flatMap_cons]⟩
    exact Layout.startNode named tame (nodes.subset List.mem_cons_self) ((below.sublist.map Prod.fst).nodup named.distinct)
  rw [nodes] at started
  exact Action.Triple.weaken started (fun _ holds => holds) (fun _ _ steady => steady.weaken fun _ layout => layout.sound)
    fun _ _ aborted => aborted

end Starting

section Cleaning

/-- Every managed directory that exists has a marker. -/
def Complete (plan : TopologyPlan) (files : RuntimeFiles) : Prop :=
  ∀ managed ∈ plan.managed, files.lexists managed.1 = true → files.lexists (markerPath managed.1) = true

/-- From some call on, with what is known of an earlier failure. -/
structure After (start : Nat) (failure : Option RuntimeFiles) (holds : RuntimeFiles → Prop) (world : World) : Prop where
  clock : start ≤ world.clock
  failure : world.failure = failure
  files : holds world.files

/-- A call from there on has failed, and its error is raised. -/
def Cut (host : Host) (start : Nat) (failure : Option RuntimeFiles) (raises : OSError → Raised → Prop)
    (left : RuntimeFiles → Prop) (raised : Raised) (world : World) : Prop :=
  ∃ clock error, start ≤ clock ∧ host.fails clock = some error ∧ raises error raised ∧
    world.failure = some (failure.getD world.files) ∧ left world.files

/-- The error of the runtime that a failed call has caused. -/
def Raised.Reports (error : OSError) (raised : Raised) : Prop :=
  ∃ issue, raised = .nslab issue (some error) ∧ issue.code ≠ "ROUTING_RUNTIME_CONFLICT"

variable {host : Host} {plan : TopologyPlan} {runtime : FrrRuntime} {start : Nat} {failure : Option RuntimeFiles}
  {holds left : RuntimeFiles → Prop} {files after : RuntimeFiles} {α : Type}

theorem After.allows (leaves : host.Leaves holds) : host.Allows (After start failure holds) where
  tick world before := ⟨Nat.le_succ_of_le before.clock, before.failure, leaves world.clock world.files before.files⟩
  signal _ _ before := ⟨before.clock, before.failure, before.files⟩

/-- A call that does what it does by itself unless it is made to fail. -/
theorem Host.call_after {effect : RuntimeFiles → Except OSError RuntimeFiles} {torn : RuntimeFiles → RuntimeFiles}
    (post : RuntimeFiles → Prop) (leaves : host.Leaves holds)
    (effects : ∀ files, holds files → ∃ after, effect files = .ok after ∧ post after)
    (tears : ∀ files, holds files → left (torn files)) :
    Action.Triple (After start failure holds) (host.call (fun files => (effect files).map ((), ·)) torn)
      (fun _ => After start failure post) (Cut host start failure (fun error raised => raised = .os error) left) := by
  intro world before
  have ready : holds (host.tick world).files := leaves world.clock world.files before.files
  simp only [Host.call]
  cases fault : host.fails world.clock with
  | some error =>
    refine ⟨world.clock, error, before.clock, fault, rfl, ?_, tears _ ready⟩
    simp only [before.failure]
    rfl
  | none =>
    obtain ⟨after, made, holds⟩ := effects _ ready
    simp only [made, Except.map]
    exact ⟨Nat.le_succ_of_le before.clock, before.failure, holds⟩

theorem Sound.marked (sound : Sound plan files) {managed : RuntimePath × String} (member : managed ∈ plan.managed) :
    files.get? managed.1 = none ∨ Marked files managed.1 managed.2 := by
  cases List.mem_cons.mp member with
  | inl same =>
    subst same
    exact sound.runtime.imp id fun marked => marked.marked
  | inr below => exact (sound.settled managed below).imp id fun marked => marked.1

theorem Sound.complete (sound : Sound plan files) : Complete plan files := by
  intro managed member found
  obtain ⟨entry, found⟩ := lexists_iff.mp found
  cases sound.marked member with
  | inl absent => simp [absent] at found
  | inr marked => exact lexists_iff.mpr ⟨_, marked.marker⟩

/-- What is left of marked directories is sound when no marker is gone before its directory. -/
theorem Sound.shrink (sound : Sound plan files) (shrinks : ∀ path, after.get? path = files.get? path ∨ after.get? path = none)
    (complete : Complete plan after) : Sound plan after := by
  have kept {path : RuntimePath} {entry : Entry RuntimeTree} (found : after.get? path = some entry) : files.get? path = some entry := by
    cases shrinks path with
    | inl same => exact same.symm.trans found
    | inr gone => simp [gone] at found
  have settled : ∀ managed ∈ plan.managed, after.get? managed.1 = none ∨ Marked after managed.1 managed.2 := by
    intro managed member
    cases found : after.get? managed.1 with
    | none => exact .inl rfl
    | some entry =>
      obtain ⟨marker, read⟩ := lexists_iff.mp (complete managed member (lexists_iff.mpr ⟨entry, found⟩))
      cases sound.marked member with
      | inl absent => simp [kept found] at absent
      | inr marked =>
        have directory := kept found
        have stored := kept read
        rw [marked.directory, Option.some.injEq] at directory
        rw [marked.marker, Option.some.injEq] at stored
        exact .inr ⟨directory ▸ found, stored ▸ read⟩
  constructor
  · cases settled _ List.mem_cons_self with
    | inl absent => exact .inl absent
    | inr marked =>
      cases sound.runtime with
      | inl absent => simp [kept marked.directory] at absent
      | inr runtime =>
        refine .inr ⟨marked, runtime.ascii, fun name member other => ?_⟩
        obtain ⟨entry, found⟩ := mem_iterdir.mp member
        obtain ⟨expected, directory⟩ := runtime.nodes name (mem_iterdir.mpr ⟨entry, kept found⟩) other
        rw [kept found, Option.some.injEq] at directory
        exact ⟨expected, directory ▸ found⟩
  · intro managed member
    refine (settled managed (List.mem_cons_of_mem _ member)).imp id fun marked => ⟨marked, ?_⟩
    cases sound.settled managed member with
    | inl absent => simp [kept marked.directory] at absent
    | inr known => exact known.2
  · intro node routing name member
    obtain ⟨entry, found⟩ := mem_iterdir.mp member
    have plain := sound.plain node routing name (mem_iterdir.mpr ⟨entry, kept found⟩)
    rw [isSymlink, kept found] at plain
    rw [isSymlink, found, plain]

/-- No managed directory stands in the place of a marker. -/
theorem TopologyPlan.WellNamed.not_marker (named : plan.WellNamed) {managed other : RuntimePath × String}
    (member : managed ∈ plan.managed) (listed : other ∈ plan.managed) : managed.1 ≠ markerPath other.1 := by
  intro same
  cases List.mem_cons.mp member with
  | inl first =>
    subst first
    cases List.mem_cons.mp listed with
    | inl second => simp [second, markerPath, deploymentDir] at same
    | inr below =>
      have root := below_not_root below
      simp only [markerPath, deploymentDir, Location.child.injEq] at same
      exact root _ same.1.symm
  | inr first =>
    cases List.mem_cons.mp listed with
    | inl second =>
      subst second
      exact named.not_dotted first (by decide) same
    | inr below =>
      have inside := (@within_below plan _ below markerFile).2.2.2 managed first
      rw [markerPath] at same
      simp [same] at inside

/-- Removing a managed directory leaves no other without its marker. -/
theorem Sound.removeTree (sound : Sound plan files) (named : plan.WellNamed) {managed : RuntimePath × String}
    (member : managed ∈ plan.managed) : Sound plan (files.removeTree managed.1) := by
  apply sound.shrink
  · intro path
    rw [get?_removeTree]
    split
    · exact .inr rfl
    · exact .inl rfl
  · intro other listed found
    obtain ⟨entry, found⟩ := lexists_iff.mp found
    rw [get?_removeTree] at found
    split at found
    next => cases found
    next outside =>
      have apart : managed.1.within (markerPath other.1) = false := by
        rw [markerPath, Location.within, Bool.or_eq_false_iff, Bool.eq_false_iff]
        refine ⟨?_, by simpa using outside⟩
        simpa [markerPath] using named.not_marker member listed
      rw [lexists, get?_removeTree, if_neg (by simp [apart])]
      exact sound.complete other listed (lexists_iff.mpr ⟨entry, found⟩)

/-- All directories that exist are marked, and are among those that are still to be removed. -/
structure Remaining (plan : TopologyPlan) (left : RuntimePath → Prop) (files : RuntimeFiles) : Prop where
  sound : Sound plan files
  left : ∀ managed ∈ plan.managed, files.get? managed.1 = none ∨ left managed.1

theorem Remaining.weaken {todo wider : RuntimePath → Prop} (remaining : Remaining plan todo files)
    (implies : ∀ managed ∈ plan.managed, todo managed.1 → wider managed.1) : Remaining plan wider files :=
  ⟨remaining.sound, fun managed member => (remaining.left managed member).imp id (implies managed member)⟩

theorem Remaining.stable {todo : RuntimePath → Prop} : Stable plan (Remaining plan todo) := by
  intro before after remaining harmless
  refine ⟨remaining.sound.harmless harmless (not_not_intro rfl), fun managed member => (remaining.left managed member).imp ?_ id⟩
  cases List.mem_cons.mp member with
  | inl same => exact same ▸ harmless.deployment.trans
  | inr below => exact (harmless.directory below).trans

/-- Removing a managed directory, and with it what lies below. A failing removal leaves part of it. -/
theorem Remaining.removeDirectory {todo : RuntimePath → Prop} {managed : RuntimePath × String} {description : String}
    (named : plan.WellNamed) (tame : host.Tame plan) (member : managed ∈ plan.managed) :
    Action.Triple (After start failure (Remaining plan todo)) (runtime.removeDirectory host managed.1 description)
      (fun _ => After start failure (Remaining plan fun path => todo path ∧ managed.1.within path = false))
      (Cut host start failure Raised.Reports fun files => Complete plan files → Sound plan files) := by
  have looked : Action.Triple (After start failure (Remaining plan todo)) (look (·.lexists managed.1))
      (fun found world => found = world.files.lexists managed.1 ∧ After start failure (Remaining plan todo) world)
      (Cut host start failure Raised.Reports fun files => Complete plan files → Sound plan files) := fun _ after => ⟨rfl, after⟩
  have removed : Action.Triple
      (After start failure fun files => Remaining plan todo files ∧ files.get? managed.1 = some .directory)
      (host.rmtree managed.1) (fun _ => After start failure (Remaining plan fun path => todo path ∧ managed.1.within path = false))
      (Cut host start failure (fun error raised => raised = .os error) fun files => Complete plan files → Sound plan files) := by
    intro world before
    apply Host.call_after (Remaining plan fun path => todo path ∧ managed.1.within path = false) _ _ _ world before
    · intro clock files given
      obtain ⟨remaining, directory⟩ := given
      refine ⟨Remaining.stable.leaves tame clock files remaining, ?_⟩
      cases List.mem_cons.mp member with
      | inl same =>
        subst same
        exact (tame.act clock files).deployment.trans directory
      | inr below => exact ((tame.act clock files).directory below).trans directory
    · intro files given
      obtain ⟨remaining, directory⟩ := given
      refine ⟨_, if_pos directory, remaining.sound.removeTree named member, fun other listed => ?_⟩
      rw [get?_removeTree]
      split
      next => exact .inl rfl
      next outside => exact (remaining.left other listed).imp id fun todo => ⟨todo, by simpa using outside⟩
    · intro files given complete
      obtain ⟨remaining, _⟩ := given
      exact remaining.sound.shrink (fun path => (files.get?_prune managed.1 path _).imp id And.left) complete
  apply Action.Triple.bind looked
  intro found world given
  obtain ⟨same, before⟩ := given
  cases found with
  | false =>
    refine ⟨before.clock, before.failure, before.files.sound, fun other listed => ?_⟩
    cases present : world.files.get? other.1 with
    | none => exact .inl rfl
    | some entry =>
      refine .inr ⟨(before.files.left other listed).resolve_left (by simp [present]), ?_⟩
      rw [Bool.eq_false_iff]
      intro inside
      obtain ⟨above, there⟩ := world.files.exists_of_within present inside
      rw [lexists_iff.mpr ⟨above, there⟩] at same
      cases same
  | true =>
    obtain ⟨entry, there⟩ := lexists_iff.mp same.symm
    have directory : world.files.get? managed.1 = some .directory := by
      cases before.files.sound.marked member with
      | inl absent => simp [absent] at there
      | inr marked => exact marked.directory
    have checked : Action.Triple
        (After start failure fun files => Remaining plan todo files ∧ files.get? managed.1 = some .directory)
        (refuseIf (·.isSymlink managed.1) (runtime.invalidPath managed.1 "routing pathspace is a symlink"))
        (fun _ => After start failure fun files => Remaining plan todo files ∧ files.get? managed.1 = some .directory)
        (Cut host start failure Raised.Reports fun files => Complete plan files → Sound plan files) := by
      apply Action.Triple.inspect
      intro world before
      simp only [isSymlink, before.files.2, Option.any_some, Entry.isSymlink, Bool.false_eq_true, Checks.raiseIf, if_false,
        Checks.mapIssue]
      exact before
    refine (Action.Triple.bind checked fun _ => Action.Triple.recover removed fun raised => ?_) world
      ⟨before.clock, before.failure, before.files, directory⟩
    intro world given
    obtain ⟨clock, error, later, fault, same, failed, left⟩ := given
    subst same
    exact ⟨clock, error, later, fault, ⟨_, rfl, by simp [FrrRuntime.failedPath]⟩, failed, left⟩

/-- A check that succeeds. -/
theorem After.check {validate : RuntimeFiles → Except NslabError α} {fails : Raised → World → Prop}
    (accepts : ∀ files, holds files → ∃ value, validate files = .ok value) :
    Action.Triple (After start failure holds) (check validate) (fun _ => After start failure holds) fails := by
  apply Action.Triple.inspect
  intro world before
  obtain ⟨value, found⟩ := accepts _ before.files
  rw [found]
  exact before

/-- Marked directories are all removed. -/
theorem Sound.cleanup (named : plan.WellNamed) (tame : host.Tame plan) :
    Action.Triple (After start failure (Sound plan)) (runtime.cleanupDeployment host plan)
      (fun _ => After start failure (Bare plan))
      (Cut host start failure Raised.Reports fun files => Complete plan files → Sound plan files) := by
  have validated : ∀ files, Sound plan files → ∃ legacy, runtime.validateArtifacts files plan = .ok legacy :=
    fun files sound => ⟨false, sound_iff.mpr sound⟩
  have settled {managed : RuntimePath × String} (member : managed ∈ plan.below) : ∀ files, Sound plan files →
      ∃ found, runtime.validateManagedDirectory files managed.1 managed.2 = .ok found :=
    fun files sound => exists_validateManagedDirectory.mpr (sound.settled managed member)
  apply Action.Triple.bind (After.check validated)
  intro _
  apply Action.Triple.bind
  · apply @Action.Triple.each _ _ _ _ _ fun _ => After start failure (Sound plan)
    intro node rest suffix
    have listed := mem_below (suffix.subset List.mem_cons_self)
    apply Action.Triple.bind (After.check (settled (listed (stateDir plan node, stateMarker plan node)
      (by simp [TopologyPlan.nodeDirectories]))))
    intro _
    apply Action.Triple.bind (After.check (settled (listed (vtyConfigDir plan node, vtyConfigMarker plan node)
      (by simp [TopologyPlan.nodeDirectories]))))
    intro _ _ before
    exact before
  intro _
  have first : Action.Triple (After start failure (Sound plan))
      (runtime.removeDirectory host (deploymentDir plan) "failed to remove routing runtime directory")
      (fun _ => After start failure (Remaining plan fun path => ∃ node ∈ plan.routingNodes,
        path = stateDir plan node ∨ path = vtyConfigDir plan node))
      (Cut host start failure Raised.Reports fun files => Complete plan files → Sound plan files) := by
    have removed := @Remaining.removeDirectory host plan runtime start failure (fun _ => True) _
      "failed to remove routing runtime directory" named tame List.mem_cons_self
    refine Action.Triple.weaken removed ?_ ?_ fun _ _ cut => cut
    · intro world before
      exact ⟨before.clock, before.failure, before.files, fun _ _ => .inr trivial⟩
    · intro _ world before
      refine ⟨before.clock, before.failure, before.files.weaken fun managed member left => ?_⟩
      cases List.mem_cons.mp member with
      | inl same =>
        have outside := left.2
        rw [same, Location.within_refl] at outside
        cases outside
      | inr below =>
        obtain ⟨node, routing, listed⟩ := List.mem_flatMap.mp below
        simp only [TopologyPlan.nodeDirectories, List.mem_cons, List.not_mem_nil, or_false] at listed
        obtain rfl | rfl | rfl := listed
        · have outside := left.2
          rw [nodeDir, Location.within_child (Location.within_refl _)] at outside
          cases outside
        · exact ⟨node, routing, .inl rfl⟩
        · exact ⟨node, routing, .inr rfl⟩
  apply Action.Triple.bind first
  intro _
  have rest := @Action.Triple.each _ _ _ (Cut host start failure Raised.Reports fun files => Complete plan files → Sound plan files)
    (fun node => do
      runtime.removeDirectory host (stateDir plan node) "failed to remove FRRouting state directory"
      runtime.removeDirectory host (vtyConfigDir plan node) "failed to remove FRRouting config directory")
    (fun rest => After start failure (Remaining plan fun path => ∃ node ∈ rest, path = stateDir plan node ∨ path = vtyConfigDir plan node))
    plan.routingNodes
  refine Action.Triple.weaken (rest fun node rest suffix => ?_) (fun _ before => before) ?_ fun _ _ cut => cut
  · have listed := mem_below (suffix.subset List.mem_cons_self)
    have state := List.mem_cons_of_mem (deploymentDir plan, runtimeMarker plan)
      (listed (stateDir plan node, stateMarker plan node) (by simp [TopologyPlan.nodeDirectories]))
    have config := List.mem_cons_of_mem (deploymentDir plan, runtimeMarker plan)
      (listed (vtyConfigDir plan node, vtyConfigMarker plan node) (by simp [TopologyPlan.nodeDirectories]))
    apply Action.Triple.bind (Remaining.removeDirectory named tame state)
    intro _
    refine Action.Triple.weaken (Remaining.removeDirectory named tame config) (fun _ before => before) ?_ fun _ _ cut => cut
    intro _ world before
    refine ⟨before.clock, before.failure, before.files.weaken fun managed member left => ?_⟩
    obtain ⟨⟨⟨other, member, same⟩, first⟩, second⟩ := left
    cases List.mem_cons.mp member with
    | inr later => exact ⟨other, later, same⟩
    | inl own =>
      subst own
      cases same with
      | inl same =>
        rw [same, Location.within_refl] at first
        cases first
      | inr same =>
        rw [same, Location.within_refl] at second
        cases second
  · intro _ world before
    refine ⟨before.clock, before.failure, fun managed member => ?_⟩
    refine (before.files.left managed member).resolve_right fun left => ?_
    obtain ⟨node, member, _⟩ := left
    cases member

theorem Sound.stable : Stable plan (Sound plan) := fun _ _ sound harmless => sound.harmless harmless (not_not_intro rfl)

/-- Stopping removes marked directories. -/
theorem Sound.stop (named : plan.WellNamed) (tame : host.Tame plan) :
    Action.Triple (After start failure (Sound plan)) (runtime.stop host plan) (fun _ => After start failure (Bare plan))
      (Cut host start failure Raised.Reports fun files => Complete plan files → Sound plan files) := by
  have allows : host.Allows (After start failure (Sound plan)) := After.allows (Sound.stable.leaves tame)
  apply Action.Triple.bind (After.check fun files sound => ⟨false, sound_iff.mpr sound⟩)
  intro _
  apply Action.Triple.bind
  · apply @Action.Triple.fold _ _ _ _ _ _ fun _ _ => After start failure (Sound plan)
    intro node rest pids _
    exact allows.livingProcesses
  intro processes
  exact Action.Triple.bind allows.terminateProcesses fun _ => Sound.cleanup named tame

end Cleaning

section Abandoning

variable {host : Host} {plan : TopologyPlan} {runtime : FrrRuntime} {call : Nat} {error : OSError} {files : RuntimeFiles}

theorem Opened.stable : Stable plan (Opened plan) := by
  intro before after opened harmless
  cases opened with
  | inl begun => exact .inl (begun.imp fun _ begun => begun.harmless harmless)
  | inr layout => exact .inr (layout.imp fun _ layout => layout.imp fun _ layout => layout.harmless harmless (not_not_intro rfl))

theorem Opened.refused (opened : Opened plan files) (named : plan.WellNamed) (runtime : FrrRuntime) :
    ∃ issue, runtime.validateArtifacts files plan = .error issue := by
  obtain ⟨_, begun⟩ | ⟨_, _, layout⟩ := opened
  · exact begun.refused named
  · exact layout.refused

theorem Opened.incomplete (opened : Opened plan files) : ¬ Complete plan files := by
  intro complete
  obtain ⟨_, begun⟩ | ⟨managed, _, layout⟩ := opened
  · have found := complete _ List.mem_cons_self (lexists_iff.mpr ⟨_, begun.opened⟩)
    simp [lexists, begun.unmarked] at found
  · obtain ⟨directory, unmarked⟩ := layout.opened managed rfl
    have found := complete managed (List.mem_cons_of_mem _ (layout.listed managed (.inl rfl))) (lexists_iff.mpr ⟨_, directory⟩)
    simp [lexists, unmarked] at found

/-- What a start in which a call has failed ends with: its error and marked directories, if all were marked then. -/
def Settles (plan : TopologyPlan) (error : OSError) (raised : Raised) (world : World) : Prop :=
  ∀ left, world.failure = some left →
    Complete plan left ∧ raised.Reports error ∧ Sound plan world.files ∨ ¬ Complete plan left ∧ ¬ Complete plan world.files

/-- What has been started is terminated, and what has been made is removed or refused. -/
theorem abandon_settles (named : plan.WellNamed) (tame : host.Tame plan) (raised : Raised) :
    Action.Triple (Aborted plan call error raised) (runtime.abandon (host.failingAt call error) plan raised) (fun _ _ => False)
      (Settles plan error) := by
  have abandons {pre middle : World → Prop} (allows : (host.failingAt call error).Allows pre)
      (cleans : Action.Triple pre (runtime.cleanupDeployment (host.failingAt call error) plan) (fun _ => middle) (Settles plan error))
      (ends : ∀ world, middle world → world.failure = none ∨ raised.From error ∧ Sound plan world.files ∧
        ∀ left, world.failure = some left → Complete plan left) :
      Action.Triple pre (runtime.abandon (host.failingAt call error) plan raised) (fun _ _ => False) (Settles plan error) := by
    have known : Action.Triple pre (Action.inspect fun world : World => (.ok world.started : Except Raised (List Int)))
        (fun _ => pre) (Settles plan error) := fun _ holds => holds
    have ended (started : List Int) : Action.Triple pre
        (Action.ensuring (runtime.terminateProcesses (host.failingAt call error) started)
          (runtime.cleanupDeployment (host.failingAt call error) plan)) (fun _ => middle) (Settles plan error) := by
      have terminated := @Host.Allows.terminateProcesses _ _ allows runtime (fun _ _ => False) started
      exact Action.Triple.ensuring terminated (fun _ => cleans) fun _ _ impossible => impossible.elim
    apply Action.Triple.bind known
    intro started
    apply Action.Triple.bind (ended started)
    intro _ world holds
    cases ends world holds with
    | inl clean =>
      have vacuous : ∀ issue, Settles plan error issue world := fun _ left failed => by simp [clean] at failed
      cases raised with
      | nslab issue cause => exact vacuous _
      | os found => exact vacuous _
      | value text => exact vacuous _
    | inr caused =>
      obtain ⟨caused, sound, complete⟩ := caused
      cases raised with
      | nslab issue cause => exact fun left failed => .inl ⟨complete left failed, ⟨issue, caused.1 ▸ rfl, caused.2⟩, sound⟩
      | os found =>
        obtain rfl : found = error := caused
        exact fun left failed => .inl ⟨complete left failed, ⟨_, rfl, by simp⟩, sound⟩
      | value text => exact caused.elim
  have tames : (host.failingAt call error).Tame plan := tame
  have stable : (host.failingAt call error).Leaves (Sound plan) := Sound.stable.leaves tames
  intro world aborted
  obtain (steady | faulted) | faulted := aborted
  · apply @abandons (After 0 none (Sound plan)) (After 0 none (Bare plan)) (After.allows stable)
    · apply Action.Triple.weaken (Sound.cleanup named tames) (fun _ before => before) (fun _ _ ended => ended)
      intro issue world given left same
      obtain ⟨clock, found, _, fault, reports, failed, settled⟩ := given
      have only : found = error := by
        simp only [Host.failingAt] at fault
        split at fault
        next => exact (Option.some.inj fault).symm
        next => cases fault
      subst only
      rw [failed, Option.getD_none, Option.some.injEq] at same
      subst same
      by_cases complete : Complete plan world.files
      · exact .inl ⟨complete, reports, settled complete⟩
      · exact .inr ⟨complete, complete⟩
    · exact fun _ ended => .inl ended.failure
    · exact ⟨Nat.zero_le _, steady.1, steady.2⟩
  · obtain ⟨left, failed, sound⟩ := faulted.failure
    apply @abandons (After (call + 1) (some left) (Sound plan)) (After (call + 1) (some left) (Bare plan)) (After.allows stable)
    · apply Action.Triple.weaken (Sound.cleanup named tames) (fun _ before => before) (fun _ _ ended => ended)
      intro issue world given
      obtain ⟨clock, found, later, fault, _⟩ := given
      have past : ¬ clock = call := by omega
      simp [Host.failingAt, past] at fault
    · intro world ended
      refine .inr ⟨faulted.caused, ended.files.sound, fun other same => ?_⟩
      rw [ended.failure, Option.some.injEq] at same
      exact same ▸ sound.complete
    · exact ⟨faulted.later, failed, faulted.files⟩
  · obtain ⟨left, failed, opened⟩ := faulted.failure
    have refused : Action.Triple (After (call + 1) (some left) (Opened plan))
        (check (runtime.validateArtifacts · plan)) (fun _ _ => False) (Settles plan error) := by
      apply Action.Triple.inspect
      intro world before
      obtain ⟨issue, refused⟩ := before.files.refused named runtime
      simp only [refused, Checks.mapIssue]
      intro other same
      rw [before.failure, Option.some.injEq] at same
      exact .inr ⟨same ▸ opened.incomplete, before.files.incomplete⟩
    apply @abandons (After (call + 1) (some left) (Opened plan)) (fun _ => False) (After.allows (Opened.stable.leaves tame))
    · exact Action.Triple.bind refused fun _ _ impossible => impossible.elim
    · exact fun _ impossible => impossible.elim
    · exact ⟨faulted.later, failed, faulted.files⟩

theorem bare_of_hasArtifacts (absent : FrrRuntime.hasArtifacts files plan = false) : Bare plan files := by
  simp only [FrrRuntime.hasArtifacts, Bool.or_eq_false_iff, List.any_eq_false, Bool.or_eq_true, not_or, Bool.not_eq_true,
    lexists_eq_false] at absent
  intro managed member
  cases List.mem_cons.mp member with
  | inl same => exact same ▸ absent.1
  | inr below =>
    obtain ⟨node, routing, listed⟩ := List.mem_flatMap.mp below
    simp only [TopologyPlan.nodeDirectories, List.mem_cons, List.not_mem_nil, or_false] at listed
    obtain rfl | rfl | rfl := listed
    · cases found : files.get? (nodeDir plan node) with
      | none => rfl
      | some entry =>
        have above := files.rooted_get? found
        rw [absent.1] at above
        cases above
    · exact (absent.2 node routing).1
    · exact (absent.2 node routing).2

/-- A start ends with marked directories, or in the way that it settles. -/
theorem start_settles (named : plan.WellNamed) (tame : host.Tame plan) :
    Action.Triple (Steady fun files => FrrRuntime.hasArtifacts files plan = false)
      (runtime.start (host.failingAt call error) plan)
      (fun _ => Steady fun files => plan.routingNodes = [] ∨ Sound plan files) (fun raised => Settles plan error raised) := by
  rw [FrrRuntime.start]
  split
  next none => exact fun _ steady => steady.weaken fun _ _ => .inl none
  next =>
    have looked : Action.Triple (Steady fun files => FrrRuntime.hasArtifacts files plan = false)
        (look (FrrRuntime.hasArtifacts · plan)) (fun found world => found = false ∧ Steady (Bare plan) world) (Settles plan error) :=
      fun world steady => ⟨steady.2, steady.weaken fun _ absent => bare_of_hasArtifacts absent⟩
    have reset : Action.Triple (Steady (Bare plan)) (Action.modify fun world : World => { world with started := [] })
        (fun _ => Steady (Bare plan)) (Settles plan error) := fun _ steady => steady
    apply Action.Triple.bind looked
    intro found world given
    obtain ⟨same, steady⟩ := given
    subst same
    have started : Action.Triple (Steady (Bare plan)) (runtime.startDaemons (host.failingAt call error) plan)
        (fun _ => Steady fun files => plan.routingNodes = [] ∨ Sound plan files) (Aborted plan call error) :=
      Action.Triple.weaken (startDaemons_aborted named tame) (fun _ steady => steady)
        (fun _ _ steady => steady.weaken fun _ sound => .inr sound) fun _ _ aborted => aborted
    refine (Action.Triple.bind reset fun _ => Action.Triple.recover started fun raised => ?_) world steady
    exact Action.Triple.weaken (abandon_settles named tame raised) (fun _ aborted => aborted)
      (fun _ _ impossible => impossible.elim) fun _ _ settled => settled

end Abandoning

/-- The start raises the error of the failed call, leaves marked directories only, and a later stop removes all there is. -/
structure Recovers (runtime : FrrRuntime) (plan : TopologyPlan) (error : OSError) (outcome : Except Raised Unit × World) : Prop where
  raised : ∃ raised, outcome.1 = .error raised ∧ raised.Reports error
  marked : ∀ managed ∈ plan.managed, outcome.2.files.lexists managed.1 = true → Marked outcome.2.files managed.1 managed.2
  stopped : ∀ (later : Host) (next : World), later.Tame plan → (∀ clock, next.clock ≤ clock → later.fails clock = none) →
    next.files = outcome.2.files → (runtime.stop later plan next).1 = .ok () ∧
      ∀ managed ∈ plan.managed, (runtime.stop later plan next).2.files.lexists managed.1 = false

/-- With nothing of the plan there, a start in which one call fails recovers exactly when that call leaves no managed
directory without a marker. -/
theorem start_recovers (runtime : FrrRuntime) (host : Host) {manifest : Manifest} {nameOverride : Option String} {plan : TopologyPlan}
    (accepted : manifest.Accepted) (compiled : compilePlan manifest nameOverride = .ok plan) (tame : host.Tame plan) (call : Nat)
    (error : OSError) {world : World} (fresh : world.failure = none) (absent : FrrRuntime.hasArtifacts world.files plan = false)
    {left : RuntimeFiles} (failed : (runtime.start (host.failingAt call error) plan world).2.failure = some left) :
    Recovers runtime plan error (runtime.start (host.failingAt call error) plan world) ↔ Complete plan left := by
  have named := (accepted.plans compiled).wellNamed
  have run := @start_settles host plan runtime call error named tame world ⟨fresh, absent⟩
  generalize runtime.start (host.failingAt call error) plan world = outcome at failed run ⊢
  obtain ⟨reply, after⟩ := outcome
  cases reply with
  | ok done =>
    have clean : after.failure = none := run.1
    simp [clean] at failed
  | error raised =>
    cases run left failed with
    | inr broken =>
      refine iff_of_false (fun recovers => broken.2 fun managed member found => ?_) broken.1
      exact lexists_iff.mpr ⟨_, (recovers.marked managed member found).marker⟩
    | inl settled =>
      obtain ⟨complete, reports, sound⟩ := settled
      refine iff_of_true ⟨⟨raised, rfl, reports⟩, fun managed member found => ?_, ?_⟩ complete
      · obtain ⟨entry, found⟩ := lexists_iff.mp found
        exact (sound.marked member).resolve_left (by simp [found])
      · intro later next tame works same
        have stopped := @Sound.stop later plan runtime next.clock next.failure named tame next ⟨Nat.le_refl _, rfl, same ▸ sound⟩
        generalize runtime.stop later plan next = outcome at stopped ⊢
        obtain ⟨reply, final⟩ := outcome
        cases reply with
        | ok done => exact ⟨rfl, fun managed member => lexists_eq_false.mpr (stopped.files managed member)⟩
        | error issue =>
          obtain ⟨clock, fault, later, fails, _⟩ := stopped
          simp [works clock later] at fails

section Examples

instance (plan : TopologyPlan) (files : RuntimeFiles) : Decidable (Complete plan files) := by
  unfold Complete; infer_instance

/-- One node without links that speaks OSPF. -/
def routedDocument (name node : String) : Document :=
  .dict [("version", .int 1), ("name", .str name), ("topology", .dict [
    ("nodes", .dict [(node, .dict [("kind", .str "linux"), ("sysctls", .dict [("net.ipv4.ip_forward", .int 1)]),
      ("routing", .dict [("ospf", .dict [("router_id", .str "10.0.0.1"), ("networks", .list [.str "10.0.0.0/24"])])])])]),
    ("links", .list [])])]

/-- A host for a user other than root, on which nothing fails and no daemon does anything. -/
def userHost : Host where
  pid clock _ := clock
  binary daemon := some ("/usr/lib/frr/" ++ daemon)
  geteuid := 1000
  getpwnam _ := none
  getgrnam _ := none
  loads _ := none

theorem userHost_tame (plan : TopologyPlan) : userHost.Tame plan := fun _ _ change => by cases change

/-- Making the deployment directory fails. -/
theorem start_recovers_mkdir : ∃ manifest plan, validateManifest (routedDocument "lab" "r") = .ok manifest ∧
    compilePlan manifest none = .ok plan ∧ Recovers {} plan ⟨"No space left on device"⟩
      (FrrRuntime.start {} (userHost.failingAt 4 ⟨"No space left on device"⟩) plan { files := Filesystem.empty }) := by
  obtain ⟨manifest, plan, read, accepted, compiled, found⟩ := Manifest.compiled_of_test (routedDocument "lab" "r") (by decide +kernel)
    (fun plan => !FrrRuntime.hasArtifacts Filesystem.empty plan &&
      (FrrRuntime.start {} (userHost.failingAt 4 ⟨"No space left on device"⟩) plan { files := Filesystem.empty }).2.failure.any
        fun left => Complete plan left) (by decide +kernel)
  rw [Bool.and_eq_true, Bool.not_eq_true', Option.any_eq_true] at found
  obtain ⟨absent, left, failed, complete⟩ := found
  refine ⟨manifest, plan, read, compiled, ?_⟩
  exact (start_recovers {} userHost accepted compiled (userHost_tame plan) 4 _ rfl absent failed).mpr (of_decide_eq_true complete)

/-- Changing the mode of the deployment directory fails right after it has been made: the start raises a conflict instead of
that failure, the directory stays without a marker, and the next stop refuses it. -/
theorem start_strands : ∃ manifest plan outcome, validateManifest (routedDocument "lab" "r") = .ok manifest ∧ manifest.Accepted ∧
    compilePlan manifest none = .ok plan ∧ plan.routingNodes ≠ [] ∧ FrrRuntime.hasArtifacts Filesystem.empty plan = false ∧
    outcome = FrrRuntime.start {} (userHost.failingAt 5 ⟨"Operation not permitted"⟩) plan { files := Filesystem.empty } ∧
    ¬ Recovers {} plan ⟨"Operation not permitted"⟩ outcome ∧ conflicts outcome.1 = true ∧ ¬ Complete plan outcome.2.files ∧
    conflicts (FrrRuntime.stop {} userHost plan { files := outcome.2.files }).1 = true := by
  obtain ⟨manifest, plan, read, accepted, compiled, found⟩ := Manifest.compiled_of_test (routedDocument "lab" "r") (by decide +kernel)
    (fun plan => !plan.routingNodes.isEmpty && !FrrRuntime.hasArtifacts Filesystem.empty plan &&
      let outcome := FrrRuntime.start {} (userHost.failingAt 5 ⟨"Operation not permitted"⟩) plan { files := Filesystem.empty }
      conflicts outcome.1 && !Complete plan outcome.2.files &&
        conflicts (FrrRuntime.stop {} userHost plan { files := outcome.2.files }).1) (by decide +kernel)
  simp only [Bool.and_eq_true, Bool.not_eq_true', List.isEmpty_eq_false_iff, decide_eq_false_iff_not] at found
  obtain ⟨⟨routed, absent⟩, ⟨conflict, incomplete⟩, refused⟩ := found
  refine ⟨manifest, plan, _, read, accepted, compiled, routed, absent, rfl, fun recovers => ?_, conflict, incomplete, refused⟩
  apply incomplete
  intro managed member found
  exact lexists_iff.mpr ⟨_, (recovers.marked managed member found).marker⟩

end Examples

end Nslab
