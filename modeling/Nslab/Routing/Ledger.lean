import Nslab.Library.JsonReader
import Nslab.Routing.Returns

/-! What a start writes down about the daemons that it starts, and that nothing but
the next record changes it. -/

namespace Nslab

open Filesystem

section Hosts

/-- A host as the system documents it: identifiers of processes are positive, JSON is read as it is written, and the daemons
touch neither the metadata nor a pid file of a daemon that the node does not run. -/
structure Host.Orderly (plan : TopologyPlan) (host : Host) : Prop where
  tame : host.Tame plan
  pids : ∀ clock arguments, 0 < host.pid clock arguments ∧ host.pid clock arguments < 2 ^ 31
  reads : ∃ parseConstant, ∀ text, host.loads text = (JsonReader.loads parseConstant text).toOption
  spares : ∀ clock, ∀ change ∈ host.daemons clock, ∀ node ∈ plan.routingNodes, change.1 ≠ metadataPath plan node ∧
    ∀ daemon ∈ frrDaemons, daemon ∉ FrrRuntime.expectedDaemons node → change.1 ≠ .child (nodeDir plan node) (daemon ++ ".pid")

variable {host : Host} {plan : TopologyPlan}

/-- What the daemons do not change themselves stays as it is. -/
theorem Host.Tame.get? (tame : host.Tame plan) {managed : RuntimePath × String} (member : managed ∈ plan.below) {name : String}
    {clock : Nat} (other : ∀ change ∈ host.daemons clock, change.1 ≠ .child managed.1 name) (files : RuntimeFiles) :
    (host.act clock files).get? (.child managed.1 name) = files.get? (.child managed.1 name) := by
  have each := tame clock
  unfold Host.act
  generalize host.daemons clock = changes at each other
  induction changes generalizing files with
  | nil => rfl
  | cons change changes ih =>
    rw [List.foldl_cons, ih _ (fun next listed => each next (List.mem_cons_of_mem _ listed))
      fun next listed => other next (List.mem_cons_of_mem _ listed)]
    obtain ⟨⟨owner, listed, given, _, inside⟩, _⟩ := each change List.mem_cons_self
    have differs := other change List.mem_cons_self
    obtain ⟨path, entry⟩ := change
    cases entry with
    | some entry => rw [Host.applyChange, get?_place, if_neg fun same => differs same.1.symm]
    | none =>
      refine (files.get?_remove_other path _).elim id fun gone => ?_
      obtain ⟨same, rfl⟩ := ((within_below listed).2.2.2 managed member).2 _ (Location.within_trans inside gone.2)
      have above := gone.2
      simp only [Location.within, Bool.or_eq_true, decide_eq_true_eq] at above
      cases above with
      | inl own => exact absurd own differs
      | inr above =>
        have outside := Location.within_trans inside above
        rw [same, Location.not_within_above] at outside
        cases outside

end Hosts

section Books

/-- The metadata of a node. -/
def metadataDocument (plan : TopologyPlan) (node : NodePlan) (records : List ProcessRecord) : Document :=
  .dict [("version", .int 1), ("fingerprint", .str plan.fingerprint), ("node", .str node.name), ("namespace", .str node.netns),
    ("pathspace", .str (routingPathspace plan node)), ("protocols", .list ((routingProtocols node.routing).map .str)),
    ("processes", .list (records.map fun record => .dict [("daemon", .str record.daemon), ("pid", .int record.pid)]))]

def metadataText (plan : TopologyPlan) (node : NodePlan) (records : List ProcessRecord) : String :=
  JsonText.dumpsIndented (metadataDocument plan node records) ++ "\n"

/-- Names of files that tell nothing about daemons. -/
def quiet (name : String) : Prop := name ≠ markerFile ∧ name ≠ "processes.json" ∧ ∀ daemon ∈ frrDaemons, name ≠ daemon ++ ".pid"

/-- A layout whose metadata tells the records in the books, with no pid file of a daemon that its node does not run. -/
structure Ledger (plan : TopologyPlan) (books : NodePlan → List ProcessRecord) (opened : Option (RuntimePath × String))
    (pending : List (RuntimePath × String)) (files : RuntimeFiles) : Prop where
  layout : Layout plan opened pending files
  metadata : ∀ node ∈ plan.routingNodes, files.get? (metadataPath plan node) =
    if books node = [] then none else some (.file (.ok (metadataText plan node (books node))))
  strangers : ∀ node ∈ plan.routingNodes, ∀ daemon ∈ frrDaemons, daemon ∉ FrrRuntime.expectedDaemons node →
    files.get? (.child (nodeDir plan node) (daemon ++ ".pid")) = none
  states : ∀ node ∈ plan.routingNodes, stateDir plan node ∉ pending.map Prod.fst →
    files.get? (stateDir plan node) = some .directory

instance : DecidablePred quiet := fun _ => inferInstanceAs (Decidable (_ ∧ _ ∧ _))

variable {host : Host} {plan : TopologyPlan} {books : NodePlan → List ProcessRecord} {opened : Option (RuntimePath × String)}
  {pending : List (RuntimePath × String)} {files before after : RuntimeFiles} {node : NodePlan}

theorem quiet_of_dotted {name : String} (dot : dotted name) (free : name ≠ markerFile) : quiet name := by
  refine ⟨free, fun same => ?_, fun daemon member same => ?_⟩
  · subst same
    revert dot
    decide
  · subst same
    revert member daemon
    decide

theorem mem_state (routing : node ∈ plan.routingNodes) : (stateDir plan node, stateMarker plan node) ∈ plan.below :=
  mem_below routing _ (by simp [TopologyPlan.nodeDirectories])

/-- A layout that comes of another without a change to the files about daemons. -/
theorem Ledger.other {later : Option (RuntimePath × String)} {rest : List (RuntimePath × String)}
    (ledger : Ledger plan books opened pending before) (layout : Layout plan later rest after)
    (same : ∀ node ∈ plan.routingNodes, ∀ name, ¬ quiet name → name ≠ markerFile →
      after.get? (.child (nodeDir plan node) name) = before.get? (.child (nodeDir plan node) name))
    (states : ∀ node ∈ plan.routingNodes, stateDir plan node ∉ rest.map Prod.fst →
      after.get? (stateDir plan node) = some .directory) : Ledger plan books later rest after where
  layout := layout
  states := states
  metadata node routing := by
    rw [← ledger.metadata node routing]
    exact same node routing _ (fun quiet => quiet.2.1 rfl) (by decide)
  strangers node routing daemon member stranger := by
    rw [← ledger.strangers node routing daemon member stranger]
    refine same node routing _ (fun quiet => quiet.2.2 daemon member rfl) ?_
    clear stranger
    revert member daemon
    decide

theorem Ledger.harmless (ledger : Ledger plan books opened pending before) (harmless : Harmless plan quiet before after) :
    Ledger plan books opened pending after := by
  refine ledger.other (ledger.layout.harmless harmless fun quiet => quiet.1 rfl) (fun node routing name loud _ => ?_)
    fun node routing made => ?_
  · exact harmless.name (mem_below routing _ List.mem_cons_self) loud
  · exact (harmless.directory (mem_state routing)).trans (ledger.states node routing made)

theorem Ledger.leaves (orderly : host.Orderly plan) : host.Leaves (Ledger plan books opened pending) := by
  intro clock files ledger
  have layout := Layout.stable.leaves orderly.tame clock files ledger.layout
  have kept {node : NodePlan} (routing : node ∈ plan.routingNodes) := fun name : String =>
    @Host.Tame.get? host plan orderly.tame _ (mem_below routing _ List.mem_cons_self) name clock
  refine ⟨layout, fun node routing => ?_, fun node routing daemon member stranger => ?_, fun node routing made => ?_⟩
  · rw [← ledger.metadata node routing]
    exact kept routing "processes.json" (fun change listed => (orderly.spares clock change listed node routing).1) files
  · rw [← ledger.strangers node routing daemon member stranger]
    exact kept routing _ (fun change listed => (orderly.spares clock change listed node routing).2 daemon member stranger) files
  · exact ((orderly.tame.act clock files).directory (mem_state routing)).trans (ledger.states node routing made)

/-- The next directory is made, and is open. -/
theorem Ledger.enter {managed : RuntimePath × String} (ledger : Ledger plan books none (managed :: pending) before)
    (named : plan.WellNamed) (made : before.mkdir managed.1 = .ok after) (distinct : managed.1 ∉ pending.map Prod.fst) :
    Ledger plan books (some managed) pending after := by
  have member := ledger.layout.listed managed (.inr List.mem_cons_self)
  refine ledger.other (ledger.layout.enter named made distinct) (fun node routing name _ _ => ?_) fun node routing unlisted => ?_
  · have outside := (@within_below plan _ (mem_below routing _ List.mem_cons_self) name).2.2.2 managed member
    refine mkdir_below member ledger.layout.runtime.marked.directory made (fun same => ?_) (by simp)
    rw [← same, Location.within_refl] at outside
    cases outside.1
  · by_cases own : stateDir plan node = managed.1
    · exact own ▸ (mkdir_spec made).1
    · have present := ledger.states node routing (by simp [own, unlisted])
      exact (mkdir_below member ledger.layout.runtime.marked.directory made own (by simp [stateDir])).trans present

/-- Putting the marker of the open directory in its place. -/
theorem Ledger.close {managed : RuntimePath × String} (ledger : Ledger plan books (some managed) pending before)
    (named : plan.WellNamed) : Ledger plan books none pending (before.place (markerPath managed.1) (.file (.ok managed.2))) := by
  have member := ledger.layout.listed managed (.inl rfl)
  refine ledger.other (ledger.layout.close named) (fun node routing name _ free => ?_) fun node routing made => ?_
  · rw [get?_place, if_neg fun same => free (Location.child.inj same.1).2]
  · have harmless : Harmless plan (fun _ => True) before (before.place (markerPath managed.1) (.file (.ok managed.2))) :=
      Harmless.place member trivial (Location.within_refl _) rfl
    exact (harmless.directory (mem_state routing)).trans (ledger.states node routing made)

/-- A directory for vtysh that is not made after all. -/
theorem Ledger.skip {marker : String} (ledger : Ledger plan books none ((vtyConfigDir plan node, marker) :: pending) files) :
    Ledger plan books none pending files := by
  refine ledger.other ledger.layout.skip (fun _ _ _ _ _ => rfl) fun other routing unlisted => ?_
  refine ledger.states other routing ?_
  rw [List.map_cons, List.mem_cons, not_or]
  exact ⟨by simp [stateDir, vtyConfigDir], unlisted⟩

end Books

section Steps

variable {host : Host} {plan : TopologyPlan} {runtime : FrrRuntime} {started : List Int} {books : NodePlan → List ProcessRecord}
  {managed : RuntimePath × String} {pending : List (RuntimePath × String)} {node : NodePlan} {identity : Option FrrIdentity}

theorem Ledger.prepareManagedDirectory (named : plan.WellNamed) (orderly : host.Orderly plan) (member : managed ∈ plan.below)
    (distinct : managed.1 ∉ pending.map Prod.fst) : Brings started (Ledger plan books none (managed :: pending))
      (runtime.prepareManagedDirectory host managed.1 managed.2 identity) fun _ => Ledger plan books none pending := by
  apply Brings.prepareManagedDirectory (Ledger.leaves orderly) (Ledger.leaves orderly)
  · exact fun files ledger => ledger.layout.pending managed List.mem_cons_self
  · exact fun files after ledger made => ledger.enter named made distinct
  · apply Window.within member orderly.tame (Ledger.leaves orderly) (fun _ => quiet_of_dotted) fun _ _ ledger => ledger.harmless
    · exact fun _ _ ledger => ledger.harmless
    · exact fun files ledger => ledger.layout.plain managed member markerFile
    · exact fun files ledger _ => ledger.close named

theorem Ledger.writeText {name text : String} (orderly : host.Orderly plan) (member : managed ∈ plan.below) (calm : quiet name) :
    Brings started (Ledger plan books none pending) (runtime.writeText host managed.1 name text)
      fun _ => Ledger plan books none pending := by
  refine Window.brings (Window.within member orderly.tame (Ledger.leaves orderly) (fun _ => quiet_of_dotted)
    (fun _ _ ledger => ledger.harmless) (fun _ _ ledger => ledger.harmless) (fun files ledger => ?_) fun files ledger _ => ?_)
  · exact ledger.layout.plain managed member name
  · exact ledger.harmless (Harmless.place member calm (Location.within_refl _) rfl)

theorem Ledger.rendered : Brings started (Ledger plan books none pending) (FrrRuntime.rendered plan node)
    fun _ => Ledger plan books none pending := by
  rw [FrrRuntime.rendered]
  split
  next => exact Brings.done
  next => exact Brings.raise
  next => exact Brings.raise

theorem Ledger.prepareVtyConfig (named : plan.WellNamed) (orderly : host.Orderly plan) (routing : node ∈ plan.routingNodes)
    (distinct : vtyConfigDir plan node ∉ pending.map Prod.fst) :
    Brings started (Ledger plan books none ((vtyConfigDir plan node, vtyConfigMarker plan node) :: pending))
      (runtime.prepareVtyConfig host plan node identity) fun _ => Ledger plan books none pending := by
  have member : (vtyConfigDir plan node, vtyConfigMarker plan node) ∈ plan.below :=
    mem_below routing _ (by simp [TopologyPlan.nodeDirectories])
  have leaves : host.Leaves (Ledger plan books none pending) := Ledger.leaves orderly
  unfold FrrRuntime.prepareVtyConfig
  split
  next => exact fun world given => ⟨given.1.skip, given.2⟩
  next =>
    have root : Brings started (Ledger plan books none ((vtyConfigDir plan node, vtyConfigMarker plan node) :: pending))
        (runtime.ensureDirectory host (.root .frrConfig))
        fun _ => Ledger plan books none ((vtyConfigDir plan node, vtyConfigMarker plan node) :: pending) :=
      Brings.ensureDirectory (Ledger.leaves orderly) (Ledger.leaves orderly) fun _ _ ledger made => ledger.harmless (Harmless.mkdir made)
    apply Brings.bind root
    intro _
    apply Brings.bind (Ledger.prepareManagedDirectory named orderly member distinct)
    intro _
    apply Brings.bind (Ledger.writeText orderly member (by decide))
    intro _
    apply Brings.bind (Brings.prepareOwnedFile leaves)
    intro _
    apply Brings.bind Ledger.rendered
    intro config
    apply Brings.bind (Ledger.writeText orderly member (by decide))
    intro _
    exact Brings.prepareOwnedFile leaves

/-- No two routing nodes have the same directory. -/
theorem TopologyPlan.WellNamed.nodup_dirs (named : plan.WellNamed) : (plan.routingNodes.map (nodeDir plan)).Nodup := by
  have distinct := named.distinct
  rw [TopologyPlan.below, List.map_flatMap, List.nodup_flatMap] at distinct
  have listed : ∀ node : NodePlan, nodeDir plan node ∈ (plan.nodeDirectories node).map Prod.fst :=
    fun node => List.mem_map_of_mem List.mem_cons_self
  refine List.pairwise_map.mpr (distinct.2.imp ?_)
  intro own other disjoint equal
  exact disjoint (listed own) (equal ▸ listed other)

theorem TopologyPlan.WellNamed.node_of_dir (named : plan.WellNamed) {left right : NodePlan} (first : left ∈ plan.routingNodes)
    (second : right ∈ plan.routingNodes) (same : nodeDir plan left = nodeDir plan right) : left = right :=
  List.inj_on_of_nodup_map named.nodup_dirs first second same

/-- Saving the metadata of a node enters its records in the books. -/
theorem Ledger.saveMetadata {records : List ProcessRecord} (named : plan.WellNamed) (orderly : host.Orderly plan)
    (routing : node ∈ plan.routingNodes) (nonempty : records ≠ []) :
    Brings started (Ledger plan books none pending) (runtime.saveMetadata host plan node records)
      fun _ => Ledger plan (Function.update books node records) none pending := by
  have member := mem_below routing (nodeDir plan node, runtimeNodeMarker plan node) List.mem_cons_self
  have loud : "processes.json" ≠ markerFile := by decide
  refine Window.brings (Window.within member orderly.tame (Ledger.leaves orderly) (fun _ => quiet_of_dotted)
    (fun _ _ ledger => ledger.harmless) (fun _ _ ledger => ledger.harmless) (fun files ledger => ?_) fun files ledger opened => ?_)
  · exact ledger.layout.plain _ member "processes.json"
  · have admits : files.Admits (metadataPath plan node) := by
      refine ⟨fun above same => Option.some.inj same ▸ opened, fun found => ?_⟩
      have plain := ledger.layout.plain _ member "processes.json" .directory found
      cases plain
    have harmless : Harmless plan (· ≠ markerFile) files (files.place (metadataPath plan node)
        (.file (.ok (metadataText plan node records)))) := Harmless.place member loud (Location.within_refl _) rfl
    refine ⟨Layout.stable _ _ ledger.layout harmless, ?_, ?_, fun other listed made =>
      (harmless.directory (mem_state listed)).trans (ledger.states other listed made)⟩
    · intro other listed
      by_cases own : other = node
      · subst own
        rw [Function.update_self, if_neg nonempty]
        exact (get?_place _ _ _ _).trans (if_pos ⟨rfl, admits⟩)
      · rw [Function.update_of_ne own, ← ledger.metadata other listed, get?_place, if_neg]
        intro same
        exact own (named.node_of_dir listed routing (Location.child.inj same.1).1)
    · intro other listed daemon inside stranger
      rw [← ledger.strangers other listed daemon inside stranger, get?_place, if_neg]
      intro same
      have name := (Location.child.inj same.1).2
      clear stranger same
      revert inside name daemon
      decide

theorem Ledger.spawn {daemon binary : String} (orderly : host.Orderly plan) (routing : node ∈ plan.routingNodes)
    (listed : daemon ∈ frrDaemons) : Brings started (Ledger plan books none pending)
      (runtime.spawn host plan node daemon binary identity)
      fun pid files => Ledger plan books none pending files ∧ 0 < pid ∧ pid < 2 ^ 31 := by
  have leaves : host.Leaves (Ledger plan books none pending) := Ledger.leaves orderly
  have calm : ∀ daemon ∈ frrDaemons, quiet (daemon ++ ".log") := by decide
  have opened : Brings started (Ledger plan books none pending) (host.openAppend (.child (nodeDir plan node) (daemon ++ ".log")))
      fun _ => Ledger plan books none pending := by
    apply Brings.perform leaves
    intro files ended ledger made
    have placed := ledger.harmless (Harmless.place (mem_below routing _ List.mem_cons_self) (calm daemon listed) (Location.within_refl _)
      (show (Entry.file (ρ := RuntimeTree) (.ok "")).isPlain = true from rfl))
    rw [Filesystem.openAppend] at made
    split at made
    next => cases made
    next => exact Except.ok.inj made ▸ ledger
    next =>
      split at made
      next => exact Except.ok.inj made ▸ placed
      next => cases made
  have popped : Brings started (Ledger plan books none pending) (host.popen (runtime.daemonArguments plan node daemon binary))
      fun pid files => Ledger plan books none pending files ∧ 0 < pid ∧ pid < 2 ^ 31 := by
    have called : ∀ clock arguments, Brings started (Ledger plan books none pending)
        (host.call fun files => .ok (host.pid clock arguments, files))
        fun pid files => Ledger plan books none pending files ∧ 0 < pid ∧ pid < 2 ^ 31 := by
      intro clock arguments
      apply Brings.call leaves
      intro files pid ended ledger made
      obtain ⟨rfl, rfl⟩ := Prod.mk.inj (Except.ok.inj made)
      exact ⟨ledger, orderly.pids _ _⟩
    exact fun world given => called world.clock _ world given
  have begun : ∀ _ : Unit, Brings started (Ledger plan books none pending) (do
      runtime.prepareOwnedFile host (.child (nodeDir plan node) (daemon ++ ".log")) identity
      host.openAppend (.child (nodeDir plan node) (daemon ++ ".log"))
      raisingFrom (fun error => {
        code := "ROUTING_START_FAILED"
        message := "failed to start FRRouting daemon: " ++ daemon
        details := [("daemon", .str daemon), ("node", .str node.name), ("error", .str error.text)] })
        (host.popen (runtime.daemonArguments plan node daemon binary)))
      fun pid files => Ledger plan books none pending files ∧ 0 < pid ∧ pid < 2 ^ 31 := by
    intro _
    apply Brings.bind (Brings.prepareOwnedFile leaves)
    intro _
    apply Brings.bind opened
    intro _
    exact Brings.raisingFrom popped
  apply Brings.bind Brings.check
  intro _
  apply Brings.bind Brings.check
  intro _
  have checked : Brings started (Ledger plan books none pending) (Action.each ["frr.conf", "zebra.api", daemon ++ ".pid"] fun name => do
      let path := Location.child (nodeDir plan node) name
      refuseIf (·.isSymlink path) (runtime.invalidPath path "FRRouting runtime file is a symlink")
      refuseIf (fun files => files.lexists path && files.isDir path)
        (runtime.invalidPath path "FRRouting runtime file is a directory")) fun _ => Ledger plan books none pending := by
    apply @Action.Triple.each World Raised _ (fun _ _ => True) _
      (fun _ (world : World) => Ledger plan books none pending world.files ∧ world.started = started)
    intro name rest _
    exact Brings.bind Brings.check fun _ => Brings.check
  apply Brings.bind checked
  intro _
  apply Brings.bind (Brings.weaken Brings.look (fun _ ledger => ledger) fun _ _ given => given.1)
  intro present
  cases present with
  | true => exact begun ()
  | false => exact Brings.bind (Brings.raisingFrom opened) begun

theorem Ledger.waitStarted {daemon : String} {pid : Int} {socket : Option RuntimePath} (orderly : host.Orderly plan) (passes : Nat) :
    Brings started (Ledger plan books none pending) (runtime.waitStarted host node daemon pid socket passes)
      fun _ => Ledger plan books none pending := by
  induction passes with
  | zero =>
    rw [FrrRuntime.waitStarted]
    apply Brings.bind (Brings.observe (Ledger.leaves orderly))
    intro code
    cases code with
    | some code => exact Brings.raise
    | none =>
      apply Brings.bind (Brings.weaken Brings.look (fun _ ledger => ledger) fun _ _ given => given.1)
      intro ready
      cases ready with
      | true => exact Brings.done
      | false => exact Brings.raise
  | succ passes ih =>
    rw [FrrRuntime.waitStarted]
    apply Brings.bind (Brings.observe (Ledger.leaves orderly))
    intro code
    cases code with
    | some code => exact Brings.raise
    | none =>
      apply Brings.bind (Brings.weaken Brings.look (fun _ ledger => ledger) fun _ _ given => given.1)
      intro ready
      cases ready with
      | true => exact Brings.done
      | false => exact ih

end Steps

section Runs

variable {host : Host} {plan : TopologyPlan} {runtime : FrrRuntime} {books : NodePlan → List ProcessRecord}
  {pending : List (RuntimePath × String)} {node : NodePlan} {identity : Option FrrIdentity} {binaries : List (String × String)}

/-- The books tell daemons that have been started. -/
structure Booked (plan : TopologyPlan) (books : NodePlan → List ProcessRecord) (pending : List (RuntimePath × String))
    (world : World) : Prop where
  ledger : Ledger plan books none pending world.files
  known : ∀ node, ∀ record ∈ books node, record.pid ∈ world.started ∧ 0 < record.pid ∧ record.pid < 2 ^ 31

theorem expected_daemons {node : NodePlan} : ∀ daemon ∈ FrrRuntime.expectedDaemons node, daemon ∈ frrDaemons := by
  intro daemon member
  cases List.mem_cons.mp member with
  | inl same => simp [same, frrDaemons]
  | inr routed =>
    unfold routingDaemons at routed
    split at routed
    next => cases routed
    next =>
      simp only [List.mem_append, Option.mem_toList, Option.map_eq_some_iff] at routed
      obtain (⟨_, _, rfl⟩ | ⟨_, _, rfl⟩) | ⟨_, _, rfl⟩ := routed <;> decide

theorem Booked.of_brings {α : Type} {action : Runs α} {rest : List (RuntimePath × String)}
    (brings : ∀ started, Brings started (Ledger plan books none pending) action fun _ => Ledger plan books none rest) :
    Action.Triple (Booked plan books pending) action (fun _ => Booked plan books rest) fun _ _ => True := by
  intro world booked
  have run := brings world.started world ⟨booked.ledger, rfl⟩
  cases outcome : action world with
  | mk reply ended =>
    rw [outcome] at run
    cases reply with
    | error raised => trivial
    | ok value => exact ⟨run.1, run.2 ▸ booked.known⟩

/-- A daemon that is started is entered in the books. -/
theorem Booked.startDaemon {socket : Option RuntimePath} {records : List ProcessRecord} {daemon : String} (named : plan.WellNamed)
    (orderly : host.Orderly plan) (routing : node ∈ plan.routingNodes) (listed : daemon ∈ frrDaemons) :
    Action.Triple (Booked plan (Function.update books node records) pending)
      (runtime.startDaemon host plan node identity binaries socket records daemon)
      (fun result world => Booked plan (Function.update books node result) pending world ∧
        result.map (·.daemon) = records.map (·.daemon) ++ [daemon]) fun _ _ => True := by
  intro world booked
  have run : Action.Triple (fun other => Ledger plan (Function.update books node records) none pending other.files ∧
        other.started = world.started) (runtime.startDaemon host plan node identity binaries socket records daemon)
      (fun result other => ∃ pid, (0 < pid ∧ pid < 2 ^ 31) ∧ result = records ++ [⟨daemon, pid⟩] ∧
        Ledger plan (Function.update books node result) none pending other.files ∧ other.started = world.started ++ [pid])
      fun _ _ => True := by
    apply Action.Triple.bind (Ledger.spawn orderly routing listed)
    intro pid
    have counted : Action.Triple (fun other => (Ledger plan (Function.update books node records) none pending other.files ∧
          0 < pid ∧ pid < 2 ^ 31) ∧ other.started = world.started)
        (Action.modify fun world : World => { world with started := world.started ++ [pid] } : Runs Unit)
        (fun _ other => (Ledger plan (Function.update books node records) none pending other.files ∧
          0 < pid ∧ pid < 2 ^ 31) ∧ other.started = world.started ++ [pid]) fun _ _ => True := by
      apply Action.Triple.modify
      exact fun other given => ⟨given.1, congrArg (· ++ [pid]) given.2⟩
    apply Action.Triple.bind counted
    intro _ other given
    obtain ⟨⟨ledger, bounds⟩, same⟩ := given
    have saved := @Ledger.saveMetadata host plan runtime (world.started ++ [pid]) (Function.update books node records) pending node
      (records ++ [⟨daemon, pid⟩]) named orderly routing (by simp)
    refine (Action.Triple.bind (Ledger.waitStarted orderly _) fun _ => Action.Triple.bind saved fun _ => ?_) other ⟨ledger, same⟩
    intro final ended
    rw [Function.update_idem] at ended
    exact ⟨pid, bounds, rfl, ended⟩
  have ended := run world ⟨booked.ledger, rfl⟩
  cases outcome : runtime.startDaemon host plan node identity binaries socket records daemon world with
  | mk reply after =>
    rw [outcome] at ended
    cases reply with
    | error raised => trivial
    | ok result =>
      obtain ⟨pid, bounds, shape, ledger, same⟩ := ended
      refine ⟨⟨ledger, fun other record member => ?_⟩, by simp [shape]⟩
      rw [same]
      by_cases own : other = node
      · subst own
        rw [Function.update_self, shape, List.mem_append, List.mem_singleton] at member
        cases member with
        | inl old =>
          have known := booked.known other record (by rwa [Function.update_self])
          exact ⟨List.mem_append_left _ known.1, known.2⟩
        | inr new => exact ⟨by simp [new], new ▸ bounds⟩
      · rw [Function.update_of_ne own] at member
        have known := booked.known other record (by rwa [Function.update_of_ne own])
        exact ⟨List.mem_append_left _ known.1, known.2⟩

/-- A node that is started has all its daemons in the books. -/
theorem Booked.startNode (named : plan.WellNamed) (orderly : host.Orderly plan) (routing : node ∈ plan.routingNodes)
    (distinct : ((plan.nodeDirectories node ++ pending).map Prod.fst).Nodup) (fresh : books node = []) :
    Action.Triple (Booked plan books (plan.nodeDirectories node ++ pending)) (runtime.startNode host plan identity node binaries)
      (fun _ world => ∃ records, Booked plan (Function.update books node records) pending world ∧
        records.map (·.daemon) = FrrRuntime.expectedDaemons node) fun _ _ => True := by
  have member := mem_below routing
  simp only [TopologyPlan.nodeDirectories, List.cons_append, List.nil_append, List.map_cons, List.nodup_cons] at distinct member ⊢
  obtain ⟨first, second, third, _⟩ := distinct
  apply Action.Triple.bind (Booked.of_brings fun _ => Ledger.prepareManagedDirectory named orderly (member _ (by simp)) first)
  intro _
  apply Action.Triple.bind (Booked.of_brings fun _ => Ledger.prepareManagedDirectory named orderly (member _ (by simp)) second)
  intro _
  apply Action.Triple.bind (Booked.of_brings fun _ => Ledger.prepareVtyConfig named orderly routing third)
  intro _
  apply Action.Triple.bind (Booked.of_brings fun _ => Ledger.rendered)
  intro config
  apply Action.Triple.bind (Booked.of_brings fun _ => Ledger.writeText orderly (member _ List.mem_cons_self) (by decide))
  intro _
  apply Action.Triple.bind (Booked.of_brings fun _ => Brings.prepareOwnedFile (Ledger.leaves orderly))
  intro _ world booked
  have same : Function.update books node [] = books := by rw [← fresh, Function.update_eq_self]
  rw [← same] at booked
  have begun := @Booked.startDaemon host plan runtime books pending node identity binaries
    (some (.child (nodeDir plan node) "zebra.api")) [] "zebra" named orderly routing (@expected_daemons node _ List.mem_cons_self)
  refine Action.Triple.bind begun (fun zebra => ?_) world booked
  have rest := @Action.Triple.fold World Raised _ _ (fun _ _ => True) (runtime.startDaemon host plan node identity binaries none)
    (fun rest records world => Booked plan (Function.update books node records) pending world ∧
      records.map (·.daemon) ++ rest = FrrRuntime.expectedDaemons node) (routingDaemons node.routing)
    (fun daemon rest records suffix => ?_) zebra
  · refine Action.Triple.bind (Action.Triple.weaken rest ?_ (fun _ _ given => given) fun _ _ _ => trivial) fun records final ended => ?_
    · exact fun _ given => ⟨given.1, by simp [given.2, FrrRuntime.expectedDaemons]⟩
    · exact ⟨records, ended.1, by simpa using ended.2⟩
  · intro next given
    have listed := @expected_daemons node daemon (List.mem_cons_of_mem _ (suffix.subset List.mem_cons_self))
    refine Action.Triple.weaken (Booked.startDaemon named orderly routing listed) (fun _ booked => booked)
      (fun result last ended => ?_) (fun _ _ _ => trivial) next given.1
    exact ⟨ended.1, by rw [ended.2, List.append_assoc, List.singleton_append, given.2]⟩

/-- Nothing is in the books while nothing of the nodes is there. -/
theorem booked_of_layout {world : World} (layout : Layout plan none plan.below world.files) :
    Booked plan (fun _ => []) plan.below world := by
  have absent : ∀ node ∈ plan.routingNodes, ∀ name, world.files.get? (.child (nodeDir plan node) name) = none := by
    intro node routing name
    have gone := layout.pending _ (mem_below routing (nodeDir plan node, runtimeNodeMarker plan node) List.mem_cons_self)
    cases found : world.files.get? (.child (nodeDir plan node) name) with
    | none => rfl
    | some entry => simp [world.files.rooted_get? found] at gone
  refine ⟨⟨layout, fun node routing => ?_, fun node routing daemon _ _ => absent node routing _, fun node routing made => ?_⟩,
    fun _ _ member => by cases member⟩
  · rw [if_pos rfl]
    exact absent node routing _
  · exact absurd (List.mem_map_of_mem (mem_state routing)) made

theorem Booked.startDaemons (named : plan.WellNamed) (orderly : host.Orderly plan) :
    Action.Triple (fun world => Bare plan world.files) (runtime.startDaemons host plan)
      (fun _ world => ∃ books, Booked plan books [] world ∧
        ∀ node ∈ plan.routingNodes, (books node).map (·.daemon) = FrrRuntime.expectedDaemons node) fun _ _ => True := by
  have leaves : host.Leaves (Bare plan) := Bare.stable.leaves orderly.tame
  have root : ∀ started tree, Brings started (Bare plan) (runtime.ensureDirectory host (.root tree)) fun _ => Bare plan :=
    fun _ _ => Brings.ensureDirectory leaves leaves fun _ _ bare made => Bare.stable _ _ bare (Harmless.mkdir made)
  have deployment : ∀ started identity, Brings started (Bare plan)
      (runtime.prepareManagedDirectory host (deploymentDir plan) (runtimeMarker plan) identity)
      fun _ => Layout plan none plan.below := by
    intro started identity
    apply Brings.prepareManagedDirectory leaves (Layout.stable.leaves orderly.tame)
    · exact fun files bare => bare _ List.mem_cons_self
    · exact fun files after bare made => Begun.enter made (bare _ List.mem_cons_self) fun managed member =>
        bare managed (List.mem_cons_of_mem _ member)
    · exact Begun.window named orderly.tame
  have resolved : Action.Triple (fun world => Bare plan world.files) (check fun _ => Checks.collect plan.routingNodes fun node =>
      (FrrRuntime.resolveBinaries host node).map (node, ·))
      (fun binaries world => binaries.map Prod.fst = plan.routingNodes ∧ Bare plan world.files) fun _ _ => True := by
    apply Action.Triple.inspect
    intro world bare
    cases found : Checks.collect plan.routingNodes fun node => (FrrRuntime.resolveBinaries host node).map (node, ·) with
    | ok binaries => exact ⟨(Checks.collect_keyed found).1, bare⟩
    | error issue => trivial
  have checked : Action.Triple (fun world => Bare plan world.files) (check fun _ => runtime.resolveFrrIdentity host)
      (fun _ world => Bare plan world.files) fun _ _ => True := by
    intro world bare
    exact (Action.Triple.weaken (@Brings.check world.started _ (Bare plan) _) (fun _ given => given) (fun _ _ given => given.1)
      fun _ _ _ => trivial) world ⟨bare, rfl⟩
  apply Action.Triple.bind checked
  intro identity
  apply Action.Triple.bind resolved
  intro binaries world given
  obtain ⟨nodes, bare⟩ := given
  refine (Action.Triple.bind (root world.started .runtime) fun _ => Action.Triple.bind (root _ .frrState) fun _ =>
    Action.Triple.bind (deployment _ identity) fun _ => ?_) world ⟨bare, rfl⟩
  have each := @Action.Triple.each World Raised _ (fun _ _ => True) (fun entry => runtime.startNode host plan identity entry.1 entry.2)
    (fun rest world => ∃ books, Booked plan books ((rest.map Prod.fst).flatMap plan.nodeDirectories) world ∧
      (∀ node ∈ rest.map Prod.fst, books node = []) ∧ ∀ node ∈ plan.routingNodes, node ∉ rest.map Prod.fst →
        (books node).map (·.daemon) = FrrRuntime.expectedDaemons node) binaries ?_
  · refine Action.Triple.weaken each (fun other given => ?_) (fun _ final ended => ?_) fun _ _ _ => trivial
    · have begun := booked_of_layout given.1
      rw [TopologyPlan.below] at begun
      exact ⟨_, nodes ▸ begun, fun _ _ => rfl, fun node routing unlisted => absurd routing (nodes ▸ unlisted)⟩
    · obtain ⟨books, booked, _, all⟩ := ended
      exact ⟨books, booked, fun node routing => all node routing (by simp)⟩
  · intro entry rest suffix other given
    obtain ⟨books, booked, fresh, entered⟩ := given
    have nodes : entry.1 :: rest.map Prod.fst <:+ plan.routingNodes := nodes ▸ suffix.map Prod.fst
    have distinct : (entry.1 :: rest.map Prod.fst).Nodup := nodes.sublist.nodup (List.Nodup.of_map _ named.nodup_dirs)
    have below : plan.nodeDirectories entry.1 ++ (rest.map Prod.fst).flatMap plan.nodeDirectories <:+ plan.below := by
      obtain ⟨before, same⟩ := nodes
      exact ⟨before.flatMap plan.nodeDirectories, by rw [TopologyPlan.below, ← same, List.flatMap_append, List.flatMap_cons]⟩
    refine Action.Triple.weaken (Booked.startNode named orderly (nodes.subset List.mem_cons_self)
      ((below.sublist.map Prod.fst).nodup named.distinct) (fresh _ List.mem_cons_self)) (fun _ booked => booked)
      (fun _ final ended => ?_) (fun _ _ _ => trivial) other booked
    obtain ⟨records, booked, complete⟩ := ended
    refine ⟨_, booked, fun node listed => ?_, fun node routing unlisted => ?_⟩
    · have differs : node ≠ entry.1 := by
        intro same
        exact (List.nodup_cons.mp distinct).1 (same ▸ listed)
      rw [Function.update_of_ne differs]
      exact fresh node (List.mem_cons_of_mem _ listed)
    · by_cases own : node = entry.1
      · rw [own, Function.update_self]
        exact complete
      · rw [Function.update_of_ne own]
        exact entered node routing fun listed => unlisted ((List.mem_cons.mp listed).resolve_left own)

/-- The files of a deployment all of whose daemons have been started. -/
def Running (plan : TopologyPlan) (started : List Int) (files : RuntimeFiles) : Prop :=
  ∃ books, Ledger plan books none [] files ∧
    (∀ node ∈ plan.routingNodes, (books node).map (·.daemon) = FrrRuntime.expectedDaemons node) ∧
    ∀ node, ∀ record ∈ books node, record.pid ∈ started ∧ 0 < record.pid ∧ record.pid < 2 ^ 31

/-- A start that returns, with nothing of the plan there before, has started all daemons. -/
theorem start_running (named : plan.WellNamed) (orderly : host.Orderly plan) (routed : plan.routingNodes ≠ []) :
    Action.Triple (fun world => FrrRuntime.hasArtifacts world.files plan = false) (runtime.start host plan)
      (fun _ world => Running plan world.started world.files) fun _ _ => True := by
  have abandoned : ∀ raised, Action.Triple (fun _ => True) (runtime.abandon host plan raised)
      (fun _ world => Running plan world.started world.files) fun _ _ => True := by
    intro raised
    apply Action.Triple.bind triple_anything
    intro _
    apply Action.Triple.bind triple_anything
    intro _
    cases raised <;> exact fun _ _ => trivial
  have begun : Action.Triple (fun world => Bare plan world.files) (do
      Action.modify fun world : World => { world with started := [] }
      Action.recover (runtime.startDaemons host plan) (runtime.abandon host plan))
      (fun _ world => Running plan world.started world.files) fun _ _ => True := by
    have reset : Action.Triple (fun world => Bare plan world.files)
        (Action.modify fun world : World => { world with started := [] } : Runs Unit)
        (fun _ world => Bare plan world.files) fun _ _ => True := fun _ bare => bare
    apply Action.Triple.bind reset
    intro _
    refine Action.Triple.recover (Action.Triple.weaken (Booked.startDaemons named orderly) (fun _ bare => bare) ?_
      fun _ _ _ => trivial) abandoned
    intro _ world ended
    obtain ⟨books, booked, complete⟩ := ended
    exact ⟨books, booked.ledger, complete, booked.known⟩
  rw [FrrRuntime.start, if_neg routed]
  intro world absent
  have looked : look (FrrRuntime.hasArtifacts · plan) world = (.ok false, world) := by simp [look, Action.inspect, absent]
  rw [Action.bind_of_ok looked]
  exact begun world (bare_of_hasArtifacts absent)

end Runs

end Nslab
