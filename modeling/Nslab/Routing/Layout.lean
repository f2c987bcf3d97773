import Nslab.Routing.Stop

/-! The states that the managed directories go through while a start makes them, and
what the daemons and the start itself leave of such a state. -/

namespace Nslab

open Filesystem

section Names

/-- What the names and markers of a compiled plan satisfy. -/
structure TopologyPlan.WellNamed (plan : TopologyPlan) : Prop where
  plain : ∀ node ∈ plan.routingNodes, node.name.toList.head? ≠ some '.'
  distinct : (plan.below.map Prod.fst).Nodup
  ascii : ∀ managed ∈ plan.managed, isAscii managed.2 = true

theorem isAscii_append {left right : String} (first : isAscii left = true) (second : isAscii right = true) :
    isAscii (left ++ right) = true := by
  rw [isAscii, String.toList_append, List.all_append, Bool.and_eq_true]
  exact ⟨first, second⟩

theorem isAscii_of_isName {name : String} (named : isName name = true) : isAscii name = true := by
  rw [isName] at named
  split at named
  next => cases named
  next first rest shape =>
    simp only [Bool.and_eq_true, List.all_eq_true, Bool.or_eq_true, decide_eq_true_eq] at named
    have lower : ∀ char : Char, isLower char = true → char.toNat < 128 := by
      intro char between
      simp only [isLower, decide_eq_true_eq] at between
      have bound : char.toNat ≤ 'z'.toNat := between.2
      have last : 'z'.toNat = 122 := rfl
      omega
    rw [isAscii, shape, List.all_cons, Bool.and_eq_true, decide_eq_true_eq, List.all_eq_true]
    refine ⟨lower first named.1.1, fun char member => ?_⟩
    rw [decide_eq_true_eq]
    obtain ((small | digit) | same) | same := named.2 char member
    · exact lower char small
    · have bound : char.toNat ≤ 57 := by
        simp only [Char.isDigit, Bool.and_eq_true, decide_eq_true_eq] at digit
        exact digit.2
      omega
    · subst same
      decide
    · subst same
      decide

theorem isAscii_hexdigest (bytes : List Nat) : isAscii (Digest.hexdigest bytes) = true := by
  have digits : ∀ digit < 16, (Nat.digitChar digit).toNat < 128 := by decide
  simp only [isAscii, Digest.hexdigest, String.toList_ofList, List.all_eq_true, List.mem_flatMap, List.mem_map, decide_eq_true_eq]
  intro char given
  obtain ⟨byte, _, digit, listed, same⟩ := given
  exact same ▸ digits digit (Text.toBase_lt (by decide) listed)

/-- Directories of different nodes are different. -/
theorem nodeDirectories_disjoint {plan : TopologyPlan} {left right : NodePlan} (differ : left.name ≠ right.name) :
    List.Disjoint ((plan.nodeDirectories left).map Prod.fst) ((plan.nodeDirectories right).map Prod.fst) := by
  intro path first second
  simp only [TopologyPlan.nodeDirectories, List.map_cons, List.map_nil, List.mem_cons, List.not_mem_nil, or_false] at first second
  obtain rfl | rfl | rfl := first <;>
    simp [nodeDir, deploymentDir, stateDir, vtyConfigDir, routingPathspace, differ] at second

theorem Manifest.Plans.distinct_below {manifest : Manifest} {plan : TopologyPlan} (plans : manifest.Plans plan) :
    (plan.below.map Prod.fst).Nodup := by
  have names : (plan.nodes.values.map (·.name)).Nodup := by
    have keys : plan.nodes.values.map (·.name) = plan.nodes.keys := by
      rw [Dict.values, Dict.keys, List.map_map]
      refine List.map_congr_left fun entry member => ?_
      exact (plans.name_of_found (Dict.get?_iff.mpr member)).1
    exact keys ▸ plan.nodes.keys_nodup
  rw [TopologyPlan.below, List.map_flatMap, List.nodup_flatMap]
  constructor
  · intro node _
    simp [TopologyPlan.nodeDirectories, nodeDir, deploymentDir, stateDir, vtyConfigDir]
  · have apart : (plan.routingNodes.map (·.name)).Nodup := (List.filter_sublist.map _).nodup names
    exact (List.pairwise_map.mp apart).imp nodeDirectories_disjoint

theorem Manifest.Plans.wellNamed {manifest : Manifest} {plan : TopologyPlan} (plans : manifest.Plans plan) : plan.WellNamed := by
  have named : ∀ node ∈ plan.routingNodes, isName node.name = true := by
    intro node member
    obtain ⟨name, found⟩ := Dict.mem_values_iff.mp (List.mem_filter.mp member).1
    obtain ⟨_, _, _, shape, named, _⟩ := plans.node found
    rw [shape]
    exact named
  constructor
  · intro node member dotted
    have shape := named node member
    rw [isName] at shape
    split at shape
    next => cases shape
    next first rest shaped =>
      rw [shaped, List.head?_cons, Option.some.injEq] at dotted
      subst dotted
      simp [isLower] at shape
  · exact plans.distinct_below
  · have fingerprint : isAscii plan.fingerprint = true := by
      rw [plans.fingerprint]
      exact isAscii_hexdigest _
    have name := isAscii_of_isName plans.name
    have line {text label value : String} (before : isAscii text = true) (field : isAscii label = true)
        (given : isAscii value = true) : isAscii (text ++ label ++ value) = true := isAscii_append (isAscii_append before field) given
    have newline : isAscii "\n" = true := by decide
    have nameField : isAscii "\nname=" = true := by decide
    have nodeField : isAscii "\nnode=" = true := by decide
    have fingerprintField : isAscii "\nfingerprint=" = true := by decide
    intro managed member
    cases List.mem_cons.mp member with
    | inl same =>
      subst same
      exact isAscii_append (line (line (by decide) nameField name) fingerprintField fingerprint) newline
    | inr below =>
      obtain ⟨node, routing, listed⟩ := List.mem_flatMap.mp below
      have own := isAscii_of_isName (named node routing)
      simp only [TopologyPlan.nodeDirectories, List.mem_cons, List.not_mem_nil, or_false] at listed
      obtain rfl | rfl | rfl := listed
      · exact isAscii_append (line (line (line (by decide) nameField name) nodeField own) fingerprintField fingerprint) newline
      · have pathspace : isAscii (routingPathspace plan node) = true :=
          isAscii_append (line (by decide) name (by decide)) own
        exact isAscii_append (line (line (line (line (by decide) nameField name) nodeField own) (by decide) pathspace)
          fingerprintField fingerprint) newline
      · exact isAscii_append (line (line (line (by decide) nameField name) nodeField own) fingerprintField fingerprint) newline

end Names

section Changes

/-- What a change leaves alone: everything but the roots and the names that are allowed in the directories of nodes. It leaves
neither symlinks nor directories there. -/
def Harmless (plan : TopologyPlan) (allowed : String → Prop) (before after : RuntimeFiles) : Prop :=
  ∀ path, after.get? path = before.get? path ∨ (∃ tree, path = .root tree) ∨
    (∃ managed ∈ plan.below, ∃ name, allowed name ∧ (managed.1.child name).within path = true) ∧
      ∀ entry ∈ after.get? path, entry.isPlain = true

variable {plan : TopologyPlan} {allowed : String → Prop} {before after : RuntimeFiles}

theorem Harmless.refl (files : RuntimeFiles) : Harmless plan allowed files files := fun _ => .inl rfl

theorem Harmless.trans {last : RuntimeFiles} (first : Harmless plan allowed before after) (next : Harmless plan allowed after last) :
    Harmless plan allowed before last := by
  intro path
  cases next path with
  | inr changed => exact .inr changed
  | inl same => exact same ▸ first path

theorem Harmless.mono {wider : String → Prop} (harmless : Harmless plan allowed before after)
    (implies : ∀ name, allowed name → wider name) : Harmless plan wider before after := by
  intro path
  obtain same | root | ⟨⟨managed, member, name, within, inside⟩, plain⟩ := harmless path
  · exact .inl same
  · exact .inr (.inl root)
  · exact .inr (.inr ⟨⟨managed, member, name, implies name within, inside⟩, plain⟩)

/-- Filling a place in the directory of a node. -/
theorem Harmless.place {managed : RuntimePath × String} {name : String} {path : RuntimePath} {entry : Entry RuntimeTree}
    (member : managed ∈ plan.below) (given : allowed name) (inside : (managed.1.child name).within path = true)
    (plain : entry.isPlain = true) : Harmless plan allowed before (before.place path entry) := by
  intro other
  rw [before.get?_place]
  split
  next same => exact .inr (.inr ⟨⟨managed, member, name, given, same.1 ▸ inside⟩, fun _ found => Option.some.inj found ▸ plain⟩)
  next => exact .inl rfl

/-- Removing an entry from the directory of a node. -/
theorem Harmless.remove {managed : RuntimePath × String} {name : String} {path : RuntimePath} (member : managed ∈ plan.below)
    (given : allowed name) (inside : (managed.1.child name).within path = true) :
    Harmless plan allowed before (before.remove path) := by
  intro other
  refine (before.get?_remove_other path other).imp id fun gone => .inr ?_
  exact ⟨⟨managed, member, name, given, Location.within_trans inside gone.2⟩, by simp [gone.1]⟩

theorem Harmless.mkdir {tree : RuntimeTree} (made : before.mkdir (.root tree) = .ok after) : Harmless plan allowed before after := by
  intro path
  refine ((mkdir_spec made).2 path).imp id fun added => .inl ?_
  cases path with
  | root other => exact ⟨other, rfl⟩
  | child directory name =>
    exfalso
    have inside := added.2.1
    simp [Location.within] at inside

/-- Names that are kept for markers and temporary files. -/
def dotted (name : String) : Prop := name.toList.head? = some '.'

instance : DecidablePred dotted := fun name => inferInstanceAs (Decidable (name.toList.head? = some '.'))

/-- The daemons of a plan write and remove files and sockets in the directories of its nodes, none with a name that starts with
a dot. -/
def Host.Tame (plan : TopologyPlan) (host : Host) : Prop :=
  ∀ clock, ∀ change ∈ host.daemons clock, (∃ managed ∈ plan.below, ∃ name, ¬ dotted name ∧
    (managed.1.child name).within change.1 = true) ∧ ∀ entry ∈ change.2, entry.isPlain = true

theorem Host.Tame.act {host : Host} (tame : host.Tame plan) (clock : Nat) (files : RuntimeFiles) :
    Harmless plan (¬ dotted ·) files (host.act clock files) := by
  have each := tame clock
  rw [Host.act]
  generalize host.daemons clock = changes at each ⊢
  induction changes generalizing files with
  | nil => exact Harmless.refl files
  | cons change changes ih =>
    refine Harmless.trans ?_ (ih _ fun other member => each other (List.mem_cons_of_mem _ member))
    obtain ⟨⟨managed, member, name, plain, inside⟩, entries⟩ := each change List.mem_cons_self
    obtain ⟨path, entry⟩ := change
    cases entry with
    | none => exact Harmless.remove member plain inside
    | some entry => exact Harmless.place member plain inside (entries entry rfl)

end Changes

section Untouched

variable {plan : TopologyPlan} {allowed : String → Prop} {before after : RuntimeFiles}

theorem below_not_root {managed : RuntimePath × String} (member : managed ∈ plan.below) (tree : RuntimeTree) : managed.1 ≠ .root tree := by
  obtain ⟨node, _, listed⟩ := List.mem_flatMap.mp member
  simp only [TopologyPlan.nodeDirectories, List.mem_cons, List.not_mem_nil, or_false] at listed
  obtain rfl | rfl | rfl := listed <;> simp [nodeDir, stateDir, vtyConfigDir]

/-- The directories of nodes do not enclose each other, nor what lies beside them. -/
theorem within_below {managed : RuntimePath × String} (member : managed ∈ plan.below) {name : String} :
    (∀ tree, (managed.1.child name).within (.root tree) = false) ∧ (managed.1.child name).within (deploymentDir plan) = false ∧
      (∀ other, (managed.1.child name).within (.child (deploymentDir plan) other) = false) ∧
      ∀ other ∈ plan.below, (managed.1.child name).within other.1 = false ∧
        ∀ own, (managed.1.child name).within (.child other.1 own) = true → other.1 = managed.1 ∧ own = name := by
  obtain ⟨node, _, listed⟩ := List.mem_flatMap.mp member
  simp only [TopologyPlan.nodeDirectories, List.mem_cons, List.not_mem_nil, or_false] at listed
  refine ⟨fun tree => by simp [Location.within], ?_, fun other => ?_, fun other inside => ?_⟩
  · obtain rfl | rfl | rfl := listed <;> simp [Location.within, nodeDir, deploymentDir, stateDir, vtyConfigDir]
  · obtain rfl | rfl | rfl := listed <;> simp [Location.within, nodeDir, deploymentDir, stateDir, vtyConfigDir]
  · obtain ⟨peer, _, found⟩ := List.mem_flatMap.mp inside
    simp only [TopologyPlan.nodeDirectories, List.mem_cons, List.not_mem_nil, or_false] at found
    obtain rfl | rfl | rfl := listed <;> obtain rfl | rfl | rfl := found <;>
      refine ⟨by simp [Location.within, nodeDir, deploymentDir, stateDir, vtyConfigDir], fun own same => ?_⟩ <;>
      simp [Location.within, nodeDir, deploymentDir, stateDir, vtyConfigDir] at same ⊢ <;>
      exact ⟨same.1.symm, same.2.symm⟩

namespace Harmless

theorem deployment (harmless : Harmless plan allowed before after) :
    after.get? (deploymentDir plan) = before.get? (deploymentDir plan) := by
  obtain same | ⟨tree, root⟩ | ⟨⟨managed, member, name, _, inside⟩, _⟩ := harmless (deploymentDir plan)
  · exact same
  · cases root
  · simp [(within_below member).2.1] at inside

theorem children (harmless : Harmless plan allowed before after) (name : String) :
    after.get? (.child (deploymentDir plan) name) = before.get? (.child (deploymentDir plan) name) := by
  obtain same | ⟨tree, root⟩ | ⟨⟨managed, member, name, _, inside⟩, _⟩ := harmless (.child (deploymentDir plan) name)
  · exact same
  · cases root
  · simp [(within_below member).2.2.1] at inside

theorem directory (harmless : Harmless plan allowed before after) {managed : RuntimePath × String} (member : managed ∈ plan.below) :
    after.get? managed.1 = before.get? managed.1 := by
  obtain same | ⟨tree, root⟩ | ⟨⟨other, listed, name, _, inside⟩, _⟩ := harmless managed.1
  · exact same
  · exact absurd root (below_not_root member tree)
  · simp [((within_below listed).2.2.2 managed member).1] at inside

/-- A name that is not allowed stands for what it stood for. -/
theorem name (harmless : Harmless plan allowed before after) {managed : RuntimePath × String} (member : managed ∈ plan.below)
    {name : String} (other : ¬ allowed name) : after.get? (.child managed.1 name) = before.get? (.child managed.1 name) := by
  obtain same | ⟨tree, root⟩ | ⟨⟨owner, listed, given, permitted, inside⟩, _⟩ := harmless (.child managed.1 name)
  · exact same
  · cases root
  · obtain ⟨_, rfl⟩ := ((within_below listed).2.2.2 managed member).2 _ inside
    exact absurd permitted other

end Harmless

end Untouched

section States

variable {runtime : FrrRuntime} {plan : TopologyPlan} {allowed : String → Prop} {before after files : RuntimeFiles}

/-- Every managed directory that exists carries its marker, and nothing foreign lies among them. -/
structure Sound (plan : TopologyPlan) (files : RuntimeFiles) : Prop where
  runtime : files.get? (deploymentDir plan) = none ∨ MarkedRuntime files plan
  settled : ∀ managed ∈ plan.below, Settled files managed.1 managed.2
  plain : ∀ node ∈ plan.routingNodes, ∀ name ∈ files.iterdir (nodeDir plan node),
    files.isSymlink (.child (nodeDir plan node) name) = false

theorem mem_below {node : NodePlan} (routing : node ∈ plan.routingNodes) :
    ∀ managed ∈ plan.nodeDirectories node, managed ∈ plan.below := fun _ listed => List.mem_flatMap.mpr ⟨node, routing, listed⟩

theorem sound_iff : runtime.validateArtifacts files plan = .ok false ↔ Sound plan files := by
  rw [validateArtifacts_ok, validateRuntimeArtifacts_ok]
  constructor
  · intro given
    obtain ⟨deployment, nodes⟩ := given
    refine ⟨?_, ?_, fun node routing => (nodes node routing).plain⟩
    · obtain absent | marked | older := deployment
      · exact .inl absent.2
      · exact .inr marked.2
      · cases older.1
    · intro managed member
      obtain ⟨node, routing, listed⟩ := List.mem_flatMap.mp member
      have settled := nodes node routing
      simp only [TopologyPlan.nodeDirectories, List.mem_cons, List.not_mem_nil, or_false] at listed
      obtain rfl | rfl | rfl := listed
      · exact settled.current rfl
      · exact settled.state
      · exact settled.config
  · intro sound
    refine ⟨sound.runtime.imp (fun absent => ⟨rfl, absent⟩) fun marked => .inl ⟨rfl, marked⟩, fun node routing => ?_⟩
    have listed := mem_below routing
    simp only [TopologyPlan.nodeDirectories, List.mem_cons, List.not_mem_nil, or_false, forall_eq_or_imp, forall_eq] at listed
    exact ⟨fun older => (by cases older), fun _ => sound.settled _ listed.1, sound.plain node routing, sound.settled _ listed.2.1,
      sound.settled _ listed.2.2⟩

/-- A state of the directories of the nodes below a marked deployment directory: one may be open, without its marker yet, and
some are still to be made. -/
structure Layout (plan : TopologyPlan) (opened : Option (RuntimePath × String)) (pending : List (RuntimePath × String))
    (files : RuntimeFiles) : Prop where
  listed : ∀ managed, managed ∈ opened ∨ managed ∈ pending → managed ∈ plan.below
  runtime : MarkedRuntime files plan
  settled : ∀ managed ∈ plan.below, managed ∉ opened → Settled files managed.1 managed.2
  plain : ∀ managed ∈ plan.below, ∀ name, ∀ entry ∈ files.get? (.child managed.1 name), entry.isPlain = true
  pending : ∀ managed ∈ pending, files.get? managed.1 = none
  opened : ∀ managed ∈ opened, files.get? managed.1 = some .directory ∧ files.get? (markerPath managed.1) = none

theorem Layout.sound {pending : List (RuntimePath × String)} (layout : Layout plan none pending files) : Sound plan files := by
  refine ⟨.inr layout.runtime, fun managed member => layout.settled managed member (Option.not_mem_none managed), ?_⟩
  intro node routing name member
  obtain ⟨entry, found⟩ := mem_iterdir.mp member
  have plain := layout.plain _ (mem_below routing _ List.mem_cons_self) name entry found
  simp only [Entry.isPlain, Bool.and_eq_true, Bool.not_eq_true'] at plain
  simp [isSymlink, found, plain.2]

/-- The validators refuse a directory without a marker. -/
theorem Layout.refused {managed : RuntimePath × String} {pending : List (RuntimePath × String)}
    (layout : Layout plan (some managed) pending files) : ∃ issue, runtime.validateArtifacts files plan = .error issue := by
  cases validated : runtime.validateArtifacts files plan with
  | error issue => exact ⟨issue, rfl⟩
  | ok legacy =>
    exfalso
    obtain ⟨deployment, nodes⟩ := validateArtifacts_ok.mp validated
    obtain ⟨directory, unmarked⟩ := layout.opened managed rfl
    cases legacy with
    | true =>
      obtain absent | marked | older := validateRuntimeArtifacts_ok.mp deployment
      · cases absent.1
      · cases marked.1
      · simpa [layout.runtime.marked.marker] using older.2.2.unmarked
    | false =>
      have sound := sound_iff.mp validated
      cases sound.settled managed (layout.listed managed (.inl rfl)) with
      | inl absent => simp [directory] at absent
      | inr marked => simp [marked.1.marker] at unmarked

theorem MarkedRuntime.harmless (marked : MarkedRuntime before plan) (harmless : Harmless plan allowed before after) :
    MarkedRuntime after plan := by
  refine ⟨⟨harmless.deployment.trans marked.marked.directory, (harmless.children markerFile).trans marked.marked.marker⟩,
    marked.ascii, fun name member other => ?_⟩
  obtain ⟨entry, found⟩ := mem_iterdir.mp member
  rw [harmless.children] at found
  rw [harmless.children]
  exact marked.nodes name (mem_iterdir.mpr ⟨entry, found⟩) other

theorem Settled.harmless {managed : RuntimePath × String} (settled : Settled before managed.1 managed.2)
    (member : managed ∈ plan.below) (harmless : Harmless plan allowed before after) (spares : ¬ allowed markerFile) :
    Settled after managed.1 managed.2 := by
  refine settled.imp (fun absent => (harmless.directory member).trans absent) fun marked => ⟨⟨?_, ?_⟩, marked.2⟩
  · exact (harmless.directory member).trans marked.1.directory
  · exact (harmless.name member spares).trans marked.1.marker

theorem Harmless.plain (harmless : Harmless plan allowed before after) {directory : RuntimePath} {name : String}
    (plain : ∀ entry ∈ before.get? (.child directory name), entry.isPlain = true) :
    ∀ entry ∈ after.get? (.child directory name), entry.isPlain = true := by
  obtain same | ⟨tree, root⟩ | changed := harmless (.child directory name)
  · exact same ▸ plain
  · cases root
  · exact changed.2

theorem Sound.harmless (sound : Sound plan before) (harmless : Harmless plan allowed before after) (spares : ¬ allowed markerFile) :
    Sound plan after where
  runtime := sound.runtime.imp harmless.deployment.trans fun marked => marked.harmless harmless
  settled managed member := (sound.settled managed member).harmless member harmless spares
  plain node routing name member := by
    obtain ⟨entry, found⟩ := mem_iterdir.mp member
    obtain same | ⟨tree, root⟩ | changed := harmless (.child (nodeDir plan node) name)
    · rw [same] at found
      rw [isSymlink, same]
      exact sound.plain node routing name (mem_iterdir.mpr ⟨entry, found⟩)
    · cases root
    · have plain := changed.2 entry found
      simp only [Entry.isPlain, Bool.and_eq_true, Bool.not_eq_true'] at plain
      simp [isSymlink, found, plain.2]

theorem Layout.harmless {opened : Option (RuntimePath × String)} {pending : List (RuntimePath × String)}
    (layout : Layout plan opened pending before) (harmless : Harmless plan allowed before after) (spares : ¬ allowed markerFile) :
    Layout plan opened pending after where
  listed := layout.listed
  runtime := layout.runtime.harmless harmless
  settled managed member other := (layout.settled managed member other).harmless member harmless spares
  plain managed member name := harmless.plain (layout.plain managed member name)
  pending managed member := (harmless.directory (layout.listed managed (.inr member))).trans (layout.pending managed member)
  opened managed member := by
    obtain ⟨directory, unmarked⟩ := layout.opened managed member
    have below := layout.listed managed (.inl member)
    exact ⟨(harmless.directory below).trans directory, (harmless.name below spares).trans unmarked⟩

/-- The deployment directory has been made and has no marker yet, only a temporary file perhaps. -/
structure Begun (plan : TopologyPlan) (temporary : Option (String × String)) (files : RuntimeFiles) : Prop where
  named : ∀ entry ∈ temporary, dotted entry.1 ∧ entry.1 ≠ markerFile
  opened : files.get? (deploymentDir plan) = some .directory
  children : ∀ name, files.get? (.child (deploymentDir plan) name) =
    temporary.bind fun entry => if entry.1 = name then some (.file (.ok entry.2)) else none
  below : ∀ managed ∈ plan.below, files.get? managed.1 = none

theorem Begun.unmarked {temporary : Option (String × String)} (begun : Begun plan temporary files) :
    files.get? (markerPath (deploymentDir plan)) = none := by
  rw [markerPath, begun.children]
  cases temporary with
  | none => rfl
  | some entry => exact if_neg (begun.named entry rfl).2

theorem Begun.refused {temporary : Option (String × String)} (begun : Begun plan temporary files) (named : plan.WellNamed) :
    ∃ issue, runtime.validateArtifacts files plan = .error issue := by
  cases validated : runtime.validateArtifacts files plan with
  | error issue => exact ⟨issue, rfl⟩
  | ok legacy =>
    exfalso
    obtain absent | marked | older := validateRuntimeArtifacts_ok.mp (validateArtifacts_ok.mp validated).1
    · simp [begun.opened] at absent
    · simpa [begun.unmarked] using marked.2.marked.marker
    · obtain ⟨name, member⟩ := List.exists_mem_of_ne_nil _ older.2.2.filled
      obtain ⟨expected, _⟩ := older.2.2.nodes name member
      obtain ⟨node, routing, same⟩ := List.mem_map.mp expected
      obtain ⟨entry, found⟩ := mem_iterdir.mp member
      rw [begun.children] at found
      obtain ⟨stored, given, shape⟩ := Option.bind_eq_some_iff.mp found
      split at shape
      next equal =>
        apply named.plain node routing
        rw [same, ← equal]
        exact (begun.named stored given).1
      next => cases shape

theorem Begun.harmless {temporary : Option (String × String)} (begun : Begun plan temporary before)
    (harmless : Harmless plan allowed before after) : Begun plan temporary after where
  named := begun.named
  opened := harmless.deployment.trans begun.opened
  children name := (harmless.children name).trans (begun.children name)
  below managed member := (harmless.directory member).trans (begun.below managed member)

end States

section Transitions

variable {plan : TopologyPlan} {files after : RuntimeFiles} {managed : RuntimePath × String} {pending : List (RuntimePath × String)}

/-- What lies above the directory of a node is a root or the deployment directory. -/
theorem within_above {path : RuntimePath} (member : managed ∈ plan.below) (above : path.within managed.1 = true) :
    path = managed.1 ∨ path = deploymentDir plan ∨ ∃ tree, path = .root tree := by
  obtain ⟨node, _, listed⟩ := List.mem_flatMap.mp member
  simp only [TopologyPlan.nodeDirectories, List.mem_cons, List.not_mem_nil, or_false] at listed
  obtain rfl | rfl | rfl := listed <;>
    simp only [nodeDir, deploymentDir, stateDir, vtyConfigDir, Location.within, Bool.or_eq_true, decide_eq_true_eq] at above ⊢
  · obtain same | same | same := above
    · exact .inl same
    · exact .inr (.inl same)
    · exact .inr (.inr ⟨_, same⟩)
  · exact above.imp id fun same => .inr ⟨_, same⟩
  · exact above.imp id fun same => .inr ⟨_, same⟩

/-- Making the directory of a node changes nothing else below the deployment directory. -/
theorem mkdir_below (member : managed ∈ plan.below) (present : files.get? (deploymentDir plan) = some .directory)
    (made : files.mkdir managed.1 = .ok after) {path : RuntimePath} (other : path ≠ managed.1)
    (deep : ∀ tree, path ≠ .root tree) : after.get? path = files.get? path := by
  cases (mkdir_spec made).2 path with
  | inl same => exact same
  | inr above =>
    obtain ⟨absent, inside, _⟩ := above
    obtain same | same | ⟨tree, same⟩ := within_above member inside
    · exact absurd same other
    · simp [same, present] at absent
    · exact absurd same (deep tree)

/-- Managed directories are told apart by their paths. -/
theorem TopologyPlan.WellNamed.eq_of_path (named : plan.WellNamed) {other : RuntimePath × String} (member : managed ∈ plan.below)
    (listed : other ∈ plan.below) (same : other.1 = managed.1) : other = managed :=
  List.inj_on_of_nodup_map named.distinct listed member same

/-- The next directory is made, and is open. -/
theorem Layout.enter (layout : Layout plan none (managed :: pending) files) (named : plan.WellNamed)
    (made : files.mkdir managed.1 = .ok after) (distinct : managed.1 ∉ pending.map Prod.fst) :
    Layout plan (some managed) pending after := by
  have member : managed ∈ plan.below := layout.listed managed (.inr List.mem_cons_self)
  have absent := layout.pending managed List.mem_cons_self
  have present := layout.runtime.marked.directory
  have directory := (mkdir_spec made).1
  have kept {path : RuntimePath} {entry : Entry RuntimeTree} (found : files.get? path = some entry) :
      after.get? path = some entry := by
    cases (mkdir_spec made).2 path with
    | inl same => exact same.trans found
    | inr added => simp [added.1] at found
  have rest {path : RuntimePath} (other : path ≠ managed.1) (deep : ∀ tree, path ≠ .root tree) :=
    mkdir_below member present made other deep
  constructor
  · intro other listed
    cases listed with
    | inl same =>
      obtain rfl := Option.some.inj same
      exact member
    | inr inside => exact layout.listed other (.inr (List.mem_cons_of_mem _ inside))
  · refine ⟨⟨kept present, kept layout.runtime.marked.marker⟩, layout.runtime.ascii, fun name inside other => ?_⟩
    obtain ⟨entry, found⟩ := mem_iterdir.mp inside
    by_cases own : Location.child (deploymentDir plan) name = managed.1
    · refine ⟨?_, own ▸ directory⟩
      obtain ⟨node, routing, listed⟩ := List.mem_flatMap.mp member
      simp only [TopologyPlan.nodeDirectories, List.mem_cons, List.not_mem_nil, or_false] at listed
      obtain rfl | rfl | rfl := listed
      · obtain rfl : name = node.name := by simpa [nodeDir] using own
        exact List.mem_map_of_mem routing
      · simp [deploymentDir, stateDir] at own
      · simp [deploymentDir, vtyConfigDir] at own
    · rw [rest own (by simp)] at found ⊢
      exact layout.runtime.nodes name (mem_iterdir.mpr ⟨entry, found⟩) other
  · intro other inside unopened
    cases layout.settled other inside (Option.not_mem_none other) with
    | inr marked => exact .inr ⟨⟨kept marked.1.directory, kept marked.1.marker⟩, marked.2⟩
    | inl gone =>
      refine .inl ((rest ?_ ?_).trans gone)
      · intro same
        exact unopened (named.eq_of_path member inside same ▸ rfl)
      · exact below_not_root inside
  · intro other inside name
    have own : Location.child other.1 name ≠ managed.1 := by
      intro same
      have outside := (@within_below plan _ inside name).2.2.2 managed member
      rw [← same] at outside
      simp at outside
    rw [rest own (by simp)]
    exact layout.plain other inside name
  · intro other inside
    refine (rest ?_ ?_).trans (layout.pending other (List.mem_cons_of_mem _ inside))
    · intro same
      exact distinct (same ▸ List.mem_map_of_mem inside)
    · exact below_not_root (layout.listed other (.inr (List.mem_cons_of_mem _ inside)))
  · intro other same
    obtain rfl := Option.some.inj same
    refine ⟨directory, ?_⟩
    rw [markerPath, rest (Location.child_ne _ _) (by simp), ← markerPath]
    cases found : files.get? (markerPath managed.1) with
    | none => rfl
    | some entry => simp [files.rooted_get? found] at absent

/-- Putting the marker of the open directory in its place. -/
theorem Layout.close (layout : Layout plan (some managed) pending files) (named : plan.WellNamed) :
    Layout plan none pending (files.place (markerPath managed.1) (.file (.ok managed.2))) := by
  obtain ⟨directory, unmarked⟩ := layout.opened managed rfl
  have member := layout.listed managed (.inl rfl)
  have admits : files.Admits (markerPath managed.1) := by
    refine ⟨fun above same => ?_, by simp [unmarked]⟩
    obtain rfl := Option.some.inj same
    exact directory
  have harmless : Harmless plan (fun _ => True) files (files.place (markerPath managed.1) (.file (.ok managed.2))) :=
    Harmless.place member trivial (Location.within_refl _) rfl
  constructor
  · intro other listed
    exact layout.listed other (listed.imp (fun same => by cases same) id)
  · exact layout.runtime.harmless harmless
  · intro other inside _
    by_cases same : other = managed
    · subst same
      refine .inr ⟨⟨(harmless.directory member).trans directory, ?_⟩, named.ascii other (List.mem_cons_of_mem _ member)⟩
      rw [get?_place, if_pos ⟨rfl, admits⟩]
    · have apart : markerPath other.1 ≠ markerPath managed.1 := by
        intro equal
        exact same (named.eq_of_path member inside (Location.child.inj equal).1)
      refine (layout.settled other inside fun opened => same (Option.some.inj opened).symm).imp
        (harmless.directory inside).trans fun marked => ⟨⟨?_, ?_⟩, marked.2⟩
      · exact (harmless.directory inside).trans marked.1.directory
      · rw [get?_place, if_neg fun equal => apart equal.1]
        exact marked.1.marker
  · intro other inside name
    exact harmless.plain (layout.plain other inside name)
  · intro other inside
    exact (harmless.directory (layout.listed other (.inr inside))).trans (layout.pending other inside)
  · intro other opened
    cases opened

/-- The deployment directory is made while nothing of the plan is there. -/
theorem Begun.enter (made : files.mkdir (deploymentDir plan) = .ok after) (absent : files.get? (deploymentDir plan) = none)
    (below : ∀ managed ∈ plan.below, files.get? managed.1 = none) : Begun plan none after := by
  obtain ⟨directory, others⟩ := mkdir_spec made
  have beside {path : RuntimePath} (outside : path.within (deploymentDir plan) = false) : after.get? path = files.get? path := by
    refine (others path).elim id fun added => ?_
    rw [outside] at added
    cases added.2.1
  refine ⟨fun _ given => (by cases given), directory, fun name => ?_, fun managed member => ?_⟩
  · rw [beside (Location.not_within_above _ _), Option.bind_none]
    cases found : files.get? (.child (deploymentDir plan) name) with
    | none => rfl
    | some entry => simp [files.rooted_get? found] at absent
  · refine (beside ?_).trans (below managed member)
    obtain ⟨node, _, listed⟩ := List.mem_flatMap.mp member
    simp only [TopologyPlan.nodeDirectories, List.mem_cons, List.not_mem_nil, or_false] at listed
    obtain rfl | rfl | rfl := listed
    · exact Location.not_within_above _ _
    · simp [deploymentDir, stateDir, Location.within]
    · simp [deploymentDir, vtyConfigDir, Location.within]

/-- No directory of a node has a name that starts with a dot. -/
theorem TopologyPlan.WellNamed.not_dotted (named : plan.WellNamed) (member : managed ∈ plan.below) {name : String}
    (dot : dotted name) : managed.1 ≠ .child (deploymentDir plan) name := by
  obtain ⟨node, routing, listed⟩ := List.mem_flatMap.mp member
  simp only [TopologyPlan.nodeDirectories, List.mem_cons, List.not_mem_nil, or_false] at listed
  intro same
  obtain rfl | rfl | rfl := listed
  · obtain rfl : node.name = name := by simpa [nodeDir] using same
    exact named.plain node routing dot
  · simp [deploymentDir, stateDir] at same
  · simp [deploymentDir, vtyConfigDir] at same

/-- A temporary file is made or filled in the deployment directory. -/
theorem Begun.place {name text : String} {other : Option (String × String)} (begun : Begun plan other files)
    (named : plan.WellNamed) (own : ∀ entry ∈ other, entry.1 = name) (dot : dotted name) (free : name ≠ markerFile) :
    Begun plan (some (name, text)) (files.place (.child (deploymentDir plan) name) (.file (.ok text))) := by
  have admits : files.Admits (.child (deploymentDir plan) name) := by
    refine ⟨fun above same => ?_, ?_⟩
    · obtain rfl := Option.some.inj same
      exact begun.opened
    · rw [begun.children]
      intro found
      obtain ⟨entry, _, shape⟩ := Option.bind_eq_some_iff.mp found
      split at shape <;> cases shape
  constructor
  · intro entry same
    obtain rfl := Option.some.inj same
    exact ⟨dot, free⟩
  · rw [get?_place, if_neg fun same => Location.child_ne _ _ same.1.symm]
    exact begun.opened
  · intro next
    rw [get?_place, begun.children, Option.bind_some]
    by_cases same : next = name
    · subst same
      rw [if_pos ⟨rfl, admits⟩, if_pos rfl]
    · rw [if_neg (by simp [same]), if_neg (Ne.symm same), Option.bind_eq_none_iff]
      intro entry given
      exact if_neg (own entry given ▸ Ne.symm same)
  · intro managed member
    rw [get?_place, if_neg fun same => named.not_dotted member dot same.1]
    exact begun.below managed member

/-- The temporary file in the deployment directory is removed. -/
theorem Begun.remove {entry : String × String} (begun : Begun plan (some entry) files) :
    Begun plan none (files.remove (.child (deploymentDir plan) entry.1)) := by
  have own : files.get? (.child (deploymentDir plan) entry.1) = some (.file (.ok entry.2)) := by simp [begun.children]
  have rest := @get?_remove _ _ files (.child (deploymentDir plan) entry.1) (by simp [own])
  constructor
  · intro other given
    cases given
  · rw [rest, if_neg (Ne.symm (Location.child_ne _ _))]
    exact begun.opened
  · intro name
    rw [rest, begun.children]
    by_cases same : entry.1 = name <;> simp [same, eq_comm]
  · intro managed member
    rw [rest]
    split
    next => rfl
    next => exact begun.below managed member

/-- Putting the marker of the deployment directory in its place. -/
theorem Begun.close {name : String} (begun : Begun plan (some (name, runtimeMarker plan)) files) (named : plan.WellNamed) :
    Layout plan none plan.below ((files.place (markerPath (deploymentDir plan)) (.file (.ok (runtimeMarker plan)))).remove
      (.child (deploymentDir plan) name)) := by
  obtain ⟨dot, free⟩ := begun.named _ rfl
  have admits : files.Admits (markerPath (deploymentDir plan)) := by
    refine ⟨fun above same => ?_, by simp [begun.unmarked]⟩
    obtain rfl := Option.some.inj same
    exact begun.opened
  have own : (files.place (markerPath (deploymentDir plan)) (.file (.ok (runtimeMarker plan)))).get?
      (.child (deploymentDir plan) name) = some (.file (.ok (runtimeMarker plan))) := by
    rw [get?_place, if_neg (by simp [markerPath, free]), begun.children]
    simp
  have rest := @get?_remove _ _ (files.place (markerPath (deploymentDir plan)) (.file (.ok (runtimeMarker plan))))
    (.child (deploymentDir plan) name) (by rw [own]; simp)
  have marker : dotted markerFile := by decide
  have below : ∀ managed ∈ plan.below, ((files.place (markerPath (deploymentDir plan)) (.file (.ok (runtimeMarker plan)))).remove
      (.child (deploymentDir plan) name)).get? managed.1 = none := by
    intro managed member
    rw [rest, if_neg (named.not_dotted member dot), get?_place, if_neg fun same => named.not_dotted member marker same.1]
    exact begun.below managed member
  constructor
  · intro managed listed
    exact listed.elim (fun same => by cases same) id
  · refine ⟨⟨?_, ?_⟩, named.ascii (deploymentDir plan, runtimeMarker plan) List.mem_cons_self, fun other member free => ?_⟩
    · rw [rest, if_neg (Ne.symm (Location.child_ne _ _)), get?_place, if_neg fun same => Location.child_ne _ _ same.1.symm]
      exact begun.opened
    · rw [rest, if_neg (by simp [markerPath, Ne.symm free]), get?_place, if_pos ⟨rfl, admits⟩]
    · obtain ⟨entry, found⟩ := mem_iterdir.mp member
      rw [rest] at found
      split at found
      next => cases found
      next differ =>
        rw [get?_place, if_neg (by simp [markerPath, free]), begun.children, Option.bind_some] at found
        split at found
        next same => simp [← same] at differ
        next => cases found
  · intro managed member _
    exact .inl (below managed member)
  · intro managed member other entry found
    have absent := below managed member
    rw [rooted_get? _ found] at absent
    cases absent
  · exact below
  · intro managed opened
    cases opened

end Transitions

end Nslab
