import Nslab.Routing.Runtime

/-! What the validators of the runtime establish: every directory that exists
carries its marker, or is a legacy one. -/

namespace Nslab

open Filesystem

/-- A directory whose marker is a regular file with exactly this text. -/
structure Marked (files : RuntimeFiles) (path : RuntimePath) (marker : String) : Prop where
  directory : files.get? path = some .directory
  marker : files.get? (markerPath path) = some (.file (.ok marker))

/-- The deployment directory as runtimes without markers left it. -/
structure LegacyRuntime (files : RuntimeFiles) (plan : TopologyPlan) : Prop where
  unmarked : files.get? (markerPath (deploymentDir plan)) = none
  filled : files.iterdir (deploymentDir plan) ≠ []
  nodes : ∀ name ∈ files.iterdir (deploymentDir plan), name ∈ plan.routingNodes.map (·.name) ∧
    FrrRuntime.legacyRuntimeNodeSafe files (.child (deploymentDir plan) name) = true

/-- The directories that pass for those of an older runtime. -/
def LegacySafe (files : RuntimeFiles) (plan : TopologyPlan) (path : RuntimePath) : Prop :=
  path = deploymentDir plan ∧ LegacyRuntime files plan ∨
    ∃ node ∈ plan.routingNodes, path = nodeDir plan node ∧ FrrRuntime.legacyRuntimeNodeSafe files path = true

section Validated

variable {runtime : FrrRuntime} {files : RuntimeFiles} {plan : TopologyPlan}

theorem readMatchingMarker_ok {directory : RuntimePath} {expected : String} {found : Bool} :
    runtime.readMatchingMarker files directory expected = .ok found ↔
      found = true ∧ files.get? (markerPath directory) = some (.file (.ok expected)) ∧ isAscii expected = true := by
  simp only [FrrRuntime.readMatchingMarker, Checks.bind_ok, Checks.raiseIf_ok, Checks.exists_unit, Bool.not_eq_true]
  constructor
  · intro given
    obtain ⟨plain, rest⟩ := given
    split at rest
    next =>
      simp only [Checks.bind_ok, Checks.raiseIf_ok, Checks.exists_unit] at rest
      obtain ⟨_, rest⟩ := rest
      split at rest
      next => cases rest
      next current read =>
        simp only [Checks.bind_ok, Checks.raiseIf_ok, Checks.exists_unit, not_not, Except.ok.injEq] at rest
        obtain ⟨rfl, rfl⟩ := rest
        exact ⟨rfl, (readAscii_ok plain).mp read⟩
    next =>
      simp only [Checks.bind_ok, Checks.raiseIf_ok, Checks.exists_unit, not_true_eq_false, false_and] at rest
  · intro given
    obtain ⟨same, stored, ascii⟩ := given
    have plain : files.isSymlink (markerPath directory) = false := by simp [isSymlink, stored, Entry.isSymlink]
    refine ⟨plain, ?_⟩
    rw [if_pos (lexists_iff.mpr ⟨_, stored⟩), same]
    simp only [Checks.bind_ok, Checks.raiseIf_ok, Checks.exists_unit, Bool.not_eq_false, (isFile_of_plain plain).mpr ⟨_, stored⟩,
      (readAscii_ok plain).mpr ⟨stored, ascii⟩, ne_eq, not_true_eq_false, not_false_eq_true, true_and]

theorem validateManagedDirectory_ok {path : RuntimePath} {marker : String} {found : Bool} :
    runtime.validateManagedDirectory files path marker = .ok found ↔
      found = false ∧ files.get? path = none ∨ found = true ∧ Marked files path marker ∧ isAscii marker = true := by
  rw [FrrRuntime.validateManagedDirectory]
  split
  next listed =>
    obtain ⟨entry, stored⟩ := lexists_iff.mp listed
    simp only [Checks.bind_ok, Checks.raiseIf_ok, Checks.exists_unit, Bool.not_eq_true, Bool.not_eq_false, readMatchingMarker_ok,
      Except.ok.injEq]
    constructor
    · intro given
      obtain ⟨plain, directory, _, ⟨_, read, ascii⟩, same⟩ := given
      exact .inr ⟨same.symm, ⟨(isDir_of_plain plain).mp directory, read⟩, ascii⟩
    · intro owned
      cases owned with
      | inl absent => simp [stored] at absent
      | inr marked =>
        obtain ⟨same, ⟨directory, read⟩, ascii⟩ := marked
        have plain : files.isSymlink path = false := by simp [isSymlink, directory, Entry.isSymlink]
        exact ⟨plain, (isDir_of_plain plain).mpr directory, true, ⟨rfl, read, ascii⟩, same.symm⟩
  next absent =>
    rw [Bool.not_eq_true, lexists_eq_false] at absent
    constructor
    · intro same
      exact .inl ⟨(Except.ok.inj same).symm, absent⟩
    · intro owned
      cases owned with
      | inl absent => rw [absent.1]
      | inr marked => simp [marked.2.1.directory] at absent

/-- A deployment directory that carries its marker, with nothing but directories of routing nodes. -/
structure MarkedRuntime (files : RuntimeFiles) (plan : TopologyPlan) : Prop where
  marked : Marked files (deploymentDir plan) (runtimeMarker plan)
  ascii : isAscii (runtimeMarker plan) = true
  nodes : ∀ name ∈ files.iterdir (deploymentDir plan), name ≠ markerFile →
    name ∈ plan.routingNodes.map (·.name) ∧ files.get? (.child (deploymentDir plan) name) = some .directory

theorem validateRuntimeArtifacts_ok {legacy : Bool} :
    runtime.validateRuntimeArtifacts files plan = .ok legacy ↔
      legacy = false ∧ files.get? (deploymentDir plan) = none ∨ legacy = false ∧ MarkedRuntime files plan ∨
        legacy = true ∧ files.get? (deploymentDir plan) = some .directory ∧ LegacyRuntime files plan := by
  simp only [FrrRuntime.validateRuntimeArtifacts]
  split
  next listed =>
    obtain ⟨entry, stored⟩ := lexists_iff.mp listed
    simp only [Checks.bind_ok, Checks.raiseIf_ok, Checks.exists_unit, Bool.not_eq_true, Bool.not_eq_false]
    constructor
    · intro given
      obtain ⟨plain, directory, unlinked, rest⟩ := given
      have directory := (isDir_of_plain plain).mp directory
      split at rest
      next =>
        simp only [Checks.bind_ok, Checks.each_ok, Checks.raiseIf_ok, Checks.exists_unit, readMatchingMarker_ok, List.mem_filter,
          decide_eq_true_eq, not_not, Bool.not_eq_true, Bool.not_eq_false, Except.ok.injEq] at rest
        obtain ⟨_, ⟨_, read, ascii⟩, nodes, same⟩ := rest
        refine .inr (.inl ⟨same.symm, ⟨directory, read⟩, ascii, ?_⟩)
        intro name member other
        obtain ⟨expected, plain, below⟩ := nodes name ⟨member, other⟩
        exact ⟨expected, (isDir_of_plain plain).mp below⟩
      next unmarked =>
        rw [Bool.not_eq_true, lexists_eq_false] at unmarked
        simp only [Checks.bind_ok, Checks.raiseIf_ok, Checks.exists_unit, not_or, not_exists, not_and, not_not, Bool.not_eq_false,
          Except.ok.injEq] at rest
        obtain ⟨⟨filled, expected, safe⟩, same⟩ := rest
        exact .inr (.inr ⟨same.symm, directory, unmarked, filled, fun name member => ⟨expected name member, safe name member⟩⟩)
    · intro owned
      obtain absent | ⟨same, marked⟩ | ⟨same, directory, legacy⟩ := owned
      · simp [stored] at absent
      · obtain ⟨⟨directory, read⟩, ascii, nodes⟩ := marked
        have plain : files.isSymlink (deploymentDir plan) = false := by simp [isSymlink, directory, Entry.isSymlink]
        have unlinked : files.isSymlink (markerPath (deploymentDir plan)) = false := by simp [isSymlink, read, Entry.isSymlink]
        refine ⟨plain, (isDir_of_plain plain).mpr directory, unlinked, ?_⟩
        rw [if_pos (lexists_iff.mpr ⟨_, read⟩), same]
        simp only [Checks.bind_ok, Checks.each_ok, Checks.raiseIf_ok, Checks.exists_unit, readMatchingMarker_ok, List.mem_filter,
          decide_eq_true_eq, not_not, Bool.not_eq_true, Bool.not_eq_false, and_true]
        refine ⟨true, ⟨rfl, read, ascii⟩, ?_⟩
        intro name given
        obtain ⟨member, other⟩ := given
        obtain ⟨expected, below⟩ := nodes name member other
        have plain : files.isSymlink (.child (deploymentDir plan) name) = false := by simp [isSymlink, below, Entry.isSymlink]
        exact ⟨expected, plain, (isDir_of_plain plain).mpr below⟩
      · have plain : files.isSymlink (deploymentDir plan) = false := by simp [isSymlink, directory, Entry.isSymlink]
        have unlinked : files.isSymlink (markerPath (deploymentDir plan)) = false := by simp [isSymlink, legacy.unmarked]
        refine ⟨plain, (isDir_of_plain plain).mpr directory, unlinked, ?_⟩
        rw [if_neg (by simp [lexists, legacy.unmarked]), same]
        simp only [Checks.bind_ok, Checks.raiseIf_ok, Checks.exists_unit, not_or, not_exists, not_and, not_not, Bool.not_eq_false,
          and_true]
        exact ⟨legacy.filled, fun name member => (legacy.nodes name member).1, fun name member => (legacy.nodes name member).2⟩
  next absent =>
    rw [Bool.not_eq_true, lexists_eq_false] at absent
    constructor
    · intro same
      exact .inl ⟨(Except.ok.inj same).symm, absent⟩
    · intro owned
      obtain absent | ⟨_, marked⟩ | ⟨_, directory, _⟩ := owned
      · rw [absent.1]
      · simp [marked.marked.directory] at absent
      · simp [directory] at absent

/-- A managed directory is absent or carries its marker. -/
def Settled (files : RuntimeFiles) (path : RuntimePath) (marker : String) : Prop :=
  files.get? path = none ∨ Marked files path marker ∧ isAscii marker = true

theorem exists_validateManagedDirectory {path : RuntimePath} {marker : String} :
    (∃ found, runtime.validateManagedDirectory files path marker = .ok found) ↔ Settled files path marker := by
  simp only [validateManagedDirectory_ok, Settled]
  constructor
  · intro given
    obtain ⟨found, owned⟩ := given
    exact owned.imp And.right And.right
  · intro owned
    cases owned with
    | inl absent => exact ⟨false, .inl ⟨rfl, absent⟩⟩
    | inr marked => exact ⟨true, .inr ⟨rfl, marked⟩⟩

/-- What holds of the paths of a node below a deployment that is legacy or not. -/
structure NodeSettled (files : RuntimeFiles) (plan : TopologyPlan) (legacy : Bool) (node : NodePlan) : Prop where
  older : legacy = true → files.get? (nodeDir plan node) = none ∨
    FrrRuntime.legacyRuntimeNodeSafe files (nodeDir plan node) = true
  current : legacy = false → Settled files (nodeDir plan node) (runtimeNodeMarker plan node)
  plain : ∀ name ∈ files.iterdir (nodeDir plan node), files.isSymlink (.child (nodeDir plan node) name) = false
  state : Settled files (stateDir plan node) (stateMarker plan node)
  config : Settled files (vtyConfigDir plan node) (vtyConfigMarker plan node)

theorem validateNodeDirectory_ok {legacy : Bool} {node : NodePlan} :
    runtime.validateNodeDirectory files plan legacy node = .ok () ↔
      (legacy = true → files.get? (nodeDir plan node) = none ∨
        FrrRuntime.legacyRuntimeNodeSafe files (nodeDir plan node) = true) ∧
      (legacy = false → Settled files (nodeDir plan node) (runtimeNodeMarker plan node)) := by
  cases legacy with
  | true =>
    simp only [FrrRuntime.validateNodeDirectory, if_true, Checks.raiseIf_ok, not_and_or, Bool.not_eq_true, lexists_eq_false,
      Bool.not_eq_false, forall_const, Bool.true_eq_false, false_imp_iff, and_true]
  | false =>
    simp only [FrrRuntime.validateNodeDirectory, Bool.false_eq_true, if_false, Checks.bind_ok, and_true, false_imp_iff,
      true_and, forall_const, exists_validateManagedDirectory]

theorem validateNodeFiles_ok {node : NodePlan} : runtime.validateNodeFiles files plan node = .ok () ↔
    ∀ name ∈ files.iterdir (nodeDir plan node), files.isSymlink (.child (nodeDir plan node) name) = false := by
  rw [FrrRuntime.validateNodeFiles]
  split
  next => simp only [Checks.each_ok, Checks.raiseIf_ok, Bool.not_eq_true]
  next absent =>
    rw [Bool.not_eq_true, lexists_eq_false] at absent
    refine iff_of_true rfl fun name member => ?_
    obtain ⟨entry, stored⟩ := mem_iterdir.mp member
    simp [rooted_get? files stored] at absent

theorem validateNodeArtifacts_ok {legacy : Bool} {node : NodePlan} :
    runtime.validateNodeArtifacts files plan legacy node = .ok () ↔ NodeSettled files plan legacy node := by
  simp only [FrrRuntime.validateNodeArtifacts, Checks.bind_ok, Checks.exists_unit, validateNodeDirectory_ok, validateNodeFiles_ok,
    and_true, exists_and_right, exists_validateManagedDirectory]
  constructor
  · intro given
    obtain ⟨⟨older, current⟩, plain, state, config⟩ := given
    exact ⟨older, current, plain, state, config⟩
  · intro settled
    exact ⟨⟨settled.older, settled.current⟩, settled.plain, settled.state, settled.config⟩

theorem validateArtifacts_ok {legacy : Bool} :
    runtime.validateArtifacts files plan = .ok legacy ↔
      runtime.validateRuntimeArtifacts files plan = .ok legacy ∧ ∀ node ∈ plan.routingNodes, NodeSettled files plan legacy node := by
  simp only [FrrRuntime.validateArtifacts, Checks.bind_ok, Checks.each_ok, Checks.exists_unit, validateNodeArtifacts_ok,
    Except.ok.injEq]
  constructor
  · intro given
    obtain ⟨_, validated, settled, same⟩ := given
    exact same ▸ ⟨validated, settled⟩
  · intro given
    obtain ⟨validated, settled⟩ := given
    exact ⟨legacy, validated, settled, rfl⟩

end Validated

end Nslab
