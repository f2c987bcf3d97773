import Nslab.Library.Footprint
import Nslab.Routing.Layout

/-! What a run of the runtime depends on and what it changes: nothing but the managed
directories of its plan, and whether there can be the roots above them. -/

namespace Nslab

open Filesystem

section Parts

variable {plan : TopologyPlan} {managed : RuntimePath × String}

theorem managed_child (member : managed ∈ plan.managed) : ∃ directory name, managed.1 = .child directory name ∧
    (directory = deploymentDir plan ∨ ∃ tree, directory = .root tree) := by
  cases List.mem_cons.mp member with
  | inl same => exact ⟨_, _, by rw [same]; rfl, .inr ⟨_, rfl⟩⟩
  | inr below =>
    obtain ⟨node, _, listed⟩ := List.mem_flatMap.mp below
    simp only [TopologyPlan.nodeDirectories, List.mem_cons, List.not_mem_nil, or_false] at listed
    obtain rfl | rfl | rfl := listed
    · exact ⟨_, _, rfl, .inl rfl⟩
    · exact ⟨_, _, rfl, .inr ⟨_, rfl⟩⟩
    · exact ⟨_, _, rfl, .inr ⟨_, rfl⟩⟩

/-- What lies in the managed directories of a plan. -/
def TopologyPlan.part (plan : TopologyPlan) : Region RuntimeTree where
  owns path := plan.managed.any (·.1.within path)
  below directory name owned := by
    obtain ⟨managed, member, inside⟩ := List.any_eq_true.mp owned
    exact List.any_eq_true.mpr ⟨managed, member, Location.within_child inside name⟩
  above directory name owned := by
    obtain ⟨managed, member, inside⟩ := List.any_eq_true.mp owned
    simp only [Location.within, Bool.or_eq_true, decide_eq_true_eq] at inside
    cases inside with
    | inr inside => exact .inl (List.any_eq_true.mpr ⟨managed, member, inside⟩)
    | inl same =>
      obtain ⟨above, own, shape, place⟩ := managed_child member
      obtain ⟨rfl, rfl⟩ := Location.child.inj (same.symm.trans shape)
      refine place.imp (fun deployment => ?_) id
      exact List.any_eq_true.mpr ⟨(deploymentDir plan, runtimeMarker plan), List.mem_cons_self, by simp [deployment]⟩
  roots tree := by
    rw [List.any_eq_false]
    intro managed member inside
    obtain ⟨directory, name, shape, _⟩ := managed_child member
    rw [shape] at inside
    simp [Location.within] at inside

theorem owns_managed (member : managed ∈ plan.managed) : plan.part.owns managed.1 = true :=
  List.any_eq_true.mpr ⟨managed, member, Location.within_refl _⟩

theorem owns_deployment : plan.part.owns (deploymentDir plan) = true :=
    @owns_managed plan (_, runtimeMarker plan) List.mem_cons_self

theorem owns_marker {path : RuntimePath} (own : plan.part.owns path = true) : plan.part.owns (markerPath path) = true :=
  plan.part.below path markerFile own

theorem owns_node {node : NodePlan} (routing : node ∈ plan.routingNodes) : plan.part.owns (nodeDir plan node) = true ∧
    plan.part.owns (stateDir plan node) = true ∧ plan.part.owns (vtyConfigDir plan node) = true := by
  obtain ⟨own, state, config⟩ := mem_managed routing
  exact ⟨owns_managed own, owns_managed state, owns_managed config⟩

end Parts

section Checks

variable {runtime : FrrRuntime} {host : Host} {plan : TopologyPlan} {left right : RuntimeFiles} {path : RuntimePath}
  {node : NodePlan}

/-- A question that is asked only where there is no symbolic link. -/
theorem unlessSymlink {α : Type} {issue : NslabError} {first second : Except NslabError α}
    (same : left.isSymlink path = right.isSymlink path)
    (next : left.isSymlink path = false → first = second) :
    (do Checks.raiseIf (left.isSymlink path) issue; first) = (do Checks.raiseIf (right.isSymlink path) issue; second) := by
  rw [same] at next ⊢
  cases linked : right.isSymlink path with
  | true => simp [Checks.raiseIf, bind, Except.bind]
  | false => rw [next linked]

variable (agree : Agree plan.part left right)

include agree

theorem readMatchingMarker_agree (own : plan.part.owns path = true) (expected : String) (required : Bool) :
    runtime.readMatchingMarker left path expected required = runtime.readMatchingMarker right path expected required := by
  have owned := owns_marker own
  apply unlessSymlink (agree.isSymlink owned)
  intro plain
  rw [agree.lexists owned, agree.isFile owned plain, agree.readAscii owned plain]

theorem validateManagedDirectory_agree (own : plan.part.owns path = true) (marker : String) :
    runtime.validateManagedDirectory left path marker = runtime.validateManagedDirectory right path marker := by
  rw [FrrRuntime.validateManagedDirectory, FrrRuntime.validateManagedDirectory, agree.lexists own]
  split
  next =>
    apply unlessSymlink (agree.isSymlink own)
    intro plain
    rw [agree.isDir own plain, readMatchingMarker_agree agree own]
  next => rfl

theorem legacyRuntimeNodeSafe_agree (own : plan.part.owns path = true) :
    FrrRuntime.legacyRuntimeNodeSafe left path = FrrRuntime.legacyRuntimeNodeSafe right path := by
  have child : ∀ name, (!left.isSymlink (.child path name) && FrrRuntime.legacyNames.contains name &&
    !left.isDir (.child path name)) =
      (!right.isSymlink (.child path name) && FrrRuntime.legacyNames.contains name && !right.isDir (.child path name)) := by
    intro name
    have owned := plan.part.below path name own
    rw [← agree.isSymlink owned]
    cases plain : left.isSymlink (.child path name) with
    | true => rfl
    | false => rw [agree.isDir owned plain]
  have directory : (left.isSymlink path || !left.isDir path) = (right.isSymlink path || !right.isDir path) := by
    rw [← agree.isSymlink own]
    cases plain : left.isSymlink path with
    | true => rfl
    | false => rw [agree.isDir own plain]
  simp only [FrrRuntime.legacyRuntimeNodeSafe, directory, agree.iterdir own, child]

theorem validateRuntimeArtifacts_agree : runtime.validateRuntimeArtifacts left plan =
    runtime.validateRuntimeArtifacts right plan := by
  have own := @owns_deployment plan
  have owned := fun name => plan.part.below _ name own
  simp only [FrrRuntime.validateRuntimeArtifacts, agree.lexists own]
  split
  next =>
    apply unlessSymlink (agree.isSymlink own)
    intro plain
    rw [agree.isDir own plain]
    congr 1
    funext _
    apply unlessSymlink (agree.isSymlink (owns_marker own))
    intro _
    rw [agree.lexists (owns_marker own), readMatchingMarker_agree agree own, agree.iterdir own]
    have child : ∀ name symlink directory, (do
        Checks.raiseIf (left.isSymlink (.child (deploymentDir plan) name) = true) symlink
        Checks.raiseIf (left.isDir (.child (deploymentDir plan) name) = false) directory : Except NslabError Unit) = (do
        Checks.raiseIf (right.isSymlink (.child (deploymentDir plan) name) = true) symlink
        Checks.raiseIf (right.isDir (.child (deploymentDir plan) name) = false) directory) := by
      intro name symlink directory
      apply unlessSymlink (agree.isSymlink (owned name))
      intro plain
      rw [agree.isDir (owned name) plain]
    simp only [child, legacyRuntimeNodeSafe_agree agree (owned _)]
  next => rfl

theorem validateNodeArtifacts_agree (routing : node ∈ plan.routingNodes) (legacy : Bool) :
    runtime.validateNodeArtifacts left plan legacy node = runtime.validateNodeArtifacts right plan legacy node := by
  obtain ⟨own, state, config⟩ := owns_node routing
  have owned := fun name => plan.part.below _ name own
  simp only [FrrRuntime.validateNodeArtifacts, FrrRuntime.validateNodeDirectory, FrrRuntime.validateNodeFiles,
    agree.lexists own, agree.iterdir own, agree.isSymlink (owned _), legacyRuntimeNodeSafe_agree agree own,
    validateManagedDirectory_agree agree own, validateManagedDirectory_agree agree state,
      validateManagedDirectory_agree agree config]

theorem validateArtifacts_agree : runtime.validateArtifacts left plan = runtime.validateArtifacts right plan := by
  have nodes : ∀ legacy, Checks.each plan.routingNodes (runtime.validateNodeArtifacts left plan legacy) =
      Checks.each plan.routingNodes (runtime.validateNodeArtifacts right plan legacy) := by
    intro legacy
    have each : ∀ listed, listed ⊆ plan.routingNodes → Checks.each listed (runtime.validateNodeArtifacts left plan legacy) =
        Checks.each listed (runtime.validateNodeArtifacts right plan legacy) := by
      intro listed
      induction listed with
      | nil => exact fun _ => rfl
      | cons node rest ih =>
        intro covered
        obtain ⟨routing, covered⟩ := List.cons_subset.mp covered
        rw [Checks.each, Checks.each, validateNodeArtifacts_agree agree routing, ih covered]
    exact each _ (List.Subset.refl _)
  simp only [FrrRuntime.validateArtifacts, validateRuntimeArtifacts_agree agree, nodes]

theorem hasArtifacts_agree : FrrRuntime.hasArtifacts left plan = FrrRuntime.hasArtifacts right plan := by
  rw [FrrRuntime.hasArtifacts, FrrRuntime.hasArtifacts, agree.lexists owns_deployment]
  congr 1
  rw [Bool.eq_iff_iff, List.any_eq_true, List.any_eq_true]
  refine exists_congr fun node => and_congr_right fun routing => ?_
  obtain ⟨_, state, config⟩ := owns_node routing
  rw [agree.lexists state, agree.lexists config]

theorem readRecords_agree (routing : node ∈ plan.routingNodes) :
    FrrRuntime.readRecords host left plan node = FrrRuntime.readRecords host right plan node := by
  obtain ⟨own, _⟩ := owns_node routing
  have owned := fun name => plan.part.below _ name own
  have directory : (left.isSymlink (nodeDir plan node) || !left.isDir (nodeDir plan node)) =
      (right.isSymlink (nodeDir plan node) || !right.isDir (nodeDir plan node)) := by
    rw [← agree.isSymlink own]
    cases plain : left.isSymlink (nodeDir plan node) with
    | true => rfl
    | false => rw [agree.isDir own plain]
  have stored : plan.part.owns (metadataPath plan node) = true := owned "processes.json"
  have metadata : (if left.isSymlink (metadataPath plan node) then none
      else (left.readUtf8 (metadataPath plan node)).toOption.bind host.loads) =
      if right.isSymlink (metadataPath plan node) then none
      else (right.readUtf8 (metadataPath plan node)).toOption.bind host.loads :=
    agree.guarded stored fun plain => by rw [agree.readUtf8 stored plain]
  simp only [FrrRuntime.readRecords, directory, metadata]
  congr 3
  funext daemon
  exact agree.guarded (owned _) fun plain => by rw [agree.readAscii (owned _) plain]

theorem metadataMatches_agree (routing : node ∈ plan.routingNodes) :
    runtime.metadataMatches host left plan node = runtime.metadataMatches host right plan node := by
  obtain ⟨own, state, config⟩ := owns_node routing
  have owned : plan.part.owns (metadataPath plan node) = true := plan.part.below _ "processes.json" own
  simp only [FrrRuntime.metadataMatches, agree.lexists owns_deployment, validateRuntimeArtifacts_agree agree,
    validateManagedDirectory_agree agree own, validateManagedDirectory_agree agree state, agree.lexists config,
    validateManagedDirectory_agree agree config, agree.isSymlink owned]
  cases linked : right.isSymlink (metadataPath plan node) with
  | true => simp
  | false => rw [agree.readUtf8 owned ((agree.isSymlink owned).trans linked)]

end Checks

end Nslab
