import Nslab.Routing.Confined
import Nslab.Routing.Recovery

/-! Two deployments under different names: when their resources are apart, and when the
routing of one cannot disturb that of the other. -/

namespace Nslab

open Filesystem

section Commands

/-- What can be asked of the routing of a deployment. -/
inductive RoutingCommand where
  | start
  | stop

def RoutingCommand.run (runtime : FrrRuntime) (host : Host) (plan : TopologyPlan) : RoutingCommand → Runs Unit
  | .start => runtime.start host plan
  | .stop => runtime.stop host plan

/-- Commands for one deployment, each whatever came of those before. -/
def RoutingCommand.runAll (runtime : FrrRuntime) (host : Host) (plan : TopologyPlan) (commands : List RoutingCommand) :
    Runs Unit :=
  Action.each commands fun command => do
    let _ ← Action.attempt (command.run runtime host plan)

end Commands

/-- The digests in the names of two deployments do not collide. -/
structure Collisionless (left right : TopologyPlan) : Prop where
  nodes : ∀ own ∈ left.nodes.values, ∀ other ∈ right.nodes.values,
    identityDigest 8 (left.name ++ ":" ++ own.name) = identityDigest 8 (right.name ++ ":" ++ other.name) →
      left.name ++ ":" ++ own.name = right.name ++ ":" ++ other.name
  links : ∀ own ∈ left.links, ∀ other ∈ right.links,
    identityDigest 5 (left.name ++ ":" ++ toString own.index) = identityDigest 5 (right.name ++ ":" ++ toString other.index) →
      left.name ++ ":" ++ toString own.index = right.name ++ ":" ++ toString other.index

/-- After any commands for one deployment, a command for the other does what it would have done without them. -/
def Undisturbed (left right : TopologyPlan) : Prop :=
  ∀ (runtime : FrrRuntime) (host : Host) (commands : List RoutingCommand) (command : RoutingCommand) (world after : World),
    host.Nested → after = (RoutingCommand.runAll runtime host left commands world).2 →
      (command.run runtime host right after).1 = (command.run runtime host right
        { after with files := host.elapse world.clock (after.clock - world.clock) world.files }).1

/-- Deployments with nothing in common. -/
structure Isolated (left right : TopologyPlan) : Prop where
  namespaces : ∀ own ∈ left.nodes.values, ∀ other ∈ right.nodes.values, own.netns ≠ other.netns
  temporaries : ∀ own ∈ left.links.flatMap LinkPlan.endpoints, ∀ other ∈ right.links.flatMap LinkPlan.endpoints,
    own.temporaryName ≠ other.temporaryName
  short : ∀ endpoint ∈ left.links.flatMap LinkPlan.endpoints ++ right.links.flatMap LinkPlan.endpoints,
    endpoint.temporaryName.length ≤ 15
  directories : ∀ own ∈ left.managed, ∀ other ∈ right.managed, ∀ path, own.1.within path = true → other.1.within path = false
  undisturbed : Undisturbed left right ∧ Undisturbed right left

section Names

theorem not_mem_isName {name : String} (named : isName name = true) : ':' ∉ name.toList := by
  rw [isName] at named
  intro member
  split at named
  next => cases named
  next first rest shaped =>
    simp only [Bool.and_eq_true, decide_eq_true_eq, List.all_eq_true] at named
    obtain ⟨⟨begins, _⟩, others⟩ := named
    rw [shaped, List.mem_cons] at member
    cases member with
    | inl same => simp [← same, isLower] at begins
    | inr later => simpa [isLower] using others ':' later

/-- The first colon of an identity ends the name of its deployment. -/
theorem identity_deployment {left right first second : String} (named : isName left = true) (other : isName right = true)
    (same : left ++ ":" ++ first = right ++ ":" ++ second) : left = right := by
  have fronts : ∀ {name rest : String}, isName name = true → (name ++ ":" ++ rest).toList.takeWhile (· ≠ ':') = name.toList := by
    intro name rest named
    have plain : ∀ char ∈ name.toList, decide (char ≠ ':') = true := by
      intro char member
      exact decide_eq_true fun colon => not_mem_isName named (colon ▸ member)
    rw [String.append_assoc, String.toList_append, List.takeWhile_append_of_pos plain]
    simp
  apply String.toList_inj.mp
  rw [← @fronts left first named, ← @fronts right second other, same]

/-- The digest of a namespace is what its name ends in. -/
theorem digest_of_namespaceName {left right first second : String}
    (same : namespaceName left first = namespaceName right second) :
    identityDigest 8 (left ++ ":" ++ first) = identityDigest 8 (right ++ ":" ++ second) := by
  have chars := congrArg String.toList same
  simp only [namespaceName, String.toList_append] at chars
  exact String.toList_inj.mp (List.append_inj' chars (by simp [length_identityDigest])).2

/-- A temporary name: a digest between two letters and one more. -/
theorem temporaryVethNames_shape {deployment name : String} {index : Nat}
    (given : name = (temporaryVethNames deployment index).1 ∨ name = (temporaryVethNames deployment index).2) :
    ∃ last : Char, name.toList = "nl".toList ++ (identityDigest 5 (deployment ++ ":" ++ toString index)).toList ++ [last] := by
  cases given with
  | inl same => exact ⟨'a', by simp [same, temporaryVethNames]⟩
  | inr same => exact ⟨'b', by simp [same, temporaryVethNames]⟩

variable {manifest : Manifest} {plan : TopologyPlan}

theorem Manifest.Plans.temporary (plans : manifest.Plans plan) {endpoint : EndpointPlan}
    (member : endpoint ∈ plan.links.flatMap LinkPlan.endpoints) : ∃ link ∈ plan.links, ∃ last : Char,
      endpoint.temporaryName.toList =
      "nl".toList ++ (identityDigest 5 (plan.name ++ ":" ++ toString link.index)).toList ++ [last] := by
  obtain ⟨link, listed, inside⟩ := List.mem_flatMap.mp member
  refine ⟨link, listed, temporaryVethNames_shape ?_⟩
  obtain ⟨config, _, compiled⟩ := plans.link listed
  obtain ⟨left, right, first, second, shape⟩ := compileLink_ok.mp compiled
  obtain ⟨_, _, _, rfl⟩ := compileEndpoint_ok.mp first
  obtain ⟨_, _, _, rfl⟩ := compileEndpoint_ok.mp second
  rw [shape] at inside
  simp only [LinkPlan.endpoints, List.mem_cons, List.not_mem_nil, or_false] at inside
  exact inside.imp (fun same => by rw [same]) fun same => by rw [same]

end Names

section Directories

variable {plan left right : TopologyPlan}

/-- The managed directories that lie in the roots. -/
def TopologyPlan.tops (plan : TopologyPlan) : List (RuntimeTree × String) :=
  (.runtime, plan.name) :: plan.routingNodes.flatMap fun node =>
    [(.frrState, routingPathspace plan node), (.frrConfig, routingPathspace plan node)]

theorem top_of_managed {managed : RuntimePath × String} (member : managed ∈ plan.managed) :
    ∃ top ∈ plan.tops, (Location.child (.root top.1) top.2).within managed.1 = true := by
  cases List.mem_cons.mp member with
  | inl same => exact ⟨_, List.mem_cons_self, by rw [same]; exact Location.within_refl _⟩
  | inr below =>
    obtain ⟨node, routing, listed⟩ := List.mem_flatMap.mp below
    have inner : ∀ top ∈ [(RuntimeTree.frrState, routingPathspace plan node), (.frrConfig, routingPathspace plan node)],
        top ∈ plan.tops := fun top member => List.mem_cons_of_mem _ (List.mem_flatMap.mpr ⟨node, routing, member⟩)
    simp only [TopologyPlan.nodeDirectories, List.mem_cons, List.not_mem_nil, or_false] at listed
    obtain rfl | rfl | rfl := listed
    · exact ⟨_, List.mem_cons_self, Location.within_child (Location.within_refl _) node.name⟩
    · exact ⟨_, inner (.frrState, routingPathspace plan node) (by simp), Location.within_refl _⟩
    · exact ⟨_, inner (.frrConfig, routingPathspace plan node) (by simp), Location.within_refl _⟩

/-- What lies in two entries of the roots shows that they are one. -/
theorem top_unique {first second : RuntimeTree × String} {path : RuntimePath}
    (own : (Location.child (.root first.1) first.2).within path = true)
    (other : (Location.child (.root second.1) second.2).within path = true) : first = second := by
  have nested := Location.within_or_within own other
  simp only [Location.within, Bool.or_false, decide_eq_true_eq, Location.child.injEq, Location.root.injEq, reduceCtorEq,
    decide_false] at nested
  cases nested with
  | inl same => exact Prod.ext same.1 same.2
  | inr same => exact Prod.ext same.1.symm same.2.symm

theorem routingPathspace_eq (plan : TopologyPlan) (node : NodePlan) :
    routingPathspace plan node = "nslab-" ++ (plan.name ++ "-" ++ node.name) := by
  simp only [routingPathspace, String.append_assoc]

theorem tops_disjoint (differ : left.name ≠ right.name) (spaces : ∀ own ∈ left.routingNodes, ∀ other ∈ right.routingNodes,
    left.name ++ "-" ++ own.name ≠ right.name ++ "-" ++ other.name) {top : RuntimeTree × String} (own : top ∈ left.tops) :
    top ∉ right.tops := by
  have pathspace : ∀ own ∈ left.routingNodes, ∀ other ∈ right.routingNodes,
      routingPathspace left own ≠ routingPathspace right other := by
    intro own first other second same
    rw [routingPathspace_eq, routingPathspace_eq, String.append_right_inj] at same
    exact spaces own first other second same
  intro other
  simp only [TopologyPlan.tops, List.mem_cons, List.mem_flatMap, List.not_mem_nil, or_false] at own other
  obtain rfl | ⟨node, routing, rfl | rfl⟩ := own
  · simp [differ] at other
  · obtain other | ⟨peer, listed, same | same⟩ := other
    · simp at other
    · exact pathspace node routing peer listed (Prod.mk.inj same).2
    · simp at same
  · obtain other | ⟨peer, listed, same | same⟩ := other
    · simp at other
    · simp at same
    · exact pathspace node routing peer listed (Prod.mk.inj same).2

theorem part_apart (apart : ∀ own ∈ left.managed, ∀ other ∈ right.managed, ∀ path, own.1.within path = true →
    other.1.within path = false) : left.part.Apart right.part := by
  intro path own
  obtain ⟨managed, member, inside⟩ := List.any_eq_true.mp own
  refine List.any_eq_false.mpr fun other listed => ?_
  rw [apart managed member other listed path inside]
  simp

end Directories

section Runs

variable {host : Host} {runtime : FrrRuntime} {plan left right : TopologyPlan} {rest : Region RuntimeTree} {origin : World}

theorem respects_command (nested : host.Nested) (apart : plan.part.Apart rest) (command : RoutingCommand) :
    Action.Respects (Together host plan rest origin) (command.run runtime host plan) := by
  cases command with
  | start => exact respects_start nested apart
  | stop => exact respects_stop nested apart

theorem respects_commands (nested : host.Nested) (apart : plan.part.Apart rest) (commands : List RoutingCommand) :
    Action.Respects (Together host plan rest origin) (RoutingCommand.runAll runtime host plan commands) := by
  apply Action.Respects.each
  intro command _
  apply Action.Respects.bind (respects_command nested apart command).attempt
  intro _
  exact Action.Respects.done

theorem apart_symm {first second : Region RuntimeTree} (apart : first.Apart second) : second.Apart first := by
  intro path own
  rw [← Bool.not_eq_true]
  intro other
  simp [apart path other] at own

/-- Commands for a deployment leave the directories of another to its daemons. -/
theorem undisturbed_of_apart (apart : left.part.Apart right.part) : Undisturbed left right := by
  intro runtime host commands command world after nested same
  have begun : Together host left right.part world world world := ⟨Agree.refl _, ⟨0, rfl, Agree.refl _⟩, rfl, rfl⟩
  obtain ⟨calls, ticks, spared⟩ := (respects_commands nested apart commands world world begun).2.spared
  rw [← same] at ticks spared
  have passed : after.clock - world.clock = calls := by omega
  have together : Together host right left.part after after
      { after with files := host.elapse world.clock (after.clock - world.clock) world.files } :=
    ⟨passed ▸ spared.symm, ⟨0, rfl, Agree.refl _⟩, rfl, rfl⟩
  exact (respects_command nested (apart_symm apart) command _ _ together).1

end Runs

/-- Isolated deployments share no pathspace. -/
theorem Isolated.pathspaces {left right : TopologyPlan} (isolated : Isolated left right) : ∀ own ∈ left.routingNodes,
    ∀ other ∈ right.routingNodes, left.name ++ "-" ++ own.name ≠ right.name ++ "-" ++ other.name := by
  intro own listed other member same
  have shared : stateDir left own = stateDir right other := by
    rw [stateDir, stateDir, routingPathspace_eq, routingPathspace_eq, same]
  have outside := isolated.directories _ (mem_managed listed).2.1 _ (mem_managed member).2.1 (stateDir left own)
    (Location.within_refl _)
  simp [shared, Location.within_refl] at outside

/-- Two deployments under different names are isolated exactly when no two of their routing nodes share a pathspace. -/
theorem isolated_iff {leftManifest rightManifest : Manifest} {leftName rightName : Option String} {left right : TopologyPlan}
    (leftAccepted : leftManifest.Accepted) (leftCompiled : compilePlan leftManifest leftName = .ok left)
    (rightAccepted : rightManifest.Accepted) (rightCompiled : compilePlan rightManifest rightName = .ok right)
    (differ : left.name ≠ right.name) (clean : Collisionless left right) :
    Isolated left right ↔ ∀ own ∈ left.routingNodes, ∀ other ∈ right.routingNodes,
      left.name ++ "-" ++ own.name ≠ right.name ++ "-" ++ other.name := by
  have first := leftAccepted.plans leftCompiled
  have second := rightAccepted.plans rightCompiled
  constructor
  · exact fun isolated => isolated.pathspaces
  · intro spaces
    have directories : ∀ own ∈ left.managed, ∀ other ∈ right.managed, ∀ path, own.1.within path = true →
        other.1.within path = false := by
      intro own listed other member path inside
      rw [← Bool.not_eq_true]
      intro both
      obtain ⟨top, ownTop, above⟩ := top_of_managed listed
      obtain ⟨peer, otherTop, upper⟩ := top_of_managed member
      have same := top_unique (Location.within_trans above inside) (Location.within_trans upper both)
      exact tops_disjoint differ spaces ownTop (same ▸ otherTop)
    have apart := part_apart directories
    refine ⟨?_, ?_, ?_, directories, undisturbed_of_apart apart, undisturbed_of_apart (apart_symm apart)⟩
    · intro own listed other member same
      rw [(first.name_of_found (first.found_of_mem listed)).2, (second.name_of_found (second.found_of_mem member)).2] at same
      have identity := clean.nodes own listed other member (digest_of_namespaceName same)
      exact differ (identity_deployment first.name second.name identity)
    · intro own listed other member same
      obtain ⟨link, inside, last, shape⟩ := first.temporary listed
      obtain ⟨peer, within, final, form⟩ := second.temporary member
      rw [same, form] at shape
      have digests := List.append_inj shape (by simp [length_identityDigest])
      have equal := List.append_cancel_left digests.1
      exact differ (identity_deployment first.name second.name
        (clean.links link inside peer within (String.toList_inj.mp equal).symm))
    · intro endpoint listed
      have short : ∃ digest : List Char, ∃ last : Char, digest.length = 10 ∧ endpoint.temporaryName.toList =
        "nl".toList ++ digest ++ [last] := by
        cases List.mem_append.mp listed with
        | inl own =>
          obtain ⟨link, _, last, shape⟩ := first.temporary own
          exact ⟨_, last, length_identityDigest 5 _, shape⟩
        | inr other =>
          obtain ⟨link, _, last, shape⟩ := second.temporary other
          exact ⟨_, last, length_identityDigest 5 _, shape⟩
      obtain ⟨digest, last, size, shape⟩ := short
      rw [← String.length_toList, shape]
      simp [size]

section Conflicts

variable {runtime : FrrRuntime} {host : Host} {files : RuntimeFiles} {plan : TopologyPlan} {path : RuntimePath}
  {marker expected : String}

theorem readMatchingMarker_other (stored : files.get? (markerPath path) = some (.file (.ok marker)))
    (ascii : isAscii marker = true)
    (differs : marker ≠ expected) : runtime.readMatchingMarker files path expected =
      .error (runtime.conflictingPath path "routing pathspace is owned by another configuration") := by
  have plain : files.isSymlink (markerPath path) = false := by simp [isSymlink, stored, Entry.isSymlink]
  have present : files.lexists (markerPath path) = true := lexists_iff.mpr ⟨_, stored⟩
  have regular := (isFile_of_plain plain).mpr ⟨_, stored⟩
  have read := (readAscii_ok plain).mpr ⟨stored, ascii⟩
  simp [FrrRuntime.readMatchingMarker, Checks.raiseIf, bind, Except.bind, plain, present, regular, read, differs]

theorem validateManagedDirectory_other (marked : Marked files path marker) (ascii : isAscii marker = true)
    (differs : marker ≠ expected) :
    runtime.validateManagedDirectory files path expected =
      .error (runtime.conflictingPath path "routing pathspace is owned by another configuration") := by
  have plain : files.isSymlink path = false := by simp [isSymlink, marked.directory, Entry.isSymlink]
  have present : files.lexists path = true := lexists_iff.mpr ⟨_, marked.directory⟩
  have directory := (isDir_of_plain plain).mpr marked.directory
  simp [FrrRuntime.validateManagedDirectory, Checks.raiseIf, bind, Except.bind, plain, present, directory,
    readMatchingMarker_other marked.marker ascii differs]

/-- A new deployment whose node finds the state directory of another configuration does not start. -/
theorem start_conflicts {node : NodePlan} {world : World} (only : plan.routingNodes = [node])
    (fresh : world.files.get? (deploymentDir plan) = none) (marked : Marked world.files (stateDir plan node) marker)
    (ascii : isAscii marker = true) (differs : marker ≠ stateMarker plan node) : conflicts (runtime.start host plan world).1 =
      true := by
  have absent := lexists_eq_false.mpr fresh
  have below : world.files.lexists (nodeDir plan node) = false := by
    rw [lexists_eq_false]
    cases found : world.files.get? (nodeDir plan node) with
    | none => rfl
    | some entry => simp [world.files.rooted_get? found] at fresh
  have present : world.files.lexists (stateDir plan node) = true := lexists_iff.mpr ⟨_, marked.directory⟩
  have refused : runtime.validateArtifacts world.files plan =
      .error (runtime.conflictingPath (stateDir plan node) "routing pathspace is owned by another configuration") := by
    have directory : runtime.validateManagedDirectory world.files (nodeDir plan node) (runtimeNodeMarker plan node) =
      .ok false := by
      rw [FrrRuntime.validateManagedDirectory, below]
      rfl
    simp only [FrrRuntime.validateArtifacts, FrrRuntime.validateRuntimeArtifacts, absent, only, Checks.each,
      FrrRuntime.validateNodeArtifacts, FrrRuntime.validateNodeDirectory, FrrRuntime.validateNodeFiles, below, directory,
      validateManagedDirectory_other marked ascii differs]
    rfl
  have found : FrrRuntime.hasArtifacts world.files plan = true := by simp [FrrRuntime.hasArtifacts, only, present]
  have nonempty : plan.routingNodes ≠ [] := by simp [only]
  have looked : look (FrrRuntime.hasArtifacts · plan) world = (.ok true, world) := by simp [look, Action.inspect, found]
  have checked : check (runtime.validateArtifacts · plan) world =
      (.error (.nslab (runtime.conflictingPath (stateDir plan node) "routing pathspace is owned by another configuration")
        none), world) := by
    simp [check, Action.inspect, Checks.mapIssue, refused]
  rw [FrrRuntime.start, if_neg nonempty, Action.bind_of_ok looked, if_pos rfl, Action.bind_of_error checked]
  simp [conflicts, FrrRuntime.conflictingPath]

end Conflicts

section Examples

instance (left right : TopologyPlan) : Decidable (Collisionless left right) :=
  decidable_of_iff (_ ∧ _) ⟨fun given => ⟨given.1, given.2⟩, fun clean => ⟨clean.nodes, clean.links⟩⟩

/-- Plans of two documents with a property of both that evaluates to true. -/
theorem compiled_pair (first second : Document) (test : TopologyPlan → TopologyPlan → Bool)
    (plain : (first.plain && second.plain) = true)
    (passes : (validateManifest first).toOption.any (fun manifest => (compilePlan manifest none).toOption.any fun left =>
      (validateManifest second).toOption.any fun manifest => (compilePlan manifest none).toOption.any (test left ·)) = true) :
    ∃ leftManifest left rightManifest right, validateManifest first = .ok leftManifest ∧ leftManifest.Accepted ∧
      compilePlan leftManifest none = .ok left ∧ validateManifest second = .ok rightManifest ∧ rightManifest.Accepted ∧
      compilePlan rightManifest none = .ok right ∧ test left right = true := by
  rw [Bool.and_eq_true] at plain
  obtain ⟨leftManifest, left, leftRead, leftAccepted, leftCompiled, passes⟩ := Manifest.compiled_of_test first plain.1 _ passes
  obtain ⟨rightManifest, right, rightRead, rightAccepted, rightCompiled, passes⟩ :=
    Manifest.compiled_of_test second plain.2 (test left ·) passes
  exact ⟨leftManifest, left, rightManifest, right, leftRead, leftAccepted, leftCompiled, rightRead, rightAccepted,
    rightCompiled, passes⟩

/-- Two deployments of one routing node each. -/
theorem isolated_lab_edge : ∃ leftManifest left rightManifest right, validateManifest (routedDocument "lab" "r") =
    .ok leftManifest ∧
    compilePlan leftManifest none = .ok left ∧ validateManifest (routedDocument "edge" "r") = .ok rightManifest ∧
    compilePlan rightManifest none = .ok right ∧ Isolated left right := by
  obtain ⟨leftManifest, left, rightManifest, right, leftRead, leftAccepted, leftCompiled, rightRead, rightAccepted,
    rightCompiled, given⟩ :=
    compiled_pair (routedDocument "lab" "r") (routedDocument "edge" "r") (fun left right => decide (left.name ≠ right.name) &&
      decide (Collisionless left right) && decide (∀ own ∈ left.routingNodes, ∀ other ∈ right.routingNodes,
        left.name ++ "-" ++ own.name ≠ right.name ++ "-" ++ other.name)) (by decide +kernel) (by decide +kernel)
  simp only [Bool.and_eq_true, decide_eq_true_eq] at given
  obtain ⟨⟨differ, clean⟩, spaces⟩ := given
  exact ⟨leftManifest, left, rightManifest, right, leftRead, leftCompiled, rightRead, rightCompiled,
    (isolated_iff leftAccepted leftCompiled rightAccepted rightCompiled differ clean).mpr spaces⟩

/-- A host on which all processes live. -/
def livingHost : Host := { userHost with pidExists := fun _ _ => true }

/-- A runtime that does not wait for the socket of zebra. -/
def hastyRuntime : FrrRuntime := { requireZebraSocket := false }

/-- The host until a call that never comes. -/
def sharedHost : Host := livingHost.failingAt 1000 ⟨"Input/output error"⟩

theorem livingHost_tame (plan : TopologyPlan) : livingHost.Tame plan := fun _ _ change => by cases change

/-- The node b-c of the deployment a and the node c of the deployment a-b share a pathspace: once the first runs, the second
cannot start. -/
theorem isolated_collides : ∃ leftManifest left rightManifest right after,
    validateManifest (routedDocument "a" "b-c") = .ok leftManifest ∧ leftManifest.Accepted ∧
    compilePlan leftManifest none = .ok left ∧ validateManifest (routedDocument "a-b" "c") = .ok rightManifest ∧
    rightManifest.Accepted ∧ compilePlan rightManifest none = .ok right ∧ left.name ≠ right.name ∧ Collisionless left right ∧
    ¬ Isolated left right ∧ hastyRuntime.start sharedHost left { files := Filesystem.empty } = (.ok (), after) ∧
    conflicts (hastyRuntime.start sharedHost right after).1 = true ∧
    (hastyRuntime.start sharedHost right { after with files := Filesystem.empty }).1 = .ok () := by
  obtain ⟨leftManifest, left, rightManifest, right, leftRead, leftAccepted, leftCompiled, rightRead, rightAccepted,
    rightCompiled, given⟩ :=
    compiled_pair (routedDocument "a" "b-c") (routedDocument "a-b" "c") (fun left right => decide (left.name ≠ right.name) &&
      decide (Collisionless left right) && !decide (∀ own ∈ left.routingNodes, ∀ other ∈ right.routingNodes,
        left.name ++ "-" ++ own.name ≠ right.name ++ "-" ++ other.name) && !FrrRuntime.hasArtifacts Filesystem.empty left &&
      let begun := hastyRuntime.start sharedHost left { files := Filesystem.empty }
      begun.1.isOk && decide (begun.2.files.get? (deploymentDir right) = none) && decide (∃ own ∈ left.routingNodes,
        ∃ other ∈ right.routingNodes, right.routingNodes = [other] ∧ stateMarker left own ≠ stateMarker right other ∧
          stateDir left own = stateDir right other ∧ begun.2.files.lexists (stateDir right other) = true) &&
        (hastyRuntime.start sharedHost right { begun.2 with files := Filesystem.empty }).1.isOk) (by decide +kernel)
          (by decide +kernel)
  simp only [Bool.and_eq_true, Bool.not_eq_true', decide_eq_true_eq, decide_eq_false_iff_not] at given
  obtain ⟨⟨⟨⟨differ, clean⟩, shared⟩, bare⟩, ⟨⟨started, fresh⟩, own, routing, other, _, only, differs, same, present⟩,
    free⟩ := given
  have done : ∀ outcome : Except Raised Unit, outcome.isOk = true → outcome = .ok () := by
    intro outcome given
    cases outcome with
    | ok _ => rfl
    | error raised => cases given
  have named := (leftAccepted.plans leftCompiled).wellNamed
  have ran : hastyRuntime.start sharedHost left { files := Filesystem.empty } =
      (.ok (), (hastyRuntime.start sharedHost left { files := Filesystem.empty }).2) := Prod.ext (done _ started) rfl
  have settled := @start_settles livingHost left hastyRuntime 1000 ⟨"Input/output error"⟩ named (livingHost_tame left)
    { files := Filesystem.empty } ⟨rfl, bare⟩
  rw [← sharedHost, ran] at settled
  have sound := settled.2.resolve_left fun none => by simp [none] at routing
  have member := (mem_managed routing).2.1
  rw [← same] at present
  have marked := (sound.marked member).resolve_left fun absent => by simp [lexists, absent] at present
  refine ⟨leftManifest, left, rightManifest, right, _, leftRead, leftAccepted, leftCompiled, rightRead, rightAccepted,
    rightCompiled, differ,
    clean, fun isolated => shared isolated.pathspaces, ran, ?_, done _ free⟩
  exact start_conflicts only fresh (same ▸ marked) (named.ascii _ member) differs

end Examples

end Nslab
