import Nslab.Manifest.Accepted
import Nslab.Plan.PlannerSafety
import Nslab.State

/-! A normal form validates again and compiles to the same plan, whatever happened
to the order of its keys and the types of its containers in between. -/

namespace Nslab

open Schema IpAddress

section Nodes

variable {deployment name : String}

theorem compileLinuxDevice_normalized (name : String) (device : LinuxDeviceConfig) :
    compileLinuxDevice name device.normalized = compileLinuxDevice name device := by
  cases device with
  | bond device =>
    cases mode : device.mode <;>
      simp [LinuxDeviceConfig.normalized, BondDeviceConfig.normalized, compileLinuxDevice, compileBond, compileAddresses, mode]
  | _ => rfl

theorem tables_settled {node : NodeConfig} (valid : nodeConfig.holds node) (sort : Bool) :
    (node.settled sort).tables.Same node.tables := by
  cases node with
  | linux node => exact LinuxNode.tablesByInterface_settled (LinuxNode.valid_of_holds valid).2.vrfsApart
  | bridge node => exact Dict.Same.refl _

theorem compileRoute_same {tables others : Dict String Int} (same : tables.Same others) :
    compileRoute tables = compileRoute others := by
  funext route
  simp only [compileRoute, same _]

theorem compileDevices_settled (node : NodeConfig) (sort : Bool) :
    (compileDevices (node.settled sort)).Same (compileDevices node) := by
  intro name
  cases node with
  | linux node =>
    simp only [compileDevices, NodeConfig.settled, LinuxNode.settled, Dict.get?_map, Dict.get?_arranged, Option.map_map]
    exact congrArg (Option.map · _) (funext fun device => compileLinuxDevice_normalized name device)
  | bridge node => simp [compileDevices, NodeConfig.settled, BridgeNode.settled]

/-- The devices of a node are none of its interfaces. -/
theorem deviceInterfaces_apart {node : NodeConfig} (valid : nodeConfig.holds node) :
    ((node.toNodeBase.interfaces.entries ++ node.deviceInterfaces).map Prod.fst).Nodup := by
  have devices : ∀ {keys : List String} (interfaces : Dict String InterfaceConfig), keys.Nodup →
      (∀ name ∈ interfaces.keys, name ∉ keys) → (interfaces.keys ++ keys).Nodup := fun interfaces nodup apart =>
    List.Nodup.append interfaces.keys_nodup nodup fun name first second => apart name first second
  rw [List.map_append]
  cases node with
  | linux node =>
    have sublist : ((node.devicesOf LinuxDeviceConfig.interface?).map Prod.fst).Sublist node.devices.keys :=
      Dict.keys_filterMap_sublist node.devices.entries fun _ => LinuxDeviceConfig.interface?
    refine devices node.interfaces (sublist.nodup node.devices.keys_nodup) fun name member inside => ?_
    have free := (LinuxNode.valid_of_holds valid).2.apart name member
    rw [LinuxNode.isDevice, Bool.eq_false_iff, ne_eq, Dict.contains_iff] at free
    exact free (sublist.subset inside)
  | bridge node =>
    have keys : (node.devices.entries.map fun entry => (entry.1, entry.2.interface)).map Prod.fst = node.devices.keys := by
      simp [Dict.keys, Function.comp_def]
    refine devices node.interfaces (keys ▸ node.devices.keys_nodup) fun name member inside => ?_
    have free := (BridgeNode.valid_of_holds valid).2.apart name member
    rw [BridgeNode.isDevice, Bool.eq_false_iff, ne_eq, Dict.contains_iff] at free
    exact free (keys ▸ inside)

theorem deviceInterfaces_settled (node : NodeConfig) (sort : Bool) :
    (node.settled sort).deviceInterfaces.Perm node.deviceInterfaces := by
  cases node with
  | linux node => exact LinuxNode.devicesOf_settled_same LinuxNode.interface?_normalized
  | bridge node => exact (Dict.arranged_perm node.devices sort).map _

theorem compileMacAddresses_settled {node : NodeConfig} (valid : nodeConfig.holds node) (sort : Bool) :
    (compileMacAddresses (node.settled sort)).Same (compileMacAddresses node) := by
  have perm : ((node.settled sort).toNodeBase.interfaces.entries ++ (node.settled sort).deviceInterfaces).Perm
      (node.toNodeBase.interfaces.entries ++ node.deviceInterfaces) := by
    rw [NodeConfig.toNodeBase_settled]
    exact (Dict.arranged_perm node.toNodeBase.interfaces sort).append (deviceInterfaces_settled node sort)
  refine (Dict.ofEntries_same (perm.filterMap _).symm ?_).symm
  have distinct := (Dict.keys_filterMap_sublist _ fun _ config => config.mac.map MacAddress.text).nodup
    (deviceInterfaces_apart valid)
  simp only [Option.map_map] at distinct
  exact distinct

theorem compileSysctls_arranged (node : NodeBase) (sort : Bool) :
    (compileSysctls (node.arranged sort)).Same (compileSysctls node) := by
  intro key
  simp [compileSysctls, NodeBase.arranged, Dict.get?_update]

theorem plannedNode_settled {node : NodeConfig} (valid : nodeConfig.holds node) (deployment name : String) (sort : Bool)
    (routes : List RoutePlan) :
    (plannedNode deployment name (node.settled sort) routes).Same (plannedNode deployment name node routes) where
  scalars := by cases node <;> rfl
  interfaces interface := by
    simp [plannedNode, NodeConfig.toNodeBase_settled, NodeBase.arranged]
  sysctls := by
    simp only [plannedNode, NodeConfig.toNodeBase_settled]
    exact compileSysctls_arranged _ sort
  macAddresses := compileMacAddresses_settled valid sort
  devices := compileDevices_settled node sort
  bridgePorts port := by
    cases node with
    | linux node => rfl
    | bridge node => simp [plannedNode, NodeConfig.settled, BridgeNode.settled, NodeConfig.bridge?, BridgeConfig.arranged]

/-- Two results of the planner: equal plans or the same failure. -/
def SameResult {α : Type} (same : α → α → Prop) (left right : Except PlanError α) : Prop :=
  match left, right with
  | .ok left, .ok right => same left right
  | .error left, .error right => left = right
  | _, _ => False

theorem SameResult.total {α : Type} {same : α → α → Prop} {left right : Except PlanError α}
    (results : SameResult same left right) : (∃ value, left = .ok value) ↔ ∃ value, right = .ok value := by
  cases left <;> cases right <;> simp_all [SameResult]

theorem SameResult.ok {α : Type} {same : α → α → Prop} {first second : α} {left right : Except PlanError α}
    (results : SameResult same left right) (gives : left = .ok first) (yields : right = .ok second) : same first second := by
  subst gives yields
  exact results

theorem SameResult.bind {α β : Type} {same : α → α → Prop} {others : β → β → Prop} {left right : Except PlanError α}
    {first second : α → Except PlanError β} (results : SameResult same left right)
    (steps : ∀ left right, same left right → SameResult others (first left) (second right)) :
    SameResult others (left >>= first) (right >>= second) := by
  cases left <;> cases right <;> first | exact steps _ _ results | exact results.elim | exact results

theorem compileNode_settled {node : NodeConfig} (valid : nodeConfig.holds node) (deployment name : String) (sort : Bool) :
    SameResult NodePlan.Same (compileNode deployment name (node.settled sort)) (compileNode deployment name node) := by
  have routes : (node.settled sort).toNodeBase.routes = node.toNodeBase.routes := by
    rw [NodeConfig.toNodeBase_settled]
    rfl
  have tables := compileRoute_same (tables_settled valid sort)
  simp only [compileNode, plannedTables_compileDevices, routes, tables]
  cases Checks.collect node.toNodeBase.routes (compileRoute node.tables) with
  | error error => exact rfl
  | ok routes => exact plannedNode_settled valid deployment name sort routes

end Nodes

section Plans

theorem collect_error {ε α β : Type} {items : List α} {check : α → Except ε β} {issue : ε}
    (failed : Checks.collect items check = .error issue) : ∃ item ∈ items, check item = .error issue := by
  induction items with
  | nil => simp [Checks.collect] at failed
  | cons item items ih =>
    cases first : check item with
    | error other =>
      simp only [Checks.collect, first, bind, Except.bind, Except.error.injEq] at failed
      exact ⟨item, List.mem_cons_self, failed ▸ first⟩
    | ok value =>
      cases rest : Checks.collect items check with
      | error other =>
        simp only [Checks.collect, first, rest, bind, Except.bind, Except.error.injEq] at failed
        obtain ⟨inside, member, same⟩ := ih (failed ▸ rest)
        exact ⟨inside, List.mem_cons_of_mem _ member, same⟩
      | ok values => simp [Checks.collect, first, rest, bind, Except.bind, pure, Except.pure] at failed

/-- The nodes of a manifest only fail by an assertion. -/
theorem compileRoute_error {tables : Dict String Int} {route : RouteConfig} {error : PlanError}
    (failed : compileRoute tables route = .error error) : error = .assertionError := by
  cases hops : route.nexthops with
  | nil => cases dev : route.dev with
    | none =>
      simp only [compileRoute, hops, dev, List.map_nil, ne_eq, not_true_eq_false, if_false] at failed
      exact (Except.error.inj failed).symm
    | some dev => simp [compileRoute, hops, dev, pure, Except.pure, bind, Except.bind] at failed
  | cons hop rest =>
    have some : route.nexthops.map compileNextHop ≠ [] := by simp [hops]
    simp only [compileRoute, if_pos some, pure_bind] at failed
    split at failed
    · simp [pure, Except.pure] at failed
    · exact (Except.error.inj failed).symm

theorem compileNode_error {deployment name : String} {node : NodeConfig} {error : PlanError}
    (failed : compileNode deployment name node = .error error) : error = .assertionError := by
  rw [compileNode] at failed
  cases collected : Checks.collect node.toNodeBase.routes (compileRoute (plannedTables (compileDevices node))) with
  | ok routes => simp [collected, bind, Except.bind, pure, Except.pure] at failed
  | error other =>
    simp only [collected, bind, Except.bind, Except.error.injEq] at failed
    obtain ⟨route, _, same⟩ := collect_error (failed ▸ collected)
    exact compileRoute_error same

theorem compileNodes_error {deployment : String} {nodes : Dict String NodeConfig} {error : PlanError}
    (failed : compileNodes deployment nodes = .error error) : error = .assertionError := by
  rw [compileNodes] at failed
  cases collected : Checks.collect nodes.entries fun entry => (compileNode deployment entry.1 entry.2).map (entry.1, ·) with
  | ok plans => simp [collected, bind, Except.bind, pure, Except.pure] at failed
  | error other =>
    simp only [collected, bind, Except.bind, Except.error.injEq] at failed
    obtain ⟨⟨name, node⟩, _, same⟩ := collect_error (failed ▸ collected)
    cases compiled : compileNode deployment name node with
    | ok plan => simp [compiled, Except.map] at same
    | error other =>
      simp only [compiled, Except.map, Except.error.injEq] at same
      exact compileNode_error (same ▸ compiled)

/-- Two optional values that come from one source are related when what comes from it is. -/
theorem rel_of_source {α β γ : Type} {source : Option α} {change : α → α} {left : Option β} {right : Option γ}
    {first : α → β → Prop} {second : α → γ → Prop} {relation : β → γ → Prop} (one : Option.Rel first (source.map change) left)
    (other : Option.Rel second source right)
    (related : ∀ value left right, source = some value → first (change value) left → second value right → relation left right) :
    Option.Rel relation left right := by
  cases source with
  | none =>
    cases one
    cases other
    exact .none
  | some value =>
    cases one with
    | some left => cases other with
      | some right => exact .some (related value _ _ rfl left right)

variable {manifest : Manifest}

theorem compileNodes_settled (valid : manifest.Valid) (deployment : String) (sort : Bool) :
    SameResult (fun left right => left.Rel NodePlan.Same right) (compileNodes deployment (manifest.topology.settled sort).nodes)
      (compileNodes deployment manifest.topology.nodes) := by
  have each : ∀ name node, manifest.topology.nodes.get? name = some node →
      SameResult NodePlan.Same (compileNode deployment name (node.settled sort)) (compileNode deployment name node) :=
    fun name node found => compileNode_settled (valid.nodes found).2 deployment name sort
  have settled : ∀ name, (manifest.topology.settled sort).nodes.get? name =
      (manifest.topology.nodes.get? name).map (·.settled sort) := fun name => by simp [Topology.settled]
  have total : (∃ nodes, compileNodes deployment (manifest.topology.settled sort).nodes = .ok nodes) ↔
      ∃ nodes, compileNodes deployment manifest.topology.nodes = .ok nodes := by
    rw [compileNodes_total, compileNodes_total]
    simp only [Prod.forall, ← Dict.get?_iff, settled, Option.map_eq_some_iff, forall_exists_index, and_imp,
      forall_apply_eq_imp_iff₂]
    exact forall₂_congr fun name node => forall_congr' fun found => (each name node found).total
  cases compiled : compileNodes deployment manifest.topology.nodes with
  | error error =>
    cases again : compileNodes deployment (manifest.topology.settled sort).nodes with
    | error other => exact (compileNodes_error again).trans (compileNodes_error compiled).symm
    | ok plans => exact absurd (total.mp ⟨plans, again⟩) (by simp [compiled])
  | ok nodes =>
    obtain ⟨plans, again⟩ := total.mpr ⟨nodes, compiled⟩
    rw [again]
    intro name
    refine rel_of_source (settled name ▸ get?_compileNodes again name) (get?_compileNodes compiled name) ?_
    exact fun node left right found compiledLeft compiledRight => (each name node found).ok compiledLeft compiledRight

theorem compileLink_same {deployment : String} {nodes others : Dict String NodePlan}
    (same : nodes.Rel NodePlan.Same others) : compileLink deployment nodes = compileLink deployment others := by
  have endpoints : ∀ endpoint temporaryName,
      compileEndpoint endpoint temporaryName nodes = compileEndpoint endpoint temporaryName others := by
    intro endpoint temporaryName
    have node := same (Text.partition ':' endpoint).1
    unfold compileEndpoint
    generalize Text.partition ':' endpoint = parts at node ⊢
    obtain ⟨name, separator, interface⟩ := parts
    dsimp only at node ⊢
    generalize nodes.get? name = left, others.get? name = right at node ⊢
    cases node with
    | none => rfl
    | some equal => simp only [equal.netns]
  funext entry
  simp only [compileLink, endpoints]

/-- The fingerprint only depends on the decoded normal form. -/
theorem fingerprint_settled (manifest : Manifest) (sort : Bool) :
    manifestFingerprint (manifest.settled sort) = manifestFingerprint manifest := by
  have decoded := (inferInstance : manifestCodec.Stable).stable sort manifest
  rw [settle_manifest] at decoded
  simp only [manifestFingerprint, JsonText.dumps, normalizedManifest, decoded]

/-- A manifest that was read back compiles to an equal plan, or fails the same way. -/
theorem compilePlan_settled (valid : manifest.Valid) (sort : Bool) (nameOverride : Option String) :
    SameResult TopologyPlan.Same (compilePlan (manifest.settled sort) nameOverride) (compilePlan manifest nameOverride) := by
  have names : effectiveDeploymentName (manifest.settled sort) nameOverride = effectiveDeploymentName manifest nameOverride := by
    cases nameOverride <;> rfl
  have links : (manifest.settled sort).topology.links = manifest.topology.links := rfl
  simp only [compilePlan, names, links, fingerprint_settled]
  cases effectiveDeploymentName manifest nameOverride with
  | error error => exact rfl
  | ok deployment =>
    refine (compileNodes_settled valid deployment sort).bind fun first second equal => ?_
    rw [compileLink_same equal]
    cases Checks.collect manifest.topology.links.zipIdx (compileLink deployment second) with
    | error error => exact rfl
    | ok links => exact ⟨rfl, rfl, equal, rfl⟩

/-- Whatever the order of keys and the types of containers, a normal form is read back. -/
theorem validateManifest_normalized (valid : manifest.Valid) (sorted frozen : Bool) :
    validateManifest ((normalizedManifest manifest).reshape sorted frozen) = .ok (manifest.settled sorted) := by
  rw [← settle_manifest]
  exact manifestCodec.reads manifest sorted frozen valid

end Plans

section Main

theorem SameResult.trans {α : Type} {same : α → α → Prop} {first second third : Except PlanError α}
    (transitive : ∀ {left middle right}, same left middle → same middle right → same left right)
    (left : SameResult same first second) (right : SameResult same second third) : SameResult same first third := by
  cases first <;> cases second <;> cases third <;> simp_all only [SameResult]
  exact transitive left right

theorem SameResult.symm {α : Type} {same : α → α → Prop} {first second : Except PlanError α}
    (symmetric : ∀ {left right}, same left right → same right left) (results : SameResult same first second) :
    SameResult same second first := by
  cases first <;> cases second <;> first | exact symmetric results | exact Eq.symm results | exact results

end Main

end Nslab
