import Nslab.Plan.Interfaces
import Nslab.Library.Paths

/-! The files below the sysctl root that a node is configured through and observed
by. The key of a setting names its file: its dots stand between components. -/

namespace Nslab

section Files

/-- `sysctl_root.joinpath(*key.split("."))`. -/
def sysctlPath (root : PurePath) (key : String) : PurePath :=
  root.joinpath ((Text.split '.' key.toList).map String.ofList)

/-- What configuring a node writes, file by file. -/
def writeSysctls (root : PurePath) (node : NodePlan) : List (PurePath × String) :=
  node.sysctls.entries.map fun (key, value) => (sysctlPath root key, toString value ++ "\n")

/-- What the inventory of a node reads, from files that hold numbers. -/
def readSysctls {ε : Type} (files : PurePath → Except ε Int) (root : PurePath) (node : NodePlan) : Except ε (Dict String Int) := do
  let entries ← Checks.collect node.sysctls.keys fun key => (files (sysctlPath root key)).map (key, ·)
  pure (.ofEntries entries)

/-- The key that the planner gives to a proxy neighbor. -/
def proxyKey (neighbor : NeighborPlan) : String :=
  if neighbor.dst.version = 4 then "net.ipv4.conf." ++ neighbor.dev ++ ".proxy_arp"
  else "net.ipv6.conf." ++ neighbor.dev ++ ".proxy_ndp"

/-- The components below the root of the file that switches proxying on for an interface. -/
def proxyComponents (neighbor : NeighborPlan) : List String :=
  if neighbor.dst.version = 4 then ["net", "ipv4", "conf", neighbor.dev, "proxy_arp"]
  else ["net", "ipv6", "conf", neighbor.dev, "proxy_ndp"]

/-- The settings of a node are in the files of the interfaces they are about, each in its own. -/
structure NodePlan.SysctlsFaithful (root : PurePath) (node : NodePlan) : Prop where
  written : ∀ neighbor ∈ node.neighbors, neighbor.proxy = true →
    (root ++ proxyComponents neighbor, "1\n") ∈ writeSysctls root node
  observed : ∀ neighbor ∈ node.neighbors, neighbor.proxy = true → ∀ (files : PurePath → Except String Int) values,
    readSysctls files root node = .ok values →
    ∃ value, values.get? (proxyKey neighbor) = some value ∧ files (root ++ proxyComponents neighbor) = .ok value
  apart : ∀ left ∈ node.sysctls.keys, ∀ right ∈ node.sysctls.keys, sysctlPath root left = sysctlPath root right → left = right

end Files

section Keys

/-- A key that its path keeps whole: no component is empty, none reaches further. -/
structure PlainKey (key : String) : Prop where
  slash : '/' ∉ key.toList
  full : [] ∉ Text.split '.' key.toList

theorem sysctlPath_slash (root : PurePath) {key : String} (slash : '/' ∉ key.toList) :
    ∃ below : List String, sysctlPath root key = root ++ below ∧ ∀ name ∈ below, '.' ∉ name.toList := by
  have parts : ∀ text ∈ (Text.split '.' key.toList).map String.ofList, '/' ∉ text.toList ∧ '.' ∉ text.toList := by
    intro text member
    obtain ⟨part, inside, rfl⟩ := List.mem_map.mp member
    rw [String.toList_ofList]
    exact ⟨fun bad => slash (Text.mem_of_mem_split inside bad).1, fun bad => (Text.mem_of_mem_split inside bad).2 rfl⟩
  refine ⟨_, PurePath.joinpath_of_slash fun text member => (parts text member).1, ?_⟩
  intro name member
  obtain ⟨text, inside, within⟩ := List.mem_flatMap.mp member
  rw [PurePath.parts_of_slash (parts text inside).1] at within
  split at within
  next => simp at within
  next => exact List.mem_singleton.mp within ▸ (parts text inside).2

theorem sysctlPath_plain {root : PurePath} {key : String} (plain : PlainKey key) :
    sysctlPath root key = root ++ (Text.split '.' key.toList).map String.ofList := by
  refine PurePath.joinpath_components fun text member => ?_
  obtain ⟨part, inside, rfl⟩ := List.mem_map.mp member
  constructor
  · rw [String.toList_ofList]
    exact fun bad => plain.slash (Text.mem_of_mem_split inside bad).1
  · rw [String.toList_ofList]
    exact fun empty => plain.full (empty ▸ inside)
  · rw [String.toList_ofList]
    intro dot
    exact (Text.mem_of_mem_split inside (dot ▸ List.mem_singleton_self '.')).2 rfl

/-- Keys that their paths keep whole have paths of their own. -/
theorem sysctlPath_injective {root : PurePath} {left right : String} (plainLeft : PlainKey left) (plainRight : PlainKey right)
    (same : sysctlPath root left = sysctlPath root right) : left = right := by
  rw [sysctlPath_plain plainLeft, sysctlPath_plain plainRight, List.append_cancel_left_eq] at same
  have parts := List.map_injective_iff.mpr (fun _ _ equal => String.ofList_inj.mp equal) same
  rw [← String.toList_inj, ← Text.join_split '.' left.toList, parts, Text.join_split]

theorem plainKey_allowed {key : String} (allowed : key ∈ allowedSysctls) : PlainKey key := by
  simp only [allowedSysctls, List.mem_cons, List.not_mem_nil, or_false] at allowed
  cases allowed with
  | inl same =>
    subst same
    exact ⟨by decide, by decide⟩
  | inr same =>
    subst same
    exact ⟨by decide, by decide⟩

theorem not_mem_interfaceName {name : String} (valid : isInterfaceName name = true) : '/' ∉ name.toList ∧ name.toList ≠ [] := by
  simp only [isInterfaceName, Bool.and_eq_true, List.all_eq_true, decide_eq_true_eq] at valid
  obtain ⟨⟨positive, _⟩, letters⟩ := valid
  constructor
  · intro slash
    exact absurd (letters '/' slash) (by decide)
  · intro empty
    simp [empty] at positive

/-- The key of a proxy neighbor, as characters between dots. -/
theorem proxyKey_join (neighbor : NeighborPlan) :
    (proxyKey neighbor).toList = Text.join '.' ((proxyComponents neighbor).map String.toList) := by
  unfold proxyKey proxyComponents
  split
  · simp [Text.join, List.intercalate, List.intersperse]
  · simp [Text.join, List.intercalate, List.intersperse]

/-- The interface of a neighbor without a dot is one component of the path. -/
theorem split_proxyKey {neighbor : NeighborPlan} (dotless : '.' ∉ neighbor.dev.toList) :
    (Text.split '.' (proxyKey neighbor).toList).map String.ofList = proxyComponents neighbor := by
  rw [proxyKey_join, Text.split_join]
  · simp
  · unfold proxyComponents
    split <;> simp
  · intro part member
    obtain ⟨text, inside, rfl⟩ := List.mem_map.mp member
    unfold proxyComponents at inside
    split at inside
    all_goals
      simp only [List.mem_cons, List.not_mem_nil, or_false] at inside
      obtain rfl | rfl | rfl | rfl | rfl := inside
      · decide
      · decide
      · decide
      · exact dotless
      · decide

theorem plainKey_proxy {neighbor : NeighborPlan} (named : isInterfaceName neighbor.dev = true)
    (dotless : '.' ∉ neighbor.dev.toList) : PlainKey (proxyKey neighbor) := by
  obtain ⟨slash, full⟩ := not_mem_interfaceName named
  constructor
  · unfold proxyKey
    split
    all_goals
      simp only [String.toList_append, List.mem_append, not_or]
      exact ⟨⟨by decide, slash⟩, by decide⟩
  · intro empty
    have member : "" ∈ proxyComponents neighbor := split_proxyKey dotless ▸ List.mem_map_of_mem empty
    unfold proxyComponents at member
    split at member
    all_goals
      simp only [List.mem_cons, List.not_mem_nil, or_false] at member
      obtain same | same | same | same | same := member
      · exact absurd same (by decide)
      · exact absurd same (by decide)
      · exact absurd same (by decide)
      · exact full (by rw [← same]; rfl)
      · exact absurd same (by decide)

end Keys

namespace Manifest.Plans

variable {manifest : Manifest} {plan : TopologyPlan}

theorem compileNeighbor_key (neighbor : NeighborConfig) : proxySysctl neighbor =
    if neighbor.proxy then some (proxyKey (compileNeighbor neighbor), 1) else none := by
  simp only [proxySysctl, proxyKey, compileNeighbor, ipAddress_eq]

theorem neighbor_dev (plans : manifest.Plans plan) {node : NodePlan} (member : node ∈ plan.nodes.values)
    {neighbor : NeighborPlan} (declared : neighbor ∈ node.neighbors) : isInterfaceName neighbor.dev = true := by
  obtain ⟨config, routes, _, shape, _, holds, _⟩ := plans.node (plans.found_of_mem member)
  rw [shape] at declared
  obtain ⟨original, inside, rfl⟩ := List.mem_map.mp declared
  exact NodeBase.neighbors_of_holds (NodeConfig.base_of_holds holds) original inside

/-- A setting of a planned node is an allowed one, or that of a proxy neighbor. -/
theorem sysctl_key (plans : manifest.Plans plan) {node : NodePlan} (member : node ∈ plan.nodes.values) {key : String}
    (listed : key ∈ node.sysctls.keys) :
    key ∈ allowedSysctls ∨ ∃ neighbor ∈ node.neighbors, neighbor.proxy = true ∧ key = proxyKey neighbor := by
  obtain ⟨config, routes, _, shape, _, holds, _⟩ := plans.node (plans.found_of_mem member)
  have base := NodeConfig.base_of_holds holds
  rw [shape] at listed ⊢
  cases Dict.mem_keys_update.mp listed with
  | inl given => exact .inl (NodeBase.sysctls_of_holds base key given)
  | inr proxied =>
    obtain ⟨entry, inside, rfl⟩ := List.mem_map.mp proxied
    obtain ⟨neighbor, declared, switched⟩ := List.mem_filterMap.mp inside
    rw [compileNeighbor_key] at switched
    split at switched
    next proxy => exact .inr ⟨_, List.mem_map_of_mem declared, proxy, by rw [← Option.some.inj switched]⟩
    next => cases switched

/-- A proxy neighbor switches its setting on. -/
theorem sysctl_proxy (plans : manifest.Plans plan) {node : NodePlan} (member : node ∈ plan.nodes.values)
    {neighbor : NeighborPlan} (declared : neighbor ∈ node.neighbors) (proxy : neighbor.proxy = true) :
    node.sysctls.get? (proxyKey neighbor) = some 1 := by
  obtain ⟨config, routes, _, shape, _, _, _⟩ := plans.node (plans.found_of_mem member)
  rw [shape] at declared ⊢
  obtain ⟨original, inside, rfl⟩ := List.mem_map.mp declared
  have switched : proxySysctl original = some (proxyKey (compileNeighbor original), 1) := by
    rw [compileNeighbor_key]
    exact if_pos proxy
  have ones : ∀ entry ∈ config.toNodeBase.neighbors.filterMap proxySysctl, entry.2 = 1 := by
    intro entry listed
    obtain ⟨other, _, shape⟩ := List.mem_filterMap.mp listed
    rw [compileNeighbor_key] at shape
    split at shape
    next => rw [← Option.some.inj shape]
    next => cases shape
  change (compileSysctls config.toNodeBase).get? _ = _
  rw [compileSysctls, Dict.get?_update]
  cases found : (config.toNodeBase.neighbors.filterMap proxySysctl).reverse.lookup (proxyKey (compileNeighbor original)) with
  | none =>
    rw [List.lookup_eq_none_iff] at found
    have absent := found _ (List.mem_reverse.mpr (List.mem_filterMap.mpr ⟨original, inside, switched⟩))
    simp at absent
  | some value =>
    obtain ⟨before, after, split, _⟩ := List.lookup_eq_some_iff.mp found
    have listed : (proxyKey (compileNeighbor original), value) ∈ config.toNodeBase.neighbors.filterMap proxySysctl := by
      rw [← List.mem_reverse, split]
      simp
    rw [Option.some_or, ← ones _ listed]

/-- The settings of a node are in files of their own exactly when no interface of a proxy neighbor has a dot in its name. -/
theorem sysctlsFaithful_iff (plans : manifest.Plans plan) (root : PurePath) {node : NodePlan} (member : node ∈ plan.nodes.values) :
    node.SysctlsFaithful root ↔ ∀ neighbor ∈ node.neighbors, neighbor.proxy = true → '.' ∉ neighbor.dev.toList := by
  constructor
  · intro faithful neighbor declared proxy dotted
    obtain ⟨⟨key, value⟩, listed, same⟩ := List.mem_map.mp (faithful.written neighbor declared proxy)
    have slash : '/' ∉ key.toList := by
      cases plans.sysctl_key member (List.mem_map_of_mem (f := Prod.fst) listed) with
      | inl allowed => exact (plainKey_allowed allowed).slash
      | inr other =>
        obtain ⟨other, inside, _, rfl⟩ := other
        unfold proxyKey
        split
        all_goals
          simp only [String.toList_append, List.mem_append, not_or]
          exact ⟨⟨by decide, (not_mem_interfaceName (plans.neighbor_dev member inside)).1⟩, by decide⟩
    obtain ⟨below, path, dotless⟩ := sysctlPath_slash root slash
    have shape := congrArg Prod.fst same
    simp only [path, List.append_cancel_left_eq] at shape
    refine dotless neighbor.dev ?_ dotted
    rw [shape, proxyComponents]
    split <;> simp
  · intro dotless
    have plain : ∀ key ∈ node.sysctls.keys, PlainKey key := by
      intro key listed
      cases plans.sysctl_key member listed with
      | inl allowed => exact plainKey_allowed allowed
      | inr proxied =>
        obtain ⟨neighbor, declared, proxy, rfl⟩ := proxied
        exact plainKey_proxy (plans.neighbor_dev member declared) (dotless neighbor declared proxy)
    have located : ∀ neighbor ∈ node.neighbors, neighbor.proxy = true →
        proxyKey neighbor ∈ node.sysctls.keys ∧ sysctlPath root (proxyKey neighbor) = root ++ proxyComponents neighbor := by
      intro neighbor declared proxy
      have listed := Dict.mem_keys_of_get? (plans.sysctl_proxy member declared proxy)
      exact ⟨listed, by rw [sysctlPath_plain (plain _ listed), split_proxyKey (dotless neighbor declared proxy)]⟩
    refine ⟨?_, ?_, fun left inLeft right inRight => sysctlPath_injective (plain left inLeft) (plain right inRight)⟩
    · intro neighbor declared proxy
      have stored := Dict.get?_iff.mp (plans.sysctl_proxy member declared proxy)
      refine List.mem_map.mpr ⟨_, stored, ?_⟩
      have path := (located neighbor declared proxy).2
      exact Prod.ext path rfl
    · intro neighbor declared proxy files values taken
      simp only [readSysctls, Checks.bind_ok, Checks.pure_ok] at taken
      obtain ⟨entries, collected, rfl⟩ := taken
      obtain ⟨names, each⟩ := Checks.collect_keyed collected
      obtain ⟨listed, path⟩ := located neighbor declared proxy
      obtain ⟨value, read, inside⟩ := each _ listed
      have distinct : (entries.map Prod.fst).Nodup := names ▸ node.sysctls.keys_nodup
      refine ⟨value, ?_, path ▸ read⟩
      rw [Dict.get?_iff, Dict.entries_ofEntries distinct]
      exact inside

end Manifest.Plans

/-- Proxying is switched on in the right files exactly when no interface of a proxy neighbor has a dot in its name. -/
theorem compilePlan_sysctls {manifest : Manifest} {nameOverride : Option String} {plan : TopologyPlan}
    (accepted : manifest.Accepted) (compiled : compilePlan manifest nameOverride = .ok plan) (root : PurePath) :
    (∀ node ∈ plan.nodes.values, node.SysctlsFaithful root) ↔
      ∀ node ∈ plan.nodes.values, ∀ neighbor ∈ node.neighbors, neighbor.proxy = true → '.' ∉ neighbor.dev.toList :=
  forall₂_congr fun _ member => (accepted.plans compiled).sysctlsFaithful_iff root member

section Examples

/-- A node that answers for a neighbor on one of its interfaces. -/
def proxyDocument (interface : String) : Document :=
  .dict [("version", .int 1), ("name", .str "lab"), ("topology", .dict [
    ("nodes", .dict [
      ("r", .dict [("kind", .str "linux"),
        ("neighbors", .list [.dict [("dst", .str "10.0.0.9"), ("dev", .str interface), ("proxy", .bool true)]])]),
      ("s", .dict [("kind", .str "linux")])]),
    ("links", .list [.dict [("endpoints", .list [.str ("r:" ++ interface), .str "s:eth0"])]])])]

def procSys : PurePath := ["proc", "sys"]

theorem compilePlan_sysctls_plain : ∃ manifest plan, validateManifest (proxyDocument "eth0") = .ok manifest ∧
    compilePlan manifest none = .ok plan ∧ ∀ node ∈ plan.nodes.values, node.SysctlsFaithful procSys := by
  obtain ⟨manifest, plan, read, accepted, compiled, dotless⟩ := Manifest.compiled_of_test (proxyDocument "eth0") (by decide +kernel)
    (fun plan => plan.nodes.values.all fun node => node.neighbors.all fun neighbor =>
      !neighbor.proxy || neighbor.dev.toList.all (· ≠ '.')) (by decide +kernel)
  refine ⟨manifest, plan, read, compiled, (compilePlan_sysctls accepted compiled procSys).mpr ?_⟩
  simp only [List.all_eq_true, Bool.or_eq_true, Bool.not_eq_true', decide_eq_true_eq] at dotless
  intro node member neighbor declared proxy dotted
  cases dotless node member neighbor declared with
  | inl off => simp [proxy] at off
  | inr letters => exact letters '.' dotted rfl

/-- The setting of `eth0.1` goes to a file of an interface `eth0`. -/
theorem sysctls_of_dotted_interface : ∃ manifest plan, validateManifest (proxyDocument "eth0.1") = .ok manifest ∧
    manifest.Accepted ∧ compilePlan manifest none = .ok plan ∧
    ∃ node ∈ plan.nodes.values, writeSysctls procSys node =
      [(procSys ++ ["net", "ipv4", "conf", "eth0", "1", "proxy_arp"], "1\n")] ∧ ¬ node.SysctlsFaithful procSys := by
  obtain ⟨manifest, plan, read, accepted, compiled, found⟩ := Manifest.compiled_of_test (proxyDocument "eth0.1") (by decide +kernel)
    (fun plan => plan.nodes.values.any fun node => writeSysctls procSys node =
      [(procSys ++ ["net", "ipv4", "conf", "eth0", "1", "proxy_arp"], "1\n")] ∧
      (node.neighbors.any fun neighbor => neighbor.proxy && neighbor.dev.toList.any (· = '.')) = true) (by decide +kernel)
  obtain ⟨node, member, both⟩ := List.any_eq_true.mp found
  obtain ⟨written, dotted⟩ := of_decide_eq_true both
  refine ⟨manifest, plan, read, accepted, compiled, node, member, written, ?_⟩
  intro faithful
  obtain ⟨neighbor, declared, proxied⟩ := List.any_eq_true.mp dotted
  simp only [Bool.and_eq_true, List.any_eq_true, decide_eq_true_eq] at proxied
  obtain ⟨proxy, char, inside, rfl⟩ := proxied
  exact ((accepted.plans compiled).sysctlsFaithful_iff procSys member).mp faithful neighbor declared proxy inside

end Examples

end Nslab
