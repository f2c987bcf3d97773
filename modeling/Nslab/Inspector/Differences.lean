import Nslab.Inspector.Views

/-! The differences between a plan and live state, one by one. -/

namespace Nslab

open Collections

section Types

inductive InspectionValue where
  | absent
  | bool (value : Bool)
  | int (value : Int)
  | text (value : String)
  | texts (values : List (Option String))
deriving DecidableEq

namespace InspectionValue

def ofBool (value : Option Bool) : InspectionValue := (value.map bool).getD absent

def ofInt (value : Option Int) : InspectionValue := (value.map int).getD absent

def ofText (value : Option String) : InspectionValue := (value.map text).getD absent

def ofTexts (values : List String) : InspectionValue := texts (values.map some)

@[simp] theorem ofBool_inj {left right : Option Bool} : ofBool left = ofBool right ↔ left = right := by
  cases left <;> cases right <;> simp [ofBool]

@[simp] theorem ofInt_inj {left right : Option Int} : ofInt left = ofInt right ↔ left = right := by
  cases left <;> cases right <;> simp [ofInt]

@[simp] theorem ofText_inj {left right : Option String} : ofText left = ofText right ↔ left = right := by
  cases left <;> cases right <;> simp [ofText]

@[simp] theorem ofTexts_inj {left right : List String} : ofTexts left = ofTexts right ↔ left = right := by
  simp [ofTexts, List.map_inj_right]

end InspectionValue

inductive DifferenceScope where
  | deployment
  | node
  | interface
  | link
deriving DecidableEq

def DifferenceScope.name : DifferenceScope → String
  | .deployment => "deployment"
  | .node => "node"
  | .interface => "interface"
  | .link => "link"

inductive DifferenceSource where
  | state
  | live
deriving DecidableEq

def DifferenceSource.name : DifferenceSource → String
  | .state => "state"
  | .live => "live"

structure InspectionDifference where
  scope : DifferenceScope
  source : DifferenceSource
  property : String
  desired : InspectionValue
  actual : InspectionValue
  node : Option String := none
  interface : Option String := none
deriving DecidableEq

end Types

section Interfaces

open InspectionValue

/-- A property of an interface that is not as desired. -/
def compare (node : NodePlan) (interface property : String) (desired actual : InspectionValue) : List InspectionDifference :=
  if desired ≠ actual then
    [{ scope := .interface, source := .live, property, desired, actual, node := some node.name, interface := some interface }]
  else []

/-- A property that is only compared when the plan sets it. -/
def compareAsked (node : NodePlan) (interface property : String) (desired actual : InspectionValue) :
    List InspectionDifference :=
  if desired = .absent then [] else compare node interface property desired actual

@[simp] theorem compare_nil {node : NodePlan} {interface property : String} {desired actual : InspectionValue} :
    compare node interface property desired actual = [] ↔ desired = actual := by
  simp [compare]

@[simp] theorem compareAsked_nil {node : NodePlan} {interface property : String} {desired actual : InspectionValue} :
    compareAsked node interface property desired actual = [] ↔ (desired ≠ .absent → desired = actual) := by
  by_cases given : desired = .absent <;> simp [compareAsked, given]

def comparePort (node : NodePlan) (name : String) (desired actual : PortSettings) : List InspectionDifference :=
  compareAsked node name "path_cost" (ofInt desired.pathCost) (ofInt actual.pathCost) ++
  compareAsked node name "port_priority" (ofInt desired.portPriority) (ofInt actual.portPriority) ++
  compareAsked node name "hairpin" (ofBool desired.hairpin) (ofBool actual.hairpin) ++
  compareAsked node name "isolated" (ofBool desired.isolated) (ofBool actual.isolated) ++
  compareAsked node name "learning" (ofBool desired.learning) (ofBool actual.learning) ++
  compareAsked node name "flood" (ofBool desired.flood) (ofBool actual.flood) ++
  compareAsked node name "multicast_flood" (ofBool desired.multicastFlood) (ofBool actual.multicastFlood)

/-- An actual Geneve underlay is only compared when the backend reports one. -/
def compareProperties (node : NodePlan) (name : String) (desired actual : KindProperties String) : List InspectionDifference :=
  compare node name "parent" (ofText desired.parent) (ofText actual.parent) ++
  compare node name "vlan_id" (ofInt desired.vlanId) (ofInt actual.vlanId) ++
  compare node name "vrf_table" (ofInt desired.vrfTable) (ofInt actual.vrfTable) ++
  compare node name "bond_mode" (ofText desired.bondMode) (ofText actual.bondMode) ++
  compare node name "bond_miimon_ms" (ofInt desired.bondMiimonMs) (ofInt actual.bondMiimonMs) ++
  compare node name "bond_primary" (ofText desired.bondPrimary) (ofText actual.bondPrimary) ++
  compare node name "bond_lacp_rate" (ofText desired.bondLacpRate) (ofText actual.bondLacpRate) ++
  compare node name "bond_xmit_hash_policy" (ofText desired.bondXmitHashPolicy) (ofText actual.bondXmitHashPolicy) ++
  compare node name "bond_min_links" (ofInt desired.bondMinLinks) (ofInt actual.bondMinLinks) ++
  compare node name "vxlan_vni" (ofInt desired.vxlanVni) (ofInt actual.vxlanVni) ++
  compare node name "vxlan_link" (ofText desired.vxlanLink) (ofText actual.vxlanLink) ++
  compare node name "vxlan_local" (ofText desired.vxlanLocal) (ofText actual.vxlanLocal) ++
  compare node name "vxlan_remote" (ofText desired.vxlanRemote) (ofText actual.vxlanRemote) ++
  compare node name "vxlan_dst_port" (ofInt desired.vxlanDstPort) (ofInt actual.vxlanDstPort) ++
  compare node name "vxlan_learning" (ofBool desired.vxlanLearning) (ofBool actual.vxlanLearning) ++
  compare node name "geneve_vni" (ofInt desired.geneveVni) (ofInt actual.geneveVni) ++
  (if actual.geneveLink = none then [] else
    compare node name "geneve_link" (ofText desired.geneveLink) (ofText actual.geneveLink)) ++
  compare node name "geneve_remote" (ofText desired.geneveRemote) (ofText actual.geneveRemote) ++
  compare node name "geneve_dst_port" (ofInt desired.geneveDstPort) (ofInt actual.geneveDstPort) ++
  compare node name "gre_link" (ofText desired.greLink) (ofText actual.greLink) ++
  compare node name "gre_local" (ofText desired.greLocal) (ofText actual.greLocal) ++
  compare node name "gre_remote" (ofText desired.greRemote) (ofText actual.greRemote) ++
  compare node name "gre_key" (ofInt desired.greKey) (ofInt actual.greKey) ++
  compare node name "gre_ttl" (ofInt desired.greTtl) (ofInt actual.greTtl) ++
  compare node name "ipip_link" (ofText desired.ipipLink) (ofText actual.ipipLink) ++
  compare node name "ipip_local" (ofText desired.ipipLocal) (ofText actual.ipipLocal) ++
  compare node name "ipip_remote" (ofText desired.ipipRemote) (ofText actual.ipipRemote) ++
  compare node name "ipip_ttl" (ofInt desired.ipipTtl) (ofInt actual.ipipTtl) ++
  compare node name "macvlan_mode" (ofText desired.macvlanMode) (ofText actual.macvlanMode) ++
  compare node name "ipvlan_mode" (ofText desired.ipvlanMode) (ofText actual.ipvlanMode)

variable [SetOrder]

def compareInterface (node : NodePlan) (desired : InterfaceView) (actual : InterfaceInventory) : List InspectionDifference :=
  compare node desired.name "name" (.text desired.name) (.text actual.name) ++
  compare node desired.name "kind" (.text desired.kind) (.text actual.kind) ++
  compare node desired.name "master" (ofText desired.master) (ofText actual.master) ++
  compareAsked node desired.name "mtu" (ofInt desired.mtu) (.int actual.mtu) ++
  compare node desired.name "up" (.bool desired.up) (.bool actual.up) ++
  compare node desired.name "addresses" (ofTexts desired.addresses) (ofTexts (addressStrings actual.addresses)) ++
  compareAsked node desired.name "mac" (ofText desired.mac) (ofText actual.mac) ++
  compare node desired.name "stp" (ofBool desired.stp) (ofBool actual.stp) ++
  compare node desired.name "vlan_filtering" (ofBool desired.vlanFiltering) (ofBool actual.vlanFiltering) ++
  compareAsked node desired.name "bridge_priority" (ofInt desired.bridgePriority) (ofInt actual.bridgePriority) ++
  comparePort node desired.name desired.toPortSettings actual.toPortSettings ++
  compare node desired.name "bridge_vlans" (ofTexts desired.bridgeVlans) (ofTexts (bridgeVlanStrings actual.bridgeVlans)) ++
  compare node desired.name "netem" (ofText desired.netem) (ofText (actual.netem.map netemString)) ++
  compare node desired.name "qdisc" (ofText desired.qdisc) (ofText (actual.qdisc.map qdiscString)) ++
  compareProperties node desired.name desired.toKindProperties (actual.toKindProperties.map addressString)

end Interfaces

section Nodes

open InspectionValue

variable [SetOrder]

def nodeDifference (node : NodePlan) (property : String) (desired actual : InspectionValue) : InspectionDifference :=
  { scope := .node, source := .live, property, desired, actual, node := some node.name }

/-- A difference that is there when its condition does not hold. -/
def reportUnless (holds : Prop) [Decidable holds] (difference : InspectionDifference) : List InspectionDifference :=
  if holds then [] else [difference]

def presence (node : NodePlan) (interface : String) (desired : Bool) : InspectionDifference :=
  { scope := .interface, source := .live, property := "present", desired := .bool desired, actual := .bool !desired
    node := some node.name, interface := some interface }

/-- The differences of a namespace that exists, beyond its identity. -/
def observedDifferences (plan : TopologyPlan) (node : NodePlan) (observed : NamespaceInventory) :
    Except PlanError (List InspectionDifference) := do
  let views ← desiredInterfaces node plan
  let desired := Dict.ofEntries (views.map fun interface => (interface.name, interface))
  let missing := desired.keys.filter (· ∉ observed.interfaces.keys)
  let unexpected := observed.interfaces.keys.filter fun name =>
    name ∉ desired.keys ∧ name ∉ runtimeManagedInterfaceNames node
  let compared := desired.entries.flatMap fun (name, interface) =>
    ((observed.interfaces.get? name).map (compareInterface node interface)).getD []
  let routes ← expectedRoutes node
  pure ((missing.insertionSort (· ≤ ·)).map (presence node · true) ++
    (unexpected.insertionSort (· ≤ ·)).map (presence node · false) ++
    compared ++
    reportUnless (routesMatch node routes observed.routes = true)
      (nodeDifference node "routes" (ofTexts (routeStrings routes)) (ofTexts (routeStrings observed.routes))) ++
    reportUnless (SameSet node.rules observed.rules)
      (nodeDifference node "rules" (ofTexts (ruleStrings node.rules)) (ofTexts (ruleStrings observed.rules))) ++
    reportUnless (neighborsMatch node.neighbors observed.neighbors = true)
      (nodeDifference node "neighbors" (ofTexts (neighborStrings node.neighbors)) (ofTexts (neighborStrings observed.neighbors))) ++
    node.sysctls.entries.flatMap fun (name, value) => reportUnless (observed.sysctls.get? name = some value)
      (nodeDifference node ("sysctl." ++ name) (.int value) (ofInt (observed.sysctls.get? name))))

def nodeDifferences (plan : TopologyPlan) (inventory : LiveInventory) (node : NodePlan) :
    Except PlanError (List InspectionDifference) :=
  let absent := nodeDifference node "exists" (.bool true) (.bool false)
  match inventory.namespaces.get? node.netns with
  | none => .ok [absent]
  | some observed =>
    let identity :=
      reportUnless (node.name = observed.node) (nodeDifference node "name" (.text node.name) (.text observed.node)) ++
      reportUnless (node.kind = observed.kind) (nodeDifference node "kind" (.text node.kind.name) (.text observed.kind.name)) ++
      reportUnless (node.netns = observed.netns) (nodeDifference node "namespace" (.text node.netns) (.text observed.netns))
    if observed.live = false then .ok (identity ++ [absent])
    else do
      let differences ← observedDifferences plan node observed
      pure (identity ++ differences)

end Nodes

section Links

/-- What is observed at an endpoint of a namespace that exists. -/
def observedEndpoint (inventory : LiveInventory) (endpoint : EndpointPlan) : Option InterfaceInventory :=
  (inventory.namespaces.get? endpoint.netns).bind fun observed =>
    if observed.live then observed.interfaces.get? endpoint.interface else none

/-- The veth ends of existing namespaces that carry a link id. -/
def observedLinkGroup (inventory : LiveInventory) (linkId : String) : List (String × String) :=
  inventory.namespaces.entries.flatMap fun (netns, observed) =>
    if observed.live then
      (observed.interfaces.entries.filter fun (_, interface) => interface.kind = "veth" ∧ interface.linkId = some linkId).map
        fun (name, _) => (netns, name)
    else []

/-- The `present` of `_actual_link_view`: both ends are there and carry one link id, which no other end carries. -/
def linkPresent (inventory : LiveInventory) (link : LinkPlan) : Bool :=
  match observedEndpoint inventory link.left, observedEndpoint inventory link.right with
  | some left, some right => match left.linkId with
    | none => false
    | some linkId => left.kind = "veth" ∧ right.kind = "veth" ∧ linkId ≠ "" ∧ right.linkId = some linkId ∧
        SameSet (observedLinkGroup inventory linkId) link.group
  | _, _ => false

def endpointLabels (link : LinkPlan) : List String :=
  link.endpoints.map fun endpoint => ownershipKey endpoint.node endpoint.interface

def linkSignature (inventory : LiveInventory) (link : LinkPlan) : List String :=
  link.endpoints.map fun endpoint =>
    let linkId := (((observedEndpoint inventory endpoint).bind (·.linkId)).filter (· ≠ "")).getD "<missing>"
    ownershipKey endpoint.node endpoint.interface ++ "#" ++ linkId

def linkDifferences (inventory : LiveInventory) (link : LinkPlan) : List InspectionDifference :=
  reportUnless (linkPresent inventory link = true)
    { scope := .link, source := .live, property := "link", desired := .ofTexts (endpointLabels link)
      actual := .ofTexts (linkSignature inventory link), node := some link.left.node, interface := some link.left.interface }

/-- The nodes that temporary interfaces are planned for. -/
def temporaryOwners (plan : TopologyPlan) : Dict String String :=
  .ofEntries (plan.links.flatMap fun link => link.endpoints.map fun endpoint => (endpoint.temporaryName, endpoint.node))

def rootDifferences (plan : TopologyPlan) (inventory : LiveInventory) : List InspectionDifference :=
  (inventory.rootInterfaces.keys.insertionSort (· ≤ ·)).map fun name =>
    { scope := .interface, source := .live, property := "root_temporary.present", desired := .bool false, actual := .bool true
      node := (temporaryOwners plan).get? name, interface := some name }

end Links

variable [SetOrder]

/-- `_live_differences`: the differences, and the nodes that they affect. -/
def liveDifferences (plan : TopologyPlan) (inventory : LiveInventory) :
    Except PlanError (List InspectionDifference × List String) := do
  let namespaces := reportUnless (SameSet inventory.namespaces.keys (plannedNamespaces plan))
    { scope := .deployment, source := .live, property := "inventory.namespaces"
      desired := .ofTexts ((Dict.fromKeys (plannedNamespaces plan)).insertionSort (· ≤ ·))
      actual := .ofTexts (inventory.namespaces.keys.insertionSort (· ≤ ·)) }
  let nodes ← Checks.collect plan.nodes.values fun node => (nodeDifferences plan inventory node).map (node.name, ·)
  let links := plan.links.filter fun link => linkPresent inventory link = false
  let roots := rootDifferences plan inventory
  pure (namespaces ++ nodes.flatMap Prod.snd ++ links.flatMap (linkDifferences inventory) ++ roots,
    (nodes.filter (·.2 ≠ [])).map Prod.fst ++ links.flatMap (fun link => [link.left.node, link.right.node]) ++
      roots.filterMap (·.node))

end Nslab
