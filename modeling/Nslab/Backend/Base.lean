import Nslab.Backend.Inventory
import Nslab.Backend.TcQdisc
import Nslab.Library.Collections

/-! Whether live state satisfies a plan, and whether its links are those once recorded. -/

namespace Nslab

open Collections

section Interfaces

variable [RedEvaluation]

/-- Only what a plan sets is compared. -/
def Asked {α : Type} (desired observed : Option α) : Prop := desired ≠ none → observed = desired

instance {α : Type} [DecidableEq α] (desired observed : Option α) : Decidable (Asked desired observed) := by
  unfold Asked
  infer_instance

structure PortSettings.Asked (desired observed : PortSettings) : Prop where
  pathCost : Nslab.Asked desired.pathCost observed.pathCost
  portPriority : Nslab.Asked desired.portPriority observed.portPriority
  hairpin : Nslab.Asked desired.hairpin observed.hairpin
  isolated : Nslab.Asked desired.isolated observed.isolated
  learning : Nslab.Asked desired.learning observed.learning
  flood : Nslab.Asked desired.flood observed.flood
  multicastFlood : Nslab.Asked desired.multicastFlood observed.multicastFlood

instance (desired observed : PortSettings) : Decidable (desired.Asked observed) :=
  decidable_of_iff (Nslab.Asked desired.pathCost observed.pathCost ∧ Nslab.Asked desired.portPriority observed.portPriority ∧
    Nslab.Asked desired.hairpin observed.hairpin ∧ Nslab.Asked desired.isolated observed.isolated ∧
    Nslab.Asked desired.learning observed.learning ∧ Nslab.Asked desired.flood observed.flood ∧
    Nslab.Asked desired.multicastFlood observed.multicastFlood)
    ⟨fun ⟨cost, priority, hairpin, isolated, learning, flood, multicast⟩ =>
      ⟨cost, priority, hairpin, isolated, learning, flood, multicast⟩,
    fun asked => ⟨asked.pathCost, asked.portPriority, asked.hairpin, asked.isolated, asked.learning, asked.flood,
      asked.multicastFlood⟩⟩

/-- The kernel cannot report the underlay of a Geneve device. Every other property is compared as it is. -/
def KindProperties.Match {α : Type} (desired observed : KindProperties α) : Prop :=
  { observed with geneveLink := none } = { desired with geneveLink := none } ∧
    (observed.geneveLink ≠ none → observed.geneveLink = desired.geneveLink)

instance {α : Type} [DecidableEq α] (desired observed : KindProperties α) : Decidable (desired.Match observed) := by
  unfold KindProperties.Match
  infer_instance

def leafMatches (desired observed : LeafPlan) : Bool :=
  match desired, observed with
  | .simple desired, .simple observed => simpleQdiscMatches desired observed
  | .fqCodel desired, .fqCodel observed => desired = observed
  | _, _ => false

/-- The kernel rounds the burst and the latency of a token bucket filter. -/
def tbfMatches (desired observed : TbfPlan) : Bool :=
  desired.rate = observed.rate ∧ |desired.burstBytes - observed.burstBytes| ≤ max 2 (desired.burstBytes.fdiv 1000) ∧
    |desired.latencyMs - observed.latencyMs| ≤ 1

def qdiscMatches (desired observed : Option QdiscPlan) : Bool :=
  match desired, observed with
  | none, none => true
  | some (.simple desired), some (.simple observed) => simpleQdiscMatches desired observed
  | some (.htb desired), some (.htb observed) => desired.rate = observed.rate ∧ leafMatches desired.leaf observed.leaf = true
  | some (.tbf desired), some (.tbf observed) => tbfMatches desired observed
  | some (.fqCodel desired), some (.fqCodel observed) => desired = observed
  | some (.cake desired), some (.cake observed) => desired = observed
  | _, _ => false

/-- One interface is as expected. -/
structure ExpectedInterface.Match (name : String) (desired : ExpectedInterface) (observed : InterfaceInventory) : Prop where
  name : observed.name = name
  kind : observed.kind = desired.kind
  master : observed.master = desired.master
  mtu : ∀ mtu, desired.mtu = some mtu → observed.mtu = mtu
  up : observed.up = desired.up
  addresses : SameSet observed.addresses desired.addresses
  mac : Asked desired.mac observed.mac
  stp : observed.stp = desired.stp
  vlanFiltering : observed.vlanFiltering = desired.vlanFiltering
  bridgePriority : Asked desired.bridgePriority observed.bridgePriority
  port : desired.toPortSettings.Asked observed.toPortSettings
  bridgeVlans : observed.bridgeVlans = desired.bridgeVlans
  netem : observed.netem = desired.netem
  qdisc : qdiscMatches desired.qdisc observed.qdisc = true
  properties : desired.toKindProperties.Match observed.toKindProperties

instance (name : String) (desired : ExpectedInterface) (observed : InterfaceInventory) :
    Decidable (desired.Match name observed) :=
  have mtu : Decidable (∀ mtu, desired.mtu = some mtu → observed.mtu = mtu) :=
    match desired.mtu with
    | none => .isTrue nofun
    | some mtu => decidable_of_iff (observed.mtu = mtu) (by simp)
  decidable_of_iff (observed.name = name ∧ observed.kind = desired.kind ∧ observed.master = desired.master ∧
    (∀ mtu, desired.mtu = some mtu → observed.mtu = mtu) ∧ observed.up = desired.up ∧
    SameSet observed.addresses desired.addresses ∧ Asked desired.mac observed.mac ∧ observed.stp = desired.stp ∧
    observed.vlanFiltering = desired.vlanFiltering ∧ Asked desired.bridgePriority observed.bridgePriority ∧
    desired.toPortSettings.Asked observed.toPortSettings ∧ observed.bridgeVlans = desired.bridgeVlans ∧
    observed.netem = desired.netem ∧ qdiscMatches desired.qdisc observed.qdisc = true ∧
    desired.toKindProperties.Match observed.toKindProperties)
    ⟨fun ⟨name, kind, master, mtu, up, addresses, mac, stp, filtering, priority, port, vlans, netem, qdisc, properties⟩ =>
      ⟨name, kind, master, mtu, up, addresses, mac, stp, filtering, priority, port, vlans, netem, qdisc, properties⟩,
    fun matched => ⟨matched.name, matched.kind, matched.master, matched.mtu, matched.up, matched.addresses, matched.mac,
      matched.stp, matched.vlanFiltering, matched.bridgePriority, matched.port, matched.bridgeVlans, matched.netem,
      matched.qdisc, matched.properties⟩⟩

def interfacesMatch (expected : Dict String ExpectedInterface) (actual : Dict String InterfaceInventory) : Bool :=
  SameSet actual.keys expected.keys ∧ expected.entries.all (fun (name, desired) =>
    (actual.get? name).any fun observed => desired.Match name observed) = true

/-- The kernel interfaces that a routing protocol brings up on its own. -/
def runtimeManagedInterfaceNames (node : NodePlan) : List String :=
  if (node.routing.bind (·.pim)).isSome then [pimRegisterInterfaceName] else []

end Interfaces

section Nodes

/-- Daemons add and withdraw routes of their own. -/
def routesMatch (node : NodePlan) (desired actual : List RoutePlan) : Bool :=
  if node.routing.isSome then ∀ route ∈ desired, route ∈ actual else SameSet actual desired

def declaredSysctlsMatch (desired actual : Dict String Int) : Bool :=
  desired.entries.all fun (key, value) => actual.get? key = some value

def healthyDynamicNeighborStates : List NeighborState := [.reachable, .stale, .delay, .probe]

/-- One neighbor is as declared, or in a state that it reaches by itself. -/
def neighborMatches (expected observed : NeighborPlan) : Bool :=
  observed.lladdr = expected.lladdr ∧ observed.proxy = expected.proxy ∧
    if expected.state = some .reachable ∨ expected.state = some .stale then
      observed.state.any (· ∈ healthyDynamicNeighborStates) = true
    else observed.state = expected.state

def neighborsMatch (desired actual : List NeighborPlan) : Bool :=
  if desired.length ≠ actual.length then false
  else
    let actualByIdentity := Dict.ofEntries (actual.map fun neighbor => ((neighbor.dst, neighbor.dev), neighbor))
    if actualByIdentity.entries.length ≠ actual.length then false
    else desired.all fun expected => (actualByIdentity.get? (expected.dst, expected.dev)).any (neighborMatches expected)

end Nodes

section Links

/-- The interfaces of all namespaces, each with its namespace and its name. -/
def LiveInventory.interfaces (inventory : LiveInventory) : List (String × String × InterfaceInventory) :=
  inventory.namespaces.entries.flatMap fun (netns, observed) =>
    observed.interfaces.entries.map fun (name, interface) => (netns, name, interface)

def LiveInventory.veths (inventory : LiveInventory) : List (String × String × InterfaceInventory) :=
  inventory.interfaces.filter fun (_, _, interface) => interface.kind = "veth"

/-- The veth ends that carry a link id. -/
def LiveInventory.linkGroup (inventory : LiveInventory) (linkId : String) : List (String × String) :=
  (inventory.veths.filter fun (_, _, interface) => interface.linkId = some linkId).map fun (netns, name, _) => (netns, name)

def LiveInventory.interface? (inventory : LiveInventory) (endpoint : EndpointPlan) : Option InterfaceInventory :=
  (inventory.namespaces.get? endpoint.netns).bind fun observed => observed.interfaces.get? endpoint.interface

/-- The link id observed at an endpoint, when there is one. -/
def LiveInventory.linkId? (inventory : LiveInventory) (endpoint : EndpointPlan) : Option String :=
  ((inventory.interface? endpoint).bind (·.linkId)).filter (· ≠ "")

def LinkPlan.group (link : LinkPlan) : List (String × String) := link.endpoints.map fun endpoint => (endpoint.netns, endpoint.interface)

/-- The loop over the planned links, with the link ids seen so far. -/
def linksMatchFrom (inventory : LiveInventory) (seen : List String) : List LinkPlan → Bool
  | [] => true
  | link :: rest => match inventory.linkId? link.left, inventory.linkId? link.right with
    | some linkId, some other =>
      if other ≠ linkId ∨ linkId ∈ seen then false
      else if ¬ SameSet (inventory.linkGroup linkId) link.group then false
      else linksMatchFrom inventory (linkId :: seen) rest
    | _, _ => false

def linksMatch (plan : TopologyPlan) (inventory : LiveInventory) : Bool :=
  inventory.veths.all (fun (_, _, interface) => interface.linkId.any (· ≠ "")) && linksMatchFrom inventory [] plan.links

/-- The key of an interface in the record of a deployment. -/
def ownershipKey (node interface : String) : String := node ++ ":" ++ interface

/-- The link id recorded for an endpoint, when there is one. -/
def recordedLinkId? (recorded : Dict String Document) (endpoint : EndpointPlan) : Option String :=
  match recorded.get? (ownershipKey endpoint.node endpoint.interface) with
  | some (.mapping _ ownership) => match ownership.lookup "link_id" with
    | some (.str linkId) => if linkId = "" then none else some linkId
    | _ => none
  | _ => none

def recordedLinksMatchFrom (inventory : LiveInventory) (recorded : Dict String Document) (seen : List String) :
    List LinkPlan → Bool
  | [] => true
  | link :: rest => match recordedLinkId? recorded link.left, recordedLinkId? recorded link.right with
    | some linkId, some other =>
      if (inventory.interface? link.left).bind (·.linkId) ≠ some linkId then false
      else if (inventory.interface? link.right).bind (·.linkId) ≠ some other then false
      else if other ≠ linkId ∨ linkId ∈ seen then false
      else recordedLinksMatchFrom inventory recorded (linkId :: seen) rest
    | _, _ => false

def recordedLinkIdsMatchInventory (plan : TopologyPlan) (inventory : LiveInventory) (recorded : Dict String Document) : Bool :=
  linksMatch plan inventory && recordedLinksMatchFrom inventory recorded [] plan.links

end Links

section Inventory

variable [RedEvaluation]

def nodeMatches (plan : TopologyPlan) (node : NodePlan) (observed : NamespaceInventory) : Except PlanError Bool :=
  if observed.live = false ∨ observed.node ≠ node.name ∨ observed.kind ≠ node.kind ∨ observed.netns ≠ node.netns then .ok false
  else do
    let ignored := runtimeManagedInterfaceNames node
    let interfaces := observed.interfaces.filterMap fun name interface => if name ∈ ignored then none else some interface
    let expected ← expectedInterfaces node plan
    if interfacesMatch expected interfaces = false then pure false
    else do
      let routes ← expectedRoutes node
      pure (routesMatch node routes observed.routes && decide (SameSet observed.rules node.rules) &&
        neighborsMatch node.neighbors observed.neighbors && declaredSysctlsMatch node.sysctls observed.sysctls)

/-- The loop over the planned nodes, which stops at the first that does not match. -/
def nodesMatch (plan : TopologyPlan) (inventory : LiveInventory) : List NodePlan → Except PlanError Bool
  | [] => .ok true
  | node :: rest => match inventory.namespaces.get? node.netns with
    | none => .error (.keyError node.netns)
    | some observed => do
      let matched ← nodeMatches plan node observed
      if matched then nodesMatch plan inventory rest else pure false

def plannedNamespaces (plan : TopologyPlan) : List String := plan.nodes.values.map (·.netns)

/-- Whether live state satisfies the plan. -/
def inventoryMatchesPlan (plan : TopologyPlan) (inventory : LiveInventory) : Except PlanError Bool :=
  if inventory.rootInterfaces.isEmpty = false then .ok false
  else if ¬ SameSet inventory.namespaces.keys (plannedNamespaces plan) then .ok false
  else do
    let matched ← nodesMatch plan inventory plan.nodes.values
    if matched then pure (linksMatch plan inventory) else pure false

end Inventory

end Nslab
