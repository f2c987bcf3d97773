import Mathlib.Data.Prod.Lex
import Nslab.Backend.Base

/-! How the inspector displays interfaces, routes, rules and neighbors. -/

namespace Nslab

open IpAddress Collections

variable [SetOrder]

section Texts

def addressKey (address : IPInterface) : ℕ ×ₗ ℕ ×ₗ ℕ := toLex (address.version, toLex (address.address.value, address.prefixlen))

def addressString (address : IPAddress) : String := String.ofList address.chars

def addressStrings (addresses : List IPInterface) : List String :=
  (sortedSet addressKey addresses).map fun address => String.ofList address.chars

def bridgeVlanString (vlan : BridgeVlanPlan) : String :=
  let flags := (if vlan.pvid then ["pvid"] else []) ++ if vlan.untagged then ["untagged"] else []
  toString vlan.vid ++ if flags = [] then "" else " " ++ " ".intercalate flags

def bridgeVlanStrings (vlans : List BridgeVlanPlan) : List String := (sortedSet (·.vid) vlans).map bridgeVlanString

def netemString (netem : NetemPlan) : String :=
  " ".intercalate ((match netem.rate with
      | some rate => if rate = "" then [] else ["rate " ++ rate]
      | none => []) ++
    (if netem.delayMs = 0 then [] else ["delay " ++ toString netem.delayMs ++ "ms"]) ++
    (if netem.jitterMs = 0 then [] else ["jitter " ++ toString netem.jitterMs ++ "ms"]) ++
    if netem.lossPercent = 0 then [] else ["loss " ++ toString netem.lossPercent ++ "%"])

def onOff (value : Bool) : String := if value then "on" else "off"

def fqCodelString (qdisc : FqCodelPlan) : String :=
  "fq_codel target " ++ toString qdisc.targetMs ++ "ms interval " ++ toString qdisc.intervalMs ++ "ms limit " ++
    toString qdisc.limit ++ " ecn " ++ onOff qdisc.ecn

def leafString : LeafPlan → String
  | .fqCodel qdisc => fqCodelString qdisc
  | .simple qdisc => qdisc.kind

def tbfString (qdisc : TbfPlan) : String :=
  "tbf rate " ++ qdisc.rate ++ " burst " ++ toString qdisc.burstBytes ++ "B latency " ++ toString qdisc.latencyMs ++ "ms"

/-- `_qdisc_string`. Of a simple discipline only the kind is displayed. -/
def qdiscString : QdiscPlan → String
  | .tbf qdisc => tbfString qdisc
  | .fqCodel qdisc => fqCodelString qdisc
  | .htb qdisc => "htb rate " ++ qdisc.rate ++ " leaf " ++ leafString qdisc.leaf
  | .simple qdisc => qdisc.kind
  | .cake qdisc => "cake bandwidth " ++ qdisc.bandwidth ++ " flow-mode " ++ qdisc.flowMode ++ " diffserv " ++
      qdisc.diffservMode ++ " rtt " ++ toString qdisc.rttMs ++ "ms nat " ++ onOff qdisc.nat

end Texts

section Routes

def nexthopString (nexthop : RouteNextHopPlan) : String :=
  (nexthop.via.map addressString).getD "-" ++ "@" ++ nexthop.dev ++ "*" ++ toString nexthop.weight

def nexthopStrings (route : RoutePlan) : String := ",".intercalate (route.nexthops.map nexthopString)

def routeKey (route : RoutePlan) : ℤ ×ₗ ℕ ×ₗ ℕ ×ₗ ℕ ×ₗ String ×ₗ String ×ₗ String :=
  toLex (route.table, toLex (route.dst.version, toLex (route.dst.address.value, toLex (route.dst.prefixlen,
    toLex ((route.via.map addressString).getD "", toLex (route.dev.getD "", nexthopStrings route))))))

def routeString (route : RoutePlan) : String :=
  let front := toString route.table ++ "|" ++ String.ofList route.dst.chars ++ "|"
  if route.nexthops ≠ [] then front ++ "ecmp|" ++ nexthopStrings route
  else front ++ (route.via.map addressString).getD "-" ++ "|" ++ route.dev.getD "None"

def routeStrings (routes : List RoutePlan) : List String := (sortedSet routeKey routes).map routeString

def rangeDocument (range : Option (Int × Int)) : Document :=
  match range with
  | none => .null
  | some (first, last) => .dict [("start", .int first), ("end", .int last)]

def optionalInt (value : Option Int) : Document := (value.map Document.int).getD .null

def optionalText (value : Option String) : Document := (value.map Document.str).getD .null

def networkDocument (network : Option IPNetwork) : Document := optionalText (network.map fun network => String.ofList network.chars)

/-- The document of a `PolicyRuleView`. -/
def ruleDocument (rule : PolicyRulePlan) : Document :=
  .dict [
    ("priority", .int rule.priority),
    ("family", .str ("ipv" ++ toString rule.family)),
    ("action", .str rule.action),
    ("table", optionalInt rule.table),
    ("goto", optionalInt rule.goto),
    ("from", networkDocument rule.source),
    ("to", networkDocument rule.destination),
    ("not", .bool rule.invert),
    ("tos", optionalInt rule.tos),
    ("fwmark", optionalInt rule.fwmark),
    ("fwmask", optionalInt rule.fwmask),
    ("iif", optionalText rule.iif),
    ("oif", optionalText rule.oif),
    ("l3mdev", .bool rule.l3mdev),
    ("uid_range", rangeDocument rule.uidRange),
    ("protocol", .int rule.protocol),
    ("ip_protocol", optionalInt rule.ipProtocol),
    ("source_port", rangeDocument rule.sourcePort),
    ("destination_port", rangeDocument rule.destinationPort),
    ("tunnel_id", optionalInt rule.tunnelId),
    ("suppress_prefix_length", optionalInt rule.suppressPrefixLength),
    ("suppress_interface_group", optionalInt rule.suppressInterfaceGroup),
    ("realms", match rule.realms with
      | none => .null
      | some (source, destination) => .dict [("source", .int source), ("destination", .int destination)])]

def ruleString (rule : PolicyRulePlan) : String := JsonText.dumps (ruleDocument rule) true

def ruleKey (rule : PolicyRulePlan) : ℕ ×ₗ ℤ ×ₗ String := toLex (rule.family, toLex (rule.priority, ruleString rule))

def ruleStrings (rules : List PolicyRulePlan) : List String := (sortedSet ruleKey rules).map ruleString

def neighborKey (neighbor : NeighborPlan) : ℕ ×ₗ ℕ ×ₗ String :=
  toLex (neighbor.dst.version, toLex (neighbor.dst.value, neighbor.dev))

def neighborString (neighbor : NeighborPlan) : String :=
  let front := addressString neighbor.dst ++ "@" ++ neighbor.dev ++ "|"
  if neighbor.proxy then front ++ "proxy"
  else front ++ neighbor.lladdr.getD "None" ++ "|" ++ (neighbor.state.map NeighborState.name).getD "None"

def neighborStrings (neighbors : List NeighborPlan) : List String :=
  (neighbors.insertionSort fun left right => neighborKey left ≤ neighborKey right).map neighborString

end Routes

section Interfaces

structure InterfaceView extends PortSettings, KindProperties String where
  name : String
  kind : String
  master : Option String
  mtu : Option Int
  up : Bool
  addresses : List String := []
  mac : Option String := none
  stp : Option Bool := none
  vlanFiltering : Option Bool := none
  bridgePriority : Option Int := none
  bridgeVlans : List String := []
  netem : Option String := none
  qdisc : Option String := none
deriving DecidableEq

/-- The bridge of a bridge node, as displayed. -/
def desiredBridge (node : NodePlan) : Except PlanError (List InterfaceView) :=
  if node.kind ≠ .bridge then .ok []
  else match node.bridgeName with
    | none => .error .assertionError
    | some name => .ok [{
        name := name
        kind := "bridge"
        master := none
        mtu := none
        up := true
        addresses := addressStrings ((node.interfaces.get? name).getD [])
        stp := node.stp
        vlanFiltering := node.vlanFiltering
        bridgePriority := node.bridgePriority }]

def desiredVeth (node : NodePlan) (link : LinkPlan) (interface : String) : InterfaceView where
  toPortSettings := portSettings node interface
  name := interface
  kind := "veth"
  master := nodeInterfaceMaster node interface
  mtu := some link.mtu
  up := true
  addresses := addressStrings ((node.interfaces.get? interface).getD [])
  bridgeVlans := bridgeVlanStrings (expectedBridgePortVlans node interface)
  netem := link.netem.map netemString
  qdisc := link.qdisc.map qdiscString

def desiredDevice (node : NodePlan) (plan : TopologyPlan) (device : DevicePlan) : Except PlanError InterfaceView :=
  match device with
  | .vlan device => pure {
      name := device.name
      kind := "vlan"
      master := nodeInterfaceMaster node device.name
      mtu := none
      up := true
      addresses := addressStrings device.addresses
      parent := some device.link
      vlanId := some device.vlanId }
  | .vrf device => pure {
      name := device.name
      kind := "vrf"
      master := none
      mtu := none
      up := true
      vrfTable := some device.table }
  | .bond device => do
    let mtu ← bondDeviceMtu node plan device
    pure {
      name := device.name
      kind := "bond"
      master := nodeInterfaceMaster node device.name
      mtu := some mtu
      up := true
      addresses := addressStrings device.addresses
      bondMode := some device.mode.name
      bondMiimonMs := some device.miimonMs
      bondPrimary := device.primary
      bondLacpRate := device.lacpRate.map (·.name)
      bondXmitHashPolicy := device.xmitHashPolicy.map (·.name)
      bondMinLinks := device.minLinks }
  | .dummy device => pure {
      name := device.name
      kind := "dummy"
      master := nodeInterfaceMaster node device.name
      mtu := some (dummyDeviceMtu device)
      up := true
      addresses := addressStrings device.addresses }
  | .gre device => do
    let mtu ← greDeviceMtu node plan device
    pure {
      name := device.name
      kind := "gre"
      master := nodeInterfaceMaster node device.name
      mtu := some mtu
      up := true
      addresses := addressStrings device.addresses
      greLink := some device.link
      greLocal := some (addressString (.v4 device.localAddress))
      greRemote := some (addressString (.v4 device.remote))
      greKey := device.key
      greTtl := some device.ttl }
  | .ipip device => do
    let mtu ← ipipDeviceMtu node plan device
    pure {
      name := device.name
      kind := "ipip"
      master := nodeInterfaceMaster node device.name
      mtu := some mtu
      up := true
      addresses := addressStrings device.addresses
      ipipLink := some device.link
      ipipLocal := some (addressString (.v4 device.localAddress))
      ipipRemote := some (addressString (.v4 device.remote))
      ipipTtl := some device.ttl }
  | .geneve device => do
    let mtu ← geneveDeviceMtu node plan device
    pure {
      toPortSettings := portSettings node device.name
      name := device.name
      kind := "geneve"
      master := nodeInterfaceMaster node device.name
      mtu := some mtu
      up := true
      addresses := addressStrings device.addresses
      bridgeVlans := bridgeVlanStrings (expectedBridgePortVlans node device.name)
      geneveVni := some device.vni
      geneveLink := some device.link
      geneveRemote := some (addressString device.remote)
      geneveDstPort := some device.dstPort }
  | .macvlan device => do
    let mtu ← macvlanDeviceMtu node plan device
    pure {
      name := device.name
      kind := "macvlan"
      master := nodeInterfaceMaster node device.name
      mtu := some mtu
      up := true
      addresses := addressStrings device.addresses
      parent := some device.link
      macvlanMode := some device.mode.name }
  | .ipvlan device => do
    let mtu ← ipvlanDeviceMtu node plan device
    pure {
      name := device.name
      kind := "ipvlan"
      master := nodeInterfaceMaster node device.name
      mtu := some mtu
      up := true
      addresses := addressStrings device.addresses
      parent := some device.link
      ipvlanMode := some device.mode.name }
  | .vxlan device => do
    let mtu ← vxlanDeviceMtu node plan device
    pure {
      toPortSettings := portSettings node device.name
      name := device.name
      kind := "vxlan"
      master := nodeInterfaceMaster node device.name
      mtu := some mtu
      up := true
      addresses := addressStrings device.addresses
      bridgeVlans := bridgeVlanStrings (expectedBridgePortVlans node device.name)
      vxlanVni := some device.vni
      vxlanLink := some device.link
      vxlanLocal := some (addressString device.localAddress)
      vxlanRemote := some (addressString device.remote)
      vxlanDstPort := some device.dstPort
      vxlanLearning := some device.learning }

def desiredInterfaces (node : NodePlan) (plan : TopologyPlan) : Except PlanError (List InterfaceView) := do
  let loopback : InterfaceView := {
    name := "lo"
    kind := "loopback"
    master := none
    mtu := none
    up := true
    addresses := ["127.0.0.1/8"] }
  let bridge ← desiredBridge node
  let veths := plan.links.flatMap fun link => (link.endpoints.filter (·.netns = node.netns)).map fun endpoint =>
    desiredVeth node link endpoint.interface
  let devices ← Checks.collect node.devices.values (desiredDevice node plan)
  pure ((loopback :: bridge ++ veths ++ devices).map fun interface =>
    { interface with mac := node.macAddresses.get? interface.name })

end Interfaces

section Expected

def KindProperties.map {α β : Type} (transform : α → β) (properties : KindProperties α) : KindProperties β :=
  { properties with
    vxlanLocal := properties.vxlanLocal.map transform
    vxlanRemote := properties.vxlanRemote.map transform
    geneveRemote := properties.geneveRemote.map transform
    greLocal := properties.greLocal.map transform
    greRemote := properties.greRemote.map transform
    ipipLocal := properties.ipipLocal.map transform
    ipipRemote := properties.ipipRemote.map transform }

/-- An expected interface, as the inspector displays it. -/
def ExpectedInterface.view (interface : ExpectedInterface) (name : String) : InterfaceView where
  toPortSettings := interface.toPortSettings
  toKindProperties := interface.toKindProperties.map addressString
  name := name
  kind := interface.kind
  master := interface.master
  mtu := interface.mtu
  up := interface.up
  addresses := addressStrings interface.addresses
  mac := interface.mac
  stp := interface.stp
  vlanFiltering := interface.vlanFiltering
  bridgePriority := interface.bridgePriority
  bridgeVlans := bridgeVlanStrings interface.bridgeVlans
  netem := interface.netem.map netemString
  qdisc := interface.qdisc.map qdiscString

end Expected

end Nslab
