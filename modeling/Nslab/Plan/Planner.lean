import Nslab.Manifest.Topology
import Nslab.Naming
import Nslab.Plan.Types

/-! The planner: an accepted manifest becomes the plan of its deployment. -/

namespace Nslab

open Schema IpAddress

/-- How the planner fails: by an assertion, a missing key, an invalid value, or a domain error. -/
inductive PlanError where
  | assertionError
  | keyError (key : String)
  | valueError (message : String)
  | nslabError (error : NslabError)
deriving DecidableEq

section Values

/-- `ip_interface(str(interface))`, which always succeeds. -/
def ipInterface (interface : IPInterface) : IPInterface :=
  (IPInterface.parse interface.chars).get (by rw [IPInterface.parse_chars]; rfl)

/-- `ip_address(str(address))`, which always succeeds. -/
def ipAddress (address : IPAddress) : IPAddress :=
  (IPAddress.parse address.chars).get (by rw [IPAddress.parse_chars]; rfl)

/-- `ip_network(str(network))`, which always succeeds. -/
def ipNetwork (network : IPNetwork) : IPNetwork :=
  (IPNetwork.parse network.chars).get (by rw [IPNetwork.parse_chars]; rfl)

@[simp] theorem ipInterface_eq (interface : IPInterface) : ipInterface interface = interface := by
  simp [ipInterface, IPInterface.parse_chars]

@[simp] theorem ipAddress_eq (address : IPAddress) : ipAddress address = address := by
  simp [ipAddress, IPAddress.parse_chars]

@[simp] theorem ipNetwork_eq (network : IPNetwork) : ipNetwork network = network := by
  simp [ipNetwork, IPNetwork.parse_chars]

def compileAddresses (config : InterfaceConfig) : List IPInterface := config.addresses.map ipInterface

@[simp] theorem compileAddresses_eq (config : InterfaceConfig) : compileAddresses config = config.addresses :=
  (List.map_congr_left fun address _ => ipInterface_eq address).trans (List.map_id' _)

def MacAddress.text (mac : MacAddress) : String := String.ofList mac.chars

def Rate.text (rate : Rate) : String := String.ofList rate.chars

end Values

section Devices

def compileVxlan (name : String) (config : VxlanDeviceConfig) : VxlanDevicePlan where
  name := name
  vni := config.vni
  link := config.link
  localAddress := ipAddress config.localAddress
  remote := ipAddress config.remote
  addresses := compileAddresses config.toInterfaceConfig
  dstPort := config.dstPort
  learning := config.learning
  mtu := config.mtu

def compileGeneve (name : String) (config : GeneveDeviceConfig) : GeneveDevicePlan where
  name := name
  vni := config.vni
  link := config.link
  remote := ipAddress config.remote
  addresses := compileAddresses config.toInterfaceConfig
  dstPort := config.dstPort
  mtu := config.mtu

/-- The options of LACP are spelled out, those of the other mode left out. -/
def compileBond (name : String) (config : BondDeviceConfig) : BondDevicePlan where
  name := name
  mode := config.mode
  interfaces := config.interfaces
  addresses := compileAddresses config.toInterfaceConfig
  miimonMs := config.miimonMs
  primary := config.primary
  lacpRate := if config.mode = .lacp then some (config.lacpRate.getD .slow) else none
  xmitHashPolicy := if config.mode = .lacp then some (config.xmitHashPolicy.getD .layer2) else none
  minLinks := if config.mode = .lacp then some (config.minLinks.getD 0) else none

def compileLinuxDevice (name : String) : LinuxDeviceConfig → DevicePlan
  | .vlan config => .vlan ⟨name, config.link, config.id, compileAddresses config.toInterfaceConfig⟩
  | .vrf config => .vrf ⟨name, config.table, config.interfaces⟩
  | .vxlan config => .vxlan (compileVxlan name config)
  | .dummy config => .dummy ⟨name, config.mtu, compileAddresses config.toInterfaceConfig⟩
  | .gre config => .gre {
      name := name
      link := config.link
      localAddress := config.localAddress
      remote := config.remote
      key := config.key
      ttl := config.ttl
      mtu := config.mtu
      addresses := compileAddresses config.toInterfaceConfig }
  | .ipip config => .ipip {
      name := name
      link := config.link
      localAddress := config.localAddress
      remote := config.remote
      ttl := config.ttl
      mtu := config.mtu
      addresses := compileAddresses config.toInterfaceConfig }
  | .geneve config => .geneve (compileGeneve name config)
  | .macvlan config => .macvlan ⟨name, config.link, config.mode, config.mtu, compileAddresses config.toInterfaceConfig⟩
  | .ipvlan config => .ipvlan ⟨name, config.link, config.mode, config.mtu, compileAddresses config.toInterfaceConfig⟩
  | .bond config => .bond (compileBond name config)

def compileBridgeDevice (name : String) : BridgeDeviceConfig → DevicePlan
  | .vxlan config => .vxlan (compileVxlan name config)
  | .geneve config => .geneve (compileGeneve name config)

def compileDevices : NodeConfig → Dict String DevicePlan
  | .linux node => node.devices.map compileLinuxDevice
  | .bridge node => node.devices.map compileBridgeDevice

/-- The devices of a node that can have a hardware address. -/
def NodeConfig.deviceInterfaces : NodeConfig → List (String × InterfaceConfig)
  | .linux node => node.devicesOf LinuxDeviceConfig.interface?
  | .bridge node => node.devices.entries.map fun entry => (entry.1, entry.2.interface)

def compileMacAddresses (node : NodeConfig) : Dict String String :=
  .ofEntries ((node.toNodeBase.interfaces.entries ++ node.deviceInterfaces).filterMap fun (name, config) =>
    config.mac.map fun mac => (name, mac.text))

end Devices

section Routes

/-- The tables that the VRF devices of a plan give to their members. -/
def plannedTables (devices : Dict String DevicePlan) : Dict String Int :=
  .ofEntries ((devices.values.filterMap DevicePlan.vrf?).flatMap fun vrf => vrf.interfaces.map (·, vrf.table))

def compileNextHop (hop : RouteNextHopConfig) : RouteNextHopPlan where
  via := hop.via.map ipAddress
  dev := hop.dev
  weight := hop.weight

def compileRoute (tables : Dict String Int) (route : RouteConfig) : Except PlanError RoutePlan := do
  let nexthops := route.nexthops.map compileNextHop
  let devices ← if nexthops ≠ [] then pure (route.nexthops.map (·.dev)) else match route.dev with
    | none => throw .assertionError
    | some dev => pure [dev]
  match (devices.map fun interface => (tables.get? interface).getD mainRouteTable).dedup with
  | [inferred] => pure {
      dst := ipNetwork route.dst
      via := route.via.map ipAddress
      dev := route.dev
      table := route.table.getD inferred
      nexthops := nexthops }
  | _ => throw .assertionError

def compileNeighbor (neighbor : NeighborConfig) : NeighborPlan where
  dst := ipAddress neighbor.dst
  dev := neighbor.dev
  lladdr := neighbor.lladdr.map MacAddress.text
  state := if neighbor.proxy then none else some ((neighbor.state.map (·.planned)).getD .permanent)
  proxy := neighbor.proxy

/-- A proxy neighbor switches proxying on for its interface. -/
def proxySysctl (neighbor : NeighborConfig) : Option (String × Int) :=
  if neighbor.proxy then
    some (if neighbor.dst.version = 4 then "net.ipv4.conf." ++ neighbor.dev ++ ".proxy_arp"
      else "net.ipv6.conf." ++ neighbor.dev ++ ".proxy_ndp", 1)
  else none

def compileSysctls (node : NodeBase) : Dict String Int := node.sysctls.update (node.neighbors.filterMap proxySysctl)

def policyRuleFwmask (fwmark fwmask : Option Int) : Option Int :=
  match fwmark with
  | none => none
  | some _ => some (fwmask.getD 4294967295)

/-- A prefix of length zero selects nothing. -/
def ruleSelection (network : Option IPNetwork) : Option IPNetwork :=
  network.bind fun network => if network.prefixlen = 0 then none else some (ipNetwork network)

/-- Zero stands for no selection. -/
def nonzero (value : Option Int) : Option Int := if value = some 0 then none else value

def RangeConfig.pair (range : RangeConfig) : Int × Int := (range.first, range.last)

def compileRule (rule : PolicyRuleConfig) : PolicyRulePlan where
  priority := rule.priority
  family := rule.ipVersion
  action := rule.action.name
  table := rule.table
  goto := rule.goto
  source := ruleSelection rule.source
  destination := ruleSelection rule.destination
  invert := rule.invert
  tos := nonzero rule.tos
  fwmark := rule.fwmark
  fwmask := policyRuleFwmask rule.fwmark rule.fwmask
  iif := rule.iif
  oif := rule.oif
  l3mdev := rule.l3mdev
  uidRange := rule.uidRange.map RangeConfig.pair
  protocol := rule.protocol
  ipProtocol := nonzero rule.ipProtocol
  sourcePort := rule.sourcePort.map RangeConfig.pair
  destinationPort := rule.destinationPort.map RangeConfig.pair
  tunnelId := nonzero rule.tunnelId
  suppressPrefixLength := rule.suppressPrefixLength
  suppressInterfaceGroup := rule.suppressInterfaceGroup
  realms := rule.realms.map fun realms => (realms.source, realms.destination)

def compileRules : NodeConfig → List PolicyRulePlan
  | .linux node => node.rules.map compileRule
  | .bridge _ => []

end Routes

section Routing

def compileOspf (config : OspfConfig) : OspfPlan := ⟨config.routerId, config.area, config.networks, config.passiveInterfaces⟩

def compileBgp (config : BgpConfig) : BgpPlan where
  localAs := config.localAs
  routerId := config.routerId
  neighbors := config.neighbors.map fun neighbor => ⟨neighbor.address, neighbor.remoteAs⟩
  networks := config.networks

def compilePim (config : PimConfig) : PimPlan := ⟨config.rpAddress, config.interfaces, config.igmpInterfaces⟩

def compileRouting (config : Option RoutingConfig) : Option RoutingPlan :=
  config.map fun config => ⟨config.ospf.map compileOspf, config.bgp.map compileBgp, config.pim.map compilePim⟩

end Routing

section Nodes

def NodeConfig.kind : NodeConfig → NodeKind
  | .linux _ => .linux
  | .bridge _ => .bridge

def NodeConfig.bridge? : NodeConfig → Option BridgeConfig
  | .linux _ => none
  | .bridge node => some node.bridge

def compilePort (config : BridgePortConfig) : BridgePortPlan where
  pathCost := config.pathCost
  priority := config.priority
  vlans := config.vlans.map fun vlan => ⟨vlan.vid, vlan.pvid, vlan.untagged⟩
  hairpin := config.hairpin
  isolated := config.isolated
  learning := config.learning
  flood := config.flood
  multicastFlood := config.multicastFlood

/-- The plan of a node with its routes. -/
def plannedNode (deployment name : String) (node : NodeConfig) (routes : List RoutePlan) : NodePlan where
  name := name
  kind := node.kind
  netns := namespaceName deployment name
  interfaces := node.toNodeBase.interfaces.map fun _ => compileAddresses
  routes := routes
  sysctls := compileSysctls node.toNodeBase
  macAddresses := compileMacAddresses node
  neighbors := node.toNodeBase.neighbors.map compileNeighbor
  rules := compileRules node
  devices := compileDevices node
  routing := compileRouting node.toNodeBase.routing
  bridgeName := node.bridge?.map (·.name)
  stp := node.bridge?.map (·.stp)
  vlanFiltering := node.bridge?.map (·.vlanFiltering)
  bridgePriority := node.bridge?.bind (·.priority)
  bridgePorts := (node.bridge?.map fun bridge => bridge.ports.map fun _ => compilePort).getD .empty

def compileNode (deployment name : String) (node : NodeConfig) : Except PlanError NodePlan := do
  let routes ← Checks.collect node.toNodeBase.routes (compileRoute (plannedTables (compileDevices node)))
  pure (plannedNode deployment name node routes)

end Nodes

section Links

def compileFqCodel (config : FqCodelConfig) : FqCodelPlan := ⟨config.targetMs, config.intervalMs, config.limit, config.ecn⟩

/-- The options given, as `model_dump` lists them. -/
def compileSimple (config : SimpleQdiscConfig) : SimpleQdiscPlan where
  kind := config.kind.name
  options := ⟨simpleQdiscOptions.dump config.options, simpleQdiscOptions.distinct config.options⟩

def compileLeaf : LeafConfig → LeafPlan
  | .fqCodel config => .fqCodel (compileFqCodel config)
  | .simple config => .simple (compileSimple config)

def compileQdisc : QdiscConfig → QdiscPlan
  | .simple config => .simple (compileSimple config)
  | .tbf config => .tbf ⟨config.rate.text, config.burst, config.latencyMs⟩
  | .fqCodel config => .fqCodel (compileFqCodel config)
  | .htb config => .htb ⟨config.rate.text, compileLeaf config.leaf⟩
  | .cake config => .cake ⟨config.bandwidth.text, config.flowMode.name, config.diffservMode.name, config.rttMs, config.nat⟩

def compileNetem (config : NetemConfig) : NetemPlan :=
  ⟨config.delayMs, config.jitterMs, config.lossPercent, config.rate.map Rate.text⟩

def compileEndpoint (endpoint temporaryName : String) (nodes : Dict String NodePlan) : Except PlanError EndpointPlan := do
  let (node, separator, interface) := Text.partition ':' endpoint
  if separator = false then throw (.valueError ("invalid planned endpoint: " ++ quoted endpoint))
  match nodes.get? node with
  | none => throw (.keyError node)
  | some plan => pure ⟨node, interface, plan.netns, temporaryName⟩

def compileLink (deployment : String) (nodes : Dict String NodePlan) (entry : LinkConfig × Nat) :
    Except PlanError LinkPlan := do
  let (link, index) := entry
  let (temporaryLeft, temporaryRight) := temporaryVethNames deployment index
  let left ← compileEndpoint link.endpoints.1 temporaryLeft nodes
  let right ← compileEndpoint link.endpoints.2 temporaryRight nodes
  pure {
    index := index
    kind := link.kind
    left := left
    right := right
    mtu := link.mtu
    netem := link.netem.map compileNetem
    qdisc := link.qdisc.map compileQdisc }

def effectiveDeploymentName (manifest : Manifest) (nameOverride : Option String) : Except PlanError String :=
  match nameOverride with
  | none => .ok manifest.name
  | some name =>
    if isName name then .ok name
    else .error (.nslabError
      { code := "DEPLOYMENT_NAME_INVALID"
        message := "invalid deployment name: " ++ quoted name
        details := [("name", .str name)] })

def compileNodes (deployment : String) (nodes : Dict String NodeConfig) : Except PlanError (Dict String NodePlan) := do
  let compiled ← Checks.collect nodes.entries fun (name, node) => (compileNode deployment name node).map (name, ·)
  pure (.ofEntries compiled)

def compilePlan (manifest : Manifest) (nameOverride : Option String := none) : Except PlanError TopologyPlan := do
  let deployment ← effectiveDeploymentName manifest nameOverride
  let nodes ← compileNodes deployment manifest.topology.nodes
  let links ← Checks.collect manifest.topology.links.zipIdx (compileLink deployment nodes)
  pure {
    name := deployment
    fingerprint := manifestFingerprint manifest
    nodes := nodes
    links := links }

end Links

end Nslab
