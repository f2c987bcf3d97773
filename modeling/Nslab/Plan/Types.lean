import Nslab.Manifest.Routes
import Nslab.Manifest.Links

/-! Plans: what a manifest asks for, in the terms of kernel resources. Mappings
of a plan are compared without their order. -/

namespace Nslab

open IpAddress

section Routes

structure RouteNextHopPlan where
  via : Option IPAddress
  dev : String
  weight : Int := 1
deriving DecidableEq

structure RoutePlan where
  dst : IPNetwork
  via : Option IPAddress
  dev : Option String
  table : Int := mainRouteTable
  nexthops : List RouteNextHopPlan := []
deriving DecidableEq

inductive NeighborState where
  | incomplete
  | reachable
  | stale
  | delay
  | probe
  | failed
  | noarp
  | permanent
deriving DecidableEq

def NeighborState.name : NeighborState → String
  | .incomplete => "incomplete"
  | .reachable => "reachable"
  | .stale => "stale"
  | .delay => "delay"
  | .probe => "probe"
  | .failed => "failed"
  | .noarp => "noarp"
  | .permanent => "permanent"

def DeclaredNeighborState.planned : DeclaredNeighborState → NeighborState
  | .permanent => .permanent
  | .reachable => .reachable
  | .stale => .stale
  | .noarp => .noarp

structure NeighborPlan where
  dst : IPAddress
  dev : String
  lladdr : Option String
  state : Option NeighborState
  proxy : Bool := false
deriving DecidableEq

structure PolicyRulePlan where
  priority : Int
  family : Nat
  action : String := "lookup"
  table : Option Int := none
  goto : Option Int := none
  source : Option IPNetwork := none
  destination : Option IPNetwork := none
  invert : Bool := false
  tos : Option Int := none
  fwmark : Option Int := none
  fwmask : Option Int := none
  iif : Option String := none
  oif : Option String := none
  l3mdev : Bool := false
  uidRange : Option (Int × Int) := none
  protocol : Int := 0
  ipProtocol : Option Int := none
  sourcePort : Option (Int × Int) := none
  destinationPort : Option (Int × Int) := none
  tunnelId : Option Int := none
  suppressPrefixLength : Option Int := none
  suppressInterfaceGroup : Option Int := none
  realms : Option (Int × Int) := none
deriving DecidableEq

end Routes

section Protocols

structure OspfPlan where
  routerId : IPv4Address
  area : IPv4Address
  networks : List IPv4Network
  passiveInterfaces : List String
deriving DecidableEq

structure BgpNeighborPlan where
  address : IPv4Address
  remoteAs : Int
deriving DecidableEq

structure BgpPlan where
  localAs : Int
  routerId : IPv4Address
  neighbors : List BgpNeighborPlan
  networks : List IPv4Network
deriving DecidableEq

structure PimPlan where
  rpAddress : IPv4Address
  interfaces : List String
  igmpInterfaces : List String
deriving DecidableEq

structure RoutingPlan where
  ospf : Option OspfPlan := none
  bgp : Option BgpPlan := none
  pim : Option PimPlan := none
deriving DecidableEq

end Protocols

section Devices

structure BridgeVlanPlan where
  vid : Int
  pvid : Bool
  untagged : Bool
deriving DecidableEq

structure BridgePortPlan where
  pathCost : Option Int
  priority : Option Int
  vlans : List BridgeVlanPlan := []
  hairpin : Option Bool := none
  isolated : Option Bool := none
  learning : Option Bool := none
  flood : Option Bool := none
  multicastFlood : Option Bool := none
deriving DecidableEq

structure VlanDevicePlan where
  name : String
  link : String
  vlanId : Int
  addresses : List IPInterface := []
deriving DecidableEq

structure VrfDevicePlan where
  name : String
  table : Int
  interfaces : List String
deriving DecidableEq

structure BondDevicePlan where
  name : String
  mode : BondMode
  interfaces : List String
  addresses : List IPInterface := []
  miimonMs : Int := 100
  primary : Option String := none
  lacpRate : Option LacpRate := none
  xmitHashPolicy : Option XmitHashPolicy := none
  minLinks : Option Int := none
deriving DecidableEq

structure GreDevicePlan where
  name : String
  link : String
  localAddress : IPv4Address
  remote : IPv4Address
  key : Option Int := none
  ttl : Int := 64
  mtu : Option Int := none
  addresses : List IPInterface := []
deriving DecidableEq

structure IpipDevicePlan where
  name : String
  link : String
  localAddress : IPv4Address
  remote : IPv4Address
  ttl : Int := 64
  mtu : Option Int := none
  addresses : List IPInterface := []
deriving DecidableEq

structure VxlanDevicePlan where
  name : String
  vni : Int
  link : String
  localAddress : IPAddress
  remote : IPAddress
  dstPort : Int := 4789
  learning : Bool := true
  mtu : Option Int := none
  addresses : List IPInterface := []
deriving DecidableEq

structure DummyDevicePlan where
  name : String
  mtu : Option Int := none
  addresses : List IPInterface := []
deriving DecidableEq

structure GeneveDevicePlan where
  name : String
  vni : Int
  link : String
  remote : IPAddress
  dstPort : Int := 6081
  mtu : Option Int := none
  addresses : List IPInterface := []
deriving DecidableEq

structure MacvlanDevicePlan where
  name : String
  link : String
  mode : MacvlanMode := .bridge
  mtu : Option Int := none
  addresses : List IPInterface := []
deriving DecidableEq

structure IpvlanDevicePlan where
  name : String
  link : String
  mode : IpvlanMode := .l2
  mtu : Option Int := none
  addresses : List IPInterface := []
deriving DecidableEq

inductive DevicePlan where
  | vlan (device : VlanDevicePlan)
  | vrf (device : VrfDevicePlan)
  | bond (device : BondDevicePlan)
  | gre (device : GreDevicePlan)
  | ipip (device : IpipDevicePlan)
  | vxlan (device : VxlanDevicePlan)
  | dummy (device : DummyDevicePlan)
  | geneve (device : GeneveDevicePlan)
  | macvlan (device : MacvlanDevicePlan)
  | ipvlan (device : IpvlanDevicePlan)
deriving DecidableEq

namespace DevicePlan

def name : DevicePlan → String
  | .vlan device => device.name
  | .vrf device => device.name
  | .bond device => device.name
  | .gre device => device.name
  | .ipip device => device.name
  | .vxlan device => device.name
  | .dummy device => device.name
  | .geneve device => device.name
  | .macvlan device => device.name
  | .ipvlan device => device.name

/-- The addresses of a device. A VRF declares none. -/
def addresses? : DevicePlan → Option (List IPInterface)
  | .vlan device => some device.addresses
  | .vrf _ => none
  | .bond device => some device.addresses
  | .gre device => some device.addresses
  | .ipip device => some device.addresses
  | .vxlan device => some device.addresses
  | .dummy device => some device.addresses
  | .geneve device => some device.addresses
  | .macvlan device => some device.addresses
  | .ipvlan device => some device.addresses

def vrf? : DevicePlan → Option VrfDevicePlan
  | .vrf device => some device
  | _ => none

def bond? : DevicePlan → Option BondDevicePlan
  | .bond device => some device
  | _ => none

/-- The interface below an overlay device. -/
def underlay? : DevicePlan → Option String
  | .vxlan device => some device.link
  | .geneve device => some device.link
  | _ => none

end DevicePlan

end Devices

section Links

inductive NodeKind where
  | linux
  | bridge
deriving DecidableEq

def NodeKind.name : NodeKind → String
  | .linux => "linux"
  | .bridge => "bridge"

structure NodePlan where
  name : String
  kind : NodeKind
  netns : String
  interfaces : Dict String (List IPInterface)
  routes : List RoutePlan
  sysctls : Dict String Int
  macAddresses : Dict String String := .empty
  neighbors : List NeighborPlan := []
  rules : List PolicyRulePlan := []
  devices : Dict String DevicePlan := .empty
  bridgeName : Option String := none
  stp : Option Bool := none
  vlanFiltering : Option Bool := none
  bridgePriority : Option Int := none
  bridgePorts : Dict String BridgePortPlan := .empty
  routing : Option RoutingPlan := none
deriving DecidableEq

structure EndpointPlan where
  node : String
  interface : String
  netns : String
  temporaryName : String
deriving DecidableEq

structure NetemPlan where
  delayMs : Int
  jitterMs : Int
  lossPercent : Int
  rate : Option String := none
deriving DecidableEq

structure TbfPlan where
  rate : String
  burstBytes : Int
  latencyMs : Int
deriving DecidableEq

structure FqCodelPlan where
  targetMs : Int
  intervalMs : Int
  limit : Int
  ecn : Bool
deriving DecidableEq

structure SimpleQdiscPlan where
  kind : String
  options : Dict String Document
deriving DecidableEq

inductive LeafPlan where
  | fqCodel (plan : FqCodelPlan)
  | simple (plan : SimpleQdiscPlan)
deriving DecidableEq

structure HtbPlan where
  rate : String
  leaf : LeafPlan
deriving DecidableEq

structure CakePlan where
  bandwidth : String
  flowMode : String
  diffservMode : String
  rttMs : Int
  nat : Bool
deriving DecidableEq

inductive QdiscPlan where
  | tbf (plan : TbfPlan)
  | fqCodel (plan : FqCodelPlan)
  | htb (plan : HtbPlan)
  | cake (plan : CakePlan)
  | simple (plan : SimpleQdiscPlan)
deriving DecidableEq

structure LinkPlan where
  index : Nat
  kind : LinkKind
  left : EndpointPlan
  right : EndpointPlan
  mtu : Int
  netem : Option NetemPlan := none
  qdisc : Option QdiscPlan := none
deriving DecidableEq

def LinkPlan.endpoints (link : LinkPlan) : List EndpointPlan := [link.left, link.right]

structure TopologyPlan where
  name : String
  fingerprint : String
  nodes : Dict String NodePlan
  links : List LinkPlan
deriving DecidableEq

end Links

section Equality

/-- A node plan without its mappings. -/
def NodePlan.scalars (node : NodePlan) : NodePlan where
  name := node.name
  kind := node.kind
  netns := node.netns
  interfaces := .empty
  routes := node.routes
  sysctls := .empty
  neighbors := node.neighbors
  rules := node.rules
  bridgeName := node.bridgeName
  stp := node.stp
  vlanFiltering := node.vlanFiltering
  bridgePriority := node.bridgePriority
  routing := node.routing

/-- Equality of node plans, with mappings as mappings. -/
structure NodePlan.Same (left right : NodePlan) : Prop where
  scalars : left.scalars = right.scalars
  interfaces : left.interfaces.Same right.interfaces
  sysctls : left.sysctls.Same right.sysctls
  macAddresses : left.macAddresses.Same right.macAddresses
  devices : left.devices.Same right.devices
  bridgePorts : left.bridgePorts.Same right.bridgePorts

theorem NodePlan.Same.refl (node : NodePlan) : node.Same node :=
  ⟨rfl, Dict.Same.refl _, Dict.Same.refl _, Dict.Same.refl _, Dict.Same.refl _, Dict.Same.refl _⟩

theorem NodePlan.Same.symm {left right : NodePlan} (same : left.Same right) : right.Same left :=
  ⟨same.scalars.symm, same.interfaces.symm, same.sysctls.symm, same.macAddresses.symm, same.devices.symm,
    same.bridgePorts.symm⟩

theorem NodePlan.Same.trans {first second third : NodePlan} (left : first.Same second) (right : second.Same third) :
    first.Same third :=
  ⟨left.scalars.trans right.scalars, left.interfaces.trans right.interfaces, left.sysctls.trans right.sysctls,
    left.macAddresses.trans right.macAddresses, left.devices.trans right.devices, left.bridgePorts.trans right.bridgePorts⟩

theorem NodePlan.Same.netns {left right : NodePlan} (same : left.Same right) : left.netns = right.netns := by
  have scalars := congrArg NodePlan.netns same.scalars
  exact scalars

/-- Equality of topology plans, with mappings as mappings. -/
structure TopologyPlan.Same (left right : TopologyPlan) : Prop where
  name : left.name = right.name
  fingerprint : left.fingerprint = right.fingerprint
  nodes : left.nodes.Rel NodePlan.Same right.nodes
  links : left.links = right.links

theorem TopologyPlan.Same.symm {left right : TopologyPlan} (same : left.Same right) : right.Same left :=
  ⟨same.name.symm, same.fingerprint.symm, same.nodes.symm NodePlan.Same.symm, same.links.symm⟩

theorem TopologyPlan.Same.trans {first second third : TopologyPlan} (left : first.Same second) (right : second.Same third) :
    first.Same third :=
  ⟨left.name.trans right.name, left.fingerprint.trans right.fingerprint, left.nodes.trans right.nodes NodePlan.Same.trans,
    left.links.trans right.links⟩

end Equality

end Nslab
