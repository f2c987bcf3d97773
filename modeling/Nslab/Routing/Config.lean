import Nslab.Plan.Interfaces

/-! The configuration that FRRouting reads for a node, and which of its daemons
the node needs. -/

namespace Nslab

open IpAddress

section Networks

/-- Networks by address and prefix length. -/
def sortNetworks (networks : List IPNetwork) : List IPNetwork :=
  networks.insertionSort fun left right =>
    left.address.value < right.address.value ∨ left.address.value = right.address.value ∧ left.prefixlen ≤ right.prefixlen

def connectedIpv4Networks (node : NodePlan) : List IPNetwork :=
  sortNetworks (((nodeInterfaceAddresses node).values.flatten.filter (·.version = 4)).map (·.network)).dedup

def configuredOrConnected (configured : List IPv4Network) (node : NodePlan) : List IPNetwork :=
  let values := if configured.isEmpty then connectedIpv4Networks node else configured.map Subtype.val
  Dict.fromKeys (sortNetworks values)

end Networks

section Rendering

def routingHostname (node : NodePlan) : String := "nslab-" ++ node.name

/-- The OSPF interfaces that connect two routed Linux nodes directly. -/
def ospfPointToPointInterfaces (node : NodePlan) (plan : Option TopologyPlan) : List String :=
  match plan, node.routing.bind (·.ospf) with
  | some plan, some _ =>
    Dict.fromKeys <| plan.links.filterMap fun link =>
      let ends :=
        if link.left.node = node.name then some (link.left, link.right)
        else if link.right.node = node.name then some (link.right, link.left)
        else none
      ends.bind fun (endpoint, peer) => (plan.nodes.get? peer.node).bind fun other =>
        if other.kind = .linux ∧ (other.routing.bind (·.ospf)).isSome then some endpoint.interface else none
  | _, _ => []

def writtenAddress (address : IPv4Address) : String := String.ofList address.chars

def writtenNetwork (network : IPNetwork) : String := String.ofList network.chars

def renderOspf (node : NodePlan) (plan : Option TopologyPlan) (ospf : OspfPlan) : List String :=
  ["router ospf", " ospf router-id " ++ writtenAddress ospf.routerId] ++
    ((configuredOrConnected ospf.networks node).map fun network =>
      " network " ++ writtenNetwork network ++ " area " ++ writtenAddress ospf.area) ++
    ospf.passiveInterfaces.map (" passive-interface " ++ ·) ++
    ((ospfPointToPointInterfaces node plan).flatMap fun interface =>
      ["interface " ++ interface, " ip ospf network point-to-point", "!"]) ++
    ["!", ""]

def renderBgp (node : NodePlan) (bgp : BgpPlan) : List String :=
  ["router bgp " ++ toString bgp.localAs, " bgp router-id " ++ writtenAddress bgp.routerId, " no bgp ebgp-requires-policy",
      " bgp log-neighbor-changes"] ++
    (bgp.neighbors.map fun neighbor =>
      " neighbor " ++ writtenAddress neighbor.address ++ " remote-as " ++ toString neighbor.remoteAs) ++
    [" address-family ipv4 unicast"] ++
    ((configuredOrConnected bgp.networks node).map fun network => "  network " ++ writtenNetwork network) ++
    (bgp.neighbors.map fun neighbor => "  neighbor " ++ writtenAddress neighbor.address ++ " activate") ++
    [" exit-address-family", "!", ""]

def renderPim (pim : PimPlan) : List String :=
  ["ip pim rp " ++ writtenAddress pim.rpAddress ++ " 224.0.0.0/4", "!"] ++
    (pim.interfaces.flatMap fun interface =>
      ["interface " ++ interface, " ip pim"] ++ (if interface ∈ pim.igmpInterfaces then [" ip igmp"] else []) ++ ["!"]) ++
    [""]

/-- The OSPFv2, eBGP and PIM-SM configuration of a node. -/
def renderFrrConfig (node : NodePlan) (plan : Option TopologyPlan) : Except PlanError String :=
  match node.routing with
  | none => .error (.valueError ("node has no routing configuration: " ++ node.name))
  | some routing =>
    let lines := ["frr defaults traditional", "hostname " ++ routingHostname node, "service integrated-vtysh-config", "!"] ++
      (routing.ospf.map (renderOspf node plan)).getD [] ++ (routing.bgp.map (renderBgp node)).getD [] ++
      (routing.pim.map renderPim).getD [] ++ ["line vty", ""]
    .ok ("\n".intercalate lines)

end Rendering

section Daemons

def frrDaemons : List String := ["zebra", "ospfd", "bgpd", "pimd"]

def routingProtocols (routing : Option RoutingPlan) : List String :=
  match routing with
  | none => []
  | some routing =>
    (routing.ospf.map fun _ => "ospf").toList ++ (routing.bgp.map fun _ => "bgp").toList ++
      (routing.pim.map fun _ => "pim").toList

/-- The daemons of the enabled protocols. -/
def routingDaemons (routing : Option RoutingPlan) : List String :=
  match routing with
  | none => []
  | some routing =>
    (routing.ospf.map fun _ => "ospfd").toList ++ (routing.bgp.map fun _ => "bgpd").toList ++
      (routing.pim.map fun _ => "pimd").toList

/-- The nodes of a plan that route dynamically. -/
def TopologyPlan.routingNodes (plan : TopologyPlan) : List NodePlan := plan.nodes.values.filter (·.routing.isSome)

end Daemons

end Nslab
