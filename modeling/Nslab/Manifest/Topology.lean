import Nslab.Library.Digest
import Nslab.Library.JsonText
import Nslab.Manifest.Links

/-! Topologies, where links, devices and routing protocols refer to nodes and
interfaces declared elsewhere, and the manifests that declare them. -/

namespace Nslab

open Schema IpAddress

def endpointNode (endpoint : String) : String := (Text.partition ':' endpoint).1

def endpointInterface (endpoint : String) : String := (Text.partition ':' endpoint).2.2

structure Topology where
  nodes : Dict String NodeConfig
  links : List LinkConfig
deriving DecidableEq

namespace Topology

/-- The endpoints of all links, with the MTU of their link. -/
def endpoints (topology : Topology) : List (String × Int) :=
  topology.links.flatMap fun link => [(link.endpoints.1, link.mtu), (link.endpoints.2, link.mtu)]

/-- The linked interfaces of a node, with the MTU of their link. -/
def linkedMtus (topology : Topology) (name : String) : Dict String Int :=
  .ofEntries ((topology.endpoints.filter fun endpoint => endpointNode endpoint.1 = name).map fun endpoint =>
    (endpointInterface endpoint.1, endpoint.2))

def validateEndpoint (topology : Topology) (endpoint : String) : Except Issue Unit := do
  Checks.raiseIf ((Text.partition ':' endpoint).2.1 = false ∨ endpointNode endpoint = "" ∨ endpointInterface endpoint = "")
    (issue ("invalid link endpoint: " ++ quoted endpoint))
  requireInterfaceName "endpoint interface name" (endpointInterface endpoint)
  Checks.raiseIf (endpointInterface endpoint = "lo") (issue ("link endpoint cannot use loopback: " ++ quoted endpoint))
  Checks.raiseIf (topology.nodes.contains (endpointNode endpoint) = false)
    (issue ("link endpoint references unknown node: " ++ quoted (endpointNode endpoint)))

def endpointConfig (topology : Topology) (endpoint : String) : Option InterfaceConfig :=
  (topology.nodes.get? (endpointNode endpoint)).bind fun node => node.toNodeBase.interfaces.get? (endpointInterface endpoint)

def validateEndpointMtu (topology : Topology) (endpoint : String) (mtu : Int) : Except Issue Unit :=
  Checks.raiseIf (mtu < ipv6MinimumLinkMtu ∧
    (topology.endpointConfig endpoint).any (fun config => config.addresses.any (·.version = 6)) = true)
    (issue ("IPv6 link MTU must be at least " ++ toString ipv6MinimumLinkMtu ++ ": " ++ quoted endpoint))

def validateEndpoints (topology : Topology) : Except Issue Unit :=
  Checks.sweep topology.endpoints Prod.fst (fun (endpoint, _) => topology.validateEndpoint endpoint)
    (fun (endpoint, _) => issue ("link endpoint is used more than once: " ++ quoted endpoint))
    fun (endpoint, mtu) => topology.validateEndpointMtu endpoint mtu

end Topology

section References

/-- `name: device -> link`, below a node. -/
def below (node device link : String) : String := quoted node ++ ": " ++ quoted device ++ " -> " ++ quoted link

/-- The MTU of the link below a device. -/
def requireParent (linked : Dict String Int) (link message : String) : Except Issue Int :=
  match linked.get? link with
  | some mtu => .ok mtu
  | none => refuse message

/-- An address configured on an interface. -/
def NodeBase.hasAddress (node : NodeBase) (interface : String) (address : IPAddress) : Bool :=
  (node.interfaces.get? interface).any fun config => (config.addresses.map (·.ip)).contains address

def NodeBase.requireLocal (node : NodeBase) (protocol name device link : String) (address : IPAddress) : Except Issue Unit :=
  Checks.raiseIf (node.hasAddress link address = false)
    (issue (protocol ++ " local address is not configured on underlay interface " ++ below name device link))

/-- A tunnel leaves room for its headers in the link below it. -/
def requireRoom (protocol name device : String) (maximum : Int) (mtu : Option Int) : Except Issue Unit := do
  Checks.raiseIf (maximum < 576) (issue (protocol ++ " underlay MTU is too small on node " ++ quoted name ++ ": " ++ quoted device))
  Checks.ifSome mtu fun mtu => Checks.raiseIf (maximum < mtu)
    (issue (protocol ++ " MTU exceeds encapsulation limit on node " ++ quoted name ++ ": " ++ quoted device ++ " maximum is " ++
      toString maximum))

structure Room (maximum : Int) (mtu : Option Int) : Prop where
  least : 576 ≤ maximum
  given : ∀ value, mtu = some value → value ≤ maximum

theorem requireRoom_ok {protocol name device : String} {maximum : Int} {mtu : Option Int} {done : Unit} :
    requireRoom protocol name device maximum mtu = .ok done ↔ Room maximum mtu := by
  simp only [requireRoom, Checks.bind_ok, Checks.raiseIf_ok, Checks.exists_unit, Checks.ifSome_ok, not_lt]
  exact ⟨fun both => ⟨both.1, both.2⟩, fun room => ⟨room.least, room.given⟩⟩

theorem requireParent_ok {linked : Dict String Int} {link message : String} {mtu : Int} :
    requireParent linked link message = .ok mtu ↔ linked.get? link = some mtu := by
  unfold requireParent
  cases linked.get? link <;> simp

/-- Room for the headers of VXLAN and Geneve over an address family. -/
def overlayOverhead (address : IPAddress) : Int := if address.version = 4 then 50 else 70

def greOverhead (device : GreDeviceConfig) : Int := 24 + if device.key.isSome then 4 else 0

end References

namespace LinuxNode

/-- The interfaces of a node that a VRF, a route or a protocol can use. -/
def available (node : LinuxNode) (linked : Dict String Int) : List String :=
  linked.keys ++ (node.devicesOf LinuxDeviceConfig.interface?).map Prod.fst

def requireUnderlay (linked : Dict String Int) (protocol name device link : String) : Except Issue Int :=
  requireParent linked link (protocol ++ " underlay interface is not linked on node " ++ below name device link)

def validateBondMembers (name : String) (linked : Dict String Int) (node : LinuxNode) : Except Issue Unit :=
  Checks.each (node.devicesOf LinuxDeviceConfig.bond?) fun (device, bond) => do
    let missing := bond.interfaces.filter (· ∉ linked.keys)
    Checks.raiseIf (missing ≠ []) (issue ("bond member interface is not linked on node " ++ below name device (missing.headD "")))
    Checks.raiseIf ((bond.interfaces.filterMap linked.get?).dedup.length ≠ 1)
      (issue ("bond member interfaces must use the same MTU on node " ++ quoted name ++ ": " ++ quoted device))

def validateTunnels (name : String) (linked : Dict String Int) (node : LinuxNode) : Except Issue Unit := do
  Checks.each (node.devicesOf LinuxDeviceConfig.vxlan?) fun (device, vxlan) => do
    let parent ← requireUnderlay linked "VXLAN" name device vxlan.link
    node.requireLocal "VXLAN" name device vxlan.link vxlan.localAddress
    requireRoom "VXLAN" name device (parent - overlayOverhead vxlan.localAddress) vxlan.mtu
  Checks.each (node.devicesOf LinuxDeviceConfig.geneve?) fun (device, geneve) => do
    let parent ← requireUnderlay linked "Geneve" name device geneve.link
    requireRoom "Geneve" name device (parent - overlayOverhead geneve.remote) geneve.mtu
  Checks.each (node.devicesOf LinuxDeviceConfig.gre?) fun (device, gre) => do
    let parent ← requireUnderlay linked "GRE" name device gre.link
    node.requireLocal "GRE" name device gre.link (.v4 gre.localAddress)
    requireRoom "GRE" name device (parent - greOverhead gre) gre.mtu
  Checks.each (node.devicesOf LinuxDeviceConfig.ipip?) fun (device, ipip) => do
    let parent ← requireUnderlay linked "IPIP" name device ipip.link
    node.requireLocal "IPIP" name device ipip.link (.v4 ipip.localAddress)
    requireRoom "IPIP" name device (parent - 20) ipip.mtu

/-- A macvlan or ipvlan device fits the link below it. -/
def validateSubInterface (name : String) (linked : Dict String Int) (type device link : String) (mtu : Option Int) :
    Except Issue Unit := do
  let parent ← requireParent linked link (type ++ " parent interface is not linked on node " ++ below name device link)
  Checks.ifSome mtu fun mtu => Checks.raiseIf (parent < mtu)
    (issue (type ++ " MTU exceeds parent MTU on node " ++ quoted name ++ ": " ++ quoted device ++ " maximum is " ++ toString parent))

def validateReferences (name : String) (linked : Dict String Int) (node : LinuxNode) : Except Issue Unit := do
  Checks.each node.devices.keys fun device => Checks.raiseIf (device ∈ linked.keys)
    (issue ("device name conflicts with a linked endpoint on node " ++ quoted name ++ ": " ++ quoted device))
  Checks.each (node.devicesOf LinuxDeviceConfig.vlan?) fun (_, vlan) => Checks.raiseIf (vlan.link ∉ linked.keys)
    (issue ("VLAN parent interface is not linked on node " ++ quoted name ++ ": " ++ quoted vlan.link))
  node.validateBondMembers name linked
  node.validateTunnels name linked
  Checks.each (node.devicesOf LinuxDeviceConfig.macvlan?) fun (device, macvlan) =>
    validateSubInterface name linked "Macvlan" device macvlan.link macvlan.mtu
  Checks.each (node.devicesOf LinuxDeviceConfig.ipvlan?) fun (device, ipvlan) =>
    validateSubInterface name linked "Ipvlan" device ipvlan.link ipvlan.mtu
  Checks.each (node.devicesOf LinuxDeviceConfig.vrf?) fun (device, vrf) => Checks.each vrf.interfaces fun interface =>
    Checks.raiseIf (interface ∉ node.available linked)
      (issue ("VRF member interface is not linked or a VLAN device on node " ++ below name device interface))
  let ruleInterfaces := node.available linked ++ (node.devicesOf LinuxDeviceConfig.vrf?).map Prod.fst ++ ["lo"]
  Checks.each node.rules fun rule => Checks.each [rule.iif, rule.oif] fun interface =>
    Checks.ifSome interface fun interface => Checks.raiseIf (interface ∉ ruleInterfaces)
      (issue ("policy rule interface is not available on node " ++ quoted name ++ ": " ++ quoted interface))

/-- A device whose parent is linked and not smaller than the device. -/
def Fits (linked : Dict String Int) (link : String) (mtu : Option Int) : Prop :=
  ∃ parent, linked.get? link = some parent ∧ ∀ given, mtu = some given → given ≤ parent

/-- A tunnel whose underlay is linked and leaves it room. -/
def Tunnels (linked : Dict String Int) (link : String) (overhead : Int) (mtu : Option Int) : Prop :=
  ∃ parent, linked.get? link = some parent ∧ Room (parent - overhead) mtu

/-- What the topology establishes of the devices of a Linux node. -/
structure Linked (linked : Dict String Int) (node : LinuxNode) : Prop where
  apart : ∀ device ∈ node.devices.keys, device ∉ linked.keys
  vlans : ∀ entry ∈ node.devicesOf LinuxDeviceConfig.vlan?, entry.2.link ∈ linked.keys
  bonds : ∀ entry ∈ node.devicesOf LinuxDeviceConfig.bond?, (∀ interface ∈ entry.2.interfaces, interface ∈ linked.keys) ∧
    (entry.2.interfaces.filterMap linked.get?).dedup.length = 1
  vxlans : ∀ entry ∈ node.devicesOf LinuxDeviceConfig.vxlan?,
    node.hasAddress entry.2.link entry.2.localAddress = true ∧
      Tunnels linked entry.2.link (overlayOverhead entry.2.localAddress) entry.2.mtu
  geneves : ∀ entry ∈ node.devicesOf LinuxDeviceConfig.geneve?,
    Tunnels linked entry.2.link (overlayOverhead entry.2.remote) entry.2.mtu
  gres : ∀ entry ∈ node.devicesOf LinuxDeviceConfig.gre?,
    node.hasAddress entry.2.link (.v4 entry.2.localAddress) = true ∧
      Tunnels linked entry.2.link (greOverhead entry.2) entry.2.mtu
  ipips : ∀ entry ∈ node.devicesOf LinuxDeviceConfig.ipip?,
    node.hasAddress entry.2.link (.v4 entry.2.localAddress) = true ∧ Tunnels linked entry.2.link 20 entry.2.mtu
  macvlans : ∀ entry ∈ node.devicesOf LinuxDeviceConfig.macvlan?, Fits linked entry.2.link entry.2.mtu
  ipvlans : ∀ entry ∈ node.devicesOf LinuxDeviceConfig.ipvlan?, Fits linked entry.2.link entry.2.mtu
  vrfs : ∀ entry ∈ node.devicesOf LinuxDeviceConfig.vrf?, ∀ interface ∈ entry.2.interfaces, interface ∈ node.available linked
  rules : ∀ rule ∈ node.rules, ∀ interface, rule.iif = some interface ∨ rule.oif = some interface →
    interface ∈ node.available linked ++ (node.devicesOf LinuxDeviceConfig.vrf?).map Prod.fst ++ ["lo"]

theorem validateSubInterface_ok {name : String} {linked : Dict String Int} {type device link : String} {mtu : Option Int}
    {done : Unit} : validateSubInterface name linked type device link mtu = .ok done ↔ Fits linked link mtu := by
  simp only [validateSubInterface, Checks.bind_ok, requireParent_ok, Checks.ifSome_ok, Checks.raiseIf_ok, not_lt, Fits]

theorem validateBondMembers_ok {name : String} {linked : Dict String Int} {node : LinuxNode} {done : Unit} :
    node.validateBondMembers name linked = .ok done ↔
      ∀ entry ∈ node.devicesOf LinuxDeviceConfig.bond?, (∀ interface ∈ entry.2.interfaces, interface ∈ linked.keys) ∧
        (entry.2.interfaces.filterMap linked.get?).dedup.length = 1 := by
  simp only [validateBondMembers, Checks.each_ok, Checks.bind_ok, Checks.raiseIf_ok, Checks.exists_unit, ne_eq, not_not,
    List.filter_eq_nil_iff, decide_eq_true_eq]

theorem validateTunnels_ok {name : String} {linked : Dict String Int} {node : LinuxNode} {done : Unit} :
    node.validateTunnels name linked = .ok done ↔
      (∀ entry ∈ node.devicesOf LinuxDeviceConfig.vxlan?,
        node.hasAddress entry.2.link entry.2.localAddress = true ∧
          Tunnels linked entry.2.link (overlayOverhead entry.2.localAddress) entry.2.mtu) ∧
      (∀ entry ∈ node.devicesOf LinuxDeviceConfig.geneve?,
        Tunnels linked entry.2.link (overlayOverhead entry.2.remote) entry.2.mtu) ∧
      (∀ entry ∈ node.devicesOf LinuxDeviceConfig.gre?,
        node.hasAddress entry.2.link (.v4 entry.2.localAddress) = true ∧
          Tunnels linked entry.2.link (greOverhead entry.2) entry.2.mtu) ∧
      ∀ entry ∈ node.devicesOf LinuxDeviceConfig.ipip?,
        node.hasAddress entry.2.link (.v4 entry.2.localAddress) = true ∧ Tunnels linked entry.2.link 20 entry.2.mtu := by
  simp only [validateTunnels, Checks.each_ok, Checks.bind_ok, Checks.raiseIf_ok, Checks.exists_unit, requireUnderlay,
    requireParent_ok, requireRoom_ok, NodeBase.requireLocal, Bool.not_eq_false, Tunnels, exists_and_left,
    and_left_comm (b := NodeBase.hasAddress _ _ _ = true)]

theorem validateReferences_ok {name : String} {linked : Dict String Int} {node : LinuxNode} {done : Unit} :
    node.validateReferences name linked = .ok done ↔ node.Linked linked := by
  simp only [validateReferences, Checks.bind_ok, Checks.exists_unit, Checks.each_ok, Checks.raiseIf_ok, Checks.ifSome_ok,
    validateBondMembers_ok, validateTunnels_ok, validateSubInterface_ok, not_not, List.mem_cons, List.not_mem_nil, or_false,
    forall_eq_or_imp, forall_eq]
  constructor
  · rintro ⟨apart, vlans, bonds, ⟨vxlans, geneves, gres, ipips⟩, macvlans, ipvlans, vrfs, rules⟩
    exact {
      apart, vlans, bonds, vxlans, geneves, gres, ipips, macvlans, ipvlans, vrfs
      rules := fun rule member interface given => given.elim ((rules rule member).1 interface) ((rules rule member).2 interface) }
  · intro linked
    exact ⟨linked.apart, linked.vlans, linked.bonds, ⟨linked.vxlans, linked.geneves, linked.gres, linked.ipips⟩,
      linked.macvlans, linked.ipvlans, linked.vrfs, fun rule member =>
        ⟨fun interface given => linked.rules rule member interface (.inl given),
          fun interface given => linked.rules rule member interface (.inr given)⟩⟩

end LinuxNode

namespace BridgeNode

def available (node : BridgeNode) (linked : Dict String Int) : List String :=
  linked.keys ++ node.bridge.name :: node.devices.keys

def validateOverlayDevice (name : String) (linked : Dict String Int) (node : BridgeNode) (device : String) :
    BridgeDeviceConfig → Except Issue Unit
  | .vxlan vxlan => do
    let parent ← LinuxNode.requireUnderlay linked "VXLAN" name device vxlan.link
    node.requireLocal "VXLAN" name device vxlan.link vxlan.localAddress
    requireRoom "VXLAN" name device (parent - overlayOverhead vxlan.localAddress) vxlan.mtu
  | .geneve geneve => do
    let parent ← LinuxNode.requireUnderlay linked "Geneve" name device geneve.link
    requireRoom "GENEVE" name device (parent - overlayOverhead geneve.remote) geneve.mtu

/-- The interfaces below the overlay devices. -/
def underlays (node : BridgeNode) : List String := node.devices.values.map BridgeDeviceConfig.link

def validateReferences (name : String) (linked : Dict String Int) (node : BridgeNode) : Except Issue Unit := do
  Checks.each node.devices.keys fun device => Checks.raiseIf (device ∈ linked.keys)
    (issue ("device name conflicts with a linked endpoint on node " ++ quoted name ++ ": " ++ quoted device))
  Checks.each node.devices.entries fun (device, overlay) => node.validateOverlayDevice name linked device overlay
  Checks.raiseIf (node.bridge.name ∈ linked.keys)
    (issue ("bridge interface conflicts with a linked endpoint on node " ++ quoted name ++ ": " ++ quoted node.bridge.name))
  Checks.each node.bridge.ports.keys fun port => do
    Checks.raiseIf (port ∈ node.underlays)
      (issue ("overlay underlay interface cannot be a bridge port on node " ++ quoted name ++ ": " ++ quoted port))
    Checks.raiseIf (port ∉ linked.keys ∧ port ∉ node.devices.keys)
      (issue ("configured bridge port is not linked or an overlay device on node " ++ quoted name ++ ": " ++ quoted port))

/-- An overlay device over a linked interface that has room for it. -/
def Carries (linked : Dict String Int) (node : BridgeNode) : BridgeDeviceConfig → Prop
  | .vxlan vxlan => node.hasAddress vxlan.link vxlan.localAddress = true ∧
      LinuxNode.Tunnels linked vxlan.link (overlayOverhead vxlan.localAddress) vxlan.mtu
  | .geneve geneve => LinuxNode.Tunnels linked geneve.link (overlayOverhead geneve.remote) geneve.mtu

/-- What the topology establishes of the devices and ports of a bridge node. -/
structure Linked (linked : Dict String Int) (node : BridgeNode) : Prop where
  apart : ∀ device ∈ node.devices.keys, device ∉ linked.keys
  overlays : ∀ device ∈ node.devices.values, node.Carries linked device
  bridge : node.bridge.name ∉ linked.keys
  ports : ∀ port ∈ node.bridge.ports.keys, port ∉ node.underlays ∧ (port ∈ linked.keys ∨ port ∈ node.devices.keys)

theorem validateOverlayDevice_ok {name : String} {linked : Dict String Int} {node : BridgeNode} {device : String}
    {overlay : BridgeDeviceConfig} {done : Unit} :
    node.validateOverlayDevice name linked device overlay = .ok done ↔ node.Carries linked overlay := by
  cases overlay with
  | vxlan vxlan =>
    simp only [validateOverlayDevice, LinuxNode.requireUnderlay, NodeBase.requireLocal, Checks.bind_ok, Checks.raiseIf_ok,
      Checks.exists_unit, requireParent_ok, requireRoom_ok, Bool.not_eq_false, Carries, LinuxNode.Tunnels, exists_and_left,
      and_left_comm (b := NodeBase.hasAddress _ _ _ = true)]
  | geneve geneve =>
    simp only [validateOverlayDevice, LinuxNode.requireUnderlay, Checks.bind_ok, requireParent_ok, requireRoom_ok, Carries,
      LinuxNode.Tunnels]

theorem validateReferences_ok {name : String} {linked : Dict String Int} {node : BridgeNode} {done : Unit} :
    node.validateReferences name linked = .ok done ↔ node.Linked linked := by
  simp only [validateReferences, Checks.bind_ok, Checks.exists_unit, Checks.each_ok, Checks.raiseIf_ok,
    validateOverlayDevice_ok, not_and, not_not]
  constructor
  · rintro ⟨apart, overlays, bridge, ports⟩
    refine ⟨apart, fun device member => ?_, bridge, fun port member => ⟨(ports port member).1, or_iff_not_imp_left.mpr (ports port member).2⟩⟩
    obtain ⟨entry, inside, rfl⟩ := List.mem_map.mp member
    exact overlays entry inside
  · intro linked
    exact ⟨linked.apart, fun entry member => linked.overlays _ (List.mem_map_of_mem member), linked.bridge,
      fun port member => ⟨(linked.ports port member).1, or_iff_not_imp_left.mp (linked.ports port member).2⟩⟩

end BridgeNode

namespace NodeConfig

def available (node : NodeConfig) (linked : Dict String Int) : List String :=
  match node with
  | .linux node => node.available linked
  | .bridge node => node.available linked

def validateReferences (name : String) (linked : Dict String Int) (node : NodeConfig) : Except Issue Unit :=
  match node with
  | .linux node => node.validateReferences name linked
  | .bridge node => node.validateReferences name linked

def Linked (linked : Dict String Int) (node : NodeConfig) : Prop :=
  match node with
  | .linux node => node.Linked linked
  | .bridge node => node.Linked linked

theorem validateReferences_ok {name : String} {linked : Dict String Int} {node : NodeConfig} {done : Unit} :
    node.validateReferences name linked = .ok done ↔ node.Linked linked := by
  cases node with
  | linux node => exact LinuxNode.validateReferences_ok
  | bridge node => exact BridgeNode.validateReferences_ok

end NodeConfig

section Uses

def NodeBase.validateUses (name : String) (available : List String) (node : NodeBase) : Except Issue Unit := do
  Checks.each node.interfaces.keys fun interface => Checks.raiseIf (interface ∉ available)
    (issue ("configured interface is not linked: " ++ name ++ ":" ++ interface))
  Checks.each node.routes fun route => do
    let devices ← routeDevices route
    Checks.each devices fun device => Checks.raiseIf (device ∉ available)
      (issue ("route device is not linked on node " ++ quoted name ++ ": " ++ quoted device))
  Checks.each node.neighbors fun neighbor => Checks.raiseIf (neighbor.dev ∉ available)
    (issue ("neighbor device is not linked on node " ++ quoted name ++ ": " ++ quoted neighbor.dev))

/-- What the topology establishes of the interfaces that a node configures or routes through. -/
structure NodeBase.Uses (available : List String) (node : NodeBase) : Prop where
  interfaces : ∀ interface ∈ node.interfaces.keys, interface ∈ available
  routes : ∀ route ∈ node.routes, ∃ devices, routeDevices route = .ok devices ∧ ∀ device ∈ devices, device ∈ available
  neighbors : ∀ neighbor ∈ node.neighbors, neighbor.dev ∈ available

theorem NodeBase.validateUses_ok {name : String} {available : List String} {node : NodeBase} {done : Unit} :
    node.validateUses name available = .ok done ↔ node.Uses available := by
  simp only [validateUses, Checks.bind_ok, Checks.exists_unit, Checks.each_ok, Checks.raiseIf_ok, not_not]
  exact ⟨fun all => ⟨all.1, all.2.1, all.2.2⟩,
    fun uses => ⟨uses.interfaces, uses.routes, uses.neighbors⟩⟩

end Uses

section Protocols

/-- The router identifiers and the rendezvous point that the nodes so far have claimed. -/
structure Routers where
  ospf : Dict IPv4Address String := .empty
  bgp : Dict IPv4Address String := .empty
  rp : Option IPv4Address := none

def claimRouter (protocol name : String) (routers : Dict IPv4Address String) (router : IPv4Address) :
    Except Issue (Dict IPv4Address String) :=
  match routers.get? router with
  | some previous => refuse ("duplicate " ++ protocol ++ " router_id " ++ String.ofList router.chars ++ " on nodes " ++
      quoted previous ++ " and " ++ quoted name)
  | none => .ok (routers.insert router name)

namespace LinuxNode

/-- The IPv4 networks that the addresses of a node connect it to. -/
def networks4 (node : LinuxNode) : List IPNetwork :=
  ((node.interfaces.values.flatMap (·.addresses) ++ node.devices.values.flatMap LinuxDeviceConfig.addresses).filter
    (·.version = 4)).map (·.network)

def addressesOf (node : LinuxNode) (interface : String) : List IPInterface :=
  match node.interfaces.get? interface with
  | some config => config.addresses
  | none => ((node.devices.get? interface).map LinuxDeviceConfig.addresses).getD []

def validateOspf (name : String) (available : List String) (routers : Routers) (ospf : OspfConfig) :
    Except Issue Routers := do
  let claimed ← claimRouter "OSPF" name routers.ospf ospf.routerId
  Checks.each ospf.passiveInterfaces fun interface => Checks.raiseIf (interface ∉ available)
    (issue ("OSPF passive interface is not linked on node " ++ quoted name ++ ": " ++ quoted interface))
  pure { routers with ospf := claimed }

def validateBgp (name : String) (node : LinuxNode) (routers : Routers) (bgp : BgpConfig) : Except Issue Routers := do
  let claimed ← claimRouter "BGP" name routers.bgp bgp.routerId
  Checks.each bgp.neighbors fun neighbor =>
    Checks.raiseIf (node.networks4.any (fun network => network.contains (.v4 neighbor.address)) = false)
      (issue ("BGP neighbor " ++ String.ofList neighbor.address.chars ++ " is not directly connected on node " ++ quoted name))
  pure { routers with bgp := claimed }

def validatePim (name : String) (available : List String) (node : LinuxNode) (routers : Routers) (pim : PimConfig) :
    Except Issue Routers := do
  Checks.raiseIf (pimRegisterInterfaceName ∈ available)
    (issue ("PIM runtime interface name is reserved on node " ++ quoted name ++ ": " ++ quoted pimRegisterInterfaceName))
  Checks.ifSome routers.rp fun expected => Checks.raiseIf (pim.rpAddress ≠ expected)
    (issue ("all PIM nodes must use the same rp_address: expected " ++ String.ofList expected.chars ++ ", got " ++
      String.ofList pim.rpAddress.chars ++ " on node " ++ quoted name))
  Checks.each pim.interfaces fun interface => do
    Checks.raiseIf (interface ∉ available)
      (issue ("PIM interface is not available on node " ++ quoted name ++ ": " ++ quoted interface))
    Checks.raiseIf ((node.addressesOf interface).any (·.version = 4) = false)
      (issue ("PIM interface requires an IPv4 address on node " ++ quoted name ++ ": " ++ quoted interface))
  pure { routers with rp := some pim.rpAddress }

end LinuxNode

/-- A step that is only made when a protocol is configured. -/
def whenConfigured {α : Type} (config : Option α) (routers : Routers) (step : Routers → α → Except Issue Routers) :
    Except Issue Routers :=
  match config with
  | none => .ok routers
  | some config => step routers config

def NodeConfig.validateRouting (name : String) (available : List String) (routers : Routers) (node : NodeConfig) :
    Except Issue Routers :=
  whenConfigured node.toNodeBase.routing routers fun routers routing => match node with
    | .bridge _ => refuse ("dynamic routing is only supported on linux nodes: " ++ quoted name)
    | .linux node => do
      Checks.raiseIf (node.sysctls.get? "net.ipv4.ip_forward" ≠ some 1)
        (issue ("dynamic routing requires net.ipv4.ip_forward: 1 on node " ++ quoted name))
      let routers ← whenConfigured routing.ospf routers (LinuxNode.validateOspf name available)
      let routers ← whenConfigured routing.bgp routers (node.validateBgp name)
      whenConfigured routing.pim routers (node.validatePim name available)

/-- What the topology establishes of the routing protocols of a Linux node. -/
structure LinuxNode.Speaks (available : List String) (node : LinuxNode) (routing : RoutingConfig) : Prop where
  forwards : node.sysctls.get? "net.ipv4.ip_forward" = some 1
  passive : ∀ ospf, routing.ospf = some ospf → ∀ interface ∈ ospf.passiveInterfaces, interface ∈ available
  neighbors : ∀ bgp, routing.bgp = some bgp → ∀ neighbor ∈ bgp.neighbors,
    ∃ network ∈ node.networks4, network.contains (.v4 neighbor.address) = true
  register : ∀ pim, routing.pim = some pim → pimRegisterInterfaceName ∉ available
  interfaces : ∀ pim, routing.pim = some pim → ∀ interface ∈ pim.interfaces, interface ∈ available ∧
    ∃ address ∈ node.addressesOf interface, address.version = 4

namespace NodeConfig

/-- Only Linux nodes route dynamically. -/
def Speaks (available : List String) (node : NodeConfig) : Prop :=
  ∀ routing, node.toNodeBase.routing = some routing → match node with
    | .linux node => node.Speaks available routing
    | .bridge _ => False

def ospfRouter (node : NodeConfig) : Option IPv4Address := (node.toNodeBase.routing.bind (·.ospf)).map (·.routerId)

def bgpRouter (node : NodeConfig) : Option IPv4Address := (node.toNodeBase.routing.bind (·.bgp)).map (·.routerId)

def rendezvous (node : NodeConfig) : Option IPv4Address := (node.toNodeBase.routing.bind (·.pim)).map (·.rpAddress)

end NodeConfig

/-- The claims after a node has made its own. -/
def Routers.claim (routers : Routers) (name : String) (node : NodeConfig) : Routers where
  ospf := (node.ospfRouter.map fun router => routers.ospf.insert router name).getD routers.ospf
  bgp := (node.bgpRouter.map fun router => routers.bgp.insert router name).getD routers.bgp
  rp := node.rendezvous.or routers.rp

/-- A node claims no router identifier twice and agrees on the rendezvous point. -/
structure Routers.Admits (routers : Routers) (node : NodeConfig) : Prop where
  ospf : ∀ router, node.ospfRouter = some router → router ∉ routers.ospf.keys
  bgp : ∀ router, node.bgpRouter = some router → router ∉ routers.bgp.keys
  rp : ∀ address, node.rendezvous = some address → ∀ expected, routers.rp = some expected → address = expected

theorem claimRouter_ok {protocol name : String} {routers claimed : Dict IPv4Address String} {router : IPv4Address} :
    claimRouter protocol name routers router = .ok claimed ↔ router ∉ routers.keys ∧ claimed = routers.insert router name := by
  unfold claimRouter
  split
  next previous found => simp [Dict.mem_keys_of_get? found]
  next absent => simp [Dict.get?_none_iff.mp absent, eq_comm]

theorem whenConfigured_some {α : Type} (given : α) (routers : Routers) (step : Routers → α → Except Issue Routers) :
    whenConfigured (some given) routers step = step routers given := rfl

theorem LinuxNode.validateOspf_ok {name : String} {available : List String} {routers final : Routers}
    {config : Option OspfConfig} : whenConfigured config routers (validateOspf name available) = .ok final ↔
      (∀ ospf, config = some ospf → ospf.routerId ∉ routers.ospf.keys) ∧
      (∀ ospf, config = some ospf → ∀ interface ∈ ospf.passiveInterfaces, interface ∈ available) ∧
      final = { routers with ospf := (config.map fun ospf => routers.ospf.insert ospf.routerId name).getD routers.ospf } := by
  cases config with
  | none =>
    simp only [whenConfigured, Except.ok.injEq, reduceCtorEq, false_implies, implies_true, true_and, Option.map_none,
      Option.getD_none]
    exact eq_comm
  | some ospf =>
    simp only [whenConfigured, validateOspf, Checks.bind_ok, claimRouter_ok, Checks.each_ok, Checks.raiseIf_ok,
      Checks.exists_unit, Checks.pure_ok, not_not, Option.some.injEq, forall_eq', Option.map_some, Option.getD_some]
    constructor
    · rintro ⟨_, ⟨fresh, rfl⟩, passive, rfl⟩
      exact ⟨fresh, passive, rfl⟩
    · rintro ⟨fresh, passive, rfl⟩
      exact ⟨_, ⟨fresh, rfl⟩, passive, rfl⟩

theorem LinuxNode.validateBgp_ok {name : String} {node : LinuxNode} {routers final : Routers} {config : Option BgpConfig} :
    whenConfigured config routers (node.validateBgp name) = .ok final ↔
      (∀ bgp, config = some bgp → bgp.routerId ∉ routers.bgp.keys) ∧
      (∀ bgp, config = some bgp → ∀ neighbor ∈ bgp.neighbors,
        ∃ network ∈ node.networks4, network.contains (.v4 neighbor.address) = true) ∧
      final = { routers with bgp := (config.map fun bgp => routers.bgp.insert bgp.routerId name).getD routers.bgp } := by
  cases config with
  | none =>
    simp only [whenConfigured, Except.ok.injEq, reduceCtorEq, false_implies, implies_true, true_and, Option.map_none,
      Option.getD_none]
    exact eq_comm
  | some bgp =>
    simp only [whenConfigured, validateBgp, Checks.bind_ok, claimRouter_ok, Checks.each_ok, Checks.raiseIf_ok,
      Checks.exists_unit, Checks.pure_ok, Bool.not_eq_false, List.any_eq_true, Option.some.injEq, forall_eq',
      Option.map_some, Option.getD_some]
    constructor
    · rintro ⟨_, ⟨fresh, rfl⟩, neighbors, rfl⟩
      exact ⟨fresh, neighbors, rfl⟩
    · rintro ⟨fresh, neighbors, rfl⟩
      exact ⟨_, ⟨fresh, rfl⟩, neighbors, rfl⟩

theorem LinuxNode.validatePim_ok {name : String} {available : List String} {node : LinuxNode} {routers final : Routers}
    {config : Option PimConfig} : whenConfigured config routers (node.validatePim name available) = .ok final ↔
      (∀ pim, config = some pim → pimRegisterInterfaceName ∉ available) ∧
      (∀ pim, config = some pim → ∀ expected, routers.rp = some expected → pim.rpAddress = expected) ∧
      (∀ pim, config = some pim → ∀ interface ∈ pim.interfaces, interface ∈ available ∧
        ∃ address ∈ node.addressesOf interface, address.version = 4) ∧
      final = { routers with rp := (config.map (·.rpAddress)).or routers.rp } := by
  cases config with
  | none =>
    simp only [whenConfigured, Except.ok.injEq, reduceCtorEq, false_implies, implies_true, true_and, Option.map_none,
      Option.none_or]
    exact eq_comm
  | some pim =>
    simp only [whenConfigured, validatePim, Checks.bind_ok, Checks.each_ok, Checks.raiseIf_ok, Checks.ifSome_ok,
      Checks.exists_unit, Checks.pure_ok, Bool.not_eq_false, List.any_eq_true, decide_eq_true_eq, not_not, ne_eq,
      eq_comm (b := final), Option.some.injEq, forall_eq', Option.map_some, Option.some_or]

theorem NodeConfig.validateRouting_ok {name : String} {available : List String} {routers final : Routers} {node : NodeConfig} :
    node.validateRouting name available routers = .ok final ↔
      node.Speaks available ∧ routers.Admits node ∧ final = routers.claim name node := by
  rw [validateRouting]
  cases routing : node.toNodeBase.routing with
  | none =>
    simp only [whenConfigured, Except.ok.injEq]
    constructor
    · rintro rfl
      exact ⟨fun _ given => by simp [routing] at given, ⟨by simp [ospfRouter, routing], by simp [bgpRouter, routing],
        by simp [rendezvous, routing]⟩, by simp [Routers.claim, ospfRouter, bgpRouter, rendezvous, routing]⟩
    · rintro ⟨_, _, rfl⟩
      simp [Routers.claim, ospfRouter, bgpRouter, rendezvous, routing]
  | some config =>
    cases node with
    | bridge bridge =>
      simp only [whenConfigured, refuse_ok, false_iff, not_and]
      exact fun speaks => (speaks config routing).elim
    | linux linux =>
      obtain ⟨ospf, bgp, pim⟩ := config
      have router : ospfRouter (.linux linux) = ospf.map (·.routerId) := by simp [ospfRouter, routing]
      have speaker : bgpRouter (.linux linux) = bgp.map (·.routerId) := by simp [bgpRouter, routing]
      have point : rendezvous (.linux linux) = pim.map (·.rpAddress) := by simp [rendezvous, routing]
      simp only [whenConfigured_some, Checks.bind_ok, Checks.exists_unit, Checks.raiseIf_ok, ne_eq, not_not,
        LinuxNode.validateOspf_ok, LinuxNode.validateBgp_ok, LinuxNode.validatePim_ok]
      constructor
      · rintro ⟨forwards, _, ⟨freshRouter, passive, rfl⟩, _, ⟨freshSpeaker, neighbors, rfl⟩, register, same, interfaces, rfl⟩
        refine ⟨fun other given => ?_, ⟨?_, ?_, ?_⟩, ?_⟩
        · obtain rfl := Option.some.inj (routing.symm.trans given)
          exact ⟨forwards, passive, neighbors, register, interfaces⟩
        · simpa [router] using freshRouter
        · simpa [speaker] using freshSpeaker
        · simpa [point] using same
        · simp [Routers.claim, router, speaker, point, Function.comp_def]
      · rintro ⟨speaks, admits, rfl⟩
        have facts : LinuxNode.Speaks available linux ⟨ospf, bgp, pim⟩ := speaks _ routing
        refine ⟨facts.forwards, _, ⟨?_, facts.passive, rfl⟩, _, ⟨?_, facts.neighbors, rfl⟩, facts.register, ?_,
          facts.interfaces, ?_⟩
        · simpa [router] using admits.ospf
        · simpa [speaker] using admits.bgp
        · simpa [point] using admits.rp
        · simp [Routers.claim, router, speaker, point, Function.comp_def]

end Protocols

namespace Topology

section Validation

/-- The nodes one after the other, each with the routers claimed before it. -/
def validateNodes (topology : Topology) (routers : Routers) : List (String × NodeConfig) → Except Issue Unit
  | [] => .ok ()
  | (name, node) :: rest => do
    let linked := topology.linkedMtus name
    node.validateReferences name linked
    node.toNodeBase.validateUses name (node.available linked)
    let routers ← node.validateRouting name (node.available linked) routers
    topology.validateNodes routers rest

def validateReferences (topology : Topology) : Except Issue Unit := do
  topology.validateEndpoints
  topology.validateNodes {} topology.nodes.entries

/-- What is established of an endpoint with the MTU of its link. -/
structure EndpointValid (topology : Topology) (endpoint : String) (mtu : Int) : Prop where
  separated : (Text.partition ':' endpoint).2.1 = true
  node : endpointNode endpoint ∈ topology.nodes.keys
  nodeName : endpointNode endpoint ≠ ""
  interface : requireInterfaceName "endpoint interface name" (endpointInterface endpoint) = .ok ()
  interfaceName : endpointInterface endpoint ≠ ""
  loopback : endpointInterface endpoint ≠ "lo"
  ipv6 : mtu < ipv6MinimumLinkMtu → ∀ config, topology.endpointConfig endpoint = some config →
    ∀ address ∈ config.addresses, address.version ≠ 6

/-- What is established of a node, given the interfaces linked to it. -/
structure NodeValid (linked : Dict String Int) (node : NodeConfig) : Prop where
  references : node.Linked linked
  uses : node.toNodeBase.Uses (node.available linked)
  speaks : node.Speaks (node.available linked)

/-- What the validator establishes of a topology. -/
structure Consistent (topology : Topology) : Prop where
  endpoints : ∀ entry ∈ topology.endpoints, topology.EndpointValid entry.1 entry.2
  apart : (topology.endpoints.map Prod.fst).Nodup
  nodes : ∀ entry ∈ topology.nodes.entries, NodeValid (topology.linkedMtus entry.1) entry.2
  ospfRouters : (topology.nodes.values.filterMap NodeConfig.ospfRouter).Nodup
  bgpRouters : (topology.nodes.values.filterMap NodeConfig.bgpRouter).Nodup
  rendezvous : ∀ first ∈ topology.nodes.values.filterMap NodeConfig.rendezvous,
    ∀ second ∈ topology.nodes.values.filterMap NodeConfig.rendezvous, first = second

theorem validateEndpoints_ok {topology : Topology} {done : Unit} : topology.validateEndpoints = .ok done ↔
    (∀ entry ∈ topology.endpoints, topology.EndpointValid entry.1 entry.2) ∧ (topology.endpoints.map Prod.fst).Nodup := by
  rw [validateEndpoints, Checks.sweep_ok]
  refine and_congr_left' (forall₂_congr fun entry _ => ?_)
  simp only [validateEndpoint, validateEndpointMtu, Checks.bind_ok, Checks.raiseIf_ok, Checks.exists_unit, not_or,
    Bool.not_eq_false, Dict.contains_iff, Option.any_eq_true, List.any_eq_true, decide_eq_true_eq, not_and, not_exists]
  constructor
  · intro all
    obtain ⟨⟨⟨separated, nodeName, interfaceName⟩, interface, loopback, node⟩, ipv6⟩ := all
    exact ⟨separated, node, nodeName, interface, interfaceName, loopback, ipv6⟩
  · intro valid
    exact ⟨⟨⟨valid.separated, valid.nodeName, valid.interfaceName⟩, valid.interface, valid.loopback, valid.node⟩, valid.ipv6⟩

private theorem filterMap_toList {α β : Type} (select : α → Option β) (item : α) (items : List α) :
    (item :: items).filterMap select = (select item).toList ++ items.filterMap select := by
  rw [List.filterMap_cons]
  cases select item <;> rfl

/-- One more claim: the identifiers stay distinct and new. -/
private theorem claim_iff (name : String) {router : Option IPv4Address} {claimed : Dict IPv4Address String}
    {rest : List IPv4Address} :
    ((∀ given, router = some given → given ∉ claimed.keys) ∧ rest.Nodup ∧
        ∀ other ∈ rest, other ∉ ((router.map fun given => claimed.insert given name).getD claimed).keys) ↔
      (router.toList ++ rest).Nodup ∧ ∀ other ∈ router.toList ++ rest, other ∉ claimed.keys := by
  cases router with
  | none => simp
  | some given =>
    have keys : ∀ other, other ∈ (claimed.insert given name).keys ↔ other = given ∨ other ∈ claimed.keys := by
      intro other
      rw [Dict.keys_insert]
      split <;> grind
    simp only [Option.map_some, Option.getD_some, keys, Option.toList_some, List.singleton_append, List.nodup_cons,
      List.mem_cons, Option.some.injEq, forall_eq', forall_eq_or_imp, not_or]
    constructor
    · rintro ⟨fresh, unique, others⟩
      exact ⟨⟨fun member => (others given member).1 rfl, unique⟩, fresh, fun other member => (others other member).2⟩
    · rintro ⟨⟨alone, unique⟩, fresh, others⟩
      exact ⟨fresh, unique, fun other member => ⟨fun same => alone (same ▸ member), others other member⟩⟩

/-- One more claim: the rendezvous points stay the same. -/
private theorem agree_iff {point rp : Option IPv4Address} {rest : List IPv4Address} :
    ((∀ address, point = some address → ∀ expected, rp = some expected → address = expected) ∧
        ∀ first ∈ (point.or rp).toList ++ rest, ∀ second ∈ (point.or rp).toList ++ rest, first = second) ↔
      ∀ first ∈ rp.toList ++ (point.toList ++ rest), ∀ second ∈ rp.toList ++ (point.toList ++ rest), first = second := by
  cases point with
  | none => simp
  | some address => cases rp with
    | none => simp
    | some expected =>
      simp only [Option.some.injEq, forall_eq', Option.some_or, Option.toList_some, List.singleton_append]
      constructor
      · rintro ⟨rfl, same⟩ first inFirst second inSecond
        exact same first (by simpa using inFirst) second (by simpa using inSecond)
      · intro same
        have equal := same address (by simp) expected (by simp)
        exact ⟨equal, fun first inFirst second inSecond =>
          same first (List.mem_cons_of_mem _ inFirst) second (List.mem_cons_of_mem _ inSecond)⟩

theorem validateNodes_ok {topology : Topology} {routers : Routers} {nodes : List (String × NodeConfig)} {done : Unit} :
    topology.validateNodes routers nodes = .ok done ↔
      (∀ entry ∈ nodes, NodeValid (topology.linkedMtus entry.1) entry.2) ∧
      (((nodes.map Prod.snd).filterMap NodeConfig.ospfRouter).Nodup ∧
        ∀ router ∈ (nodes.map Prod.snd).filterMap NodeConfig.ospfRouter, router ∉ routers.ospf.keys) ∧
      (((nodes.map Prod.snd).filterMap NodeConfig.bgpRouter).Nodup ∧
        ∀ router ∈ (nodes.map Prod.snd).filterMap NodeConfig.bgpRouter, router ∉ routers.bgp.keys) ∧
      ∀ first ∈ routers.rp.toList ++ (nodes.map Prod.snd).filterMap NodeConfig.rendezvous,
        ∀ second ∈ routers.rp.toList ++ (nodes.map Prod.snd).filterMap NodeConfig.rendezvous, first = second := by
  induction nodes generalizing routers with
  | nil => cases routers.rp <;> simp [validateNodes]
  | cons entry rest ih =>
    obtain ⟨name, node⟩ := entry
    simp only [validateNodes, Checks.bind_ok, Checks.exists_unit, NodeConfig.validateReferences_ok,
      NodeBase.validateUses_ok, NodeConfig.validateRouting_ok, ih, List.map_cons, filterMap_toList, ← claim_iff name,
      ← agree_iff, List.forall_mem_cons]
    constructor
    · rintro ⟨references, uses, _, ⟨speaks, admits, rfl⟩, valid, ospf, bgp, rp⟩
      exact ⟨⟨⟨references, uses, speaks⟩, valid⟩, ⟨admits.ospf, ospf⟩, ⟨admits.bgp, bgp⟩, admits.rp, rp⟩
    · rintro ⟨⟨node, valid⟩, ⟨freshRouter, ospf⟩, ⟨freshSpeaker, bgp⟩, same, rp⟩
      exact ⟨node.references, node.uses, _, ⟨node.speaks, ⟨freshRouter, freshSpeaker, same⟩, rfl⟩, valid, ospf, bgp, rp⟩

theorem validateReferences_ok {topology : Topology} {done : Unit} :
    topology.validateReferences = .ok done ↔ topology.Consistent := by
  simp only [validateReferences, Checks.bind_ok, Checks.exists_unit, validateEndpoints_ok, validateNodes_ok]
  constructor
  · rintro ⟨⟨endpoints, apart⟩, nodes, ⟨ospf, _⟩, ⟨bgp, _⟩, rp⟩
    exact ⟨endpoints, apart, nodes, ospf, bgp, rp⟩
  · intro valid
    exact ⟨⟨valid.endpoints, valid.apart⟩, valid.nodes, ⟨valid.ospfRouters, fun _ _ => List.not_mem_nil⟩,
      ⟨valid.bgpRouters, fun _ _ => List.not_mem_nil⟩, valid.rendezvous⟩

end Validation

end Topology

section Settled

variable {linked : Dict String Int} {sort : Bool}

namespace LinuxNode

variable {node : LinuxNode}

theorem addresses_normalized (device : LinuxDeviceConfig) : device.normalized.addresses = device.addresses := by
  simp [LinuxDeviceConfig.addresses, interface?_normalized]

@[simp] theorem hasAddress_settled (interface : String) (address : IPAddress) :
    (node.settled sort).hasAddress interface address = node.hasAddress interface address := by
  simp [NodeBase.hasAddress, settled, NodeBase.arranged]

@[simp] theorem mem_available_settled {interface : String} :
    interface ∈ (node.settled sort).available linked ↔ interface ∈ node.available linked := by
  have devices : ((node.settled sort).devicesOf LinuxDeviceConfig.interface?).Perm
      (node.devicesOf LinuxDeviceConfig.interface?) := devicesOf_settled_same interface?_normalized
  simp [available, (devices.map Prod.fst).mem_iff]

@[simp] theorem addressesOf_settled (interface : String) :
    (node.settled sort).addressesOf interface = node.addressesOf interface := by
  have normalized : LinuxDeviceConfig.addresses ∘ LinuxDeviceConfig.normalized = LinuxDeviceConfig.addresses :=
    funext addresses_normalized
  simp [addressesOf, settled, NodeBase.arranged, Option.map_map, normalized]

theorem mem_networks4_settled {network : IPNetwork} :
    network ∈ (node.settled sort).networks4 ↔ network ∈ node.networks4 := by
  have interfaces : ((node.settled sort).interfaces.values.flatMap (·.addresses)).Perm
      (node.interfaces.values.flatMap (·.addresses)) :=
    ((Dict.arranged_perm node.interfaces sort).map Prod.snd).flatMap_right _
  have devices : ((node.settled sort).devices.values.flatMap LinuxDeviceConfig.addresses).Perm
      (node.devices.values.flatMap LinuxDeviceConfig.addresses) := by
    refine ((devices_settled.map Prod.snd).flatMap_right _).trans (List.Perm.of_eq ?_)
    simp [List.flatMap_map, addresses_normalized, Dict.values]
  exact (((interfaces.append devices).filter _).map _).mem_iff

theorem Linked.settled (valid : node.Linked linked) (sort : Bool) : (node.settled sort).Linked linked := by
  have same {α : Type} {select : LinuxDeviceConfig → Option α}
      (selects : ∀ device : LinuxDeviceConfig, select device.normalized = select device) {entry : String × α} :
      entry ∈ (node.settled sort).devicesOf select ↔ entry ∈ node.devicesOf select :=
    (devicesOf_settled_same selects).mem_iff
  have vrfs : ∀ {entry}, entry ∈ (node.settled sort).devicesOf LinuxDeviceConfig.vrf? ↔
      entry ∈ node.devicesOf LinuxDeviceConfig.vrf? := same fun device => by cases device <;> rfl
  exact {
    apart := fun device member => valid.apart device (by simpa [LinuxNode.settled, Dict.mem_keys_arranged] using member)
    vlans := fun entry member => valid.vlans entry ((same fun device => by cases device <;> rfl).mp member)
    bonds := fun entry member => by
      obtain ⟨original, inside, rfl⟩ := List.mem_map.mp ((devicesOf_settled bond?_normalized).mem_iff.mp member)
      simpa only [(normalized_interfaces original.2).1] using valid.bonds original inside
    vxlans := fun entry member => by
      rw [hasAddress_settled]
      exact valid.vxlans entry ((same fun device => by cases device <;> rfl).mp member)
    geneves := fun entry member => valid.geneves entry ((same fun device => by cases device <;> rfl).mp member)
    gres := fun entry member => by
      rw [hasAddress_settled]
      exact valid.gres entry ((same fun device => by cases device <;> rfl).mp member)
    ipips := fun entry member => by
      rw [hasAddress_settled]
      exact valid.ipips entry ((same fun device => by cases device <;> rfl).mp member)
    macvlans := fun entry member => valid.macvlans entry ((same fun device => by cases device <;> rfl).mp member)
    ipvlans := fun entry member => valid.ipvlans entry ((same fun device => by cases device <;> rfl).mp member)
    vrfs := fun entry member interface inside => mem_available_settled.mpr (valid.vrfs entry (vrfs.mp member) interface inside)
    rules := fun rule member interface given => by
      have inside := valid.rules rule member interface given
      have names : ∀ name, name ∈ ((node.settled sort).devicesOf LinuxDeviceConfig.vrf?).map Prod.fst ↔
          name ∈ (node.devicesOf LinuxDeviceConfig.vrf?).map Prod.fst := fun name => (vrfs_settled.map _).mem_iff
      rw [List.mem_append, List.mem_append] at inside ⊢
      rwa [mem_available_settled, names] }

theorem Speaks.settled {available others : List String} {routing : RoutingConfig} (valid : node.Speaks available routing)
    (same : ∀ interface, interface ∈ others ↔ interface ∈ available) (sort : Bool) :
    (node.settled sort).Speaks others routing where
  forwards := by simpa [LinuxNode.settled, NodeBase.arranged] using valid.forwards
  passive ospf given interface member := (same _).mpr (valid.passive ospf given interface member)
  neighbors bgp given neighbor member := by
    obtain ⟨network, inside, contains⟩ := valid.neighbors bgp given neighbor member
    exact ⟨network, mem_networks4_settled.mpr inside, contains⟩
  register pim given member := valid.register pim given ((same _).mp member)
  interfaces pim given interface member := by
    rw [addressesOf_settled]
    exact ⟨(same _).mpr (valid.interfaces pim given interface member).1, (valid.interfaces pim given interface member).2⟩

end LinuxNode

namespace BridgeNode

variable {node : BridgeNode}

theorem mem_available_settled {interface : String} :
    interface ∈ (node.settled sort).available linked ↔ interface ∈ node.available linked := by
  simp [available, settled, Dict.mem_keys_arranged, BridgeConfig.arranged]

theorem Carries.settled {device : BridgeDeviceConfig} (valid : node.Carries linked device) (sort : Bool) :
    (node.settled sort).Carries linked device := by
  have address : ∀ interface address, (node.settled sort).hasAddress interface address = node.hasAddress interface address := by
    intro interface address
    simp [NodeBase.hasAddress, BridgeNode.settled, NodeBase.arranged]
  cases device with
  | vxlan vxlan =>
    simp only [Carries, address]
    exact valid
  | geneve geneve => exact valid

theorem Linked.settled (valid : node.Linked linked) (sort : Bool) : (node.settled sort).Linked linked where
  apart device member := valid.apart device (Dict.mem_keys_arranged.mp member)
  overlays device member := (valid.overlays device (Dict.mem_values_arranged.mp member)).settled sort
  bridge := valid.bridge
  ports port member := by
    have facts := valid.ports port (Dict.mem_keys_arranged.mp member)
    have underlays : port ∈ (node.settled sort).underlays ↔ port ∈ node.underlays := by
      simp [underlays, BridgeNode.settled, Dict.mem_values_arranged]
    rw [underlays]
    exact ⟨facts.1, facts.2.imp_right Dict.mem_keys_arranged.mpr⟩

end BridgeNode

namespace NodeConfig

variable {node : NodeConfig}

theorem toNodeBase_settled : (node.settled sort).toNodeBase = node.toNodeBase.arranged sort := by
  cases node <;> rfl

theorem mem_available_settled {interface : String} :
    interface ∈ (node.settled sort).available linked ↔ interface ∈ node.available linked := by
  cases node with
  | linux node => exact LinuxNode.mem_available_settled
  | bridge node => exact BridgeNode.mem_available_settled

theorem routing_settled : (node.settled sort).toNodeBase.routing = node.toNodeBase.routing := by
  rw [toNodeBase_settled]
  rfl

theorem NodeValid.settled (valid : Topology.NodeValid linked node) (sort : Bool) :
    Topology.NodeValid linked (node.settled sort) where
  references := by
    have references := valid.references
    cases node with
    | linux node => exact LinuxNode.Linked.settled references sort
    | bridge node => exact BridgeNode.Linked.settled references sort
  uses := by
    rw [toNodeBase_settled]
    exact {
      interfaces := fun interface member =>
        mem_available_settled.mpr (valid.uses.interfaces interface (Dict.mem_keys_arranged.mp member))
      routes := fun route member => by
        obtain ⟨devices, found, inside⟩ := valid.uses.routes route member
        exact ⟨devices, found, fun device listed => mem_available_settled.mpr (inside device listed)⟩
      neighbors := fun neighbor member => mem_available_settled.mpr (valid.uses.neighbors neighbor member) }
  speaks routing given := by
    have speaks := valid.speaks routing (routing_settled.symm.trans given)
    cases node with
    | linux node => exact LinuxNode.Speaks.settled speaks (fun _ => LinuxNode.mem_available_settled) sort
    | bridge node => exact speaks.elim

end NodeConfig

namespace Topology

variable {topology : Topology}

/-- The topology as it is read back, its nodes settled and in order. -/
def settled (topology : Topology) (sort : Bool) : Topology where
  nodes := (topology.nodes.map fun _ node => node.settled sort).arranged sort
  links := topology.links

theorem nodes_settled (sort : Bool) : (topology.settled sort).nodes.entries.Perm
    (topology.nodes.entries.map fun entry => (entry.1, entry.2.settled sort)) :=
  Dict.arranged_perm _ sort

theorem Consistent.settled (valid : topology.Consistent) (sort : Bool) : (topology.settled sort).Consistent := by
  have routings {α : Type} (select : NodeConfig → Option α) (selects : ∀ node : NodeConfig, select (node.settled sort) = select node) :
      ((topology.settled sort).nodes.values.filterMap select).Perm (topology.nodes.values.filterMap select) := by
    refine (((nodes_settled sort).map Prod.snd).filterMap select).trans (List.Perm.of_eq ?_)
    simp [Dict.values, List.filterMap_map, Function.comp_def, selects]
  have ospf := routings NodeConfig.ospfRouter fun node => by simp [NodeConfig.ospfRouter, NodeConfig.routing_settled]
  have bgp := routings NodeConfig.bgpRouter fun node => by simp [NodeConfig.bgpRouter, NodeConfig.routing_settled]
  have rendezvous := routings NodeConfig.rendezvous fun node => by simp [NodeConfig.rendezvous, NodeConfig.routing_settled]
  have config : ∀ endpoint, (topology.settled sort).endpointConfig endpoint = topology.endpointConfig endpoint := by
    intro endpoint
    simp only [endpointConfig, Topology.settled, Dict.get?_arranged, Dict.get?_map]
    cases topology.nodes.get? (endpointNode endpoint) with
    | none => rfl
    | some node => simp [NodeConfig.toNodeBase_settled, NodeBase.arranged]
  exact {
    endpoints := fun entry member => by
      have facts := valid.endpoints entry member
      exact ⟨facts.separated, by simpa [Topology.settled, Dict.mem_keys_arranged] using facts.node, facts.nodeName,
        facts.interface, facts.interfaceName, facts.loopback, by simpa only [config] using facts.ipv6⟩
    apart := valid.apart
    nodes := fun entry member => by
      obtain ⟨original, inside, rfl⟩ := List.mem_map.mp ((nodes_settled sort).mem_iff.mp member)
      exact NodeConfig.NodeValid.settled (valid.nodes original inside) sort
    ospfRouters := ospf.nodup_iff.mpr valid.ospfRouters
    bgpRouters := bgp.nodup_iff.mpr valid.bgpRouters
    rendezvous := fun first inFirst second inSecond =>
      valid.rendezvous first (rendezvous.mem_iff.mp inFirst) second (rendezvous.mem_iff.mp inSecond) }

end Topology

end Settled

section Manifests

def nodeDict : Codec (Dict String NodeConfig) := nodeConfig.named (requireName isName "node name")

instance : nodeDict.Stable := by unfold nodeDict; infer_instance

def topologyFields : Fields Topology :=
  ((Fields.required "nodes" nodeDict).and (.required "links" linkConfig.sequence)).iso (fun (nodes, links) => ⟨nodes, links⟩)
    fun topology => (topology.nodes, topology.links)

instance : topologyFields.Stable := by unfold topologyFields; infer_instance

theorem settle_topology (sorted : Bool) (topology : Topology) :
    topologyFields.settle sorted topology = topology.settled sorted := by
  have nodes : nodeDict.settle sorted topology.nodes =
      (topology.nodes.map fun _ node => node.settled sorted).arranged sorted := by
    rw [nodeDict, Codec.settle_named, funext (settle_nodeConfig sorted)]
  have links : linkConfig.sequence.settle sorted topology.links = topology.links := Codec.settle_exact _ _ _
  calc topologyFields.settle sorted topology
      = ⟨nodeDict.settle sorted topology.nodes, linkConfig.sequence.settle sorted topology.links⟩ := rfl
    _ = topology.settled sorted := by rw [nodes, links, Topology.settled]

def topologyConfig : Codec Topology :=
  topologyFields.object.checked Topology.validateReferences fun sorted topology _ valid => by
    have settle : topologyFields.object.settle sorted topology = topology.settled sorted := settle_topology sorted topology
    rw [settle, Topology.validateReferences_ok]
    exact (Topology.validateReferences_ok.mp valid).settled sorted

instance : topologyConfig.Stable := by unfold topologyConfig; infer_instance

structure Manifest where
  version : Int := 1
  name : String
  topology : Topology
deriving DecidableEq

/-- The only version is the integer 1. -/
def manifestVersion : Codec Int where
  read
    | .int 1 => .ok 1
    | _ => refuse "manifest version must be integer 1"
  dump := .int
  settle _ version := version
  holds version := version = 1
  given := Codec.strictInt.given
  plain := Codec.strictInt.plain
  reads version _ _ holds := by rw [holds]; rfl
  sound document version _ read := by
    split at read
    · exact (Except.ok.inj read).symm
    · simp at read

instance : manifestVersion.Exact := ⟨fun _ _ => rfl⟩

def deploymentName : Codec String := Codec.text.validated (requireName isName "deployment name")

instance : deploymentName.Exact := by unfold deploymentName; infer_instance

def manifestFields : Fields Manifest :=
  (((Fields.required "version" manifestVersion).and (.required "name" deploymentName)).and
    (.required "topology" topologyConfig)).iso (fun ((version, name), topology) => ⟨version, name, topology⟩)
    fun manifest => ((manifest.version, manifest.name), manifest.topology)

instance : manifestFields.Stable := by unfold manifestFields; infer_instance

def manifestCodec : Codec Manifest := manifestFields.object

instance : manifestCodec.Stable := by unfold manifestCodec; infer_instance

/-- The manifest as it is read back. -/
def Manifest.settled (manifest : Manifest) (sort : Bool) : Manifest :=
  { manifest with topology := manifest.topology.settled sort }

theorem settle_manifest (sorted : Bool) (manifest : Manifest) :
    manifestCodec.settle sorted manifest = manifest.settled sorted := by
  calc manifestCodec.settle sorted manifest
      = ⟨manifest.version, manifest.name, topologyFields.settle sorted manifest.topology⟩ := rfl
    _ = manifest.settled sorted := by rw [settle_topology, Manifest.settled]

/-- `Manifest.model_validate`. -/
def validateManifest (document : Document) : Except Issue Manifest := manifestCodec.read document

/-- `normalized_manifest`: the dump without absent values and some empty collections. -/
def normalizedManifest (manifest : Manifest) : Document := manifestCodec.dump manifest

def manifestFingerprint (manifest : Manifest) : String :=
  Digest.hexdigest (Digest.sha256 (Digest.utf8 (JsonText.dumps (normalizedManifest manifest))))

/-- A manifest that was validated from a document as a loader builds it. -/
def Manifest.Accepted (manifest : Manifest) : Prop :=
  ∃ document, document.plain = true ∧ validateManifest document = .ok manifest

end Manifests

end Nslab
