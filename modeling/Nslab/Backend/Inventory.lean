import Nslab.Plan.Interfaces

/-! What a backend observes of the namespaces of a plan, and what it expects of
the interfaces there. -/

namespace Nslab

open IpAddress

section Types

/-- The settings of a bridge port. -/
structure PortSettings where
  pathCost : Option Int := none
  portPriority : Option Int := none
  hairpin : Option Bool := none
  isolated : Option Bool := none
  learning : Option Bool := none
  flood : Option Bool := none
  multicastFlood : Option Bool := none
deriving DecidableEq

/-- The properties that belong to one kind of interface, with addresses as values or as texts. -/
structure KindProperties (α : Type) where
  parent : Option String := none
  vlanId : Option Int := none
  vrfTable : Option Int := none
  bondMode : Option String := none
  bondMiimonMs : Option Int := none
  bondPrimary : Option String := none
  bondLacpRate : Option String := none
  bondXmitHashPolicy : Option String := none
  bondMinLinks : Option Int := none
  vxlanVni : Option Int := none
  vxlanLink : Option String := none
  vxlanLocal : Option α := none
  vxlanRemote : Option α := none
  vxlanDstPort : Option Int := none
  vxlanLearning : Option Bool := none
  geneveVni : Option Int := none
  geneveLink : Option String := none
  geneveRemote : Option α := none
  geneveDstPort : Option Int := none
  greLink : Option String := none
  greLocal : Option α := none
  greRemote : Option α := none
  greKey : Option Int := none
  greTtl : Option Int := none
  ipipLink : Option String := none
  ipipLocal : Option α := none
  ipipRemote : Option α := none
  ipipTtl : Option Int := none
  macvlanMode : Option String := none
  ipvlanMode : Option String := none
deriving DecidableEq

structure InterfaceInventory extends PortSettings, KindProperties IPAddress where
  name : String
  kind : String
  ifindex : Option Int
  master : Option String
  mtu : Int
  up : Bool
  addresses : List IPInterface := []
  mac : Option String := none
  stp : Option Bool := none
  vlanFiltering : Option Bool := none
  bridgePriority : Option Int := none
  bridgeVlans : List BridgeVlanPlan := []
  netem : Option NetemPlan := none
  qdisc : Option QdiscPlan := none
  linkId : Option String := none
deriving DecidableEq

structure NamespaceInventory where
  node : String
  kind : NodeKind
  netns : String
  live : Bool
  interfaces : Dict String InterfaceInventory
  routes : List RoutePlan
  sysctls : Dict String Int
  rules : List PolicyRulePlan := []
  neighbors : List NeighborPlan := []
deriving DecidableEq

structure LiveInventory where
  namespaces : Dict String NamespaceInventory
  rootInterfaces : Dict String InterfaceInventory := .empty
deriving DecidableEq

structure ExpectedInterface extends PortSettings, KindProperties IPAddress where
  kind : String
  master : Option String
  mtu : Option Int
  up : Bool
  addresses : List IPInterface
  mac : Option String := none
  stp : Option Bool := none
  vlanFiltering : Option Bool := none
  bridgePriority : Option Int := none
  bridgeVlans : List BridgeVlanPlan := []
  netem : Option NetemPlan := none
  qdisc : Option QdiscPlan := none
deriving DecidableEq

end Types

section Expected

/-- The settings that a node declares for one of its ports. -/
def BridgePortPlan.settings (port : BridgePortPlan) : PortSettings where
  pathCost := port.pathCost
  portPriority := port.priority
  hairpin := port.hairpin
  isolated := port.isolated
  learning := port.learning
  flood := port.flood
  multicastFlood := port.multicastFlood

def portSettings (node : NodePlan) (interface : String) : PortSettings :=
  ((node.bridgePorts.get? interface).map BridgePortPlan.settings).getD {}

/-- The VLANs of a bridge port: those declared, or the default VLAN. -/
def expectedBridgePortVlans (node : NodePlan) (interface : String) : List BridgeVlanPlan :=
  if node.kind ≠ .bridge ∨ node.vlanFiltering ≠ some true ∨ nodeInterfaceMaster node interface ≠ node.bridgeName then []
  else match node.bridgePorts.get? interface with
    | some port => if port.vlans ≠ [] then port.vlans else [⟨1, true, true⟩]
    | none => [⟨1, true, true⟩]

/-- `IPv4Interface("127.0.0.1/8")`. -/
def loopbackAddress : IPInterface := ⟨.v4 ⟨2130706433, by decide⟩, 8, by decide⟩

/-- Connected and declared routes, once each. -/
def expectedRoutes (node : NodePlan) : Except PlanError (List RoutePlan) := do
  let loopback : RoutePlan := { dst := loopbackAddress.network, via := none, dev := some "lo" }
  let connected ← Checks.collect ((nodeInterfaceAddresses node).entries.flatMap fun (interface, addresses) =>
      addresses.map (interface, ·)) fun (interface, address) => do
    let table ← nodeInterfaceRouteTable node interface
    pure { dst := address.network, via := none, dev := some interface, table := table }
  pure (Dict.fromKeys (loopback :: connected ++ node.routes))

/-- The bridge of a bridge node. -/
def expectedBridge (node : NodePlan) : Except PlanError (List (String × ExpectedInterface)) :=
  if node.kind ≠ .bridge then .ok []
  else match node.bridgeName with
    | none => .error .assertionError
    | some name => .ok [(name, {
        kind := "bridge"
        master := none
        mtu := none
        up := true
        addresses := (node.interfaces.get? name).getD []
        stp := node.stp
        vlanFiltering := node.vlanFiltering
        bridgePriority := node.bridgePriority })]

def expectedVeth (node : NodePlan) (link : LinkPlan) (interface : String) : ExpectedInterface where
  toPortSettings := portSettings node interface
  kind := "veth"
  master := nodeInterfaceMaster node interface
  mtu := some link.mtu
  up := true
  addresses := (node.interfaces.get? interface).getD []
  bridgeVlans := expectedBridgePortVlans node interface
  netem := link.netem
  qdisc := link.qdisc

/-- The linked interfaces of a node. -/
def expectedVeths (node : NodePlan) (plan : TopologyPlan) : List (String × ExpectedInterface) :=
  plan.links.flatMap fun link => (link.endpoints.filter (·.netns = node.netns)).map fun endpoint =>
    (endpoint.interface, expectedVeth node link endpoint.interface)

def expectedDevice (node : NodePlan) (plan : TopologyPlan) (device : DevicePlan) : Except PlanError ExpectedInterface :=
  match device with
  | .vlan device => pure {
      kind := "vlan"
      master := nodeInterfaceMaster node device.name
      mtu := none
      up := true
      addresses := device.addresses
      parent := some device.link
      vlanId := some device.vlanId }
  | .vrf device => pure {
      kind := "vrf"
      master := none
      mtu := none
      up := true
      addresses := []
      vrfTable := some device.table }
  | .bond device => do
    let mtu ← bondDeviceMtu node plan device
    pure {
      kind := "bond"
      master := nodeInterfaceMaster node device.name
      mtu := some mtu
      up := true
      addresses := device.addresses
      bondMode := some device.mode.name
      bondMiimonMs := some device.miimonMs
      bondPrimary := device.primary
      bondLacpRate := device.lacpRate.map (·.name)
      bondXmitHashPolicy := device.xmitHashPolicy.map (·.name)
      bondMinLinks := device.minLinks }
  | .gre device => do
    let mtu ← greDeviceMtu node plan device
    pure {
      kind := "gre"
      master := nodeInterfaceMaster node device.name
      mtu := some mtu
      up := true
      addresses := device.addresses
      greLink := some device.link
      greLocal := some (.v4 device.localAddress)
      greRemote := some (.v4 device.remote)
      greKey := device.key
      greTtl := some device.ttl }
  | .ipip device => do
    let mtu ← ipipDeviceMtu node plan device
    pure {
      kind := "ipip"
      master := nodeInterfaceMaster node device.name
      mtu := some mtu
      up := true
      addresses := device.addresses
      ipipLink := some device.link
      ipipLocal := some (.v4 device.localAddress)
      ipipRemote := some (.v4 device.remote)
      ipipTtl := some device.ttl }
  | .dummy device => pure {
      kind := "dummy"
      master := nodeInterfaceMaster node device.name
      mtu := some (dummyDeviceMtu device)
      up := true
      addresses := device.addresses }
  | .geneve device => do
    let mtu ← geneveDeviceMtu node plan device
    pure {
      toPortSettings := portSettings node device.name
      kind := "geneve"
      master := nodeInterfaceMaster node device.name
      mtu := some mtu
      up := true
      addresses := device.addresses
      bridgeVlans := expectedBridgePortVlans node device.name
      geneveVni := some device.vni
      geneveLink := some device.link
      geneveRemote := some device.remote
      geneveDstPort := some device.dstPort }
  | .macvlan device => do
    let mtu ← macvlanDeviceMtu node plan device
    pure {
      kind := "macvlan"
      master := nodeInterfaceMaster node device.name
      mtu := some mtu
      up := true
      addresses := device.addresses
      parent := some device.link
      macvlanMode := some device.mode.name }
  | .ipvlan device => do
    let mtu ← ipvlanDeviceMtu node plan device
    pure {
      kind := "ipvlan"
      master := nodeInterfaceMaster node device.name
      mtu := some mtu
      up := true
      addresses := device.addresses
      parent := some device.link
      ipvlanMode := some device.mode.name }
  | .vxlan device => do
    let mtu ← vxlanDeviceMtu node plan device
    pure {
      toPortSettings := portSettings node device.name
      kind := "vxlan"
      master := nodeInterfaceMaster node device.name
      mtu := some mtu
      up := true
      addresses := device.addresses
      bridgeVlans := expectedBridgePortVlans node device.name
      vxlanVni := some device.vni
      vxlanLink := some device.link
      vxlanLocal := some device.localAddress
      vxlanRemote := some device.remote
      vxlanDstPort := some device.dstPort
      vxlanLearning := some device.learning }

/-- The interfaces expected of a node: its loopback, its bridge, its ends of links and its devices. -/
def expectedInterfaces (node : NodePlan) (plan : TopologyPlan) : Except PlanError (Dict String ExpectedInterface) := do
  let loopback : ExpectedInterface := {
    kind := "loopback"
    master := none
    mtu := none
    up := true
    addresses := [loopbackAddress] }
  let bridge ← expectedBridge node
  let devices ← Checks.collect node.devices.values fun device => (expectedDevice node plan device).map (device.name, ·)
  let expected := Dict.ofEntries (("lo", loopback) :: bridge ++ expectedVeths node plan ++ devices)
  pure (expected.map fun name interface => { interface with mac := node.macAddresses.get? name })

end Expected

namespace Manifest.Plans

variable {manifest : Manifest} {plan : TopologyPlan}

theorem expectedRoutes_total (plans : manifest.Plans plan) {node : NodePlan} (member : node ∈ plan.nodes.values) :
    ∃ routes, expectedRoutes node = .ok routes := by
  simp only [expectedRoutes, Checks.bind_ok, Checks.pure_ok]
  obtain ⟨connected, collected⟩ := (@Checks.collect_total _ _ _ _ fun (entry : String × IPInterface) => do
      let table ← nodeInterfaceRouteTable node entry.1
      pure ({ dst := entry.2.network, via := none, dev := some entry.1, table := table } : RoutePlan)).mpr
    fun (entry : String × IPInterface) (_ : entry ∈ (nodeInterfaceAddresses node).entries.flatMap fun (interface, addresses) =>
      addresses.map (interface, ·)) => by
      obtain ⟨table, found⟩ := plans.nodeInterfaceRouteTable_total member entry.1
      exact ⟨_, by simp only [found]; rfl⟩
  exact ⟨_, connected, collected, rfl⟩

theorem expectedDevice_total {node : NodePlan} {device : DevicePlan} (supported : device.Supported node plan) :
    ∃ interface, expectedDevice node plan device = .ok interface := by
  have parent {link : String} (planned : ∃ mtu, plannedMtu node plan link = some mtu) :
      ∃ mtu, parentDeviceMtu node plan link = .ok mtu := by
    obtain ⟨mtu, found⟩ := planned
    exact ⟨mtu, by simp only [parentDeviceMtu, found]⟩
  cases device with
  | vlan | vrf | dummy => exact ⟨_, rfl⟩
  | bond device =>
    obtain ⟨mtu, found⟩ := supported
    exact ⟨_, by simp only [expectedDevice, found]; rfl⟩
  | vxlan device =>
    obtain ⟨mtu, found⟩ := supported
    cases given : device.mtu <;> exact ⟨_, by simp only [expectedDevice, vxlanDeviceMtu, given, found]; rfl⟩
  | geneve device =>
    obtain ⟨mtu, found⟩ := parent supported
    cases given : device.mtu <;> exact ⟨_, by simp only [expectedDevice, geneveDeviceMtu, given, found]; rfl⟩
  | gre device =>
    obtain ⟨mtu, found⟩ := parent supported
    cases given : device.mtu <;> exact ⟨_, by simp only [expectedDevice, greDeviceMtu, given, found]; rfl⟩
  | ipip device =>
    obtain ⟨mtu, found⟩ := parent supported
    cases given : device.mtu <;> exact ⟨_, by simp only [expectedDevice, ipipDeviceMtu, given, found]; rfl⟩
  | macvlan device =>
    obtain ⟨mtu, found⟩ := parent supported
    cases given : device.mtu <;> exact ⟨_, by simp only [expectedDevice, macvlanDeviceMtu, given, found]; rfl⟩
  | ipvlan device =>
    obtain ⟨mtu, found⟩ := parent supported
    cases given : device.mtu <;> exact ⟨_, by simp only [expectedDevice, ipvlanDeviceMtu, given, found]; rfl⟩

theorem bridgeName (plans : manifest.Plans plan) {node : NodePlan} (member : node ∈ plan.nodes.values)
    (bridge : node.kind = .bridge) : ∃ name, node.bridgeName = some name := by
  obtain ⟨config, routes, _, shape, _⟩ := plans.node (plans.found_of_mem member)
  rw [shape] at bridge ⊢
  cases config with
  | linux config => cases bridge
  | bridge config => exact ⟨_, rfl⟩

/-- The interfaces of every planned node can be told. -/
theorem expectedInterfaces_total (plans : manifest.Plans plan) {node : NodePlan} (member : node ∈ plan.nodes.values) :
    ∃ expected, expectedInterfaces node plan = .ok expected := by
  have bridge : ∃ bridge, expectedBridge node = .ok bridge := by
    unfold expectedBridge
    split
    next => exact ⟨_, rfl⟩
    next is =>
      obtain ⟨name, named⟩ := plans.bridgeName member (not_not.mp is)
      simp only [named]
      exact ⟨_, rfl⟩
  have devices : ∃ devices, Checks.collect node.devices.values (fun device =>
      (expectedDevice node plan device).map (device.name, ·)) = .ok devices := by
    refine Checks.collect_total.mpr fun device inside => ?_
    obtain ⟨interface, found⟩ := expectedDevice_total (plans.supported member device inside)
    exact ⟨(device.name, interface), by rw [found]; rfl⟩
  obtain ⟨bridge, bridged⟩ := bridge
  obtain ⟨devices, collected⟩ := devices
  exact ⟨_, by simp only [expectedInterfaces, bridged, collected]; rfl⟩

end Manifest.Plans

end Nslab
