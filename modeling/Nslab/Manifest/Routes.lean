import Nslab.Manifest.Devices

/-! Routes, neighbors, policy rules and routing protocols of a node, as manifests
declare them. -/

namespace Nslab

open Schema IpAddress

section Routes

structure RouteNextHopConfig where
  via : Option IPAddress := none
  dev : String
  weight : Int := 1
deriving DecidableEq

def routeWeight : Codec Int := .between 1 256

instance : routeWeight.Exact := by unfold routeWeight; infer_instance

theorem routeWeight_default : routeWeight.holds 1 := Codec.holds_between.mpr (by decide)

def routeNextHop : Codec RouteNextHopConfig :=
  ((((Fields.nullable "via" (addressText "route nexthop gateway must be an IPv4 or IPv6 string")).and
    (.required "dev" (interfaceName "route nexthop interface name"))).and
    (.defaulted "weight" 1 routeWeight routeWeight_default)).iso
    (fun ((via, dev), weight) => ⟨via, dev, weight⟩) fun hop => ((hop.via, hop.dev), hop.weight)).object

instance : routeNextHop.Exact := by unfold routeNextHop; infer_instance

structure RouteConfig where
  dst : IPNetwork
  via : Option IPAddress := none
  dev : Option String := none
  nexthops : List RouteNextHopConfig := []
  table : Option Int := none
deriving DecidableEq

def routeTable : Codec Int :=
  routeTableId.validated fun table => Checks.raiseIf (table = 255) (issue "route cannot use reserved local table: 255")

instance : routeTable.Exact := by unfold routeTable; infer_instance

def RouteConfig.validateAddressFamily (route : RouteConfig) : Except Issue Unit :=
  if route.nexthops ≠ [] then do
    Checks.raiseIf (route.via.isSome ∨ route.dev.isSome) (issue "route cannot combine via/dev with nexthops")
    Checks.raiseIf (route.nexthops.length < 2) (issue "multipath route requires at least two nexthops")
    Checks.raiseIf (¬ (route.nexthops.map fun hop => (hop.via, hop.dev)).Nodup)
      (issue "multipath route nexthops must be unique")
    Checks.raiseIf (route.nexthops.any fun hop => hop.via.any (·.version ≠ route.dst.version))
      (issue "route destination and nexthop gateways must use the same address family")
  else do
    Checks.raiseIf (route.dev = none) (issue "route requires dev or nexthops")
    Checks.raiseIf (route.via.any (·.version ≠ route.dst.version))
      (issue "route destination and gateway must use the same address family")

/-- `normalized_manifest` leaves out the nexthops of a single-path route. -/
def nextHopList : Fields (List RouteNextHopConfig) :=
  .optional "nexthops" [] routeNextHop.sequence List.isEmpty
    (fun hops sorted empty => by rw [List.isEmpty_iff.mp empty]; rfl) (List.forall_mem_nil _)

instance : nextHopList.Exact := ⟨routeNextHop.sequence.settle_exact⟩

def routeFields : Fields RouteConfig :=
  (((((Fields.required "dst" (destinationText "route destination must be an IPv4 or IPv6 string")).and
    (.nullable "via" (addressText "route gateway must be an IPv4 or IPv6 string"))).and
    (.nullable "dev" (interfaceName "route interface name"))).and nextHopList).and (.nullable "table" routeTable)).iso
    (fun ((((dst, via), dev), hops), table) => ⟨dst, via, dev, hops, table⟩)
    fun route => ((((route.dst, route.via), route.dev), route.nexthops), route.table)

instance : routeFields.Exact := by unfold routeFields; infer_instance

def routeConfig : Codec RouteConfig := routeFields.object.validated RouteConfig.validateAddressFamily

instance : routeConfig.Exact := by unfold routeConfig; infer_instance

/-- The interfaces a route leaves through. A route without nexthops names one. -/
def routeDevices (route : RouteConfig) : Except Issue (List String) :=
  if route.nexthops ≠ [] then .ok (route.nexthops.map (·.dev))
  else match route.dev with
    | some dev => .ok [dev]
    | none => refuse "AssertionError"

/-- The table a route goes to: its own, or the one table of all its interfaces. -/
def routeTableOf (route : RouteConfig) (tables : Dict String Int) : Except Issue Int :=
  match route.table with
  | some table => .ok table
  | none => do
    let devices ← routeDevices route
    match (devices.map fun device => (tables.get? device).getD mainRouteTable).dedup with
    | [table] => pure table
    | _ => refuse ("multipath route spans routing tables: " ++ quoted (String.ofList route.dst.chars))

end Routes

section Neighbors

/-- The states a neighbor can be declared in. -/
inductive DeclaredNeighborState where
  | permanent
  | reachable
  | stale
  | noarp
deriving DecidableEq

def DeclaredNeighborState.name : DeclaredNeighborState → String
  | .permanent => "permanent"
  | .reachable => "reachable"
  | .stale => "stale"
  | .noarp => "noarp"

structure NeighborConfig where
  dst : IPAddress
  dev : String
  lladdr : Option MacAddress := none
  state : Option DeclaredNeighborState := none
  proxy : Bool := false
deriving DecidableEq

def neighborState : Codec DeclaredNeighborState :=
  .choice DeclaredNeighborState.name [.permanent, .reachable, .stale, .noarp]
    "Input should be 'permanent', 'reachable', 'stale' or 'noarp'" fun state => by cases state <;> decide

instance : neighborState.Exact := by unfold neighborState; infer_instance

def neighborDestination : Codec IPAddress :=
  (addressText "neighbor destination must be an IPv4 or IPv6 string").validated fun address =>
    Checks.raiseIf (address.isUnspecified || address.isMulticast)
      (issue ("neighbor destination must be unicast: " ++ quoted (String.ofList address.chars)))

instance : neighborDestination.Exact := by unfold neighborDestination; infer_instance

/-- `normalized_manifest` leaves out the flag of a neighbor that is no proxy. -/
def proxyFlag : Fields Bool :=
  .optional "proxy" false .strictBool (!·) (fun value _ off => by cases value <;> simp_all [Codec.strictBool]) (Codec.holds_strictBool false)

instance : proxyFlag.Exact := ⟨fun _ _ => rfl⟩

def NeighborConfig.validateShape (neighbor : NeighborConfig) : Except Issue Unit :=
  if neighbor.proxy then
    Checks.raiseIf (neighbor.lladdr.isSome ∨ neighbor.state.isSome) (issue "proxy neighbor cannot declare lladdr or state")
  else Checks.raiseIf (neighbor.lladdr = none) (issue "non-proxy neighbor requires lladdr")

def neighborFields : Fields NeighborConfig :=
  (((((Fields.required "dst" neighborDestination).and (.required "dev" (interfaceName "neighbor interface name"))).and
    (.nullable "lladdr" (macAddress "neighbor link-layer address"))).and (.nullable "state" neighborState)).and proxyFlag).iso
    (fun ((((dst, dev), lladdr), state), proxy) => ⟨dst, dev, lladdr, state, proxy⟩)
    fun neighbor => ((((neighbor.dst, neighbor.dev), neighbor.lladdr), neighbor.state), neighbor.proxy)

instance : neighborFields.Exact := by unfold neighborFields; infer_instance

def neighborConfig : Codec NeighborConfig := neighborFields.object.validated NeighborConfig.validateShape

instance : neighborConfig.Exact := by unfold neighborConfig; infer_instance

end Neighbors

section Rules

inductive PolicyRuleFamily where
  | ipv4
  | ipv6
deriving DecidableEq

def PolicyRuleFamily.name : PolicyRuleFamily → String
  | .ipv4 => "ipv4"
  | .ipv6 => "ipv6"

inductive PolicyRuleAction where
  | lookup
  | goto
  | nop
  | blackhole
  | unreachable
  | prohibit
deriving DecidableEq

def PolicyRuleAction.name : PolicyRuleAction → String
  | .lookup => "lookup"
  | .goto => "goto"
  | .nop => "nop"
  | .blackhole => "blackhole"
  | .unreachable => "unreachable"
  | .prohibit => "prohibit"

def policyRuleFamily : Codec PolicyRuleFamily :=
  .choice PolicyRuleFamily.name [.ipv4, .ipv6] "Input should be 'ipv4' or 'ipv6'" fun family => by cases family <;> decide

instance : policyRuleFamily.Exact := by unfold policyRuleFamily; infer_instance

def policyRuleAction : Codec PolicyRuleAction :=
  .choice PolicyRuleAction.name [.lookup, .goto, .nop, .blackhole, .unreachable, .prohibit]
    "Input should be 'lookup', 'goto', 'nop', 'blackhole', 'unreachable' or 'prohibit'" fun action => by
      cases action <;> decide

instance : policyRuleAction.Exact := by unfold policyRuleAction; infer_instance

theorem policyRuleAction_default : policyRuleAction.holds .lookup := trivial

def policyRulePriority : Codec Int := .between 1 4294967295

def policyRuleUint32 : Codec Int := .between 0 4294967295

def policyRuleUint64 : Codec Int := .between 0 18446744073709551615

def policyRuleUint16 : Codec Int := .between 0 65535

def policyRuleUint8 : Codec Int := .between 0 255

def policyRuleInterfaceGroup : Codec Int := .between 0 4294967294

instance : policyRulePriority.Exact := by unfold policyRulePriority; infer_instance

instance : policyRuleUint32.Exact := by unfold policyRuleUint32; infer_instance

instance : policyRuleUint64.Exact := by unfold policyRuleUint64; infer_instance

instance : policyRuleUint16.Exact := by unfold policyRuleUint16; infer_instance

instance : policyRuleUint8.Exact := by unfold policyRuleUint8; infer_instance

instance : policyRuleInterfaceGroup.Exact := by unfold policyRuleInterfaceGroup; infer_instance

theorem policyRuleUint8_default : policyRuleUint8.holds 0 := Codec.holds_between.mpr (by decide)

theorem policyRuleUint16_default : policyRuleUint16.holds 0 := Codec.holds_between.mpr (by decide)

/-- A range from `first` to `last`, both included. -/
structure RangeConfig where
  first : Int
  last : Int
deriving DecidableEq

def ruleRange (bound : Codec Int) [bound.Exact] (label : String) : Codec RangeConfig :=
  (((Fields.required "start" bound).and (.required "end" bound) (by simp [Fields.required])).iso
    (fun (first, last) => ⟨first, last⟩) fun range => (range.first, range.last)).object.validated fun range =>
    Checks.raiseIf (range.last < range.first) (issue ("policy rule " ++ label ++ " range start cannot exceed end"))

instance {bound : Codec Int} [bound.Exact] {label : String} : (ruleRange bound label).Exact := by
  unfold ruleRange; infer_instance

structure PolicyRuleRealmsConfig where
  source : Int := 0
  destination : Int := 0
deriving DecidableEq

def policyRuleRealms : Codec PolicyRuleRealmsConfig :=
  (((Fields.defaulted "source" 0 policyRuleUint16 policyRuleUint16_default).and
    (.defaulted "destination" 0 policyRuleUint16 policyRuleUint16_default)).iso
    (fun (source, destination) => ⟨source, destination⟩) fun realms =>
      (realms.source, realms.destination)).object.validated fun realms =>
    Checks.raiseIf (realms.source = 0 ∧ realms.destination = 0)
      (issue "policy rule realms must select a source or destination realm")

instance : policyRuleRealms.Exact := by unfold policyRuleRealms; infer_instance

structure PolicyRuleConfig where
  priority : Int
  family : Option PolicyRuleFamily := none
  action : PolicyRuleAction := .lookup
  table : Option Int := none
  goto : Option Int := none
  source : Option IPNetwork := none
  destination : Option IPNetwork := none
  invert : Bool := false
  tos : Option Int := none
  fwmark : Option Int := none
  fwmask : Option Int := none
  iif : Option String := none
  oif : Option String := none
  l3mdev : Bool := false
  uidRange : Option RangeConfig := none
  protocol : Int := 0
  ipProtocol : Option Int := none
  sourcePort : Option RangeConfig := none
  destinationPort : Option RangeConfig := none
  tunnelId : Option Int := none
  suppressPrefixLength : Option Int := none
  suppressInterfaceGroup : Option Int := none
  realms : Option PolicyRuleRealmsConfig := none
deriving DecidableEq

def PolicyRuleConfig.ipVersion (rule : PolicyRuleConfig) : Nat :=
  match rule.family, rule.source, rule.destination with
  | some .ipv4, _, _ => 4
  | some .ipv6, _, _ => 6
  | none, some source, _ => source.version
  | none, none, some destination => destination.version
  | none, none, none => 4

def PolicyRuleConfig.validateRule (rule : PolicyRuleConfig) : Except Issue Unit := do
  let version := rule.ipVersion
  Checks.each [("source", rule.source), ("destination", rule.destination)] fun (label, network) =>
    Checks.raiseIf (network.any (·.version ≠ version))
      (issue ("policy rule " ++ label ++ " does not match IPv" ++ toString version ++ " rule family"))
  Checks.ifSome rule.source fun source => Checks.ifSome rule.destination fun destination =>
    Checks.raiseIf (source.version ≠ destination.version)
      (issue "policy rule source and destination families must match")
  Checks.raiseIf (rule.fwmask.isSome ∧ rule.fwmark = none) (issue "policy rule fwmask requires fwmark")
  Checks.raiseIf ((rule.sourcePort.isSome ∨ rule.destinationPort.isSome) ∧ (rule.ipProtocol = none ∨ rule.ipProtocol = some 0))
    (issue "policy rule port ranges require a nonzero ip_protocol")
  Checks.ifSome rule.suppressPrefixLength fun length =>
    let maximum : Int := if version = 4 then 32 else 128
    Checks.raiseIf (maximum < length) (issue ("policy rule suppress_prefix_length must be at most " ++ toString maximum ++
      " for IPv" ++ toString version))
  match rule.action with
  | .lookup => do
    Checks.raiseIf rule.goto.isSome (issue "lookup policy rule cannot declare goto")
    if rule.l3mdev then Checks.raiseIf rule.table.isSome (issue "l3mdev policy rule cannot declare table")
    else Checks.raiseIf (rule.table = none) (issue "lookup policy rule requires table")
  | .goto => do
    Checks.raiseIf (rule.goto = none) (issue "goto policy rule requires goto")
    Checks.raiseIf rule.table.isSome (issue "goto policy rule cannot declare table")
    Checks.raiseIf (rule.suppressPrefixLength.isSome ∨ rule.suppressInterfaceGroup.isSome)
      (issue "goto policy rule cannot declare suppress options")
  | action => do
    Checks.raiseIf (rule.table.isSome ∨ rule.goto.isSome)
      (issue (action.name ++ " policy rule cannot declare table or goto"))
    Checks.raiseIf (rule.suppressPrefixLength.isSome ∨ rule.suppressInterfaceGroup.isSome)
      (issue (action.name ++ " policy rule cannot declare suppress options"))

def ruleNetwork (shown name : String) (other : name ≠ shown) : Fields (Option IPNetwork) :=
  (Fields.nullable shown (networkText ("policy rule " ++ name ++ " must be an IPv4 or IPv6 prefix"))).aliased shown name rfl other

instance {shown name : String} {other} : (ruleNetwork shown name other).Exact :=
  ⟨(Fields.nullable shown (networkText _)).settle_exact⟩

def ruleInvert : Fields Bool :=
  (Fields.defaulted "not" false .strictBool (Codec.holds_strictBool false)).aliased "not" "invert" rfl (by decide)

instance : ruleInvert.Exact := ⟨fun _ _ => rfl⟩

/-- What a rule does. -/
def ruleTarget : Fields (((((Int × Option PolicyRuleFamily) × PolicyRuleAction) × Option Int) × Option Int)) :=
  ((((Fields.required "priority" policyRulePriority).and (.nullable "family" policyRuleFamily)).and
    (.defaulted "action" .lookup policyRuleAction policyRuleAction_default)).and (.nullable "table" routeTableId)).and
    (.nullable "goto" policyRulePriority)

/-- Which packets a rule selects by their addresses and marks. -/
def ruleSelector : Fields (((((Option IPNetwork × Option IPNetwork) × Bool) × Option Int) × Option Int) × Option Int) :=
  (((((ruleNetwork "from" "source" (by decide)).and (ruleNetwork "to" "destination" (by decide))).and ruleInvert).and
    (.nullable "tos" policyRuleUint8)).and (.nullable "fwmark" policyRuleUint32)).and (.nullable "fwmask" policyRuleUint32)

/-- Which packets a rule selects by interface, user and protocol. -/
def ruleOrigin : Fields (((((Option String × Option String) × Bool) × Option RangeConfig) × Int) × Option Int) :=
  (((((Fields.nullable "iif" (interfaceName "policy rule interface name")).and
    (.nullable "oif" (interfaceName "policy rule interface name"))).and
    (.defaulted "l3mdev" false .strictBool (Codec.holds_strictBool false))).and
    (.nullable "uid_range" (ruleRange policyRuleUint32 "UID"))).and
    (.defaulted "protocol" 0 policyRuleUint8 policyRuleUint8_default)).and (.nullable "ip_protocol" policyRuleUint8)

def ruleOptions : Fields (((((Option RangeConfig × Option RangeConfig) × Option Int) × Option Int) × Option Int) ×
    Option PolicyRuleRealmsConfig) :=
  (((((Fields.nullable "source_port" (ruleRange policyRuleUint16 "port")).and
    (.nullable "destination_port" (ruleRange policyRuleUint16 "port"))).and (.nullable "tunnel_id" policyRuleUint64)).and
    (.nullable "suppress_prefix_length" policyRuleUint8)).and
    (.nullable "suppress_interface_group" policyRuleInterfaceGroup)).and (.nullable "realms" policyRuleRealms)

instance : ruleTarget.Exact := by unfold ruleTarget; infer_instance

instance : ruleSelector.Exact := by unfold ruleSelector; infer_instance

instance : ruleOrigin.Exact := by unfold ruleOrigin; infer_instance

instance : ruleOptions.Exact := by unfold ruleOptions; infer_instance

def policyRuleFields : Fields PolicyRuleConfig :=
  (((ruleTarget.and ruleSelector).and ruleOrigin).and ruleOptions).iso
    (fun (((((((priority, family), action), table), goto), (((((source, destination), invert), tos), fwmark), fwmask)),
      (((((iif, oif), l3mdev), uidRange), protocol), ipProtocol)),
      (((((sourcePort, destinationPort), tunnelId), suppressPrefixLength), suppressInterfaceGroup), realms)) =>
      ⟨priority, family, action, table, goto, source, destination, invert, tos, fwmark, fwmask, iif, oif, l3mdev, uidRange,
        protocol, ipProtocol, sourcePort, destinationPort, tunnelId, suppressPrefixLength, suppressInterfaceGroup, realms⟩)
    fun rule => (((((((rule.priority, rule.family), rule.action), rule.table), rule.goto),
      (((((rule.source, rule.destination), rule.invert), rule.tos), rule.fwmark), rule.fwmask)),
      (((((rule.iif, rule.oif), rule.l3mdev), rule.uidRange), rule.protocol), rule.ipProtocol)),
      (((((rule.sourcePort, rule.destinationPort), rule.tunnelId), rule.suppressPrefixLength),
        rule.suppressInterfaceGroup), rule.realms))

instance : policyRuleFields.Exact := by unfold policyRuleFields; infer_instance

def policyRule : Codec PolicyRuleConfig := policyRuleFields.object.validated PolicyRuleConfig.validateRule

instance : policyRule.Exact := by unfold policyRule; infer_instance

end Rules

section Protocols

def routingAsn : Codec Int := .between 1 4294967295

instance : routingAsn.Exact := by unfold routingAsn; infer_instance

structure OspfConfig where
  routerId : IPv4Address
  area : IPv4Address
  networks : List IPv4Network := []
  passiveInterfaces : List String := []
deriving DecidableEq

/-- Distinct networks of a routing protocol. -/
def protocolNetworks (protocol : String) : Codec (List IPv4Network) :=
  (Codec.listed (protocol ++ " networks") network4).validated fun networks =>
    Checks.raiseIf (¬ networks.Nodup) (issue (protocol ++ " networks must be unique"))

instance {protocol : String} : (protocolNetworks protocol).Exact := by unfold protocolNetworks; infer_instance

theorem protocolNetworks_empty (protocol : String) : (protocolNetworks protocol).holds [] :=
  ⟨List.forall_mem_nil _, by simp⟩

theorem uniqueNames_empty (role label : String) : (uniqueNames role label).holds [] := by
  simp [uniqueNames, Codec.validated, Codec.checked, Codec.listed, Codec.before, Codec.sequence]

def unspecified4 : IPv4Address := ⟨0, by decide⟩

theorem address4_any (address : IPv4Address) : address4.holds address := trivial

def ospfConfig : Codec OspfConfig :=
  ((((Fields.required "router_id" address4).and (.defaulted "area" unspecified4 address4 (address4_any _))).and
    (.defaulted "networks" [] (protocolNetworks "OSPF") (protocolNetworks_empty _))).and
    (.defaulted "passive_interfaces" [] (uniqueNames "OSPF passive_interfaces" "OSPF interface name")
      (uniqueNames_empty _ _))).iso
    (fun (((routerId, area), networks), passive) => ⟨routerId, area, networks, passive⟩)
    (fun config => (((config.routerId, config.area), config.networks), config.passiveInterfaces)) |>.object

instance : ospfConfig.Exact := by unfold ospfConfig; infer_instance

structure BgpNeighborConfig where
  address : IPv4Address
  remoteAs : Int
deriving DecidableEq

def bgpNeighbor : Codec BgpNeighborConfig :=
  ((Fields.required "address" address4).and (.required "remote_as" routingAsn)).iso
    (fun (address, remoteAs) => ⟨address, remoteAs⟩) (fun neighbor => (neighbor.address, neighbor.remoteAs)) |>.object

instance : bgpNeighbor.Exact := by unfold bgpNeighbor; infer_instance

structure BgpConfig where
  localAs : Int
  routerId : IPv4Address
  neighbors : List BgpNeighborConfig
  networks : List IPv4Network := []
deriving DecidableEq

def bgpNeighbors : Codec (List BgpNeighborConfig) :=
  (Codec.listed "BGP neighbors" bgpNeighbor).validated fun neighbors =>
    Checks.raiseIf (¬ (neighbors.map (·.address)).Nodup) (issue "BGP neighbor addresses must be unique")

instance : bgpNeighbors.Exact := by unfold bgpNeighbors; infer_instance

def bgpConfig : Codec BgpConfig :=
  ((((Fields.required "local_as" routingAsn).and (.required "router_id" address4)).and
    (.required "neighbors" bgpNeighbors)).and
    (.defaulted "networks" [] (protocolNetworks "BGP") (protocolNetworks_empty _))).iso
    (fun (((localAs, routerId), neighbors), networks) => ⟨localAs, routerId, neighbors, networks⟩)
    (fun config => (((config.localAs, config.routerId), config.neighbors), config.networks)) |>.object

instance : bgpConfig.Exact := by unfold bgpConfig; infer_instance

structure PimConfig where
  rpAddress : IPv4Address
  interfaces : List String
  igmpInterfaces : List String := []
deriving DecidableEq

/-- The first of some texts in their order. -/
def firstSorted (texts : List String) : String := (texts.insertionSort (· ≤ ·)).headD ""

def pimRpAddress : Codec IPv4Address :=
  (address4Text "PIM rp_address must be an IPv4 string").validated fun address =>
    Checks.raiseIf (address.isUnspecified || address.isMulticast || address.value = 2 ^ 32 - 1)
      (issue "PIM rp_address must be a unicast IPv4 address")

instance : pimRpAddress.Exact := by unfold pimRpAddress; infer_instance

def PimConfig.validateInterfaceRoles (config : PimConfig) : Except Issue Unit := do
  Checks.raiseIf (config.interfaces = []) (issue "PIM interfaces must not be empty")
  let missing := config.igmpInterfaces.filter (· ∉ config.interfaces)
  Checks.raiseIf (missing ≠ []) (issue ("PIM IGMP interface must also enable PIM: " ++ quoted (firstSorted missing)))

def pimFields : Fields PimConfig :=
  (((Fields.required "rp_address" pimRpAddress).and
    (.required "interfaces" (uniqueNames "PIM interfaces" "PIM interface name"))).and
    (.defaulted "igmp_interfaces" [] (uniqueNames "PIM interfaces" "PIM interface name") (uniqueNames_empty _ _))).iso
    (fun ((rpAddress, interfaces), igmp) => ⟨rpAddress, interfaces, igmp⟩)
    fun config => ((config.rpAddress, config.interfaces), config.igmpInterfaces)

instance : pimFields.Exact := by unfold pimFields; infer_instance

def pimConfig : Codec PimConfig := pimFields.object.validated PimConfig.validateInterfaceRoles

instance : pimConfig.Exact := by unfold pimConfig; infer_instance

structure RoutingConfig where
  ospf : Option OspfConfig := none
  bgp : Option BgpConfig := none
  pim : Option PimConfig := none
deriving DecidableEq

def routingFields : Fields RoutingConfig :=
  (((Fields.nullable "ospf" ospfConfig).and (.nullable "bgp" bgpConfig)).and (.nullable "pim" pimConfig)).iso
    (fun ((ospf, bgp), pim) => ⟨ospf, bgp, pim⟩) fun config => ((config.ospf, config.bgp), config.pim)

instance : routingFields.Exact := by unfold routingFields; infer_instance

def routingConfig : Codec RoutingConfig :=
  routingFields.object.validated fun config =>
    Checks.raiseIf (config.ospf = none ∧ config.bgp = none ∧ config.pim = none)
      (issue "routing must enable OSPF, BGP, or PIM")

instance : routingConfig.Exact := by unfold routingConfig; infer_instance

end Protocols

end Nslab
