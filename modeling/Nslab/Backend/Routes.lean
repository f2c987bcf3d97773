import Nslab.Backend.Inventory
import Nslab.Backend.Rules

/-! Routes on their way through the kernel: the arguments that configure them and
the decoder of the inventory, with all the reasons for which it refuses a route. -/

namespace Nslab

open Netlink IpAddress

section Arguments

variable (node : NodePlan) (lookup : String → Option Int)

/-- The index that the kernel has for an interface. -/
def requiredIndex (name operation resource : String) : Except PlanError Int :=
  match lookup name with
  | some index => .ok index
  | none => .error (.nslabError {
      code := "RESOURCE_MISSING"
      message := "network resource is missing: " ++ resource
      details := [("operation", .str operation), ("resource", .str resource)] })

/-- The index of an interface, remembered once it is looked up. -/
def routeIndex (indexes : Dict String Int) (dev : String) : Except PlanError (Int × Dict String Int) :=
  match indexes.get? dev with
  | some index => .ok (index, indexes)
  | none => do
    let index ← requiredIndex lookup dev "configure_node" (node.netns ++ ":" ++ dev)
    pure (index, indexes.insert dev index)

def gatewayText (address : IPAddress) : Value := .text (String.ofList address.chars)

def nexthopArguments (nexthop : RouteNextHopPlan) (index : Int) : List (String × Value) :=
  present [("oif", some (.int index)), ("hops", some (.int (nexthop.weight - 1))), ("gateway", nexthop.via.map gatewayText)]

def multipathArguments (indexes : Dict String Int) :
    List RouteNextHopPlan → Except PlanError (List (List (String × Value)) × Dict String Int)
  | [] => .ok ([], indexes)
  | nexthop :: nexthops => do
    let (index, indexes) ← routeIndex node lookup indexes nexthop.dev
    let (rest, indexes) ← multipathArguments indexes nexthops
    pure (nexthopArguments nexthop index :: rest, indexes)

/-- The arguments that `configure_node` passes for a route. -/
def routeArguments (indexes : Dict String Int) (route : RoutePlan) :
    Except PlanError (List (String × Value) × Dict String Int) := do
  let (path, indexes) ← (if route.nexthops ≠ [] then do
      let (items, indexes) ← multipathArguments node lookup indexes route.nexthops
      pure ([("multipath", some (.list (items.map fun item => .message item [])))], indexes)
    else match route.dev with
      | none => .error .assertionError
      | some dev => do
        let (index, indexes) ← routeIndex node lookup indexes dev
        pure ([("oif", some (.int index)), ("gateway", route.via.map gatewayText)], indexes)
    : Except PlanError (List (String × Option Value) × Dict String Int))
  pure (present ([("dst", some (.text (String.ofList route.dst.chars)))] ++ path ++ [
    ("family", if route.dst.version = 6 then some (.int (addressFamily 6)) else none),
    ("table", if route.table = mainRouteTable then none else some (.int route.table))]), indexes)

/-- The arguments of all routes of a node, in order. -/
def routesArguments (indexes : Dict String Int) : List RoutePlan → Except PlanError (List (List (String × Value)))
  | [] => .ok []
  | route :: routes => do
    let (arguments, indexes) ← routeArguments node lookup indexes route
    let rest ← routesArguments indexes routes
    pure (arguments :: rest)

end Arguments

section Inventory

def rtnUnicast : Int := 1

def rtScopeLink : Int := 253

def rtmCloned : Int := 512

/-- The protocols of FRR: kernel dumps mark its routes with them. -/
def frrRouteProtocols : List Int := [11, 186, 188]

def vrfKernelLocalRouteTypes : List Int := [2, 3]

def unsupportedRouteTypes : List (Int × String) :=
  [(2, "local"), (3, "broadcast"), (4, "anycast"), (5, "multicast"), (6, "blackhole"), (7, "unreachable"), (8, "prohibit"),
    (9, "throw"), (10, "nat"), (11, "xresolve")]

def allowedRouteAttributes : List String :=
  ["RTA_TABLE", "RTA_DST", "RTA_OIF", "RTA_GATEWAY", "RTA_MULTIPATH", "RTA_PREFSRC", "RTA_CACHEINFO", "RTA_PAD"]

def unsupportedRouteAttributes : List (String × String) :=
  [("RTA_IIF", "input_interface"), ("RTA_METRICS", "metrics"), ("RTA_PROTOINFO", "protocol_info"), ("RTA_FLOW", "flow"),
    ("RTA_MARK", "mark"), ("RTA_VIA", "via"), ("RTA_NEWDST", "new_destination"), ("RTA_ENCAP_TYPE", "encapsulation"),
    ("RTA_ENCAP", "encapsulation"), ("RTA_EXPIRES", "expires"), ("RTA_UID", "uid"), ("RTA_TTL_PROPAGATE", "ttl_propagate"),
    ("RTA_IP_PROTO", "ip_protocol"), ("RTA_SPORT", "source_port"), ("RTA_DPORT", "destination_port"), ("RTA_PREF", "preference"),
    ("RTA_SESSION", "session"), ("RTA_MFC_STATS", "multicast_stats")]

def unsupportedInventoryRoute (netns reason : String) : NslabError where
  code := "INVENTORY_UNSUPPORTED"
  message := "unsupported route in network inventory: " ++ netns
  details := [("operation", .str "inventory"), ("resource", .str netns), ("reason", .str reason)]

/-- Why a route is not read: for a reason that routing protocols are excused from, or by an exception that nothing catches. -/
inductive RouteFault where
  | unsupported (reason : String)
  | uncaught
deriving DecidableEq

/-- A value that can be read. -/
def readable {α : Type} (value : Option α) (reason : String) : Except RouteFault α :=
  match value with
  | some value => .ok value
  | none => .error (.unsupported reason)

def gatewayAddress (version : Nat) (value : Value) : Option IPAddress :=
  value.text?.bind fun text => IPNetwork.parseAddress version text.toList

def decodeNextHop (names : Dict Int String) (version : Nat) (item : Value) : Except RouteFault RouteNextHopPlan := do
  let hop ← readable item.message? "multipath_nexthop"
  Checks.raiseIf (∃ name ∈ hop.attrNames, name ≠ "RTA_GATEWAY") (.unsupported "multipath_nexthop_attribute")
  let flags ← readable (hop.intField "flags" 0) "multipath_nexthop"
  let hops ← readable (hop.intField "hops" 0) "multipath_nexthop"
  let outputIndex ← readable ((hop.field "oif").bind Value.int?) "multipath_nexthop"
  Checks.raiseIf (flags ≠ 0) (.unsupported "multipath_nexthop_flags")
  Checks.raiseIf (hops < 0 ∨ 255 < hops) (.unsupported "multipath_nexthop_weight")
  let interface ← readable (names.get? outputIndex) "unknown_ifindex"
  match hop.attr "RTA_GATEWAY" with
  | none => pure ⟨none, interface, hops + 1⟩
  | some value => do
    let gateway ← readable (gatewayAddress version value) "invalid_gateway"
    pure ⟨some gateway, interface, hops + 1⟩

def decodeMultipathNexthops (names : Dict Int String) (version : Nat) (value : Option Value) :
    Except RouteFault (List RouteNextHopPlan) :=
  match value with
  | some (.list items) => do
    Checks.raiseIf (items.length < 2) (.unsupported "multipath")
    let nexthops ← Checks.collect items (decodeNextHop names version)
    Checks.raiseIf (¬ (nexthops.map fun nexthop => (nexthop.via, nexthop.dev)).Nodup) (.unsupported "multipath_nexthop")
    pure nexthops
  | _ => .error (.unsupported "multipath")

/-- The attributes of a route that have a meaning, with the metric and the preference of IPv6 checked. -/
def semanticAttributes (version : Nat) (protocol : Int) (dynamic : Bool) (message : Message) : Except RouteFault (List String) :=
  let names := message.attrNames
  if version = 6 then do
    Checks.raiseIf ("RTA_PRIORITY" ∈ names ∧ dynamic = false ∧
      (message.attr "RTA_PRIORITY").bind Value.int? ≠ some (if protocol = rtprotKernel then 256 else 1024)) (.unsupported "priority")
    Checks.raiseIf ("RTA_PREF" ∈ names ∧ dynamic = false ∧ (message.attr "RTA_PREF").bind Value.int? ≠ some 0)
      (.unsupported "preference")
    pure (names.filter (· ∉ ["RTA_PRIORITY", "RTA_PREF"]))
  else if "RTA_PRIORITY" ∈ names then do
    Checks.raiseIf (dynamic = false) (.unsupported "priority")
    pure (names.filter (· ≠ "RTA_PRIORITY"))
  else pure names

/-- What no route of the inventory has. -/
def checkSemantics (message : Message) (names : List String) (flags : Int) : Except RouteFault Unit := do
  Checks.raiseIf ("RTA_MP_ALGO" ∈ names) (.unsupported "multipath_algorithm")
  Checks.raiseIf ("RTA_NH_ID" ∈ names) (.unsupported "nexthop_id")
  let sourcePrefixlen ← readable (message.intField "src_len" 0) "source_specific"
  Checks.raiseIf (sourcePrefixlen ≠ 0 ∨ "RTA_SRC" ∈ names) (.unsupported "source_specific")
  match unsupportedRouteAttributes.find? fun entry => entry.1 ∈ names with
  | some entry => .error (.unsupported entry.2)
  | none => do
    let tos ← readable (message.intField "tos" 0) "tos"
    Checks.raiseIf (tos ≠ 0) (.unsupported "tos")
    Checks.raiseIf (flags ≠ 0) (.unsupported "route_flags")
    Checks.raiseIf (∃ name ∈ names, name ∉ allowedRouteAttributes) (.unsupported "unsupported_attribute")

/-- Only connected routes of the kernel prefer a source. -/
def checkPreferredSource (message : Message) (names : List String) : Except RouteFault Unit :=
  if "RTA_PREFSRC" ∈ names then do
    let protocol ← readable (message.intField "proto" 0) "preferred_source"
    let scope ← readable (message.intField "scope" 0) "preferred_source"
    Checks.raiseIf (protocol ≠ rtprotKernel ∨ scope ≠ rtScopeLink ∨ "RTA_GATEWAY" ∈ names) (.unsupported "preferred_source")
  else .ok ()

def defaultDestination (version : Nat) : String := if version = 6 then "::" else "0.0.0.0"

/-- The destination of a route: none is reported of a default route. -/
def readDestination (version : Nat) (message : Message) (prefixlen : Int) : Except RouteFault Value :=
  match message.attr "RTA_DST" with
  | some destination => .ok destination
  | none => do
    Checks.raiseIf (prefixlen ≠ 0) (.unsupported "missing_destination")
    pure (.text (defaultDestination version))

def destinationNetwork (version : Nat) (destination : Value) (prefixlen : Int) : Option IPNetwork :=
  destination.text?.bind fun text => IPNetwork.parseLoose version (text ++ "/" ++ toString prefixlen).toList

def readMultipath (names : Dict Int String) (version : Nat) (table : Int) (message : Message) (attributes : List String) :
    Except RouteFault (Option RoutePlan) := do
  Checks.raiseIf ("RTA_PREFSRC" ∈ attributes ∨ "RTA_OIF" ∈ attributes ∨ "RTA_GATEWAY" ∈ attributes) (.unsupported "multipath")
  let nexthops ← decodeMultipathNexthops names version (message.attr "RTA_MULTIPATH")
  let prefixlen ← readable (message.intField "dst_len" 0) "invalid_destination"
  let destination ← readDestination version message prefixlen
  let network ← readable (destinationNetwork version destination prefixlen) "invalid_destination"
  pure (some { dst := network, via := none, dev := none, table := table, nexthops := nexthops })

def readSinglePath (names : Dict Int String) (interfaces : Dict String InterfaceInventory) (version : Nat) (table : Int)
    (message : Message) (attributes : List String) : Except RouteFault (Option RoutePlan) := do
  let output ← readable (message.attr "RTA_OIF") "missing_oif"
  let outputIndex ← readable output.int? "invalid_oif"
  let interface ← readable (names.get? outputIndex) "unknown_ifindex"
  let prefixlen ← readable (message.intField "dst_len" 0) "invalid_destination"
  let destination ← readDestination version message prefixlen
  let gateway := message.attr "RTA_GATEWAY"
  let reason := if gateway.isSome then "invalid_gateway" else "invalid_destination"
  let network ← readable (destinationNetwork version destination prefixlen) reason
  let via ← (match gateway with
    | none => pure none
    | some value => do
      let address ← readable (gatewayAddress version value) reason
      pure (some address) : Except RouteFault (Option IPAddress))
  let route : RoutePlan := { dst := network, via := via, dev := some interface, table := table }
  if "RTA_PREFSRC" ∈ attributes then do
    let preferred ← readable ((message.attr "RTA_PREFSRC").bind (gatewayAddress version)) "preferred_source"
    let observed ← readable (interfaces.get? interface) "preferred_source"
    Checks.raiseIf (¬ ∃ address ∈ observed.addresses, address.ip = preferred ∧ address.network = route.dst)
      (.unsupported "preferred_source")
  if version = 6 then
    match message.intField "proto" 0 with
    | none => .error .uncaught
    | some protocol =>
      if protocol = rtprotKernel ∧ route.via = none ∧ (route.dst.isLinkLocal || route.dst.isMulticast) = true then pure none
      else pure (some route)
  else pure (some route)

/-- The table of a route: an attribute, or else the eight bits of the header. -/
def reportedTable (message : Message) : Option Int :=
  match message.attr "RTA_TABLE" with
  | some value => value.int?
  | none => message.intField "table" mainRouteTable

/-- One message of a dump, which may hold other tables and the routes of the kernel. -/
def readRoute (names : Dict Int String) (interfaces : Dict String InterfaceInventory) (version : Nat) (expectedTable : Int)
    (protocol : Int) (dynamic : Bool) (message : Message) : Except RouteFault (Option RoutePlan) := do
  let table ← readable (reportedTable message) "invalid_table"
  if table ≠ expectedTable then pure none
  else do
    let flags ← readable (message.intField "flags" 0) "route_flags"
    if flag flags rtmCloned = true then pure none
    else do
      let kind ← readable (message.intField "type" rtnUnicast) "route_type"
      if expectedTable ≠ mainRouteTable ∧ protocol = rtprotKernel ∧ kind ∈ vrfKernelLocalRouteTypes then pure none
      else do
        Checks.raiseIf (kind ≠ rtnUnicast) (.unsupported ((unsupportedRouteTypes.lookup kind).getD "route_type"))
        let attributes ← semanticAttributes version protocol dynamic message
        checkSemantics message attributes flags
        checkPreferredSource message attributes
        if "RTA_MULTIPATH" ∈ attributes then readMultipath names version table message attributes
        else readSinglePath names interfaces version table message attributes

/-- A route of a routing protocol is passed over where another one is refused. -/
def decodeRoute (names : Dict Int String) (interfaces : Dict String InterfaceInventory) (netns : String) (version : Nat)
    (expectedTable : Int) (allowDynamic : Bool) (message : Message) : Except PlanError (Option RoutePlan) :=
  let protocol := (message.intField "proto" 0).getD 0
  let dynamic := allowDynamic && decide (protocol ∈ frrRouteProtocols)
  match readRoute names interfaces version expectedTable protocol dynamic message with
  | .ok route => .ok route
  | .error .uncaught => .error (.valueError "proto")
  | .error (.unsupported reason) =>
    if dynamic then .ok none else .error (.nslabError (unsupportedInventoryRoute netns reason))

/-- The routes of one address family and one table. -/
def inventoryRoutes (names : Dict Int String) (interfaces : Dict String InterfaceInventory) (netns : String) (version : Nat)
    (expectedTable : Int) (allowDynamic : Bool) (messages : List Message) : Except PlanError (List RoutePlan) := do
  let routes ← Checks.collect messages (decodeRoute names interfaces netns version expectedTable allowDynamic)
  pure (Dict.fromKeys (routes.filterMap id))

end Inventory

section Dynamic

variable (names : Dict Int String) (interfaces : Dict String InterfaceInventory) (netns : String) (version : Nat) (expectedTable : Int)

/-- A message of a routing protocol: its `proto` is read as a number, or else as 0. -/
def isFrr (message : Message) : Bool := (message.intField "proto" 0).getD 0 ∈ frrRouteProtocols

/-- A route is refused only for reasons that routing protocols are excused from. -/
def Caught {α : Type} (read : Except RouteFault α) : Prop := read ≠ .error .uncaught

namespace Caught

variable {α β : Type}

theorem ok (value : α) : Caught (.ok value) := by simp [Caught]

theorem unsupported (reason : String) : Caught (.error (.unsupported reason) : Except RouteFault α) := by
  simp [Caught]

theorem bind {first : Except RouteFault α} {rest : α → Except RouteFault β} (head : Caught first)
    (tail : ∀ value, Caught (rest value)) : Caught (first >>= rest) := by
  cases first with
  | error fault => exact fun raised => head (congrArg Except.error (Except.error.inj raised))
  | ok value => exact tail value

theorem readable {value : Option α} {reason : String} : Caught (Nslab.readable value reason) := by
  cases value with
  | none => exact unsupported reason
  | some value => exact ok value

theorem raiseIf {bad : Prop} [Decidable bad] {reason : String} : Caught (Checks.raiseIf bad (.unsupported reason)) := by
  by_cases holds : bad
  · simp [Checks.raiseIf, holds, unsupported]
  · simp [Checks.raiseIf, holds, ok]

theorem collect {items : List α} {check : α → Except RouteFault β} (each : ∀ item, Caught (check item)) :
    Caught (Checks.collect items check) := by
  induction items with
  | nil => exact ok []
  | cons item items ih => exact bind (each item) fun value => bind ih fun values => ok (value :: values)

end Caught

theorem decodeNextHop_caught (item : Value) : Caught (decodeNextHop names version item) := by
  refine .bind .readable fun hop => .bind .raiseIf fun _ => .bind .readable fun flags => .bind .readable fun hops => ?_
  refine .bind .readable fun outputIndex => .bind .raiseIf fun _ => .bind .raiseIf fun _ => .bind .readable fun interface => ?_
  split
  · exact .ok _
  · exact .bind .readable fun gateway => .ok _

theorem decodeMultipathNexthops_caught (value : Option Value) : Caught (decodeMultipathNexthops names version value) := by
  unfold decodeMultipathNexthops
  split
  · next items =>
    exact .bind .raiseIf fun _ => .bind (.collect (decodeNextHop_caught names version)) fun nexthops =>
      .bind .raiseIf fun _ => .ok nexthops
  · exact .unsupported _

theorem readDestination_caught (message : Message) (prefixlen : Int) : Caught (readDestination version message prefixlen) := by
  unfold readDestination
  split
  · exact .ok _
  · exact .bind .raiseIf fun _ => .ok _

theorem semanticAttributes_caught (protocol : Int) (dynamic : Bool) (message : Message) :
    Caught (semanticAttributes version protocol dynamic message) := by
  unfold semanticAttributes
  split
  · exact .bind .raiseIf fun _ => .bind .raiseIf fun _ => .ok _
  · dsimp only
    split
    · exact .bind .raiseIf fun _ => .ok _
    · exact .ok _

theorem checkSemantics_caught (message : Message) (attributes : List String) (flags : Int) :
    Caught (checkSemantics message attributes flags) := by
  refine .bind .raiseIf fun _ => .bind .raiseIf fun _ => .bind .readable fun sourcePrefixlen => .bind .raiseIf fun _ => ?_
  split
  · exact .unsupported _
  · exact .bind .readable fun tos => .bind .raiseIf fun _ => .bind .raiseIf fun _ => .raiseIf

theorem checkPreferredSource_caught (message : Message) (attributes : List String) :
    Caught (checkPreferredSource message attributes) := by
  unfold checkPreferredSource
  split
  · exact .bind .readable fun protocol => .bind .readable fun scope => .raiseIf
  · exact .ok ()

theorem readMultipath_caught (table : Int) (message : Message) (attributes : List String) :
    Caught (readMultipath names version table message attributes) := by
  refine .bind .raiseIf fun _ => .bind (decodeMultipathNexthops_caught _ _ _) fun nexthops => .bind .readable fun prefixlen => ?_
  exact .bind (readDestination_caught _ _ _) fun destination => .bind .readable fun network => .ok _

/-- The one exception that nothing catches is about a `proto` that is no number. -/
theorem readSinglePath_caught {protocol : Int} (table : Int) {message : Message} (attributes : List String)
    (proto : message.intField "proto" 0 = some protocol) :
    Caught (readSinglePath names interfaces version table message attributes) := by
  refine .bind .readable fun output => .bind .readable fun outputIndex => .bind .readable fun interface => ?_
  refine .bind .readable fun prefixlen => .bind (readDestination_caught _ _ _) fun destination => .bind .readable fun network => ?_
  refine .bind ?_ fun via => ?_
  · split
    · exact .ok none
    · exact .bind .readable fun address => .ok _
  · have finished (network : IPNetwork) : Caught (if version = 6 then
        match message.intField "proto" 0 with
        | none => .error .uncaught
        | some protocol => if protocol = rtprotKernel ∧ via = none ∧ (network.isLinkLocal || network.isMulticast) = true then
            pure none else pure (some { dst := network, via := via, dev := some interface, table := table })
        else pure (some { dst := network, via := via, dev := some interface, table := table } : Option RoutePlan)) := by
      rw [proto]
      split
      · dsimp only
        split
        · exact .ok _
        · exact .ok _
      · exact .ok _
    dsimp only
    split
    · refine .bind .readable fun preferred => .bind .readable fun observed => .bind .raiseIf fun _ => finished network
    · exact finished network

theorem readRoute_caught {protocol : Int} (dynamic : Bool) {message : Message}
    (proto : message.intField "proto" 0 = some protocol) :
    Caught (readRoute names interfaces version expectedTable protocol dynamic message) := by
  refine .bind .readable fun table => ?_
  split
  · exact .ok none
  · refine .bind .readable fun flags => ?_
    split
    · exact .ok none
    · refine .bind .readable fun kind => ?_
      split
      · exact .ok none
      · refine .bind .raiseIf fun _ => .bind (semanticAttributes_caught _ _ _ _) fun attributes => ?_
        refine .bind (checkSemantics_caught _ _ _) fun _ => .bind (checkPreferredSource_caught _ _) fun _ => ?_
        split
        · exact readMultipath_caught _ _ _ _ _
        · exact readSinglePath_caught _ _ _ _ _ proto

theorem decodeRoute_frr {message : Message} (frr : isFrr message = true) :
    ∃ route, decodeRoute names interfaces netns version expectedTable true message = .ok route := by
  have listed : (message.intField "proto" 0).getD 0 ∈ frrRouteProtocols := by simpa [isFrr] using frr
  cases proto : message.intField "proto" 0 with
  | none =>
    rw [proto] at listed
    exact absurd listed (by decide)
  | some protocol =>
    rw [proto, Option.getD_some] at listed
    have caught := readRoute_caught names interfaces version expectedTable true proto
    simp only [decodeRoute, proto, Option.getD_some, listed, decide_true, Bool.and_self, if_true]
    split
    · next route read => exact ⟨route, rfl⟩
    · next raised => exact absurd raised caught
    · exact ⟨none, rfl⟩

theorem mem_inventoryRoutes {allowDynamic : Bool} {messages : List Message} {routes : List RoutePlan}
    (decoded : inventoryRoutes names interfaces netns version expectedTable allowDynamic messages = .ok routes)
    {route : RoutePlan} : route ∈ routes ↔
      ∃ message ∈ messages, decodeRoute names interfaces netns version expectedTable allowDynamic message = .ok (some route) := by
  simp only [inventoryRoutes, Checks.bind_ok, Checks.pure_ok] at decoded
  obtain ⟨found, collected, shape⟩ := decoded
  rw [← shape, Dict.mem_fromKeys, List.mem_filterMap]
  rw [Checks.collect_ok] at collected
  constructor
  · intro member
    obtain ⟨value, inside, same⟩ := member
    obtain ⟨message, listed, read⟩ := Checks.exists_of_mem_right collected inside
    exact ⟨message, listed, read.trans (congrArg Except.ok same)⟩
  · intro member
    obtain ⟨message, listed, read⟩ := member
    obtain ⟨value, inside, same⟩ := Checks.exists_of_mem_left collected listed
    exact ⟨value, inside, Except.ok.inj (same.symm.trans read)⟩

theorem inventoryRoutes_total {allowDynamic : Bool} {messages : List Message} :
    (∃ routes, inventoryRoutes names interfaces netns version expectedTable allowDynamic messages = .ok routes) ↔
      ∀ message ∈ messages, ∃ route, decodeRoute names interfaces netns version expectedTable allowDynamic message = .ok route := by
  rw [← Checks.collect_total]
  constructor
  · intro decoded
    obtain ⟨routes, read⟩ := decoded
    obtain ⟨values, collected, _⟩ := Checks.bind_ok.mp read
    exact ⟨values, collected⟩
  · intro decoded
    obtain ⟨values, collected⟩ := decoded
    exact ⟨_, Checks.bind_ok.mpr ⟨values, collected, rfl⟩⟩

/-- Routing protocols disturb no static route: their messages neither refuse the others nor hide their routes. -/
theorem inventoryRoutes_dynamic (messages : List Message) :
    ((∃ routes, inventoryRoutes names interfaces netns version expectedTable true messages = .ok routes) ↔
      ∃ routes, inventoryRoutes names interfaces netns version expectedTable true (messages.filter (!isFrr ·)) = .ok routes) ∧
    ∀ routes static, inventoryRoutes names interfaces netns version expectedTable true messages = .ok routes →
      inventoryRoutes names interfaces netns version expectedTable true (messages.filter (!isFrr ·)) = .ok static →
      (∀ route ∈ static, route ∈ routes) ∧
      ∀ route ∈ routes, route ∉ static → ∃ message ∈ messages, isFrr message = true ∧
        inventoryRoutes names interfaces netns version expectedTable true [message] = .ok [route] := by
  refine ⟨?_, ?_⟩
  · rw [inventoryRoutes_total, inventoryRoutes_total]
    constructor
    · intro read message kept
      exact read message (List.mem_of_mem_filter kept)
    · intro read message listed
      cases frr : isFrr message with
      | true => exact decodeRoute_frr _ _ _ _ _ frr
      | false => exact read message (List.mem_filter.mpr ⟨listed, by simp [frr]⟩)
  · intro routes static whole rest
    refine ⟨?_, ?_⟩
    · intro route member
      obtain ⟨message, kept, read⟩ := (mem_inventoryRoutes _ _ _ _ _ rest).mp member
      exact (mem_inventoryRoutes _ _ _ _ _ whole).mpr ⟨message, List.mem_of_mem_filter kept, read⟩
    · intro route member extra
      obtain ⟨message, listed, read⟩ := (mem_inventoryRoutes _ _ _ _ _ whole).mp member
      refine ⟨message, listed, ?_, ?_⟩
      · by_contra other
        apply extra
        have kept : message ∈ messages.filter (!isFrr ·) := List.mem_filter.mpr ⟨listed, by simpa using other⟩
        exact (mem_inventoryRoutes _ _ _ _ _ rest).mpr ⟨message, kept, read⟩
      · simp [inventoryRoutes, Checks.collect, read, Dict.fromKeys]
        rfl

end Dynamic

end Nslab
