import Nslab.Backend.Routes
import Nslab.Backend.ExpectedRoutes

/-! What the inventory makes of messages that report the routes of a node. Every
route comes back as it was planned, one plan for each. -/

namespace Nslab

open Netlink Schema IpAddress

section Echo

/-- `RTPROT_STATIC`, which routes are added with. -/
def rtprotStatic : Int := 4

/-- The attributes that the kernel reports of a route that was added. -/
def reportedRouteAttributes : List String :=
  ["RTA_TABLE", "RTA_DST", "RTA_OIF", "RTA_GATEWAY", "RTA_MULTIPATH", "RTA_CACHEINFO", "RTA_PAD"]

/-- What the kernel adds to a route of IPv6: the metric 1024 and the medium preference. -/
def addedRouteAttributes : List (String × Int) := [("RTA_PRIORITY", 1024), ("RTA_PREF", 0)]

/-- A part of a message that reports the arguments of a nexthop. -/
structure NexthopEchoed (arguments : List (String × Value)) (hop : Message) : Prop where
  flags : hop.field "flags" = some (.int 0)
  header : ∀ name ∈ ["oif", "hops"], hop.field name = arguments.lookup name
  gateway : hop.attributes.lookup "RTA_GATEWAY" = arguments.lookup "gateway"
  names : ∀ name ∈ hop.attrNames, name = "RTA_GATEWAY"
  separate : hop.field "RTA_GATEWAY" = none

/-- Nexthops reported one by one. -/
def MultipathEchoed (passed reported : Value) : Prop :=
  ∃ items hops, passed = .list (items.map fun item => .message item []) ∧
    reported = .list (hops.map fun hop : Message => .message hop.fields hop.attributes) ∧ List.Forall₂ NexthopEchoed items hops

/-- A message that reports the arguments of a route. A table below 256 may be reported in the header, and no destination is
reported of a default route. -/
structure RouteEchoed (arguments : List (String × Value)) (message : Message) : Prop where
  family : message.field "family" = some ((arguments.lookup "family").getD (.int (addressFamily 4)))
  header : ∀ name ∈ ["src_len", "tos", "flags"], message.field name = some (.int 0)
  proto : message.field "proto" = some (.int rtprotStatic)
  kind : message.field "type" = some (.int rtnUnicast)
  table : message.attributes.lookup "RTA_TABLE" = some ((arguments.lookup "table").getD (.int mainRouteTable)) ∨
    message.attributes.lookup "RTA_TABLE" = none ∧ ∃ table < 256, (arguments.lookup "table").getD (.int mainRouteTable) = .int table ∧
      message.field "table" = some (.int table)
  destination : ∃ address prefixlen, arguments.lookup "dst" = some (.text (address ++ "/" ++ toString prefixlen)) ∧
    message.field "dst_len" = some (.int prefixlen) ∧ (message.attributes.lookup "RTA_DST" = some (.text address) ∨
      message.attributes.lookup "RTA_DST" = none ∧ prefixlen = 0 ∧
        address = defaultDestination (if (arguments.lookup "family").isSome then 6 else 4))
  output : message.attributes.lookup "RTA_OIF" = arguments.lookup "oif"
  gateway : message.attributes.lookup "RTA_GATEWAY" = arguments.lookup "gateway"
  multipath : Option.Rel MultipathEchoed (arguments.lookup "multipath") (message.attributes.lookup "RTA_MULTIPATH")
  added : ∀ entry ∈ addedRouteAttributes, message.attributes.lookup entry.1 = none ∨
    (arguments.lookup "family").isSome = true ∧ message.attributes.lookup entry.1 = some (.int entry.2)
  names : ∀ name ∈ message.attrNames, name ∈ reportedRouteAttributes ++ addedRouteAttributes.map Prod.fst
  separate : ∀ name ∈ reportedRouteAttributes ++ addedRouteAttributes.map Prod.fst, message.field name = none

/-- What validation establishes of a planned route. -/
structure RoutePlan.Wellformed (route : RoutePlan) : Prop where
  path : (route.nexthops = [] ∧ ∃ dev, route.dev = some dev) ∨
    (2 ≤ route.nexthops.length ∧ route.via = none ∧ route.dev = none)
  apart : (route.nexthops.map fun nexthop => (nexthop.via, nexthop.dev)).Nodup
  gateway : ∀ via ∈ route.via, via.version = route.dst.version
  gateways : ∀ nexthop ∈ route.nexthops, ∀ via ∈ nexthop.via, via.version = route.dst.version
  weights : ∀ nexthop ∈ route.nexthops, 1 ≤ nexthop.weight ∧ nexthop.weight ≤ 256

/-- The indexes known of interfaces and those that the kernel finds are the indexes that name them in the inventory. -/
structure Indexed (lookup : String → Option Int) (names : Dict Int String) (indexes : Dict String Int) : Prop where
  known : ∀ name index, indexes.get? name = some index → names.get? index = some name
  found : ∀ name index, lookup name = some index → names.get? index = some name

end Echo

section Encoder

/-- What is passed for a nexthop. -/
def NexthopPassed (names : Dict Int String) (nexthop : RouteNextHopPlan) (item : List (String × Value)) : Prop :=
  ∃ index, names.get? index = some nexthop.dev ∧ item = nexthopArguments nexthop index

/-- What is passed for a route. -/
structure RoutePassed (names : Dict Int String) (route : RoutePlan) (arguments : List (String × Value)) : Prop where
  dst : arguments.lookup "dst" = some (.text (String.ofList route.dst.chars))
  family : arguments.lookup "family" = if route.dst.version = 6 then some (.int (addressFamily 6)) else none
  table : (arguments.lookup "table").getD (.int mainRouteTable) = .int route.table
  path : (route.nexthops = [] ∧ ∃ dev index, route.dev = some dev ∧ names.get? index = some dev ∧
      arguments.lookup "oif" = some (.int index) ∧ arguments.lookup "gateway" = route.via.map gatewayText ∧
      arguments.lookup "multipath" = none) ∨
    (route.nexthops ≠ [] ∧ ∃ items, arguments.lookup "multipath" = some (.list (items.map fun item => .message item [])) ∧
      List.Forall₂ (NexthopPassed names) route.nexthops items ∧ arguments.lookup "oif" = none ∧
      arguments.lookup "gateway" = none)

variable (node : NodePlan) {lookup : String → Option Int} {names : Dict Int String}

/-- An index that is looked up names its interface. -/
theorem routeIndex_indexed {indexes : Dict String Int} {dev : String} (indexed : Indexed lookup names indexes)
    (exist : indexes.get? dev ≠ none ∨ lookup dev ≠ none) :
    ∃ index later, routeIndex node lookup indexes dev = .ok (index, later) ∧ names.get? index = some dev ∧
      Indexed lookup names later ∧ ∀ name ∈ indexes.keys, name ∈ later.keys := by
  rw [routeIndex]
  cases known : indexes.get? dev with
  | some index => exact ⟨index, indexes, rfl, indexed.known dev index known, indexed, fun _ => id⟩
  | none =>
    cases looked : lookup dev with
    | none => simp [known, looked] at exist
    | some index =>
      have named := indexed.found dev index looked
      refine ⟨index, indexes.insert dev index, by simp only [requiredIndex, looked, Checks.ok_bind]; rfl, named, ?_, ?_⟩
      · refine ⟨fun name other stored => ?_, indexed.found⟩
        rw [Dict.get?_insert] at stored
        split at stored
        next same =>
          rw [← Option.some.inj stored, same]
          exact named
        next => exact indexed.known name other stored
      · intro name listed
        rw [Dict.keys_insert]
        split
        next => exact listed
        next => exact List.mem_append_left _ listed

theorem exist_later {indexes later : Dict String Int} (kept : ∀ name ∈ indexes.keys, name ∈ later.keys) {dev : String}
    (exist : indexes.get? dev ≠ none ∨ lookup dev ≠ none) : later.get? dev ≠ none ∨ lookup dev ≠ none := by
  refine exist.imp_left fun known => ?_
  obtain ⟨index, found⟩ := Option.ne_none_iff_exists'.mp known
  obtain ⟨other, stored⟩ := Dict.mem_keys_iff.mp (kept dev (Dict.mem_keys_of_get? found))
  simp [stored]

theorem multipathArguments_indexed {indexes : Dict String Int} {nexthops : List RouteNextHopPlan}
    (indexed : Indexed lookup names indexes)
    (exist : ∀ nexthop ∈ nexthops, indexes.get? nexthop.dev ≠ none ∨ lookup nexthop.dev ≠ none) :
    ∃ items later, multipathArguments node lookup indexes nexthops = .ok (items, later) ∧
      List.Forall₂ (NexthopPassed names) nexthops items ∧ Indexed lookup names later ∧
      ∀ name ∈ indexes.keys, name ∈ later.keys := by
  induction nexthops generalizing indexes with
  | nil => exact ⟨[], indexes, rfl, .nil, indexed, fun _ => id⟩
  | cons nexthop rest ih =>
    obtain ⟨index, middle, looked, named, indexed, kept⟩ := routeIndex_indexed node indexed (exist nexthop List.mem_cons_self)
    obtain ⟨items, later, passed, each, indexed, still⟩ := ih indexed fun other member =>
      exist_later kept (exist other (List.mem_cons_of_mem _ member))
    refine ⟨nexthopArguments nexthop index :: items, later, ?_, .cons ⟨index, named, rfl⟩ each, indexed,
      fun name listed => still name (kept name listed)⟩
    simp only [multipathArguments, looked, passed, Checks.ok_bind]
    rfl

/-- The arguments of a route pass all of it. -/
theorem routeArguments_indexed {indexes : Dict String Int} {route : RoutePlan} (valid : route.Wellformed)
    (indexed : Indexed lookup names indexes)
    (exist : ∀ dev ∈ route.interfaces, indexes.get? dev ≠ none ∨ lookup dev ≠ none) :
    ∃ arguments later, routeArguments node lookup indexes route = .ok (arguments, later) ∧ RoutePassed names route arguments ∧
      Indexed lookup names later ∧ ∀ name ∈ indexes.keys, name ∈ later.keys := by
  have table (value : Option Value) (given : value = if route.table = mainRouteTable then none else some (.int route.table)) :
      value.getD (.int mainRouteTable) = .int route.table := by
    rw [given]
    split
    next main => rw [main]; rfl
    next => rfl
  obtain ⟨single, dev, leaves⟩ | ⟨several, _⟩ := valid.path
  · have own : dev ∈ route.interfaces := by simp [RoutePlan.interfaces, single, leaves]
    obtain ⟨index, later, looked, named, indexed, kept⟩ := routeIndex_indexed node indexed (exist dev own)
    refine ⟨_, later, by
      simp only [routeArguments, single, leaves, ne_eq, not_true_eq_false, if_false, looked, Checks.ok_bind]
      rfl, ?_, indexed, kept⟩
    refine ⟨by simp [lookup_present_cons], by simp [lookup_present_cons], table _ (by simp [lookup_present_cons]), .inl ?_⟩
    refine ⟨single, dev, index, leaves, named, ?_, ?_, ?_⟩ <;> simp [lookup_present_cons]
  · have some : route.nexthops ≠ [] := by
      intro none
      simp [none] at several
    have own : ∀ nexthop ∈ route.nexthops, indexes.get? nexthop.dev ≠ none ∨ lookup nexthop.dev ≠ none := by
      intro nexthop member
      refine exist nexthop.dev ?_
      rw [RoutePlan.interfaces, if_pos some]
      exact List.mem_map_of_mem member
    obtain ⟨items, later, passed, each, indexed, kept⟩ := multipathArguments_indexed node indexed own
    refine ⟨_, later, by
      simp only [routeArguments, if_pos some, passed, Checks.ok_bind]
      rfl, ?_, indexed, kept⟩
    refine ⟨by simp [lookup_present_cons], by simp [lookup_present_cons], table _ (by simp [lookup_present_cons]), .inr ?_⟩
    refine ⟨some, items, ?_, each, ?_, ?_⟩ <;> simp [lookup_present_cons]

theorem routesArguments_indexed {indexes : Dict String Int} {routes : List RoutePlan} (valid : ∀ route ∈ routes, route.Wellformed)
    (indexed : Indexed lookup names indexes)
    (exist : ∀ route ∈ routes, ∀ dev ∈ route.interfaces, indexes.get? dev ≠ none ∨ lookup dev ≠ none) :
    ∃ passed, routesArguments node lookup indexes routes = .ok passed ∧ List.Forall₂ (RoutePassed names) routes passed := by
  induction routes generalizing indexes with
  | nil => exact ⟨[], rfl, .nil⟩
  | cons route rest ih =>
    obtain ⟨arguments, later, first, own, indexed, kept⟩ := routeArguments_indexed node (valid route List.mem_cons_self) indexed
      (exist route List.mem_cons_self)
    obtain ⟨others, passed, each⟩ := ih (fun other member => valid other (List.mem_cons_of_mem _ member)) indexed
      fun other member dev inside => exist_later kept (exist other (List.mem_cons_of_mem _ member) dev inside)
    exact ⟨arguments :: others, by simp only [routesArguments, first, passed, Checks.ok_bind]; rfl, .cons own each⟩

end Encoder

section Decoder

variable {names : Dict Int String} {arguments : List (String × Value)} {message : Message}

theorem readable_ok {α : Type} {value : Option α} {reason : String} {given : α} (found : value = some given) :
    readable value reason = .ok given := by
  rw [found, readable]

theorem gatewayAddress_text {version : Nat} {address : IPAddress} (own : address.version = version) :
    gatewayAddress version (gatewayText address) = some address := by
  rw [gatewayAddress, gatewayText, Value.text?, Option.bind_some, String.toList_ofList, ← own, IPNetwork.parseAddress_chars]

/-- A nexthop is read back. -/
theorem decodeNextHop_echoed {version : Nat} {nexthop : RouteNextHopPlan} {hop : Message}
    (passed : NexthopPassed names nexthop arguments) (echoed : NexthopEchoed arguments hop)
    (own : ∀ via ∈ nexthop.via, via.version = version) (weight : 1 ≤ nexthop.weight ∧ nexthop.weight ≤ 256) :
    decodeNextHop names version (.message hop.fields hop.attributes) = .ok nexthop := by
  obtain ⟨index, named, rfl⟩ := passed
  have flags : hop.intField "flags" 0 = some 0 := by
    rw [Message.intField, echoed.flags]
    rfl
  have hops : hop.intField "hops" 0 = some (nexthop.weight - 1) := by
    rw [Message.intField, echoed.header "hops" (by decide)]
    simp [nexthopArguments, lookup_present_cons, Value.int?]
  have output : (hop.field "oif").bind Value.int? = some index := by
    rw [echoed.header "oif" (by decide)]
    simp [nexthopArguments, lookup_present_cons, Value.int?]
  have gateway : hop.attr "RTA_GATEWAY" = nexthop.via.map gatewayText := by
    rw [Message.attr_of_field echoed.separate, echoed.gateway]
    simp [nexthopArguments, lookup_present_cons]
  have other : ¬ ∃ name ∈ hop.attrNames, name ≠ "RTA_GATEWAY" := by
    intro given
    obtain ⟨name, listed, other⟩ := given
    exact other (echoed.names name listed)
  have range : ¬ (nexthop.weight - 1 < 0 ∨ 255 < nexthop.weight - 1) := by omega
  have zero : ¬ ((0 : Int) ≠ 0) := by simp
  simp only [decodeNextHop, readable_ok (show (Value.message hop.fields hop.attributes).message? = some hop from rfl), Checks.ok_bind,
    Checks.raiseIf_pass other, readable_ok flags, readable_ok hops, readable_ok output, Checks.raiseIf_pass zero,
    Checks.raiseIf_pass range, readable_ok named, gateway, Int.sub_add_cancel]
  obtain ⟨via, dev, weight⟩ := nexthop
  cases via with
  | none => rfl
  | some address =>
    simp only [Option.map_some, readable_ok (gatewayAddress_text (own address rfl)), Checks.ok_bind]
    rfl

theorem collect_nexthops {version : Nat} {nexthops : List RouteNextHopPlan} {items : List (List (String × Value))}
    {hops : List Message} (passed : List.Forall₂ (NexthopPassed names) nexthops items)
    (echoed : List.Forall₂ NexthopEchoed items hops)
    (own : ∀ nexthop ∈ nexthops, ∀ via ∈ nexthop.via, via.version = version)
    (weights : ∀ nexthop ∈ nexthops, 1 ≤ nexthop.weight ∧ nexthop.weight ≤ 256) :
    Checks.collect (hops.map fun hop => .message hop.fields hop.attributes) (decodeNextHop names version) = .ok nexthops := by
  induction passed generalizing hops with
  | nil =>
    cases echoed
    rfl
  | @cons nexthop item _ _ first _ ih =>
    cases echoed with
    | @cons _ hop _ _ head later =>
      have rest := ih later (fun other member => own other (List.mem_cons_of_mem _ member))
        fun other member => weights other (List.mem_cons_of_mem _ member)
      have decoded := decodeNextHop_echoed first head (own nexthop List.mem_cons_self) (weights nexthop List.mem_cons_self)
      simp only [List.map_cons, Checks.collect, decoded, rest, Checks.ok_bind]
      rfl

theorem decodeMultipathNexthops_echoed {version : Nat} {route : RoutePlan} {items : List (List (String × Value))} {reported : Value}
    (valid : route.Wellformed) (several : route.nexthops ≠ []) (own : route.dst.version = version)
    (passed : List.Forall₂ (NexthopPassed names) route.nexthops items)
    (echoed : MultipathEchoed (.list (items.map fun item => .message item [])) reported) :
    decodeMultipathNexthops names version (some reported) = .ok route.nexthops := by
  obtain ⟨others, hops, same, rfl, each⟩ := echoed
  have injective : Function.Injective fun item : List (String × Value) => Value.message item [] := by
    intro left right equal
    cases equal
    rfl
  have equal : items = others := List.map_injective_iff.mpr injective (Value.list.inj same)
  subst equal
  have length : ¬ (hops.map fun hop : Message => Value.message hop.fields hop.attributes).length < 2 := by
    rw [List.length_map, ← each.length_eq, ← passed.length_eq]
    obtain ⟨single, _⟩ | ⟨enough, _⟩ := valid.path
    · exact absurd single several
    · omega
  have collected := collect_nexthops passed each
    (fun nexthop member via given => own ▸ valid.gateways nexthop member via given) valid.weights
  simp only [decodeMultipathNexthops, Checks.raiseIf_pass length, collected, Checks.ok_bind,
    Checks.raiseIf_pass (not_not.mpr valid.apart)]
  rfl

theorem attr_reported (echoed : RouteEchoed arguments message) {name : String} (listed : name ∈ reportedRouteAttributes) :
    message.attr name = message.attributes.lookup name :=
  Message.attr_of_field (echoed.separate name (List.mem_append_left _ listed))

theorem destination_echoed {route : RoutePlan} (passed : RoutePassed names route arguments) (echoed : RouteEchoed arguments message) :
    ∃ prefixlen destination, message.intField "dst_len" 0 = some prefixlen ∧
      readDestination route.dst.version message prefixlen = .ok destination ∧
      destinationNetwork route.dst.version destination prefixlen = some route.dst := by
  obtain ⟨address, prefixlen, given, length, reported⟩ := echoed.destination
  have text : (address ++ "/" ++ toString prefixlen).toList = route.dst.chars := by
    rw [passed.dst] at given
    rw [← Value.text.inj (Option.some.inj given), String.toList_ofList]
  have read : destinationNetwork route.dst.version (.text address) prefixlen = some route.dst := by
    rw [destinationNetwork, Value.text?, Option.bind_some, text, IPNetwork.parseLoose_chars]
  refine ⟨prefixlen, .text address, by rw [Message.intField, length]; rfl, ?_, read⟩
  rw [readDestination, attr_reported echoed (by decide)]
  obtain reported | ⟨absent, zero, default⟩ := reported
  · rw [reported]
  · have family : (if (arguments.lookup "family").isSome then 6 else 4) = if route.dst.version = 6 then 6 else 4 := by
      rw [passed.family]
      split <;> rfl
    have same : defaultDestination (if (arguments.lookup "family").isSome then 6 else 4) = defaultDestination route.dst.version := by
      rw [family, defaultDestination, defaultDestination]
      split <;> rfl
    simp only [absent, Checks.raiseIf_pass (not_not.mpr zero), Checks.ok_bind, default, same]
    rfl

theorem table_echoed {route : RoutePlan} (passed : RoutePassed names route arguments) (echoed : RouteEchoed arguments message) :
    reportedTable message = some route.table := by
  rw [reportedTable, attr_reported echoed (by decide)]
  have given := echoed.table
  rw [passed.table] at given
  obtain reported | ⟨absent, table, _, same, header⟩ := given
  · rw [reported]
    rfl
  · rw [Value.int.inj same, absent, Message.intField, header]
    rfl

/-- What the kernel adds to a route is not taken for a part of it. -/
theorem semanticAttributes_echoed {route : RoutePlan} (passed : RoutePassed names route arguments)
    (echoed : RouteEchoed arguments message) : ∃ attributes,
      semanticAttributes route.dst.version rtprotStatic false message = .ok attributes ∧
      (∀ name ∈ attributes, name ∈ reportedRouteAttributes) ∧
      ∀ name ∈ reportedRouteAttributes, name ∈ attributes ↔ message.attributes.lookup name ≠ none := by
  have listed (name : String) : name ∈ message.attrNames ↔ message.attributes.lookup name ≠ none := by
    constructor
    · exact Message.lookup_of_mem_attrNames
    · intro present
      obtain ⟨value, found⟩ := Option.ne_none_iff_exists'.mp present
      exact Message.mem_attrNames found
  have added (name : String) (value : Int) (entry : (name, value) ∈ addedRouteAttributes) (present : name ∈ message.attrNames) :
      (arguments.lookup "family").isSome = true ∧ (message.attr name).bind Value.int? = some value := by
    have separate := echoed.separate name (List.mem_append_right _ (List.mem_map_of_mem entry))
    obtain absent | ⟨six, reported⟩ := echoed.added _ entry
    · exact absurd absent ((listed name).mp present)
    · exact ⟨six, by rw [Message.attr_of_field separate, reported]; rfl⟩
  rw [semanticAttributes]
  split
  next six =>
    have priority : ¬ ("RTA_PRIORITY" ∈ message.attrNames ∧ false = false ∧
        (message.attr "RTA_PRIORITY").bind Value.int? ≠ some (if rtprotStatic = rtprotKernel then 256 else 1024)) := by
      intro given
      obtain ⟨present, _, other⟩ := given
      exact other (added "RTA_PRIORITY" 1024 (by decide) present).2
    have preference : ¬ ("RTA_PREF" ∈ message.attrNames ∧ false = false ∧
        (message.attr "RTA_PREF").bind Value.int? ≠ some 0) := by
      intro given
      obtain ⟨present, _, other⟩ := given
      exact other (added "RTA_PREF" 0 (by decide) present).2
    rw [Checks.raiseIf_pass priority, Checks.ok_bind, Checks.raiseIf_pass preference, Checks.ok_bind]
    refine ⟨_, rfl, fun name member => ?_, fun name reported => ?_⟩
    · obtain ⟨present, kept⟩ := List.mem_filter.mp member
      cases List.mem_append.mp (echoed.names name present) with
      | inl reported => exact reported
      | inr other =>
        exact absurd other (of_decide_eq_true kept)
    · have apart : name ∉ ["RTA_PRIORITY", "RTA_PREF"] := by
        have all : ∀ name ∈ reportedRouteAttributes, name ∉ ["RTA_PRIORITY", "RTA_PREF"] := by decide
        exact all name reported
      rw [List.mem_filter, listed, decide_eq_true_eq]
      exact and_iff_left apart
  next other =>
    have plain : (arguments.lookup "family").isSome = false := by
      rw [passed.family, if_neg other]
      rfl
    have absent (name : String) (value : Int) (entry : (name, value) ∈ addedRouteAttributes) : name ∉ message.attrNames := by
      intro present
      have six := (added name value entry present).1
      rw [plain] at six
      cases six
    rw [if_neg (absent "RTA_PRIORITY" 1024 (by decide))]
    refine ⟨_, rfl, fun name member => ?_, fun name _ => listed name⟩
    cases List.mem_append.mp (echoed.names name member) with
    | inl reported => exact reported
    | inr extra =>
      obtain ⟨entry, inside, rfl⟩ := List.mem_map.mp extra
      exact absurd member (absent entry.1 entry.2 inside)

/-- A route with only reported attributes has none that is refused. -/
theorem checkSemantics_echoed (echoed : RouteEchoed arguments message) {attributes : List String}
    (plain : ∀ name ∈ attributes, name ∈ reportedRouteAttributes) : checkSemantics message attributes 0 = .ok () := by
  have absent {name : String} (other : name ∉ reportedRouteAttributes) : name ∉ attributes :=
    fun member => other (plain name member)
  have header (name : String) (entry : name ∈ ["src_len", "tos", "flags"]) : message.intField name 0 = some 0 := by
    rw [Message.intField, echoed.header name entry]
    rfl
  have source : ¬ ((0 : Int) ≠ 0 ∨ "RTA_SRC" ∈ attributes) := by
    intro given
    cases given with
    | inl bad => exact bad rfl
    | inr member => exact absent (by decide) member
  have supported : (unsupportedRouteAttributes.find? fun entry => entry.1 ∈ attributes) = none := by
    rw [List.find?_eq_none]
    intro entry member
    have all : ∀ entry ∈ unsupportedRouteAttributes, entry.1 ∉ reportedRouteAttributes := by decide
    simpa using absent (all entry member)
  have allowed : ¬ ∃ name ∈ attributes, name ∉ allowedRouteAttributes := by
    intro both
    obtain ⟨name, member, other⟩ := both
    have all : ∀ name ∈ reportedRouteAttributes, name ∈ allowedRouteAttributes := by decide
    exact other (all name (plain name member))
  have zero : ¬ ((0 : Int) ≠ 0) := by simp
  have algorithm : "RTA_MP_ALGO" ∉ attributes := absent (by decide)
  have object : "RTA_NH_ID" ∉ attributes := absent (by decide)
  simp only [checkSemantics, Checks.raiseIf_pass algorithm, Checks.raiseIf_pass object, readable_ok (header "src_len" (by decide)),
    Checks.raiseIf_pass source, supported, readable_ok (header "tos" (by decide)), Checks.raiseIf_pass zero,
    Checks.raiseIf_pass allowed, Checks.ok_bind]

theorem readRoute_echoed {route : RoutePlan} (valid : route.Wellformed) (passed : RoutePassed names route arguments)
    (echoed : RouteEchoed arguments message) (interfaces : Dict String InterfaceInventory) :
    readRoute names interfaces route.dst.version route.table rtprotStatic false message = .ok (some route) := by
  obtain ⟨attributes, semantic, plain, kept⟩ := semanticAttributes_echoed passed echoed
  obtain ⟨prefixlen, destination, length, given, network⟩ := destination_echoed passed echoed
  have flags : message.intField "flags" 0 = some 0 := by
    rw [Message.intField, echoed.header "flags" (by decide)]
    rfl
  have kind : message.intField "type" rtnUnicast = some rtnUnicast := by
    rw [Message.intField, echoed.kind]
    rfl
  have proto : message.intField "proto" 0 = some rtprotStatic := by
    rw [Message.intField, echoed.proto]
    rfl
  have preferred : "RTA_PREFSRC" ∉ attributes := fun member => absurd (plain _ member) (by decide)
  have uncloned : ¬ flag 0 rtmCloned = true := by decide
  have foreign : ¬ (route.table ≠ mainRouteTable ∧ rtprotStatic = rtprotKernel ∧ rtnUnicast ∈ vrfKernelLocalRouteTypes) := by
    intro both
    obtain ⟨_, kernel, _⟩ := both
    exact absurd kernel (by decide)
  rw [readRoute, readable_ok (table_echoed passed echoed), Checks.ok_bind, if_neg (not_not.mpr rfl), readable_ok flags,
    Checks.ok_bind, if_neg uncloned, readable_ok kind, Checks.ok_bind, if_neg foreign, Checks.raiseIf_pass (not_not.mpr rfl),
    Checks.ok_bind, semantic, Checks.ok_bind, checkSemantics_echoed echoed plain, Checks.ok_bind, checkPreferredSource,
    if_neg preferred, Checks.ok_bind]
  obtain ⟨single, dev, index, leaves, named, output, gateway, none⟩ | ⟨several, items, multipath, each, output, gateway⟩ := passed.path
  · -- a single path has no nexthops of its own
    have unlisted : "RTA_MULTIPATH" ∉ attributes := by
      rw [kept _ (by decide), not_not]
      have related := echoed.multipath
      rw [none] at related
      cases reported : message.attributes.lookup "RTA_MULTIPATH" with
      | none => rfl
      | some value =>
        rw [reported] at related
        cases related
    have leaving : message.attr "RTA_OIF" = some (.int index) := by
      rw [attr_reported echoed (by decide), echoed.output, output]
    have through : message.attr "RTA_GATEWAY" = route.via.map gatewayText := by
      rw [attr_reported echoed (by decide), echoed.gateway, gateway]
    have shape : route = { dst := route.dst, via := route.via, dev := some dev, table := route.table } := by
      obtain ⟨_, _, _, _, _⟩ := route
      simp only at single leaves
      rw [single, leaves]
    have static : ¬ rtprotStatic = rtprotKernel := by decide
    rw [if_neg unlisted]
    simp only [readSinglePath, readable_ok leaving, Checks.ok_bind, readable_ok (show (Value.int index).int? = some index from rfl),
      readable_ok named, readable_ok length, given, readable_ok network, through, preferred, if_false, proto]
    cases via : route.via with
    | none =>
      rw [via] at shape
      simp only [Option.map_none, pure_bind, static, false_and, if_false, ite_self]
      rw [← shape]
      rfl
    | some address =>
      rw [via] at shape
      have own := valid.gateway address via
      simp only [Option.map_some, readable_ok (gatewayAddress_text own), Checks.ok_bind, pure_bind, static, false_and,
        if_false, ite_self]
      rw [← shape]
      rfl
  · have related := echoed.multipath
    rw [multipath] at related
    cases reported : message.attributes.lookup "RTA_MULTIPATH" with
    | none =>
      rw [reported] at related
      cases related
    | some value =>
      rw [reported] at related
      cases related with
      | some hops =>
        have listed : "RTA_MULTIPATH" ∈ attributes := by
          rw [kept _ (by decide), reported]
          simp
        have alone : ¬ ("RTA_PREFSRC" ∈ attributes ∨ "RTA_OIF" ∈ attributes ∨ "RTA_GATEWAY" ∈ attributes) := by
          rw [kept "RTA_OIF" (by decide), kept "RTA_GATEWAY" (by decide), echoed.output, echoed.gateway, output, gateway]
          simp [preferred]
        have found : message.attr "RTA_MULTIPATH" = some value := by
          rw [attr_reported echoed (by decide), reported]
        have shape : route = { dst := route.dst, via := none, dev := none, table := route.table, nexthops := route.nexthops } := by
          obtain ⟨single, _⟩ | ⟨_, via, dev⟩ := valid.path
          · exact absurd single several
          · obtain ⟨_, _, _, _, _⟩ := route
            simp only at via dev
            rw [via, dev]
        rw [if_pos listed]
        simp only [readMultipath, Checks.raiseIf_pass alone, Checks.ok_bind, found,
          decodeMultipathNexthops_echoed valid several rfl each hops, readable_ok length, given, readable_ok network]
        rw [← shape]
        rfl

/-- A route that is reported comes back, with routes of routing protocols or without. -/
theorem decodeRoute_echoed {route : RoutePlan} (valid : route.Wellformed) (passed : RoutePassed names route arguments)
    (echoed : RouteEchoed arguments message) (interfaces : Dict String InterfaceInventory) (netns : String) (allowDynamic : Bool) :
    decodeRoute names interfaces netns route.dst.version route.table allowDynamic message = .ok (some route) := by
  have proto : (message.intField "proto" 0).getD 0 = rtprotStatic := by
    rw [Message.intField, echoed.proto]
    rfl
  have static : (allowDynamic && decide (rtprotStatic ∈ frrRouteProtocols)) = false := by
    have other : decide (rtprotStatic ∈ frrRouteProtocols) = false := by decide
    rw [other, Bool.and_false]
  simp only [decodeRoute, proto, static, readRoute_echoed valid passed echoed interfaces]

end Decoder

section Accepted

/-- The weights that validation lets pass. -/
theorem NodeBase.weights_of_holds {node : NodeBase} (holds : nodeBaseFields.holds node) :
    ∀ route ∈ node.routes, ∀ hop ∈ route.nexthops, 1 ≤ hop.weight ∧ hop.weight ≤ 256 := by
  obtain ⟨⟨⟨⟨_, routes⟩, _⟩, _⟩, _⟩ := holds
  intro route member hop inside
  obtain ⟨⟨⟨_, hops⟩, _⟩, _⟩ := routes route member
  obtain ⟨_, weight⟩ := hops hop inside
  exact Codec.holds_between.mp weight

/-- The planner keeps what validation establishes of a route. -/
theorem compileRoute_wellformed {tables : Dict String Int} {route : RouteConfig} {plan : RoutePlan}
    (compiled : compileRoute tables route = .ok plan) (valid : route.validateAddressFamily = .ok ())
    (weights : ∀ hop ∈ route.nexthops, 1 ≤ hop.weight ∧ hop.weight ≤ 256) : plan.Wellformed := by
  obtain ⟨_, inferred, _, _, rfl⟩ := compileRoute_plan compiled
  have versioned {via : Option IPAddress} (own : via.any (fun address => address.version ≠ route.dst.version) = false) :
      ∀ address ∈ via, address.version = route.dst.version := by
    intro address given
    rw [Option.mem_def.mp given] at own
    simpa using own
  unfold RouteConfig.validateAddressFamily at valid
  split at valid
  next several =>
    simp only [Checks.bind_ok, Checks.raiseIf_ok, Checks.exists_unit, not_or, not_lt, not_not, Bool.not_eq_true,
      Option.isSome_eq_false_iff, Option.isNone_iff_eq_none, List.any_eq_false] at valid
    obtain ⟨⟨alone, leaves⟩, enough, apart, versions⟩ := valid
    refine ⟨.inr ⟨by simpa using enough, alone, leaves⟩, by simpa [Function.comp_def] using apart, by simp [alone], ?_, ?_⟩
    · intro nexthop member address given
      obtain ⟨hop, inside, rfl⟩ := List.mem_map.mp member
      rw [compileNextHop_eq] at given
      exact versioned (versions hop inside) address given
    · intro nexthop member
      obtain ⟨hop, inside, rfl⟩ := List.mem_map.mp member
      exact weights hop inside
  next single =>
    simp only [Checks.bind_ok, Checks.raiseIf_ok, Checks.exists_unit, Bool.not_eq_true] at valid
    rw [not_not] at single
    obtain ⟨leaves, version⟩ := valid
    exact ⟨.inl ⟨by simp [single], Option.ne_none_iff_exists'.mp leaves⟩, by simp [single], versioned version, by simp [single],
      by simp [single]⟩

namespace Manifest.Plans

variable {manifest : Manifest} {plan : TopologyPlan}

theorem routes_wellformed (plans : manifest.Plans plan) {node : NodePlan} (member : node ∈ plan.nodes.values) :
    (∀ route ∈ node.routes, route.Wellformed) ∧ (node.routes.map RoutePlan.identity).Nodup := by
  obtain ⟨config, _, declared, _⟩ := plans.node (plans.found_of_mem member)
  obtain ⟨holds, compiled, _⟩ := plans.routed member declared
  refine ⟨fun route inside => ?_, (plans.routes_apart member declared).2.1⟩
  obtain ⟨route, listed, planned⟩ := Checks.exists_of_mem_right compiled inside
  exact compileRoute_wellformed planned (validateAddressFamily_of_holds holds route listed)
    (NodeBase.weights_of_holds (NodeConfig.base_of_holds holds) route listed)

end Manifest.Plans

end Accepted

section RoundTrip

variable {names : Dict Int String}

/-- A list without repetitions lists its own keys. -/
theorem Dict.fromKeys_of_nodup {α : Type} [DecidableEq α] {items : List α} (distinct : items.Nodup) : Dict.fromKeys items = items := by
  have keys : (items.map fun item => (item, ())).map Prod.fst = items := by simp [Function.comp_def]
  rw [Dict.fromKeys, Dict.keys, Dict.entries_ofEntries (keys.symm ▸ distinct), keys]

/-- The routes of a dump come back in its order. -/
theorem inventoryRoutes_echoed {version : Nat} {table : Int} {routes : List RoutePlan} {passed : List (List (String × Value))}
    {messages : List Message} (valid : ∀ route ∈ routes, route.Wellformed ∧ route.dst.version = version ∧ route.table = table)
    (distinct : routes.Nodup) (each : List.Forall₂ (RoutePassed names) routes passed)
    (reported : List.Forall₂ RouteEchoed passed messages) (interfaces : Dict String InterfaceInventory) (netns : String)
    (allowDynamic : Bool) : inventoryRoutes names interfaces netns version table allowDynamic messages = .ok routes := by
  have decoded : Checks.collect messages (decodeRoute names interfaces netns version table allowDynamic) =
      .ok (routes.map some) := by
    clear distinct
    induction each generalizing messages with
    | nil =>
      cases reported
      rfl
    | @cons route arguments _ _ own _ ih =>
      cases reported with
      | @cons _ message _ _ head later =>
        obtain ⟨wellformed, rfl, rfl⟩ := valid route List.mem_cons_self
        have first := decodeRoute_echoed wellformed own head interfaces netns allowDynamic
        have rest := ih (fun other member => valid other (List.mem_cons_of_mem _ member)) later
        simp only [Checks.collect, first, rest, Checks.ok_bind, List.map_cons]
        rfl
  rw [inventoryRoutes, decoded, Checks.ok_bind, List.filterMap_map]
  have all : routes.filterMap (id ∘ some) = routes := List.filterMap_some
  rw [all, Dict.fromKeys_of_nodup distinct]
  rfl

end RoundTrip

/-- Each route of a node comes back from a message that reports it, and the routes of a table come back one by one. -/
theorem inventoryRoutes_roundTrip {manifest : Manifest} {nameOverride : Option String} {plan : TopologyPlan}
    (accepted : manifest.Accepted) (compiled : compilePlan manifest nameOverride = .ok plan) {node : NodePlan}
    (member : node ∈ plan.nodes.values) {lookup : String → Option Int} {names : Dict Int String} {indexes : Dict String Int}
    (indexed : Indexed lookup names indexes)
    (exist : ∀ route ∈ node.routes, ∀ dev ∈ route.interfaces, indexes.get? dev ≠ none ∨ lookup dev ≠ none)
    (interfaces : Dict String InterfaceInventory) (allowDynamic : Bool) :
    ∃ passed, routesArguments node lookup indexes node.routes = .ok passed ∧
      List.Forall₂ (fun route arguments => ∀ message, RouteEchoed arguments message →
        inventoryRoutes names interfaces node.netns route.dst.version route.table allowDynamic [message] = .ok [route])
        node.routes passed ∧
      (node.routes.zip passed).Pairwise (fun left right => ∀ first second, RouteEchoed left.2 first → RouteEchoed right.2 second →
        inventoryRoutes names interfaces node.netns left.1.dst.version left.1.table allowDynamic [first] ≠
          inventoryRoutes names interfaces node.netns right.1.dst.version right.1.table allowDynamic [second]) ∧
      ∀ version table messages, List.Forall₂ RouteEchoed (((node.routes.zip passed).filter fun entry =>
          entry.1.dst.version = version ∧ entry.1.table = table).map Prod.snd) messages →
        inventoryRoutes names interfaces node.netns version table allowDynamic messages =
          .ok (node.routes.filter fun route => route.dst.version = version ∧ route.table = table) := by
  obtain ⟨wellformed, identities⟩ := (accepted.plans compiled).routes_wellformed member
  have distinct : node.routes.Nodup := identities.of_map
  obtain ⟨passed, told, each⟩ := routesArguments_indexed node wellformed indexed exist
  have firsts : (node.routes.zip passed).map Prod.fst = node.routes := List.map_fst_zip each.length_eq.le
  have single {route : RoutePlan} {arguments : List (String × Value)} (listed : route ∈ node.routes)
      (own : RoutePassed names route arguments) (message : Message) (echoed : RouteEchoed arguments message) :
      inventoryRoutes names interfaces node.netns route.dst.version route.table allowDynamic [message] = .ok [route] := by
    have passing : List.Forall₂ (RoutePassed names) [route] [arguments] := .cons own .nil
    refine inventoryRoutes_echoed ?_ (List.nodup_singleton _) passing (.cons echoed .nil) _ _ _
    intro other inside
    rw [List.mem_singleton.mp inside]
    exact ⟨wellformed route listed, rfl, rfl⟩
  refine ⟨passed, told, ?_, ?_, ?_⟩
  · refine List.forall₂_iff_zip.mpr ⟨each.length_eq, fun {route arguments} inside => ?_⟩
    exact single (List.of_mem_zip inside).1 (List.forall₂_zip each inside)
  · have apart : ((node.routes.zip passed).map Prod.fst).Nodup := firsts.symm ▸ distinct
    refine (List.pairwise_map.mp apart).imp_of_mem fun {left right} inLeft inRight other => ?_
    intro first second echoLeft echoRight same
    rw [single (List.of_mem_zip inLeft).1 (List.forall₂_zip each inLeft) first echoLeft,
      single (List.of_mem_zip inRight).1 (List.forall₂_zip each inRight) second echoRight, Except.ok.injEq] at same
    exact other (List.head_eq_of_cons_eq same)
  · intro version table messages reported
    have shape : node.routes.filter (fun route => route.dst.version = version ∧ route.table = table) =
        ((node.routes.zip passed).filter fun entry => entry.1.dst.version = version ∧ entry.1.table = table).map Prod.fst := by
      conv_lhs => rw [← firsts, List.filter_map]
      rfl
    have related : List.Forall₂ (RoutePassed names)
        (((node.routes.zip passed).filter fun entry => entry.1.dst.version = version ∧ entry.1.table = table).map Prod.fst)
        (((node.routes.zip passed).filter fun entry => entry.1.dst.version = version ∧ entry.1.table = table).map Prod.snd) := by
      rw [List.forall₂_map_left_iff, List.forall₂_map_right_iff, List.forall₂_same]
      intro entry inside
      exact List.forall₂_zip each (List.mem_filter.mp inside).1
    refine inventoryRoutes_echoed ?_ (distinct.filter _) (shape ▸ related) reported _ _ _
    intro route inside
    obtain ⟨listed, own⟩ := List.mem_filter.mp inside
    rw [decide_eq_true_eq] at own
    exact ⟨wellformed route listed, own.1, own.2⟩

section Examples

/-- A node with a default route over two links of different weight. -/
def multipathDocument : Document :=
  .dict [("version", .int 1), ("name", .str "lab"), ("topology", .dict [
    ("nodes", .dict [
      ("r", .dict [("kind", .str "linux"), ("routes", .list [.dict [("dst", .str "::/0"), ("nexthops", .list [
        .dict [("via", .str "fd00::2"), ("dev", .str "eth0"), ("weight", .int 256)],
        .dict [("dev", .str "eth1")]])]])]),
      ("s", .dict [("kind", .str "linux")])]),
    ("links", .list [.dict [("endpoints", .list [.str "r:eth0", .str "s:eth0"])],
      .dict [("endpoints", .list [.str "r:eth1", .str "s:eth1"])]])])]

def defaultRoute6 : IPNetwork := ⟨.v6 ⟨0, by decide, none⟩, 0, by decide, by decide⟩

def multipathRoute : RoutePlan where
  dst := defaultRoute6
  via := none
  dev := none
  nexthops := [⟨some (.v6 ⟨0xfd00 * 2 ^ 112 + 2, by decide, none⟩), "eth0", 256⟩, ⟨none, "eth1", 1⟩]

/-- A default route is reported without a destination. -/
def multipathMessage : Message where
  fields := [("family", .int 10), ("dst_len", .int 0), ("src_len", .int 0), ("tos", .int 0), ("table", .int 254),
    ("proto", .int 4), ("scope", .int 0), ("type", .int 1), ("flags", .int 0)]
  attributes := [("RTA_TABLE", .int 254), ("RTA_PRIORITY", .int 1024), ("RTA_MULTIPATH", .list [
    .message [("hops", .int 255), ("oif", .int 2), ("flags", .int 0)] [("RTA_GATEWAY", .text "fd00::2")],
    .message [("hops", .int 0), ("oif", .int 3), ("flags", .int 0)] []]), ("RTA_PREF", .int 0)]

theorem inventoryRoutes_roundTrip_multipath : ∃ manifest plan node, validateManifest multipathDocument = .ok manifest ∧
    compilePlan manifest none = .ok plan ∧ node ∈ plan.nodes.values ∧ node.routes = [multipathRoute] ∧
    inventoryRoutes (Dict.ofEntries [(2, "eth0"), (3, "eth1")]) .empty node.netns 6 mainRouteTable false [multipathMessage] =
      .ok [multipathRoute] := by
  obtain ⟨manifest, plan, read, accepted, compiled, found⟩ := Manifest.compiled_of_test multipathDocument (by decide +kernel)
    (fun plan => plan.nodes.values.any fun node => node.routes = [multipathRoute]) (by decide +kernel)
  obtain ⟨node, member, routes⟩ := List.any_eq_true.mp found
  rw [decide_eq_true_eq] at routes
  have indexed : Indexed (fun _ => none) (Dict.ofEntries [(2, "eth0"), (3, "eth1")])
      (Dict.ofEntries [("eth0", 2), ("eth1", 3)]) := by
    refine ⟨fun name index known => ?_, fun name index looked => by cases looked⟩
    have listed := Dict.mem_of_get?_ofEntries known
    simp only [List.mem_cons, Prod.mk.injEq, List.not_mem_nil, or_false] at listed
    obtain ⟨rfl, rfl⟩ | ⟨rfl, rfl⟩ := listed <;> decide
  obtain ⟨passed, told, each, _⟩ := inventoryRoutes_roundTrip accepted compiled member indexed (by
    rw [routes]
    simp only [List.mem_singleton, forall_eq]
    decide) .empty false
  rw [routes] at told each
  have arguments : routesArguments node (fun _ => none) (Dict.ofEntries [("eth0", 2), ("eth1", 3)]) [multipathRoute] =
      .ok [[("dst", .text "::/0"), ("multipath", .list [
        .message [("oif", .int 2), ("hops", .int 255), ("gateway", .text "fd00::2")] [],
        .message [("oif", .int 3), ("hops", .int 0)] []]), ("family", .int 10)]] := by
    rfl
  rw [arguments, Except.ok.injEq] at told
  subst told
  refine ⟨manifest, plan, node, read, compiled, member, routes, ?_⟩
  cases each with
  | cons first _ =>
    refine first multipathMessage ?_
    have nexthops : MultipathEchoed (.list [
        .message [("oif", .int 2), ("hops", .int 255), ("gateway", .text "fd00::2")] [],
        .message [("oif", .int 3), ("hops", .int 0)] []]) (.list [
        .message [("hops", .int 255), ("oif", .int 2), ("flags", .int 0)] [("RTA_GATEWAY", .text "fd00::2")],
        .message [("hops", .int 0), ("oif", .int 3), ("flags", .int 0)] []]) := by
      refine ⟨[[("oif", .int 2), ("hops", .int 255), ("gateway", .text "fd00::2")], [("oif", .int 3), ("hops", .int 0)]],
        [⟨[("hops", .int 255), ("oif", .int 2), ("flags", .int 0)], [("RTA_GATEWAY", .text "fd00::2")]⟩,
          ⟨[("hops", .int 0), ("oif", .int 3), ("flags", .int 0)], []⟩], rfl, rfl, .cons ?_ (.cons ?_ .nil)⟩
      · refine ⟨rfl, ?_, rfl, by decide, rfl⟩
        simp only [List.mem_cons, List.not_mem_nil, or_false, forall_eq_or_imp, forall_eq]
        exact ⟨rfl, rfl⟩
      · refine ⟨rfl, ?_, rfl, by decide, rfl⟩
        simp only [List.mem_cons, List.not_mem_nil, or_false, forall_eq_or_imp, forall_eq]
        exact ⟨rfl, rfl⟩
    refine ⟨rfl, ?_, rfl, rfl, .inl rfl, ⟨"::", 0, rfl, rfl, .inr ⟨rfl, rfl, rfl⟩⟩, rfl, rfl, .some nexthops, ?_, by decide, ?_⟩
    · simp only [List.mem_cons, List.not_mem_nil, or_false, forall_eq_or_imp, forall_eq]
      exact ⟨rfl, rfl, rfl⟩
    · simp only [addedRouteAttributes, List.mem_cons, List.not_mem_nil, or_false, forall_eq_or_imp, forall_eq]
      exact ⟨.inr ⟨rfl, rfl⟩, .inr ⟨rfl, rfl⟩⟩
    · intro name listed
      have others : ∀ name ∈ reportedRouteAttributes ++ addedRouteAttributes.map Prod.fst,
          name ∉ multipathMessage.fields.map Prod.fst := by decide
      refine List.lookup_eq_none_iff.mpr fun entry inside => ?_
      rw [bne_iff_ne]
      intro same
      exact others name listed (same ▸ List.mem_map_of_mem inside)

end Examples

end Nslab
