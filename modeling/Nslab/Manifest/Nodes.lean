import Nslab.Manifest.Routes

/-! The nodes of a topology: what they share, Linux nodes with their devices and
rules, and bridge nodes. -/

namespace Nslab

open Schema IpAddress

section Bases

structure NodeBase where
  interfaces : Dict String InterfaceConfig := .empty
  routes : List RouteConfig := []
  neighbors : List NeighborConfig := []
  sysctls : Dict String Int := .empty
  routing : Option RoutingConfig := none
deriving DecidableEq

/-- Only an ordinary dict is inspected, key by key. -/
def inspectSysctls : Document → Except Issue Unit
  | .mapping false entries => Checks.each entries fun (key, value) => do
    Checks.raiseIf (key ∉ allowedSysctls) (issue ("unsupported sysctl: " ++ quoted key))
    Checks.raiseIf (value ≠ .int 0 ∧ value ≠ .int 1) (issue ("sysctl " ++ quoted key ++ " must be integer 0 or 1"))
  | _ => .ok ()

def sysctlValue : Codec Int := .between 0 1

instance : sysctlValue.Exact := by unfold sysctlValue; infer_instance

theorem sysctls_pass {sysctls : Dict String Int} (sorted frozen : Bool)
    (values : ∀ value ∈ sysctls.values, sysctlValue.holds value) (allowed : ∀ key ∈ sysctls.keys, key ∈ allowedSysctls) :
    inspectSysctls ((sysctlValue.mapping.dump sysctls).reshape sorted frozen) = .ok () := by
  cases frozen with
  | true => rfl
  | false =>
    simp only [Codec.mapping, Document.reshape, Document.reshapeEntries_eq, inspectSysctls, Checks.each_ok, Checks.bind_ok,
      Checks.raiseIf_ok, Checks.exists_unit, not_not]
    rintro ⟨key, document⟩ member
    have original : (key, document) ∈ (sysctls.entries.map fun entry => (entry.1, sysctlValue.dump entry.2)).map
        fun entry => (entry.1, entry.2.reshape sorted false) := by
      cases sorted
      · exact member
      · exact (Dict.sortEntries_perm _).mem_iff.mp member
    obtain ⟨_, dumped, same⟩ := List.mem_map.mp original
    obtain ⟨⟨name, value⟩, stored, rfl⟩ := List.mem_map.mp dumped
    simp only [Prod.mk.injEq] at same
    obtain ⟨rfl, rfl⟩ := same
    have range := Codec.holds_between.mp (values value (List.mem_map_of_mem stored))
    refine ⟨allowed name (List.mem_map_of_mem stored), ?_⟩
    have cases : value = 0 ∨ value = 1 := by omega
    rcases cases with rfl | rfl
    · exact fun other => other.1 rfl
    · exact fun other => other.2 rfl

theorem sysctls_allowed {document : Document} {sysctls : Dict String Int} (plain : document.plain = true)
    (inspected : inspectSysctls document = .ok ()) (read : sysctlValue.mapping.read document = .ok sysctls) :
    ∀ key ∈ sysctls.keys, key ∈ allowedSysctls := by
  cases document with
  | mapping frozen entries =>
    obtain ⟨rfl, _⟩ := Document.plain_mapping.mp plain
    simp only [inspectSysctls, Checks.each_ok, Checks.bind_ok, Checks.raiseIf_ok, Checks.exists_unit, not_not] at inspected
    simp only [Codec.mapping, Except.map] at read
    split at read
    · simp at read
    next values found =>
      intro key member
      obtain ⟨value, stored⟩ := Dict.mem_keys_iff.mp member
      rw [← Except.ok.inj read] at stored
      have listed := Codec.keys_readEntries found
      have key := List.mem_map_of_mem (f := Prod.fst) (Dict.mem_of_get?_ofEntries stored)
      rw [listed] at key
      obtain ⟨entry, inside, rfl⟩ := List.mem_map.mp key
      exact (inspected entry inside).1
  | _ => simp [Codec.mapping] at read

def sysctlDict : Codec (Dict String Int) :=
  sysctlValue.mapping.guarded inspectSysctls (fun sysctls => ∀ key ∈ sysctls.keys, key ∈ allowedSysctls)
    (fun _ sorted frozen values allowed => sysctls_pass sorted frozen values allowed)
    fun _ _ plain inspected read => sysctls_allowed plain inspected read

def interfaceDict : Codec (Dict String InterfaceConfig) := interfaceConfig.named (requireInterfaceName "interface name")

def neighborList : Codec (List NeighborConfig) :=
  (Codec.listed "neighbors" neighborConfig).validated fun neighbors =>
    Checks.raiseIf (¬ (neighbors.map fun neighbor => (neighbor.dst, neighbor.dev)).Nodup)
      (issue "neighbor destination and interface pairs must be unique")

instance : neighborList.Exact := by unfold neighborList; infer_instance

theorem interfaceDict_empty : interfaceDict.holds .empty :=
  Codec.holds_named.mpr ⟨List.forall_mem_nil _, List.forall_mem_nil _⟩

theorem sysctlDict_empty : sysctlDict.holds .empty := ⟨List.forall_mem_nil _, List.forall_mem_nil _⟩

theorem neighborList_empty : neighborList.holds [] := ⟨List.forall_mem_nil _, by simp⟩

theorem routeList_empty : routeConfig.sequence.holds [] := List.forall_mem_nil _

/-- `normalized_manifest` leaves out the neighbors of a node that has none. -/
def neighborField : Fields (List NeighborConfig) :=
  .optional "neighbors" [] neighborList List.isEmpty (fun neighbors sorted empty => by
    rw [List.isEmpty_iff.mp empty]; rfl) neighborList_empty

instance : interfaceDict.Stable := by unfold interfaceDict; infer_instance

instance : sysctlDict.Stable := by unfold sysctlDict; infer_instance

instance : neighborField.Exact := ⟨neighborList.settle_exact⟩

def nodeBaseFields : Fields NodeBase :=
  (((((Fields.defaulted "interfaces" .empty interfaceDict interfaceDict_empty).and
    (.defaulted "routes" [] routeConfig.sequence routeList_empty)).and neighborField).and
    (.defaulted "sysctls" .empty sysctlDict sysctlDict_empty)).and (.nullable "routing" routingConfig)).iso
    (fun ((((interfaces, routes), neighbors), sysctls), routing) => ⟨interfaces, routes, neighbors, sysctls, routing⟩)
    fun node => ((((node.interfaces, node.routes), node.neighbors), node.sysctls), node.routing)

instance : nodeBaseFields.Stable := by unfold nodeBaseFields; infer_instance

/-- A node with its mappings arranged. -/
def NodeBase.arranged (node : NodeBase) (sort : Bool) : NodeBase :=
  { node with interfaces := node.interfaces.arranged sort, sysctls := node.sysctls.arranged sort }

theorem settle_nodeBase (sorted : Bool) (node : NodeBase) : nodeBaseFields.settle sorted node = node.arranged sorted := by
  have interfaces : interfaceDict.settle sorted node.interfaces = node.interfaces.arranged sorted :=
    Codec.settle_mapping sorted node.interfaces
  have sysctls : sysctlDict.settle sorted node.sysctls = node.sysctls.arranged sorted :=
    Codec.settle_mapping sorted node.sysctls
  have routes : routeConfig.sequence.settle sorted node.routes = node.routes := Codec.settle_exact _ _ _
  have neighbors : neighborList.settle sorted node.neighbors = node.neighbors := Codec.settle_exact _ _ _
  have routing : (Fields.nullable "routing" routingConfig).settle sorted node.routing = node.routing :=
    Fields.settle_exact _ _ _
  calc nodeBaseFields.settle sorted node
      = ⟨interfaceDict.settle sorted node.interfaces, routeConfig.sequence.settle sorted node.routes,
          neighborList.settle sorted node.neighbors, sysctlDict.settle sorted node.sysctls,
          (Fields.nullable "routing" routingConfig).settle sorted node.routing⟩ := rfl
    _ = node.arranged sorted := by rw [interfaces, sysctls, routes, neighbors, routing, NodeBase.arranged]

/-- The routes of a node go to different destinations of their tables, none of them a connected network. -/
def validateRoutesByTable (connected : List (Int × IPNetwork)) (tables : Dict String Int) (seen : List (Int × IPNetwork)) :
    List RouteConfig → Except Issue Unit
  | [] => .ok ()
  | route :: routes => do
    let table ← routeTableOf route tables
    let identity := (table, route.dst)
    Checks.raiseIf (identity ∈ seen) (issue ("duplicate route destination: " ++ quoted (String.ofList route.dst.chars)))
    Checks.raiseIf (identity ∈ connected)
      (issue ("route destination conflicts with connected network: " ++ quoted (String.ofList route.dst.chars)))
    validateRoutesByTable connected tables (identity :: seen) routes

end Bases

namespace LinuxDeviceConfig

/-- What a device has in common with an interface. A VRF has neither addresses nor a hardware address. -/
def interface? : LinuxDeviceConfig → Option InterfaceConfig
  | .vlan device => some device.toInterfaceConfig
  | .vrf _ => none
  | .bond device => some device.toInterfaceConfig
  | .gre device => some device.toInterfaceConfig
  | .ipip device => some device.toInterfaceConfig
  | .vxlan device => some device.toInterfaceConfig
  | .dummy device => some device.toInterfaceConfig
  | .geneve device => some device.toInterfaceConfig
  | .macvlan device => some device.toInterfaceConfig
  | .ipvlan device => some device.toInterfaceConfig

def addresses (device : LinuxDeviceConfig) : List IPInterface := (device.interface?.map (·.addresses)).getD []

def vlan? : LinuxDeviceConfig → Option VlanDeviceConfig
  | .vlan device => some device
  | _ => none

def vrf? : LinuxDeviceConfig → Option VrfDeviceConfig
  | .vrf device => some device
  | _ => none

def bond? : LinuxDeviceConfig → Option BondDeviceConfig
  | .bond device => some device
  | _ => none

def gre? : LinuxDeviceConfig → Option GreDeviceConfig
  | .gre device => some device
  | _ => none

def ipip? : LinuxDeviceConfig → Option IpipDeviceConfig
  | .ipip device => some device
  | _ => none

def vxlan? : LinuxDeviceConfig → Option VxlanDeviceConfig
  | .vxlan device => some device
  | _ => none

def geneve? : LinuxDeviceConfig → Option GeneveDeviceConfig
  | .geneve device => some device
  | _ => none

def macvlan? : LinuxDeviceConfig → Option MacvlanDeviceConfig
  | .macvlan device => some device
  | _ => none

def ipvlan? : LinuxDeviceConfig → Option IpvlanDeviceConfig
  | .ipvlan device => some device
  | _ => none

/-- Tunnels without an Ethernet header and IPVLAN devices have no hardware address of their own. -/
def refusesMac : LinuxDeviceConfig → Bool
  | .gre _ => true
  | .ipip _ => true
  | .ipvlan _ => true
  | _ => false

end LinuxDeviceConfig

structure LinuxNode extends NodeBase where
  devices : Dict String LinuxDeviceConfig := .empty
  rules : List PolicyRuleConfig := []
deriving DecidableEq

namespace LinuxNode

/-- The devices of one type, with their names. -/
def devicesOf {α : Type} (node : LinuxNode) (select : LinuxDeviceConfig → Option α) : List (String × α) :=
  node.devices.entries.filterMap fun entry => (select entry.2).map (entry.1, ·)

def isDevice (node : LinuxNode) (name : String) : Bool := node.devices.contains name

/-- Each interface of a bond, with the bond. -/
def bondMembers (node : LinuxNode) : List (String × String) :=
  (node.devicesOf LinuxDeviceConfig.bond?).flatMap fun (name, bond) => bond.interfaces.map (name, ·)

/-- Each interface of a VRF, with the table of the VRF. -/
def vrfMembers (node : LinuxNode) : List (String × Int) :=
  (node.devicesOf LinuxDeviceConfig.vrf?).flatMap fun (_, vrf) => vrf.interfaces.map (·, vrf.table)

def arrow (name interface : String) : String := quoted name ++ " -> " ++ quoted interface

/-- The parent of a device is no device itself. -/
def requireLinked (node : LinuxNode) (role name link : String) : Except Issue Unit :=
  Checks.raiseIf (node.isDevice link) (issue (role ++ " must be a linked interface: " ++ arrow name link))

def validateBonds (node : LinuxNode) : Except Issue Unit :=
  Checks.sweep node.bondMembers Prod.snd
    (fun (name, interface) => node.requireLinked "bond member" name interface)
    (fun (_, interface) => issue ("interface belongs to more than one bond: " ++ quoted interface))
    fun (_, interface) => Checks.ifSome (node.interfaces.get? interface) fun config =>
      Checks.raiseIf (config.addresses ≠ []) (issue ("bond member interface cannot declare addresses: " ++ quoted interface))

def validateVlans (node : LinuxNode) : Except Issue Unit :=
  Checks.sweep (node.devicesOf LinuxDeviceConfig.vlan?) (fun (_, device) => (device.link, device.id))
    (fun (name, device) => node.requireLinked "VLAN device parent" name device.link)
    (fun (_, device) => issue ("duplicate VLAN ID " ++ toString device.id ++ " on parent interface " ++ quoted device.link))
    fun _ => .ok ()

def validateOverlays (node : LinuxNode) : Except Issue Unit := do
  Checks.sweep (node.devicesOf LinuxDeviceConfig.vxlan?) (fun (_, device) => device.vni)
    (fun (name, device) => node.requireLinked "VXLAN underlay interface" name device.link)
    (fun (_, device) => issue ("duplicate VXLAN VNI: " ++ toString device.vni)) fun _ => .ok ()
  Checks.sweep (node.devicesOf LinuxDeviceConfig.geneve?) (fun (_, device) => device.vni)
    (fun (name, device) => node.requireLinked "Geneve underlay interface" name device.link)
    (fun (_, device) => issue ("duplicate Geneve VNI: " ++ toString device.vni)) fun _ => .ok ()

def validateParents (node : LinuxNode) : Except Issue Unit := do
  Checks.each (node.devicesOf LinuxDeviceConfig.gre?) fun (name, device) =>
    node.requireLinked "GRE underlay interface" name device.link
  Checks.each (node.devicesOf LinuxDeviceConfig.ipip?) fun (name, device) =>
    node.requireLinked "IPIP underlay interface" name device.link
  Checks.each (node.devicesOf LinuxDeviceConfig.macvlan?) fun (name, device) =>
    node.requireLinked "macvlan parent interface" name device.link
  Checks.each (node.devicesOf LinuxDeviceConfig.ipvlan?) fun (name, device) =>
    node.requireLinked "ipvlan parent interface" name device.link

/-- A VRF takes its members, which no other VRF has. -/
def claimMembers (node : LinuxNode) (name : String) (table : Int) (tables : Dict String Int) :
    List String → Except Issue (Dict String Int)
  | [] => .ok tables
  | interface :: interfaces => do
    Checks.raiseIf (((node.devices.get? interface).any fun device => device.vrf?.isSome || device.bond?.isSome) = true)
      (issue ("VRF member must be a linked interface or VLAN device: " ++ arrow name interface))
    Checks.raiseIf (interface ∈ node.bondMembers.map Prod.snd)
      (issue ("bond member interface cannot belong directly to a VRF: " ++ quoted interface))
    Checks.raiseIf (tables.contains interface) (issue ("interface belongs to more than one VRF: " ++ quoted interface))
    node.claimMembers name table (tables.insert interface table) interfaces

/-- The table of each VRF member, where every VRF has a table of its own. -/
def claimTables (node : LinuxNode) (seen : List Int) (tables : Dict String Int) :
    List (String × VrfDeviceConfig) → Except Issue (Dict String Int)
  | [] => .ok tables
  | (name, vrf) :: vrfs => do
    Checks.raiseIf (vrf.table ∈ seen) (issue ("duplicate VRF table: " ++ toString vrf.table))
    let tables ← node.claimMembers name vrf.table tables vrf.interfaces
    node.claimTables (vrf.table :: seen) tables vrfs

/-- The tables of the networks that the addresses of a node connect it to. A bond is in the main table. -/
def connectedNetworks (node : LinuxNode) (tables : Dict String Int) : List (Int × IPNetwork) :=
  let table := fun name => (tables.get? name).getD mainRouteTable
  (node.interfaces.entries.flatMap fun (name, config) => config.addresses.map fun address => (table name, address.network)) ++
    node.devices.entries.flatMap fun (name, device) => device.addresses.map fun address =>
      (if device.bond?.isSome then mainRouteTable else table name, address.network)

/-- A route in a table of its own does not leave through the member of another VRF. -/
def validateRouteTables (node : LinuxNode) (tables : Dict String Int) : Except Issue Unit :=
  Checks.each node.routes fun route => do
    let devices ← routeDevices route
    Checks.each devices fun interface => Checks.ifSome (tables.get? interface) fun expected =>
      Checks.ifSome route.table fun table =>
        Checks.raiseIf (table ≠ expected) (issue ("route table conflicts with VRF member interface " ++ quoted interface ++
          ": expected " ++ toString expected ++ ", got " ++ toString table))
    let _ ← routeTableOf route tables
    pure ()

def validateDevicesAndRoutes (node : LinuxNode) : Except Issue Unit := do
  let collisions := node.interfaces.keys.filter node.isDevice
  Checks.raiseIf (collisions ≠ []) (issue ("device name conflicts with an interface: " ++ quoted (firstSorted collisions)))
  Checks.each node.devices.entries fun (name, device) =>
    Checks.raiseIf (device.refusesMac ∧ (device.interface?.any (·.mac.isSome)) = true)
      (issue ("device type does not support a MAC address: " ++ quoted name))
  node.validateBonds
  node.validateVlans
  node.validateOverlays
  node.validateParents
  let tables ← node.claimTables [] .empty (node.devicesOf LinuxDeviceConfig.vrf?)
  Checks.raiseIf (node.routing.isSome ∧ node.devicesOf LinuxDeviceConfig.vrf? ≠ [])
    (issue "dynamic routing with VRF devices is not supported")
  Checks.raiseIf (node.devicesOf LinuxDeviceConfig.vrf? ≠ [] ∧ (node.rules.any (·.priority = 1000)) = true)
    (issue "policy rule priority 1000 is reserved when VRF devices are present")
  node.validateRouteTables tables
  validateRoutesByTable (node.connectedNetworks tables) tables [] node.routes

/-- The tables that the VRF devices of a node give to their members. -/
def tablesByInterface (node : LinuxNode) : Dict String Int := .ofEntries node.vrfMembers

/-- What the validator establishes of a Linux node. -/
structure Consistent (node : LinuxNode) : Prop where
  apart : ∀ name ∈ node.interfaces.keys, node.isDevice name = false
  macless : ∀ entry ∈ node.devices.entries, entry.2.refusesMac = true → (entry.2.interface?.any (·.mac.isSome)) = false
  bondMembers : ∀ member ∈ node.bondMembers, node.isDevice member.2 = false ∧
    ∀ config, node.interfaces.get? member.2 = some config → config.addresses = []
  bondsApart : (node.bondMembers.map Prod.snd).Nodup
  vlanParents : ∀ entry ∈ node.devicesOf LinuxDeviceConfig.vlan?, node.isDevice entry.2.link = false
  vlanIds : ((node.devicesOf LinuxDeviceConfig.vlan?).map fun entry => (entry.2.link, entry.2.id)).Nodup
  vxlanParents : ∀ entry ∈ node.devicesOf LinuxDeviceConfig.vxlan?, node.isDevice entry.2.link = false
  vxlanVnis : ((node.devicesOf LinuxDeviceConfig.vxlan?).map fun entry => entry.2.vni).Nodup
  geneveParents : ∀ entry ∈ node.devicesOf LinuxDeviceConfig.geneve?, node.isDevice entry.2.link = false
  geneveVnis : ((node.devicesOf LinuxDeviceConfig.geneve?).map fun entry => entry.2.vni).Nodup
  greParents : ∀ entry ∈ node.devicesOf LinuxDeviceConfig.gre?, node.isDevice entry.2.link = false
  ipipParents : ∀ entry ∈ node.devicesOf LinuxDeviceConfig.ipip?, node.isDevice entry.2.link = false
  macvlanParents : ∀ entry ∈ node.devicesOf LinuxDeviceConfig.macvlan?, node.isDevice entry.2.link = false
  ipvlanParents : ∀ entry ∈ node.devicesOf LinuxDeviceConfig.ipvlan?, node.isDevice entry.2.link = false
  vrfTables : ((node.devicesOf LinuxDeviceConfig.vrf?).map fun entry => entry.2.table).Nodup
  vrfMembers : ∀ member ∈ node.vrfMembers,
    ((node.devices.get? member.1).any fun device => device.vrf?.isSome || device.bond?.isSome) = false ∧
      member.1 ∉ node.bondMembers.map Prod.snd
  vrfsApart : (node.vrfMembers.map Prod.fst).Nodup
  static : node.routing.isSome = true → node.devicesOf LinuxDeviceConfig.vrf? = []
  priority : node.devicesOf LinuxDeviceConfig.vrf? ≠ [] → ∀ rule ∈ node.rules, rule.priority ≠ 1000
  routeTables : ∀ route ∈ node.routes, ∃ devices, routeDevices route = .ok devices ∧
    (∀ interface ∈ devices, ∀ expected, node.tablesByInterface.get? interface = some expected →
      ∀ table, route.table = some table → table = expected) ∧ ∃ table, routeTableOf route node.tablesByInterface = .ok table
  routes : validateRoutesByTable (node.connectedNetworks node.tablesByInterface) node.tablesByInterface [] node.routes = .ok ()

theorem claimMembers_ok {node : LinuxNode} {name : String} {table : Int} {tables final : Dict String Int}
    {interfaces : List String} : node.claimMembers name table tables interfaces = .ok final ↔
      (∀ interface ∈ interfaces,
        ((node.devices.get? interface).any fun device => device.vrf?.isSome || device.bond?.isSome) = false ∧
        interface ∉ node.bondMembers.map Prod.snd ∧ interface ∉ tables.keys) ∧
      interfaces.Nodup ∧ final = tables.update (interfaces.map (·, table)) := by
  induction interfaces generalizing tables with
  | nil =>
    constructor
    · intro accepted
      exact ⟨List.forall_mem_nil _, List.nodup_nil, (Except.ok.inj accepted).symm⟩
    · rintro ⟨_, _, rfl⟩
      rfl
  | cons interface interfaces ih =>
    simp only [claimMembers, Checks.bind_ok, Checks.raiseIf_ok, Checks.exists_unit, ih, Bool.not_eq_true, List.mem_cons,
      forall_eq_or_imp, List.nodup_cons, Dict.contains_iff, Bool.not_eq_true]
    have keys : ∀ other, other ∉ (tables.insert interface table).keys ↔ other ≠ interface ∧ other ∉ tables.keys := by
      intro other
      rw [Dict.keys_insert]
      split <;> grind
    have update : (tables.insert interface table).update (interfaces.map (·, table)) =
        tables.update ((interface :: interfaces).map (·, table)) := rfl
    simp only [keys, update]
    constructor
    · rintro ⟨kind, free, fresh, rest, unique, same⟩
      exact ⟨⟨⟨kind, free, fresh⟩, fun other member => ⟨(rest other member).1, (rest other member).2.1,
        (rest other member).2.2.2⟩⟩, ⟨fun member => (rest interface member).2.2.1 rfl, unique⟩, same⟩
    · rintro ⟨⟨⟨kind, free, fresh⟩, rest⟩, ⟨alone, unique⟩, same⟩
      refine ⟨kind, free, fresh, fun other member => ⟨(rest other member).1, (rest other member).2.1, ?_,
        (rest other member).2.2⟩, unique, same⟩
      rintro rfl
      exact alone member

/-- The members of some VRFs with their tables. -/
def membersOf (vrfs : List (String × VrfDeviceConfig)) : List (String × Int) :=
  vrfs.flatMap fun (_, vrf) => vrf.interfaces.map (·, vrf.table)

theorem claimTables_ok {node : LinuxNode} {seen : List Int} {tables final : Dict String Int}
    {vrfs : List (String × VrfDeviceConfig)} : node.claimTables seen tables vrfs = .ok final ↔
      (vrfs.map fun entry => entry.2.table).Nodup ∧ (∀ entry ∈ vrfs, entry.2.table ∉ seen) ∧
      (∀ member ∈ membersOf vrfs,
        ((node.devices.get? member.1).any fun device => device.vrf?.isSome || device.bond?.isSome) = false ∧
        member.1 ∉ node.bondMembers.map Prod.snd ∧ member.1 ∉ tables.keys) ∧
      ((membersOf vrfs).map Prod.fst).Nodup ∧ final = tables.update (membersOf vrfs) := by
  induction vrfs generalizing seen tables with
  | nil =>
    constructor
    · intro accepted
      exact ⟨List.nodup_nil, List.forall_mem_nil _, List.forall_mem_nil _, List.nodup_nil, (Except.ok.inj accepted).symm⟩
    · rintro ⟨_, _, _, _, rfl⟩
      rfl
  | cons entry vrfs ih =>
    obtain ⟨name, vrf⟩ := entry
    have members : membersOf ((name, vrf) :: vrfs) = vrf.interfaces.map (·, vrf.table) ++ membersOf vrfs := rfl
    have names : (vrf.interfaces.map (·, vrf.table)).map Prod.fst = vrf.interfaces := by simp [Function.comp_def]
    have update : ∀ first second : List (String × Int), (tables.update first).update second = tables.update (first ++ second) :=
      fun first second => (List.foldl_append ..).symm
    have keys : ∀ interface, interface ∉ (tables.update (vrf.interfaces.map (·, vrf.table))).keys ↔
        interface ∉ tables.keys ∧ interface ∉ vrf.interfaces := by
      intro interface
      rw [Dict.mem_keys_update, names, not_or]
    simp only [claimTables, Checks.bind_ok, Checks.raiseIf_ok, Checks.exists_unit, claimMembers_ok, ih, members,
      List.map_append, names, List.nodup_append', not_or, List.mem_cons, forall_eq_or_imp,
      List.map_cons, List.nodup_cons, List.mem_append]
    constructor
    · rintro ⟨fresh, middle, ⟨claimed, unique, rfl⟩, tablesUnique, tablesFresh, later, laterUnique, rfl⟩
      simp only [keys] at later
      refine ⟨⟨?_, tablesUnique⟩, ⟨fresh, fun other member => (tablesFresh other member).2⟩, ?_, ⟨unique, laterUnique, ?_⟩,
        update _ _⟩
      · intro member
        obtain ⟨other, inside, same⟩ := List.mem_map.mp member
        exact (tablesFresh other inside).1 same
      · rintro member (first | second)
        · obtain ⟨interface, inside, rfl⟩ := List.mem_map.mp first
          exact claimed interface inside
        · exact ⟨(later member second).1, (later member second).2.1, (later member second).2.2.1⟩
      · intro interface first second
        obtain ⟨member, inside, rfl⟩ := List.mem_map.mp second
        exact (later member inside).2.2.2 first
    · rintro ⟨⟨tableAlone, tablesUnique⟩, ⟨fresh, tablesFresh⟩, all, ⟨unique, laterUnique, disjoint⟩, rfl⟩
      refine ⟨fresh, _, ⟨fun interface inside => all (interface, vrf.table) (.inl (List.mem_map_of_mem inside)), unique, rfl⟩,
        tablesUnique, fun other inside => ⟨fun same => tableAlone (List.mem_map.mpr ⟨other, inside, same⟩),
          tablesFresh other inside⟩, ?_, laterUnique, (update _ _).symm⟩
      intro member inside
      rw [keys]
      have facts := all member (.inr inside)
      exact ⟨facts.1, facts.2.1, facts.2.2, fun first => disjoint first (List.mem_map_of_mem inside)⟩

theorem validateDevicesAndRoutes_ok {node : LinuxNode} :
    node.validateDevicesAndRoutes = .ok () ↔ node.Consistent := by
  have tables : ∀ final, node.claimTables [] .empty (node.devicesOf LinuxDeviceConfig.vrf?) = .ok final ↔
      ((node.devicesOf LinuxDeviceConfig.vrf?).map fun entry => entry.2.table).Nodup ∧
      (∀ member ∈ node.vrfMembers,
        ((node.devices.get? member.1).any fun device => device.vrf?.isSome || device.bond?.isSome) = false ∧
        member.1 ∉ node.bondMembers.map Prod.snd) ∧
      (node.vrfMembers.map Prod.fst).Nodup ∧ final = node.tablesByInterface := by
    intro final
    have members : membersOf (node.devicesOf LinuxDeviceConfig.vrf?) = node.vrfMembers := rfl
    simp [claimTables_ok, members, Dict.keys, Dict.empty, tablesByInterface, Dict.ofEntries]
  simp only [validateDevicesAndRoutes, validateBonds, validateVlans, validateOverlays, validateParents, requireLinked,
    validateRouteTables, Checks.bind_ok, Checks.raiseIf_ok, Checks.exists_unit, Checks.each_ok, Checks.sweep_ok,
    Checks.ifSome_ok, Checks.pure_ok, tables, ne_eq, not_not, and_true, not_and, Bool.not_eq_true,
    List.filter_eq_nil_iff, List.any_eq_false, decide_eq_true_eq]
  constructor
  · rintro ⟨apart, macless, bonds, vlans, ⟨vxlans, geneves⟩, ⟨gres, ipips, macvlans, ipvlans⟩, final,
      ⟨vrfTables, vrfMembers, vrfsApart, rfl⟩, static, priority, routeTables, routes⟩
    exact {
      apart, macless, vrfTables, vrfMembers, vrfsApart, routes, routeTables, priority
      bondMembers := bonds.1, bondsApart := bonds.2, vlanParents := vlans.1, vlanIds := vlans.2
      vxlanParents := vxlans.1, vxlanVnis := vxlans.2, geneveParents := geneves.1, geneveVnis := geneves.2
      greParents := gres, ipipParents := ipips, macvlanParents := macvlans, ipvlanParents := ipvlans
      static := static }
  · intro valid
    exact ⟨valid.apart, valid.macless, ⟨valid.bondMembers, valid.bondsApart⟩, ⟨valid.vlanParents, valid.vlanIds⟩,
      ⟨⟨valid.vxlanParents, valid.vxlanVnis⟩, valid.geneveParents, valid.geneveVnis⟩,
      ⟨valid.greParents, valid.ipipParents, valid.macvlanParents, valid.ipvlanParents⟩, _,
      ⟨valid.vrfTables, valid.vrfMembers, valid.vrfsApart, rfl⟩, valid.static, valid.priority, valid.routeTables,
      valid.routes⟩

/-- The node as it is read back: mappings arranged, LACP options spelled out. -/
def settled (node : LinuxNode) (sort : Bool) : LinuxNode where
  toNodeBase := node.toNodeBase.arranged sort
  devices := (node.devices.map fun _ => LinuxDeviceConfig.normalized).arranged sort
  rules := node.rules

section Settled

variable {node : LinuxNode} {sort : Bool}

@[simp] theorem isDevice_settled (name : String) : (node.settled sort).isDevice name = node.isDevice name := by
  simp [isDevice, settled, Dict.contains]

theorem devices_settled : (node.settled sort).devices.entries.Perm
    (node.devices.entries.map fun entry => (entry.1, entry.2.normalized)) :=
  Dict.arranged_perm _ sort

/-- Selecting devices of one type commutes with arranging them. -/
theorem devicesOf_settled {α : Type} {select : LinuxDeviceConfig → Option α} {change : α → α}
    (selects : ∀ device : LinuxDeviceConfig, select device.normalized = (select device).map change) :
    ((node.settled sort).devicesOf select).Perm ((node.devicesOf select).map fun entry => (entry.1, change entry.2)) := by
  refine (devices_settled.filterMap _).trans (List.Perm.of_eq ?_)
  simp only [devicesOf, List.filterMap_map, List.map_filterMap]
  refine List.filterMap_congr fun entry _ => ?_
  simp only [Function.comp_apply, selects, Option.map_map]
  rfl

/-- Devices other than bonds are read back as they were. -/
theorem devicesOf_settled_same {α : Type} {select : LinuxDeviceConfig → Option α}
    (selects : ∀ device : LinuxDeviceConfig, select device.normalized = select device) :
    ((node.settled sort).devicesOf select).Perm (node.devicesOf select) := by
  have perm : ((node.settled sort).devicesOf select).Perm ((node.devicesOf select).map fun entry => (entry.1, id entry.2)) :=
    devicesOf_settled fun device => by rw [selects, Option.map_id_fun, id]
  simpa using perm

theorem bond?_normalized (device : LinuxDeviceConfig) :
    device.normalized.bond? = device.bond?.map BondDeviceConfig.normalized := by
  cases device <;> rfl

theorem normalized_interfaces (device : BondDeviceConfig) : device.normalized.interfaces = device.interfaces ∧
    device.normalized.toInterfaceConfig = device.toInterfaceConfig := by
  unfold BondDeviceConfig.normalized
  split <;> exact ⟨rfl, rfl⟩

theorem bondMembers_settled : (node.settled sort).bondMembers.Perm node.bondMembers := by
  refine ((devicesOf_settled bond?_normalized).flatMap_right _).trans (List.Perm.of_eq ?_)
  simp [bondMembers, List.flatMap_map, normalized_interfaces]

theorem vrfs_settled : ((node.settled sort).devicesOf LinuxDeviceConfig.vrf?).Perm
    (node.devicesOf LinuxDeviceConfig.vrf?) :=
  devicesOf_settled_same fun device => by cases device <;> rfl

theorem vrfMembers_settled : (node.settled sort).vrfMembers.Perm node.vrfMembers := vrfs_settled.flatMap_right _

theorem tablesByInterface_settled (apart : (node.vrfMembers.map Prod.fst).Nodup) :
    (node.settled sort).tablesByInterface.Same node.tablesByInterface := by
  have settled : ((node.settled sort).vrfMembers.map Prod.fst).Nodup :=
    (vrfMembers_settled.map Prod.fst).nodup_iff.mpr apart
  apply Dict.same_of_perm
  rw [tablesByInterface, tablesByInterface, Dict.entries_ofEntries settled, Dict.entries_ofEntries apart]
  exact vrfMembers_settled

theorem interface?_normalized (device : LinuxDeviceConfig) : device.normalized.interface? = device.interface? := by
  cases device with
  | bond device => simp [LinuxDeviceConfig.normalized, LinuxDeviceConfig.interface?, normalized_interfaces]
  | _ => rfl

theorem connectedNetworks_settled {tables others : Dict String Int} (same : tables.Same others) :
    ((node.settled sort).connectedNetworks tables).Perm (node.connectedNetworks others) := by
  have interfaces := (Dict.arranged_perm node.interfaces sort).flatMap_right fun entry =>
    entry.2.addresses.map fun address => ((others.get? entry.1).getD mainRouteTable, address.network)
  have devices := (devices_settled : List.Perm (node.settled sort).devices.entries _).flatMap_right fun entry =>
    entry.2.addresses.map fun address =>
      (if entry.2.bond?.isSome then mainRouteTable else (others.get? entry.1).getD mainRouteTable, address.network)
  simp only [connectedNetworks, same _]
  refine interfaces.append (devices.trans (List.Perm.of_eq ?_))
  simp [List.flatMap_map, LinuxDeviceConfig.addresses, interface?_normalized, bond?_normalized]

end Settled

end LinuxNode

theorem routeTableOf_same {tables others : Dict String Int} (same : tables.Same others) (route : RouteConfig) :
    routeTableOf route tables = routeTableOf route others := by
  simp only [routeTableOf, same _]

theorem validateRoutesByTable_same {connected networks : List (Int × IPNetwork)} {tables others : Dict String Int}
    (perm : connected.Perm networks) (same : tables.Same others) (seen : List (Int × IPNetwork)) (routes : List RouteConfig) :
    validateRoutesByTable connected tables seen routes = validateRoutesByTable networks others seen routes := by
  induction routes generalizing seen with
  | nil => rfl
  | cons route routes ih => simp only [validateRoutesByTable, routeTableOf_same same, perm.mem_iff, ih]

/-- Consistency does not depend on the order of mappings, nor on spelled-out options. -/
theorem LinuxNode.Consistent.settled {node : LinuxNode} (valid : node.Consistent) (sort : Bool) :
    (node.settled sort).Consistent := by
  have bonds : (node.settled sort).bondMembers.Perm _ := LinuxNode.bondMembers_settled
  have same {α : Type} (select : LinuxDeviceConfig → Option α)
      (selects : ∀ device : LinuxDeviceConfig, select device.normalized = select device) :
      ((node.settled sort).devicesOf select).Perm (node.devicesOf select) := LinuxNode.devicesOf_settled_same selects
  have vlans := same LinuxDeviceConfig.vlan? fun device => by cases device <;> rfl
  have vxlans := same LinuxDeviceConfig.vxlan? fun device => by cases device <;> rfl
  have geneves := same LinuxDeviceConfig.geneve? fun device => by cases device <;> rfl
  have gres := same LinuxDeviceConfig.gre? fun device => by cases device <;> rfl
  have ipips := same LinuxDeviceConfig.ipip? fun device => by cases device <;> rfl
  have macvlans := same LinuxDeviceConfig.macvlan? fun device => by cases device <;> rfl
  have ipvlans := same LinuxDeviceConfig.ipvlan? fun device => by cases device <;> rfl
  have vrfs : List.Perm ((node.settled sort).devicesOf _) _ := LinuxNode.vrfs_settled
  have members : (node.settled sort).vrfMembers.Perm _ := LinuxNode.vrfMembers_settled
  have tables : (node.settled sort).tablesByInterface.Same _ := LinuxNode.tablesByInterface_settled valid.vrfsApart
  have found : ∀ name, (node.settled sort).devices.get? name = (node.devices.get? name).map LinuxDeviceConfig.normalized := by
    intro name
    simp [LinuxNode.settled]
  have kinds : ∀ device : LinuxDeviceConfig, (device.normalized.vrf?.isSome || device.normalized.bond?.isSome) =
      (device.vrf?.isSome || device.bond?.isSome) := by
    intro device
    cases device <;> rfl
  exact {
    apart := fun name member => by
      rw [LinuxNode.isDevice_settled]
      exact valid.apart name (Dict.mem_keys_arranged.mp member)
    macless := fun entry member refuses => by
      obtain ⟨original, inside, rfl⟩ := List.mem_map.mp (LinuxNode.devices_settled.mem_iff.mp member)
      rw [LinuxNode.interface?_normalized]
      refine valid.macless original inside ?_
      cases shape : original.2 <;> simp_all [LinuxDeviceConfig.normalized, LinuxDeviceConfig.refusesMac]
    bondMembers := fun member inside => by
      have facts := valid.bondMembers member (bonds.mem_iff.mp inside)
      rw [LinuxNode.isDevice_settled]
      simpa [LinuxNode.settled, NodeBase.arranged] using facts
    bondsApart := (bonds.map _).nodup_iff.mpr valid.bondsApart
    vlanParents := fun entry inside => by simpa using valid.vlanParents entry (vlans.mem_iff.mp inside)
    vlanIds := (vlans.map _).nodup_iff.mpr valid.vlanIds
    vxlanParents := fun entry inside => by simpa using valid.vxlanParents entry (vxlans.mem_iff.mp inside)
    vxlanVnis := (vxlans.map _).nodup_iff.mpr valid.vxlanVnis
    geneveParents := fun entry inside => by simpa using valid.geneveParents entry (geneves.mem_iff.mp inside)
    geneveVnis := (geneves.map _).nodup_iff.mpr valid.geneveVnis
    greParents := fun entry inside => by simpa using valid.greParents entry (gres.mem_iff.mp inside)
    ipipParents := fun entry inside => by simpa using valid.ipipParents entry (ipips.mem_iff.mp inside)
    macvlanParents := fun entry inside => by simpa using valid.macvlanParents entry (macvlans.mem_iff.mp inside)
    ipvlanParents := fun entry inside => by simpa using valid.ipvlanParents entry (ipvlans.mem_iff.mp inside)
    vrfTables := (vrfs.map _).nodup_iff.mpr valid.vrfTables
    vrfMembers := fun member inside => by
      have facts := valid.vrfMembers member (members.mem_iff.mp inside)
      rw [found, (bonds.map Prod.snd).mem_iff]
      refine ⟨?_, facts.2⟩
      rw [Option.any_map]
      simpa only [Function.comp_def, kinds] using facts.1
    vrfsApart := (members.map _).nodup_iff.mpr valid.vrfsApart
    static := fun dynamic => List.Perm.nil_eq (valid.static dynamic ▸ vrfs.symm) |>.symm
    priority := fun some rule => valid.priority (fun none => some (List.Perm.nil_eq (none ▸ vrfs.symm)).symm) rule
    routeTables := fun route member => by
      obtain ⟨devices, found, expected, table, same⟩ := valid.routeTables route member
      refine ⟨devices, found, fun interface inside given stored => expected interface inside given ?_, table, ?_⟩
      · rwa [← tables interface]
      · rwa [routeTableOf_same tables]
    routes := by
      rw [validateRoutesByTable_same (LinuxNode.connectedNetworks_settled tables) tables]
      exact valid.routes }

section Linux

def requireDeviceName (name : String) : Except Issue Unit := do
  requireInterfaceName "device name" name
  Checks.raiseIf (name = "lo") (issue "device name cannot be 'lo'")

def linuxDeviceDict : Codec (Dict String LinuxDeviceConfig) := linuxDevice.named requireDeviceName

/-- Priorities are distinct within a family, and a rule only jumps forward. -/
def validateRulePriorities (rules : List PolicyRuleConfig) : Except Issue Unit := do
  Checks.distinct rules (fun rule => (rule.ipVersion, rule.priority)) fun rule =>
    issue ("duplicate policy rule priority for IPv" ++ toString rule.ipVersion ++ ": " ++ toString rule.priority)
  Checks.each rules fun rule => if rule.action = .goto then
      match rule.goto with
      | none => refuse "AssertionError"
      | some target => Checks.raiseIf (target ≤ rule.priority) (issue "policy rule goto must target a greater priority")
    else .ok ()

def ruleList : Codec (List PolicyRuleConfig) := (Codec.listed "policy rules" policyRule).validated validateRulePriorities

instance : ruleList.Exact := by unfold ruleList; infer_instance

theorem linuxDeviceDict_empty : linuxDeviceDict.holds .empty :=
  Codec.holds_named.mpr ⟨List.forall_mem_nil _, List.forall_mem_nil _⟩

theorem ruleList_empty : ruleList.holds [] := ⟨List.forall_mem_nil _, rfl⟩

theorem isEmpty_settled {α : Type} {codec : Codec α} {check : String → Except Issue Unit} (dict : Dict String α)
    (sorted : Bool) (empty : dict.isEmpty = true) : Dict.empty = (codec.named check).settle sorted dict := by
  have none : dict = .empty := Dict.ext (List.isEmpty_iff.mp empty)
  rw [none]
  cases sorted <;> rfl

theorem isEmpty_settle {α : Type} {codec : Codec α} {check : String → Except Issue Unit} (sorted : Bool) (dict : Dict String α) :
    ((codec.named check).settle sorted dict).isEmpty = dict.isEmpty := by
  rw [Codec.settle_named, Dict.isEmpty_arranged, Dict.isEmpty_map]

/-- `normalized_manifest` leaves out the devices of a node that has none. -/
def linuxDeviceField : Fields (Dict String LinuxDeviceConfig) :=
  .optional "devices" .empty linuxDeviceDict Dict.isEmpty isEmpty_settled linuxDeviceDict_empty

/-- `normalized_manifest` leaves out the rules of a node that has none. -/
def ruleField : Fields (List PolicyRuleConfig) :=
  .optional "rules" [] ruleList List.isEmpty (fun rules sorted empty => by rw [List.isEmpty_iff.mp empty]; rfl)
    ruleList_empty

instance : linuxDeviceDict.Stable := by unfold linuxDeviceDict; infer_instance

instance : linuxDeviceField.Stable := Fields.stable_optional isEmpty_settle

instance : ruleField.Exact := ⟨ruleList.settle_exact⟩

def linuxNodeFields : Fields LinuxNode :=
  ((nodeBaseFields.and linuxDeviceField).and ruleField).iso (fun ((base, devices), rules) => ⟨base, devices, rules⟩)
    fun node => ((node.toNodeBase, node.devices), node.rules)

instance : linuxNodeFields.Stable := by unfold linuxNodeFields; infer_instance

theorem settle_linuxNode (sorted : Bool) (node : LinuxNode) : linuxNodeFields.settle sorted node = node.settled sorted := by
  have devices : linuxDeviceDict.settle sorted node.devices =
      (node.devices.map fun _ => LinuxDeviceConfig.normalized).arranged sorted := by
    rw [linuxDeviceDict, Codec.settle_named, funext (settle_linuxDevice sorted)]
  have rules : ruleList.settle sorted node.rules = node.rules := Codec.settle_exact _ _ _
  calc linuxNodeFields.settle sorted node
      = ⟨nodeBaseFields.settle sorted node.toNodeBase, linuxDeviceDict.settle sorted node.devices,
          ruleList.settle sorted node.rules⟩ := rfl
    _ = node.settled sorted := by rw [settle_nodeBase, devices, rules, LinuxNode.settled]

def linuxNode : Variants "kind" LinuxNode :=
  (Variants.single "linux" linuxNodeFields).checked LinuxNode.validateDevicesAndRoutes fun sorted node _ valid => by
    have settle : (Variants.single "linux" linuxNodeFields : Variants "kind" LinuxNode).codec.settle sorted node =
        node.settled sorted := settle_linuxNode sorted node
    rw [settle, LinuxNode.validateDevicesAndRoutes_ok]
    exact (LinuxNode.validateDevicesAndRoutes_ok.mp valid).settled sorted

instance : linuxNode.codec.Stable := by unfold linuxNode; infer_instance

end Linux

section Bridges

structure BridgeVlanConfig where
  vid : Int
  pvid : Bool := false
  untagged : Bool := false
deriving DecidableEq

def bridgeVlanId : Codec Int := .between 1 4094

instance : bridgeVlanId.Exact := by unfold bridgeVlanId; infer_instance

def bridgeVlan : Codec BridgeVlanConfig :=
  (((Fields.required "vid" bridgeVlanId).and (.defaulted "pvid" false .strictBool (Codec.holds_strictBool false))).and
    (.defaulted "untagged" false .strictBool (Codec.holds_strictBool false))).iso
    (fun ((vid, pvid), untagged) => ⟨vid, pvid, untagged⟩) (fun vlan => ((vlan.vid, vlan.pvid), vlan.untagged)) |>.object

instance : bridgeVlan.Exact := by unfold bridgeVlan; infer_instance

structure BridgePortConfig where
  pathCost : Option Int := none
  priority : Option Int := none
  hairpin : Option Bool := none
  isolated : Option Bool := none
  learning : Option Bool := none
  flood : Option Bool := none
  multicastFlood : Option Bool := none
  vlans : List BridgeVlanConfig := []
deriving DecidableEq

def bridgePathCost : Codec Int := .between 1 65535

def bridgePortPriority : Codec Int := .between 0 63

instance : bridgePathCost.Exact := by unfold bridgePathCost; infer_instance

instance : bridgePortPriority.Exact := by unfold bridgePortPriority; infer_instance

def bridgeVlans : Codec (List BridgeVlanConfig) :=
  bridgeVlan.sequence.validated fun vlans => do
    Checks.distinct vlans (·.vid) fun vlan => issue ("duplicate bridge VLAN: " ++ toString vlan.vid)
    Checks.raiseIf (1 < vlans.countP (·.pvid)) (issue "bridge port may declare at most one PVID")

instance : bridgeVlans.Exact := by unfold bridgeVlans; infer_instance

theorem bridgeVlans_empty : bridgeVlans.holds [] := ⟨List.forall_mem_nil _, rfl⟩

/-- `normalized_manifest` leaves out the VLANs of a port that has none. -/
def bridgeVlanField : Fields (List BridgeVlanConfig) :=
  .optional "vlans" [] bridgeVlans List.isEmpty (fun vlans sorted empty => by rw [List.isEmpty_iff.mp empty]; rfl)
    bridgeVlans_empty

instance : bridgeVlanField.Exact := ⟨bridgeVlans.settle_exact⟩

def BridgePortConfig.validateNonemptySettings (port : BridgePortConfig) : Except Issue Unit :=
  Checks.raiseIf (port.pathCost = none ∧ port.priority = none ∧ port.hairpin = none ∧ port.isolated = none ∧
    port.learning = none ∧ port.flood = none ∧ port.multicastFlood = none ∧ port.vlans = [])
    (issue "bridge port settings must declare at least one setting")

def bridgePortFields : Fields BridgePortConfig :=
  ((((((((Fields.nullable "path_cost" bridgePathCost).and (.nullable "priority" bridgePortPriority)).and
    (.nullable "hairpin" .strictBool)).and (.nullable "isolated" .strictBool)).and
    (.nullable "learning" .strictBool)).and (.nullable "flood" .strictBool)).and
    (.nullable "multicast_flood" .strictBool)).and bridgeVlanField).iso
    (fun (((((((cost, priority), hairpin), isolated), learning), flood), multicast), vlans) =>
      ⟨cost, priority, hairpin, isolated, learning, flood, multicast, vlans⟩)
    fun port => (((((((port.pathCost, port.priority), port.hairpin), port.isolated), port.learning), port.flood),
      port.multicastFlood), port.vlans)

instance : bridgePortFields.Exact := by unfold bridgePortFields; infer_instance

def bridgePort : Codec BridgePortConfig :=
  bridgePortFields.object.validated BridgePortConfig.validateNonemptySettings

instance : bridgePort.Exact := by unfold bridgePort; infer_instance

structure BridgeConfig where
  name : String
  stp : Bool
  vlanFiltering : Bool
  priority : Option Int := none
  ports : Dict String BridgePortConfig := .empty
deriving DecidableEq

def requirePortName (name : String) : Except Issue Unit := do
  requireInterfaceName "bridge port interface name" name
  Checks.raiseIf (name = "lo") (issue "bridge port interface name cannot be 'lo'")

def bridgePortDict : Codec (Dict String BridgePortConfig) := bridgePort.named requirePortName

theorem bridgePortDict_empty : bridgePortDict.holds .empty :=
  Codec.holds_named.mpr ⟨List.forall_mem_nil _, List.forall_mem_nil _⟩

/-- `normalized_manifest` leaves out the ports of a bridge that has none. -/
def bridgePortField : Fields (Dict String BridgePortConfig) :=
  .optional "ports" .empty bridgePortDict Dict.isEmpty isEmpty_settled bridgePortDict_empty

instance : bridgePortDict.Stable := by unfold bridgePortDict; infer_instance

instance : bridgePortField.Stable := Fields.stable_optional isEmpty_settle

def bridgeFields : Fields BridgeConfig :=
  (((((Fields.required "name" (linkName "bridge interface name" "bridge interface name")).and
    (.required "stp" .strictBool)).and (.required "vlan_filtering" .strictBool)).and
    (.nullable "priority" (.between 0 65535))).and bridgePortField).iso
    (fun ((((name, stp), filtering), priority), ports) => ⟨name, stp, filtering, priority, ports⟩)
    fun bridge => ((((bridge.name, bridge.stp), bridge.vlanFiltering), bridge.priority), bridge.ports)

instance : bridgeFields.Stable := by unfold bridgeFields; infer_instance

def BridgeConfig.arranged (bridge : BridgeConfig) (sort : Bool) : BridgeConfig :=
  { bridge with ports := bridge.ports.arranged sort }

theorem settle_bridge (sorted : Bool) (bridge : BridgeConfig) : bridgeFields.settle sorted bridge = bridge.arranged sorted := by
  have ports : bridgePortDict.settle sorted bridge.ports = bridge.ports.arranged sorted :=
    Codec.settle_mapping sorted bridge.ports
  have priority : (Fields.nullable "priority" (.between 0 65535)).settle sorted bridge.priority = bridge.priority :=
    Fields.settle_exact _ _ _
  calc bridgeFields.settle sorted bridge
      = ⟨bridge.name, bridge.stp, bridge.vlanFiltering,
          (Fields.nullable "priority" (.between 0 65535)).settle sorted bridge.priority,
          bridgePortDict.settle sorted bridge.ports⟩ := rfl
    _ = bridge.arranged sorted := by rw [ports, priority, BridgeConfig.arranged]

def BridgeConfig.validatePortSettings (bridge : BridgeConfig) : Except Issue Unit := do
  Checks.raiseIf (bridge.stp = false ∧ ∃ port ∈ bridge.ports.values, port.pathCost.isSome ∨ port.priority.isSome)
    (issue "bridge port STP settings require stp: true")
  Checks.raiseIf (bridge.vlanFiltering = false ∧ ∃ port ∈ bridge.ports.values, port.vlans ≠ [])
    (issue "bridge port VLAN settings require vlan_filtering: true")

def bridgeConfig : Codec BridgeConfig :=
  bridgeFields.object.checked BridgeConfig.validatePortSettings fun sorted bridge _ valid => by
    have settle : bridgeFields.object.settle sorted bridge = bridge.arranged sorted := settle_bridge sorted bridge
    rw [settle]
    simpa [BridgeConfig.validatePortSettings, BridgeConfig.arranged, Dict.mem_values_arranged] using valid

instance : bridgeConfig.Stable := by unfold bridgeConfig; infer_instance

structure BridgeNode extends NodeBase where
  devices : Dict String BridgeDeviceConfig := .empty
  bridge : BridgeConfig
deriving DecidableEq

namespace BridgeDeviceConfig

def interface : BridgeDeviceConfig → InterfaceConfig
  | .vxlan device => device.toInterfaceConfig
  | .geneve device => device.toInterfaceConfig

/-- `device.type.upper()`. -/
def protocol : BridgeDeviceConfig → String
  | .vxlan _ => "VXLAN"
  | .geneve _ => "GENEVE"

def link : BridgeDeviceConfig → String
  | .vxlan device => device.link
  | .geneve device => device.link

def mtu : BridgeDeviceConfig → Option Int
  | .vxlan device => device.mtu
  | .geneve device => device.mtu

def vxlan? : BridgeDeviceConfig → Option VxlanDeviceConfig
  | .vxlan device => some device
  | .geneve _ => none

def geneve? : BridgeDeviceConfig → Option GeneveDeviceConfig
  | .vxlan _ => none
  | .geneve device => some device

end BridgeDeviceConfig

namespace BridgeNode

def isDevice (node : BridgeNode) (name : String) : Bool := node.devices.contains name

/-- Overlay devices of a bridge have no addresses, and distinct VNIs within their type. -/
def validateOverlays (vxlans geneves : List Int) : List (String × BridgeDeviceConfig) → Except Issue Unit
  | [] => .ok ()
  | (name, device) :: rest => do
    Checks.raiseIf (device.interface.addresses ≠ [])
      (issue ("bridge " ++ device.protocol ++ " device cannot declare addresses: " ++ quoted name))
    match device with
    | .vxlan device => do
      Checks.raiseIf (device.vni ∈ vxlans) (issue ("duplicate VXLAN VNI: " ++ toString device.vni))
      validateOverlays (device.vni :: vxlans) geneves rest
    | .geneve device => do
      Checks.raiseIf (device.vni ∈ geneves) (issue ("duplicate Geneve VNI: " ++ toString device.vni))
      validateOverlays vxlans (device.vni :: geneves) rest

def connectedNetworks (node : BridgeNode) : List (Int × IPNetwork) :=
  node.interfaces.values.flatMap fun config => config.addresses.map fun address => (mainRouteTable, address.network)

def validateRoutes (node : BridgeNode) : Except Issue Unit := do
  let collisions := node.interfaces.keys.filter node.isDevice
  Checks.raiseIf (collisions ≠ []) (issue ("device name conflicts with an interface: " ++ quoted (firstSorted collisions)))
  Checks.raiseIf (node.isDevice node.bridge.name)
    (issue ("device name conflicts with the bridge interface: " ++ quoted node.bridge.name))
  validateOverlays [] [] node.devices.entries
  validateRoutesByTable node.connectedNetworks .empty [] node.routes

def devicesOf {α : Type} (node : BridgeNode) (select : BridgeDeviceConfig → Option α) : List α :=
  node.devices.values.filterMap select

/-- What the validator establishes of a bridge node. -/
structure Consistent (node : BridgeNode) : Prop where
  apart : ∀ name ∈ node.interfaces.keys, node.isDevice name = false
  bridge : node.isDevice node.bridge.name = false
  addressless : ∀ device ∈ node.devices.values, device.interface.addresses = []
  vxlanVnis : ((node.devicesOf BridgeDeviceConfig.vxlan?).map (·.vni)).Nodup
  geneveVnis : ((node.devicesOf BridgeDeviceConfig.geneve?).map (·.vni)).Nodup
  routes : validateRoutesByTable node.connectedNetworks .empty [] node.routes = .ok ()

theorem validateOverlays_ok {vxlans geneves : List Int} {devices : List (String × BridgeDeviceConfig)} :
    validateOverlays vxlans geneves devices = .ok () ↔
      (∀ entry ∈ devices, entry.2.interface.addresses = []) ∧
      (((devices.map Prod.snd).filterMap BridgeDeviceConfig.vxlan?).map (·.vni)).Nodup ∧
      (∀ device ∈ (devices.map Prod.snd).filterMap BridgeDeviceConfig.vxlan?, device.vni ∉ vxlans) ∧
      (((devices.map Prod.snd).filterMap BridgeDeviceConfig.geneve?).map (·.vni)).Nodup ∧
      ∀ device ∈ (devices.map Prod.snd).filterMap BridgeDeviceConfig.geneve?, device.vni ∉ geneves := by
  induction devices generalizing vxlans geneves with
  | nil => simp [validateOverlays]
  | cons entry rest ih =>
    obtain ⟨name, device | device⟩ := entry
    · simp only [validateOverlays, Checks.bind_ok, Checks.raiseIf_ok, Checks.exists_unit, ih]
      simp only [List.map_cons, List.filterMap_cons, BridgeDeviceConfig.vxlan?, BridgeDeviceConfig.geneve?,
        List.nodup_cons, List.mem_cons, forall_eq_or_imp, not_or, List.mem_map, not_exists, not_and, imp_and, forall_and]
      tauto
    · simp only [validateOverlays, Checks.bind_ok, Checks.raiseIf_ok, Checks.exists_unit, ih]
      simp only [List.map_cons, List.filterMap_cons, BridgeDeviceConfig.vxlan?, BridgeDeviceConfig.geneve?,
        List.nodup_cons, List.mem_cons, forall_eq_or_imp, not_or, List.mem_map, not_exists, not_and, imp_and, forall_and]
      tauto

theorem validateRoutes_ok {node : BridgeNode} : node.validateRoutes = .ok () ↔ node.Consistent := by
  simp only [validateRoutes, Checks.bind_ok, Checks.raiseIf_ok, Checks.exists_unit, validateOverlays_ok, ne_eq, not_not,
    List.filter_eq_nil_iff, Bool.not_eq_true]
  constructor
  · rintro ⟨apart, bridge, ⟨addressless, vxlans, _, geneves, _⟩, routes⟩
    exact ⟨apart, bridge, fun device member => by
      obtain ⟨entry, inside, rfl⟩ := List.mem_map.mp member
      exact addressless entry inside, vxlans, geneves, routes⟩
  · intro valid
    exact ⟨valid.apart, valid.bridge, ⟨fun entry member => valid.addressless _ (List.mem_map_of_mem member), valid.vxlanVnis,
      by simp, valid.geneveVnis, by simp⟩, valid.routes⟩

/-- The node as it is read back, its mappings arranged. -/
def settled (node : BridgeNode) (sort : Bool) : BridgeNode where
  toNodeBase := node.toNodeBase.arranged sort
  devices := node.devices.arranged sort
  bridge := node.bridge.arranged sort

theorem Consistent.settled {node : BridgeNode} (valid : node.Consistent) (sort : Bool) : (node.settled sort).Consistent := by
  have device : ∀ name, (node.settled sort).isDevice name = node.isDevice name := by
    intro name
    simp [isDevice, BridgeNode.settled, Dict.contains]
  have values : (node.settled sort).devices.values.Perm node.devices.values :=
    (Dict.arranged_perm node.devices sort).map Prod.snd
  have networks : (node.settled sort).connectedNetworks.Perm node.connectedNetworks :=
    ((Dict.arranged_perm node.interfaces sort).map Prod.snd).flatMap_right _
  exact {
    apart := fun name member => by
      rw [device]
      exact valid.apart name (Dict.mem_keys_arranged.mp member)
    bridge := (device _).trans valid.bridge
    addressless := fun entry member => valid.addressless entry (values.mem_iff.mp member)
    vxlanVnis := ((values.filterMap _).map _).nodup_iff.mpr valid.vxlanVnis
    geneveVnis := ((values.filterMap _).map _).nodup_iff.mpr valid.geneveVnis
    routes := by
      rw [validateRoutesByTable_same networks (Dict.Same.refl _)]
      exact valid.routes }

end BridgeNode

def bridgeDeviceDict : Codec (Dict String BridgeDeviceConfig) := bridgeDevice.named requireDeviceName

theorem bridgeDeviceDict_empty : bridgeDeviceDict.holds .empty :=
  Codec.holds_named.mpr ⟨List.forall_mem_nil _, List.forall_mem_nil _⟩

/-- `normalized_manifest` leaves out the devices of a node that has none. -/
def bridgeDeviceField : Fields (Dict String BridgeDeviceConfig) :=
  .optional "devices" .empty bridgeDeviceDict Dict.isEmpty isEmpty_settled bridgeDeviceDict_empty

instance : bridgeDeviceDict.Stable := by unfold bridgeDeviceDict; infer_instance

instance : bridgeDeviceField.Stable := Fields.stable_optional isEmpty_settle

def bridgeNodeFields : Fields BridgeNode :=
  ((nodeBaseFields.and bridgeDeviceField).and (.required "bridge" bridgeConfig)).iso
    (fun ((base, devices), bridge) => ⟨base, devices, bridge⟩) fun node => ((node.toNodeBase, node.devices), node.bridge)

instance : bridgeNodeFields.Stable := by unfold bridgeNodeFields; infer_instance

theorem settle_bridgeNode (sorted : Bool) (node : BridgeNode) :
    bridgeNodeFields.settle sorted node = node.settled sorted := by
  have devices : bridgeDeviceDict.settle sorted node.devices = node.devices.arranged sorted :=
    Codec.settle_mapping sorted node.devices
  calc bridgeNodeFields.settle sorted node
      = ⟨nodeBaseFields.settle sorted node.toNodeBase, bridgeDeviceDict.settle sorted node.devices,
          bridgeFields.settle sorted node.bridge⟩ := rfl
    _ = node.settled sorted := by rw [settle_nodeBase, devices, settle_bridge, BridgeNode.settled]

def bridgeNode : Variants "kind" BridgeNode :=
  (Variants.single "bridge" bridgeNodeFields).checked BridgeNode.validateRoutes fun sorted node _ valid => by
    have settle : (Variants.single "bridge" bridgeNodeFields : Variants "kind" BridgeNode).codec.settle sorted node =
        node.settled sorted := settle_bridgeNode sorted node
    rw [settle, BridgeNode.validateRoutes_ok]
    exact (BridgeNode.validateRoutes_ok.mp valid).settled sorted

instance : bridgeNode.codec.Stable := by unfold bridgeNode; infer_instance

end Bridges

section Union

inductive NodeConfig where
  | linux (node : LinuxNode)
  | bridge (node : BridgeNode)
deriving DecidableEq

def NodeConfig.toNodeBase : NodeConfig → NodeBase
  | .linux node => node.toNodeBase
  | .bridge node => node.toNodeBase

def NodeConfig.settled (node : NodeConfig) (sort : Bool) : NodeConfig :=
  match node with
  | .linux node => .linux (node.settled sort)
  | .bridge node => .bridge (node.settled sort)

def nodeConfig : Codec NodeConfig :=
  ((linuxNode.or bridgeNode).iso (Sum.elim .linux .bridge)
    (fun node => match node with
      | .linux node => .inl node
      | .bridge node => .inr node)
    (by rintro (node | node) <;> rfl)).union

instance : nodeConfig.Stable := by unfold nodeConfig; infer_instance

theorem settle_nodeConfig (sorted : Bool) (node : NodeConfig) : nodeConfig.settle sorted node = node.settled sorted := by
  cases node with
  | linux node => exact congrArg NodeConfig.linux (settle_linuxNode sorted node)
  | bridge node => exact congrArg NodeConfig.bridge (settle_bridgeNode sorted node)

end Union

end Nslab
