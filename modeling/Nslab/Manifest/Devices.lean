import Nslab.Manifest.Values

/-! Interfaces and the virtual devices of a node, as manifests declare them. -/

namespace Nslab

open Schema IpAddress

section Interfaces

structure InterfaceConfig where
  addresses : List IPInterface := []
  mac : Option MacAddress := none
deriving DecidableEq

/-- Addresses are given as texts. -/
def addressInputs : Document → Except Issue Unit
  | .sequence _ items => Checks.each items fun item => match item with
    | .str _ => .ok ()
    | _ => refuse "interface addresses must be IPv4 or IPv6 strings"
  | _ => refuse "interface addresses must be a list or tuple"

def addressListText : Codec (List IPInterface) :=
  (interfaceText "interface addresses must be IPv4 or IPv6 strings").sequence

theorem addressInputs_dump (addresses : List IPInterface) (sorted frozen : Bool) :
    addressInputs ((addressListText.dump addresses).reshape sorted frozen) = .ok () := by
  simp only [addressListText, Codec.sequence, Document.reshape, Document.reshapeItems_eq, addressInputs, Checks.each_ok,
    List.mem_map]
  rintro _ ⟨_, ⟨address, _, rfl⟩, rfl⟩
  rfl

instance : addressListText.Exact := by unfold addressListText; infer_instance

def validateUniqueAddresses (addresses : List IPInterface) : Except Issue Unit :=
  Checks.distinct addresses id fun address =>
    issue ("duplicate interface address: " ++ quoted (String.ofList address.chars))

def addressList : Codec (List IPInterface) :=
  (addressListText.before addressInputs fun addresses sorted frozen _ =>
    addressInputs_dump addresses sorted frozen).validated validateUniqueAddresses

instance : addressList.Exact := by unfold addressList; infer_instance

theorem addressList_empty : addressList.holds [] := ⟨List.forall_mem_nil _, rfl⟩

/-- The addresses of a device, restricted further by its type. -/
def interfaceFieldsWith (addresses : Codec (List IPInterface)) (empty : addresses.holds []) : Fields InterfaceConfig :=
  ((Fields.defaulted "addresses" [] addresses empty).and (.nullable "mac" (macAddress "interface MAC address"))
    (by simp [Fields.defaulted, Fields.optional, Fields.nullable])).iso
    (fun (addresses, mac) => ⟨addresses, mac⟩) fun config => (config.addresses, config.mac)

instance {addresses : Codec (List IPInterface)} {empty} [addresses.Exact] :
    (interfaceFieldsWith addresses empty).Exact := by
  unfold interfaceFieldsWith; infer_instance

def interfaceFields : Fields InterfaceConfig := interfaceFieldsWith addressList addressList_empty

instance : interfaceFields.Exact := by unfold interfaceFields; infer_instance

def interfaceConfig : Codec InterfaceConfig := interfaceFields.object

instance : interfaceConfig.Exact := by unfold interfaceConfig; infer_instance

end Interfaces

section Endpoints

def deviceMtu : Codec Int := .between 576 9216

instance : deviceMtu.Exact := by unfold deviceMtu; infer_instance

def routeTableId : Codec Int := .between 1 4294967295

instance : routeTableId.Exact := by unfold routeTableId; infer_instance

def unicastAddress (input message : String) : Codec IPAddress :=
  (addressText input).validated fun address =>
    Checks.raiseIf (address.isUnspecified || address.isMulticast) (issue message)

def unicastAddress4 (input message : String) : Codec IPv4Address :=
  (address4Text input).validated fun address =>
    Checks.raiseIf (address.isUnspecified || address.isMulticast) (issue message)

instance {input message : String} : (unicastAddress input message).Exact := by unfold unicastAddress; infer_instance

instance {input message : String} : (unicastAddress4 input message).Exact := by unfold unicastAddress4; infer_instance

end Endpoints

structure VlanDeviceConfig extends InterfaceConfig where
  link : String
  id : Int
deriving DecidableEq

def vlanDevice : Variants "type" VlanDeviceConfig :=
  .single "vlan" <| ((interfaceFields.and
    (.required "link" (linkName "VLAN parent interface name" "VLAN parent interface"))).and
    (.required "id" (.between 1 4094))).iso
    (fun ((base, link), id) => ⟨base, link, id⟩) fun device => ((device.toInterfaceConfig, device.link), device.id)

instance : vlanDevice.codec.Exact := by unfold vlanDevice; infer_instance

structure VrfDeviceConfig where
  table : Int
  interfaces : List String
deriving DecidableEq

def vrfTable : Codec Int :=
  routeTableId.validated fun table =>
    Checks.raiseIf (table ∈ reservedVrfTables) (issue ("VRF table cannot use reserved table: " ++ toString table))

instance : vrfTable.Exact := by unfold vrfTable; infer_instance

def vrfDevice : Variants "type" VrfDeviceConfig :=
  .single "vrf" <| ((Fields.required "table" vrfTable).and
    (.required "interfaces" (memberNames "VRF" 1))).iso
    (fun (table, interfaces) => ⟨table, interfaces⟩) fun device => (device.table, device.interfaces)

instance : vrfDevice.codec.Exact := by unfold vrfDevice; infer_instance

section Bond

inductive BondMode where
  | activeBackup
  | lacp
deriving DecidableEq

def BondMode.name : BondMode → String
  | .activeBackup => "active-backup"
  | .lacp => "802.3ad"

inductive LacpRate where
  | slow
  | fast
deriving DecidableEq

def LacpRate.name : LacpRate → String
  | .slow => "slow"
  | .fast => "fast"

inductive XmitHashPolicy where
  | layer2
  | layer2And3
  | layer3And4
deriving DecidableEq

def XmitHashPolicy.name : XmitHashPolicy → String
  | .layer2 => "layer2"
  | .layer2And3 => "layer2+3"
  | .layer3And4 => "layer3+4"

structure BondDeviceConfig extends InterfaceConfig where
  mode : BondMode
  interfaces : List String
  miimonMs : Int := 100
  primary : Option String := none
  lacpRate : Option LacpRate := none
  xmitHashPolicy : Option XmitHashPolicy := none
  minLinks : Option Int := none
deriving DecidableEq

def bondMode : Codec BondMode :=
  .choice BondMode.name [.activeBackup, .lacp] "Input should be 'active-backup' or '802.3ad'" fun mode => by
    cases mode <;> decide

def lacpRate : Codec LacpRate :=
  .choice LacpRate.name [.slow, .fast] "Input should be 'slow' or 'fast'" fun rate => by cases rate <;> decide

def xmitHashPolicy : Codec XmitHashPolicy :=
  .choice XmitHashPolicy.name [.layer2, .layer2And3, .layer3And4] "Input should be 'layer2', 'layer2+3' or 'layer3+4'"
    fun policy => by cases policy <;> decide

instance : bondMode.Exact := by unfold bondMode; infer_instance

instance : lacpRate.Exact := by unfold lacpRate; infer_instance

instance : xmitHashPolicy.Exact := by unfold xmitHashPolicy; infer_instance

def bondMiimonMs : Codec Int := .between 0 60000

instance : bondMiimonMs.Exact := by unfold bondMiimonMs; infer_instance

theorem bondMiimon_default : bondMiimonMs.holds 100 := Codec.holds_between.mpr (by decide)

def bondFields : Fields BondDeviceConfig :=
  ((((((((interfaceFields.and (.required "mode" bondMode)).and
    (.required "interfaces" (memberNames "bond" 2))).and
    (.defaulted "miimon_ms" 100 bondMiimonMs bondMiimon_default)).and
    (.nullable "primary" (linkName "bond primary interface name" "bond primary interface"))).and
    (.nullable "lacp_rate" lacpRate)).and
    (.nullable "xmit_hash_policy" xmitHashPolicy)).and
    (.nullable "min_links" (.between 0 65535)))).iso
    (fun (((((((base, mode), interfaces), miimon), primary), rate), policy), links) =>
      ⟨base, mode, interfaces, miimon, primary, rate, policy, links⟩)
    fun device => (((((((device.toInterfaceConfig, device.mode), device.interfaces), device.miimonMs), device.primary),
      device.lacpRate), device.xmitHashPolicy), device.minLinks)

instance : bondFields.Exact := by unfold bondFields; infer_instance

def BondDeviceConfig.validateModeOptions (device : BondDeviceConfig) : Except Issue Unit := do
  Checks.ifSome device.primary fun primary => do
    Checks.raiseIf (device.mode ≠ .activeBackup) (issue "bond primary is only valid in active-backup mode")
    Checks.raiseIf (primary ∉ device.interfaces) (issue "bond primary must be one of its member interfaces")
  Checks.raiseIf (device.mode ≠ .lacp ∧ (device.lacpRate.isSome ∨ device.xmitHashPolicy.isSome ∨ device.minLinks.isSome))
    (issue "bond lacp_rate, xmit_hash_policy, and min_links require 802.3ad mode")
  Checks.ifSome device.minLinks fun links =>
    Checks.raiseIf ((device.interfaces.length : Int) < links)
      (issue "bond min_links cannot exceed the number of member interfaces")

/-- The options of an LACP bond as `normalized_manifest` spells them out. -/
def BondDeviceConfig.normalized (device : BondDeviceConfig) : BondDeviceConfig :=
  match device.mode with
  | .activeBackup => device
  | .lacp => { device with
      lacpRate := some (device.lacpRate.getD .slow)
      xmitHashPolicy := some (device.xmitHashPolicy.getD .layer2)
      minLinks := some (device.minLinks.getD 0) }

def bondDeclared : Variants "type" BondDeviceConfig :=
  (Variants.single "bond" bondFields).validated BondDeviceConfig.validateModeOptions

instance : bondDeclared.codec.Exact := by unfold bondDeclared; infer_instance

theorem bondDeclared_normalized {device : BondDeviceConfig} (holds : bondDeclared.codec.holds device) :
    bondDeclared.codec.holds device.normalized := by
  obtain ⟨⟨unit, fields⟩, options⟩ := holds
  unfold BondDeviceConfig.normalized
  split
  · exact ⟨⟨unit, fields⟩, options⟩
  next lacp =>
    obtain ⟨⟨⟨⟨⟨⟨⟨base, mode⟩, interfaces⟩, miimon⟩, primary⟩, rate⟩, policy⟩, links⟩ := fields
    refine ⟨⟨unit, ⟨⟨⟨⟨⟨⟨base, mode⟩, interfaces⟩, miimon⟩, primary⟩, fun _ _ => trivial⟩, fun _ _ => trivial⟩, ?_⟩, ?_⟩
    · rintro given same
      obtain rfl := Option.some.inj same
      cases declared : device.minLinks with
      | none => exact Codec.holds_between.mpr (by decide)
      | some count => exact links count declared
    · simp only [BondDeviceConfig.validateModeOptions, Checks.bind_ok, Checks.ifSome_ok, Checks.raiseIf_ok,
        Checks.exists_unit] at options ⊢
      refine ⟨options.1, by simp [lacp], ?_⟩
      rintro given same
      obtain rfl := Option.some.inj same
      cases declared : device.minLinks with
      | none => simp
      | some count => exact options.2.2 count declared

def bondDevice : Variants "type" BondDeviceConfig :=
  bondDeclared.completed BondDeviceConfig.normalized fun _ => bondDeclared_normalized

theorem BondDeviceConfig.normalized_normalized (device : BondDeviceConfig) :
    device.normalized.normalized = device.normalized := by
  cases mode : device.mode <;> simp [normalized, mode]

instance : bondDevice.codec.Stable :=
  Variants.stable_completed fun sorted device => by rw [Codec.settle_exact, device.normalized_normalized]

end Bond

section Tunnels

structure GreDeviceConfig extends InterfaceConfig where
  link : String
  localAddress : IPv4Address
  remote : IPv4Address
  key : Option Int := none
  ttl : Int := 64
  mtu : Option Int := none
deriving DecidableEq

def tunnelTtl : Codec Int := .between 1 255

def tunnelKey : Codec Int := .between 1 4294967295

instance : tunnelTtl.Exact := by unfold tunnelTtl; infer_instance

instance : tunnelKey.Exact := by unfold tunnelKey; infer_instance

theorem tunnelTtl_default : tunnelTtl.holds 64 := Codec.holds_between.mpr (by decide)

/-- The `local` and `remote` ends of an IPv4 tunnel. -/
def tunnelEndpoint (name protocol : String) : Fields IPv4Address :=
  .required name (unicastAddress4 (protocol ++ " endpoints must be IPv4 strings")
    (protocol ++ " endpoints must be unicast addresses"))

instance {name protocol : String} : (tunnelEndpoint name protocol).Exact := by unfold tunnelEndpoint; infer_instance

def greDevice : Variants "type" GreDeviceConfig :=
  (Variants.single "gre" <| ((((((interfaceFields.and
    (.required "link" (linkName "GRE underlay interface name" "GRE underlay interface"))).and
    (tunnelEndpoint "local" "GRE")).and (tunnelEndpoint "remote" "GRE")).and
    (.nullable "key" tunnelKey)).and (.defaulted "ttl" 64 tunnelTtl tunnelTtl_default)).and
    (.nullable "mtu" deviceMtu)).iso
    (fun ((((((base, link), localAddress), remote), key), ttl), mtu) => ⟨base, link, localAddress, remote, key, ttl, mtu⟩)
    fun device => ((((((device.toInterfaceConfig, device.link), device.localAddress), device.remote), device.key),
      device.ttl), device.mtu)).validated fun device =>
    Checks.raiseIf (device.localAddress = device.remote) (issue "GRE local and remote addresses must be different")

instance : greDevice.codec.Exact := by unfold greDevice; infer_instance

structure IpipDeviceConfig extends InterfaceConfig where
  link : String
  localAddress : IPv4Address
  remote : IPv4Address
  ttl : Int := 64
  mtu : Option Int := none
deriving DecidableEq

def ipipAddresses : Codec (List IPInterface) :=
  addressList.validated fun addresses =>
    Checks.raiseIf (addresses.any (·.version ≠ 4)) (issue "IPIP device addresses must use IPv4")

instance : ipipAddresses.Exact := by unfold ipipAddresses; infer_instance

theorem ipipAddresses_empty : ipipAddresses.holds [] := ⟨addressList_empty, rfl⟩

def ipipDevice : Variants "type" IpipDeviceConfig :=
  (Variants.single "ipip" <| (((((interfaceFieldsWith ipipAddresses ipipAddresses_empty).and
    (.required "link" (linkName "IPIP underlay interface name" "IPIP underlay interface"))).and
    (tunnelEndpoint "local" "IPIP")).and (tunnelEndpoint "remote" "IPIP")).and
    ((Fields.defaulted "ttl" 64 tunnelTtl tunnelTtl_default).and (.nullable "mtu" deviceMtu))).iso
    (fun ((((base, link), localAddress), remote), ttl, mtu) => ⟨base, link, localAddress, remote, ttl, mtu⟩)
    fun device => ((((device.toInterfaceConfig, device.link), device.localAddress), device.remote), device.ttl,
      device.mtu)).validated fun device =>
    Checks.raiseIf (device.localAddress = device.remote) (issue "IPIP local and remote addresses must be different")

instance : ipipDevice.codec.Exact := by unfold ipipDevice; infer_instance

end Tunnels

structure DummyDeviceConfig extends InterfaceConfig where
  mtu : Option Int := none
deriving DecidableEq

def dummyDevice : Variants "type" DummyDeviceConfig :=
  .single "dummy" <| (interfaceFields.and (.nullable "mtu" deviceMtu)).iso (fun (base, mtu) => ⟨base, mtu⟩)
    fun device => (device.toInterfaceConfig, device.mtu)

instance : dummyDevice.codec.Exact := by unfold dummyDevice; infer_instance

section Overlays

structure GeneveDeviceConfig extends InterfaceConfig where
  vni : Int
  link : String
  remote : IPAddress
  dstPort : Int := 6081
  mtu : Option Int := none
deriving DecidableEq

def overlayVni : Codec Int := .between 1 16777215

def overlayPort : Codec Int := .between 1 65535

instance : overlayVni.Exact := by unfold overlayVni; infer_instance

instance : overlayPort.Exact := by unfold overlayPort; infer_instance

theorem genevePort_default : overlayPort.holds 6081 := Codec.holds_between.mpr (by decide)

theorem vxlanPort_default : overlayPort.holds 4789 := Codec.holds_between.mpr (by decide)

def geneveDevice : Variants "type" GeneveDeviceConfig :=
  .single "geneve" <| (((((interfaceFields.and (.required "vni" overlayVni)).and
    (.required "link" (linkName "Geneve underlay interface name" "Geneve underlay interface"))).and
    (.required "remote" (unicastAddress "Geneve remote endpoint must be an IPv4 or IPv6 string"
      "Geneve remote endpoint must be a unicast address"))).and
    (.defaulted "dst_port" 6081 overlayPort genevePort_default)).and (.nullable "mtu" deviceMtu)).iso
    (fun (((((base, vni), link), remote), port), mtu) => ⟨base, vni, link, remote, port, mtu⟩)
    fun device => (((((device.toInterfaceConfig, device.vni), device.link), device.remote), device.dstPort), device.mtu)

instance : geneveDevice.codec.Exact := by unfold geneveDevice; infer_instance

structure VxlanDeviceConfig extends InterfaceConfig where
  vni : Int
  link : String
  localAddress : IPAddress
  remote : IPAddress
  dstPort : Int := 4789
  learning : Bool := true
  mtu : Option Int := none
deriving DecidableEq

def vxlanEndpoint (name : String) : Fields IPAddress :=
  .required name (unicastAddress "VXLAN endpoints must be IPv4 or IPv6 strings" "VXLAN endpoints must be unicast addresses")

instance {name : String} : (vxlanEndpoint name).Exact := by unfold vxlanEndpoint; infer_instance

def vxlanDevice : Variants "type" VxlanDeviceConfig :=
  (Variants.single "vxlan" <| (((((((interfaceFields.and (.required "vni" overlayVni)).and
    (.required "link" (linkName "VXLAN underlay interface name" "VXLAN underlay interface"))).and
    (vxlanEndpoint "local")).and (vxlanEndpoint "remote")).and
    (.defaulted "dst_port" 4789 overlayPort vxlanPort_default)).and
    (.defaulted "learning" true .strictBool (Codec.holds_strictBool true))).and (.nullable "mtu" deviceMtu)).iso
    (fun (((((((base, vni), link), localAddress), remote), port), learning), mtu) =>
      ⟨base, vni, link, localAddress, remote, port, learning, mtu⟩)
    fun device => (((((((device.toInterfaceConfig, device.vni), device.link), device.localAddress), device.remote),
      device.dstPort), device.learning), device.mtu)).validated fun device => do
    Checks.raiseIf (device.localAddress.version ≠ device.remote.version)
      (issue "VXLAN local and remote must use the same address family")
    Checks.raiseIf (device.localAddress = device.remote) (issue "VXLAN local and remote addresses must be different")

instance : vxlanDevice.codec.Exact := by unfold vxlanDevice; infer_instance

end Overlays

section SubInterfaces

inductive MacvlanMode where
  | privateMode
  | vepa
  | bridge
  | passthru
  | source
deriving DecidableEq

def MacvlanMode.name : MacvlanMode → String
  | .privateMode => "private"
  | .vepa => "vepa"
  | .bridge => "bridge"
  | .passthru => "passthru"
  | .source => "source"

structure MacvlanDeviceConfig extends InterfaceConfig where
  link : String
  mode : MacvlanMode := .bridge
  mtu : Option Int := none
deriving DecidableEq

def macvlanMode : Codec MacvlanMode :=
  .choice MacvlanMode.name [.privateMode, .vepa, .bridge, .passthru, .source]
    "Input should be 'private', 'vepa', 'bridge', 'passthru' or 'source'" fun mode => by cases mode <;> decide

instance : macvlanMode.Exact := by unfold macvlanMode; infer_instance

theorem macvlanMode_default : macvlanMode.holds .bridge := trivial

def macvlanDevice : Variants "type" MacvlanDeviceConfig :=
  .single "macvlan" <| (((interfaceFields.and
    (.required "link" (linkName "macvlan parent interface name" "macvlan parent interface"))).and
    (.defaulted "mode" .bridge macvlanMode macvlanMode_default)).and (.nullable "mtu" deviceMtu)).iso
    (fun (((base, link), mode), mtu) => ⟨base, link, mode, mtu⟩)
    fun device => (((device.toInterfaceConfig, device.link), device.mode), device.mtu)

instance : macvlanDevice.codec.Exact := by unfold macvlanDevice; infer_instance

inductive IpvlanMode where
  | l2
  | l3
  | l3s
deriving DecidableEq

def IpvlanMode.name : IpvlanMode → String
  | .l2 => "l2"
  | .l3 => "l3"
  | .l3s => "l3s"

structure IpvlanDeviceConfig extends InterfaceConfig where
  link : String
  mode : IpvlanMode := .l2
  mtu : Option Int := none
deriving DecidableEq

def ipvlanMode : Codec IpvlanMode :=
  .choice IpvlanMode.name [.l2, .l3, .l3s] "Input should be 'l2', 'l3' or 'l3s'" fun mode => by cases mode <;> decide

instance : ipvlanMode.Exact := by unfold ipvlanMode; infer_instance

theorem ipvlanMode_default : ipvlanMode.holds .l2 := trivial

def ipvlanDevice : Variants "type" IpvlanDeviceConfig :=
  .single "ipvlan" <| (((interfaceFields.and
    (.required "link" (linkName "ipvlan parent interface name" "ipvlan parent interface"))).and
    (.defaulted "mode" .l2 ipvlanMode ipvlanMode_default)).and (.nullable "mtu" deviceMtu)).iso
    (fun (((base, link), mode), mtu) => ⟨base, link, mode, mtu⟩)
    fun device => (((device.toInterfaceConfig, device.link), device.mode), device.mtu)

instance : ipvlanDevice.codec.Exact := by unfold ipvlanDevice; infer_instance

end SubInterfaces

section Unions

inductive LinuxDeviceConfig where
  | vlan (device : VlanDeviceConfig)
  | vrf (device : VrfDeviceConfig)
  | bond (device : BondDeviceConfig)
  | gre (device : GreDeviceConfig)
  | ipip (device : IpipDeviceConfig)
  | vxlan (device : VxlanDeviceConfig)
  | dummy (device : DummyDeviceConfig)
  | geneve (device : GeneveDeviceConfig)
  | macvlan (device : MacvlanDeviceConfig)
  | ipvlan (device : IpvlanDeviceConfig)
deriving DecidableEq

inductive BridgeDeviceConfig where
  | vxlan (device : VxlanDeviceConfig)
  | geneve (device : GeneveDeviceConfig)
deriving DecidableEq

abbrev LinuxDeviceSum :=
  ((((((((VlanDeviceConfig ⊕ VrfDeviceConfig) ⊕ BondDeviceConfig) ⊕ GreDeviceConfig) ⊕ IpipDeviceConfig) ⊕
    VxlanDeviceConfig) ⊕ DummyDeviceConfig) ⊕ GeneveDeviceConfig) ⊕ MacvlanDeviceConfig) ⊕ IpvlanDeviceConfig

def LinuxDeviceConfig.ofSum : LinuxDeviceSum → LinuxDeviceConfig
  | .inl (.inl (.inl (.inl (.inl (.inl (.inl (.inl (.inl device)))))))) => .vlan device
  | .inl (.inl (.inl (.inl (.inl (.inl (.inl (.inl (.inr device)))))))) => .vrf device
  | .inl (.inl (.inl (.inl (.inl (.inl (.inl (.inr device))))))) => .bond device
  | .inl (.inl (.inl (.inl (.inl (.inl (.inr device)))))) => .gre device
  | .inl (.inl (.inl (.inl (.inl (.inr device))))) => .ipip device
  | .inl (.inl (.inl (.inl (.inr device)))) => .vxlan device
  | .inl (.inl (.inl (.inr device))) => .dummy device
  | .inl (.inl (.inr device)) => .geneve device
  | .inl (.inr device) => .macvlan device
  | .inr device => .ipvlan device

def LinuxDeviceConfig.toSum : LinuxDeviceConfig → LinuxDeviceSum
  | .vlan device => .inl (.inl (.inl (.inl (.inl (.inl (.inl (.inl (.inl device))))))))
  | .vrf device => .inl (.inl (.inl (.inl (.inl (.inl (.inl (.inl (.inr device))))))))
  | .bond device => .inl (.inl (.inl (.inl (.inl (.inl (.inl (.inr device)))))))
  | .gre device => .inl (.inl (.inl (.inl (.inl (.inl (.inr device))))))
  | .ipip device => .inl (.inl (.inl (.inl (.inl (.inr device)))))
  | .vxlan device => .inl (.inl (.inl (.inl (.inr device))))
  | .dummy device => .inl (.inl (.inl (.inr device)))
  | .geneve device => .inl (.inl (.inr device))
  | .macvlan device => .inl (.inr device)
  | .ipvlan device => .inr device

theorem LinuxDeviceConfig.toSum_ofSum (device : LinuxDeviceSum) : (ofSum device).toSum = device := by
  rcases device with ((((((((device | device) | device) | device) | device) | device) | device) | device) | device) | device <;>
    rfl

def linuxDevice : Codec LinuxDeviceConfig :=
  ((((((((((vlanDevice.or vrfDevice).or bondDevice).or greDevice).or ipipDevice).or vxlanDevice).or dummyDevice).or
    geneveDevice).or macvlanDevice).or ipvlanDevice).iso LinuxDeviceConfig.ofSum LinuxDeviceConfig.toSum
    LinuxDeviceConfig.toSum_ofSum).union

instance : linuxDevice.Stable := by unfold linuxDevice; infer_instance

/-- Only the options of LACP bonds are spelled out. -/
def LinuxDeviceConfig.normalized : LinuxDeviceConfig → LinuxDeviceConfig
  | .bond device => .bond device.normalized
  | device => device

theorem settle_linuxDevice (sorted : Bool) (device : LinuxDeviceConfig) :
    linuxDevice.settle sorted device = device.normalized := by
  cases device with
  | vlan device => exact congrArg LinuxDeviceConfig.vlan (vlanDevice.codec.settle_exact sorted device)
  | vrf device => exact congrArg LinuxDeviceConfig.vrf (vrfDevice.codec.settle_exact sorted device)
  | bond device => exact congrArg LinuxDeviceConfig.bond (bondDeclared.codec.settle_exact sorted device.normalized)
  | gre device => exact congrArg LinuxDeviceConfig.gre (greDevice.codec.settle_exact sorted device)
  | ipip device => exact congrArg LinuxDeviceConfig.ipip (ipipDevice.codec.settle_exact sorted device)
  | vxlan device => exact congrArg LinuxDeviceConfig.vxlan (vxlanDevice.codec.settle_exact sorted device)
  | dummy device => exact congrArg LinuxDeviceConfig.dummy (dummyDevice.codec.settle_exact sorted device)
  | geneve device => exact congrArg LinuxDeviceConfig.geneve (geneveDevice.codec.settle_exact sorted device)
  | macvlan device => exact congrArg LinuxDeviceConfig.macvlan (macvlanDevice.codec.settle_exact sorted device)
  | ipvlan device => exact congrArg LinuxDeviceConfig.ipvlan (ipvlanDevice.codec.settle_exact sorted device)

def bridgeDevice : Codec BridgeDeviceConfig :=
  ((vxlanDevice.or geneveDevice).iso (Sum.elim .vxlan .geneve)
    (fun device => match device with
      | .vxlan device => .inl device
      | .geneve device => .inr device)
    (by rintro (device | device) <;> rfl)).union

instance : bridgeDevice.Exact where
  exact sorted device := by
    cases device with
    | vxlan device => exact congrArg BridgeDeviceConfig.vxlan (vxlanDevice.codec.settle_exact sorted device)
    | geneve device => exact congrArg BridgeDeviceConfig.geneve (geneveDevice.codec.settle_exact sorted device)

end Unions

end Nslab
