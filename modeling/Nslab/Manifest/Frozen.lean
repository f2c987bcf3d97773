import Nslab.Library.Agnostic
import Nslab.Manifest.Accepted
import Nslab.State

/-! Manifests read from frozen documents, as a stored snapshot keeps them. Two
parts of the schema look at the type of a container: sysctls are inspected in a
dict only, and a network may be given as a tuple of an address and a mask. -/

namespace Nslab

open Schema IpAddress

section Agnostic

instance {label : String} : (interfaceName label).Agnostic := by unfold interfaceName; infer_instance

instance {label role : String} : (linkName label role).Agnostic := by unfold linkName; infer_instance

instance {device : String} {minimum : Nat} : (memberNames device minimum).Agnostic := by unfold memberNames; infer_instance

instance {role label : String} : (uniqueNames role label).Agnostic := by unfold uniqueNames; infer_instance

instance {label : String} : (macAddress label).Agnostic := ⟨fun document => by cases document <;> rfl⟩

instance {other : String} : (addressText other).Agnostic := by unfold addressText; infer_instance

instance {other : String} : (interfaceText other).Agnostic := by unfold interfaceText; infer_instance

instance {other : String} : (address4Text other).Agnostic := by unfold address4Text; infer_instance

instance {other : String} : (networkText other).Agnostic := by unfold networkText; infer_instance

instance {other : String} : (destinationText other).Agnostic := by unfold destinationText; infer_instance

instance : address4.Agnostic := ⟨fun document => by cases document <;> rfl⟩

instance : rate.Agnostic := ⟨fun document => by cases document <;> rfl⟩

instance : size.Agnostic := ⟨fun document => by cases document <;> rfl⟩

section Devices

theorem addressInputs_frozen (document : Document) : addressInputs (document.reshape false true) = addressInputs document := by
  cases document with
  | sequence frozen items =>
    rw [reshape_sequence]
    simp only [addressInputs]
    induction items with
    | nil => rfl
    | cons item items ih =>
      rw [List.map_cons, Checks.each, Checks.each, ih]
      cases item <;> rfl
  | _ => rfl

instance : addressListText.Agnostic := by unfold addressListText; infer_instance

instance : addressList.Agnostic := by
  unfold addressList
  have inputs : (addressListText.before addressInputs fun addresses sorted frozen _ =>
    addressInputs_dump addresses sorted frozen).Agnostic := .before addressInputs_frozen
  infer_instance

instance {addresses : Codec (List IPInterface)} {empty} [addresses.Agnostic] :
    (interfaceFieldsWith addresses empty).Agnostic := by unfold interfaceFieldsWith; infer_instance

instance : interfaceFields.Agnostic := by unfold interfaceFields; infer_instance

instance : interfaceConfig.Agnostic := by unfold interfaceConfig; infer_instance

instance : deviceMtu.Agnostic := by unfold deviceMtu; infer_instance

instance : routeTableId.Agnostic := by unfold routeTableId; infer_instance

instance {input message : String} : (unicastAddress input message).Agnostic := by unfold unicastAddress; infer_instance

instance {input message : String} : (unicastAddress4 input message).Agnostic := by unfold unicastAddress4; infer_instance

instance : vlanDevice.codec.Agnostic := by unfold vlanDevice; infer_instance

instance : vrfTable.Agnostic := by unfold vrfTable; infer_instance

instance : vrfDevice.codec.Agnostic := by unfold vrfDevice; infer_instance

instance : bondMode.Agnostic := by unfold bondMode; infer_instance

instance : lacpRate.Agnostic := by unfold lacpRate; infer_instance

instance : xmitHashPolicy.Agnostic := by unfold xmitHashPolicy; infer_instance

instance : bondMiimonMs.Agnostic := by unfold bondMiimonMs; infer_instance

instance : bondFields.Agnostic := by unfold bondFields; infer_instance

instance : bondDeclared.codec.Agnostic := by unfold bondDeclared; infer_instance

instance : bondDevice.codec.Agnostic := by unfold bondDevice; infer_instance

instance {name protocol : String} : (tunnelEndpoint name protocol).Agnostic := by unfold tunnelEndpoint; infer_instance

instance : tunnelTtl.Agnostic := by unfold tunnelTtl; infer_instance

instance : tunnelKey.Agnostic := by unfold tunnelKey; infer_instance

instance : greDevice.codec.Agnostic := by unfold greDevice; infer_instance

instance : ipipAddresses.Agnostic := by unfold ipipAddresses; infer_instance

instance : ipipDevice.codec.Agnostic := by unfold ipipDevice; infer_instance

instance : dummyDevice.codec.Agnostic := by unfold dummyDevice; infer_instance

instance : overlayVni.Agnostic := by unfold overlayVni; infer_instance

instance : overlayPort.Agnostic := by unfold overlayPort; infer_instance

instance : geneveDevice.codec.Agnostic := by unfold geneveDevice; infer_instance

instance {name : String} : (vxlanEndpoint name).Agnostic := by unfold vxlanEndpoint; infer_instance

instance : vxlanDevice.codec.Agnostic := by unfold vxlanDevice; infer_instance

instance : macvlanMode.Agnostic := by unfold macvlanMode; infer_instance

instance : macvlanDevice.codec.Agnostic := by unfold macvlanDevice; infer_instance

instance : ipvlanMode.Agnostic := by unfold ipvlanMode; infer_instance

instance : ipvlanDevice.codec.Agnostic := by unfold ipvlanDevice; infer_instance

instance : linuxDevice.Agnostic := by unfold linuxDevice; infer_instance

instance : bridgeDevice.Agnostic := by unfold bridgeDevice; infer_instance

end Devices

section Routes

instance : routeWeight.Agnostic := by unfold routeWeight; infer_instance

instance : routeNextHop.Agnostic := by unfold routeNextHop; infer_instance

instance : routeTable.Agnostic := by unfold routeTable; infer_instance

instance : nextHopList.Agnostic := Fields.agnostic_optional

instance : routeFields.Agnostic := by unfold routeFields; infer_instance

instance : routeConfig.Agnostic := by unfold routeConfig; infer_instance

instance : neighborState.Agnostic := by unfold neighborState; infer_instance

instance : neighborDestination.Agnostic := by unfold neighborDestination; infer_instance

instance : proxyFlag.Agnostic := by unfold proxyFlag; infer_instance

instance : neighborFields.Agnostic := by unfold neighborFields; infer_instance

instance : neighborConfig.Agnostic := by unfold neighborConfig; infer_instance

instance : policyRuleFamily.Agnostic := by unfold policyRuleFamily; infer_instance

instance : policyRuleAction.Agnostic := by unfold policyRuleAction; infer_instance

instance : policyRulePriority.Agnostic := by unfold policyRulePriority; infer_instance

instance : policyRuleUint32.Agnostic := by unfold policyRuleUint32; infer_instance

instance : policyRuleUint64.Agnostic := by unfold policyRuleUint64; infer_instance

instance : policyRuleUint16.Agnostic := by unfold policyRuleUint16; infer_instance

instance : policyRuleUint8.Agnostic := by unfold policyRuleUint8; infer_instance

instance : policyRuleInterfaceGroup.Agnostic := by unfold policyRuleInterfaceGroup; infer_instance

instance {bound : Codec Int} [bound.Exact] [bound.Agnostic] {label : String} : (ruleRange bound label).Agnostic :=
  ⟨fun document => congrArg (· >>= _)
    ((@Fields.agnostic_object _ _ (@Fields.agnostic_iso _ _ _ _ _ _ _ Fields.agnostic_and)).frozen document)⟩

instance {shown name : String} {other} : (ruleNetwork shown name other).Agnostic := Fields.agnostic_aliased

instance : policyRuleRealms.Agnostic := by unfold policyRuleRealms; infer_instance

instance : ruleInvert.Agnostic := @Fields.agnostic_aliased _ _ _ _ _ _ Fields.agnostic_defaulted

instance : ruleTarget.Agnostic := by unfold ruleTarget; infer_instance

instance : ruleSelector.Agnostic := by unfold ruleSelector; infer_instance

instance : ruleOrigin.Agnostic := by unfold ruleOrigin; infer_instance

instance : ruleOptions.Agnostic := by unfold ruleOptions; infer_instance

instance : policyRuleFields.Agnostic := by unfold policyRuleFields; infer_instance

instance : policyRule.Agnostic := by unfold policyRule; infer_instance

instance : routingAsn.Agnostic := by unfold routingAsn; infer_instance

instance : bgpNeighbor.Agnostic := by unfold bgpNeighbor; infer_instance

instance : bgpNeighbors.Agnostic := by unfold bgpNeighbors; infer_instance

instance : pimRpAddress.Agnostic := by unfold pimRpAddress; infer_instance

instance : pimFields.Agnostic := by unfold pimFields; infer_instance

instance : pimConfig.Agnostic := by unfold pimConfig; infer_instance

end Routes

section Links

instance : netemDelay.Agnostic := by unfold netemDelay; infer_instance

instance : netemLoss.Agnostic := by unfold netemLoss; infer_instance

instance : netemFields.Agnostic := by unfold netemFields; infer_instance

instance : netemConfig.Agnostic := by unfold netemConfig; infer_instance

instance : qdiscTime.Agnostic := by unfold qdiscTime; infer_instance

instance : tbfConfig.codec.Agnostic := by unfold tbfConfig; infer_instance

instance : fqCodelLimit.Agnostic := by unfold fqCodelLimit; infer_instance

instance : fqCodelFields.Agnostic := by unfold fqCodelFields; infer_instance

instance : fqCodelConfig.codec.Agnostic := by unfold fqCodelConfig; infer_instance

instance : probability.Agnostic := by unfold probability; infer_instance

instance {name : String} : (positive name).Agnostic := by unfold positive; infer_instance

instance {name : String} : (natural name).Agnostic := by unfold natural; infer_instance

instance : simpleQdiscOptions.Agnostic := by unfold simpleQdiscOptions; infer_instance

instance : simpleQdiscKind.Agnostic := by unfold simpleQdiscKind; infer_instance

instance : simpleQdiscFields.Agnostic := by unfold simpleQdiscFields; infer_instance

instance : simpleQdiscConfig.codec.Agnostic := by unfold simpleQdiscConfig; infer_instance

instance : leafConfig.Agnostic := by unfold leafConfig; infer_instance

instance : htbConfig.codec.Agnostic := by unfold htbConfig; infer_instance

instance : cakeFlowMode.Agnostic := by unfold cakeFlowMode; infer_instance

instance : cakeDiffservMode.Agnostic := by unfold cakeDiffservMode; infer_instance

instance : cakeConfig.codec.Agnostic := by unfold cakeConfig; infer_instance

instance : qdiscConfig.Agnostic := by unfold qdiscConfig; infer_instance

instance : endpointPair.Agnostic where
  frozen document := by
    match document with
    | .sequence _ [left, right] =>
      rw [reshape_sequence]
      simp only [endpointPair, List.map_cons, List.map_nil, Codec.read_frozen]
    | .sequence _ [] | .sequence _ [_] | .sequence _ (_ :: _ :: _ :: _) => rfl
    | .mapping _ _ | .null | .bool _ | .int _ | .float _ | .str _ => rfl

instance : linkKind.Agnostic := by unfold linkKind; infer_instance

instance : linkMtu.Agnostic := by unfold linkMtu; infer_instance

instance : linkFields.Agnostic := by unfold linkFields; infer_instance

instance : linkConfig.Agnostic := by unfold linkConfig; infer_instance

end Links

instance : bridgeVlanId.Agnostic := by unfold bridgeVlanId; infer_instance

instance : bridgeVlan.Agnostic := by unfold bridgeVlan; infer_instance

instance : bridgePathCost.Agnostic := by unfold bridgePathCost; infer_instance

instance : bridgePortPriority.Agnostic := by unfold bridgePortPriority; infer_instance

instance : bridgeVlans.Agnostic := by unfold bridgeVlans; infer_instance

instance : bridgeVlanField.Agnostic := Fields.agnostic_optional

instance : bridgePortFields.Agnostic := by unfold bridgePortFields; infer_instance

instance : bridgePort.Agnostic := by unfold bridgePort; infer_instance

instance : bridgePortDict.Agnostic := by unfold bridgePortDict; infer_instance

instance : bridgePortField.Agnostic := Fields.agnostic_optional

instance : bridgeFields.Agnostic := by unfold bridgeFields; infer_instance

instance : bridgeConfig.Agnostic := by unfold bridgeConfig; infer_instance

instance : interfaceDict.Agnostic := by unfold interfaceDict; infer_instance

instance : neighborList.Agnostic := by unfold neighborList; infer_instance

instance : neighborField.Agnostic := Fields.agnostic_optional

instance : linuxDeviceDict.Agnostic := by unfold linuxDeviceDict; infer_instance

instance : linuxDeviceField.Agnostic := Fields.agnostic_optional

instance : ruleList.Agnostic := by unfold ruleList; infer_instance

instance : ruleField.Agnostic := Fields.agnostic_optional

instance : bridgeDeviceDict.Agnostic := by unfold bridgeDeviceDict; infer_instance

instance : bridgeDeviceField.Agnostic := Fields.agnostic_optional

instance : manifestVersion.Agnostic := ⟨fun document => by cases document <;> rfl⟩

instance : deploymentName.Agnostic := by unfold deploymentName; infer_instance

end Agnostic

section Overlooked

/-- Sysctls with a name that is not allowed. -/
def StraySysctls : Document → Prop := MappingOf fun entries => ∃ entry ∈ entries, entry.1 ∉ allowedSysctls

/-- Networks of which one is given as a list. -/
def ListedNetworks : Document → Prop := ItemOf fun item => ∃ items, item = .list items

/-- A routing protocol with a network given as a list. -/
def OddProtocol : Document → Prop := MappingOf (FieldOf "networks" ListedNetworks)

/-- OSPF or BGP with a network given as a list. -/
def OddRouting : Document → Prop :=
  MappingOf fun entries => FieldOf "ospf" OddProtocol entries ∨ FieldOf "bgp" OddProtocol entries

/-- A node with a sysctl that is not allowed, or with a network given as a list. -/
def OddNode : Document → Prop :=
  MappingOf fun entries => FieldOf "sysctls" StraySysctls entries ∨ FieldOf "routing" OddRouting entries

/-- A topology with an odd node. -/
def OddTopology : Document → Prop := MappingOf (FieldOf "nodes" (MappingOf (ValueOf OddNode)))

/-- What validation overlooks in the frozen form of a manifest. -/
def OddManifest : Document → Prop := MappingOf (FieldOf "topology" OddTopology)

instance : sysctlValue.Agnostic := by unfold sysctlValue; infer_instance

/-- The values of sysctls are read as the inspection asks for them. -/
theorem inspectSysctls_of_read {entries : List (String × Document)} (allowed : ¬ StraySysctls (.dict entries))
    {sysctls : Dict String Int} (read : sysctlValue.mapping.read (.dict entries) = .ok sysctls) :
    inspectSysctls (.dict entries) = .ok () := by
  simp only [Codec.mapping, Checks.map_ok] at read
  obtain ⟨values, read, _⟩ := read
  simp only [StraySysctls, MappingOf, not_exists, not_and, not_not] at allowed
  simp only [inspectSysctls, Checks.each_ok, Checks.bind_ok, Checks.raiseIf_ok, Checks.exists_unit, not_not]
  intro entry member
  refine ⟨allowed entry member, ?_⟩
  obtain ⟨value, accepted⟩ := Codec.read_of_readEntries read entry member
  simp only [sysctlValue, Codec.between, Codec.validated, Codec.checked, Checks.bind_ok, Checks.raiseIf_ok,
    Checks.exists_unit, Checks.pure_ok] at accepted
  obtain ⟨number, given, lower, upper, _⟩ := accepted
  cases shape : entry.2 with
  | int value =>
    rw [shape] at given
    obtain rfl := Except.ok.inj given
    simp only [ne_eq, Document.int.injEq]
    omega
  | _ => simp [shape, Codec.strictInt] at given

theorem sysctlDict_overlooks : sysctlDict.Overlooks StraySysctls where
  alike document plain even value := by
    cases document with
    | mapping frozen entries =>
      obtain ⟨rfl, _⟩ := Document.plain_mapping.mp plain
      have same := Codec.read_frozen sysctlValue.mapping (.dict entries)
      rw [reshape_mapping] at same ⊢
      simp only [sysctlDict, Codec.guarded, Checks.bind_ok, Checks.exists_unit, same]
      refine ⟨fun read => ⟨inspectSysctls_of_read even read.2, read.2⟩, fun read => ⟨rfl, read.2⟩⟩
    | _ => rfl
  refused document plain given value read := by
    cases document with
    | mapping frozen entries =>
      obtain ⟨rfl, _⟩ := Document.plain_mapping.mp plain
      obtain ⟨entry, member, stray⟩ := given
      simp only [sysctlDict, Codec.guarded, Checks.bind_ok, inspectSysctls, Checks.each_ok, Checks.raiseIf_ok] at read
      obtain ⟨_, inspected, _⟩ := read
      obtain ⟨_, allowed, _⟩ := inspected entry member
      exact allowed stray
    | _ => exact given

theorem network4_overlooks : network4.Overlooks fun item => ∃ items, item = .list items where
  alike document plain even value := by
    cases document with
    | sequence frozen items =>
      obtain ⟨rfl, _⟩ := Document.plain_sequence.mp plain
      exact (even ⟨items, rfl⟩).elim
    | _ => rfl
  refused document plain given value read := by
    obtain ⟨items, rfl⟩ := given
    simp [network4, readNetwork4, readAddress4] at read

theorem protocolNetworks_overlooks (protocol : String) : (protocolNetworks protocol).Overlooks ListedNetworks :=
  (network4_overlooks.listed _).validated

theorem ospfConfig_overlooks : ospfConfig.Overlooks OddProtocol :=
  Fields.Overlooks.object (.iso (.beside (.after (.defaulted (protocolNetworks_overlooks "OSPF")))))

theorem bgpConfig_overlooks : bgpConfig.Overlooks OddProtocol :=
  Fields.Overlooks.object (.iso (.after (.defaulted (protocolNetworks_overlooks "BGP"))))

theorem routingConfig_overlooks : routingConfig.Overlooks OddRouting :=
  (Fields.Overlooks.object (.iso (.beside (.and (.nullable ospfConfig_overlooks id)
    (.nullable bgpConfig_overlooks id))))).validated

theorem nodeBaseFields_overlooks : nodeBaseFields.Overlooks fun entries =>
    FieldOf "sysctls" StraySysctls entries ∨ FieldOf "routing" OddRouting entries :=
  .iso (.and (.after (.defaulted sysctlDict_overlooks)) (.nullable routingConfig_overlooks id))

theorem linuxNode_overlooks : linuxNode.codec.Overlooks OddNode :=
  Variants.overlooks_checked (Variants.overlooks_single (.iso (.beside (.beside nodeBaseFields_overlooks))))

theorem bridgeNode_overlooks : bridgeNode.codec.Overlooks OddNode :=
  Variants.overlooks_checked (Variants.overlooks_single (.iso (.beside (.beside nodeBaseFields_overlooks))))

theorem nodeConfig_overlooks : nodeConfig.Overlooks OddNode :=
  Variants.overlooks_union (Variants.overlooks_iso (Variants.overlooks_or linuxNode_overlooks bridgeNode_overlooks))

theorem topologyConfig_overlooks : topologyConfig.Overlooks OddTopology :=
  (Fields.Overlooks.object (.iso (.beside (.required nodeConfig_overlooks.named)))).checked

theorem manifestCodec_overlooks : manifestCodec.Overlooks OddManifest :=
  Fields.Overlooks.object (.iso (.after (.required topologyConfig_overlooks)))

end Overlooked

section Snapshots

/-- `Manifest.model_validate(dict(snapshot.manifest))`. -/
def FrozenMapping.validate (stored : FrozenMapping) : Except Issue Manifest := validateManifest (.dict stored.entries)

/-- A document and what a snapshot stores of it are validated alike, and only with sysctls that are allowed. -/
structure ValidatesAlike (document : Document) (stored : FrozenMapping) : Prop where
  alike : ∀ manifest, validateManifest document = .ok manifest ↔ stored.validate = .ok manifest
  sysctls : ∀ manifest, validateManifest document = .ok manifest ∨ stored.validate = .ok manifest →
    ∀ node ∈ manifest.topology.nodes.values, ∀ key ∈ node.toNodeBase.sysctls.keys, key ∈ allowedSysctls

/-- The type of the outermost container does not matter. -/
theorem validate_stored {document : Document} {label : String} {stored : FrozenMapping}
    (freezes : freezeMapping document label = .ok stored) :
    stored.validate = validateManifest (document.reshape false true) := by
  rw [(freezeMapping_ok.mp freezes).2]
  rfl

/-- A node `r` with one sysctl. -/
def sysctlDocument (key : String) (value : Int) : Document :=
  .dict [("version", .int 1), ("name", .str "lab"), ("topology", .dict [
    ("nodes", .dict [("r", .dict [("kind", .str "linux"), ("sysctls", .dict [(key, .int value)])])]),
    ("links", .list [])])]

end Snapshots

end Nslab
