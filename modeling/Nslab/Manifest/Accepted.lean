import Nslab.Manifest.Topology

/-! What validation establishes of an accepted manifest, read off the schema. -/

namespace Nslab

open Schema IpAddress

/-- What an accepted manifest satisfies, and what reading back its normal form needs. -/
def Manifest.Valid (manifest : Manifest) : Prop := manifestCodec.holds manifest

theorem Manifest.Accepted.valid {manifest : Manifest} (accepted : manifest.Accepted) : manifest.Valid := by
  obtain ⟨document, plain, read⟩ := accepted
  exact manifestCodec.sound document manifest plain read

/-- A manifest obtained by evaluating the validator, with a property that evaluates to true. -/
theorem Manifest.accepted_of_test (document : Document) (plain : document.plain = true) (test : Manifest → Bool)
    (passes : (validateManifest document).toOption.any test = true) :
    ∃ manifest, validateManifest document = .ok manifest ∧ manifest.Accepted ∧ test manifest = true := by
  cases read : validateManifest document with
  | error issue => simp [read, Except.toOption] at passes
  | ok manifest => exact ⟨manifest, rfl, ⟨document, plain, read⟩, by simpa [read, Except.toOption] using passes⟩

namespace LinuxNode

/-- What the schema of a Linux node establishes of its parts. -/
structure Fields (node : LinuxNode) : Prop where
  interfaceNames : ∀ name ∈ node.interfaces.keys, requireInterfaceName "interface name" name = .ok ()
  routes : ∀ route ∈ node.routes, route.validateAddressFamily = .ok ()
  deviceNames : ∀ name ∈ node.devices.keys, requireDeviceName name = .ok ()
  devices : ∀ device ∈ node.devices.values, linuxDevice.holds device

end LinuxNode

namespace BridgeNode

/-- What the schema of a bridge node establishes of its parts. -/
structure Fields (node : BridgeNode) : Prop where
  interfaceNames : ∀ name ∈ node.interfaces.keys, requireInterfaceName "interface name" name = .ok ()
  routes : ∀ route ∈ node.routes, route.validateAddressFamily = .ok ()
  deviceNames : ∀ name ∈ node.devices.keys, requireDeviceName name = .ok ()
  bridgeName : node.bridge.name ≠ "lo"

end BridgeNode

section Base

theorem NodeBase.interfaceNames_of_holds {node : NodeBase} (holds : nodeBaseFields.holds node) :
    ∀ name ∈ node.interfaces.keys, requireInterfaceName "interface name" name = .ok () := by
  obtain ⟨⟨⟨⟨interfaces, _⟩, _⟩, _⟩, _⟩ := holds
  exact (Codec.holds_named.mp interfaces).2

theorem NodeBase.routes_of_holds {node : NodeBase} (holds : nodeBaseFields.holds node) :
    ∀ route ∈ node.routes, route.validateAddressFamily = .ok () := by
  obtain ⟨⟨⟨⟨_, routes⟩, _⟩, _⟩, _⟩ := holds
  exact fun route member => (routes route member).2

theorem NodeBase.sysctls_of_holds {node : NodeBase} (holds : nodeBaseFields.holds node) :
    ∀ key ∈ node.sysctls.keys, key ∈ allowedSysctls := by
  obtain ⟨⟨⟨⟨_, _⟩, _⟩, sysctls⟩, _⟩ := holds
  exact sysctls.2

theorem NodeBase.neighbors_of_holds {node : NodeBase} (holds : nodeBaseFields.holds node) :
    ∀ neighbor ∈ node.neighbors, isInterfaceName neighbor.dev = true := by
  obtain ⟨⟨⟨⟨_, _⟩, neighbors⟩, _⟩, _⟩ := holds
  intro neighbor member
  obtain ⟨⟨⟨⟨⟨_, dev⟩, _⟩, _⟩, _⟩, _⟩ := neighbors.1 neighbor member
  have named := dev.2
  simp only [requireInterfaceName, requireName, Checks.bind_ok, Checks.raiseIf_ok, Checks.exists_unit,
    Bool.not_eq_false] at named
  exact named.1

theorem NodeConfig.base_of_holds {node : NodeConfig} (holds : nodeConfig.holds node) :
    nodeBaseFields.holds node.toNodeBase := by
  cases node with
  | linux node =>
    obtain ⟨⟨_, ⟨base, _⟩, _⟩, _⟩ := holds
    exact base
  | bridge node =>
    obtain ⟨⟨_, ⟨base, _⟩, _, _⟩, _⟩ := holds
    exact base

end Base

theorem LinuxNode.valid_of_holds {node : LinuxNode} (holds : nodeConfig.holds (.linux node)) :
    node.Fields ∧ node.Consistent := by
  obtain ⟨⟨_, ⟨base, devices⟩, _⟩, consistent⟩ := holds
  have named := Codec.holds_named.mp devices
  exact ⟨⟨NodeBase.interfaceNames_of_holds base, NodeBase.routes_of_holds base, named.2, named.1⟩,
    validateDevicesAndRoutes_ok.mp consistent⟩

theorem BridgeNode.valid_of_holds {node : BridgeNode} (holds : nodeConfig.holds (.bridge node)) :
    node.Fields ∧ node.Consistent := by
  obtain ⟨⟨_, ⟨base, devices⟩, bridge, _⟩, consistent⟩ := holds
  obtain ⟨⟨⟨⟨⟨_, name⟩, _⟩, _⟩, _⟩, _⟩ := bridge
  simp only [Checks.bind_ok, Checks.raiseIf_ok, Checks.exists_unit] at name
  exact ⟨⟨NodeBase.interfaceNames_of_holds base, NodeBase.routes_of_holds base, (Codec.holds_named.mp devices).2, name.2⟩,
    validateRoutes_ok.mp consistent⟩

namespace Manifest.Valid

variable {manifest : Manifest}

theorem name (valid : manifest.Valid) : isName manifest.name = true := by
  obtain ⟨⟨_, _, name⟩, _⟩ := valid
  simpa [requireName] using name

theorem topology (valid : manifest.Valid) : manifest.topology.Consistent :=
  Topology.validateReferences_ok.mp valid.2.2

theorem nodes (valid : manifest.Valid) {name : String} {node : NodeConfig}
    (found : manifest.topology.nodes.get? name = some node) : isName name = true ∧ nodeConfig.holds node := by
  obtain ⟨⟨nodes, _⟩, _⟩ := valid.2
  have named := Codec.holds_named.mp nodes
  refine ⟨?_, named.1 node (Dict.mem_values_iff.mpr ⟨name, found⟩)⟩
  simpa [requireName] using named.2 name (Dict.mem_keys_of_get? found)

theorem links (valid : manifest.Valid) : ∀ link ∈ manifest.topology.links, linkConfig.holds link := by
  obtain ⟨⟨_, links⟩, _⟩ := valid.2
  exact links

end Manifest.Valid

end Nslab
