import Nslab.Plan.Interfaces
import Nslab.Library.Netlink

/-! Policy rules on their way through the kernel: the arguments that configure
them, the messages that report them among the rules of the kernel, and the
decoder of the inventory. -/

namespace Nslab

open Netlink IpAddress

section Arguments

/-- `socket.AF_INET` and `socket.AF_INET6`. -/
def addressFamily (version : Nat) : Int := if version = 4 then 2 else 10

def ruleActionToNetlink : List (String × String) :=
  [("lookup", "to_tbl"), ("goto", "goto"), ("nop", "nop"), ("blackhole", "blackhole"), ("unreachable", "unreachable"),
    ("prohibit", "prohibit")]

def ruleActionFromNetlink : List (Int × String) :=
  [(1, "lookup"), (2, "goto"), (3, "nop"), (6, "blackhole"), (7, "unreachable"), (8, "prohibit")]

/-- The codes of the kernel for the actions of a rule. -/
def kernelAction : List (String × Int) :=
  [("to_tbl", 1), ("goto", 2), ("nop", 3), ("blackhole", 6), ("unreachable", 7), ("prohibit", 8)]

def frActToTbl : Int := 1

def fibRuleInvert : Int := 2

def rtprotKernel : Int := 2

/-- `0xFFFFFFFF`, which stands for no suppression. -/
def unsetSuppression : Int := 4294967295

def rangeText (range : Int × Int) : Value := .text (toString range.1 ++ ":" ++ toString range.2)

def networkAddress (network : IPNetwork) : Value := .text (String.ofList network.address.chars)

/-- The arguments that `configure_node` passes for a rule. -/
def ruleArguments (rule : PolicyRulePlan) : List (String × Value) :=
  present [
    ("family", some (.int (addressFamily rule.family))),
    ("priority", some (.int rule.priority)),
    ("action", (ruleActionToNetlink.lookup rule.action).map .text),
    ("table", rule.table.map .int),
    ("goto", rule.goto.map .int),
    ("src", rule.source.map networkAddress),
    ("src_len", rule.source.map fun network => .int network.prefixlen),
    ("dst", rule.destination.map networkAddress),
    ("dst_len", rule.destination.map fun network => .int network.prefixlen),
    ("flags", if rule.invert then some (.int fibRuleInvert) else none),
    ("tos", rule.tos.map .int),
    ("fwmark", rule.fwmark.map .int),
    ("fwmask", rule.fwmask.map .int),
    ("iifname", rule.iif.map .text),
    ("oifname", rule.oif.map .text),
    ("ip_proto", rule.ipProtocol.map .int),
    ("tun_id", rule.tunnelId.map .int),
    ("suppress_prefixlen", rule.suppressPrefixLength.map .int),
    ("suppress_ifgroup", rule.suppressInterfaceGroup.map .int),
    ("l3mdev", if rule.l3mdev then some (.int 1) else none),
    ("uid_range", rule.uidRange.map rangeText),
    ("protocol", if rule.protocol = 0 then none else some (.int rule.protocol)),
    ("sport_range", rule.sourcePort.map rangeText),
    ("dport_range", rule.destinationPort.map rangeText),
    ("flow", rule.realms.map fun realms => .int (realms.1 * 65536 + realms.2))]

/-- The attributes that report arguments as they are. -/
def selectorAttributes : List (String × String) :=
  [("priority", "FRA_PRIORITY"), ("goto", "FRA_GOTO"), ("src", "FRA_SRC"), ("dst", "FRA_DST"), ("fwmark", "FRA_FWMARK"),
    ("fwmask", "FRA_FWMASK"), ("iifname", "FRA_IIFNAME"), ("oifname", "FRA_OIFNAME"), ("ip_proto", "FRA_IP_PROTO"),
    ("tun_id", "FRA_TUN_ID"), ("l3mdev", "FRA_L3MDEV"), ("uid_range", "FRA_UID_RANGE"), ("sport_range", "FRA_SPORT_RANGE"),
    ("dport_range", "FRA_DPORT_RANGE"), ("flow", "FRA_FLOW")]

def suppressAttributes : List (String × String) :=
  [("suppress_prefixlen", "FRA_SUPPRESS_PREFIXLEN"), ("suppress_ifgroup", "FRA_SUPPRESS_IFGROUP")]

def allowedRuleAttributes : List String :=
  ["FRA_DST", "FRA_SRC", "FRA_IIFNAME", "FRA_GOTO", "FRA_PRIORITY", "FRA_FWMARK", "FRA_FLOW", "FRA_TUN_ID",
    "FRA_SUPPRESS_IFGROUP", "FRA_SUPPRESS_PREFIXLEN", "FRA_TABLE", "FRA_FWMASK", "FRA_OIFNAME", "FRA_PAD", "FRA_L3MDEV",
    "FRA_UID_RANGE", "FRA_PROTOCOL", "FRA_IP_PROTO", "FRA_SPORT_RANGE", "FRA_DPORT_RANGE"]

def defaultRuleAttributes : List String :=
  ["FRA_TABLE", "FRA_SUPPRESS_IFGROUP", "FRA_SUPPRESS_PREFIXLEN", "FRA_PROTOCOL", "FRA_PRIORITY", "FRA_PAD"]

/-- A message that reports the arguments of a rule. What is not passed is reported as unset, or not at all. -/
structure RuleEchoed (arguments : List (String × Value)) (message : Message) : Prop where
  header : ∀ name ∈ ["family", "src_len", "dst_len", "tos", "flags"],
    message.field name = some ((arguments.lookup name).getD (.int 0))
  action : ∃ action code, arguments.lookup "action" = some (.text action) ∧ kernelAction.lookup action = some code ∧
    message.field "action" = some (.int code)
  table : message.attributes.lookup "FRA_TABLE" = some ((arguments.lookup "table").getD (.int 0))
  selectors : ∀ entry ∈ selectorAttributes, message.attributes.lookup entry.2 = arguments.lookup entry.1
  protocol : message.attributes.lookup "FRA_PROTOCOL" = arguments.lookup "protocol" ∨
    arguments.lookup "protocol" = none ∧ message.attributes.lookup "FRA_PROTOCOL" = some (.int 0)
  suppress : ∀ entry ∈ suppressAttributes, message.attributes.lookup entry.2 = arguments.lookup entry.1 ∨
    arguments.lookup entry.1 = none ∧ message.attributes.lookup entry.2 = some (.int unsetSuppression)
  names : ∀ name ∈ message.attrNames, name ∈ allowedRuleAttributes
  separate : ∀ name ∈ allowedRuleAttributes, message.field name = none

/-- The identities of the rules that the kernel installs by itself. -/
def defaultRules : List (Int × Int) := [(0, 255), (32766, 254), (32767, 253)]

/-- A message that reports a rule of the kernel, the one for VRFs only where there are some. -/
structure KernelRule (vrfs : Bool) (message : Message) : Prop where
  header : ∀ name ∈ ["src_len", "dst_len", "tos", "flags"], message.field name = some (.int 0)
  action : message.field "action" = some (.int frActToTbl)
  identity : ∃ priority table l3mdev, ((priority, table) ∈ defaultRules ∧ l3mdev = none ∨
      vrfs = true ∧ priority = 1000 ∧ table = 0 ∧ l3mdev = some (.int 1)) ∧
    (message.attr "FRA_PRIORITY" = some (.int priority) ∨ priority = 0 ∧ message.attr "FRA_PRIORITY" = none) ∧
    message.attr "FRA_TABLE" = some (.int table) ∧ message.attr "FRA_L3MDEV" = l3mdev ∧
    ∀ name ∈ message.attrNames, name ∈ defaultRuleAttributes ∨ name = "FRA_L3MDEV" ∧ l3mdev ≠ none
  protocol : message.attr "FRA_PROTOCOL" = none ∨ message.attr "FRA_PROTOCOL" = some (.int 0) ∨
    message.attr "FRA_PROTOCOL" = some (.int rtprotKernel)
  suppress : ∀ entry ∈ suppressAttributes,
    message.attr entry.2 = none ∨ message.attr entry.2 = some (.int unsetSuppression)

end Arguments

section Inventory

def unsupportedInventoryRule (netns reason : String) : NslabError where
  code := "INVENTORY_UNSUPPORTED"
  message := "unsupported policy rule in network inventory: " ++ netns
  details := [("operation", .str "inventory"), ("resource", .str netns), ("reason", .str reason)]

def integerAttribute (netns : String) (message : Message) (name : String) : Except NslabError (Option Int) :=
  match message.attr name with
  | none => .ok none
  | some value => match value.int? with
    | none => .error (unsupportedInventoryRule netns name.toLower)
    | some number => .ok (some number)

/-- Two numerals with a colon or a dash between them. -/
def parseRange (text : String) : Option (Int × Int) :=
  match Text.split ':' (text.toList.map fun char => if char = '-' then ':' else char) with
  | [first, last] => match Text.decimal? first, Text.decimal? last with
    | some first, some last => some (first, last)
    | _, _ => none
  | _ => none

def rangeAttribute (netns : String) (message : Message) (name : String) (maximum : Int) :
    Except NslabError (Option (Int × Int)) :=
  match message.attr name with
  | none => .ok none
  | some value => match value.text?.bind parseRange with
    | none => .error (unsupportedInventoryRule netns name.toLower)
    | some (first, last) => do
      Checks.raiseIf (first < 0 ∨ last < first ∨ maximum < last) (unsupportedInventoryRule netns name.toLower)
      pure (some (first, last))

def maximumPrefixlen (version : Nat) : Int := if version = 4 then 32 else 128

def networkSelector (netns : String) (version : Nat) (message : Message) (name : String) (prefixlen : Int) :
    Except NslabError (Option IPNetwork) := do
  Checks.raiseIf (prefixlen < 0 ∨ maximumPrefixlen version < prefixlen)
    (unsupportedInventoryRule netns (name.toLower ++ "_prefixlen"))
  match message.attr name with
  | none => do
    Checks.raiseIf (prefixlen ≠ 0) (unsupportedInventoryRule netns ("missing_" ++ name.toLower))
    pure none
  | some value =>
    if prefixlen = 0 then pure none
    else match value.text?.bind fun text => IPNetwork.parseLoose version (text.toList ++ '/' :: Nat.toDigits 10 prefixlen.toNat) with
      | none => .error (unsupportedInventoryRule netns name.toLower)
      | some network => pure (some network)

/-- The numbers that every rule has. -/
structure RuleIdentity where
  table : Int
  priority : Int
  protocol : Int
  action : Int
  flags : Int
  tos : Int
  sourcePrefixlen : Int
  destinationPrefixlen : Int

def ruleIdentity (message : Message) : Option RuleIdentity := do
  let table ← match message.attr "FRA_TABLE" with
    | some value => value.int?
    | none => message.intField "table" 0
  let priority ← message.intAttr "FRA_PRIORITY" 0
  let protocol ← message.intAttr "FRA_PROTOCOL" 0
  let action ← message.intField "action" frActToTbl
  let flags ← message.intField "flags" 0
  let tos ← message.intField "tos" 0
  let source ← message.intField "src_len" 0
  let destination ← message.intField "dst_len" 0
  some ⟨table, priority, protocol, action, flags, tos, source, destination⟩

/-- What the rules of the kernel have in common. -/
def PlainRule (identity : RuleIdentity) (names more : List String) (suppressPrefix suppressGroup : Option Int) : Prop :=
  (identity.protocol = 0 ∨ identity.protocol = rtprotKernel) ∧ identity.action = frActToTbl ∧ identity.flags = 0 ∧
    identity.tos = 0 ∧ identity.sourcePrefixlen = 0 ∧ identity.destinationPrefixlen = 0 ∧
    (∀ name ∈ names, name ∈ defaultRuleAttributes ++ more) ∧
    (suppressPrefix = none ∨ suppressPrefix = some unsetSuppression) ∧
    (suppressGroup = none ∨ suppressGroup = some unsetSuppression)

instance (identity : RuleIdentity) (names more : List String) (suppressPrefix suppressGroup : Option Int) :
    Decidable (PlainRule identity names more suppressPrefix suppressGroup) := by
  unfold PlainRule
  infer_instance

/-- Where a rule of some action leads: its table and its target. -/
def decodeRuleTarget (netns : String) (message : Message) (identity : RuleIdentity) (action : String) (l3mdev : Bool) :
    Except NslabError (Option Int × Option Int) :=
  if action = "lookup" then
    if l3mdev then do
      Checks.raiseIf (identity.table ≠ 0) (unsupportedInventoryRule netns "l3mdev_table")
      pure (none, none)
    else do
      Checks.raiseIf (identity.table < 1 ∨ 4294967295 < identity.table) (unsupportedInventoryRule netns "table")
      pure (some identity.table, none)
  else if action = "goto" then do
    Checks.raiseIf (identity.table ≠ 0) (unsupportedInventoryRule netns "goto_table")
    let goto ← integerAttribute netns message "FRA_GOTO"
    Checks.raiseIf (goto.all (fun target => target < 1 ∨ 4294967295 < target) = true) (unsupportedInventoryRule netns "goto")
    pure (none, goto)
  else do
    Checks.raiseIf (identity.table ≠ 0) (unsupportedInventoryRule netns "action_table")
    pure (none, none)

/-- `None` for the value that stands for no suppression. -/
def suppression (value : Option Int) : Option Int := if value = some unsetSuppression then none else value

/-- A rule that is none of the kernel's. -/
def decodeDeclaredRule (netns : String) (version : Nat) (message : Message) (identity : RuleIdentity) (l3mdev : Bool)
    (suppressPrefix suppressGroup : Option Int) : Except NslabError PolicyRulePlan := do
  Checks.raiseIf (∃ name ∈ message.attrNames, name ∉ allowedRuleAttributes) (unsupportedInventoryRule netns "unsupported_attribute")
  Checks.raiseIf (identity.priority < 1 ∨ 4294967295 < identity.priority) (unsupportedInventoryRule netns "priority")
  Checks.raiseIf (identity.protocol < 0 ∨ 255 < identity.protocol) (unsupportedInventoryRule netns "protocol")
  match ruleActionFromNetlink.lookup identity.action with
  | none => .error (unsupportedInventoryRule netns "action")
  | some action => do
    Checks.raiseIf (identity.flags ≠ 0 ∧ identity.flags ≠ fibRuleInvert) (unsupportedInventoryRule netns "flags")
    Checks.raiseIf (action ≠ "goto" ∧ "FRA_GOTO" ∈ message.attrNames) (unsupportedInventoryRule netns "unexpected_goto")
    Checks.raiseIf (identity.tos < 0 ∨ 255 < identity.tos) (unsupportedInventoryRule netns "tos")
    let suppressPrefixLength := suppression suppressPrefix
    Checks.raiseIf (suppressPrefixLength.any (fun length => length < 0 ∨ maximumPrefixlen version < length) = true)
      (unsupportedInventoryRule netns "suppress_prefixlen")
    let suppressInterfaceGroup := suppression suppressGroup
    let (table, goto) ← decodeRuleTarget netns message identity action l3mdev
    Checks.raiseIf (action ≠ "lookup" ∧ (suppressPrefixLength ≠ none ∨ suppressInterfaceGroup ≠ none))
      (unsupportedInventoryRule netns "suppress_action")
    let fwmark ← integerAttribute netns message "FRA_FWMARK"
    let fwmask ← integerAttribute netns message "FRA_FWMASK"
    Checks.raiseIf (fwmask ≠ none ∧ fwmark = none) (unsupportedInventoryRule netns "fwmask")
    let ipProtocol ← integerAttribute netns message "FRA_IP_PROTO"
    Checks.raiseIf (ipProtocol.any (fun number => number < 0 ∨ 255 < number) = true) (unsupportedInventoryRule netns "ip_protocol")
    let sourcePort ← rangeAttribute netns message "FRA_SPORT_RANGE" 65535
    let destinationPort ← rangeAttribute netns message "FRA_DPORT_RANGE" 65535
    Checks.raiseIf ((sourcePort ≠ none ∨ destinationPort ≠ none) ∧ ipProtocol = none) (unsupportedInventoryRule netns "port_protocol")
    let uidRange ← rangeAttribute netns message "FRA_UID_RANGE" 4294967295
    let flow ← integerAttribute netns message "FRA_FLOW"
    let realms := (flow.filter (· ≠ 0)).map fun value => (value / 65536 % 65536, value % 65536)
    let tunnelId ← integerAttribute netns message "FRA_TUN_ID"
    Checks.raiseIf (tunnelId.any (fun id => id < 0 ∨ 18446744073709551615 < id) = true) (unsupportedInventoryRule netns "tunnel_id")
    let source ← networkSelector netns version message "FRA_SRC" identity.sourcePrefixlen
    let destination ← networkSelector netns version message "FRA_DST" identity.destinationPrefixlen
    pure {
      priority := identity.priority
      family := version
      action := action
      table := table
      goto := goto
      source := source
      destination := destination
      invert := flag identity.flags fibRuleInvert
      tos := if identity.tos = 0 then none else some identity.tos
      fwmark := fwmark
      fwmask := fwmask
      iif := (message.attr "FRA_IIFNAME").bind Value.text?
      oif := (message.attr "FRA_OIFNAME").bind Value.text?
      l3mdev := l3mdev
      uidRange := uidRange
      protocol := identity.protocol
      ipProtocol := ipProtocol
      sourcePort := sourcePort
      destinationPort := destinationPort
      tunnelId := tunnelId
      suppressPrefixLength := suppressPrefixLength
      suppressInterfaceGroup := suppressInterfaceGroup
      realms := realms }

/-- One message: a rule of the kernel is passed over. -/
def decodeRule (netns : String) (version : Nat) (ignoreL3mdevKernelRule : Bool) (message : Message) :
    Except NslabError (Option PolicyRulePlan) :=
  match ruleIdentity message with
  | none => .error (unsupportedInventoryRule netns "invalid_identity")
  | some identity => do
    let l3mdevValue ← integerAttribute netns message "FRA_L3MDEV"
    let l3mdev := decide (l3mdevValue = some 1)
    Checks.raiseIf (l3mdevValue ≠ none ∧ l3mdevValue ≠ some 0 ∧ l3mdevValue ≠ some 1) (unsupportedInventoryRule netns "l3mdev")
    let suppressPrefix ← integerAttribute netns message "FRA_SUPPRESS_PREFIXLEN"
    let suppressGroup ← integerAttribute netns message "FRA_SUPPRESS_IFGROUP"
    if ignoreL3mdevKernelRule = true ∧ l3mdev = true ∧ identity.priority = 1000 ∧ identity.table = 0 ∧
        PlainRule identity message.attrNames ["FRA_L3MDEV"] suppressPrefix suppressGroup then
      pure none
    else if (identity.priority, identity.table) ∈ defaultRules ∧ l3mdev = false ∧
        PlainRule identity message.attrNames [] suppressPrefix suppressGroup then
      pure none
    else do
      let rule ← decodeDeclaredRule netns version message identity l3mdev suppressPrefix suppressGroup
      pure (some rule)

/-- The rules of one address family. -/
def inventoryRules (netns : String) (version : Nat) (ignoreL3mdevKernelRule : Bool) (messages : List Message) :
    Except NslabError (List PolicyRulePlan) := do
  let rules ← Checks.collect messages (decodeRule netns version ignoreL3mdevKernelRule)
  pure (Dict.fromKeys (rules.filterMap id))

end Inventory

section Attributes

variable {netns : String} {message : Message} {name : String}

/-- A range of numbers is read back. -/
theorem parseRange_text {first last : Int} (nonnegative : 0 ≤ first ∧ 0 ≤ last) :
    parseRange (toString first ++ ":" ++ toString last) = some (first, last) := by
  obtain ⟨first, rfl⟩ := Int.eq_ofNat_of_zero_le nonnegative.1
  obtain ⟨last, rfl⟩ := Int.eq_ofNat_of_zero_le nonnegative.2
  have digits : ∀ number : Nat, ∀ char ∈ Nat.toDigits 10 number, char ≠ '-' ∧ char ≠ ':' := by
    intro number char member
    have digit := Nat.isDigit_of_mem_toDigits (by decide) (by decide) member
    constructor
    · intro same
      subst same
      exact absurd digit (by decide)
    · intro same
      subst same
      exact absurd digit (by decide)
  have kept : ∀ number : Nat,
      (Nat.toDigits 10 number).map (fun char => if char = '-' then ':' else char) = Nat.toDigits 10 number := by
    intro number
    exact (List.map_congr_left fun char member => if_neg (digits number char member).1).trans (List.map_id' _)
  have text : (toString (first : Int) ++ ":" ++ toString (last : Int)).toList.map
      (fun char => if char = '-' then ':' else char) = Text.join ':' [Nat.toDigits 10 first, Nat.toDigits 10 last] := by
    simp only [String.toList_append, Text.toString_natCast, List.map_append, kept]
    simp [Text.join, List.intercalate, List.intersperse]
  rw [parseRange, text, Text.split_join (by simp)]
  · simp [Text.decimal?_toDigits]
  · simp only [List.mem_cons, List.not_mem_nil, or_false, forall_eq_or_imp, forall_eq]
    exact ⟨fun colon => (digits first ':' colon).2 rfl, fun colon => (digits last ':' colon).2 rfl⟩

theorem integerAttribute_of {value : Option Int} (found : message.attr name = value.map .int) :
    integerAttribute netns message name = .ok value := by
  rw [integerAttribute, found]
  cases value <;> rfl

/-- A range within its bounds. -/
def RangeWithin (maximum : Int) (range : Int × Int) : Prop := 0 ≤ range.1 ∧ range.1 ≤ range.2 ∧ range.2 ≤ maximum

theorem rangeAttribute_of {maximum : Int} {range : Option (Int × Int)} (found : message.attr name = range.map rangeText)
    (within : ∀ given ∈ range, RangeWithin maximum given) : rangeAttribute netns message name maximum = .ok range := by
  rw [rangeAttribute, found]
  cases range with
  | none => rfl
  | some range =>
    obtain ⟨first, last⟩ := range
    obtain ⟨low, ordered, high⟩ := within (first, last) rfl
    simp only at low ordered high
    have read : ((rangeText (first, last)).text?.bind parseRange) = some (first, last) :=
      parseRange_text ⟨low, le_trans low ordered⟩
    simp only [Option.map_some, read]
    rw [Checks.raiseIf_pass (by omega)]
    rfl

theorem networkSelector_of (netns : String) {version : Nat} {network : Option IPNetwork} (found : message.attr name = network.map networkAddress)
    (selects : ∀ given ∈ network, given.version = version ∧ 0 < given.prefixlen) :
    networkSelector netns version message name ((network.map fun network => (network.prefixlen : Int)).getD 0) = .ok network := by
  rw [networkSelector, found]
  cases network with
  | none =>
    have positive : ¬ ((0 : Int) < 0 ∨ maximumPrefixlen version < 0) := by
      unfold maximumPrefixlen
      split <;> omega
    simp only [Option.map_none, Option.getD_none, Checks.raiseIf_pass positive, ne_eq, not_true_eq_false]
    rfl
  | some network =>
    obtain ⟨own, positive⟩ := selects network rfl
    have bounded := network.bounded
    have range : ¬ ((network.prefixlen : Int) < 0 ∨ maximumPrefixlen version < network.prefixlen) := by
      have width : (network.address.width : Int) = maximumPrefixlen version := by
        rw [← own, maximumPrefixlen, IPNetwork.version]
        cases network.address <;> rfl
      omega
    have read := IPNetwork.parseLoose_chars network
    rw [own, IPNetwork.chars] at read
    simp only [Option.map_some, Option.getD_some, Checks.raiseIf_pass range, Checks.ok_bind, networkAddress, Value.text?,
      Option.bind_some, String.toList_ofList, Int.toNat_natCast, read]
    rw [if_neg (by omega)]
    rfl

end Attributes

end Nslab
