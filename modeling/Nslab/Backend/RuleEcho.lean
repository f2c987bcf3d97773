import Nslab.Backend.Rules

/-! What the inventory makes of messages that report the rules of a node. A rule
comes back as it was declared, unless the decoder takes it for the kernel's own. -/

namespace Nslab

open Netlink IpAddress

section Echo

/-- What validation establishes of a planned rule. -/
structure PolicyRulePlan.Wellformed (rule : PolicyRulePlan) : Prop where
  priority : 1 ≤ rule.priority ∧ rule.priority ≤ 4294967295
  protocol : 0 ≤ rule.protocol ∧ rule.protocol ≤ 255
  target : (rule.action = "lookup" ∧ rule.goto = none ∧ (rule.l3mdev = true ∧ rule.table = none ∨
      rule.l3mdev = false ∧ ∃ table, rule.table = some table ∧ 1 ≤ table ∧ table ≤ 4294967295)) ∨
    (rule.action = "goto" ∧ rule.table = none ∧ ∃ target, rule.goto = some target ∧ 1 ≤ target ∧ target ≤ 4294967295) ∨
    (rule.action ∈ ["nop", "blackhole", "unreachable", "prohibit"] ∧ rule.table = none ∧ rule.goto = none)
  suppressed : rule.action ≠ "lookup" → rule.suppressPrefixLength = none ∧ rule.suppressInterfaceGroup = none
  suppressPrefixLength : ∀ length ∈ rule.suppressPrefixLength, 0 ≤ length ∧ length ≤ maximumPrefixlen rule.family
  suppressInterfaceGroup : ∀ group ∈ rule.suppressInterfaceGroup, group ≠ unsetSuppression
  source : ∀ network ∈ rule.source, network.version = rule.family ∧ 0 < network.prefixlen
  destination : ∀ network ∈ rule.destination, network.version = rule.family ∧ 0 < network.prefixlen
  tos : ∀ tos ∈ rule.tos, 1 ≤ tos ∧ tos ≤ 255
  fwmask : rule.fwmask ≠ none → rule.fwmark ≠ none
  ipProtocol : ∀ number ∈ rule.ipProtocol, 0 ≤ number ∧ number ≤ 255
  ports : rule.sourcePort ≠ none ∨ rule.destinationPort ≠ none → rule.ipProtocol ≠ none
  sourcePort : ∀ range ∈ rule.sourcePort, RangeWithin 65535 range
  destinationPort : ∀ range ∈ rule.destinationPort, RangeWithin 65535 range
  uidRange : ∀ range ∈ rule.uidRange, RangeWithin 4294967295 range
  tunnelId : ∀ id ∈ rule.tunnelId, 0 ≤ id ∧ id ≤ 18446744073709551615
  realms : ∀ realms ∈ rule.realms, (0 ≤ realms.1 ∧ realms.1 ≤ 65535) ∧ (0 ≤ realms.2 ∧ realms.2 ≤ 65535) ∧
    (realms.1 ≠ 0 ∨ realms.2 ≠ 0)

namespace PolicyRulePlan

variable {rule : PolicyRulePlan} {message : Message} {netns : String}

/-- The code of the action of a rule. -/
def actionCode (rule : PolicyRulePlan) : Int := ((ruleActionToNetlink.lookup rule.action).bind fun action => kernelAction.lookup action).getD 0

/-- The numbers that the kernel reports of a rule. -/
def identity (rule : PolicyRulePlan) : RuleIdentity where
  table := rule.table.getD 0
  priority := rule.priority
  protocol := rule.protocol
  action := rule.actionCode
  flags := if rule.invert then fibRuleInvert else 0
  tos := rule.tos.getD 0
  sourcePrefixlen := (rule.source.map fun network => (network.prefixlen : Int)).getD 0
  destinationPrefixlen := (rule.destination.map fun network => (network.prefixlen : Int)).getD 0

theorem attr_eq (echoed : RuleEchoed (ruleArguments rule) message) {name : String} (allowed : name ∈ allowedRuleAttributes) :
    message.attr name = message.attributes.lookup name :=
  Message.attr_of_field (echoed.separate name allowed)

theorem attr_selector (echoed : RuleEchoed (ruleArguments rule) message) (argument name : String)
    (entry : (argument, name) ∈ selectorAttributes) : message.attr name = (ruleArguments rule).lookup argument := by
  have allowed : name ∈ allowedRuleAttributes := by
    have all : ∀ entry ∈ selectorAttributes, entry.2 ∈ allowedRuleAttributes := by decide
    exact all _ entry
  rw [attr_eq echoed allowed]
  exact echoed.selectors _ entry

theorem attr_table (echoed : RuleEchoed (ruleArguments rule) message) :
    message.attr "FRA_TABLE" = some (.int (rule.table.getD 0)) := by
  rw [attr_eq echoed (by decide), echoed.table]
  cases table : rule.table <;> simp [ruleArguments, lookup_present_cons, table]

/-- The protocol is zero when it is not reported. -/
theorem intAttr_protocol (echoed : RuleEchoed (ruleArguments rule) message) :
    message.intAttr "FRA_PROTOCOL" 0 = some rule.protocol := by
  have passed : (ruleArguments rule).lookup "protocol" = if rule.protocol = 0 then none else some (.int rule.protocol) := by
    simp [ruleArguments, lookup_present_cons]
  rw [Message.intAttr, attr_eq echoed (by decide)]
  by_cases zero : rule.protocol = 0
  · rw [if_pos zero] at passed
    cases echoed.protocol with
    | inl same => simp [same, passed, zero]
    | inr unset => simp [unset.2, Value.int?, zero]
  · rw [if_neg zero] at passed
    cases echoed.protocol with
    | inl same => simp [same, passed, Value.int?]
    | inr unset => simp [passed] at unset

/-- A suppression that is not declared is reported as unset, or not at all. -/
theorem attr_suppress (netns : String) (echoed : RuleEchoed (ruleArguments rule) message) (value : Option Int)
    (argument name : String)
    (entry : (argument, name) ∈ suppressAttributes) (passed : (ruleArguments rule).lookup argument = value.map .int)
    (declared : value ≠ some unsetSuppression) :
    ∃ reported, integerAttribute netns message name = .ok reported ∧ suppression reported = value ∧
      (value = none → reported = none ∨ reported = some unsetSuppression) := by
  have allowed : name ∈ allowedRuleAttributes := by
    have all : ∀ entry ∈ suppressAttributes, entry.2 ∈ allowedRuleAttributes := by decide
    exact all _ entry
  have found := echoed.suppress _ entry
  rw [passed, ← attr_eq echoed allowed] at found
  cases found with
  | inl same => exact ⟨value, integerAttribute_of same, if_neg declared, .inl⟩
  | inr unset =>
    obtain ⟨none, reported⟩ := unset
    rw [Option.map_eq_none_iff] at none
    subst none
    exact ⟨some unsetSuppression, integerAttribute_of reported, if_pos rfl, fun _ => .inr rfl⟩

theorem identity_echoed (echoed : RuleEchoed (ruleArguments rule) message) :
    ruleIdentity message = some rule.identity := by
  have priority : message.intAttr "FRA_PRIORITY" 0 = some rule.priority := by
    have reported := attr_selector echoed "priority" "FRA_PRIORITY" (by decide)
    rw [Message.intAttr, reported]
    simp [ruleArguments, lookup_present_cons, Value.int?]
  have header (name : String) (number : Int) (listed : name ∈ ["family", "src_len", "dst_len", "tos", "flags"])
      (passed : ((ruleArguments rule).lookup name).getD (.int 0) = .int number) : message.intField name 0 = some number := by
    rw [Message.intField, echoed.header name listed, passed]
    rfl
  have flags := header "flags" rule.identity.flags (by decide) (by
    cases invert : rule.invert <;> simp [ruleArguments, lookup_present_cons, identity, invert])
  have tos := header "tos" rule.identity.tos (by decide) (by
    cases tos : rule.tos <;> simp [ruleArguments, lookup_present_cons, identity, tos])
  have source := header "src_len" rule.identity.sourcePrefixlen (by decide) (by
    cases source : rule.source <;> simp [ruleArguments, lookup_present_cons, identity, source])
  have destination := header "dst_len" rule.identity.destinationPrefixlen (by decide) (by
    cases destination : rule.destination <;> simp [ruleArguments, lookup_present_cons, identity, destination])
  have action : message.intField "action" frActToTbl = some rule.actionCode := by
    obtain ⟨action, code, passed, coded, reported⟩ := echoed.action
    have named : (ruleActionToNetlink.lookup rule.action).map Value.text = some (.text action) := by
      rw [← passed]
      simp [ruleArguments, lookup_present_cons]
    rw [Option.map_eq_some_iff] at named
    obtain ⟨other, listed, same⟩ := named
    rw [Value.text.inj same] at listed
    rw [Message.intField, reported, actionCode, listed, Option.bind_some, coded]
    rfl
  simp only [ruleIdentity, attr_table echoed, Value.int?, priority, intAttr_protocol echoed, flags, tos, source, destination,
    action, Option.bind_eq_bind, Option.bind_some]
  rfl

theorem action_back (valid : rule.Wellformed) : ruleActionFromNetlink.lookup rule.actionCode = some rule.action := by
  have named : rule.action ∈ ["lookup", "goto", "nop", "blackhole", "unreachable", "prohibit"] := by
    obtain ⟨action, _⟩ | ⟨action, _⟩ | ⟨action, _⟩ := valid.target
    · simp [action]
    · simp [action]
    · simp only [List.mem_cons] at action ⊢
      tauto
  unfold actionCode
  generalize rule.action = action at named
  simp only [List.mem_cons, List.not_mem_nil, or_false] at named
  obtain rfl | rfl | rfl | rfl | rfl | rfl := named <;> rfl

theorem decodeRuleTarget_echoed (valid : rule.Wellformed) (echoed : RuleEchoed (ruleArguments rule) message) :
    decodeRuleTarget netns message rule.identity rule.action rule.l3mdev = .ok (rule.table, rule.goto) := by
  obtain ⟨action, goto, ⟨l3mdev, table⟩ | ⟨l3mdev, table, given, low, high⟩⟩ | ⟨action, table, target, goto, low, high⟩ |
    ⟨action, table, goto⟩ := valid.target
  · simp [decodeRuleTarget, action, l3mdev, identity, table, goto, Checks.raiseIf_pass, Checks.ok_bind, pure, Except.pure]
  · have range : ¬ (table < 1 ∨ 4294967295 < table) := by omega
    simp only [decodeRuleTarget, action, l3mdev, identity, given, goto, Option.getD_some, if_true, Bool.false_eq_true, if_false,
      Checks.raiseIf_pass range, Checks.ok_bind]
    rfl
  · have reported : message.attr "FRA_GOTO" = rule.goto.map .int :=
      (attr_selector echoed "goto" "FRA_GOTO" (by decide)).trans (by simp [ruleArguments, lookup_present_cons])
    have range : ¬ ((some target).all (fun target => target < 1 ∨ 4294967295 < target) = true) := by
      simp only [Option.all_some, decide_eq_true_eq]
      omega
    have other : ¬ ("goto" = "lookup") := by decide
    have none : ¬ ((0 : Int) ≠ 0) := by simp
    simp only [decodeRuleTarget, action, other, if_false, if_true, identity, table, Option.getD_none, Checks.raiseIf_pass none,
      Checks.ok_bind, integerAttribute_of reported, goto, Checks.raiseIf_pass range]
    rfl
  · have others : rule.action ≠ "lookup" ∧ rule.action ≠ "goto" := by
      constructor <;>
      · intro same
        rw [same] at action
        exact absurd action (by decide)
    have none : ¬ ((0 : Int) ≠ 0) := by simp
    simp only [decodeRuleTarget, others.1, others.2, if_false, identity, table, Option.getD_none, Checks.raiseIf_pass none,
      Checks.ok_bind, goto]
    rfl

/-- The realms that a flow is made of. -/
theorem realms_back {realms : Option (Int × Int)} (valid : ∀ given ∈ realms,
    (0 ≤ given.1 ∧ given.1 ≤ 65535) ∧ (0 ≤ given.2 ∧ given.2 ≤ 65535) ∧ (given.1 ≠ 0 ∨ given.2 ≠ 0)) :
    ((realms.map fun given => given.1 * 65536 + given.2).filter (· ≠ 0)).map
      (fun value => (value / 65536 % 65536, value % 65536)) = realms := by
  cases realms with
  | none => rfl
  | some realms =>
    obtain ⟨source, destination⟩ := realms
    obtain ⟨low, high, some⟩ := valid (source, destination) rfl
    simp only at low high some
    have nonzero : source * 65536 + destination ≠ 0 := by omega
    simp only [Option.map_some, Option.filter_some, nonzero, ne_eq, not_false_eq_true, decide_true, if_true, Option.some.injEq,
      Prod.mk.injEq]
    omega

theorem decodeDeclaredRule_echoed (valid : rule.Wellformed) (echoed : RuleEchoed (ruleArguments rule) message)
    {suppressPrefix suppressGroup : Option Int} (byPrefix : suppression suppressPrefix = rule.suppressPrefixLength)
    (byGroup : suppression suppressGroup = rule.suppressInterfaceGroup) :
    decodeDeclaredRule netns rule.family message rule.identity rule.l3mdev suppressPrefix suppressGroup = .ok rule := by
  have selector (argument name : String) (value : Option Value) (entry : (argument, name) ∈ selectorAttributes)
      (passed : (ruleArguments rule).lookup argument = value) : message.attr name = value :=
    (attr_selector echoed argument name entry).trans passed
  have fwmark := selector "fwmark" "FRA_FWMARK" (rule.fwmark.map .int) (by decide)
    (by simp [ruleArguments, lookup_present_cons])
  have fwmask := selector "fwmask" "FRA_FWMASK" (rule.fwmask.map .int) (by decide)
    (by simp [ruleArguments, lookup_present_cons])
  have ipProtocol := selector "ip_proto" "FRA_IP_PROTO" (rule.ipProtocol.map .int) (by decide)
    (by simp [ruleArguments, lookup_present_cons])
  have sourcePort := selector "sport_range" "FRA_SPORT_RANGE" (rule.sourcePort.map rangeText)
    (by decide) (by simp [ruleArguments, lookup_present_cons])
  have destinationPort := selector "dport_range" "FRA_DPORT_RANGE" (rule.destinationPort.map rangeText) (by decide) (by simp [ruleArguments, lookup_present_cons])
  have uidRange := selector "uid_range" "FRA_UID_RANGE" (rule.uidRange.map rangeText)
    (by decide) (by simp [ruleArguments, lookup_present_cons])
  have flow := selector "flow" "FRA_FLOW" ((rule.realms.map fun realms => realms.1 * 65536 + realms.2).map .int) (by decide)
    (by simp [ruleArguments, lookup_present_cons, Function.comp_def])
  have tunnelId := selector "tun_id" "FRA_TUN_ID" (rule.tunnelId.map .int) (by decide)
    (by simp [ruleArguments, lookup_present_cons])
  have source := selector "src" "FRA_SRC" (rule.source.map networkAddress) (by decide)
    (by simp [ruleArguments, lookup_present_cons])
  have destination := selector "dst" "FRA_DST" (rule.destination.map networkAddress) (by decide)
    (by simp [ruleArguments, lookup_present_cons])
  have iif := selector "iifname" "FRA_IIFNAME" (rule.iif.map .text) (by decide)
    (by simp [ruleArguments, lookup_present_cons])
  have oif := selector "oifname" "FRA_OIFNAME" (rule.oif.map .text) (by decide)
    (by simp [ruleArguments, lookup_present_cons])
  have names : ¬ ∃ name ∈ message.attrNames, name ∉ allowedRuleAttributes := by
    intro both
    obtain ⟨name, listed, other⟩ := both
    exact other (echoed.names name listed)
  have priority : ¬ (rule.identity.priority < 1 ∨ 4294967295 < rule.identity.priority) := by
    have range := valid.priority
    simp only [identity]
    omega
  have protocol : ¬ (rule.identity.protocol < 0 ∨ 255 < rule.identity.protocol) := by
    have range := valid.protocol
    simp only [identity]
    omega
  have flags : ¬ (rule.identity.flags ≠ 0 ∧ rule.identity.flags ≠ fibRuleInvert) := by
    cases invert : rule.invert <;> simp [identity, invert]
  have goto : ¬ (rule.action ≠ "goto" ∧ "FRA_GOTO" ∈ message.attrNames) := by
    intro both
    obtain ⟨other, listed⟩ := both
    have absent : rule.goto = none := by
      obtain ⟨_, goto, _⟩ | ⟨action, _⟩ | ⟨_, _, goto⟩ := valid.target
      · exact goto
      · exact absurd action other
      · exact goto
    apply Message.lookup_of_mem_attrNames listed
    rw [echoed.selectors ("goto", "FRA_GOTO") (by decide)]
    simp [ruleArguments, lookup_present_cons, absent]
  have tos : ¬ (rule.identity.tos < 0 ∨ 255 < rule.identity.tos) ∧
      (if rule.identity.tos = 0 then none else some rule.identity.tos) = rule.tos := by
    cases given : rule.tos with
    | none => simp [identity, given]
    | some tos =>
      have range := valid.tos tos given
      simp only [identity, given, Option.getD_some]
      exact ⟨by omega, if_neg (by omega)⟩
  have suppressPrefixLength : ¬ (rule.suppressPrefixLength.any
      (fun length => length < 0 ∨ maximumPrefixlen rule.family < length) = true) := by
    rw [Option.any_eq_true]
    intro both
    obtain ⟨length, given, outside⟩ := both
    have range := valid.suppressPrefixLength length given
    simp only [decide_eq_true_eq] at outside
    omega
  have suppressed : ¬ (rule.action ≠ "lookup" ∧ (rule.suppressPrefixLength ≠ none ∨ rule.suppressInterfaceGroup ≠ none)) := by
    intro both
    obtain ⟨other, given⟩ := both
    have absent := valid.suppressed other
    simp [absent] at given
  have masked : ¬ (rule.fwmask ≠ none ∧ rule.fwmark = none) := fun both => valid.fwmask both.1 both.2
  have number : ¬ (rule.ipProtocol.any (fun number => number < 0 ∨ 255 < number) = true) := by
    rw [Option.any_eq_true]
    intro both
    obtain ⟨number, given, outside⟩ := both
    have range := valid.ipProtocol number given
    simp only [decide_eq_true_eq] at outside
    omega
  have ports : ¬ ((rule.sourcePort ≠ none ∨ rule.destinationPort ≠ none) ∧ rule.ipProtocol = none) :=
    fun both => valid.ports both.1 both.2
  have tunnel : ¬ (rule.tunnelId.any (fun id => id < 0 ∨ 18446744073709551615 < id) = true) := by
    rw [Option.any_eq_true]
    intro both
    obtain ⟨id, given, outside⟩ := both
    have range := valid.tunnelId id given
    simp only [decide_eq_true_eq] at outside
    omega
  have invert : flag rule.identity.flags fibRuleInvert = rule.invert := by
    cases invert : rule.invert <;> simp [identity, invert, flag, fibRuleInvert]
  have sourceNetwork := networkSelector_of netns source valid.source
  have destinationNetwork := networkSelector_of netns destination valid.destination
  have text : ∀ name : Option String, (name.map Value.text).bind Value.text? = name := by
    intro name
    cases name <;> rfl
  change networkSelector _ _ _ _ rule.identity.sourcePrefixlen = _ at sourceNetwork
  change networkSelector _ _ _ _ rule.identity.destinationPrefixlen = _ at destinationNetwork
  have action : ruleActionFromNetlink.lookup rule.identity.action = some rule.action := action_back valid
  simp only [decodeDeclaredRule, Checks.raiseIf_pass names, Checks.raiseIf_pass priority, Checks.raiseIf_pass protocol, action,
    Checks.raiseIf_pass flags, Checks.raiseIf_pass goto, Checks.raiseIf_pass tos.1, byPrefix, byGroup,
    Checks.raiseIf_pass suppressPrefixLength, decodeRuleTarget_echoed valid echoed, Checks.raiseIf_pass suppressed,
    integerAttribute_of fwmark, integerAttribute_of fwmask, Checks.raiseIf_pass masked, integerAttribute_of ipProtocol,
    Checks.raiseIf_pass number, rangeAttribute_of sourcePort valid.sourcePort,
    rangeAttribute_of destinationPort valid.destinationPort, Checks.raiseIf_pass ports,
    rangeAttribute_of uidRange valid.uidRange, integerAttribute_of flow, realms_back valid.realms,
    integerAttribute_of tunnelId, Checks.raiseIf_pass tunnel, sourceNetwork, destinationNetwork, tos.2, invert, iif, oif, text,
    Checks.ok_bind]
  rfl

/-- A rule without selectors that has an identity of a rule of the kernel. -/
def LikeDefault (rule : PolicyRulePlan) : Prop :=
  (rule.priority, rule.table.getD 0) ∈ defaultRules ∧ (rule.protocol = 0 ∨ rule.protocol = rtprotKernel) ∧
    rule = { priority := rule.priority, family := rule.family, table := rule.table, protocol := rule.protocol }

instance (rule : PolicyRulePlan) : Decidable rule.LikeDefault :=
  decidable_of_iff (defaultRules.contains (rule.priority, rule.table.getD 0) = true ∧
    (rule.protocol = 0 ∨ rule.protocol = rtprotKernel) ∧
      rule = { priority := rule.priority, family := rule.family, table := rule.table, protocol := rule.protocol }) (by
    rw [List.contains_iff_mem]
    exact Iff.rfl)

/-- The selectors that stand in no rule of the kernel. -/
theorem unselected_of_names (echoed : RuleEchoed (ruleArguments rule) message) {more : List String}
    (names : ∀ name ∈ message.attrNames, name ∈ defaultRuleAttributes ++ more) {argument name : String}
    (entry : (argument, name) ∈ selectorAttributes) (special : name ∉ defaultRuleAttributes ++ more) :
    (ruleArguments rule).lookup argument = none := by
  rw [← echoed.selectors _ entry]
  cases found : message.attributes.lookup name with
  | none => rfl
  | some value => exact absurd (names name (Message.mem_attrNames found)) special

theorem like_default_of_plain (valid : rule.Wellformed) (echoed : RuleEchoed (ruleArguments rule) message)
    {suppressPrefix suppressGroup : Option Int} (byPrefix : suppression suppressPrefix = rule.suppressPrefixLength)
    (byGroup : suppression suppressGroup = rule.suppressInterfaceGroup) (l3mdev : rule.l3mdev = false)
    (identity : (rule.priority, rule.table.getD 0) ∈ defaultRules)
    (plain : PlainRule rule.identity message.attrNames [] suppressPrefix suppressGroup) : rule.LikeDefault := by
  obtain ⟨protocol, action, flags, tos, source, destination, names, prefixUnset, groupUnset⟩ := plain
  have unselected (argument name : String) (value : Option Value) (entry : (argument, name) ∈ selectorAttributes)
      (special : name ∉ defaultRuleAttributes ++ [])
      (passed : (ruleArguments rule).lookup argument = value) : value = none :=
    passed.symm.trans (unselected_of_names echoed names entry special)
  have fwmark := unselected "fwmark" "FRA_FWMARK" (rule.fwmark.map .int) (by decide) (by decide)
    (by simp [ruleArguments, lookup_present_cons])
  have fwmask := unselected "fwmask" "FRA_FWMASK" (rule.fwmask.map .int) (by decide) (by decide)
    (by simp [ruleArguments, lookup_present_cons])
  have ipProtocol := unselected "ip_proto" "FRA_IP_PROTO" (rule.ipProtocol.map .int) (by decide)
    (by decide) (by simp [ruleArguments, lookup_present_cons])
  have sourcePort := unselected "sport_range" "FRA_SPORT_RANGE" (rule.sourcePort.map rangeText)
    (by decide) (by decide) (by simp [ruleArguments, lookup_present_cons])
  have destinationPort := unselected "dport_range" "FRA_DPORT_RANGE" (rule.destinationPort.map rangeText) (by decide) (by decide) (by simp [ruleArguments, lookup_present_cons])
  have uidRange := unselected "uid_range" "FRA_UID_RANGE" (rule.uidRange.map rangeText)
    (by decide) (by decide) (by simp [ruleArguments, lookup_present_cons])
  have flow := unselected "flow" "FRA_FLOW" (rule.realms.map fun realms => .int (realms.1 * 65536 + realms.2)) (by decide) (by decide)
    (by simp [ruleArguments, lookup_present_cons])
  have tunnelId := unselected "tun_id" "FRA_TUN_ID" (rule.tunnelId.map .int) (by decide)
    (by decide) (by simp [ruleArguments, lookup_present_cons])
  have iif := unselected "iifname" "FRA_IIFNAME" (rule.iif.map .text) (by decide) (by decide)
    (by simp [ruleArguments, lookup_present_cons])
  have oif := unselected "oifname" "FRA_OIFNAME" (rule.oif.map .text) (by decide) (by decide)
    (by simp [ruleArguments, lookup_present_cons])
  rw [Option.map_eq_none_iff] at fwmark fwmask ipProtocol sourcePort destinationPort uidRange flow tunnelId iif oif
  have lookup : rule.action = "lookup" := by
    have back := action_back valid
    rw [show rule.actionCode = 1 from action] at back
    exact (Option.some.inj back).symm
  have goto : rule.goto = none := by
    obtain ⟨_, goto, _⟩ | ⟨other, _⟩ | ⟨other, _⟩ := valid.target
    · exact goto
    · rw [lookup] at other
      exact absurd other (by decide)
    · rw [lookup] at other
      exact absurd other (by decide)
  have invert : rule.invert = false := by
    cases invert : rule.invert with
    | false => rfl
    | true => simp [PolicyRulePlan.identity, invert, fibRuleInvert] at flags
  have untossed : rule.tos = none := by
    cases given : rule.tos with
    | none => rfl
    | some value =>
      have range := valid.tos value given
      simp only [PolicyRulePlan.identity, given, Option.getD_some] at tos
      omega
  have anywhere : rule.source = none := by
    cases given : rule.source with
    | none => rfl
    | some network =>
      have range := (valid.source network given).2
      simp only [PolicyRulePlan.identity, given, Option.map_some, Option.getD_some] at source
      omega
  have anywhereTo : rule.destination = none := by
    cases given : rule.destination with
    | none => rfl
    | some network =>
      have range := (valid.destination network given).2
      simp only [PolicyRulePlan.identity, given, Option.map_some, Option.getD_some] at destination
      omega
  have prefixFree : rule.suppressPrefixLength = none := by
    rw [← byPrefix]
    cases prefixUnset with
    | inl unset => simp [suppression, unset]
    | inr unset => simp [suppression, unset]
  have groupFree : rule.suppressInterfaceGroup = none := by
    rw [← byGroup]
    cases groupUnset with
    | inl unset => simp [suppression, unset]
    | inr unset => simp [suppression, unset]
  refine ⟨identity, protocol, ?_⟩
  cases rule
  simp_all

/-- A rule without selectors is reported like those of the kernel. -/
theorem plain_of_like_default (echoed : RuleEchoed (ruleArguments rule) message) (like : rule.LikeDefault)
    {suppressPrefix suppressGroup : Option Int} (prefixUnset : suppressPrefix = none ∨ suppressPrefix = some unsetSuppression)
    (groupUnset : suppressGroup = none ∨ suppressGroup = some unsetSuppression) :
    PlainRule rule.identity message.attrNames [] suppressPrefix suppressGroup := by
  obtain ⟨_, protocol, shape⟩ := like
  refine ⟨protocol, ?_, ?_, ?_, ?_, ?_, ?_, prefixUnset, groupUnset⟩
  · rw [shape]
    rfl
  · rw [shape]
    rfl
  · rw [shape]
    rfl
  · rw [shape]
    rfl
  · rw [shape]
    rfl
  · intro name listed
    rw [List.append_nil]
    by_contra special
    have allowed := echoed.names name listed
    have selector : ∀ name ∈ allowedRuleAttributes, name ∉ defaultRuleAttributes →
        ∃ entry ∈ selectorAttributes, entry.1 ≠ "priority" ∧ entry.2 = name := by decide
    obtain ⟨⟨argument, _⟩, entry, other, rfl⟩ := selector name allowed special
    apply Message.lookup_of_mem_attrNames listed
    rw [echoed.selectors _ entry, shape]
    have passed : ∀ entry ∈ selectorAttributes, entry.1 ≠ "priority" → (ruleArguments
        { priority := rule.priority, family := rule.family, table := rule.table, protocol := rule.protocol }).lookup entry.1 = none := by
      simp only [selectorAttributes, List.mem_cons, List.not_mem_nil, or_false, forall_eq_or_imp, forall_eq]
      simp [ruleArguments, lookup_present_cons]
    exact passed _ entry other

theorem attr_l3mdev (echoed : RuleEchoed (ruleArguments rule) message) :
    integerAttribute netns message "FRA_L3MDEV" = .ok (if rule.l3mdev then some 1 else none) := by
  apply integerAttribute_of
  rw [attr_selector echoed "l3mdev" "FRA_L3MDEV" (by decide)]
  cases l3mdev : rule.l3mdev <;> simp [ruleArguments, lookup_present_cons, l3mdev]

/-- A declared rule comes back as it is, unless it is like a rule of the kernel. -/
theorem decodeRule_echoed (netns : String) (vrfs : Bool) (valid : rule.Wellformed)
    (echoed : RuleEchoed (ruleArguments rule) message) (reserved : vrfs = true → rule.priority ≠ 1000) :
    decodeRule netns rule.family vrfs message = .ok (if rule.LikeDefault then none else some rule) := by
  obtain ⟨suppressPrefix, readPrefix, byPrefix, prefixUnset⟩ := attr_suppress netns echoed rule.suppressPrefixLength "suppress_prefixlen" "FRA_SUPPRESS_PREFIXLEN" (by decide)
    (by simp [ruleArguments, lookup_present_cons]) (by
      intro unset
      have range := valid.suppressPrefixLength _ unset
      unfold unsetSuppression maximumPrefixlen at range
      split at range <;> omega)
  obtain ⟨suppressGroup, readGroup, byGroup, groupUnset⟩ := attr_suppress netns echoed rule.suppressInterfaceGroup "suppress_ifgroup" "FRA_SUPPRESS_IFGROUP" (by decide)
    (by simp [ruleArguments, lookup_present_cons]) (fun unset => valid.suppressInterfaceGroup _ unset rfl)
  have l3mdev : decide ((if rule.l3mdev then some (1 : Int) else none) = some 1) = rule.l3mdev := by
    cases rule.l3mdev <;> rfl
  have known : ¬ ((if rule.l3mdev then some (1 : Int) else none) ≠ none ∧
      (if rule.l3mdev then some (1 : Int) else none) ≠ some 0 ∧ (if rule.l3mdev then some (1 : Int) else none) ≠ some 1) := by
    cases rule.l3mdev <;> simp
  simp only [decodeRule, identity_echoed echoed, attr_l3mdev echoed, readPrefix, readGroup, Checks.ok_bind, l3mdev,
    Checks.raiseIf_pass known, decodeDeclaredRule_echoed valid echoed byPrefix byGroup]
  rw [if_neg fun kernel => reserved kernel.1 kernel.2.2.1]
  by_cases like : rule.LikeDefault
  · have free := like.2.2
    have plain := plain_of_like_default echoed like (prefixUnset (by rw [free])) (groupUnset (by rw [free]))
    rw [if_pos like, if_pos ⟨like.1, by rw [free], plain⟩]
    rfl
  · rw [if_neg like, if_neg fun kernel => like (like_default_of_plain valid echoed byPrefix byGroup kernel.2.1 kernel.1 kernel.2.2)]
    rfl

/-- A message that reports a rule. -/
def report (rule : PolicyRulePlan) : Message where
  fields := ("action", .int rule.actionCode) :: ["family", "src_len", "dst_len", "tos", "flags"].map fun name =>
    (name, ((ruleArguments rule).lookup name).getD (.int 0))
  attributes := ("FRA_TABLE", ((ruleArguments rule).lookup "table").getD (.int 0)) ::
    ("FRA_SUPPRESS_PREFIXLEN", ((ruleArguments rule).lookup "suppress_prefixlen").getD (.int unsetSuppression)) ::
    ("FRA_SUPPRESS_IFGROUP", ((ruleArguments rule).lookup "suppress_ifgroup").getD (.int unsetSuppression)) ::
    ("FRA_PROTOCOL", ((ruleArguments rule).lookup "protocol").getD (.int 0)) ::
    present (selectorAttributes.map fun entry => (entry.2, (ruleArguments rule).lookup entry.1))

theorem report_echoed (valid : rule.Wellformed) : RuleEchoed (ruleArguments rule) rule.report := by
  have unset (value : Option Value) (default : Value) : some (value.getD default) = value ∨
      value = none ∧ some (value.getD default) = some default := by
    cases value with
    | none => exact .inr ⟨rfl, rfl⟩
    | some value => exact .inl rfl
  constructor
  · intro name listed
    simp only [List.mem_cons, List.not_mem_nil, or_false] at listed
    obtain rfl | rfl | rfl | rfl | rfl := listed <;> rfl
  · have action : (ruleArguments rule).lookup "action" = (ruleActionToNetlink.lookup rule.action).map .text := by
      simp [ruleArguments, lookup_present_cons]
    rw [action]
    have back := action_back valid
    change ∃ action code, _ ∧ _ ∧ some (Value.int rule.actionCode) = some (.int code)
    unfold actionCode at back ⊢
    cases named : ruleActionToNetlink.lookup rule.action with
    | none => simp [named, ruleActionFromNetlink, List.lookup_cons] at back
    | some name =>
      rw [named, Option.bind_some] at back
      cases coded : kernelAction.lookup name with
      | none => simp [coded, ruleActionFromNetlink, List.lookup_cons] at back
      | some code => exact ⟨name, code, rfl, coded, by rw [Option.bind_some, coded]; rfl⟩
  · rfl
  · have distinct : ∀ entry ∈ selectorAttributes, entry.2 ≠ "FRA_TABLE" ∧ entry.2 ≠ "FRA_SUPPRESS_PREFIXLEN" ∧
        entry.2 ≠ "FRA_SUPPRESS_IFGROUP" ∧ entry.2 ≠ "FRA_PROTOCOL" := by decide
    intro entry member
    obtain ⟨table, shorter, group, protocol⟩ := distinct entry member
    simp only [report, Dict.lookup_cons_if, table, shorter, group, protocol, if_false]
    have all : ∀ entry ∈ selectorAttributes, (present (selectorAttributes.map fun entry =>
        (entry.2, (ruleArguments rule).lookup entry.1))).lookup entry.2 = (ruleArguments rule).lookup entry.1 := by
      generalize ruleArguments rule = arguments
      simp only [selectorAttributes, List.mem_cons, List.not_mem_nil, or_false, forall_eq_or_imp, forall_eq, List.map_cons,
        List.map_nil]
      simp [lookup_present_cons]
    exact all entry member
  · exact unset _ _
  · intro entry member
    simp only [suppressAttributes, List.mem_cons, List.not_mem_nil, or_false] at member
    obtain rfl | rfl := member
    · exact unset _ _
    · exact unset _ _
  · intro name listed
    obtain ⟨entry, member, rfl⟩ := List.mem_map.mp listed
    simp only [report, List.mem_cons] at member
    obtain rfl | rfl | rfl | rfl | selector := member
    · exact (by decide : "FRA_TABLE" ∈ allowedRuleAttributes)
    · exact (by decide : "FRA_SUPPRESS_PREFIXLEN" ∈ allowedRuleAttributes)
    · exact (by decide : "FRA_SUPPRESS_IFGROUP" ∈ allowedRuleAttributes)
    · exact (by decide : "FRA_PROTOCOL" ∈ allowedRuleAttributes)
    · obtain ⟨argument, inside, shape⟩ := List.mem_filterMap.mp selector
      obtain ⟨original, within, rfl⟩ := List.mem_map.mp inside
      obtain ⟨value, _, rfl⟩ := Option.map_eq_some_iff.mp shape
      have all : ∀ entry ∈ selectorAttributes, entry.2 ∈ allowedRuleAttributes := by decide
      exact all original within
  · intro name allowed
    have apart : ∀ name ∈ allowedRuleAttributes, name ∉ ["action", "family", "src_len", "dst_len", "tos", "flags"] := by decide
    have other := apart name allowed
    simp only [List.mem_cons, List.not_mem_nil, or_false, not_or] at other
    simp [report, Message.field, Dict.lookup_cons_if, other]

end PolicyRulePlan

/-- The rules of the kernel are passed over. -/
theorem decodeRule_kernel {vrfs : Bool} {message : Message} (kernel : KernelRule vrfs message) (netns : String) (version : Nat) :
    decodeRule netns version vrfs message = .ok none := by
  obtain ⟨priority, table, l3mdev, named, reported, tabled, marked, names⟩ := kernel.identity
  have header (name : String) (listed : name ∈ ["src_len", "dst_len", "tos", "flags"]) : message.intField name 0 = some 0 := by
    rw [Message.intField, kernel.header name listed]
    rfl
  have action : message.intField "action" frActToTbl = some frActToTbl := by
    rw [Message.intField, kernel.action]
    rfl
  have prioritized : message.intAttr "FRA_PRIORITY" 0 = some priority := by
    cases reported with
    | inl given =>
      rw [Message.intAttr, given]
      rfl
    | inr absent => rw [Message.intAttr, absent.2, absent.1]
  obtain ⟨protocol, read, usual⟩ : ∃ protocol, message.intAttr "FRA_PROTOCOL" 0 = some protocol ∧
      (protocol = 0 ∨ protocol = rtprotKernel) := by
    obtain none | zero | own := kernel.protocol
    · exact ⟨0, by rw [Message.intAttr, none], .inl rfl⟩
    · exact ⟨0, by rw [Message.intAttr, zero]; rfl, .inl rfl⟩
    · exact ⟨rtprotKernel, by rw [Message.intAttr, own]; rfl, .inr rfl⟩
  have suppress (argument name : String) (entry : (argument, name) ∈ suppressAttributes) :
      ∃ value, integerAttribute netns message name = .ok value ∧ (value = none ∨ value = some unsetSuppression) := by
    cases kernel.suppress _ entry with
    | inl absent => exact ⟨none, integerAttribute_of absent, .inl rfl⟩
    | inr unset => exact ⟨some unsetSuppression, integerAttribute_of unset, .inr rfl⟩
  obtain ⟨suppressPrefix, readPrefix, prefixUnset⟩ := suppress "suppress_prefixlen" "FRA_SUPPRESS_PREFIXLEN" (by decide)
  obtain ⟨suppressGroup, readGroup, groupUnset⟩ := suppress "suppress_ifgroup" "FRA_SUPPRESS_IFGROUP" (by decide)
  have identity : ruleIdentity message = some ⟨table, priority, protocol, frActToTbl, 0, 0, 0, 0⟩ := by
    simp only [ruleIdentity, tabled, Value.int?, prioritized, read, action, header "flags" (by decide),
      header "tos" (by decide), header "src_len" (by decide), header "dst_len" (by decide),
      Option.bind_eq_bind, Option.bind_some]
  obtain ⟨default, unmarked⟩ | ⟨withVrfs, numbered, unset, own⟩ := named
  · subst unmarked
    have plain : PlainRule ⟨table, priority, protocol, frActToTbl, 0, 0, 0, 0⟩ message.attrNames [] suppressPrefix suppressGroup := by
      refine ⟨usual, rfl, rfl, rfl, rfl, rfl, fun name listed => ?_, prefixUnset, groupUnset⟩
      cases names name listed with
      | inl usual => simpa using usual
      | inr marked => exact absurd rfl marked.2
    have unmarked : integerAttribute netns message "FRA_L3MDEV" = .ok none := integerAttribute_of marked
    have known : ¬ ((none : Option Int) ≠ none ∧ (none : Option Int) ≠ some 0 ∧ (none : Option Int) ≠ some 1) := by simp
    simp only [decodeRule, identity, unmarked, readPrefix, readGroup, Checks.ok_bind, Checks.raiseIf_pass known]
    rw [if_neg (by simp), if_pos ⟨default, by simp, plain⟩]
    rfl
  · subst own numbered unset
    have plain : PlainRule ⟨0, 1000, protocol, frActToTbl, 0, 0, 0, 0⟩ message.attrNames ["FRA_L3MDEV"] suppressPrefix
        suppressGroup := by
      refine ⟨usual, rfl, rfl, rfl, rfl, rfl, fun name listed => ?_, prefixUnset, groupUnset⟩
      cases names name listed with
      | inl usual => exact List.mem_append_left _ usual
      | inr marked => simp [marked.1]
    have marked : integerAttribute netns message "FRA_L3MDEV" = .ok (some 1) := integerAttribute_of marked
    have known : ¬ (some (1 : Int) ≠ none ∧ some (1 : Int) ≠ some 0 ∧ some (1 : Int) ≠ some 1) := by simp
    simp only [decodeRule, identity, marked, readPrefix, readGroup, Checks.ok_bind, Checks.raiseIf_pass known]
    rw [if_pos ⟨withVrfs, by simp, trivial, trivial, plain⟩]
    rfl

end Echo

section Accepted

open Schema

theorem version_cases (network : IPNetwork) : network.version = 4 ∨ network.version = 6 := by
  unfold IPNetwork.version
  cases network.address with
  | v4 => exact .inl rfl
  | v6 => exact .inr rfl

theorem ruleSelection_mem {network : Option IPNetwork} {selected : IPNetwork} (member : selected ∈ ruleSelection network) :
    network = some selected ∧ 0 < selected.prefixlen := by
  obtain ⟨given, same, shape⟩ := Option.bind_eq_some_iff.mp member
  split at shape
  next => cases shape
  next positive =>
    rw [ipNetwork_eq, Option.some.injEq] at shape
    subst shape
    exact ⟨same, Nat.pos_of_ne_zero positive⟩

theorem ruleRange_within {bound : Codec Int} [bound.Exact] {label : String} {maximum : Int} {range : Option RangeConfig}
    (bounded : ∀ value, bound.holds value → 0 ≤ value ∧ value ≤ maximum) (holds : ∀ given ∈ range, (ruleRange bound label).holds given) :
    ∀ given ∈ range.map RangeConfig.pair, RangeWithin maximum given := by
  intro given member
  obtain ⟨config, declared, rfl⟩ := Option.map_eq_some_iff.mp member
  obtain ⟨⟨first, last⟩, ordered⟩ := holds config declared
  rw [Checks.raiseIf_ok, Int.not_lt] at ordered
  exact ⟨(bounded _ first).1, ordered, (bounded _ last).2⟩

theorem nonzero_mem {value : Option Int} {given : Int} (member : given ∈ nonzero value) : value = some given ∧ given ≠ 0 := by
  unfold nonzero at member
  split at member
  next => cases member
  next other => exact ⟨member, fun zero => other (zero ▸ member)⟩

/-- What the validator establishes of a rule holds of the rule that is planned. -/
theorem compileRule_wellformed {config : PolicyRuleConfig} (holds : policyRule.holds config) :
    (compileRule config).Wellformed := by
  obtain ⟨⟨⟨⟨target, selector⟩, origin⟩, options⟩, valid⟩ := holds
  obtain ⟨⟨⟨⟨priority, _⟩, _⟩, table⟩, goto⟩ := target
  obtain ⟨⟨⟨⟨⟨_, _⟩, _⟩, tos⟩, fwmark⟩, fwmask⟩ := selector
  obtain ⟨⟨⟨⟨⟨_, _⟩, _⟩, uidRange⟩, protocol⟩, ipProtocol⟩ := origin
  obtain ⟨⟨⟨⟨⟨sourcePort, destinationPort⟩, tunnelId⟩, prefixLength⟩, group⟩, realms⟩ := options
  simp only [PolicyRuleConfig.validateRule, Checks.bind_ok, Checks.raiseIf_ok, Checks.ifSome_ok, Checks.each_ok,
    Checks.exists_unit, List.mem_cons, List.not_mem_nil, or_false, forall_eq_or_imp, forall_eq] at valid
  obtain ⟨⟨sourceVersion, destinationVersion⟩, _, masked, ports, suppressed, target⟩ := valid
  have range {lower upper : Int} {value : Option Int} (bounded : ∀ given ∈ value, (Codec.between lower upper).holds given) :
      ∀ given ∈ value, lower ≤ given ∧ given ≤ upper := fun given member => Codec.holds_between.mp (bounded given member)
  have selects {network : Option IPNetwork} (own : ¬ network.any (fun network => network.version ≠ config.ipVersion) = true) :
      ∀ given ∈ ruleSelection network, given.version = config.ipVersion ∧ 0 < given.prefixlen := by
    intro given member
    obtain ⟨declared, positive⟩ := ruleSelection_mem member
    rw [declared] at own
    simp only [Option.any_some, decide_eq_true_eq, not_not] at own
    exact ⟨own, positive⟩
  refine {
    priority := Codec.holds_between.mp priority
    protocol := Codec.holds_between.mp protocol
    target := ?_
    suppressed := ?_
    suppressPrefixLength := ?_
    suppressInterfaceGroup := ?_
    source := selects sourceVersion
    destination := selects destinationVersion
    tos := ?_
    fwmask := ?_
    ipProtocol := ?_
    ports := ?_
    sourcePort := ruleRange_within (fun _ => Codec.holds_between.mp) sourcePort
    destinationPort := ruleRange_within (fun _ => Codec.holds_between.mp) destinationPort
    uidRange := ruleRange_within (fun _ => Codec.holds_between.mp) uidRange
    tunnelId := ?_
    realms := ?_ }
  · cases action : config.action with
    | lookup =>
      simp only [action, Checks.bind_ok, Checks.raiseIf_ok, Checks.exists_unit] at target
      refine .inl ⟨by simp [compileRule, action, PolicyRuleAction.name], by simpa [compileRule] using target.1, ?_⟩
      cases l3mdev : config.l3mdev with
      | true => exact .inl ⟨l3mdev, by simpa [compileRule, l3mdev] using target.2⟩
      | false =>
        have given := target.2
        simp only [l3mdev, Bool.false_eq_true, if_false, Checks.raiseIf_ok] at given
        obtain ⟨value, declared⟩ := Option.ne_none_iff_exists'.mp given
        exact .inr ⟨l3mdev, value, declared, range table value declared⟩
    | goto =>
      simp only [action, Checks.bind_ok, Checks.raiseIf_ok, Checks.exists_unit] at target
      obtain ⟨value, declared⟩ := Option.ne_none_iff_exists'.mp target.1
      exact .inr (.inl ⟨by simp [compileRule, action, PolicyRuleAction.name], by simpa [compileRule] using target.2.1, value, declared,
        range goto value declared⟩)
    | nop | blackhole | unreachable | prohibit =>
      simp only [action, Checks.bind_ok, Checks.raiseIf_ok, Checks.exists_unit, not_or, Option.not_isSome_iff_eq_none] at target
      exact .inr (.inr ⟨by simp [compileRule, action, PolicyRuleAction.name], target.1⟩)
  · intro other
    cases action : config.action with
    | lookup => exact absurd (by simp [compileRule, action, PolicyRuleAction.name]) other
    | goto =>
      simp only [action, Checks.bind_ok, Checks.raiseIf_ok, Checks.exists_unit, not_or, Option.not_isSome_iff_eq_none] at target
      exact target.2.2
    | nop | blackhole | unreachable | prohibit =>
      simp only [action, Checks.bind_ok, Checks.raiseIf_ok, Checks.exists_unit, not_or, Option.not_isSome_iff_eq_none] at target
      exact target.2
  · intro length member
    have low := range prefixLength length member
    have high := suppressed length member
    simp only [compileRule, maximumPrefixlen]
    split at high <;> simp_all
  · intro value member unset
    have high := (range group value member).2
    rw [unset, unsetSuppression] at high
    omega
  · intro value member
    obtain ⟨declared, other⟩ := nonzero_mem member
    have bounds := range tos value declared
    omega
  · intro given
    simp only [compileRule] at given ⊢
    intro unmarked
    simp [unmarked, policyRuleFwmask] at given
  · intro value member
    exact range ipProtocol value (nonzero_mem member).1
  · intro given none
    apply ports
    simp only [compileRule, ne_eq, Option.map_eq_none_iff] at given none
    refine ⟨by simpa [Option.isSome_iff_ne_none] using given, ?_⟩
    unfold nonzero at none
    split at none
    next zero => exact .inr zero
    next => exact .inl none
  · intro value member
    exact range tunnelId value (nonzero_mem member).1
  · intro given member
    obtain ⟨declared, stored, rfl⟩ := Option.map_eq_some_iff.mp member
    obtain ⟨⟨source, destination⟩, selected⟩ := realms declared stored
    rw [Checks.raiseIf_ok] at selected
    exact ⟨Codec.holds_between.mp source, Codec.holds_between.mp destination, by simp only; omega⟩

theorem LinuxNode.rules_of_holds {node : LinuxNode} (holds : nodeConfig.holds (.linux node)) :
    (∀ rule ∈ node.rules, policyRule.holds rule) ∧ (node.rules.map fun rule => (rule.ipVersion, rule.priority)).Nodup := by
  obtain ⟨⟨_, ⟨_, rules⟩⟩, _⟩ := holds
  have priorities := rules.2
  simp only [validateRulePriorities, Checks.bind_ok, Checks.distinct_ok, Checks.exists_unit] at priorities
  exact ⟨rules.1, priorities.1⟩

/-- Whether a node has VRFs, for which the kernel adds a rule. -/
def NodePlan.hasVrfs (node : NodePlan) : Bool := node.devices.values.any fun device => device.vrf?.isSome

namespace Manifest.Plans

variable {manifest : Manifest} {plan : TopologyPlan}

theorem rules_wellformed (plans : manifest.Plans plan) {node : NodePlan} (member : node ∈ plan.nodes.values) :
    (∀ rule ∈ node.rules, rule.Wellformed ∧ (node.hasVrfs = true → rule.priority ≠ 1000)) ∧ node.rules.Nodup := by
  obtain ⟨config, routes, _, shape, _, holds, _⟩ := plans.node (plans.found_of_mem member)
  cases config with
  | bridge config =>
    have none : node.rules = [] := by rw [shape]; rfl
    rw [none]
    exact ⟨List.forall_mem_nil _, List.nodup_nil⟩
  | linux config =>
    obtain ⟨rules, identities⟩ := LinuxNode.rules_of_holds holds
    have planned : node.rules = config.rules.map compileRule := by rw [shape]; rfl
    have vrfs : node.hasVrfs = true → config.devicesOf LinuxDeviceConfig.vrf? ≠ [] := by
      intro some none
      obtain ⟨device, inside, selected⟩ := List.any_eq_true.mp some
      obtain ⟨name, stored⟩ := Dict.mem_values_iff.mp inside
      rw [shape] at stored
      simp only [plannedNode, compileDevices, Dict.get?_map, Option.map_eq_some_iff] at stored
      obtain ⟨declared, found, rfl⟩ := stored
      cases declared with
      | vrf vrf =>
        have listed : (name, vrf) ∈ config.devicesOf LinuxDeviceConfig.vrf? :=
          List.mem_filterMap.mpr ⟨_, Dict.get?_iff.mp found, rfl⟩
        rw [none] at listed
        cases listed
      | vlan | bond | vxlan | geneve | gre | ipip | macvlan | ipvlan | dummy => cases selected
    rw [planned]
    constructor
    · intro rule inside
      obtain ⟨declared, listed, rfl⟩ := List.mem_map.mp inside
      refine ⟨compileRule_wellformed (rules declared listed), fun some => ?_⟩
      exact (LinuxNode.valid_of_holds holds).2.priority (vrfs some) declared listed
    · refine List.Nodup.of_map (fun rule : PolicyRulePlan => (rule.family, rule.priority)) ?_
      rw [List.map_map]
      exact identities

end Manifest.Plans

end Accepted

section RoundTrip

/-- The messages report the rules of one address family, in any order and among the rules of the kernel. -/
structure RulesReported (vrfs : Bool) (rules : List PolicyRulePlan) (messages : List Message) : Prop where
  each : ∀ message ∈ messages, KernelRule vrfs message ∨ ∃ rule ∈ rules, RuleEchoed (ruleArguments rule) message
  all : ∀ rule ∈ rules, ∃ message ∈ messages, RuleEchoed (ruleArguments rule) message

/-- The inventory of the rules of a node: those of each address family that it has rules of. -/
def inventoryNodeRules (node : NodePlan) (messages : Nat → List Message) : Except NslabError (List PolicyRulePlan) := do
  let rules ← Checks.collect (Dict.fromKeys (node.rules.map (·.family))) fun version =>
    inventoryRules node.netns version node.hasVrfs (messages version)
  pure rules.flatten

/-- The rules of a family come back, but for those that are like rules of the kernel. -/
theorem inventoryRules_reported {vrfs : Bool} {rules : List PolicyRulePlan} {messages : List Message} (netns : String)
    (version : Nat) (valid : ∀ rule ∈ rules, rule.Wellformed ∧ (vrfs = true → rule.priority ≠ 1000) ∧ rule.family = version)
    (reported : RulesReported vrfs rules messages) :
    ∃ decoded, inventoryRules netns version vrfs messages = .ok decoded ∧ decoded.Nodup ∧
      ∀ rule, rule ∈ decoded ↔ rule ∈ rules ∧ ¬ rule.LikeDefault := by
  have echo {rule : PolicyRulePlan} (listed : rule ∈ rules) {message : Message}
      (echoed : RuleEchoed (ruleArguments rule) message) :
      decodeRule netns version vrfs message = .ok (if rule.LikeDefault then none else some rule) := by
    obtain ⟨wellformed, reserved, rfl⟩ := valid rule listed
    exact PolicyRulePlan.decodeRule_echoed netns vrfs wellformed echoed reserved
  obtain ⟨results, collected⟩ := (@Checks.collect_total _ _ _ messages (decodeRule netns version vrfs)).mpr (by
    intro message member
    cases reported.each message member with
    | inl kernel => exact ⟨_, decodeRule_kernel kernel netns version⟩
    | inr declared =>
      obtain ⟨rule, listed, echoed⟩ := declared
      exact ⟨_, echo listed echoed⟩)
  refine ⟨Dict.fromKeys (results.filterMap id), by rw [inventoryRules, collected]; rfl, Dict.nodup_fromKeys _, fun rule => ?_⟩
  have related := Checks.collect_ok.mp collected
  rw [Dict.mem_fromKeys, List.mem_filterMap]
  constructor
  · intro given
    obtain ⟨result, inside, same⟩ := given
    obtain ⟨message, member, decoded⟩ := Checks.exists_of_mem_right related inside
    rw [id] at same
    subst same
    cases reported.each message member with
    | inl kernel =>
      rw [decodeRule_kernel kernel netns version] at decoded
      cases decoded
    | inr declared =>
      obtain ⟨other, listed, echoed⟩ := declared
      rw [echo listed echoed, Except.ok.injEq] at decoded
      split at decoded
      next => cases decoded
      next unlike =>
        rw [← Option.some.inj decoded]
        exact ⟨listed, unlike⟩
  · intro given
    obtain ⟨listed, unlike⟩ := given
    obtain ⟨message, member, echoed⟩ := reported.all rule listed
    obtain ⟨result, inside, decoded⟩ := Checks.exists_of_mem_left related member
    rw [echo listed echoed, if_neg unlike, Except.ok.injEq] at decoded
    exact ⟨result, inside, decoded.symm⟩

end RoundTrip

/-- The rules of a node come back exactly when none of them is like a rule of the kernel. -/
theorem inventoryNodeRules_iff {manifest : Manifest} {nameOverride : Option String} {plan : TopologyPlan}
    (accepted : manifest.Accepted) (compiled : compilePlan manifest nameOverride = .ok plan) {node : NodePlan}
    (member : node ∈ plan.nodes.values) {messages : Nat → List Message}
    (reported : ∀ version, RulesReported node.hasVrfs (node.rules.filter (·.family = version)) (messages version)) :
    (∃ decoded, inventoryNodeRules node messages = .ok decoded ∧ decoded.Perm node.rules) ↔
      ∀ rule ∈ node.rules, ¬ rule.LikeDefault := by
  obtain ⟨wellformed, distinct⟩ := (accepted.plans compiled).rules_wellformed member
  have family (version : Nat) := inventoryRules_reported node.netns version (by
    intro rule inside
    obtain ⟨listed, own⟩ := List.mem_filter.mp inside
    exact ⟨(wellformed rule listed).1, (wellformed rule listed).2, of_decide_eq_true own⟩) (reported version)
  choose decoded read once members using family
  have inventory : inventoryNodeRules node messages = .ok ((Dict.fromKeys (node.rules.map (·.family))).flatMap decoded) := by
    rw [inventoryNodeRules, Checks.collect_map fun version _ => read version, Checks.ok_bind, List.flatten_eq_flatMap,
      List.flatMap_map]
    rfl
  have listed : ∀ rule, rule ∈ (Dict.fromKeys (node.rules.map (·.family))).flatMap decoded ↔
      rule ∈ node.rules ∧ ¬ rule.LikeDefault := by
    intro rule
    simp only [List.mem_flatMap, Dict.mem_fromKeys, List.mem_map, members, List.mem_filter, decide_eq_true_eq]
    constructor
    · intro given
      obtain ⟨_, _, ⟨inside, _⟩, unlike⟩ := given
      exact ⟨inside, unlike⟩
    · intro given
      obtain ⟨inside, unlike⟩ := given
      exact ⟨rule.family, ⟨rule, inside, rfl⟩, ⟨inside, rfl⟩, unlike⟩
  constructor
  · intro given rule inside like
    obtain ⟨rules, told, perm⟩ := given
    rw [inventory, Except.ok.injEq] at told
    subst told
    exact ((listed rule).mp (perm.mem_iff.mpr inside)).2 like
  · intro unlike
    refine ⟨_, inventory, (List.perm_ext_iff_of_nodup ?_ distinct).mpr fun rule => ?_⟩
    · refine List.nodup_flatMap.mpr ⟨fun version _ => once version, ?_⟩
      refine (Dict.nodup_fromKeys _).imp fun {left right} other => ?_
      intro rule inLeft inRight
      have own := (List.mem_filter.mp ((members left rule).mp inLeft).1).2
      have same := (List.mem_filter.mp ((members right rule).mp inRight).1).2
      exact other ((of_decide_eq_true own).symm.trans (of_decide_eq_true same))
    · rw [listed rule]
      exact ⟨And.left, fun inside => ⟨inside, unlike rule inside⟩⟩

section Examples

/-- A node with one rule. -/
def singleRuleDocument (priority table : Int) : Document :=
  .dict [("version", .int 1), ("name", .str "lab"), ("topology", .dict [
    ("nodes", .dict [
      ("r", .dict [("kind", .str "linux"), ("rules", .list [.dict [("priority", .int priority), ("table", .int table)]])]),
      ("s", .dict [("kind", .str "linux")])]),
    ("links", .list [.dict [("endpoints", .list [.str "r:eth0", .str "s:eth0"])]])])]

/-- The rule of the kernel for its main table. -/
def mainTableRule : Message where
  fields := [("family", .int 2), ("src_len", .int 0), ("dst_len", .int 0), ("tos", .int 0), ("table", .int 254),
    ("action", .int 1), ("flags", .int 0)]
  attributes := [("FRA_TABLE", .int 254), ("FRA_SUPPRESS_PREFIXLEN", .int unsetSuppression), ("FRA_PROTOCOL", .int rtprotKernel),
    ("FRA_PRIORITY", .int 32766)]

theorem mainTableRule_kernel (vrfs : Bool) : KernelRule vrfs mainTableRule where
  header := by
    simp only [List.mem_cons, List.not_mem_nil, or_false, forall_eq_or_imp, forall_eq]
    exact ⟨rfl, rfl, rfl, rfl⟩
  action := rfl
  identity := ⟨32766, 254, none, .inl ⟨by decide, rfl⟩, .inl rfl, rfl, rfl, fun name listed => .inl (by
    have all : ∀ name ∈ mainTableRule.attrNames, name ∈ defaultRuleAttributes := by decide
    exact all name listed)⟩
  protocol := .inr (.inr rfl)
  suppress := by
    simp only [suppressAttributes, List.mem_cons, List.not_mem_nil, or_false, forall_eq_or_imp, forall_eq]
    exact ⟨.inr rfl, .inl rfl⟩

/-- The rule of a node after the rule of the kernel. -/
theorem rulesReported_single {vrfs : Bool} {rule : PolicyRulePlan} (valid : rule.Wellformed) (own : rule.family = 4) :
    ∀ version, RulesReported vrfs ([rule].filter (·.family = version)) (if version = 4 then [mainTableRule, rule.report] else []) := by
  intro version
  by_cases four : version = 4
  · rw [if_pos four, four]
    simp only [own, decide_true, List.filter_cons_of_pos, List.filter_nil]
    refine ⟨fun message member => ?_, fun other listed => ?_⟩
    · simp only [List.mem_cons, List.not_mem_nil, or_false] at member
      obtain rfl | rfl := member
      · exact .inl (mainTableRule_kernel vrfs)
      · exact .inr ⟨rule, List.mem_singleton_self _, PolicyRulePlan.report_echoed valid⟩
    · rw [List.mem_singleton.mp listed]
      exact ⟨rule.report, by simp, PolicyRulePlan.report_echoed valid⟩
  · rw [if_neg four]
    have other : ¬ rule.family = version := fun same => four (same ▸ own)
    simp only [other, decide_false, Bool.false_eq_true, not_false_eq_true, List.filter_cons_of_neg, List.filter_nil]
    exact ⟨List.forall_mem_nil _, List.forall_mem_nil _⟩

theorem inventoryNodeRules_plain : ∃ manifest plan node, validateManifest (singleRuleDocument 100 200) = .ok manifest ∧
    compilePlan manifest none = .ok plan ∧ node ∈ plan.nodes.values ∧ node.rules = [{ priority := 100, family := 4, table := some 200 }] ∧
    ∃ decoded, inventoryNodeRules node (fun version => if version = 4 then
      [mainTableRule, PolicyRulePlan.report { priority := 100, family := 4, table := some 200 }] else []) = .ok decoded ∧
      decoded.Perm node.rules := by
  obtain ⟨manifest, plan, read, accepted, compiled, found⟩ := Manifest.compiled_of_test (singleRuleDocument 100 200) (by decide +kernel)
    (fun plan => plan.nodes.values.any fun node => node.rules = [{ priority := 100, family := 4, table := some 200 }])
    (by decide +kernel)
  obtain ⟨node, member, rules⟩ := List.any_eq_true.mp found
  rw [decide_eq_true_eq] at rules
  refine ⟨manifest, plan, node, read, compiled, member, rules, (inventoryNodeRules_iff accepted compiled member ?_).mpr ?_⟩
  · have valid := ((accepted.plans compiled).rules_wellformed member).1
    rw [rules] at valid ⊢
    exact rulesReported_single (valid _ (List.mem_singleton_self _)).1 rfl
  · rw [rules]
    decide

/-- A rule that looks up the main table at priority 32766 is taken for the kernel's own. -/
theorem inventoryNodeRules_drops : ∃ manifest plan node, validateManifest (singleRuleDocument 32766 254) = .ok manifest ∧
    manifest.Accepted ∧ compilePlan manifest none = .ok plan ∧ node ∈ plan.nodes.values ∧
    node.rules = [{ priority := 32766, family := 4, table := some 254 }] ∧
    ∃ messages : Nat → List Message,
      (∀ version, RulesReported node.hasVrfs (node.rules.filter (·.family = version)) (messages version)) ∧
      inventoryNodeRules node messages = .ok [] := by
  obtain ⟨manifest, plan, read, accepted, compiled, found⟩ := Manifest.compiled_of_test (singleRuleDocument 32766 254) (by decide +kernel)
    (fun plan => plan.nodes.values.any fun node => node.rules = [{ priority := 32766, family := 4, table := some 254 }] &&
      !node.hasVrfs) (by decide +kernel)
  obtain ⟨node, member, both⟩ := List.any_eq_true.mp found
  simp only [Bool.and_eq_true, decide_eq_true_eq, Bool.not_eq_true'] at both
  obtain ⟨rules, vrfs⟩ := both
  have valid := ((accepted.plans compiled).rules_wellformed member).1
  rw [rules] at valid
  have wellformed := (valid _ (List.mem_singleton_self _)).1
  refine ⟨manifest, plan, node, read, accepted, compiled, member, rules, fun version => if version = 4 then
    [mainTableRule, PolicyRulePlan.report { priority := 32766, family := 4, table := some 254 }] else [], ?_, ?_⟩
  · rw [rules]
    exact rulesReported_single wellformed rfl
  · have dropped := PolicyRulePlan.decodeRule_echoed node.netns node.hasVrfs wellformed
      (PolicyRulePlan.report_echoed wellformed) (by simp)
    rw [if_pos (by decide)] at dropped
    have kernel := decodeRule_kernel (mainTableRule_kernel node.hasVrfs) node.netns 4
    simp only [inventoryNodeRules, rules, List.map_cons, List.map_nil]
    change (Checks.collect [4] _ >>= _) = _
    simp only [Checks.collect, inventoryRules, if_true, kernel, dropped, Checks.ok_bind]
    rfl

end Examples

end Nslab
