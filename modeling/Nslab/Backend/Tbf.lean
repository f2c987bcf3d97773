import Nslab.Backend.Base
import Nslab.Library.Netlink

/-! A token bucket filter on its way through the kernel. The kernel keeps the
bytes that may wait and the clock ticks that a burst takes, both in 32 bits.
The inventory computes the burst and the latency back from them. -/

namespace Nslab

open Netlink

section Kernel

/-- The parameters of a token bucket filter in the kernel. -/
structure TbfParameters where
  rate : Int
  buffer : Int
  limit : Int
deriving DecidableEq

/-- Clock ticks of 64 ns. -/
def ticksPerMicrosecond : ℚ := 15625 / 1000

def ticksPerSecond : Int := 15625000

/-- What the netlink library sends for a filter. -/
def encodeTbf (plan : TbfPlan) : Except Tc.TcError TbfParameters := do
  let rate ← Tc.rateToBytesPerSecond plan.rate.toList
  pure {
    rate := rate
    buffer := plan.burstBytes * ticksPerSecond / rate
    limit := rate * plan.latencyMs / 1000 + plan.burstBytes }

/-- Options that carry the parameters, and possibly more. -/
structure TbfParameters.Echoed (parameters : TbfParameters) (options parms : Value) : Prop where
  nested : options.attr "TCA_TBF_PARMS" = some parms
  rate : parms.attr "rate" = some (.int parameters.rate)
  buffer : parms.attr "buffer" = some (.int parameters.buffer)
  limit : parms.attr "limit" = some (.int parameters.limit)

end Kernel

section Inventory

def unsupportedInventoryQdisc (netns reason : String) : NslabError where
  code := "INVENTORY_UNSUPPORTED"
  message := "unsupported qdisc in network inventory: " ++ netns
  details := [("operation", .str "inventory"), ("resource", .str netns), ("reason", .str reason)]

/-- `int(_qdisc_option(options, name, 0))`. -/
def qdiscOption (options : Value) (name : String) : Option Int :=
  match options.attr name with
  | none => some 0
  | some value => value.int?

def decodeTbfBurst (buffer rate : Int) (netns : String) : Except NslabError Int := do
  Checks.raiseIf (ticksPerMicrosecond ≤ 0) (unsupportedInventoryQdisc netns "clock")
  let burst := Float64.roundHalfEven ((buffer * rate : Int) / (ticksPerMicrosecond * 1000000))
  Checks.raiseIf (burst ≤ 0) (unsupportedInventoryQdisc netns "buffer")
  pure burst

def decodeTbfLatency (limit burst rate : Int) (netns : String) : Except NslabError Int := do
  Checks.raiseIf (limit < burst ∨ rate ≤ 0) (unsupportedInventoryQdisc netns "parameters")
  pure (Float64.roundHalfEven (((limit - burst) * 1000 : Int) / rate))

/-- The branch of the inventory for token bucket filters. -/
def decodeTbf (options : Value) (netns : String) : Except NslabError TbfPlan := do
  let parameters ← match options.attr "TCA_TBF_PARMS" with
    | some parameters => Except.ok parameters
    | none =>
      if (options.attr "rate").isSome then Except.ok options
      else .error (unsupportedInventoryQdisc netns "missing_parameters")
  match qdiscOption parameters "rate", qdiscOption parameters "buffer", qdiscOption parameters "limit" with
  | some rate, some buffer, some limit => do
    Checks.raiseIf (rate ≤ 0 ∨ buffer ≤ 0 ∨ limit ≤ 0) (unsupportedInventoryQdisc netns "parameters")
    let text ← Checks.mapIssue (fun _ => unsupportedInventoryQdisc netns "rate") (Tc.formatRate rate)
    let burst ← decodeTbfBurst buffer rate netns
    let latency ← decodeTbfLatency limit burst rate netns
    pure ⟨String.ofList text, burst, latency⟩
  | _, _, _ => .error (unsupportedInventoryQdisc netns "invalid_parameters")

/-- What the inventory makes of parameters that the kernel reports. -/
structure TbfParameters.Decodes (parameters : TbfParameters) (observed : TbfPlan) : Prop where
  rate : observed.rate = String.ofList (Tc.formatRateBytes parameters.rate.toNat)
  buffer : 0 < parameters.buffer
  limit : 0 < parameters.limit
  burst : observed.burstBytes = Float64.roundHalfEven ((parameters.buffer * parameters.rate : Int) / (ticksPerSecond : Int))
  positive : 0 < observed.burstBytes
  fits : observed.burstBytes ≤ parameters.limit
  latency : observed.latencyMs =
    Float64.roundHalfEven (((parameters.limit - observed.burstBytes) * 1000 : Int) / parameters.rate)

theorem ticks_second : ticksPerMicrosecond * 1000000 = (ticksPerSecond : ℚ) := by
  simp only [ticksPerMicrosecond, ticksPerSecond]
  norm_num

theorem decodeTbf_iff {parameters : TbfParameters} {options parms : Value} {netns : String} {observed : TbfPlan}
    (echoed : parameters.Echoed options parms) (positive : 0 < parameters.rate)
    (bounded : parameters.rate ≤ Tc.maxRateBytesPerSecond) :
    decodeTbf options netns = .ok observed ↔ parameters.Decodes observed := by
  have format : Tc.formatRate parameters.rate = .ok (Tc.formatRateBytes parameters.rate.toNat) := if_pos ⟨positive, bounded⟩
  simp only [decodeTbf, echoed.nested, Checks.ok_bind, qdiscOption, echoed.rate, echoed.buffer, echoed.limit, Value.int?,
    format, Checks.mapIssue, decodeTbfBurst, decodeTbfLatency, ticks_second, Checks.bind_ok, Checks.raiseIf_ok,
    Checks.exists_unit, Checks.pure_ok]
  constructor
  · intro given
    obtain ⟨range, _, ⟨_, left, burst⟩, _, ⟨fits, latency⟩, plan⟩ := given
    subst plan burst latency
    exact ⟨rfl, by omega, by omega, rfl, Int.lt_of_not_ge left, Int.not_lt.mp fun few => fits (.inl few), rfl⟩
  · intro decodes
    obtain ⟨rate, buffer, limit, burst, left, fits, latency⟩ := decodes
    refine ⟨by omega, _, ⟨?_, by omega, rfl⟩, _, ⟨by omega, rfl⟩, ?_⟩
    · simp [ticksPerMicrosecond]
    · rw [← burst, ← latency, ← rate]

end Inventory

section Arithmetic

/-- The bytes per second that a rate stands for. -/
def Rate.bytesPerSecond (rate : Rate) : Int := ((Tc.rateToBytesPerSecond rate.chars).toOption.getD 0 : Nat)

/-- What truncation to whole ticks loses of a burst, in parts of a byte. -/
def TbfConfig.lost (config : TbfConfig) : Int := config.burst * ticksPerSecond % config.rate.bytesPerSecond

def TbfConfig.tolerance (config : TbfConfig) : Int := max 2 (config.burst.fdiv 1000)

/-- The kernel can hold the parameters of a filter, and what it truncates is made up for by rounding and the tolerance. -/
structure TbfConfig.Representable (config : TbfConfig) : Prop where
  limit : config.rate.bytesPerSecond * config.latencyMs / 1000 + config.burst < 2 ^ 32
  buffer : config.burst * ticksPerSecond / config.rate.bytesPerSecond < 2 ^ 32
  remains : ticksPerSecond < 2 * (config.burst * ticksPerSecond - config.lost)
  precise : 2 * config.lost < (2 * config.tolerance + 1) * ticksPerSecond ∨
    2 * config.lost = (2 * config.tolerance + 1) * ticksPerSecond ∧ (config.burst - config.tolerance) % 2 = 0
  prompt : 2 * (config.rate.bytesPerSecond * config.latencyMs % 1000) < 3 * config.rate.bytesPerSecond ∨
    2 * (config.rate.bytesPerSecond * config.latencyMs % 1000) = 3 * config.rate.bytesPerSecond ∧ config.latencyMs % 2 = 1

theorem Rate.bytesPerSecond_spec (rate : Rate) : ∃ bytes : Nat, 0 < bytes ∧ bytes ≤ Tc.maxRateBytesPerSecond ∧
    rate.chars = Tc.formatRateBytes bytes ∧ Tc.rateToBytesPerSecond rate.chars = .ok bytes ∧ rate.bytesPerSecond = bytes := by
  obtain ⟨bytes, positive, bounded, text⟩ := Tc.normalizeRate_ok rate.canonical
  have read := Tc.rateToBytesPerSecond_format positive bounded
  rw [← text] at read
  exact ⟨bytes, positive, bounded, text, read, by rw [Rate.bytesPerSecond, read]; rfl⟩

section Window

variable (rate burst : Int)

/-- The burst that is computed back from the ticks it takes. -/
def recoveredBurst (rate burst : Int) : Int :=
  Float64.roundHalfEven ((burst * ticksPerSecond / rate * rate : Int) / (ticksPerSecond : Int))

theorem le_recoveredBurst (bound : Int) : bound ≤ recoveredBurst rate burst ↔
    (2 * bound - 1) * ticksPerSecond < 2 * (burst * ticksPerSecond - burst * ticksPerSecond % rate) ∨
      (2 * bound - 1) * ticksPerSecond = 2 * (burst * ticksPerSecond - burst * ticksPerSecond % rate) ∧ bound % 2 = 0 := by
  have whole : burst * ticksPerSecond / rate * rate = burst * ticksPerSecond - burst * ticksPerSecond % rate := by
    have split := Int.ediv_mul_add_emod (burst * ticksPerSecond) rate
    omega
  rw [recoveredBurst, Float64.le_roundHalfEven_div (by decide), whole]

theorem recoveredBurst_le (positive : 0 < rate) : recoveredBurst rate burst ≤ burst := by
  have lost := Int.emod_nonneg (burst * ticksPerSecond) positive.ne'
  by_contra more
  have reached := (le_recoveredBurst rate burst _).mp (Int.add_one_le_iff.mpr (Int.lt_of_not_ge more))
  simp only [ticksPerSecond] at lost reached
  omega

/-- What goes missing of a burst is no more than the rounded loss. -/
theorem burst_sub_recovered : 2 * ticksPerSecond * (burst - recoveredBurst rate burst) ≤
    2 * (burst * ticksPerSecond % rate) + ticksPerSecond := by
  have unreached := mt (le_recoveredBurst rate burst _).mpr (Int.not_le.mpr (Int.lt_succ _))
  simp only [ticksPerSecond] at unreached ⊢
  omega

/-- A burst comes back smaller at high rates only. -/
theorem rate_of_missing (positive : 0 < rate) (missing : recoveredBurst rate burst < burst) : ticksPerSecond ≤ 2 * rate := by
  have bounded := Int.emod_lt_of_pos (burst * ticksPerSecond) positive
  have unreached := mt (le_recoveredBurst rate burst _).mpr (Int.not_le.mpr missing)
  simp only [ticksPerSecond] at bounded unreached ⊢
  omega

theorem recoveredBurst_pos : 0 < recoveredBurst rate burst ↔
    ticksPerSecond < 2 * (burst * ticksPerSecond - burst * ticksPerSecond % rate) := by
  rw [← Int.add_one_le_iff, le_recoveredBurst]
  simp only [ticksPerSecond]
  omega

/-- The burst comes back within a tolerance when the loss is rounded to no more. -/
theorem recoveredBurst_near {tolerance : Int} (positive : 0 < rate) : |burst - recoveredBurst rate burst| ≤ tolerance ↔
    2 * (burst * ticksPerSecond % rate) < (2 * tolerance + 1) * ticksPerSecond ∨
      2 * (burst * ticksPerSecond % rate) = (2 * tolerance + 1) * ticksPerSecond ∧ (burst - tolerance) % 2 = 0 := by
  have few := recoveredBurst_le rate burst positive
  have above := le_recoveredBurst rate burst (burst - tolerance)
  have within : burst - recoveredBurst rate burst ≤ tolerance ↔ burst - tolerance ≤ recoveredBurst rate burst := by omega
  rw [abs_of_nonneg (by omega), within, above]
  simp only [ticksPerSecond]
  omega

/-- The latency that is computed back from the bytes that may wait beyond the burst. -/
def recoveredLatency (rate latency missing : Int) : Int :=
  Float64.roundHalfEven (((rate * latency / 1000 + missing) * 1000 : Int) / rate)

theorem le_recoveredLatency {latency missing bound : Int} (positive : 0 < rate) :
    bound ≤ recoveredLatency rate latency missing ↔
      (2 * bound - 1) * rate < 2 * (rate * latency - rate * latency % 1000 + missing * 1000) ∨
        (2 * bound - 1) * rate = 2 * (rate * latency - rate * latency % 1000 + missing * 1000) ∧ bound % 2 = 0 := by
  have whole : (rate * latency / 1000 + missing) * 1000 = rate * latency - rate * latency % 1000 + missing * 1000 := by omega
  rw [recoveredLatency, Float64.le_roundHalfEven_div positive, whole]

/-- The latency comes back within a millisecond when the bytes cut off are less than that. -/
theorem recoveredLatency_near {latency : Int} (positive : 0 < rate) :
    |latency - recoveredLatency rate latency (burst - recoveredBurst rate burst)| ≤ 1 ↔
      2 * (rate * latency % 1000) < 3 * rate ∨ 2 * (rate * latency % 1000) = 3 * rate ∧ latency % 2 = 1 := by
  have few := recoveredBurst_le rate burst positive
  have missing := burst_sub_recovered rate burst
  have bounded := Int.emod_lt_of_pos (burst * ticksPerSecond) positive
  have high := rate_of_missing rate burst positive
  have cut := Int.emod_nonneg (rate * latency) (by decide : (1000 : Int) ≠ 0)
  have short := Int.emod_lt_of_pos (rate * latency) (by decide : (0 : Int) < 1000)
  generalize recoveredBurst rate burst = recovered at few missing high ⊢
  have above : ¬ latency + 2 ≤ recoveredLatency rate latency (burst - recovered) := by
    rw [le_recoveredLatency rate positive]
    have expand : (2 * (latency + 2) - 1) * rate = 2 * (rate * latency) + 3 * rate := by ring
    rw [expand]
    simp only [ticksPerSecond] at missing bounded high
    by_cases equal : recovered = burst
    · subst equal
      omega
    · have fast := high (lt_of_le_of_ne few equal)
      omega
  have below : latency - 1 ≤ recoveredLatency rate latency (burst - recovered) ↔
      2 * (rate * latency % 1000) < 3 * rate ∨ 2 * (rate * latency % 1000) = 3 * rate ∧ latency % 2 = 1 := by
    rw [le_recoveredLatency rate positive]
    have expand : (2 * (latency - 1) - 1) * rate = 2 * (rate * latency) - 3 * rate := by ring
    rw [expand]
    simp only [ticksPerSecond] at high
    by_cases equal : recovered = burst
    · subst equal
      omega
    · have fast := high (lt_of_le_of_ne few equal)
      omega
  rw [abs_le, ← below]
  omega

end Window

end Arithmetic

section Verification

variable [RedEvaluation]

/-- What fits in an unsigned field of 32 bits. -/
def FitsWord (value : Int) : Prop := 0 ≤ value ∧ value < 2 ^ 32

/-- The kernel can hold what is sent for a filter, and the inventory accepts what the kernel reports of it. -/
def TbfPlan.Verified (plan : TbfPlan) : Prop :=
  ∃ parameters, encodeTbf plan = .ok parameters ∧ FitsWord parameters.limit ∧ FitsWord parameters.buffer ∧
    ∀ netns options parms, parameters.Echoed options parms → ∃ observed, decodeTbf options netns = .ok observed ∧
      qdiscMatches (some (.tbf plan)) (some (.tbf observed)) = true

omit [RedEvaluation] in
/-- The options that the kernel reports. -/
theorem exists_echoed (parameters : TbfParameters) : ∃ options parms, parameters.Echoed options parms :=
  ⟨.message [] [("TCA_TBF_PARMS", .message [("rate", .int parameters.rate), ("limit", .int parameters.limit),
    ("buffer", .int parameters.buffer)] [])], _, rfl, rfl, rfl, rfl⟩

omit [RedEvaluation] in
theorem TbfConfig.latency_of_link {link : LinkConfig} {config : TbfConfig} (holds : linkConfig.holds link)
    (declared : link.qdisc = some (.tbf config)) : 0 < config.latencyMs := by
  obtain ⟨⟨_, qdisc⟩, _⟩ := holds
  obtain ⟨_, _, latency⟩ := qdisc (.tbf config) declared
  exact Int.lt_of_lt_of_le (by decide) (Schema.Codec.holds_between.mp latency).1

omit [RedEvaluation] in
/-- The filter that is computed back matches within the tolerances exactly when nothing beyond them is truncated. -/
theorem TbfConfig.matched_iff {config : TbfConfig} {parameters : TbfParameters} {rate : Nat} (positive : 0 < rate)
    (text : config.rate.chars = Tc.formatRateBytes rate) (bytes : config.rate.bytesPerSecond = rate)
    (sent : parameters = ⟨rate, config.burst * ticksPerSecond / rate, rate * config.latencyMs / 1000 + config.burst⟩)
    (latency : 0 < config.latencyMs) :
    (∃ observed, parameters.Decodes observed ∧
      tbfMatches ⟨config.rate.text, config.burst, config.latencyMs⟩ observed = true) ↔
    ticksPerSecond < 2 * (config.burst * ticksPerSecond - config.lost) ∧
    (2 * config.lost < (2 * config.tolerance + 1) * ticksPerSecond ∨
      2 * config.lost = (2 * config.tolerance + 1) * ticksPerSecond ∧ (config.burst - config.tolerance) % 2 = 0) ∧
    (2 * (config.rate.bytesPerSecond * config.latencyMs % 1000) < 3 * config.rate.bytesPerSecond ∨
      2 * (config.rate.bytesPerSecond * config.latencyMs % 1000) = 3 * config.rate.bytesPerSecond ∧
        config.latencyMs % 2 = 1) := by
  have ahead : (0 : Int) < rate := by exact_mod_cast positive
  have few := recoveredBurst_le rate config.burst ahead
  have waiting : 0 ≤ rate * config.latencyMs / 1000 :=
    Int.ediv_nonneg (Int.mul_nonneg ahead.le latency.le) (by decide)
  rw [TbfConfig.lost, bytes, ← recoveredBurst_pos, ← recoveredBurst_near rate config.burst ahead,
    ← recoveredLatency_near rate config.burst ahead]
  subst sent
  have missing : ∀ recovered : Int, rate * config.latencyMs / 1000 + config.burst - recovered =
      rate * config.latencyMs / 1000 + (config.burst - recovered) := by
    intro recovered
    omega
  constructor
  · intro given
    obtain ⟨observed, decodes, matched⟩ := given
    have back : observed.burstBytes = recoveredBurst rate config.burst := decodes.burst
    have delay : observed.latencyMs = recoveredLatency rate config.latencyMs (config.burst - observed.burstBytes) := by
      rw [decodes.latency, recoveredLatency, missing]
    simp only [tbfMatches, decide_eq_true_eq] at matched
    rw [delay, back] at matched
    exact ⟨back ▸ decodes.positive, matched.2.1, matched.2.2⟩
  · intro given
    obtain ⟨left, burstNear, latencyNear⟩ := given
    have ticks : 0 < config.burst * ticksPerSecond / rate := by
      by_contra none
      have negative : config.burst * ticksPerSecond / rate * rate ≤ 0 :=
        Int.mul_nonpos_of_nonpos_of_nonneg (Int.not_lt.mp none) ahead.le
      have reached := (recoveredBurst_pos rate config.burst).mp left
      have whole := Int.ediv_mul_add_emod (config.burst * ticksPerSecond) rate
      simp only [ticksPerSecond] at reached whole negative
      omega
    refine ⟨⟨config.rate.text, recoveredBurst rate config.burst,
      recoveredLatency rate config.latencyMs (config.burst - recoveredBurst rate config.burst)⟩,
      ⟨?_, ticks, ?_, rfl, left, ?_, ?_⟩, ?_⟩
    · rw [Rate.text, text, Int.toNat_natCast]
    · dsimp only
      omega
    · dsimp only
      omega
    · dsimp only
      rw [recoveredLatency, missing]
    · simp only [tbfMatches, decide_eq_true_eq]
      exact ⟨trivial, burstNear, latencyNear⟩

end Verification

/-- A token bucket filter is verified exactly when the kernel can represent it. -/
theorem tbf_verified_iff [RedEvaluation] {manifest : Manifest} (accepted : manifest.Accepted) {link : LinkConfig}
    (member : link ∈ manifest.topology.links) {config : TbfConfig} (declared : link.qdisc = some (.tbf config))
    {plan : TbfPlan} (compiled : compileQdisc (.tbf config) = .tbf plan) : plan.Verified ↔ config.Representable := by
  have latency := TbfConfig.latency_of_link (accepted.valid.links link member) declared
  obtain ⟨rate, positive, bounded, text, read, bytes⟩ := config.rate.bytesPerSecond_spec
  simp only [compileQdisc, QdiscPlan.tbf.injEq] at compiled
  subst compiled
  obtain ⟨parameters, sent⟩ : ∃ parameters : TbfParameters,
    parameters = ⟨rate, config.burst * ticksPerSecond / rate, rate * config.latencyMs / 1000 + config.burst⟩ := ⟨_, rfl⟩
  have encoded : encodeTbf ⟨config.rate.text, config.burst, config.latencyMs⟩ = .ok parameters := by
    rw [encodeTbf, Rate.text, String.toList_ofList, read, Checks.ok_bind, sent]
    rfl
  have matched := TbfConfig.matched_iff positive text bytes sent latency
  have ahead : 0 < parameters.rate := by
    rw [sent]
    exact Int.natCast_pos.mpr positive
  have small : parameters.rate ≤ Tc.maxRateBytesPerSecond := by
    rw [sent]
    exact Int.ofNat_le.mpr bounded
  constructor
  · intro both
    obtain ⟨other, given, limit, buffer, verified⟩ := both
    rw [encoded, Except.ok.injEq] at given
    subst given
    obtain ⟨options, parms, echoed⟩ := exists_echoed parameters
    obtain ⟨observed, decoded, same⟩ := verified "" options parms echoed
    obtain ⟨remains, precise, prompt⟩ := matched.mp ⟨observed, (decodeTbf_iff echoed ahead small).mp decoded, same⟩
    rw [sent] at limit buffer
    exact ⟨bytes.symm ▸ limit.2, bytes.symm ▸ buffer.2, remains, precise, prompt⟩
  · intro fits
    obtain ⟨observed, decodes, same⟩ := matched.mpr ⟨fits.remains, fits.precise, fits.prompt⟩
    have limit := fits.limit
    have buffer := fits.buffer
    rw [bytes] at limit buffer
    refine ⟨parameters, encoded, ⟨decodes.limit.le, by rw [sent]; exact limit⟩,
      ⟨decodes.buffer.le, by rw [sent]; exact buffer⟩, ?_⟩
    intro netns options parms echoed
    exact ⟨observed, (decodeTbf_iff echoed ahead small).mpr decodes, same⟩

section Examples

/-- Two nodes with a filter on their link. -/
def tbfDocument (rate : String) (latency : Int) : Document :=
  .dict [("version", .int 1), ("name", .str "lab"), ("topology", .dict [
    ("nodes", .dict [("a", .dict [("kind", .str "linux")]), ("b", .dict [("kind", .str "linux")])]),
    ("links", .list [.dict [("endpoints", .list [.str "a:eth0", .str "b:eth0"]),
      ("qdisc", .dict [("kind", .str "tbf"), ("rate", .str rate), ("latency_ms", .int latency)])]])])]

/-- No RED parameters are evaluated for a filter. -/
abbrev noRed : RedEvaluation := ⟨fun _ _ _ => none, fun _ _ _ => none⟩

def LinkConfig.tbf? (link : LinkConfig) : Option TbfConfig :=
  match link.qdisc with
  | some (.tbf config) => some config
  | _ => none

theorem LinkConfig.tbf?_eq {link : LinkConfig} {config : TbfConfig} (found : link.tbf? = some config) :
    link.qdisc = some (.tbf config) := by
  unfold LinkConfig.tbf? at found
  split at found
  next shape => rw [shape, Option.some.inj found]
  next => cases found

theorem exists_tbf (document : Document) (test : TbfConfig → Bool) (plain : document.plain = true)
    (passes : (validateManifest document).toOption.any
      (fun manifest => manifest.topology.links.any fun link => link.tbf?.any test) = true) :
    ∃ manifest link config, validateManifest document = .ok manifest ∧ manifest.Accepted ∧
      link ∈ manifest.topology.links ∧ link.qdisc = some (.tbf config) ∧ test config = true := by
  obtain ⟨manifest, read, accepted, found⟩ := Manifest.accepted_of_test document plain _ passes
  obtain ⟨link, member, tested⟩ := List.any_eq_true.mp found
  rw [Option.any_eq_true] at tested
  obtain ⟨config, given, holds⟩ := tested
  exact ⟨manifest, link, config, read, accepted, member, LinkConfig.tbf?_eq given, holds⟩

instance (config : TbfConfig) : Decidable config.Representable :=
  decidable_of_iff (_ ∧ _ ∧ _ ∧ _ ∧ _) ⟨fun ⟨limit, buffer, remains, precise, prompt⟩ => ⟨limit, buffer, remains, precise, prompt⟩,
    fun fits => ⟨fits.limit, fits.buffer, fits.remains, fits.precise, fits.prompt⟩⟩

theorem tbf_verified_default : ∃ manifest link config, validateManifest (tbfDocument "10mbit" 400) = .ok manifest ∧
    link ∈ manifest.topology.links ∧ link.qdisc = some (.tbf config) ∧
    @TbfPlan.Verified noRed ⟨config.rate.text, config.burst, config.latencyMs⟩ := by
  obtain ⟨manifest, link, config, read, accepted, member, declared, fits⟩ := exists_tbf (tbfDocument "10mbit" 400)
    (fun config => config.Representable) (by decide +kernel) (by decide +kernel)
  refine ⟨manifest, link, config, read, member, declared, ?_⟩
  exact (@tbf_verified_iff noRed manifest accepted link member config declared _ rfl).mpr (of_decide_eq_true fits)

/-- At ten gigabits a second five seconds of waiting bytes exceed 32 bits. -/
theorem tbf_limit_overflow : ∃ manifest link config plan, validateManifest (tbfDocument "10gbit" 5000) = .ok manifest ∧
    manifest.Accepted ∧ link ∈ manifest.topology.links ∧ link.qdisc = some (.tbf config) ∧
    compileQdisc (.tbf config) = .tbf plan ∧ encodeTbf plan = .ok ⟨1250000000, 409, 6250032768⟩ ∧
    ¬ @TbfPlan.Verified noRed plan := by
  obtain ⟨manifest, link, config, read, accepted, member, declared, sent⟩ := exists_tbf (tbfDocument "10gbit" 5000)
    (fun config => (encodeTbf ⟨config.rate.text, config.burst, config.latencyMs⟩).toOption =
      some ⟨1250000000, 409, 6250032768⟩) (by decide +kernel) (by decide +kernel)
  obtain ⟨plan, compiled⟩ : ∃ plan : TbfPlan, plan = ⟨config.rate.text, config.burst, config.latencyMs⟩ := ⟨_, rfl⟩
  rw [← compiled] at sent
  have encoded : encodeTbf plan = .ok ⟨1250000000, 409, 6250032768⟩ := by
    cases result : encodeTbf plan with
    | error => simp [result, Except.toOption] at sent
    | ok parameters => simpa [result, Except.toOption] using sent
  refine ⟨manifest, link, config, plan, read, accepted, member, declared, congrArg _ compiled.symm, encoded, ?_⟩
  intro both
  obtain ⟨parameters, given, limit, _⟩ := both
  rw [encoded, Except.ok.injEq] at given
  subst given
  exact absurd limit.2 (by decide)

end Examples

end Nslab
