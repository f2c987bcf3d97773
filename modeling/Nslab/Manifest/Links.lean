import Nslab.Manifest.Nodes

/-! The links of a topology and the queueing disciplines on them. -/

namespace Nslab

open Schema

section Netem

structure NetemConfig where
  delayMs : Int := 0
  jitterMs : Int := 0
  lossPercent : Int := 0
  rate : Option Rate := none
deriving DecidableEq

def netemDelay : Codec Int := .between 0 60000

def netemLoss : Codec Int := .between 0 100

instance : netemDelay.Exact := by unfold netemDelay; infer_instance

instance : netemLoss.Exact := by unfold netemLoss; infer_instance

theorem netemDelay_default : netemDelay.holds 0 := Codec.holds_between.mpr (by decide)

theorem netemLoss_default : netemLoss.holds 0 := Codec.holds_between.mpr (by decide)

def NetemConfig.validateEffects (netem : NetemConfig) : Except Issue Unit := do
  Checks.raiseIf (netem.jitterMs ≠ 0 ∧ netem.delayMs = 0) (issue "netem jitter_ms requires delay_ms")
  Checks.raiseIf (netem.delayMs = 0 ∧ netem.jitterMs = 0 ∧ netem.lossPercent = 0 ∧ netem.rate = none)
    (issue "netem must declare a non-zero delay, jitter, loss, or rate")

def netemFields : Fields NetemConfig :=
  ((((Fields.defaulted "delay_ms" 0 netemDelay netemDelay_default).and
    (.defaulted "jitter_ms" 0 netemDelay netemDelay_default)).and
    (.defaulted "loss_percent" 0 netemLoss netemLoss_default)).and (.nullable "rate" rate)).iso
    (fun (((delay, jitter), loss), rate) => ⟨delay, jitter, loss, rate⟩)
    fun netem => (((netem.delayMs, netem.jitterMs), netem.lossPercent), netem.rate)

instance : netemFields.Exact := by unfold netemFields; infer_instance

def netemConfig : Codec NetemConfig := netemFields.object.validated NetemConfig.validateEffects

instance : netemConfig.Exact := by unfold netemConfig; infer_instance

end Netem

section Qdiscs

structure TbfConfig where
  rate : Rate
  burst : Int := 32 * 1024
  latencyMs : Int := 400
deriving DecidableEq

def qdiscTime : Codec Int := .between 1 60000

instance : qdiscTime.Exact := by unfold qdiscTime; infer_instance

theorem burst_default : size.holds (32 * 1024) := ⟨by decide, by decide⟩

theorem tbfLatency_default : qdiscTime.holds 400 := Codec.holds_between.mpr (by decide)

def tbfConfig : Variants "kind" TbfConfig :=
  .single "tbf" <| (((Fields.required "rate" rate).and (.defaulted "burst" (32 * 1024) size burst_default)).and
    (.defaulted "latency_ms" 400 qdiscTime tbfLatency_default)).iso
    (fun ((rate, burst), latency) => ⟨rate, burst, latency⟩) fun tbf => ((tbf.rate, tbf.burst), tbf.latencyMs)

instance : tbfConfig.codec.Exact := by unfold tbfConfig; infer_instance

structure FqCodelConfig where
  targetMs : Int := 5
  intervalMs : Int := 100
  limit : Int := 10240
  ecn : Bool := true
deriving DecidableEq

def fqCodelLimit : Codec Int := .between 1 1000000

instance : fqCodelLimit.Exact := by unfold fqCodelLimit; infer_instance

theorem fqCodelTarget_default : qdiscTime.holds 5 := Codec.holds_between.mpr (by decide)

theorem qdiscInterval_default : qdiscTime.holds 100 := Codec.holds_between.mpr (by decide)

theorem fqCodelLimit_default : fqCodelLimit.holds 10240 := Codec.holds_between.mpr (by decide)

def fqCodelFields : Fields FqCodelConfig :=
  ((((Fields.defaulted "target_ms" 5 qdiscTime fqCodelTarget_default).and
    (.defaulted "interval_ms" 100 qdiscTime qdiscInterval_default)).and
    (.defaulted "limit" 10240 fqCodelLimit fqCodelLimit_default)).and
    (.defaulted "ecn" true .strictBool (Codec.holds_strictBool true))).iso
    (fun (((target, interval), limit), ecn) => ⟨target, interval, limit, ecn⟩)
    fun config => (((config.targetMs, config.intervalMs), config.limit), config.ecn)

instance : fqCodelFields.Exact := by unfold fqCodelFields; infer_instance

def fqCodelConfig : Variants "kind" FqCodelConfig :=
  (Variants.single "fq_codel" fqCodelFields).validated fun config =>
    Checks.raiseIf (config.intervalMs < config.targetMs) (issue "fq_codel target_ms cannot exceed interval_ms")

instance : fqCodelConfig.codec.Exact := by unfold fqCodelConfig; infer_instance

inductive SimpleQdiscKind where
  | pfifo
  | bfifo
  | pfifoFast
  | prio
  | sfq
  | fq
  | codel
  | red
  | pie
  | fqPie
deriving DecidableEq

def SimpleQdiscKind.name : SimpleQdiscKind → String
  | .pfifo => "pfifo"
  | .bfifo => "bfifo"
  | .pfifoFast => "pfifo_fast"
  | .prio => "prio"
  | .sfq => "sfq"
  | .fq => "fq"
  | .codel => "codel"
  | .red => "red"
  | .pie => "pie"
  | .fqPie => "fq_pie"

def SimpleQdiscKind.all : List SimpleQdiscKind := [.pfifo, .bfifo, .pfifoFast, .prio, .sfq, .fq, .codel, .red, .pie, .fqPie]

structure SimpleQdiscOptions where
  limit : Option Int := none
  targetMs : Option Int := none
  intervalMs : Option Int := none
  flows : Option Int := none
  quantum : Option Int := none
  perturb : Option Int := none
  min : Option Int := none
  max : Option Int := none
  avpkt : Option Int := none
  burst : Option Int := none
  probability : Option Float64 := none
  ecn : Option Bool := none
  tupdateMs : Option Int := none
  alpha : Option Int := none
  beta : Option Int := none
  bytemode : Option Bool := none
deriving DecidableEq

structure SimpleQdiscConfig where
  kind : SimpleQdiscKind
  options : SimpleQdiscOptions := {}
deriving DecidableEq

/-- A probability is compared with its bounds, which NaN never exceeds. -/
def probability : Codec Float64 :=
  Codec.float.validated fun value => do
    Checks.raiseIf (value.lt (.finite 0) = true) (issue "Input should be greater than or equal to 0")
    Checks.raiseIf (Float64.lt (.finite 1) value = true) (issue "Input should be less than or equal to 1")

instance : probability.Exact := by unfold probability; infer_instance

def positive (name : String) : Fields (Option Int) := .nullable name (.atLeast 1)

def natural (name : String) : Fields (Option Int) := .nullable name (.atLeast 0)

instance {name : String} : (positive name).Exact := by unfold positive; infer_instance

instance {name : String} : (natural name).Exact := by unfold natural; infer_instance

def simpleQdiscOptions : Fields SimpleQdiscOptions :=
  (((((((positive "limit").and (positive "target_ms")).and ((positive "interval_ms").and (positive "flows"))).and
    (((positive "quantum").and (positive "perturb")).and ((positive "min").and (positive "max")))).and
    (((positive "avpkt").and (positive "burst")).and ((Fields.nullable "probability" probability).and
      (.nullable "ecn" .strictBool)))).and
    (((positive "tupdate_ms").and (natural "alpha")).and ((natural "beta").and (.nullable "bytemode" .strictBool))))).iso
    (fun ((((((limit, target), (interval, flows)), ((quantum, perturb), (min, max))), ((avpkt, burst), (probability, ecn))),
      ((tupdate, alpha), (beta, bytemode)))) =>
      ⟨limit, target, interval, flows, quantum, perturb, min, max, avpkt, burst, probability, ecn, tupdate, alpha, beta,
        bytemode⟩)
    fun options => (((((options.limit, options.targetMs), (options.intervalMs, options.flows)),
      ((options.quantum, options.perturb), (options.min, options.max))),
      ((options.avpkt, options.burst), (options.probability, options.ecn))),
      ((options.tupdateMs, options.alpha), (options.beta, options.bytemode)))

instance : simpleQdiscOptions.Exact := by unfold simpleQdiscOptions; infer_instance

def simpleQdiscKind : Codec SimpleQdiscKind :=
  .choice SimpleQdiscKind.name SimpleQdiscKind.all "Input should be the kind of a simple queueing discipline" fun kind => by
    cases kind <;> decide

instance : simpleQdiscKind.Exact := by unfold simpleQdiscKind; infer_instance

def simpleQdiscFields : Fields SimpleQdiscConfig :=
  ((Fields.required "kind" simpleQdiscKind).and simpleQdiscOptions).iso (fun (kind, options) => ⟨kind, options⟩)
    fun config => (config.kind, config.options)

instance : simpleQdiscFields.Exact := by unfold simpleQdiscFields; infer_instance

def simpleQdiscConfig : Variants "kind" SimpleQdiscConfig :=
  .ofField (SimpleQdiscKind.all.map SimpleQdiscKind.name) simpleQdiscFields (fun config => config.kind.name)
    (fun config => by cases config.kind <;> decide) fun config => by
      simp [simpleQdiscFields, Fields.iso, Fields.and, Fields.required, simpleQdiscKind, Codec.choice]

instance : simpleQdiscConfig.codec.Exact := by unfold simpleQdiscConfig; infer_instance

inductive LeafConfig where
  | fqCodel (config : FqCodelConfig)
  | simple (config : SimpleQdiscConfig)
deriving DecidableEq

def leafConfig : Codec LeafConfig :=
  ((fqCodelConfig.or simpleQdiscConfig).iso (Sum.elim .fqCodel .simple)
    (fun leaf => match leaf with
      | .fqCodel config => .inl config
      | .simple config => .inr config)
    (by rintro (config | config) <;> rfl)).union

instance : leafConfig.Exact where
  exact sorted leaf := by
    cases leaf with
    | fqCodel config => exact congrArg LeafConfig.fqCodel (fqCodelConfig.codec.settle_exact sorted config)
    | simple config => exact congrArg LeafConfig.simple (simpleQdiscConfig.codec.settle_exact sorted config)

structure HtbConfig where
  rate : Rate
  leaf : LeafConfig
deriving DecidableEq

def htbConfig : Variants "kind" HtbConfig :=
  .single "htb" <| ((Fields.required "rate" rate).and (.required "leaf" leafConfig)).iso (fun (rate, leaf) => ⟨rate, leaf⟩)
    fun config => (config.rate, config.leaf)

instance : htbConfig.codec.Exact := by unfold htbConfig; infer_instance

inductive CakeFlowMode where
  | srchost
  | dsthost
  | hosts
  | flows
  | dualSrchost
  | dualDsthost
  | tripleIsolate
deriving DecidableEq

def CakeFlowMode.name : CakeFlowMode → String
  | .srchost => "srchost"
  | .dsthost => "dsthost"
  | .hosts => "hosts"
  | .flows => "flows"
  | .dualSrchost => "dual-srchost"
  | .dualDsthost => "dual-dsthost"
  | .tripleIsolate => "triple-isolate"

inductive CakeDiffservMode where
  | diffserv3
  | diffserv4
  | diffserv8
  | besteffort
  | precedence
deriving DecidableEq

def CakeDiffservMode.name : CakeDiffservMode → String
  | .diffserv3 => "diffserv3"
  | .diffserv4 => "diffserv4"
  | .diffserv8 => "diffserv8"
  | .besteffort => "besteffort"
  | .precedence => "precedence"

structure CakeConfig where
  bandwidth : Rate
  flowMode : CakeFlowMode := .flows
  diffservMode : CakeDiffservMode := .besteffort
  rttMs : Int := 100
  nat : Bool := false
deriving DecidableEq

def cakeFlowMode : Codec CakeFlowMode :=
  .choice CakeFlowMode.name [.srchost, .dsthost, .hosts, .flows, .dualSrchost, .dualDsthost, .tripleIsolate]
    "Input should be 'srchost', 'dsthost', 'hosts', 'flows', 'dual-srchost', 'dual-dsthost' or 'triple-isolate'"
    fun mode => by cases mode <;> decide

def cakeDiffservMode : Codec CakeDiffservMode :=
  .choice CakeDiffservMode.name [.diffserv3, .diffserv4, .diffserv8, .besteffort, .precedence]
    "Input should be 'diffserv3', 'diffserv4', 'diffserv8', 'besteffort' or 'precedence'" fun mode => by
      cases mode <;> decide

instance : cakeFlowMode.Exact := by unfold cakeFlowMode; infer_instance

instance : cakeDiffservMode.Exact := by unfold cakeDiffservMode; infer_instance

theorem cakeFlowMode_default : cakeFlowMode.holds .flows := trivial

theorem cakeDiffservMode_default : cakeDiffservMode.holds .besteffort := trivial

def cakeConfig : Variants "kind" CakeConfig :=
  .single "cake" <| (((((Fields.required "bandwidth" rate).and
    (.defaulted "flow_mode" .flows cakeFlowMode cakeFlowMode_default)).and
    (.defaulted "diffserv_mode" .besteffort cakeDiffservMode cakeDiffservMode_default)).and
    (.defaulted "rtt_ms" 100 qdiscTime qdiscInterval_default)).and
    (.defaulted "nat" false .strictBool (Codec.holds_strictBool false))).iso
    (fun ((((bandwidth, flow), diffserv), rtt), nat) => ⟨bandwidth, flow, diffserv, rtt, nat⟩)
    fun config => ((((config.bandwidth, config.flowMode), config.diffservMode), config.rttMs), config.nat)

instance : cakeConfig.codec.Exact := by unfold cakeConfig; infer_instance

inductive QdiscConfig where
  | tbf (config : TbfConfig)
  | fqCodel (config : FqCodelConfig)
  | htb (config : HtbConfig)
  | cake (config : CakeConfig)
  | simple (config : SimpleQdiscConfig)
deriving DecidableEq

def qdiscConfig : Codec QdiscConfig :=
  (((((tbfConfig.or fqCodelConfig).or htbConfig).or cakeConfig).or simpleQdiscConfig).iso
    (fun sum => match sum with
      | .inl (.inl (.inl (.inl config))) => .tbf config
      | .inl (.inl (.inl (.inr config))) => .fqCodel config
      | .inl (.inl (.inr config)) => .htb config
      | .inl (.inr config) => .cake config
      | .inr config => .simple config)
    (fun qdisc => match qdisc with
      | .tbf config => .inl (.inl (.inl (.inl config)))
      | .fqCodel config => .inl (.inl (.inl (.inr config)))
      | .htb config => .inl (.inl (.inr config))
      | .cake config => .inl (.inr config)
      | .simple config => .inr config)
    (by rintro ((((config | config) | config) | config) | config) <;> rfl)).union

instance : qdiscConfig.Exact where
  exact sorted qdisc := by
    cases qdisc with
    | tbf config => exact congrArg QdiscConfig.tbf (tbfConfig.codec.settle_exact sorted config)
    | fqCodel config => exact congrArg QdiscConfig.fqCodel (fqCodelConfig.codec.settle_exact sorted config)
    | htb config => exact congrArg QdiscConfig.htb (htbConfig.codec.settle_exact sorted config)
    | cake config => exact congrArg QdiscConfig.cake (cakeConfig.codec.settle_exact sorted config)
    | simple config => exact congrArg QdiscConfig.simple (simpleQdiscConfig.codec.settle_exact sorted config)

end Qdiscs

section Links

inductive LinkKind where
  | veth
deriving DecidableEq

def LinkKind.name : LinkKind → String
  | .veth => "veth"

structure LinkConfig where
  kind : LinkKind := .veth
  endpoints : String × String
  mtu : Int := 1500
  netem : Option NetemConfig := none
  qdisc : Option QdiscConfig := none
deriving DecidableEq

def linkKind : Codec LinkKind :=
  .choice LinkKind.name [.veth] "Input should be 'veth'" fun kind => by cases kind; decide

instance : linkKind.Exact := by unfold linkKind; infer_instance

theorem linkKind_default : linkKind.holds .veth := trivial

/-- `tuple[str, str]`. -/
def endpointPair : Codec (String × String) where
  read
    | .sequence _ [left, right] => do
      let left ← located "0" (Codec.text.read left)
      let right ← located "1" (Codec.text.read right)
      pure (left, right)
    | _ => refuse "Input should be a valid tuple"
  dump pair := .list [.str pair.1, .str pair.2]
  settle _ pair := pair
  holds _ := True
  given _ := by simp
  plain _ := rfl
  reads _ _ _ _ := rfl
  sound _ _ _ _ := trivial

instance : endpointPair.Exact := ⟨fun _ _ => rfl⟩

def linkMtu : Codec Int := .between 576 9216

instance : linkMtu.Exact := by unfold linkMtu; infer_instance

theorem linkMtu_default : linkMtu.holds 1500 := Codec.holds_between.mpr (by decide)

def linkFields : Fields LinkConfig :=
  (((((Fields.defaulted "kind" .veth linkKind linkKind_default).and (.required "endpoints" endpointPair)).and
    (.defaulted "mtu" 1500 linkMtu linkMtu_default)).and (.nullable "netem" netemConfig)).and
    (.nullable "qdisc" qdiscConfig)).iso
    (fun ((((kind, endpoints), mtu), netem), qdisc) => ⟨kind, endpoints, mtu, netem, qdisc⟩)
    fun link => ((((link.kind, link.endpoints), link.mtu), link.netem), link.qdisc)

instance : linkFields.Exact := by unfold linkFields; infer_instance

def linkConfig : Codec LinkConfig :=
  linkFields.object.validated fun link =>
    Checks.raiseIf (link.netem.isSome ∧ link.qdisc.isSome) (issue "link netem and qdisc are mutually exclusive")

instance : linkConfig.Exact := by unfold linkConfig; infer_instance

end Links

end Nslab
