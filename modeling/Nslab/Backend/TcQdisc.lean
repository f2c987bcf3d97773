import Nslab.Plan.Types

/-! Comparing a simple queueing discipline with the options that `tc` reports.
The kernel fills in what a RED discipline leaves out, so its options are
completed before they are compared. -/

namespace Nslab

/-- The evaluation of RED parameters that the netlink library provides. It may find no value. -/
class RedEvaluation where
  ewma (minimum burst avpkt : Int) : Option Int
  idleDamping (ewma avpkt bandwidth : Int) : Option Int

section Red

variable [RedEvaluation]

/-- An option that is an integer, absent when it is anything else. -/
def integerOption (options : Dict String Document) (name : String) (default : Option Int) : Option Int :=
  match options.get? name with
  | none => default
  | some (.int value) => some value
  | some _ => none

/-- `value or default` of integers. -/
def orDefault (value : Int) (default : Option Int) : Option Int := if value = 0 then default else some value

/-- Floor division, which fails on zero. -/
def floorDivide (dividend divisor : Int) : Option Int := if divisor = 0 then none else some (dividend.fdiv divisor)

/-- A result of float arithmetic on integers, which fails when it is out of range. -/
def inRange (value : Float64) : Option Float64 := if value.isFinite then some value else none

/-- `_red_effective_options`, absent where the source raises an error that its caller catches. -/
def redEffectiveOptions (options : Dict String Document) : Option (List (String × Document)) := do
  let limit ← integerOption options "limit" none
  let avpkt ← integerOption options "avpkt" none
  let minimum ← integerOption options "min" (some 0)
  let maximum ← integerOption options "max" (some 0)
  let maximum ← orDefault maximum (if minimum ≠ 0 then some (minimum * 3) else some (limit.fdiv 4))
  let minimum ← orDefault minimum (some (maximum.fdiv 3))
  let burst ← integerOption options "burst" (some 0)
  let burst ← orDefault burst (floorDivide (2 * minimum + maximum) (3 * avpkt))
  if avpkt = 0 then none
  let share ← inRange (Float64.ofRat ((minimum : ℚ) / avpkt))
  let whole ← inRange (Float64.ofInt (burst + 1))
  let a := Float64.arith (· - ·) whole share
  if a.lt (.finite 1) then none
  let power ← inRange (Float64.ofRat ((1 / 2) ^ burst))
  let bound := Float64.arith (· / ·) (Float64.arith (· - ·) (.finite 1) power) (.finite (1 / 2))
  let ewma ← if bound.lt a then RedEvaluation.ewma minimum burst avpkt else some 1
  if ¬ (1 ≤ ewma ∧ ewma < 32) then none
  let scellLog ← RedEvaluation.idleDamping ewma avpkt 1250000
  if ¬ (0 ≤ scellLog ∧ scellLog < 32) then none
  let kept := options.entries.filter fun (name, _) => name ≠ "avpkt" ∧ name ≠ "burst"
  pure ((Dict.ofEntries kept).update [
    ("min", .int minimum),
    ("max", .int maximum),
    ("ewma", .int ewma),
    ("Scell_log", .int scellLog),
    ("probability", (options.get? "probability").getD (.float (Float64.ofRat (2 / 100)))),
    ("ecn", (options.get? "ecn").getD (.bool false)),
    ("harddrop", .bool false),
    ("adaptive", .bool false),
    ("nodrop", .bool false)]).entries

/-- `tc` prints a probability with six significant digits. -/
def probabilityMatches (value actual : Document) : Bool :=
  match value.number?, actual.number? with
  | some value, some actual => Float64.isClose (Float64.ofRat (5 / 1000000)) (Float64.ofRat (1 / 2 ^ 32)) value actual
  | _, _ => false

/-- `simple_qdisc_matches`: every option asked for is among those observed. -/
def simpleQdiscMatches (desired observed : SimpleQdiscPlan) : Bool :=
  if desired.kind ≠ observed.kind then false
  else if (Document.dict desired.options.entries).same (.dict observed.options.entries) then true
  else
    let expected? := if desired.kind = "red" then redEffectiveOptions desired.options else some desired.options.entries
    match expected? with
    | none => false
    | some expected => expected.all fun (name, value) => (observed.options.get? name).any fun actual =>
      if desired.kind = "red" ∧ name = "probability" then probabilityMatches value actual else value.same actual

theorem simpleQdiscMatches_kind {desired observed : SimpleQdiscPlan} (matched : simpleQdiscMatches desired observed = true) :
    desired.kind = observed.kind := by
  unfold simpleQdiscMatches at matched
  split at matched
  next => cases matched
  next same => exact not_not.mp same

end Red

end Nslab
