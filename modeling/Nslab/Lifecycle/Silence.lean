import Nslab.Library.Blame
import Nslab.Plan.RoundTrip
import Nslab.Lifecycle.Service

/-! No error of the planner, of the matching or of a snapshot tells of a rollback: only
the lifecycle service does. -/

namespace Nslab

namespace Lifecycle

open Checks

section Attachments

/-- Whether what is raised tells of a rollback that is complete. -/
def Raised.Claims (raised : Raised) : Prop := .bool true ∈ raised.attached "rollback_complete"

theorem lookup_insertEntries (entries : List (String × Document)) (key other : String) (value : Document) :
    (Dict.insertEntries entries key value).lookup other = if other = key then some value else entries.lookup other := by
  induction entries with
  | nil => simp [Dict.insertEntries, Dict.lookup_cons_if]
  | cons entry rest ih =>
    obtain ⟨head, stored⟩ := entry
    unfold Dict.insertEntries
    by_cases same : head = key
    · subst same
      by_cases equal : other = head
      · simp [Dict.lookup_cons_if, equal]
      · simp [Dict.lookup_cons_if, equal]
    · simp only [same, if_false, Dict.lookup_cons_if, ih]
      by_cases equal : other = head
      · subst equal
        simp [same]
      · simp [equal]

theorem Raised.attached_attach (raised : Raised) (key other : String) (value : Document) :
    ∀ item ∈ (raised.attach key value).attached other, other = key ∧ item = value ∨ item ∈ raised.attached other := by
  intro item member
  cases raised with
  | nslab error | cancelled error =>
    simp only [attach, attached, lookup_insertEntries] at member ⊢
    by_cases same : other = key
    · simp only [same, if_true, Option.toList_some, List.mem_singleton] at member
      exact .inl ⟨same, member⟩
    · rw [if_neg same] at member
      exact .inr member
  | exception type text notes | interrupt text notes =>
    simp only [attach, attached, List.filter_append, List.map_append, List.mem_append] at member ⊢
    cases member with
    | inl before => exact .inr before
    | inr last =>
      by_cases same : key = other
      · simp only [same, decide_true, List.filter_cons_of_pos, List.filter_nil, List.map_cons, List.map_nil,
        List.mem_singleton] at last
        exact .inl ⟨same.symm, last⟩
      · simp [same] at last

/-- Whatever is raised does not tell of a rollback. -/
abbrev Silent {α : Type} (result : Except PlanError α) : Prop := Blames (fun error => ¬ (Raised.ofPlanError error).Claims) result

theorem not_claims_exception {type text : String} : ¬ (Raised.exception type text []).Claims := by
  simp [Raised.Claims, Raised.attached]

theorem not_claims_nslab {error : NslabError} (silent : error.details.lookup "rollback_complete" = none) :
    ¬ (Raised.nslab error).Claims := by simp [Raised.Claims, Raised.attached, silent]

theorem silent_assertion {α : Type} : Silent (.error .assertionError : Except PlanError α) := .error not_claims_exception

theorem silent_key {α : Type} {key : String} : Silent (.error (.keyError key) : Except PlanError α) := .error not_claims_exception

theorem silent_value {α : Type} {message : String} : Silent (.error (.valueError message) : Except PlanError α) :=
  .error not_claims_exception

end Attachments

section Interfaces

variable {node : NodePlan} {plan : TopologyPlan}

theorem parentDeviceMtu_silent {interface : String} : Silent (parentDeviceMtu node plan interface) := by
  unfold parentDeviceMtu
  split
  · exact silent_value
  · exact .ok

theorem expectedDevice_silent (device : DevicePlan) : Silent (expectedDevice node plan device) := by
  cases device with
  | vlan | vrf | dummy => exact .ok
  | bond device =>
    refine Blames.bind ?_ fun _ => .ok
    unfold bondDeviceMtu
    dsimp only
    split
    · exact .ok
    · exact silent_value
  | vxlan device =>
    refine Blames.bind ?_ fun _ => .ok
    unfold vxlanDeviceMtu
    split
    · exact .ok
    · split
      · exact silent_value
      · exact .ok
  | gre device | geneve device | ipip device =>
    refine Blames.bind ?_ fun _ => .ok
    simp only [greDeviceMtu, geneveDeviceMtu, ipipDeviceMtu]
    split
    · exact .ok
    · exact parentDeviceMtu_silent.bind fun _ => .ok
  | macvlan device | ipvlan device =>
    refine Blames.bind ?_ fun _ => .ok
    simp only [macvlanDeviceMtu, ipvlanDeviceMtu]
    split
    · exact .ok
    · exact parentDeviceMtu_silent

theorem expectedInterfaces_silent : Silent (expectedInterfaces node plan) := by
  unfold expectedInterfaces
  refine Blames.bind ?_ fun _ => Blames.bind (.collect fun device _ => (expectedDevice_silent device).map) fun _ => .ok
  unfold expectedBridge
  split
  · exact .ok
  · split
    · exact silent_assertion
    · exact .ok

theorem expectedRoutes_silent : Silent (expectedRoutes node) := by
  unfold expectedRoutes
  refine Blames.bind (.collect fun entry _ => Blames.bind ?_ fun _ => .ok) fun _ => .ok
  unfold nodeInterfaceRouteTable
  split
  · exact .ok
  · split
    · exact silent_key
    · split
      · exact silent_assertion
      · exact .ok

variable [RedEvaluation]

theorem nodesMatch_silent (inventory : LiveInventory) (nodes : List NodePlan) : Silent (nodesMatch plan inventory nodes) := by
  induction nodes with
  | nil => exact .ok
  | cons node rest ih =>
    unfold nodesMatch
    split
    · exact silent_key
    · refine Blames.bind ?_ fun live => by
        split
        · exact ih
        · exact .ok
      unfold nodeMatches
      split
      · exact .ok
      · dsimp only
        refine expectedInterfaces_silent.bind fun expected => ?_
        split
        · exact .ok
        · exact expectedRoutes_silent.bind fun _ => .ok

theorem inventoryMatchesPlan_silent (inventory : LiveInventory) : Silent (inventoryMatchesPlan plan inventory) := by
  unfold inventoryMatchesPlan
  split
  · exact .ok
  · split
    · exact .ok
    · refine (nodesMatch_silent inventory _).bind fun live => ?_
      split
      · exact .ok
      · exact .ok

end Interfaces

section Plans

theorem compilePlan_silent {manifest : Manifest} {nameOverride : Option String} : Silent (compilePlan manifest nameOverride) := by
  have endpoints : ∀ endpoint temporary (nodes : Dict String NodePlan), Silent (compileEndpoint endpoint temporary nodes) := by
    intro endpoint temporary nodes
    unfold compileEndpoint
    dsimp only
    split
    · exact silent_value
    · split
      · exact silent_key
      · exact .ok
  unfold compilePlan
  refine Blames.bind ?_ fun deployment => Blames.bind ?_ fun nodes => Blames.bind (.collect fun entry _ => ?_) fun _ => .ok
  · unfold effectiveDeploymentName
    split
    · exact .ok
    · split
      · exact .ok
      · exact .error (not_claims_nslab (by simp [Dict.lookup_cons_if]))
  · intro error failed
    rw [compileNodes_error failed]
    exact not_claims_exception
  · exact (endpoints _ _ _).bind fun _ => (endpoints _ _ _).bind fun _ => .ok

theorem interfaceOwnership_silent {plan : TopologyPlan} {inventory : Option LiveInventory} :
    Silent (interfaceOwnership plan inventory) := by
  have observed : ∀ netns interface value, Silent (observedValue inventory netns interface value) := by
    intro netns interface value
    unfold observedValue
    split
    · exact .ok
    · refine Blames.map ?_
      unfold observedInterface
      split
      · exact silent_key
      · split
        · exact silent_key
        · exact .ok
  refine Blames.bind (.collect fun entry _ => ?_) fun _ => .ok
  refine Blames.bind ?_ fun _ => Blames.bind (.collect fun device _ => ?_)
    fun _ => Blames.bind (.collect fun endpoint _ => ?_) fun _ => .ok
  · unfold ownedBridge
    split
    · exact (observed _ _ _).bind fun _ => .ok
    · exact .ok
  · exact (observed _ _ _).bind fun _ => .ok
  · exact (observed _ _ _).bind fun _ => (observed _ _ _).bind fun _ => .ok

end Plans

section Snapshots

variable {snapshot : StateSnapshot}

theorem snapshotInvalid_silent {reason : String} {details : List (String × Document)}
    (silent : details.lookup "rollback_complete" = none) : ¬ (Raised.nslab (snapshotInvalid snapshot reason details)).Claims := by
  apply not_claims_nslab
  simp only [snapshotInvalid, List.cons_append, List.nil_append, List.lookup_cons, silent]
  rfl

/-- What is raised of a snapshot tells of no rollback. -/
abbrev Quiet {α : Type} (result : Except NslabError α) : Prop := Blames (fun error => ¬ (Raised.nslab error).Claims) result

theorem raiseInvalid_quiet {bad : Prop} [Decidable bad] {reason : String} {details : List (String × Document)}
    (silent : details.lookup "rollback_complete" = none) : Quiet (raiseIf bad (snapshotInvalid snapshot reason details)) :=
  .raiseIf (snapshotInvalid_silent silent)

theorem validateLinkIds_quiet {ownership : Dict String (List (String × Document))} {links : List LinkPlan}
    {seen : Dict String Nat} :
    Quiet (validateLinkIds snapshot ownership links seen) := by
  induction links generalizing seen with
  | nil => exact .ok
  | cons link rest ih =>
    refine Blames.bind (.each fun key _ => raiseInvalid_quiet rfl) fun _ => ?_
    exact (raiseInvalid_quiet rfl).bind fun _ => (raiseInvalid_quiet rfl).bind fun _ => ih

theorem validateOwnership_quiet {entry : String × List (String × Document)} : Quiet (validateOwnership snapshot entry) := by
  unfold validateOwnership
  dsimp only
  split
  · refine (raiseInvalid_quiet rfl).bind fun _ => ?_
    exact (raiseInvalid_quiet rfl).bind fun _ => (raiseInvalid_quiet rfl).bind fun _ => .ok
  · exact .error (snapshotInvalid_silent rfl)

theorem validateInterfaces_quiet {plan : TopologyPlan} : Quiet (validateInterfaces snapshot plan) := by
  refine (raiseInvalid_quiet rfl).bind fun _ => Blames.bind (.collect fun entry _ => validateOwnership_quiet.map) fun _ => ?_
  dsimp only
  split
  · exact .ok
  · split
    · exact .ok
    · refine (raiseInvalid_quiet rfl).bind fun _ => ?_
      split
      · exact (raiseInvalid_quiet rfl).bind fun _ => .ok
      · exact (raiseInvalid_quiet rfl).bind fun _ => validateLinkIds_quiet.bind fun _ => .ok

theorem validateSnapshot_silent {text : Schema.Issue → String} : Silent (validateSnapshot text snapshot) := by
  have raises : ∀ (bad : Prop) [Decidable bad] (reason : String) (details : List (String × Document)),
      details.lookup "rollback_complete" = none →
      Silent (raiseIf bad (.nslabError (snapshotInvalid snapshot reason details))) := by
    intro bad _ reason details silent
    exact .raiseIf (snapshotInvalid_silent silent)
  refine Blames.bind ?_ fun plan => Blames.bind (.mapIssue validateInterfaces_quiet) fun _ => .ok
  unfold snapshotPlan
  split
  · exact .error (snapshotInvalid_silent rfl)
  · exact compilePlan_silent.bind fun _ => (raises _ _ _ rfl).bind fun _ => (raises _ _ _ rfl).bind fun _ => .ok

end Snapshots

end Lifecycle

end Nslab
