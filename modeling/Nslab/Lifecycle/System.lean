import Nslab.Library.Trace
import Nslab.Lifecycle.Ownership

/-! What the lifecycle service works on: errors that gather what happened after them,
the calls of a backend, of a store and of a lock, and the calls as they are made. -/

namespace Nslab

namespace Lifecycle

section Errors

/-- What is raised. Values attached to an error that is not of the domain are its notes, each with its key. -/
inductive Raised where
  | nslab (error : NslabError)
  /-- `OperationCancelled`. -/
  | cancelled (error : NslabError)
  | exception (type text : String) (notes : List (String × Document) := [])
  /-- `KeyboardInterrupt`. -/
  | interrupt (text : String := "") (notes : List (String × Document) := [])

mutual
/-- `_json_safe`: plain containers, and texts of numbers that are not finite. -/
def jsonSafe : Document → Document
  | .float value => if value.isFinite then .float value else .str value.repr
  | .sequence _ items => .list (jsonSafeItems items)
  | .mapping _ entries => .dict (jsonSafeEntries entries)
  | .null => .null
  | .bool value => .bool value
  | .int value => .int value
  | .str value => .str value
termination_by structural document => document

def jsonSafeItems : List Document → List Document
  | [] => []
  | item :: items => jsonSafe item :: jsonSafeItems items
termination_by structural items => items

def jsonSafeEntries : List (String × Document) → List (String × Document)
  | [] => []
  | (key, value) :: entries => (key, jsonSafe value) :: jsonSafeEntries entries
termination_by structural entries => entries
end

namespace Raised

/-- The error of the domain that is raised. -/
def error? : Raised → Option NslabError
  | .nslab error => some error
  | .cancelled error => some error
  | _ => none

/-- `isinstance(error, (OperationCancelled, KeyboardInterrupt))`. -/
def isInterrupt : Raised → Bool
  | .cancelled _ => true
  | .interrupt _ _ => true
  | _ => false

/-- `_error_payload`. -/
def payload : Raised → Document
  | .nslab error => jsonSafe (.dict
    [("code", .str error.code), ("message", .str error.message), ("details", .dict error.details)])
  | .cancelled error =>
    jsonSafe (.dict [("code", .str error.code), ("message", .str error.message), ("details", .dict error.details)])
  | .exception type text _ => .dict [("type", .str type), ("message", .str text)]
  | .interrupt text _ => .dict [("type", .str "KeyboardInterrupt"), ("message", .str text)]

/-- `_attach`. -/
def attach (key : String) (value : Document) : Raised → Raised
  | .nslab error => .nslab { error with details := Dict.insertEntries error.details key value }
  | .cancelled error => .cancelled { error with details := Dict.insertEntries error.details key value }
  | .exception type text notes => .exception type text (notes ++ [(key, value)])
  | .interrupt text notes => .interrupt text (notes ++ [(key, value)])

/-- The values attached under a key. -/
def attached (key : String) : Raised → List Document
  | .nslab error => (error.details.lookup key).toList
  | .cancelled error => (error.details.lookup key).toList
  | .exception _ _ notes => (notes.filter (·.1 = key)).map Prod.snd
  | .interrupt _ notes => (notes.filter (·.1 = key)).map Prod.snd

/-- `_requires_reconciliation`. -/
def requiresReconciliation (raised : Raised) : Bool :=
  raised.isInterrupt ||
    raised.error?.any fun error => ["STATE_COMMIT_OUTCOME_UNKNOWN", "STATE_DURABILITY_UNCERTAIN"].contains error.code

def ofPlanError : PlanError → Raised
  | .assertionError => .exception "AssertionError" ""
  | .keyError key => .exception "KeyError" (quoted key)
  | .valueError message => .exception "ValueError" message
  | .nslabError error => .nslab error

end Raised

end Errors

section Systems

variable (σ : Type)

/-- A backend. It may do without routing. -/
structure NetworkBackend where
  inventory : TopologyPlan → Action σ Raised LiveInventory
  createNamespace : NodePlan → Action σ Raised Unit
  createBridge : NodePlan → Action σ Raised Unit
  createVeth : LinkPlan → Action σ Raised Unit
  configureNode : NodePlan → TopologyPlan → Action σ Raised Unit
  deleteNamespace : String → Action σ Raised Unit
  startRouting : Option (TopologyPlan → Action σ Raised Unit)
  stopRouting : Option (TopologyPlan → Action σ Raised Unit)
  routingReady : Option (TopologyPlan → Action σ Raised Bool)

structure SnapshotStore where
  load : String → Action σ Raised (Option StateSnapshot)
  save : StateSnapshot → Action σ Raised Unit
  delete : String → Action σ Raised Unit

/-- A lock. Leaving it is told whether something has been raised. -/
structure Lock where
  enter : String → Action σ Raised Unit
  exit : String → Bool → Action σ Raised Unit

structure LifecycleService where
  backend : NetworkBackend σ
  stateStore : SnapshotStore σ
  lock : Lock σ
  /-- The time, in UTC. -/
  timestamp : σ → String
  /-- The text of an error of the schema. -/
  schemaError : Schema.Issue → String

end Systems

/-- A call with its reply. -/
inductive Call where
  | enter (name : String) (reply : Except Raised Unit)
  | exit (name : String) (raised : Bool) (reply : Except Raised Unit)
  | load (name : String) (reply : Except Raised (Option StateSnapshot))
  | save (snapshot : StateSnapshot) (reply : Except Raised Unit)
  | delete (name : String) (reply : Except Raised Unit)
  | inventory (plan : TopologyPlan) (reply : Except Raised LiveInventory)
  | createNamespace (node : NodePlan) (reply : Except Raised Unit)
  | createBridge (node : NodePlan) (reply : Except Raised Unit)
  | createVeth (link : LinkPlan) (reply : Except Raised Unit)
  | configureNode (node : NodePlan) (plan : TopologyPlan) (reply : Except Raised Unit)
  | deleteNamespace (netns : String) (reply : Except Raised Unit)
  | startRouting (plan : TopologyPlan) (reply : Except Raised Unit)
  | stopRouting (plan : TopologyPlan) (reply : Except Raised Unit)
  | routingReady (plan : TopologyPlan) (reply : Except Raised Bool)

/-- `_has_routing`. -/
def hasRouting (plan : TopologyPlan) : Bool := plan.nodes.values.any (·.routing.isSome)

abbrev Session (σ : Type) := Traced σ Call

abbrev Runs (σ α : Type) := Action (Session σ) Raised α

namespace LifecycleService

variable {σ : Type} (service : LifecycleService σ)

section Calls

def load (name : String) : Runs σ (Option StateSnapshot) := Traced.perform (service.stateStore.load name) (.load name)

def save (snapshot : StateSnapshot) : Runs σ Unit := Traced.perform (service.stateStore.save snapshot) (.save snapshot)

def delete (name : String) : Runs σ Unit := Traced.perform (service.stateStore.delete name) (.delete name)

def inventory (plan : TopologyPlan) : Runs σ LiveInventory := Traced.perform (service.backend.inventory plan) (.inventory plan)

def createNamespace (node : NodePlan) : Runs σ Unit :=
  Traced.perform (service.backend.createNamespace node) (.createNamespace node)

def createBridge (node : NodePlan) : Runs σ Unit := Traced.perform (service.backend.createBridge node) (.createBridge node)

def createVeth (link : LinkPlan) : Runs σ Unit := Traced.perform (service.backend.createVeth link) (.createVeth link)

def configureNode (node : NodePlan) (plan : TopologyPlan) : Runs σ Unit :=
  Traced.perform (service.backend.configureNode node plan) (.configureNode node plan)

def deleteNamespace (netns : String) : Runs σ Unit :=
  Traced.perform (service.backend.deleteNamespace netns) (.deleteNamespace netns)

/-- A call that is made for topologies with dynamic routing only, and that a backend has to support for them. -/
def routingCall {α : Type} (plan : TopologyPlan) (method : Option (TopologyPlan → Action σ Raised α)) (without : α)
    (call : Except Raised α → Call) : Runs σ α :=
  if hasRouting plan = false then pure without
  else match method with
    | none => Action.raise (.nslab {
        code := "ROUTING_UNSUPPORTED"
        message := "network backend does not support dynamic routing: " ++ plan.name
        details := [("name", .str plan.name)] })
    | some method => Traced.perform (method plan) call

def startRouting (plan : TopologyPlan) : Runs σ Unit := routingCall plan service.backend.startRouting () (.startRouting plan)

def stopRouting (plan : TopologyPlan) : Runs σ Unit := routingCall plan service.backend.stopRouting () (.stopRouting plan)

def routingReady (plan : TopologyPlan) : Runs σ Bool := routingCall plan service.backend.routingReady true (.routingReady plan)

/-- `with self.lock_factory(name): body`. -/
def locked {α : Type} (name : String) (body : Runs σ α) : Runs σ α := do
  Traced.perform (service.lock.enter name) (.enter name)
  match ← Action.attempt body with
  | .ok value =>
    Traced.perform (service.lock.exit name false) (.exit name false)
    pure value
  | .error raised =>
    Traced.perform (service.lock.exit name true) (.exit name true)
    Action.raise raised

end Calls

/-- Whether a call with its reply takes one state of the system to another. -/
def Performs (before : σ) : Call → σ → Prop
  | .enter name reply, after => service.lock.enter name before = (reply, after)
  | .exit name raised reply, after => service.lock.exit name raised before = (reply, after)
  | .load name reply, after => service.stateStore.load name before = (reply, after)
  | .save snapshot reply, after => service.stateStore.save snapshot before = (reply, after)
  | .delete name reply, after => service.stateStore.delete name before = (reply, after)
  | .inventory plan reply, after => service.backend.inventory plan before = (reply, after)
  | .createNamespace node reply, after => service.backend.createNamespace node before = (reply, after)
  | .createBridge node reply, after => service.backend.createBridge node before = (reply, after)
  | .createVeth link reply, after => service.backend.createVeth link before = (reply, after)
  | .configureNode node plan reply, after => service.backend.configureNode node plan before = (reply, after)
  | .deleteNamespace netns reply, after => service.backend.deleteNamespace netns before = (reply, after)
  | .startRouting plan reply, after => ∃ method ∈ service.backend.startRouting, method plan before = (reply, after)
  | .stopRouting plan reply, after => ∃ method ∈ service.backend.stopRouting, method plan before = (reply, after)
  | .routingReady plan reply, after => ∃ method ∈ service.backend.routingReady, method plan before = (reply, after)

end LifecycleService

end Lifecycle

end Nslab
