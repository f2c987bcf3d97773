import Nslab.Lifecycle.System

/-! The lifecycle service: deploying, destroying and redeploying one topology, with
what is done when a step of it fails. Each function has its words in the source. -/

namespace Nslab

namespace Lifecycle

structure LifecycleResult where
  action : String
  name : String
  changed : Bool
  status : String
  message : String
  deriving DecidableEq

/-- What the record and the live resources look like. -/
structure Reconciliation where
  snapshot : Option StateSnapshot
  inventory : Option LiveInventory
  diagnostics : List (String × Document)

structure DeleteGate where
  reconciliation : Reconciliation
  conclusive : Bool
  liveAbsent : Bool
  expectedSnapshot : Bool

def DeleteGate.retrySafe (gate : DeleteGate) : Bool := gate.conclusive && gate.expectedSnapshot && gate.liveAbsent

section Demands

variable (plan : TopologyPlan) (manifest : Manifest)

/-- `_validate_plan_manifest`. -/
def validatePlanManifest : Except Raised Unit := do
  let expected ← Checks.mapIssue Raised.ofPlanError (compilePlan manifest (some plan.name))
  let fingerprint := manifestFingerprint manifest
  Checks.raiseIf (plan.fingerprint ≠ fingerprint ∨ ¬ plan.Same expected ∨ plan.nodes.keys ≠ expected.nodes.keys) (.nslab {
    code := "PLAN_MANIFEST_MISMATCH"
    message := "topology plan does not match manifest: " ++ plan.name
    details := [("name", .str plan.name), ("plan_fingerprint", .str plan.fingerprint),
      ("manifest_fingerprint", .str fingerprint)] })

/-- `_require_snapshot_identity`. -/
def requireSnapshotIdentity (snapshot : StateSnapshot) (requestedName : String) : Except Raised Unit :=
  Checks.raiseIf (snapshot.name ≠ requestedName) (.nslab {
    code := "STATE_INVALID"
    message := "deployment state identity does not match its requested path: " ++ requestedName
    details := [("requested_name", .str requestedName), ("snapshot_name", .str snapshot.name)] })

/-- `_require_stable_snapshot`. -/
def requireStableSnapshot (snapshot : StateSnapshot) : Except Raised Unit :=
  Checks.raiseIf (snapshot.status ≠ "deployed") (.nslab {
    code := "DEPLOYMENT_INTERRUPTED"
    message := "deployment has interrupted " ++ snapshot.status ++ " state: " ++ snapshot.name
    details := [("name", .str snapshot.name), ("status", .str snapshot.status)] })

/-- `_ownership_unknown`. -/
def ownershipUnknown (name : String) : Raised := .nslab {
  code := "OWNERSHIP_UNKNOWN"
  message := "cannot prove ownership of live resources: " ++ name
  details := [("name", .str name)] }

/-- `_plan_from_snapshot`. -/
def planFromSnapshot (text : Schema.Issue → String) (snapshot : StateSnapshot) : Except Raised TopologyPlan :=
  Checks.mapIssue Raised.ofPlanError ((validateSnapshot text snapshot).map Prod.fst)

/-- `_snapshot_for_plan`. -/
def snapshotForPlan (createdAt status : String) (inventory : Option LiveInventory) : Except Raised StateSnapshot := do
  let interfaces ← Checks.mapIssue Raised.ofPlanError (interfaceOwnership plan inventory)
  Checks.mapIssue (fun message => .exception "ValueError" message)
    (StateSnapshot.create 1 plan.name plan.fingerprint (normalizedManifest manifest)
      (plan.nodes.map fun _ node => node.netns) (.dict interfaces.entries) createdAt status)

end Demands

section Cleanups

/-- Whether what is raised says that a namespace is not there. -/
def isMissing (raised : Raised) : Bool := raised.error?.any (·.code = "RESOURCE_MISSING")

/-- What is noted of a namespace that was deleted, or was not. -/
def namespaceNote (netns result : String) (raised : Option Raised) : Document :=
  .dict ([("namespace", .str netns), ("result", .str result)] ++ (raised.map fun raised => ("error", raised.payload)).toList)

def routingNote (result : String) (raised : Option Raised) : Document :=
  .dict ([("routing", .str result)] ++ (raised.map fun raised => ("error", raised.payload)).toList)

end Cleanups

namespace LifecycleService

variable [RedEvaluation] {σ : Type} (service : LifecycleService σ)

/-- What a pure computation gives, or raises. -/
def settle {α : Type} (result : Except Raised α) : Runs σ α := Action.inspect fun _ => result

section Reconciling

/-- What is told of the record. -/
def stateDiagnostic : Except Raised (Option StateSnapshot) → String × Document
  | .ok none => ("state", .null)
  | .ok (some snapshot) => ("state", .dict [("name", .str snapshot.name), ("fingerprint", .str snapshot.fingerprint),
      ("status", .str snapshot.status)])
  | .error raised => ("state_error", raised.payload)

/-- What is told of the live resources. -/
def inventoryDiagnostic (plan : TopologyPlan) : Except Raised LiveInventory → String × Document
  | .ok inventory => match inventoryMatchesPlan plan inventory with
    | .ok live => ("inventory", .dict [("absent", .bool (inventoryIsAbsent plan inventory)), ("matches", .bool live)])
    | .error error => ("inventory_error", (Raised.ofPlanError error).payload)
  | .error raised => ("inventory_error", raised.payload)

def reconciliation (plan : TopologyPlan) (state : Except Raised (Option StateSnapshot)) (live : Except Raised LiveInventory) :
    Reconciliation where
  snapshot := state.toOption.join
  inventory := live.toOption
  diagnostics := [stateDiagnostic state, inventoryDiagnostic plan live]

/-- `_reconcile`. Nothing is raised by it. -/
def reconcile (plan : TopologyPlan) : Runs σ Reconciliation := do
  let state ← Action.attempt (service.load plan.name)
  let live ← Action.attempt (service.inventory plan)
  pure (reconciliation plan state live)

/-- `"state_error" not in diagnostics and "inventory_error" not in diagnostics`. -/
def Conclusive (reconciliation : Reconciliation) : Bool :=
  reconciliation.diagnostics.all fun entry => entry.1 != "state_error" && entry.1 != "inventory_error"

/-- `_delete_gate`. -/
def deleteGate (plan : TopologyPlan) (expected : StateSnapshot) : Runs σ DeleteGate := do
  let reconciliation ← service.reconcile plan
  pure {
    reconciliation := reconciliation
    conclusive := Conclusive reconciliation
    liveAbsent := reconciliation.inventory.any (inventoryIsAbsent plan)
    expectedSnapshot := reconciliation.snapshot.any (·.same expected) }

/-- `_save_initial_transition`. -/
def saveInitialTransition (snapshot : StateSnapshot) (plan : TopologyPlan) : Runs σ Unit := do
  match ← Action.attempt (service.save snapshot) with
  | .ok () => pure ()
  | .error raised =>
    if raised.requiresReconciliation then
      let reconciliation ← service.reconcile plan
      Action.raise (raised.attach "reconciliation" (.dict reconciliation.diagnostics))
    else Action.raise raised

/-- `_raise_delete_retry_interrupt`. -/
def raiseDeleteRetryInterrupt {α : Type} (interrupt previousOperation previousStateError : Raised) (previousGate : DeleteGate)
    (plan : TopologyPlan) (expected : StateSnapshot) : Runs σ α := do
  let retryGate ← service.deleteGate plan expected
  Action.raise ((((interrupt.attach "reconciliation" (.dict retryGate.reconciliation.diagnostics)).attach
    "previous_operation_error" previousOperation.payload).attach
    "previous_state_delete_error" previousStateError.payload).attach
    "previous_state_delete_reconciliation" (.dict previousGate.reconciliation.diagnostics))

end Reconciling

section RollingBack

/-- `_reconcile_rollback_state_delete`: whether the record is gone, and the error with what it has gathered. -/
def reconcileRollbackStateDelete (original stateError : Raised) (plan : TopologyPlan) (deploying : StateSnapshot) :
    Runs σ (Bool × Raised) := do
  let original := original.attach "rollback_state" stateError.payload
  if stateError.requiresReconciliation = false then pure (false, original)
  else
    let gate ← service.deleteGate plan deploying
    let original := original.attach "rollback_state_reconciliation" (.dict gate.reconciliation.diagnostics)
    if stateError.isInterrupt ∨ gate.retrySafe = false then pure (false, original)
    else
      match ← Action.attempt (service.delete plan.name) with
      | .ok () => pure (true, original)
      | .error retryError =>
        if retryError.isInterrupt then
          service.raiseDeleteRetryInterrupt retryError original stateError gate plan deploying
        else
          let original := original.attach "rollback_state_delete_retry" retryError.payload
          if retryError.requiresReconciliation = false then pure (false, original)
          else
            let retryGate ← service.deleteGate plan deploying
            pure (false, original.attach "rollback_state_delete_retry_reconciliation"
              (.dict retryGate.reconciliation.diagnostics))

/-- `_remove_rollback_state`: whether the record is gone, and the error with what it has gathered. -/
def removeRollbackState (original : Raised) (plan : TopologyPlan) (deploying : StateSnapshot) : Runs σ (Bool × Raised) := do
  match ← Action.attempt (service.load plan.name) with
  | .error stateError => pure (false, original.attach "rollback_state" stateError.payload)
  | .ok none => pure (true, original)
  | .ok (some current) =>
    if current.same deploying = false then
      pure (false, original.attach "rollback_state" (.dict [("result", .str "retained"), ("status", .str current.status),
        ("fingerprint", .str current.fingerprint)]))
    else
      match ← Action.attempt (service.delete plan.name) with
      | .ok () => pure (true, original)
      | .error stateError => service.reconcileRollbackStateDelete original stateError plan deploying

/-- Routing is stopped: what is noted of it, and whether it failed. -/
def rollbackRouting (plan : TopologyPlan) : Runs σ (List Document × Bool) := do
  if hasRouting plan = false then pure ([], false)
  else
    match ← Action.attempt (service.stopRouting plan) with
    | .ok () => pure ([routingNote "stopped" none], false)
    | .error (.interrupt text notes) => pure ([routingNote "interrupted" (some (.interrupt text notes))], true)
    | .error raised => pure ([routingNote "failed" (some raised)], true)

/-- All namespaces are deleted, whatever fails: what is noted of them, and whether one failed. -/
def rollbackNamespaces : List String → Runs σ (List Document × Bool)
  | [] => pure ([], false)
  | netns :: rest => do
    let outcome ← Action.attempt (service.deleteNamespace netns)
    let (notes, failed) ← rollbackNamespaces rest
    match outcome with
    | .ok () => pure (namespaceNote netns "deleted" none :: notes, failed)
    | .error raised =>
      if isMissing raised then pure (namespaceNote netns "absent" none :: notes, failed)
      else pure (namespaceNote netns "failed" (some raised) :: notes, true)

/-- `_rollback_and_attach`: the error with what it has gathered. -/
def rollbackAndAttach (error : Raised) (plan : TopologyPlan) (createdNamespaces : List String) (deploying : StateSnapshot) :
    Runs σ Raised := do
  let (routing, routingFailed) ← service.rollbackRouting plan
  let (namespaces, namespacesFailed) ← service.rollbackNamespaces createdNamespaces.reverse
  let (absent, error) ← (do
    match ← Action.attempt (service.inventory plan) with
    | .ok inventory => pure (inventoryIsAbsent plan inventory, error)
    | .error inventoryError => pure (false, error.attach "rollback_inventory" inventoryError.payload) : Runs σ (Bool × Raised))
  let (complete, error) ← if (routingFailed || namespacesFailed) = false ∧ absent then
      service.removeRollbackState error plan deploying
    else pure (false, error)
  pure ((error.attach "rollback" (.list (routing ++ namespaces))).attach "rollback_complete" (.bool complete))

/-- `_handle_final_deploy_save_failure`: the error with what it has gathered. -/
def handleFinalDeploySaveFailure (error : Raised) (plan : TopologyPlan) (createdNamespaces : List String)
    (deploying : StateSnapshot) : Runs σ Raised := do
  if error.requiresReconciliation then
    let reconciliation ← service.reconcile plan
    let error := error.attach "reconciliation" (.dict reconciliation.diagnostics)
    if Conclusive reconciliation = false then pure error
    else if reconciliation.snapshot.any fun snapshot =>
        snapshot.name = plan.name && snapshot.fingerprint = plan.fingerprint && snapshot.status = "deployed" then pure error
    else service.rollbackAndAttach error plan createdNamespaces deploying
  else service.rollbackAndAttach error plan createdNamespaces deploying

end RollingBack

section Deploying

/-- Namespaces are created: those that were, and how it ended. -/
def createNamespaces : List NodePlan → List String → Runs σ (List String × Except Raised Unit)
  | [], created => pure (created, .ok ())
  | node :: rest, created => do
    match ← Action.attempt (service.createNamespace node) with
    | .ok () => createNamespaces rest (created ++ [node.netns])
    | .error raised => pure (created, .error raised)

/-- `live and _routing_ready(plan)`. -/
def readyWhen (live : Bool) (plan : TopologyPlan) : Runs σ Bool := if live then service.routingReady plan else pure false

/-- The live resources, which have to match the plan, with routing ready. -/
def verify (plan : TopologyPlan) : Runs σ LiveInventory := do
  let inventory ← service.inventory plan
  let live ← settle (Checks.mapIssue Raised.ofPlanError (inventoryMatchesPlan plan inventory))
  let ready ← service.readyWhen live plan
  if ready then pure inventory
  else Action.raise (.nslab {
    code := "DEPLOYMENT_VERIFICATION_FAILED"
    message := "deployed topology failed live verification: " ++ plan.name
    details := [("name", .str plan.name), ("fingerprint", .str plan.fingerprint)] })

/-- What comes after the namespaces. -/
def construct (plan : TopologyPlan) : Runs σ LiveInventory := do
  Action.each (plan.nodes.values.filter (·.kind = .bridge)) service.createBridge
  Action.each plan.links service.createVeth
  Action.each plan.nodes.values fun node => service.configureNode node plan
  service.startRouting plan
  service.verify plan

/-- A topology is there already, as it is wanted. -/
def deployAgain (plan : TopologyPlan) (current : StateSnapshot) : Runs σ LifecycleResult := do
  settle (requireSnapshotIdentity current plan.name)
  settle (requireStableSnapshot current)
  settle (Checks.raiseIf (current.fingerprint ≠ plan.fingerprint) (.nslab {
    code := "DEPLOYMENT_CONFLICT"
    message := "deployment already exists with different topology: " ++ plan.name
    details := [("name", .str plan.name), ("expected_fingerprint", .str plan.fingerprint),
      ("actual_fingerprint", .str current.fingerprint)] }))
  let _ ← settle (planFromSnapshot service.schemaError current)
  let inventory ← service.inventory plan
  let live ← settle (Checks.mapIssue Raised.ofPlanError (inventoryMatchesPlan plan inventory))
  let recorded := recordedLinkIdsMatchInventory plan inventory (.ofEntries current.interfaces.entries)
  let ready ← service.readyWhen (live && recorded) plan
  if ready then pure {
    action := "deploy"
    name := plan.name
    changed := false
    status := "deployed"
    message := "topology already deployed: " ++ plan.name }
  else Action.raise (.nslab {
    code := "DEPLOYMENT_DRIFT"
    message := "deployed topology does not match live resources: " ++ plan.name
    details := [("name", .str plan.name), ("fingerprint", .str plan.fingerprint)] })

/-- The namespaces and what comes after them: the namespaces created, and how it ended. -/
def build (plan : TopologyPlan) : Runs σ (List String × Except Raised LiveInventory) := do
  let (createdNamespaces, outcome) ← service.createNamespaces plan.nodes.values []
  match outcome with
  | .error raised => pure (createdNamespaces, .error raised)
  | .ok () =>
    let outcome ← Action.attempt (service.construct plan)
    pure (createdNamespaces, outcome)

/-- What is done once a deployment is recorded: it is built and recorded as deployed, or undone. -/
def deployRecorded (plan : TopologyPlan) (manifest : Manifest) (createdAt : String) (deploying : StateSnapshot) :
    Runs σ LifecycleResult := do
  let (createdNamespaces, outcome) ← service.build plan
  match outcome with
  | .error raised =>
    let raised ← service.rollbackAndAttach raised plan createdNamespaces deploying
    Action.raise raised
  | .ok inventory =>
    let deployed ← settle (snapshotForPlan plan manifest createdAt "deployed" (some inventory))
    match ← Action.attempt (service.save deployed) with
    | .ok () => pure {
        action := "deploy"
        name := plan.name
        changed := true
        status := "deployed"
        message := "deployed topology: " ++ plan.name }
    | .error raised =>
      let raised ← service.handleFinalDeploySaveFailure raised plan createdNamespaces deploying
      Action.raise raised

/-- A topology that is not recorded, and not there. -/
def deployAnew (plan : TopologyPlan) (manifest : Manifest) : Runs σ LifecycleResult := do
  let preflight ← service.inventory plan
  settle (Checks.raiseIf (inventoryIsAbsent plan preflight = false) (ownershipUnknown plan.name))
  let createdAt ← Action.inspect fun session => .ok (service.timestamp session.state)
  let deploying ← settle (snapshotForPlan plan manifest createdAt "deploying" none)
  service.saveInitialTransition deploying plan
  service.deployRecorded plan manifest createdAt deploying

/-- `_deploy_locked`, after the plan has been validated. -/
def deployLocked (plan : TopologyPlan) (manifest : Manifest) : Runs σ LifecycleResult := do
  match ← service.load plan.name with
  | some current => service.deployAgain plan current
  | none => service.deployAnew plan manifest

end Deploying

section Destroying

/-- `_handle_final_delete_failure`. -/
def handleFinalDeleteFailure (error : Raised) (plan : TopologyPlan) (destroying : StateSnapshot) : Runs σ Unit := do
  if error.requiresReconciliation = false then Action.raise error
  else
    let gate ← service.deleteGate plan destroying
    let error := error.attach "reconciliation" (.dict gate.reconciliation.diagnostics)
    if error.isInterrupt ∨ gate.retrySafe = false then Action.raise error
    else
      match ← Action.attempt (service.delete plan.name) with
      | .ok () => pure ()
      | .error retryError =>
        if retryError.isInterrupt then
          service.raiseDeleteRetryInterrupt retryError error error gate plan destroying
        else
          let error := error.attach "state_delete_retry" retryError.payload
          if retryError.requiresReconciliation = false then Action.raise error
          else
            let retryGate ← service.deleteGate plan destroying
            Action.raise (error.attach "state_delete_retry_reconciliation" (.dict retryGate.reconciliation.diagnostics))

/-- `_delete_final_state`. -/
def deleteFinalState (plan : TopologyPlan) (destroying : StateSnapshot) : Runs σ Unit := do
  match ← Action.attempt (service.delete plan.name) with
  | .ok () => pure ()
  | .error raised => service.handleFinalDeleteFailure raised plan destroying

/-- Routing is stopped: what is noted of it, and what was raised. -/
def destroyRouting (plan : TopologyPlan) : Runs σ (List Document × Option Raised) := do
  if hasRouting plan = false then pure ([], none)
  else
    match ← Action.attempt (service.stopRouting plan) with
    | .ok () => pure ([routingNote "stopped" none], none)
    | .error raised =>
      pure ([routingNote (if raised.isInterrupt then "interrupted" else "failed") (some raised)], some raised)

/-- Namespaces are deleted until something interrupts: what is noted of them, and the error that counts. -/
def destroyNamespaces : List String → Option Raised → Runs σ (List Document × Option Raised)
  | [], firstError => pure ([], firstError)
  | netns :: rest, firstError => do
    match ← Action.attempt (service.deleteNamespace netns) with
    | .ok () =>
      let (notes, firstError) ← destroyNamespaces rest firstError
      pure (namespaceNote netns "deleted" none :: notes, firstError)
    | .error raised =>
      if raised.isInterrupt then pure ([namespaceNote netns "interrupted" (some raised)], some raised)
      else if isMissing raised then
        let (notes, firstError) ← destroyNamespaces rest firstError
        pure (namespaceNote netns "absent" none :: notes, firstError)
      else
        let (notes, firstError) ← destroyNamespaces rest (firstError <|> some raised)
        pure (namespaceNote netns "failed" (some raised) :: notes, firstError)

/-- Nothing is recorded, and nothing is there. -/
def destroyAbsent (plan : Option TopologyPlan) (name : String) : Runs σ LifecycleResult := do
  match plan with
  | none => Action.raise (ownershipUnknown name)
  | some plan =>
    let preflight ← service.inventory plan
    settle (Checks.raiseIf (inventoryIsAbsent plan preflight = false) (ownershipUnknown name))
    service.stopRouting plan
    pure {
      action := "destroy"
      name := name
      changed := false
      status := "absent"
      message := "topology already absent: " ++ name }

/-- What is recorded is taken down. -/
def destroyRecorded (name : String) (current : StateSnapshot) : Runs σ LifecycleResult := do
  settle (requireSnapshotIdentity current name)
  settle (requireStableSnapshot current)
  let statePlan ← settle (planFromSnapshot service.schemaError current)
  let destroying := { current with status := "destroying" }
  service.saveInitialTransition destroying statePlan
  let (routing, firstError) ← service.destroyRouting statePlan
  let (namespaces, firstError) ← service.destroyNamespaces (plannedNamespaces statePlan).reverse firstError
  let final ← Action.attempt (service.inventory statePlan)
  let (absent, firstError) := match final with
    | .ok inventory => (inventoryIsAbsent statePlan inventory, firstError)
    | .error raised => (false, firstError <|> some raised)
  match firstError, absent with
  | none, true =>
    service.deleteFinalState statePlan destroying
    pure {
      action := "destroy"
      name := name
      changed := true
      status := "absent"
      message := "destroyed topology: " ++ name }
  | _, _ =>
    let error := firstError.getD (.nslab {
      code := "DESTROY_INCOMPLETE"
      message := "topology resources remain after destroy: " ++ name
      details := [("name", .str name)] })
    Action.raise (error.attach "cleanup" (.list (routing ++ namespaces)))

/-- `_destroy_locked`. -/
def destroyLocked (plan : Option TopologyPlan) (name : String) : Runs σ LifecycleResult := do
  settle (Checks.raiseIf (plan.any fun plan => plan.name ≠ name) (.nslab {
    code := "PLAN_NAME_MISMATCH"
    message := "destroy plan name does not match requested deployment: " ++ name
    details := [("name", .str name), ("plan_name", orNull (plan.map fun plan => .str plan.name))] }))
  match ← service.load name with
  | none => service.destroyAbsent plan name
  | some current => service.destroyRecorded name current

end Destroying

section Requests

def deploy (plan : TopologyPlan) (manifest : Manifest) : Runs σ LifecycleResult :=
  service.locked plan.name do
    settle (validatePlanManifest plan manifest)
    service.deployLocked plan manifest

def destroy (plan : Option TopologyPlan) (name : String) : Runs σ LifecycleResult :=
  service.locked name (service.destroyLocked plan name)

def redeploy (plan : TopologyPlan) (manifest : Manifest) : Runs σ LifecycleResult :=
  service.locked plan.name do
    settle (validatePlanManifest plan manifest)
    let destroyed ← service.destroyLocked (some plan) plan.name
    let deployed ← service.deployLocked plan manifest
    pure {
      action := "redeploy"
      name := plan.name
      changed := destroyed.changed || deployed.changed
      status := deployed.status
      message := "redeployed topology: " ++ plan.name }

end Requests

end LifecycleService

end Lifecycle

end Nslab
