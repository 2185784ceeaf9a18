import AgentMesh.Daemon.Durable
import AgentMesh.Daemon.Projection
import AgentMesh.Daemon.Scheduler

/-! Task submission and slot admission: `submit`, `begin_attempt`, `claim_dispatch_slot` and
`reclaim_preflight_dispatch_slot`. Identifiers drawn at random by the source are arguments here. -/
namespace AgentMesh.Daemon
open Library StorageError

structure Submission where
  taskId : String
  replayed : Bool
  deriving DecidableEq, Repr

structure Attempt where
  attemptId : String
  taskId : String
  generation : Int
  ordinal : Int
  deriving DecidableEq, Repr

structure AttemptSpec where
  effectProfile : String
  isolationLevel : String
  retryClass : String
  adapterInstanceId : String
  adapterVersion : String
  configVersion : Int
  configDigest : String
  worktreeId : Option String
  deriving DecidableEq, Repr

/-- The row of a new attempt, at the head of its dispatch. -/
def AttemptSpec.newAttempt (spec : AttemptSpec) (attempt : Attempt) (now : Int) : AttemptRow :=
  { attemptId := attempt.attemptId, taskId := attempt.taskId, generation := attempt.generation,
    ordinal := attempt.ordinal, state := .preparing, dispatchPhase := .preDispatch, processReceipt := none,
    providerSession := none, effectProfile := spec.effectProfile, isolationLevel := spec.isolationLevel,
    retryClass := spec.retryClass, adapterInstanceId := spec.adapterInstanceId,
    adapterVersion := spec.adapterVersion, configVersion := spec.configVersion,
    configDigest := spec.configDigest, worktreeId := spec.worktreeId, resumableCapabilityDigest := none,
    resumeProofDigest := none, createdAt := now, updatedAt := now, endedAt := none }

/-- Process-bearing attempts, in total and per adapter instance. -/
structure Occupancy where
  global : Nat
  perAdapter : String → Nat

def Occupancy.occupied (occupancy : Occupancy) (adapterInstanceId : String) : Nat :=
  occupancy.perAdapter adapterInstanceId

inductive DispatchBlockReason where
  | globalLimit
  | adapterLimit
  | retryTimerPending
  | adapterUnassigned
  deriving DecidableEq, Repr

structure DispatchBlocked where
  reason : DispatchBlockReason
  globalLimit : Nat
  globalOccupied : Nat
  perAdapterLimit : Nat
  adapterOccupied : Nat
  adapterInstanceId : String
  deriving DecidableEq, Repr

inductive DispatchOutcome where
  | dispatched (attempt : Attempt)
  | blocked (evidence : DispatchBlocked)
  deriving DecidableEq, Repr

def maxSafeTimeUs : Int := 9007199254740991000
def maxCanonicalTaskRequestBytes : Nat := 1024 * 1024
def taskSubmissionRowOverheadBytes : Nat := 4096

def occupyingState (state : TaskState) (phase : DispatchPhase) : Bool :=
  match state with
  | .preparing | .running | .finalizing | .cancelRequested => true
  | .waitingApproval => !phase.effectIsProvenAbsent
  | _ => false

namespace Store

variable (store : Store) (taskId : String)

/-- The join of `OCCUPANCY_SQL` for one attempt row. -/
def occupies (attempt : AttemptRow) : Bool :=
  match store.tasks.lookup attempt.taskId with
  | none => false
  | some task => task.generation == attempt.generation && occupyingState task.state attempt.dispatchPhase

def readOccupancy : Occupancy where
  global := store.attempts.rows.countP store.occupies
  perAdapter adapter :=
    store.attempts.rows.countP fun attempt => store.occupies attempt && attempt.adapterInstanceId == adapter

/-- The task's row and the attempt of its current generation. -/
def currentAttempt (task : TaskRow) : Option AttemptRow :=
  store.attempts.lookup (task.taskId, task.generation)

def loadAttempt (attemptId : String) : Checked Attempt := do
  let row ← queryRow (store.attempts.rows.find? fun row => row.attemptId == attemptId)
  return ⟨row.attemptId, row.taskId, row.generation, row.ordinal⟩

def verifyExistingAttemptConfig (attemptId : String) (spec : AttemptSpec) : Checked Unit := do
  let row ← queryRow (store.attempts.rows.find? fun row => row.attemptId == attemptId)
  ensure (row.adapterInstanceId = spec.adapterInstanceId ∧ row.adapterVersion = spec.adapterVersion ∧
    row.configVersion = spec.configVersion ∧ row.configDigest = spec.configDigest)
    idempotencyConflict

/-- `verify_attempt_assignment`: a canary assignment pins the configuration and the cohort. -/
def verifyAttemptAssignment (spec : AttemptSpec) : Checked Unit :=
  match store.canaryAssignments.lookup taskId with
  | none => pure ()
  | some assignment => do
    ensure (assignment.configVersion = spec.configVersion ∧ assignment.configDigest = spec.configDigest)
      idempotencyConflict
    let engine ← required (quarantined "improvement engine missing for canary assignment")
      (← store.loadImprovementEngine)
    let case ← required (quarantined "canary case missing")
      (engine.cases.lookup assignment.caseId)
    ensure (case.cohort.adapterInstanceId = spec.adapterInstanceId ∧
      case.cohort.adapterVersion = spec.adapterVersion) idempotencyConflict

/-- `COALESCE(MAX(ordinal), 0) + 1` over the task's attempts. -/
def nextOrdinal : Int :=
  (store.attempts.slice AttemptRow.taskId taskId).foldl (fun highest row => max highest row.ordinal) 0 + 1

/-- `verify_task_request_tx`. -/
def verifyTaskRequest (codec : Codec) (store : Store) (taskId digest : String) (expectedBytes : Bytes) :
    Checked Unit :=
  match store.taskRequests.lookup taskId with
  | none =>
    ensure ((store.tombstones.lookup taskId).map TombstoneRow.requestDigest = some digest ∧
      hashBytes codec expectedBytes = digest) (quarantined "missing canonical task request")
  | some request =>
    ensure (request.requestDigest = digest ∧ request.requestBytes = expectedBytes ∧
      request.byteLength = request.requestBytes.length ∧ hashBytes codec request.requestBytes = digest)
      (quarantined "canonical task request integrity mismatch")

def parentState : Option TaskState :=
  match store.tasks.lookup taskId with
  | some task => some task.state
  | none => (store.tombstones.lookup taskId).map TombstoneRow.terminalState

/-- `submit_with_request`. A request that was already committed is answered before the admission fence. -/
def submit (codec : Codec) (ambient : Ambient) (consumerId method commandKey : String) (request : Bytes)
    (taskId : String) (retryOfTaskId : Option String) (priority : Nat) (adapterInstanceId : Option String)
    (now : Int) (store : Store) : Checked (Submission × Store) := do
  ensure (request ≠ [] ∧ request.length ≤ maxCanonicalTaskRequestBytes) invalidRequest
  let requestDigest := hashBytes codec request
  let storedAdapter := adapterInstanceId.getD ""
  ensure (storedAdapter = "" ∨ (AdapterInstanceId.parse storedAdapter).isSome) invalidRequest
  store.replayingCommand consumerId method commandKey requestDigest
    (fun response => do
      verifyTaskRequest codec store response requestDigest request
      return (⟨response, true⟩, store))
    (do
      ensureMutationAllowed ambient false
      ensureCapacity ambient (request.length + taskSubmissionRowOverheadBytes)
      ensure ((store.tasks.lookup taskId).isNone) idempotencyConflict
      ensure (∀ parent ∈ retryOfTaskId, ((store.parentState parent).map TaskState.isTerminal) = some true)
        terminalImmutable
      ensure (priority ≤ 9) (sql .constraintViolation)
      let tasks ← insertRow store.tasks
        { taskId, requestDigest, retryOfTaskId, state := .queued, generation := 0, lastEventSeq := 0,
          projectionEventSeq := 0, evictedThroughSeq := 0, resultVersion := none, terminalEventSeq := none,
          terminalAt := none, cancelRequestedAt := none, retryAt := none, priority,
          adapterInstanceId := storedAdapter, createdAt := now, updatedAt := now }
      let taskRequests ← insertRow store.taskRequests
        { taskId, requestDigest, requestBytes := request, byteLength := request.length, createdAt := now }
      let (_, store) ← { store with tasks, taskRequests }.appendEvent taskId 0 "state_changed"
        (stateEventPayload .queued) now
      let store ← store.storeCommand consumerId method commandKey requestDigest taskId now
      return (⟨taskId, false⟩, store.bumpMutationEpoch))

/-- `INSERT INTO attempts`. -/
def insertAttempt (attempt : Attempt) (spec : AttemptSpec) (now : Int) : Checked Store := do
  ensure (1 ≤ spec.configVersion ∧ ∀ row ∈ store.attempts.rows, row.attemptId ≠ attempt.attemptId)
    (sql .constraintViolation)
  let attempts ← insertRow store.attempts (spec.newAttempt attempt now)
  return { store with attempts }

/-- The payload of an `attempt_started` event. -/
def attemptStartedPayload (attempt : Attempt) : Json :=
  .object [("attempt_id", .string attempt.attemptId), ("ordinal", .number attempt.ordinal)]

/-- `begin_attempt_with_spec`. -/
def beginAttempt (ambient : Ambient) (attemptId consumerId commandKey requestDigest taskId : String)
    (generation : Int) (spec : AttemptSpec) (now : Int) (store : Store) : Checked (Attempt × Store) := do
  ensureMutationAllowed ambient false
  store.verifyAttemptAssignment taskId spec
  store.replayingCommand consumerId "begin_attempt" commandKey requestDigest
    (fun locator => do
      let attempt ← store.loadAttempt locator
      store.verifyExistingAttemptConfig attempt.attemptId spec
      return (attempt, store))
    (do
      let task ← queryRow (store.tasks.lookup taskId)
      ensure (task.generation = generation ∧ (task.state = .queued ∨ task.state = .retryWait))
        staleGeneration
      let attempt : Attempt := ⟨attemptId, taskId, generation, store.nextOrdinal taskId⟩
      let store ← store.insertAttempt attempt spec now
      let store ← store.updateTasks (fun row => row.taskId = taskId ∧ row.generation = generation)
        (fun row => { row with state := .preparing, updatedAt := now }) (fun _ => rfl)
      let (_, store) ← store.appendEvent taskId generation "attempt_started" (attemptStartedPayload attempt) now
      let store ← store.storeCommand consumerId "begin_attempt" commandKey requestDigest attemptId now
      return (attempt, store.bumpMutationEpoch))

end Store

/-- The argument checks shared by the two slot decisions. -/
def validateSlotRequest (operationId : String) (spec : AttemptSpec) (limits : SchedulerLimits) (now : Int) :
    Checked Unit := do
  ensure (0 ≤ now ∧ now ≤ maxSafeTimeUs ∧ operationId ≠ "") invalidRequest
  ensure (limits.valid = true) invalidRequest
  ensure ((AdapterInstanceId.parse spec.adapterInstanceId).isSome) invalidRequest

def blockedBy (reason : DispatchBlockReason) (limits : SchedulerLimits) (globalOccupied adapterOccupied : Nat)
    (spec : AttemptSpec) : DispatchOutcome :=
  .blocked { reason, globalLimit := limits.global, globalOccupied, perAdapterLimit := limits.perAdapter,
             adapterOccupied, adapterInstanceId := spec.adapterInstanceId }

namespace Store

/-- The part of `claim_dispatch_slot` that reserves the slot, once the limits allow it. -/
def reserveSlot (attemptId operationId operationDigest taskId : String) (generation : Int) (spec : AttemptSpec)
    (now : Int) (store : Store) : Checked (DispatchOutcome × Store) := do
  let attempt : Attempt := ⟨attemptId, taskId, generation, store.nextOrdinal taskId⟩
  let store ← store.insertAttempt attempt spec now
  let store ← store.updateTasks
    (fun row => row.taskId = taskId ∧ row.generation = generation ∧ (row.state = .queued ∨ row.state = .retryWait))
    (fun row => { row with state := .preparing, adapterInstanceId := spec.adapterInstanceId, updatedAt := now })
    (fun _ => rfl)
  let (_, store) ← store.appendEvent taskId generation "attempt_started" (attemptStartedPayload attempt) now
  let store ← store.storeOperation operationId operationDigest taskId generation "claim_dispatch_slot"
    (.text attemptId) now
  return (.dispatched attempt, store.bumpMutationEpoch)

/-- `claim_dispatch_slot`: the single writer-owned dispatch decision. -/
def claimDispatchSlot (codec : Codec) (ambient : Ambient) (attemptId operationId taskId : String)
    (generation : Int) (spec : AttemptSpec) (limits : SchedulerLimits) (now : Int) (store : Store) :
    Checked (DispatchOutcome × Store) := do
  validateSlotRequest operationId spec limits now
  ensureMutationAllowed ambient false
  let operationDigest := digestFields codec
    [taskId, toString generation, spec.adapterInstanceId, spec.adapterVersion, toString spec.configVersion,
      spec.configDigest, spec.effectProfile, spec.isolationLevel, spec.retryClass, spec.worktreeId.getD ""]
  store.verifyAttemptAssignment taskId spec
  store.replayingOperation operationId operationDigest
    (fun locator => do
      let attempt ← store.loadAttempt locator.asText
      store.verifyExistingAttemptConfig attempt.attemptId spec
      return (.dispatched attempt, store))
    (do
      let task ← required .staleGeneration (store.tasks.lookup taskId)
      ensure (task.generation = generation) staleGeneration
      let ready := task.state = .queued ∨ (task.state = .retryWait ∧ ∀ due ∈ task.retryAt, due ≤ now)
      if ¬ready then
        ensure (task.state = .retryWait) staleGeneration
        return (blockedBy .retryTimerPending limits 0 0 spec, store)
      else
        ensure (task.adapterInstanceId = "" ∨ task.adapterInstanceId = spec.adapterInstanceId)
          staleGeneration
        let occupancy := store.readOccupancy
        let adapterOccupied := occupancy.occupied spec.adapterInstanceId
        if limits.global ≤ occupancy.global then
          return (blockedBy .globalLimit limits occupancy.global adapterOccupied spec, store)
        else if limits.perAdapter ≤ adapterOccupied then
          return (blockedBy .adapterLimit limits occupancy.global adapterOccupied spec, store)
        else store.reserveSlot attemptId operationId operationDigest taskId generation spec now)

/-- Whether some interaction of the task and generation was answered with `approve`. -/
def hasApproval (store : Store) (taskId : String) (generation : Int) : Bool :=
  store.interactions.rows.any fun row =>
    row.taskId = taskId && row.generation = generation && row.state = .answered &&
      (store.responses.lookup row.interactionId).any fun response => response.responseKind = .approve

/-- Move a task and its attempt between `RUNNING` and `WAITING_APPROVAL`, with the event that says so. -/
def switchState (store : Store) (taskId : String) (generation : Int) (source target : TaskState) (now : Int) :
    Checked Store := do
  let store ← store.updateTasks
    (fun row => row.taskId = taskId ∧ row.generation = generation ∧ row.state = source)
    (fun row => { row with state := target, updatedAt := now }) (fun _ => rfl)
  let store ← store.updateAttempts
    (fun row => row.taskId = taskId ∧ row.generation = generation ∧ row.state = source)
    (fun row => { row with state := target, updatedAt := now }) (fun _ => rfl)
  let (_, store) ← store.appendEvent taskId generation "state_changed" (stateEventPayload target) now
  return store

/-- `reclaim_preflight_dispatch_slot`: re-reserve occupancy for an answered preflight approval. -/
def reclaimPreflightDispatchSlot (codec : Codec) (ambient : Ambient) (operationId taskId : String)
    (generation : Int) (spec : AttemptSpec) (limits : SchedulerLimits) (now : Int) (store : Store) :
    Checked (DispatchOutcome × Store) := do
  validateSlotRequest operationId spec limits now
  ensureMutationAllowed ambient false
  let operationDigest := digestFields codec
    [taskId, toString generation, spec.adapterInstanceId, spec.adapterVersion, toString spec.configVersion,
      spec.configDigest, spec.worktreeId.getD "", "reclaim_preflight"]
  store.verifyAttemptAssignment taskId spec
  store.replayingOperation operationId operationDigest
    (fun locator => do
      let attempt ← store.loadAttempt locator.asText
      store.verifyExistingAttemptConfig attempt.attemptId spec
      return (.dispatched attempt, store))
    (do
      let task ← required .staleGeneration (store.tasks.lookup taskId)
      let row ← required .staleGeneration (store.currentAttempt task)
      ensure (task.generation = generation ∧ (task.state = .running ∨ task.state = .waitingApproval) ∧
        row.adapterInstanceId = spec.adapterInstanceId ∧ row.adapterVersion = spec.adapterVersion ∧
        row.configVersion = spec.configVersion ∧ row.configDigest = spec.configDigest ∧
        row.dispatchPhase.effectIsProvenAbsent = true) staleGeneration
      ensure (store.hasApproval taskId generation = true) staleGeneration
      let occupancy := store.readOccupancy
      let selfOccupies := task.state = .running
      let adapterOccupied := occupancy.occupied spec.adapterInstanceId
      let globalBlocked := if selfOccupies then limits.global < occupancy.global else limits.global ≤ occupancy.global
      let adapterBlocked :=
        if selfOccupies then limits.perAdapter < adapterOccupied else limits.perAdapter ≤ adapterOccupied
      if globalBlocked ∨ adapterBlocked then
        let reason := if globalBlocked then .globalLimit else .adapterLimit
        let refusal := blockedBy reason limits occupancy.global adapterOccupied spec
        -- The answer already moved the task to RUNNING; a refused reclaim must not leave it holding the slot.
        if selfOccupies then
          let store ← store.switchState taskId generation .running .waitingApproval now
          return (refusal, store.bumpMutationEpoch)
        else return (refusal, store)
      else
        let store ← if selfOccupies then pure store
          else store.switchState taskId generation .waitingApproval .running now
        let attempt ← store.loadAttempt row.attemptId
        let store ← store.storeOperation operationId operationDigest taskId generation "reclaim_preflight_slot"
          (.text attempt.attemptId) now
        return (.dispatched attempt, store.bumpMutationEpoch))

end Store

end AgentMesh.Daemon
