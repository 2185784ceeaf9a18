import AgentMesh.Library.Handler
import AgentMesh.Daemon.Reader
import AgentMesh.Daemon.Retention

/-! The router (`router.rs`): the methods that can reach the writer. A call meets its surroundings at a sequence of
points: it reads a clock, asks the registry, waits for the writer or the reader. At each point other callers may have
committed work of their own since the last one, so the surroundings of a call are one `Turn` for every point. -/
namespace AgentMesh.Daemon
open Library

variable (codec : Codec) (params : Json) (field : String)

inductive RetryClass where
  | safePreDispatch
  | safeProvenNoEffect
  | deterministicFailure
  | ambiguousAfterDispatch
  deriving DecidableEq, Repr

inductive EffectClass where
  | noEffect
  | possibleEffect
  | unknownEffect
  deriving DecidableEq, Repr

inductive LifecycleEvidence where
  | beforeProcessCreation
  | processDeadNoEffectProof
  | afterProcessCreation
  | unknown
  deriving DecidableEq, Repr

/-- The error codes a router error can carry. -/
inductive ErrorCode where
  | validationFailed
  | idempotencyConflict
  | adapterUnavailable
  | outputLimitExceeded
  | storageUnavailable
  | ipcIoTimeout
  | cursorExpired
  deriving DecidableEq, Repr

def ErrorCode.isDeterministic : ErrorCode → Bool
  | validationFailed | idempotencyConflict | cursorExpired => true
  | _ => false

def classifyRetry (code : ErrorCode) (effect : EffectClass) (evidence : LifecycleEvidence) : RetryClass :=
  if code.isDeterministic then .deterministicFailure
  else
    match effect, evidence with
    | _, .beforeProcessCreation => .safePreDispatch
    | .noEffect, .processDeadNoEffectProof => .safeProvenNoEffect
    | _, _ => .ambiguousAfterDispatch

structure RouterError where
  code : ErrorCode
  retry : RetryClass
  effect : EffectClass
  lifecycle : LifecycleEvidence
  evidence : String
  message : String
  deriving DecidableEq, Repr

namespace RouterError

def new (code : ErrorCode) (effect : EffectClass) (lifecycle : LifecycleEvidence) (evidence message : String) :
    RouterError :=
  { code, retry := classifyRetry code effect lifecycle, effect, lifecycle, evidence, message }

/-- An error raised before anything could have been done. -/
def harmless (code : ErrorCode) (evidence message : String) : RouterError :=
  .new code .noEffect .beforeProcessCreation evidence message

def validation : RouterError :=
  harmless .validationFailed "router_validation" "request parameters are inconsistent"

def deadline : RouterError := harmless .ipcIoTimeout "router_deadline" "request deadline elapsed"

def clock : RouterError := harmless .storageUnavailable "router_clock" "durable clock is unavailable"

def adapterUnavailable : RouterError :=
  harmless .adapterUnavailable "adapter_unavailable" "no enabled adapter matches the requested role"

def fromStorage : StorageError → RouterError
  | .idempotencyConflict =>
    harmless .idempotencyConflict "storage_idempotency" "command key conflicts with committed request"
  | .cursorExpired _ _ => harmless .cursorExpired "storage_cursor" "requested cursor is no longer retained"
  | .outputLimitExceeded =>
    harmless .outputLimitExceeded "storage_output_limit" "durable response exceeds negotiated output limit"
  | .invalidRequest | .staleGeneration | .terminalImmutable | .ackMismatch | .alreadyReviewed | .interactionConflict =>
    validation
  | .quotaExceeded | .writerBackpressure | .walPressure | .queryDeadline | .readerSaturated =>
    harmless .storageUnavailable "storage_admission" "durable storage admission is unavailable"
  | .invalidRoot _ | .quarantined _ | .blobCorruption _ | .migrationMismatch _ | .restoreRefused =>
    harmless .storageUnavailable "storage_integrity" "durable storage integrity is unavailable"
  | .storageEmergency | .sql _ | .io =>
    .new .storageUnavailable .unknownEffect .unknown "storage_unavailable" "durable storage is unavailable"

end RouterError

/-- The storage errors that the router reports without saying that nothing happened. -/
def StorageError.admitsEffect : StorageError → Bool
  | .storageEmergency | .sql _ | .io => true
  | _ => false

structure AdmissionRecord where
  adapterInstanceId : String
  enabled : Bool
  deriving DecidableEq, Repr

/-- What the adapter registry answers from the current settings and probes. -/
structure Registry where
  admissions : List AdmissionRecord
  forRole : String → Option AdmissionRecord

/-- `enabled_for_role`: the adapter bound to a role, when its probe admits it. -/
def Registry.enabledForRole (registry : Registry) (role : String) : Option AdmissionRecord :=
  (registry.forRole role).filter AdmissionRecord.enabled

/-- The surroundings of a call at one point of it: what others committed since the last point, the two clocks, the
registry, what the reader or the writer is prevented by, and the identifier drawn there. A writer fault keeps the
command from being run or rolls it back; an observation fault strikes after the review was committed. -/
structure Turn where
  others : List Operation
  instant : Int
  wall : Option Int
  registry : Registry
  readerFault : Option StorageError
  writerFault : Option StorageError
  observationFault : Option StorageError
  ambient : Ambient
  drawn : String

/-- Everything a call depends on and changes. `own` lists the writer's work for this call: the vault before and after
each of its commands. -/
structure World where
  vault : Vault
  turns : Nat → Turn
  next : Nat
  own : List (Vault × Vault)

/-- What others commit, one operation after the other. An operation that is refused changes nothing. -/
def Vault.advance (codec : Codec) : List Operation → Vault → Vault
  | [], vault => vault
  | operation :: operations, vault =>
    if operation.admissible vault then
      match operate codec operation vault with
      | .ok next => next.advance codec operations
      | .error _ => vault.advance codec operations
    else vault.advance codec operations

def World.start (vault : Vault) (turns : Nat → Turn) : World := { vault, turns, next := 0, own := [] }

def World.turn (world : World) : Turn := world.turns world.next

def World.tick (world : World) : World :=
  { world with vault := world.vault.advance codec world.turn.others, next := world.next + 1 }

abbrev Rpc (α : Type) := Handler World RouterError α

namespace Vault

/-- One writer command of one transaction, with the answer it computes. -/
def call {α : Type} (codec : Codec) (request : Request) (answer : Store → Checked α) (vault : Vault) :
    Checked α × Vault :=
  match answer vault.store, vault.commit codec request with
  | .ok value, .ok next => (.ok value, next)
  | .error error, _ => (.error error, vault)
  | .ok _, .error error => (.error error, vault)

/-- `submit_for_scheduling`. -/
def submit (codec : Codec) (ambient : Ambient) (consumerId method commandKey : String) (body : Bytes) (taskId : String)
    (retryOfTaskId : Option String) (priority : Nat) (adapterInstanceId : Option String) (now : Int) (vault : Vault) :
    Checked Submission × Vault :=
  vault.call codec
    (.submit ambient consumerId method commandKey body taskId retryOfTaskId priority adapterInstanceId now)
    fun store => Prod.fst <$> store.submit codec ambient consumerId method commandKey body taskId retryOfTaskId priority
      adapterInstanceId now

def respondInteraction (codec : Codec) (ambient : Ambient) (request : ResponseRequest) (now : Int) (vault : Vault) :
    Checked Bool × Vault :=
  vault.call codec (.respondInteraction ambient request now)
    fun store => Prod.fst <$> store.respondInteraction codec ambient request now

def requestCancel (codec : Codec) (ambient : Ambient) (consumerId commandKey : String) (command : Bytes)
    (taskId : String) (now : Int) (vault : Vault) : Checked Bool × Vault :=
  vault.call codec (.requestCancel ambient consumerId commandKey (hashBytes codec command) taskId now)
    fun store => Prod.fst <$> store.requestCancel ambient consumerId commandKey (hashBytes codec command) taskId now

/-- `review_and_ack`: the acknowledgement, and in a second transaction the observation of it. -/
def reviewAndAck (codec : Codec) (turn : Turn) (consumerId commandKey : String) (command : Bytes)
    (delivery : ResultDelivery) (verdict : ReviewVerdict) (diagnosis : Option String) (now : Int) (vault : Vault) :
    Checked Bool × Vault :=
  match vault.call codec
      (.reviewAndAck turn.ambient turn.drawn consumerId commandKey command delivery verdict diagnosis now)
      fun store => Prod.fst <$> store.reviewAndAck codec turn.ambient turn.drawn consumerId commandKey command delivery
        verdict diagnosis now with
  | (.error error, acked) => (.error error, acked)
  | (.ok replayed, acked) =>
    match turn.observationFault,
      acked.store.recordReviewObservation codec turn.ambient delivery.taskId verdict diagnosis now with
    | some fault, _ => (.error fault, acked)
    | none, .error error => (.error error, acked)
    | none, .ok store => (.ok replayed, { acked with store })

/-- `improvement_propose_command` and `improvement_rollback_command`. -/
def improvementCommand (codec : Codec) (ambient : Ambient) (consumerId commandKey : String) (canonicalCommand : Bytes)
    (command : ImprovementCommand) (now : Int) (vault : Vault) : Checked CommandResponse × Vault :=
  vault.call codec (.improvementCommand ambient consumerId commandKey canonicalCommand command now)
    fun store => Prod.fst <$> store.improvementCommand codec ambient consumerId commandKey canonicalCommand command now

end Vault

/-- The methods that can reach the writer. -/
inductive RpcMethod where
  | delegateTask
  | sendTaskInput
  | cancelTask
  | reviewTask
  | improvementCase
  deriving DecidableEq, Repr

/-- What the writer acknowledged, as far as the answer of a call depends on it. -/
inductive Receipt where
  | delegated (taskId : String)
  | answered (taskId interactionId : String)
  | cancelled (taskId : String)
  | reviewed (taskId : String)
  | improved (value : Json)

/-! Request parameters. -/

def text : Except RouterError String := required .validation (params.str? field)

def optionalText : Except RouterError (Option String) :=
  match params.get? field with
  | none => pure none
  | some value => some <$> required .validation value.asStr?

def objectField : Except RouterError Json :=
  required .validation ((params.get? field).filter Json.isObject)

def integer : Except RouterError Int := required .validation (params.i64? field)

def canonicalBytes : Except RouterError Bytes :=
  required .validation (canonicalize codec params)

/-- The priority of a request: `as_u64`, zero when absent, and at most a byte. -/
def priorityOf : Except RouterError Nat := do
  let priority := (((params.i64? "priority").filter fun value => 0 ≤ value).getD 0).toNat
  ensure (priority < 256) RouterError.validation
  return priority

def parseResponseKind : String → Except RouterError InteractionResponseKind
  | "approve" => pure .approve
  | "deny" => pure .deny
  | "text" => pure .text
  | _ => throw .validation

def parseCandidateKnob : String → Except RouterError CandidateKnob
  | "prompt_composition" => pure .promptComposition
  | "context_selection" => pure .contextSelection
  | "same_agent_transport_priority" => pure .sameAgentTransportPriority
  | "quality" => pure .quality
  | "effort" => pure .effort
  | _ => throw .validation

def parseFixture (fixture : Json) : Except RouterError FixtureOutcome := do
  ensure (fixture.isObject = true) RouterError.validation
  let fixtureId ← text fixture "fixture_id"
  let passed ← required .validation ((fixture.get? "passed").bind fun value =>
    match value with
    | .bool passed => some passed
    | _ => none)
  let failures ← integer fixture "hard_invariant_failures"
  ensure (0 ≤ failures ∧ failures < 2 ^ 32) RouterError.validation
  return { fixtureId, passed, hardInvariantFailures := failures.toNat }

def parseFixtures : Except RouterError (List FixtureOutcome) :=
  match params.get? "fixtures" with
  | some (.array fixtures) => fixtures.mapM parseFixture
  | _ => throw .validation

/-- What `delegate_task` takes from its parameters. -/
structure Delegation where
  command : Bytes
  commandKey : String
  retryOfTaskId : Option String
  priority : Nat
  requested : Option String

def parseDelegation : Except RouterError Delegation := do
  let command ← canonicalBytes codec params
  let commandKey ← text params "command_key"
  let retryOfTaskId ← optionalText params "retry_of_task_id"
  let priority ← priorityOf params
  let requested ← optionalText params "adapter_instance_id"
  return { command, commandKey, retryOfTaskId, priority, requested }

/-- What `send_task_input` takes from its parameters before it looks at a clock. -/
structure TaskInput where
  command : Bytes
  taskId : String
  interactionId : String
  responseBytes : Bytes
  responseKind : InteractionResponseKind

def parseTaskInput : Except RouterError TaskInput := do
  let command ← canonicalBytes codec params
  let taskId ← text params "task_id"
  let interactionId ← text params "interaction_id"
  let response ← objectField params "response"
  let responseBytes ← canonicalBytes codec response
  let responseKind ← text response "kind" >>= parseResponseKind
  return { command, taskId, interactionId, responseBytes, responseKind }

/-- The rest of it: what the command says about the interaction it answers. -/
def TaskInput.request (input : TaskInput) (consumerId : String) (params : Json) :
    Except RouterError ResponseRequest := do
  let commandKey ← text params "command_key"
  let nonce ← text params "nonce"
  let generation ← integer params "generation"
  let operationDigest ← text params "operation_digest"
  let policyDigest ← text params "policy_digest"
  let configDigest ← text params "config_digest"
  return { consumerId, commandKey, canonicalCommandBytes := input.command, interactionId := input.interactionId, nonce,
           expectedGeneration := generation, expectedOperationDigest := operationDigest,
           expectedPolicyDigest := policyDigest, expectedConfigDigest := configDigest,
           responseKind := input.responseKind, canonicalResponseBytes := input.responseBytes }

/-- A command about a task: its canonical bytes and the task it names. -/
def parseTaskCommand : Except RouterError (Bytes × String) := do
  let command ← canonicalBytes codec params
  let taskId ← text params "task_id"
  return (command, taskId)

/-- The stored delivery a review acknowledges. It is the authority; the caller's words must agree with it. -/
def reviewedDelivery (taskId : String) (existing : Reader.TaskSnapshot) : Except RouterError ResultDelivery := do
  let result ← required .validation existing.result
  let resultId ← text params "result_id"
  let resultVersion ← integer params "result_version"
  let ackToken ← text params "ack_token"
  ensure (result.delivery.taskId = taskId ∧ result.delivery.resultId = resultId ∧
    result.delivery.resultVersion = resultVersion ∧ result.delivery.ackToken = ackToken) RouterError.validation
  return result.delivery

def parseVerdict : Except RouterError (ReviewVerdict × Option String) := do
  let value ← text params "verdict"
  let verdict ← required .validation (ReviewVerdict.fromStr value)
  let diagnosis ← optionalText params "diagnosis"
  return (verdict, diagnosis)

inductive ImprovementAction where
  | inspect
  | propose (command : Bytes) (knob : CandidateKnob) (fixtures : List FixtureOutcome)
  | rollback (command : Bytes)

def parseAction : Except RouterError (String × ImprovementAction) := do
  let caseId ← text params "case_id"
  let action ← text params "action"
  if action = "inspect" then return (caseId, .inspect)
  else if action = "improvement_propose" then do
    let command ← canonicalBytes codec params
    let knob ← text params "knob" >>= parseCandidateKnob
    let fixtures ← parseFixtures params
    return (caseId, .propose command knob fixtures)
  else if action = "improvement_rollback" then do
    let command ← canonicalBytes codec params
    return (caseId, .rollback command)
  else throw .validation

def parsePropose (caseId : String) (knob : CandidateKnob) (fixtures : List FixtureOutcome) : Except RouterError
    (String × ImprovementCommand) := do
  let commandKey ← text params "command_key"
  let value ← text params "value"
  let hypothesis ← text params "hypothesis"
  return (commandKey, .propose { caseId, knob, value, hypothesis, fixtures })

def parseRollback (caseId : String) : Except RouterError (String × ImprovementCommand) := do
  let commandKey ← text params "command_key"
  let targetConfigVersion ← integer params "target_config_version"
  return (commandKey, .rollback caseId targetConfigVersion)

def improvementResult (featureEnabled : Bool) (outcome : String) (case : CaseRecord)
    (candidateConfigVersion : Option Int) : Json :=
  let projected : Json := .object ([("version", .number 1), ("kind", .string "improvement_case"),
    ("case_id", .string case.caseId), ("status", .string case.state.asStr), ("component", .string case.component),
    ("parent_config_version", .number case.parentConfigVersion), ("rollback_count", .number case.rollbackCount)] ++
    (candidateConfigVersion.map fun version => ("candidate_config_version", Json.number version)).toList)
  .object [("kind", .string "improvement_case_result"), ("feature_enabled", .bool featureEnabled),
    ("outcome", .string outcome), ("case", projected)]

def evaluationOutcome : EvaluationDecision → Bool × String
  | .featureDisabled => (false, "FEATURE_DISABLED")
  | .waitingForTime => (true, "WAITING_FOR_TIME")
  | .waitingForSamples _ _ => (true, "WAITING_FOR_SAMPLES")
  | .missingMetrics => (true, "MISSING_METRICS")
  | .promoted _ => (true, "PROMOTED")
  | .rolledBack _ _ => (true, "ROLLED_BACK")
  | .frozen _ _ => (true, "FROZEN")

def candidateOutcome : CandidateDecision → Bool × String
  | .featureDisabled => (false, "FEATURE_DISABLED")
  | .canary .. => (true, "CANARY")
  | .fixtureRejected .. => (true, "FIXTURE_REJECTED")

/-- The public record of the answer to an improvement command. -/
def CommandResponse.value : CommandResponse → Json
  | .candidate decision case version =>
    improvementResult (candidateOutcome decision).1 (candidateOutcome decision).2 case version
  | .rollback decision case version =>
    improvementResult (evaluationOutcome decision).1 (evaluationOutcome decision).2 case version

/-- What a call asks of the writer. -/
inductive WriterCall where
  | submit (task : Delegation) (assigned : Option String) (now : Int)
  | respondInteraction (taskId : String) (request : ResponseRequest) (now : Int)
  | requestCancel (taskId commandKey : String) (command : Bytes) (now : Int)
  | reviewAndAck (taskId commandKey : String) (command : Bytes) (delivery : ResultDelivery) (verdict : ReviewVerdict)
      (diagnosis : Option String) (now : Int)
  | improvementCommand (commandKey : String) (command : Bytes) (improvement : ImprovementCommand) (now : Int)
  /-- Nothing: an inspection has its answer. -/
  | inspected (value : Json)

structure Router where
  codec : Codec
  consumerId : String
  registered : Bool

namespace Router

variable (router : Router) (params : Json) (deadline : Int)

def tick : Rpc Turn := fun world => (.ok world.turn, world.tick router.codec)

def remaining : Rpc Unit := do
  let turn ← router.tick
  .lift (ensure (turn.instant ≤ deadline) RouterError.deadline)

/-- `now_us` of the system clock. -/
def nowUs : Rpc Int := do
  let turn ← router.tick
  .lift (required .clock (turn.wall.filter fun now => 0 ≤ now ∧ now ≤ maxSafeTimeUs))

def read {α : Type} (load : Store → Checked α) : Rpc α := do
  let turn ← router.tick
  match turn.readerFault with
  | some fault => .lift (.error (.fromStorage fault))
  | none => fun world => ((load world.vault.store).mapError .fromStorage, world)

def write {α : Type} (command : Turn → Vault → Checked α × Vault) : Rpc α := do
  let turn ← router.tick
  match turn.writerFault with
  | some fault => .lift (.error (.fromStorage fault))
  | none => fun world =>
    let (answer, vault) := command turn world.vault
    (answer.mapError .fromStorage, { world with vault, own := world.own ++ [(world.vault, vault)] })

/-- A read bounded by what is left of the deadline. -/
def readWithin {α : Type} (deadline : Int) (load : Store → Checked α) : Rpc α := do
  router.remaining deadline
  router.read load

def snapshot (taskId : String) (deadline : Int) : Rpc Reader.TaskSnapshot :=
  router.readWithin deadline fun store => Reader.loadSnapshot router.codec store taskId router.consumerId

/-- The adapter a task is assigned by the current registry, if one is attached. -/
def assignment (registry : Registry) (params : Json) (requested : Option String) :
    Except RouterError (Option String) :=
  if router.registered then
    match requested with
    | some adapter => do
      ensure (∃ record ∈ registry.admissions, record.adapterInstanceId = adapter ∧ record.enabled = true)
        RouterError.adapterUnavailable
      return some adapter
    | none => do
      let role ← text params "role"
      let record ← required .adapterUnavailable (registry.enabledForRole role)
      return some record.adapterInstanceId
  else pure requested

def assignAdapter (requested : Option String) : Rpc (Option String) := do
  let turn ← router.tick
  .lift (router.assignment turn.registry params requested)

/-- `delegate_task`, up to the writer. -/
def delegateTask : Rpc WriterCall := do
  let task ← .lift (parseDelegation router.codec params)
  let assigned ← router.assignAdapter params task.requested
  let now ← router.nowUs
  router.remaining deadline
  return .submit task assigned now

/-- `send_task_input`, up to the writer. -/
def sendTaskInput : Rpc WriterCall := do
  let input ← .lift (parseTaskInput router.codec params)
  let now ← router.nowUs
  router.remaining deadline
  let request ← .lift (input.request router.consumerId params)
  return .respondInteraction input.taskId request now

/-- `cancel_task`, up to the writer. -/
def cancelTask : Rpc WriterCall := do
  let (command, taskId) ← .lift (parseTaskCommand router.codec params)
  router.remaining deadline
  let commandKey ← .lift (text params "command_key")
  let now ← router.nowUs
  return .requestCancel taskId commandKey command now

/-- `review_task`, up to the writer. -/
def reviewTask : Rpc WriterCall := do
  let (command, taskId) ← .lift (parseTaskCommand router.codec params)
  let existing ← router.snapshot taskId deadline
  let delivery ← .lift (reviewedDelivery params taskId existing)
  let (verdict, diagnosis) ← .lift (parseVerdict params)
  router.remaining deadline
  let commandKey ← .lift (text params "command_key")
  let now ← router.nowUs
  return .reviewAndAck taskId commandKey command delivery verdict diagnosis now

/-- An improvement command once its parameters are read. -/
def improve (command : Bytes) (parsed : Except RouterError (String × ImprovementCommand)) (deadline : Int) :
    Rpc WriterCall := do
  router.remaining deadline
  let (commandKey, improvement) ← .lift parsed
  let now ← router.nowUs
  return .improvementCommand commandKey command improvement now

/-- `improvement_case`, up to the writer; an inspection only reads. -/
def improvementCase : Rpc WriterCall := do
  let (caseId, action) ← .lift (parseAction router.codec params)
  match action with
  | .inspect => do
    let engine ← router.readWithin deadline fun store => required .invalidRequest store.improvementEngine
    let case ← .lift (required .validation (engine.cases.lookup caseId))
    return .inspected
      (improvementResult engine.policy.enabled "INSPECTED" case (engine.candidateConfigVersion caseId))
  | .propose command knob fixtures => router.improve command (parsePropose params caseId knob fixtures) deadline
  | .rollback command => router.improve command (parseRollback params caseId) deadline

/-- `dispatch`, up to the writer. -/
def prepare (method : RpcMethod) (params : Json) (deadline : Int) : Rpc WriterCall := do
  let turn ← router.tick
  .lift (ensure (turn.instant < deadline) RouterError.deadline)
  match method with
  | .delegateTask => router.delegateTask params deadline
  | .sendTaskInput => router.sendTaskInput params deadline
  | .cancelTask => router.cancelTask params deadline
  | .reviewTask => router.reviewTask params deadline
  | .improvementCase => router.improvementCase params deadline

/-- The writer's part of `dispatch`, on the vault it finds. -/
def perform (turn : Turn) (vault : Vault) : WriterCall → Checked Receipt × Vault
  | .submit task assigned now =>
    (vault.submit router.codec turn.ambient router.consumerId "mesh.delegate_task" task.commandKey task.command turn.drawn
      task.retryOfTaskId task.priority assigned now).map (Except.map fun submission => .delegated submission.taskId) id
  | .respondInteraction taskId request now =>
    (vault.respondInteraction router.codec turn.ambient request now).map
      (Except.map fun _ => .answered taskId request.interactionId) id
  | .requestCancel taskId commandKey command now =>
    (vault.requestCancel router.codec turn.ambient router.consumerId commandKey command taskId now).map
      (Except.map fun _ => .cancelled taskId) id
  | .reviewAndAck taskId commandKey command delivery verdict diagnosis now =>
    (vault.reviewAndAck router.codec turn router.consumerId commandKey command delivery verdict diagnosis now).map
      (Except.map fun _ => .reviewed taskId) id
  | .improvementCommand commandKey command improvement now =>
    (vault.improvementCommand router.codec turn.ambient router.consumerId commandKey command improvement now).map
      (Except.map fun response => .improved response.value) id
  | .inspected value => (.ok (.improved value), vault)

def commit : WriterCall → Rpc Receipt
  | .inspected value => return .improved value
  | call => router.write fun turn vault => router.perform turn vault call

/-- The rest of `dispatch`: what is read back after the writer's answer. -/
def answer : Receipt → Rpc Json
  | .delegated taskId => do
    let snapshot ← router.snapshot taskId deadline
    let request ← router.readWithin deadline fun store => Reader.loadTaskRequest router.codec store taskId
    return .object [("kind", .string "delegate_task_result"), ("task", snapshot.task.value),
      ("request_digest", .string request.digest)]
  | .answered taskId interactionId => do
    let interaction ← router.readWithin deadline fun store =>
      Reader.interactionById router.codec store taskId interactionId router.consumerId
    let snapshot ← router.snapshot taskId deadline
    return .object [("kind", .string "send_task_input_result"), ("interaction", interaction.value),
      ("task", snapshot.task.value)]
  | .cancelled taskId => do
    let snapshot ← router.snapshot taskId deadline
    return .object [("kind", .string "cancel_task_result"), ("task", snapshot.task.value)]
  | .reviewed taskId => do
    let snapshot ← router.snapshot taskId deadline
    let result ← .lift (required .validation snapshot.result)
    let review ← .lift (required .validation result.review)
    return .object [("kind", .string "review_task_result"), ("result", result.value),
      ("verdict", .string review.verdict.asStr), ("reviewed_at_ms", .number review.reviewedAtMs)]
  | .improved value => return value

def dispatch (method : RpcMethod) (params : Json) (deadline : Int) : Rpc Json :=
  router.prepare method params deadline >>= fun call => router.commit call >>= router.answer deadline

end Router

end AgentMesh.Daemon
