import AgentMesh.Daemon.Lifecycle

/-! One-shot interactions: `open_interaction`, `respond_interaction` and the two expiries. -/
namespace AgentMesh.Daemon
open Library StorageError

variable (codec : Codec) (bytes : Bytes)

structure Interaction where
  interactionId : String
  taskId : String
  attemptId : String
  adapterInstanceId : String
  generation : Int
  nonce : String
  capabilityClass : InteractionCapabilityClass
  configVersion : Int
  policyVersion : Int
  deriving DecidableEq, Repr

structure ParsedInteractionResponseCommand where
  commandKey : String
  taskId : String
  interactionId : String
  generation : Int
  operationDigest : String
  policyDigest : String
  configDigest : String
  nonce : String
  responseKind : InteractionResponseKind
  responseBytes : Bytes
  deriving DecidableEq, Repr

def maxInteractionResponseBytes : Nat := 6 * 32 * 1024 + 128

/-- `canonicalize`: the canonical text of a value with safe integers only. -/
def canonicalize (value : Json) : Option Bytes :=
  if value.validateNumbers then some (utf8 (codec.toText value.canonicalValue)) else none

/-- `parse_canonical_json`: a value is accepted only from the bytes of its own canonical text. -/
def parseCanonicalJson (maximumBytes : Nat) : Checked Json := do
  ensure (bytes ≠ [] ∧ bytes.length ≤ maximumBytes) invalidRequest
  let value ← required .invalidRequest (codec.fromSlice bytes)
  ensure (canonicalize codec value = some bytes) invalidRequest
  return value

def parseInteractionResponseValue (value : Json) : Checked InteractionResponseKind := do
  let kind ← required .invalidRequest (value.str? "kind")
  if kind = "approve" ∧ value.len = 1 then return .approve
  else if kind = "deny" ∧ (value.len = 1 ∨ (value.len = 2 ∧ ((value.str? "reason").any fun reason =>
      decide (reason.length ≤ 4096)) = true)) then return .deny
  else if kind = "text" ∧ value.len = 2 ∧ ((value.str? "text").any fun text =>
      decide (1 ≤ text.length ∧ text.length ≤ 32 * 1024)) = true then return .text
  else throw .invalidRequest

def parseCanonicalInteractionResponse : Checked InteractionResponseKind := do
  let value ← parseCanonicalJson codec bytes maxInteractionResponseBytes
  parseInteractionResponseValue value

def parseInteractionResponseCommand : Checked ParsedInteractionResponseCommand := do
  let value ← parseCanonicalJson codec bytes maxCanonicalTaskRequestBytes
  ensure (codec.decodeV1 value = true ∧ value.isObject = true) invalidRequest
  let response ← required .invalidRequest (value.get? "response")
  let responseKind ← parseInteractionResponseValue response
  let responseBytes ← required .invalidRequest (canonicalize codec response)
  ensure (responseBytes ≠ [] ∧ responseBytes.length ≤ maxInteractionResponseBytes) invalidRequest
  let commandKey ← required .invalidRequest (value.str? "command_key")
  let taskId ← required .invalidRequest (value.str? "task_id")
  let interactionId ← required .invalidRequest (value.str? "interaction_id")
  let generation ← required .invalidRequest (value.i64? "generation")
  let operationDigest ← required .invalidRequest (value.str? "operation_digest")
  let policyDigest ← required .invalidRequest (value.str? "policy_digest")
  let configDigest ← required .invalidRequest (value.str? "config_digest")
  let nonce ← required .invalidRequest (value.str? "nonce")
  return { commandKey, taskId, interactionId, generation, operationDigest, policyDigest, configDigest, nonce,
           responseKind, responseBytes }

/-- What `open_interaction` is asked to record. -/
structure InteractionRequest where
  taskId : String
  attemptId : String
  generation : Int
  operationDigest : String
  policyDigest : String
  configDigest : String
  capabilityClass : InteractionCapabilityClass
  configVersion : Int
  policyVersion : Int
  expiresAt : Int
  deriving DecidableEq, Repr

/-- The row of a new interaction, pending until it is decided. -/
def InteractionRequest.newInteraction (request : InteractionRequest) (interactionId nonce : String) (now : Int) :
    InteractionRow :=
  { interactionId, taskId := request.taskId, attemptId := request.attemptId, generation := request.generation,
    operationDigest := request.operationDigest, policyDigest := request.policyDigest,
    configDigest := request.configDigest, capabilityClass := some request.capabilityClass,
    configVersion := some request.configVersion, policyVersion := some request.policyVersion, nonce,
    expiresAt := request.expiresAt, state := .pending, createdAt := now, updatedAt := now }

/-- What `respond_interaction` is asked to commit. -/
structure ResponseRequest where
  consumerId : String
  commandKey : String
  canonicalCommandBytes : Bytes
  interactionId : String
  nonce : String
  expectedGeneration : Int
  expectedOperationDigest : String
  expectedPolicyDigest : String
  expectedConfigDigest : String
  responseKind : InteractionResponseKind
  canonicalResponseBytes : Bytes
  deriving DecidableEq, Repr

def ResponseRequest.newResponse (request : ResponseRequest) (now : Int) : ResponseRow :=
  let responseDigest := hashBytes codec request.canonicalResponseBytes
  { interactionId := request.interactionId, consumerId := request.consumerId, decisionDigest := responseDigest,
    responseKind := request.responseKind, responseBytes := request.canonicalResponseBytes,
    byteLength := request.canonicalResponseBytes.length, responseDigest, committedAt := now }

@[simp]
theorem ResponseRequest.newResponse_responseKind (codec : Codec) (request : ResponseRequest) (now : Int) :
    (request.newResponse codec now).responseKind = request.responseKind := rfl

namespace Store

variable (codec : Codec) (store : Store)

/-- `load_interaction`, with its metadata checks. -/
def loadInteraction (interactionId : String) : Checked Interaction := do
  let row ← queryRow (store.interactions.lookup interactionId)
  let attempt ← queryRow ((store.attempts.lookup (row.taskId, row.generation)).filter fun attempt =>
    attempt.attemptId = row.attemptId)
  let invalid := quarantined ("invalid durable interaction metadata: " ++ interactionId)
  let capabilityClass ← required invalid row.capabilityClass
  let configVersion ← required invalid row.configVersion
  let policyVersion ← required invalid row.policyVersion
  ensure (0 < configVersion ∧ 0 < policyVersion ∧ attempt.adapterInstanceId ≠ "") invalid
  return ⟨row.interactionId, row.taskId, row.attemptId, attempt.adapterInstanceId, row.generation, row.nonce,
    capabilityClass, configVersion, policyVersion⟩

def openInteraction (ambient : Ambient) (interactionId nonce operationId : String) (request : InteractionRequest)
    (now : Int) (store : Store) : Checked (Interaction × Store) := do
  ensureMutationAllowed ambient true
  ensure (isLowerSha256 request.operationDigest = true ∧ isLowerSha256 request.policyDigest = true ∧
    isLowerSha256 request.configDigest = true ∧ 0 < request.configVersion ∧ 0 < request.policyVersion)
    invalidRequest
  let internalDigest := digestFields codec
    [request.taskId, request.attemptId, toString request.generation, request.operationDigest,
      request.policyDigest, request.configDigest, request.capabilityClass.asStr,
      toString request.configVersion, toString request.policyVersion, toString request.expiresAt]
  store.replayingOperation operationId internalDigest
    (fun locator => do
      let interaction ← store.loadInteraction locator.asText
      return (interaction, store))
    (do
      let task ← required .staleGeneration (store.taskAt request.taskId request.generation)
      let attempt ← required .staleGeneration
        ((store.attempts.lookup (request.taskId, request.generation)).filter fun attempt =>
          attempt.attemptId = request.attemptId)
      ensure (activeState task.state = true) staleGeneration
      ensure (attempt.adapterInstanceId ≠ "")
        (quarantined "interaction attempt has no adapter instance id")
      ensure (∀ row ∈ store.interactions.rows, row.nonce ≠ nonce) (sql .constraintViolation)
      let interactions ← insertRow store.interactions (request.newInteraction interactionId nonce now)
      let store : Store := { store with interactions }
      let store ← store.updateTasks
        (fun row => row.taskId = request.taskId ∧ row.generation = request.generation)
        (fun row => { row with state := .waitingApproval, updatedAt := now }) (fun _ => rfl)
      let store ← store.updateAttempts (fun row => row.attemptId = request.attemptId)
        (fun row => { row with state := .waitingApproval, updatedAt := now }) (fun _ => rfl)
      let (_, store) ← store.appendEvent request.taskId request.generation "interaction_requested"
        (.object [("interaction_id", .string interactionId)]) now
      let store ← store.storeOperation operationId internalDigest request.taskId request.generation
        "open_interaction" (.text interactionId) now
      return (⟨interactionId, request.taskId, request.attemptId, attempt.adapterInstanceId, request.generation,
        nonce, request.capabilityClass, request.configVersion, request.policyVersion⟩, store.bumpMutationEpoch))

/-- `validate_interaction_response_metadata` and `build_interaction_response_evidence`: the answer of an interaction,
with the checks that tie its bytes, length, digest and kind together. -/
def responseEvidence (row : InteractionRow) : Checked ResponseRow := do
  ensure (row.state = .answered)
    (quarantined ("response evidence belongs to a non-answered interaction: " ++ row.interactionId))
  let response ← required
    (.quarantined ("answered interaction has incomplete response evidence: " ++ row.interactionId))
    (store.responses.lookup row.interactionId)
  ensure (1 ≤ response.byteLength ∧ response.byteLength ≤ maxInteractionResponseBytes)
    (quarantined ("interaction response length is out of bounds: " ++ row.interactionId))
  ensure (response.consumerId ≠ "" ∧ response.decisionDigest = response.responseDigest ∧
    isLowerSha256 response.responseDigest = true)
    (quarantined ("interaction response metadata mismatch: " ++ row.interactionId))
  ensure ((response.responseBytes.length : Int) = response.byteLength ∧
    hashBytes codec response.responseBytes = response.responseDigest)
    (quarantined ("interaction response integrity mismatch: " ++ row.interactionId))
  let decodedKind ← required (.quarantined
    ("interaction response bytes are not canonical protocol evidence: " ++ row.interactionId))
    (parseCanonicalInteractionResponse codec response.responseBytes).toOption
  ensure (decodedKind = response.responseKind) (quarantined
    ("interaction response kind disagrees with canonical evidence: " ++ row.interactionId))
  return response

def interactionResponse (interactionId : String) : Checked ResponseRow := do
  let row ← required .interactionConflict (store.interactions.lookup interactionId)
  responseEvidence codec store row

/-- `verify_interaction_response_replay_tx`: the stored answer is the one the repeated command gave. -/
def verifyInteractionResponseReplay (interactionId consumerId : String) (command : ParsedInteractionResponseCommand) :
    Checked Unit := do
  let row ← required (.quarantined "interaction-response command points to a missing interaction")
    (store.interactions.lookup interactionId)
  let response ← responseEvidence codec store row
  ensure (response.consumerId = consumerId ∧ command.interactionId = interactionId ∧
    command.taskId = row.taskId ∧ command.generation = row.generation ∧ command.nonce = row.nonce ∧
    command.operationDigest = row.operationDigest ∧ command.policyDigest = row.policyDigest ∧
    command.configDigest = row.configDigest ∧ response.responseKind = command.responseKind ∧
    response.responseBytes = command.responseBytes) idempotencyConflict

/-- The part of `respond_interaction` that commits the answer to an interaction that accepts it. -/
def answerInteraction (request : ResponseRequest) (row : InteractionRow) (now : Int) (store : Store) :
    Checked (Bool × Store) := do
  let interactions := store.interactions.update
    (fun row => row.interactionId = request.interactionId ∧ row.state = .pending)
    (fun row => { row with state := .answered, updatedAt := now }) (fun _ => rfl)
  let responses ← insertRow store.responses (request.newResponse codec now)
  let store : Store := { store with interactions, responses }
  let store ← store.updateTasks
    (fun task => task.taskId = row.taskId ∧ task.generation = row.generation ∧ task.state = .waitingApproval)
    (fun task => { task with state := .running, updatedAt := now }) (taskId_switched .running now)
  let store ← store.updateAttempts
    (fun attempt => attempt.taskId = row.taskId ∧ attempt.generation = row.generation ∧
      attempt.state = .waitingApproval)
    (fun attempt => { attempt with state := .running, updatedAt := now }) (fun _ => rfl)
  let (_, store) ← store.appendEvent row.taskId row.generation "interaction_decided"
    (interactionDecidedPayload request.interactionId request.responseKind.eventStatus (some request.responseKind)) now
  let store ← store.storeCommand request.consumerId "interaction_response" request.commandKey
    (hashBytes codec request.canonicalCommandBytes) request.interactionId now
  return (false, store.bumpMutationEpoch)

/-- `respond_interaction`; the answer says whether the command was a replay. -/
def respondInteraction (ambient : Ambient) (request : ResponseRequest) (now : Int) (store : Store) :
    Checked (Bool × Store) := do
  ensureMutationAllowed ambient true
  let command ← parseInteractionResponseCommand codec request.canonicalCommandBytes
  let parsedResponseKind ← parseCanonicalInteractionResponse codec request.canonicalResponseBytes
  ensure (command.commandKey = request.commandKey ∧ command.taskId ≠ "" ∧
    command.interactionId = request.interactionId ∧ command.generation = request.expectedGeneration ∧
    command.operationDigest = request.expectedOperationDigest ∧
    command.policyDigest = request.expectedPolicyDigest ∧ command.configDigest = request.expectedConfigDigest ∧
    command.nonce = request.nonce ∧ command.responseKind = request.responseKind ∧
    command.responseBytes = request.canonicalResponseBytes ∧ parsedResponseKind = request.responseKind)
    idempotencyConflict
  store.replayingCommand request.consumerId "interaction_response" request.commandKey
    (hashBytes codec request.canonicalCommandBytes)
    (fun locator => do
      verifyInteractionResponseReplay codec store locator request.consumerId command
      return (true, store))
    (do
      let row ← required .interactionConflict (store.interactions.lookup request.interactionId)
      let incomplete := quarantined
        ("interaction has incomplete v4 metadata: " ++ request.interactionId)
      let _ ← required incomplete row.capabilityClass
      let configVersion ← required incomplete row.configVersion
      let policyVersion ← required incomplete row.policyVersion
      ensure (0 < configVersion ∧ 0 < policyVersion)
        (quarantined ("interaction has invalid v4 metadata: " ++ request.interactionId))
      ensure (command.taskId = row.taskId ∧ row.state = .pending ∧ now < row.expiresAt ∧
        row.generation = request.expectedGeneration ∧ row.nonce = request.nonce ∧
        row.operationDigest = request.expectedOperationDigest ∧ row.policyDigest = request.expectedPolicyDigest ∧
        row.configDigest = request.expectedConfigDigest) interactionConflict
      answerInteraction codec request row now store)

end Store

/-- What the two expiries differ in: the texts they are recorded under, the terminal state, and whether the
attempt must still be retry-safe. -/
structure ExpiryKind where
  digestSuffix : List String
  operationKind : String
  requestLabel : String
  commandPrefix : String
  resultLabel : String
  terminal : TaskState
  preflight : Bool

def ExpiryKind.runtime : ExpiryKind where
  digestSuffix := []
  operationKind := "interaction_expired"
  requestLabel := "expired-result"
  commandPrefix := "interaction-expired:"
  resultLabel := "interaction-timeout"
  terminal := .needsAttention
  preflight := false

def ExpiryKind.beforeDispatch : ExpiryKind where
  digestSuffix := ["preflight"]
  operationKind := "interaction_preflight_expired"
  requestLabel := "preflight-expired-result"
  commandPrefix := "interaction-preflight-expired:"
  resultLabel := "interaction-preflight-timeout"
  terminal := .cancelled
  preflight := true

namespace Store

variable (codec : Codec) (ambient : Ambient) (kind : ExpiryKind)
  (resultId ackToken consumerId operationId interactionId : String)

def expiryDigest (interactionId : String) (generation : Int) : String :=
  digestFields codec ([interactionId, toString generation] ++ kind.digestSuffix)

/-- The first transaction of an expiry: decide the interaction and move its task to `FINALIZING`. -/
def expireTransaction (operationId interactionId : String) (generation : Int) (now : Int) (store : Store) :
    Checked (String × Store) := do
  let row ← required .interactionConflict (store.interactions.lookup interactionId)
  let task ← required .interactionConflict (store.taskAt row.taskId generation)
  ensure (row.generation = generation ∧ row.state = .pending ∧ row.expiresAt ≤ now ∧
    task.state = .waitingApproval) interactionConflict
  ensure (kind.preflight = true → ((store.attempts.lookup (row.taskId, generation)).any fun attempt =>
    attempt.dispatchPhase.effectIsProvenAbsent) = true) interactionConflict
  let (_, store) ← store.appendEvent row.taskId generation "interaction_decided"
    (interactionDecidedPayload interactionId "EXPIRED" none) now
  let interactions := store.interactions.update (fun row => row.interactionId = interactionId)
    (fun row => { row with state := .expired, updatedAt := now }) (fun _ => rfl)
  let store : Store := { store with interactions }
  let store ← store.updateAttempts
    (fun attempt => attempt.taskId = row.taskId ∧ attempt.generation = generation)
    (fun attempt => { attempt with state := .finalizing, updatedAt := now }) (fun _ => rfl)
  let store ← store.updateTasks (fun task => task.taskId = row.taskId ∧ task.generation = generation)
    (fun task => { task with state := .finalizing, updatedAt := now }) (fun _ => rfl)
  let store ← store.storeOperation operationId (expiryDigest codec kind interactionId generation) row.taskId
    generation kind.operationKind (.text "pending-result") now
  return (row.taskId, store.bumpMutationEpoch)

def finalizeExpiry (resultId ackToken consumerId interactionId taskId : String) (generation : Int) (now : Int)
    (store : Store) : Checked (ResultDelivery × Store) :=
  store.finalize ambient resultId ackToken consumerId (kind.commandPrefix ++ interactionId)
    (digestFields codec [interactionId, kind.requestLabel]) taskId generation kind.terminal
    (digestFields codec [kind.resultLabel, interactionId]) now

/-- The third transaction of an expiry: point the operation at its result. -/
def settleExpiry (operationId resultId : String) (store : Store) : Store :=
  let operations := store.operations.update
    (fun row => row.operationId = operationId ∧ row.responseLocator = .text "pending-result")
    (fun row => { row with responseLocator := .text resultId }) (fun _ => rfl)
  { store with operations }

/-- `expire_interaction` and `expire_preflight_interaction`: three transactions, so an error in the second
leaves the first one committed. -/
def expire (generation : Int) (now : Int) (store : Store) : Checked ResultDelivery × Store :=
  let finish (taskId : String) (store : Store) : Checked ResultDelivery × Store :=
    match store.finalizeExpiry codec ambient kind resultId ackToken consumerId interactionId taskId generation now with
    | .error error => (.error error, store)
    | .ok (delivery, store) => (.ok delivery, store.settleExpiry operationId delivery.resultId)
  match ensureMutationAllowed ambient true, store.operations.lookup operationId with
  | .error error, _ => (.error error, store)
  | .ok _, some operation =>
    if operation.operationDigest ≠ expiryDigest codec kind interactionId generation then
      (.error .idempotencyConflict, store)
    else if operation.responseLocator ≠ .text "pending-result" then
      (store.loadDelivery consumerId operation.responseLocator.asText, store)
    else finish operation.taskId store
  | .ok _, none =>
    match store.expireTransaction codec kind operationId interactionId generation now with
    | .error error => (.error error, store)
    | .ok (taskId, store) => finish taskId store

/-- `expire_interaction`: the runtime path, which ends in `NEEDS_ATTENTION`. -/
def expireInteraction (generation : Int) (now : Int) (store : Store) : Checked ResultDelivery × Store :=
  store.expire codec ambient .runtime resultId ackToken consumerId operationId interactionId generation now

/-- `expire_preflight_interaction`: the path before any process exists, which ends in `CANCELLED`. -/
def expirePreflightInteraction (generation : Int) (now : Int) (store : Store) : Checked ResultDelivery × Store :=
  store.expire codec ambient .beforeDispatch resultId ackToken consumerId operationId interactionId generation now

end Store

end AgentMesh.Daemon
