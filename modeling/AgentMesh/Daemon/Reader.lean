import AgentMesh.Daemon.Review

/-! The reader's projections of a task (`reader.rs`). Each read sees one snapshot of the store, rebuilds the public
record from its rows, and refuses rows that contradict one another. Columns that have an enumeration as their type
here need no check of their text. -/
namespace AgentMesh.Daemon.Reader
open Library

variable (codec : Codec) (store : Store) (taskId : String) (task : TaskRow)

def maxSafeInteger : Int := 9007199254740991
def maxCanonicalRequestBytes : Nat := 1024 * 1024
def maxEventPayloadBytes : Nat := 6 * 262144 + 1024

structure CursorBounds where
  oldestAvailableSeq : Int
  lastCommittedSeq : Int

structure TaskRead where
  value : Json
  cursor : CursorBounds

structure AttemptRead where
  value : Json
  ordinal : Int
  dispatchPhase : DispatchPhase

structure InteractionRead where
  value : Json
  interactionId : String
  taskId : String
  generation : Int
  operationDigest : String
  policyDigest : String
  configDigest : String
  nonce : String
  responseKind : Option InteractionResponseKind
  updatedAtUs : Int

structure InteractionResponseRead where
  kind : InteractionResponseKind
  committedAtUs : Int

structure ReviewRead where
  verdict : ReviewVerdict
  reviewedAtMs : Int
  diagnosis : Option String

structure ResultRead where
  value : Json
  terminalEventSeq : Int
  delivery : ResultDelivery
  review : Option ReviewRead

structure TaskSnapshot where
  task : TaskRead
  attempt : Option AttemptRead
  interaction : Option InteractionRead
  result : Option ResultRead

structure TaskRequest where
  taskId : String
  digest : String
  bytes : Bytes

/-- Whether a number is one the protocol can carry, from `least` on. -/
def safeFrom (least value : Int) : Prop := least ≤ value ∧ value ≤ maxSafeInteger

instance (least value : Int) : Decidable (safeFrom least value) := inferInstanceAs (Decidable (_ ∧ _))

def drift (reason : String) : StorageError := .quarantined reason

def usToMs (value : Int) : Checked Int := do
  ensure (0 ≤ value ∧ value / 1000 ≤ maxSafeInteger) (drift "persisted timestamp is outside protocol bounds")
  return value / 1000

def validate (value : Json) (label : String) : Checked Unit :=
  ensure (codec.decodeV1 value = true) (drift (label ++ " fails protocol v1 validation"))

def loadTaskRequest : Checked TaskRequest := do
  let task ← queryRow (store.tasks.lookup taskId)
  let request ← required (drift "missing canonical task request") (store.taskRequests.lookup taskId)
  ensure (1 ≤ request.byteLength ∧ request.byteLength ≤ maxCanonicalRequestBytes)
    (drift "task request length is invalid")
  ensure ((request.requestBytes.length : Int) = request.byteLength ∧ request.requestDigest = task.requestDigest ∧
    isLowerSha256 request.requestDigest = true) (drift "canonical task request metadata mismatch")
  ensure (hashBytes codec request.requestBytes = request.requestDigest)
    (drift "canonical task request integrity mismatch")
  let value ← required (drift "task request is not strict JSON") (codec.fromSlice request.requestBytes)
  ensure (codec.decodeV1 value = true) (drift "task request fails protocol v1")
  ensure (value.str? "kind" = some "task_request" ∧ canonicalize codec value = some request.requestBytes)
    (drift "task request bytes are not canonical task evidence")
  return { taskId, digest := request.requestDigest, bytes := request.requestBytes }

/-- `load_cursor`: the bounds of a task's log, also when only its tombstone is left. -/
def loadCursor : Checked CursorBounds := do
  let (evicted, last) ← match store.tasks.lookup taskId with
    | some task => pure (task.evictedThroughSeq, task.lastEventSeq)
    | none => do
      let tombstone ← queryRow (store.tombstones.lookup taskId)
      pure (tombstone.evictedThroughSeq, tombstone.lastEventSeq)
  ensure (safeFrom 0 evicted ∧ safeFrom 0 last ∧ evicted ≤ last) (drift "invalid cursor bounds")
  ensure (evicted + 1 ≤ maxSafeInteger) (drift "cursor lower bound overflow")
  return { oldestAvailableSeq := evicted + 1, lastCommittedSeq := last }

def taskValue (attempt : Option AttemptRow) : Json :=
  .object ([("version", .number 1), ("kind", .string "task_snapshot"), ("task_id", .string task.taskId),
    ("state", .string task.state.asStr), ("generation", .number task.generation),
    ("last_event_seq", .number task.lastEventSeq)] ++
    (attempt.map fun row => ("attempt_id", Json.string row.attemptId)).toList)

def loadTask : Checked TaskRead := do
  let task ← queryRow (store.tasks.lookup taskId)
  let value := taskValue task (store.attempts.lookup (taskId, task.generation))
  validate codec value "task snapshot"
  let cursor ← loadCursor store taskId
  return { value, cursor }

def loadAttempt (generation : Int) : Checked (Option AttemptRead) :=
  match store.attempts.lookup (taskId, generation) with
  | none => pure none
  | some row => do
    ensure (safeFrom 1 row.ordinal) (drift "attempt has invalid private projection fields")
    let value : Json := .object [("version", .number 1), ("kind", .string "attempt_snapshot"),
      ("attempt_id", .string row.attemptId), ("task_id", .string taskId), ("generation", .number row.generation),
      ("state", .string row.state.asStr), ("adapter_instance_id", .string row.adapterInstanceId)]
    validate codec value "attempt snapshot"
    return some { value, ordinal := row.ordinal, dispatchPhase := row.dispatchPhase }

def decodeCanonicalInteractionResponse (bytes : Bytes) : Checked (InteractionResponseKind × Json) := do
  let value ← required (drift "interaction response is not strict JSON") (codec.fromSlice bytes)
  ensure (canonicalize codec value = some bytes) (drift "interaction response is not canonical")
  ensure (value.isObject = true) (drift "interaction response is not an object")
  let kind ← required (drift "interaction response has invalid protocol semantics")
    (parseInteractionResponseValue value).toOption
  return (kind, value)

def commandsFor (consumerId method locator : String) : List CommandRow :=
  store.commands.rows.filter fun row => row.consumerId = consumerId ∧ row.method = method ∧ row.responseLocator = locator

def sole {α : Type} : List α → Option α
  | [value] => some value
  | _ => none

/-- `verify_interaction_command_binding`: exactly one command gave this answer, and it can be rebuilt. -/
def verifyInteractionCommandBinding (interactionId consumerId : String) (response : Json)
    (responseKind : InteractionResponseKind) : Checked Unit := do
  let row ← queryRow (store.interactions.lookup interactionId)
  let command ← required (drift ("interaction has ambiguous command binding: " ++ interactionId))
    (sole (commandsFor store consumerId "interaction_response" interactionId))
  ensure (command.response = none) (drift ("interaction has invalid command outcome evidence: " ++ interactionId))
  let rebuilt : Json := .object [("version", .number 1), ("kind", .string "command"),
    ("action", .string "interaction_response"), ("command_key", .string command.commandKey),
    ("task_id", .string row.taskId), ("interaction_id", .string interactionId), ("generation", .number row.generation),
    ("operation_digest", .string row.operationDigest), ("policy_digest", .string row.policyDigest),
    ("config_digest", .string row.configDigest), ("nonce", .string row.nonce), ("response", response)]
  ensure (codec.decodeV1 rebuilt = true) (drift ("interaction reconstructs an invalid command: " ++ interactionId))
  let canonical ← required (drift ("interaction command cannot be canonicalized: " ++ interactionId))
    (canonicalize codec rebuilt)
  ensure (isLowerSha256 command.requestDigest = true ∧ hashBytes codec canonical = command.requestDigest ∧
    response.str? "kind" = some responseKind.asStr)
    (drift ("interaction command digest disagrees with evidence: " ++ interactionId))

def loadInteractionResponse (interactionId : String) (state : InteractionState) (expectedConsumer : Option String) :
    Checked (Option InteractionResponseRead) :=
  match state, store.responses.lookup interactionId with
  | .answered, none => throw (drift ("answered interaction lacks response evidence: " ++ interactionId))
  | .answered, some response => do
    ensure ((∀ expected ∈ expectedConsumer, expected = response.consumerId) ∧ response.consumerId ≠ "" ∧
      response.decisionDigest = response.responseDigest ∧ isLowerSha256 response.responseDigest = true ∧
      (response.responseBytes.length : Int) = response.byteLength ∧ (usToMs response.committedAt).toOption.isSome = true)
      (drift ("interaction response metadata mismatch: " ++ interactionId))
    ensure (1 ≤ response.byteLength ∧ response.byteLength ≤ maxInteractionResponseBytes)
      (drift ("interaction response length is invalid: " ++ interactionId))
    ensure (hashBytes codec response.responseBytes = response.responseDigest)
      (drift ("interaction response bytes do not match their digest: " ++ interactionId))
    let (kind, value) ← decodeCanonicalInteractionResponse codec response.responseBytes
    ensure (kind = response.responseKind)
      (drift ("interaction response kind disagrees with canonical evidence: " ++ interactionId))
    verifyInteractionCommandBinding codec store interactionId response.consumerId value kind
    return some { kind, committedAtUs := response.committedAt }
  | _, none => pure none
  | _, some _ => throw (drift ("response evidence belongs to a non-answered interaction: " ++ interactionId))

/-- The public status of an interaction in a state, with the answer that belongs to it. -/
def interactionStatus (row : InteractionRow) (response : Option InteractionResponseRead) :
    Checked (String × Option InteractionResponseKind) :=
  match row.state, response with
  | .pending, none => pure ("PENDING", none)
  | .expired, none => pure ("EXPIRED", none)
  | .cancelled, none => pure ("CANCELLED", none)
  | .answered, some response => do
    ensure (response.committedAtUs = row.updatedAt)
      (drift ("interaction update time disagrees with response evidence: " ++ row.interactionId))
    return (response.kind.eventStatus, some response.kind)
  | .answered, none => throw (drift ("answered interaction lacks exact response evidence: " ++ row.interactionId))
  | _, _ => throw (drift ("interaction state and response evidence disagree: " ++ row.interactionId))

def loadInteractionById (taskId interactionId : String) (expectedConsumer : Option String) :
    Checked (Option InteractionRead) :=
  match (store.interactions.lookup interactionId).filter fun row => row.taskId = taskId with
  | none => pure none
  | some row => do
    let attempt := (store.attempts.lookup (taskId, row.generation)).filter fun attempt =>
      attempt.attemptId = row.attemptId
    let incomplete := drift ("interaction has incomplete binding metadata: " ++ interactionId)
    let attempt ← required incomplete attempt
    let capabilityClass ← required incomplete row.capabilityClass
    let configVersion ← required incomplete row.configVersion
    let policyVersion ← required incomplete row.policyVersion
    let response ← loadInteractionResponse codec store interactionId row.state expectedConsumer
    let (status, responseKind) ← interactionStatus row response
    let _ ← usToMs row.updatedAt
    let createdAtMs ← usToMs row.createdAt
    let expiresAtMs ← usToMs row.expiresAt
    let value : Json := .object [("version", .number 1), ("kind", .string "interaction"),
      ("interaction_id", .string interactionId), ("task_id", .string taskId), ("attempt_id", .string row.attemptId),
      ("adapter_instance_id", .string attempt.adapterInstanceId), ("generation", .number row.generation),
      ("capability_class", .string capabilityClass.asStr), ("operation_digest", .string row.operationDigest),
      ("policy_digest", .string row.policyDigest), ("config_digest", .string row.configDigest),
      ("config_version", .number configVersion), ("policy_version", .number policyVersion),
      ("created_at_ms", .number createdAtMs), ("expires_at_ms", .number expiresAtMs), ("nonce", .string row.nonce),
      ("status", .string status)]
    validate codec value "interaction"
    return some
      { value, interactionId, taskId, generation := row.generation, operationDigest := row.operationDigest,
        policyDigest := row.policyDigest, configDigest := row.configDigest, nonce := row.nonce, responseKind,
        updatedAtUs := row.updatedAt }

/-- `interaction_by_id`: the interaction must exist and, once answered, have been answered by this consumer. -/
def interactionById (taskId interactionId consumerId : String) : Checked InteractionRead := do
  let found ← loadInteractionById codec store taskId interactionId (some consumerId)
  required .interactionConflict found

def loadPendingInteraction (generation : Int) : Checked (Option InteractionRead) :=
  match (store.interactions.slice InteractionRow.taskId taskId).filter fun row =>
    row.generation = generation ∧ row.state = .pending with
  | [] => pure none
  | [row] => loadInteractionById codec store taskId row.interactionId none
  | _ => throw (drift "task has multiple pending interactions")

/-- `verify_terminal_event`. The free text that `public_event` redacts belongs to kinds refused here. -/
def verifyTerminalEvent (eventSeq terminalAt : Int) (resultId : String) : Checked Unit := do
  let event ← required (drift "terminal event is missing") (store.events.lookup (task.taskId, eventSeq))
  ensure ((utf8 (codec.toText event.payload)).length ≤ maxEventPayloadBytes)
    (drift "terminal event payload is oversized")
  ensure (safeFrom 1 eventSeq ∧ safeFrom 0 event.generation) (drift "event has invalid sequence or generation")
  let occurredAtMs ← usToMs event.committedAt
  validate codec (.object [("version", .number 1), ("kind", .string "event"), ("task_id", .string task.taskId),
    ("seq", .number eventSeq), ("occurred_at_ms", .number occurredAtMs), ("event_type", .string event.kind),
    ("payload", event.payload)]) "event"
  ensure (event.generation = task.generation ∧ event.committedAt = terminalAt ∧ event.kind = "terminal" ∧
    event.payload.str? "state" = some task.state.asStr ∧ event.payload.str? "result_id" = some resultId)
    (drift "terminal event disagrees with result identity")

def verifyReviewCommandBinding (consumerId : String) (delivery : ResultDelivery) (review : ReviewRow) :
    Checked Unit := do
  let command ← required (drift "review has ambiguous command binding")
    (sole (commandsFor store consumerId "review_ack" delivery.resultId))
  ensure (command.requestDigest = review.reviewDigest ∧ command.response = none)
    (drift "review command outcome metadata mismatch")
  let rebuilt : Json := .object ([("version", .number 1), ("kind", .string "command"), ("action", .string "review_ack"),
    ("command_key", .string command.commandKey), ("task_id", .string delivery.taskId),
    ("result_id", .string delivery.resultId), ("result_version", .number delivery.resultVersion),
    ("ack_token", .string delivery.ackToken), ("verdict", .string review.verdict.asStr)] ++
    (review.diagnosis.map fun text => ("diagnosis", Json.string text)).toList)
  ensure (codec.decodeV1 rebuilt = true) (drift "review reconstructs invalid command")
  let canonical ← required (drift "review cannot be canonicalized") (canonicalize codec rebuilt)
  ensure (hashBytes codec canonical = review.reviewDigest)
    (drift "review command digest disagrees with semantic evidence")

/-- `load_review`: an acknowledgement and its review are only valid together. -/
def loadReview (consumerId : String) (delivery : ResultDelivery) (entry : OutboxRow) : Checked (Option ReviewRead) :=
  let reviews := store.reviews.rows.filter fun row =>
    row.taskId = delivery.taskId ∧ row.resultVersion = delivery.resultVersion
  match entry.ackedAt, entry.reviewId with
  | none, none => do
    ensure (reviews.length = 0) (drift "unacknowledged result has review evidence")
    return none
  | some ackedAt, some reviewId => do
    ensure (reviews.length = 1) (drift "acknowledged result has ambiguous review evidence")
    let review ← required (drift "acknowledged result lacks review row") (store.reviews.lookup reviewId)
    ensure (review.consumerId = consumerId ∧ review.taskId = delivery.taskId ∧
      review.resultVersion = delivery.resultVersion ∧ review.createdAt = ackedAt ∧
      isLowerSha256 review.reviewDigest = true ∧ ∀ text ∈ review.diagnosis, text.length ≤ maxDiagnosisChars)
      (drift "acknowledged result has invalid review evidence")
    let reviewedAtMs ← usToMs review.createdAt
    verifyReviewCommandBinding codec store consumerId delivery review
    return some { verdict := review.verdict, reviewedAtMs, diagnosis := review.diagnosis }
  | _, _ => throw (drift "ACK and review evidence are only valid as one tuple")

def resultValue (delivery : ResultDelivery) (acked : Bool) : Json :=
  .object [("version", .number 1), ("kind", .string "result"), ("result_id", .string delivery.resultId),
    ("task_id", .string delivery.taskId), ("state", .string delivery.terminalState.asStr),
    ("result_version", .number delivery.resultVersion), ("ack_token", .string delivery.ackToken),
    ("ack_status", .string (if acked then "ACKNOWLEDGED" else "PENDING"))]

/-- The terminal part of `load_result`. -/
def loadTerminalResult (consumerId : String) : Checked ResultRead := do
  let lacks := drift "terminal task lacks its result projection"
  let version ← required lacks task.resultVersion
  let eventSeq ← required lacks task.terminalEventSeq
  let terminalAt ← required lacks task.terminalAt
  ensure (version = 1 ∧ safeFrom 0 task.generation ∧ safeFrom 1 eventSeq ∧ task.lastEventSeq = eventSeq ∧
    task.projectionEventSeq = eventSeq ∧ (store.results.slice ResultRow.taskId task.taskId).length = 1 ∧
    (store.outbox.slice OutboxRow.taskId task.taskId).length = 1)
    (drift "terminal task has invalid tuple cardinality")
  let result ← queryRow (store.results.lookup (task.taskId, version))
  let entry ← required (drift "terminal result lacks its consumer outbox tuple")
    (store.outbox.lookup (consumerId, task.taskId, version))
  ensure (result.terminalEventSeq = eventSeq ∧ entry.terminalEventSeq = eventSeq ∧ entry.resultId = result.resultId ∧
    result.createdAt = entry.createdAt ∧ isLowerSha256 result.resultDigest = true ∧
    isLowerSha256 entry.ackToken = true ∧ terminalAt = result.createdAt ∧
    (usToMs result.createdAt).toOption.isSome = true) (drift "terminal task/result/outbox tuple mismatch")
  verifyTerminalEvent codec store task eventSeq terminalAt result.resultId
  let delivery : ResultDelivery :=
    { taskId := task.taskId, resultId := result.resultId, resultVersion := version, ackToken := entry.ackToken,
      terminalEventSeq := eventSeq, terminalState := task.state }
  let review ← loadReview codec store consumerId delivery entry
  let value := resultValue delivery entry.ackedAt.isSome
  validate codec value "terminal result"
  return { value, terminalEventSeq := eventSeq, delivery, review }

def loadResult (taskId consumerId : String) : Checked (Option ResultRead) :=
  match store.tasks.lookup taskId with
  | none => pure none
  | some task =>
    if task.state.isTerminal then some <$> loadTerminalResult codec store task consumerId
    else do
      ensure (task.resultVersion = none ∧ task.terminalEventSeq = none ∧ task.terminalAt = none ∧
        store.results.slice ResultRow.taskId taskId = [] ∧ store.outbox.slice OutboxRow.taskId taskId = [])
        (drift "nonterminal task has terminal result evidence")
      return none

def loadSnapshot (taskId consumerId : String) : Checked TaskSnapshot := do
  let task ← loadTask codec store taskId
  let generation ← required (drift "invalid task generation") (task.value.i64? "generation")
  let attempt ← loadAttempt codec store taskId generation
  let interaction ← loadPendingInteraction codec store taskId generation
  let result ← loadResult codec store taskId consumerId
  return { task, attempt, interaction, result }

end AgentMesh.Daemon.Reader
