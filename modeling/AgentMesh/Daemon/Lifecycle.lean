import AgentMesh.Daemon.Evidence

/-! The operations that end or postpone an attempt: `request_cancel`, `schedule_safe_retry`, `transition` and
`finalize`. -/
namespace AgentMesh.Daemon
open Library StorageError

structure ResultDelivery where
  taskId : String
  resultId : String
  resultVersion : Int
  ackToken : String
  terminalEventSeq : Int
  terminalState : TaskState
  deriving DecidableEq, Repr

/-- `interaction_decided_event_payload`. -/
def interactionDecidedPayload (interactionId status : String) (responseKind : Option InteractionResponseKind) :
    Json :=
  match responseKind with
  | some kind =>
    .object [("interaction_id", .string interactionId), ("status", .string status),
      ("response_kind", .string kind.asStr)]
  | none => .object [("interaction_id", .string interactionId), ("status", .string status)]

/-- `terminal_event_payload`. -/
def terminalPayload (state : TaskState) (resultId : String) : Json :=
  .object [("state", .string state.asStr), ("result_id", .string resultId)]

/-- How an interaction still pending at the end of its task is decided. -/
def closedState (now : Int) (row : InteractionRow) : InteractionState :=
  if row.expiresAt ≤ now then .expired else .cancelled

def closedStatus (now : Int) (row : InteractionRow) : String :=
  if row.expiresAt ≤ now then "EXPIRED" else "CANCELLED"

namespace Store

/-- The pending interactions of a task and generation, in identifier order. -/
def pendingInteractions (store : Store) (taskId : String) (generation : Int) : List InteractionRow :=
  ((store.interactions.slice InteractionRow.taskId taskId).filter fun row =>
    row.generation = generation ∧ row.state = .pending).insertionSort
      fun first second => first.interactionId ≤ second.interactionId

def decidePending (store : Store) (taskId : String) (generation : Int)
    (decision : InteractionRow → InteractionState) (now : Int) : Store :=
  let interactions := store.interactions.update
    (fun row => row.taskId = taskId ∧ row.generation = generation ∧ row.state = .pending)
    (fun row => { row with state := decision row, updatedAt := now }) (fun _ => rfl)
  { store with interactions }

/-- The part of `request_cancel` that cancels a task which allows it. -/
def cancelTask (store : Store) (task : TaskRow) (now : Int) : Checked Store := do
  let pending := store.pendingInteractions task.taskId task.generation
  let store ← store.appendEvents task.taskId task.generation "interaction_decided" now
    (pending.map fun row => interactionDecidedPayload row.interactionId "CANCELLED" none)
  let store ← store.updateTasks (fun row => row.taskId = task.taskId ∧ row.generation = task.generation)
    (fun row => { row with state := .cancelRequested, cancelRequestedAt := some now, updatedAt := now })
    (fun _ => rfl)
  let store ← store.updateAttempts
    (fun row => row.taskId = task.taskId ∧ row.generation = task.generation ∧ row.state.isTerminal = false)
    (fun row => { row with state := .cancelRequested, updatedAt := now }) (fun _ => rfl)
  let store := store.decidePending task.taskId task.generation (fun _ => .cancelled) now
  let (_, store) ← store.appendEvent task.taskId task.generation "state_changed"
    (stateEventPayload .cancelRequested) now
  return store

/-- `request_cancel`; the answer says whether the command was a replay. -/
def requestCancel (ambient : Ambient) (consumerId commandKey requestDigest taskId : String) (now : Int)
    (store : Store) : Checked (Bool × Store) := do
  ensureMutationAllowed ambient true
  store.replayingCommand consumerId "cancel" commandKey requestDigest
    (fun _ => pure (true, store))
    (do
      let task ← queryRow (store.tasks.lookup taskId)
      let store ← if task.state.isTerminal = false ∧ task.state ≠ .cancelRequested then do
          ensure (task.state.allows .cancelRequested = true) staleGeneration
          store.cancelTask task now
        else pure store
      let store ← store.storeCommand consumerId "cancel" commandKey requestDigest taskId now
      return (false, store.bumpMutationEpoch))

/-- `schedule_safe_retry`; the answer is the next generation. -/
def scheduleSafeRetry (codec : Codec) (ambient : Ambient) (operationId taskId : String) (generation retryAt : Int)
    (now : Int) (store : Store) : Checked (Int × Store) := do
  ensureMutationAllowed ambient false
  let operationDigest := digestFields codec [taskId, toString generation, toString retryAt]
  store.replayingOperation operationId operationDigest
    (fun locator => do
      let next ← required (.quarantined "invalid retry generation") locator.asI64?
      return (next, store))
    (do
      let task ← queryRow (store.taskAt taskId generation)
      let attempt ← queryRow (store.attempts.lookup (taskId, generation))
      ensure (task.state = .preparing ∨ task.state = .retryWait) (sql .queryReturnedNoRows)
      ensure (attempt.dispatchPhase.effectIsProvenAbsent = true) staleGeneration
      ensure (generation < 9223372036854775807) staleGeneration
      let next := generation + 1
      let store ← store.updateAttempts (fun row => row.taskId = taskId ∧ row.generation = generation)
        (fun row => { row with state := .retryWait, endedAt := some now, updatedAt := now }) (fun _ => rfl)
      let store ← store.updateTasks (fun row => row.taskId = taskId ∧ row.generation = generation)
        (fun row => { row with generation := next, state := .retryWait, retryAt := some retryAt, updatedAt := now })
        (fun _ => rfl)
      let (_, store) ← store.appendEvent taskId next "retry_scheduled"
        (.object [("prior_generation", .number generation), ("retry_at_ms", .number (max retryAt 0 / 1000))]) now
      let store ← store.storeOperation operationId operationDigest taskId generation "safe_retry" (.number next) now
      return (next, store.bumpMutationEpoch))

/-- `transition`: advance a nonterminal task if its generation and state match; the answer is the sequence
number of the event. -/
def transition (codec : Codec) (ambient : Ambient) (operationId taskId : String) (generation : Int)
    (sources : List TaskState) (next : TaskState) (now : Int) (store : Store) : Checked (Int × Store) := do
  let operationDigest := digestFields codec
    [taskId, toString generation, String.intercalate "\x00" (sources.map TaskState.asStr), next.asStr]
  ensureMutationAllowed ambient (next = .finalizing)
  ensure (next.isTerminal = false) terminalImmutable
  store.replayingOperation operationId operationDigest
    (fun locator => do
      let seq ← required (.quarantined "invalid transition replay") locator.asI64?
      return (seq, store))
    (do
      let task ← required .staleGeneration (store.taskAt taskId generation)
      ensure (task.state.isTerminal = false) terminalImmutable
      ensure (task.state ∈ sources ∧ task.state.allows next = true) staleGeneration
      let store ← store.updateTasks (fun row => row.taskId = taskId ∧ row.generation = generation)
        (fun row => { row with state := next, updatedAt := now }) (taskId_switched next now)
      let (seq, store) ← store.appendEvent taskId generation "state_changed" (stateEventPayload next) now
      let store ← store.storeOperation operationId operationDigest taskId generation "transition" (.number seq) now
      return (seq, store.bumpMutationEpoch))

def loadDelivery (store : Store) (consumerId resultId : String) : Checked ResultDelivery := do
  let entry ← queryRow (store.outbox.rows.find? fun row => row.consumerId == consumerId && row.resultId == resultId)
  let task ← queryRow (store.tasks.lookup entry.taskId)
  return ⟨entry.taskId, entry.resultId, entry.resultVersion, entry.ackToken, entry.terminalEventSeq, task.state⟩

/-- `INSERT INTO results` and `INSERT INTO result_outbox`. -/
def insertResult (store : Store) (consumerId taskId resultId ackToken resultDigest : String) (seq now : Int) :
    Checked Store := do
  ensure (ackToken.length = 64 ∧ (∀ row ∈ store.results.rows, row.resultId ≠ resultId) ∧
    ∀ row ∈ store.outbox.rows, ¬(row.consumerId = consumerId ∧ row.resultId = resultId))
    (sql .constraintViolation)
  let results ← insertRow store.results
    { taskId, resultVersion := 1, resultId, terminalEventSeq := seq, resultDigest, createdAt := now }
  let outbox ← insertRow store.outbox
    { consumerId, taskId, resultVersion := 1, resultId, ackToken, terminalEventSeq := seq, createdAt := now,
      ackedAt := none, reviewId := none }
  return { store with results, outbox }

/-- `finalize`: result, terminal event, projection and outbox entry in one transaction. -/
def finalize (ambient : Ambient) (resultId ackToken consumerId commandKey requestDigest taskId : String)
    (generation : Int) (terminal : TaskState) (resultDigest : String) (now : Int) (store : Store) :
    Checked (ResultDelivery × Store) := do
  ensureMutationAllowed ambient true
  ensure (terminal.isTerminal = true) staleGeneration
  store.replayingCommand consumerId "finalize" commandKey requestDigest
    (fun locator => do
      let delivery ← store.loadDelivery consumerId locator
      return (delivery, store))
    (do
      let task ← required .staleGeneration (store.taskAt taskId generation)
      ensure (task.state.isTerminal = false) terminalImmutable
      ensure (task.state.allows terminal = true) staleGeneration
      ensure (task.cancelRequestedAt = none ∨ terminal = .cancelled) staleGeneration
      let pending := store.pendingInteractions taskId generation
      let store ← store.appendEvents taskId generation "interaction_decided" now
        (pending.map fun row => interactionDecidedPayload row.interactionId (closedStatus now row) none)
      let (seq, store) ← store.appendEvent taskId generation "terminal" (terminalPayload terminal resultId) now
      let store ← store.insertResult consumerId taskId resultId ackToken resultDigest seq now
      let store ← store.updateTasks (fun row => row.taskId = taskId ∧ row.generation = generation)
        (fun row => { row with
          state := terminal
          resultVersion := some 1
          terminalEventSeq := some seq
          terminalAt := some now
          updatedAt := now }) (fun _ => rfl)
      let store ← store.updateAttempts (fun row => row.taskId = taskId ∧ row.generation = generation)
        (fun row => { row with state := terminal, endedAt := some now, updatedAt := now }) (fun _ => rfl)
      let store := store.decidePending taskId generation (closedState now) now
      let store ← store.storeCommand consumerId "finalize" commandKey requestDigest resultId now
      return (⟨taskId, resultId, 1, ackToken, seq, terminal⟩, store.bumpMutationEpoch))

end Store

end AgentMesh.Daemon
