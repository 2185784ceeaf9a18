import AgentMesh.Daemon.Interactions

/-! Acknowledging results and compacting acknowledged tasks: `review_and_ack` and the loop body of
`compact_eligible_tasks`. -/
namespace AgentMesh.Daemon
open Library

structure ParsedReviewAckCommand where
  commandKey : String
  taskId : String
  resultId : String
  resultVersion : Int
  ackToken : String
  verdict : ReviewVerdict
  diagnosis : Option String
  deriving DecidableEq, Repr

def maxDiagnosisChars : Nat := 8192
def dayUs : Int := 86400000000

def parseReviewAckCommand (codec : Codec) (bytes : Bytes) : Checked ParsedReviewAckCommand := do
  let value ← parseCanonicalJson codec bytes maxCanonicalTaskRequestBytes
  ensure (codec.decodeV1 value = true ∧ value.isObject = true) StorageError.invalidRequest
  let diagnosis ← match value.get? "diagnosis" with
    | none => pure none
    | some (.string text) => pure (some text)
    | some _ => throw StorageError.invalidRequest
  ensure (∀ text ∈ diagnosis, text.length ≤ maxDiagnosisChars) StorageError.invalidRequest
  let verdict ← required .invalidRequest ((value.str? "verdict").bind ReviewVerdict.fromStr)
  let commandKey ← required .invalidRequest (value.str? "command_key")
  let taskId ← required .invalidRequest (value.str? "task_id")
  let resultId ← required .invalidRequest (value.str? "result_id")
  let resultVersion ← required .invalidRequest (value.i64? "result_version")
  let ackToken ← required .invalidRequest (value.str? "ack_token")
  return { commandKey, taskId, resultId, resultVersion, ackToken, verdict, diagnosis }

namespace Store

/-- The outbox entry, its task and its review, as the two acknowledgement queries join them. -/
def ackRow (store : Store) (consumerId : String) (delivery : ResultDelivery) :
    Option (OutboxRow × TaskRow × Option ReviewRow) := do
  let entry ← store.outbox.lookup (consumerId, delivery.taskId, delivery.resultVersion)
  let task ← store.tasks.lookup entry.taskId
  return (entry, task, entry.reviewId.bind store.reviews.lookup)

/-- Whether a stored review is the one the command repeats. -/
def sameReview (review : Option ReviewRow) (digest : String) (verdict : ReviewVerdict)
    (diagnosis : Option String) : Prop :=
  review.map ReviewRow.reviewDigest = some digest ∧ review.map ReviewRow.verdict = some verdict ∧
    review.bind ReviewRow.diagnosis = diagnosis

instance (review : Option ReviewRow) (digest : String) (verdict : ReviewVerdict) (diagnosis : Option String) :
    Decidable (sameReview review digest verdict diagnosis) :=
  inferInstanceAs (Decidable (_ ∧ _ ∧ _))

/-- Whether a delivery names exactly the stored outbox entry. -/
def sameDelivery (entry : OutboxRow) (task : TaskRow) (delivery : ResultDelivery) : Prop :=
  entry.resultId = delivery.resultId ∧ entry.terminalEventSeq = delivery.terminalEventSeq ∧
    task.state = delivery.terminalState ∧ entry.ackToken = delivery.ackToken

instance (entry : OutboxRow) (task : TaskRow) (delivery : ResultDelivery) :
    Decidable (sameDelivery entry task delivery) :=
  inferInstanceAs (Decidable (_ ∧ _ ∧ _ ∧ _))

/-- `review_and_ack`, up to the improvement observation that follows its commit; the answer says whether the
command was a replay. -/
def reviewAndAck (codec : Codec) (ambient : Ambient) (reviewId consumerId commandKey : String)
    (canonicalReviewCommand : Bytes) (delivery : ResultDelivery) (verdict : ReviewVerdict)
    (diagnosis : Option String) (now : Int) (store : Store) : Checked (Bool × Store) := do
  ensureMutationAllowed ambient true
  let command ← parseReviewAckCommand codec canonicalReviewCommand
  ensure (command.commandKey = commandKey ∧ command.taskId = delivery.taskId ∧
    command.resultId = delivery.resultId ∧ command.resultVersion = delivery.resultVersion ∧
    command.ackToken = delivery.ackToken ∧ command.verdict = verdict ∧ command.diagnosis = diagnosis)
    StorageError.idempotencyConflict
  let reviewDigest := hashBytes codec canonicalReviewCommand
  store.replayingCommand consumerId "review_ack" commandKey reviewDigest
    (fun locator => do
      ensure (locator = delivery.resultId) StorageError.idempotencyConflict
      let (entry, task, review) ← required
        (.quarantined "review command points to a missing result delivery") (store.ackRow consumerId delivery)
      ensure (sameDelivery entry task delivery ∧ entry.ackedAt.isSome)
        (StorageError.quarantined "review command points to an invalid result delivery")
      ensure (sameReview review reviewDigest verdict diagnosis) StorageError.idempotencyConflict
      return (true, store))
    (do
      let (entry, task, review) ← required .ackMismatch (store.ackRow consumerId delivery)
      ensure (sameDelivery entry task delivery) StorageError.ackMismatch
      let store ← if entry.ackedAt.isSome then do
          ensure (sameReview review reviewDigest verdict diagnosis) StorageError.alreadyReviewed
          pure store
        else do
          let reviews ← insertRow store.reviews
            { reviewId, consumerId, taskId := delivery.taskId, resultVersion := delivery.resultVersion,
              reviewDigest, verdict, diagnosis, createdAt := now }
          let outbox := store.outbox.update
            (fun row => row.consumerId = consumerId ∧ row.taskId = delivery.taskId ∧
              row.resultVersion = delivery.resultVersion)
            (fun row => { row with ackedAt := some now, reviewId := some reviewId }) (fun _ => rfl)
          pure { store with reviews, outbox }
      let store ← store.storeCommand consumerId "review_ack" commandKey reviewDigest delivery.resultId now
      return (false, store.bumpMutationEpoch))

/-- Whether `compact_eligible_tasks` may compact a task: its result was acknowledged and it has been terminal
for ninety days. `pinned` stands for an unexpired reader lease or a worktree that still exists. -/
def compactable (store : Store) (pinned : Bool) (task : TaskRow) (now : Int) : Prop :=
  pinned = false ∧ (∃ entry ∈ store.outbox.rows, entry.taskId = task.taskId ∧ entry.resultVersion = 1 ∧
    entry.ackedAt.isSome = true) ∧ ∃ terminalAt ∈ task.terminalAt, terminalAt ≤ now - 90 * dayUs

instance (store : Store) (pinned : Bool) (task : TaskRow) (now : Int) :
    Decidable (compactable store pinned task now) :=
  inferInstanceAs (Decidable (_ ∧ _ ∧ ∃ terminalAt ∈ task.terminalAt, terminalAt ≤ now - 90 * dayUs))

/-- One iteration of `compact_eligible_tasks`: replace the task's rows by a tombstone. Command rows stay. -/
def compactTask (pinned : Bool) (taskId : String) (now : Int) (store : Store) : Checked Store := do
  let task ← queryRow (store.tasks.lookup taskId)
  ensure (compactable store pinned task now) StorageError.staleGeneration
  let tombstone : TombstoneRow :=
    { taskId, requestDigest := task.requestDigest, terminalState := task.state, lastEventSeq := task.lastEventSeq,
      evictedThroughSeq := max task.lastEventSeq task.evictedThroughSeq,
      resultDigest := (store.results.lookup (taskId, 1)).map ResultRow.resultDigest, compactedAt := now }
  let ofTask (id : String) : Bool := id = taskId
  let answered (id : String) : Bool := (store.interactions.lookup id).any fun row => ofTask row.taskId
  return { store with
    tombstones := (store.tombstones.insert? tombstone).getD store.tombstones
    taskRequests := store.taskRequests.delete fun row => ofTask row.taskId
    operations := store.operations.delete fun row => ofTask row.taskId
    outbox := store.outbox.delete fun row => ofTask row.taskId
    reviews := store.reviews.delete fun row => ofTask row.taskId
    results := store.results.delete fun row => ofTask row.taskId
    events := store.events.delete fun row => ofTask row.taskId
    responses := store.responses.delete fun row => answered row.interactionId
    interactions := store.interactions.delete fun row => ofTask row.taskId
    attempts := store.attempts.delete fun row => ofTask row.taskId
    tasks := store.tasks.delete fun row => ofTask row.taskId }

end Store

end AgentMesh.Daemon
