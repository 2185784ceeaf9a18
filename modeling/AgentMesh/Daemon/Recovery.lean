import AgentMesh.Daemon.Review

/-! Startup: `integrity_check`, `replay_projections` and `reconcile_nonterminal`. -/
namespace AgentMesh.Daemon
open Library

namespace Store

variable (now : Int) (store : Store) (task : TaskRow)

/-- The event a terminal task names as its last one. -/
def terminalEvents : List EventRow :=
  (store.events.slice EventRow.taskId task.taskId).filter fun event => some event.eventSeq = task.terminalEventSeq

/-- The first pass of `integrity_check`: one result, one outbox entry and one terminal event. -/
def tupleComplete : Bool :=
  (store.results.slice ResultRow.taskId task.taskId).length = 1 &&
    (store.outbox.slice OutboxRow.taskId task.taskId).length = 1 && (store.terminalEvents task).length = 1

/-- The second pass of `integrity_check`: what is wrong with the tuple the join yields, if anything. -/
def tupleError : Option String :=
  match store.results.lookup (task.taskId, 1),
      (store.outbox.slice OutboxRow.taskId task.taskId).find? fun entry => entry.resultVersion = 1,
      (store.terminalEvents task).head? with
  | some result, some entry, some event =>
    if event.payload.isObject = false then some s!"terminal event payload is not an object: {task.taskId}"
    else if event.kind = "terminal" ∧ event.payload.len = 2 ∧
        event.payload.str? "state" = some task.state.asStr ∧
        event.payload.str? "result_id" = some result.resultId ∧
        task.terminalEventSeq = some result.terminalEventSeq ∧
        task.terminalEventSeq = some entry.terminalEventSeq ∧ entry.resultId = result.resultId then none
    else some s!"terminal event/result tuple mismatch: {task.taskId}"
  | _, _, _ => none

/-- `integrity_check`: every terminal task has one exact result tuple. -/
def integrityCheck : Checked Unit := do
  let terminal := store.tasks.rows.filter fun task => task.state.isTerminal
  match terminal.find? fun task => !store.tupleComplete task with
  | some task => throw (.quarantined s!"partial terminal tuple for {task.taskId}")
  | none =>
    match terminal.findSome? store.tupleError with
    | some reason => throw (.quarantined reason)
    | none => pure ()

/-- One iteration of `replay_projections`: compare a task row with the projection of its events, and rewrite
the row when only the nonterminal state or the projected sequence number disagrees. -/
def replayTask (now : Int) (store : Store) : Checked Store := do
  if task.evictedThroughSeq ≠ 0 then
    ensure (task.projectionEventSeq = task.lastEventSeq)
      (StorageError.quarantined "projection drift with incomplete event log")
    return store
  else
    let (state, generation, last) ← deriveProjection (store.events.slice EventRow.taskId task.taskId)
    ensure (generation = task.generation ∧ last = task.lastEventSeq)
      (StorageError.quarantined "event generation or sequence drift")
    if task.state = state ∧ task.projectionEventSeq = task.lastEventSeq then return store
    else
      ensure (task.state.isTerminal = false ∧ state.isTerminal = false)
        (StorageError.quarantined "terminal tuple projection cannot be repaired")
      store.updateTasks (fun row => row.taskId = task.taskId)
        (fun row => { row with state := state, projectionEventSeq := task.lastEventSeq, updatedAt := now })
        (fun _ => rfl)

/-- The tasks `replay_projections` looks at: nonterminal ones, and those with an unacknowledged result. -/
def replayable : Bool :=
  !task.state.isTerminal ||
    store.outbox.rows.any fun entry => entry.taskId == task.taskId && entry.ackedAt.isNone

/-- The loop of `replay_projections`. Every repair commits on its own, so an error keeps the earlier ones. -/
def replayTasks (now : Int) : List TaskRow → Store → Checked Unit × Store
  | [], store => (.ok (), store)
  | task :: tasks, store =>
    match store.replayTask task now with
    | .error error => (.error error, store)
    | .ok store => replayTasks now tasks store

def replayProjections : Checked Unit × Store :=
  replayTasks now (store.tasks.rows.filter store.replayable) store

/-- `startup_integrity_check`. `verifyEvidence` stands for its read-only checks of migrations, foreign keys,
blobs, requests, answers, reviews and the improvement engine. -/
def startupIntegrityCheck (verifyEvidence : Store → Checked Unit) (now : Int) (store : Store) :
    Checked Unit × Store :=
  match store.integrityCheck, verifyEvidence store with
  | .error error, _ => (.error error, store)
  | .ok _, .error error => (.error error, store)
  | .ok _, .ok _ => store.replayProjections now

def latestAnsweredResponseKind (taskId : String) (generation : Int) : Option InteractionResponseKind :=
  let answered := (store.interactions.slice InteractionRow.taskId taskId).filterMap fun row =>
    if row.generation = generation ∧ row.state = .answered then
      (store.responses.lookup row.interactionId).map fun response => (row, response.responseKind)
    else none
  (answered.insertionSort fun first second =>
    second.1.updatedAt < first.1.updatedAt ∨
      (first.1.updatedAt = second.1.updatedAt ∧ first.1.interactionId ≤ second.1.interactionId)).head?.map Prod.snd

end Store

/-- Whether the attempt's provider session is bound to its adapter and configuration. -/
def resumeProven (codec : Codec) (attempt : AttemptRow) : Bool :=
  attempt.dispatchPhase = .providerObserved && attempt.processReceipt.isSome &&
    (attempt.providerSession.any fun session => session ≠ "") &&
    (attempt.resumableCapabilityDigest.any fun capability => capability ≠ "") &&
    attempt.resumeProofDigest == attempt.resumableCapabilityDigest.map fun capability =>
      digestFields codec [attempt.adapterInstanceId, attempt.adapterVersion, attempt.configDigest, capability]

/-- The decision `reconcile_nonterminal` takes for one task; `none` leaves the task to its interaction. -/
def recoveryDecision (codec : Codec) (task : TaskRow) (attempt : Option AttemptRow)
    (answered : Option InteractionResponseKind) : Option RecoveryDecision :=
  let preDispatch := attempt.any fun attempt => attempt.dispatchPhase.effectIsProvenAbsent
  if task.state = .cancelRequested then some .finalizeCancellation
  else if task.state = .finalizing then
    if task.cancelRequestedAt.isSome then some .finalizeCancellation else some .needsAttention
  else if attempt.any (resumeProven codec) then some .resumeSession
  else if (attempt.any fun attempt => attempt.effectProfile = "CURRENT_DIRECTORY") && !preDispatch then
    some .needsAttention
  else if preDispatch then
    match task.state, answered with
    | _, some .deny => some .finalizeCancellation
    | .waitingApproval, _ => none
    | .running, some _ => none
    | _, _ => some .retrySafe
  else some .needsAttention

namespace Store

variable (codec : Codec) (ambient : Ambient) (draw : String → String × String) (consumerId : String)

/-- The event that asks for a proven session to be resumed, recorded once per generation. -/
def recordResume (taskId : String) (generation : Int) (now : Int) (store : Store) : Checked Store :=
  let operationId := s!"recovery-resume:{taskId}:{generation}"
  let digest := digestFields codec [taskId, toString generation, "resume-session"]
  store.replayingOperation operationId digest
    (fun _ => pure store)
    (do
      let (_, store) ← store.appendEvent taskId generation "recovery_required"
        (.object [("action", .string "resume_session")]) now
      store.storeOperation operationId digest taskId generation "recovery_resume" (.text "") now)

/-- The finalization branch of `reconcile_nonterminal`. -/
def recoverTerminal (task : TaskRow) (target : TaskState) (now : Int) (store : Store) : Checked Unit × Store :=
  let finish (store : Store) : Checked Unit × Store :=
    match store.finalize ambient (draw task.taskId).1 (draw task.taskId).2 consumerId
        s!"recovery-result:{task.taskId}:{task.generation}"
        (digestFields codec [task.taskId, toString task.generation, target.asStr]) task.taskId task.generation
        target (digestFields codec ["minimal-recovery-result", target.asStr]) now with
    | .error error => (.error error, store)
    | .ok (_, store) => (.ok (), store)
  -- A crash may fall between the transition to FINALIZING and the terminal commit.
  if task.state = .finalizing then finish store
  else
    match store.transition codec ambient s!"recovery-finalizing:{task.taskId}:{task.generation}" task.taskId
        task.generation [task.state] .finalizing now with
    | .error error => (.error error, store)
    | .ok (_, store) => finish store

def applyDecision (task : TaskRow) (decision : RecoveryDecision) (now : Int) (store : Store) : Checked Unit × Store :=
  match decision with
  | .retrySafe =>
    match store.scheduleSafeRetry codec ambient s!"recovery-retry:{task.taskId}:{task.generation}" task.taskId
        task.generation now now with
    | .error error => (.error error, store)
    | .ok (_, store) => (.ok (), store)
  | .resumeSession =>
    match store.recordResume codec task.taskId task.generation now with
    | .error error => (.error error, store)
    | .ok store => (.ok (), store)
  | .finalizeCancellation => store.recoverTerminal codec ambient draw consumerId task .cancelled now
  | .needsAttention => store.recoverTerminal codec ambient draw consumerId task .needsAttention now

/-- The loop of `reconcile_nonterminal` over the task rows and attempts read before it. -/
def recoverTasks (codec : Codec) (ambient : Ambient) (draw : String → String × String) (consumerId : String)
    (now : Int) : List (TaskRow × Option AttemptRow) → Store → Checked (List (String × RecoveryDecision)) × Store
  | [], store => (.ok [], store)
  | (task, attempt) :: rows, store =>
    match recoveryDecision codec task attempt
        (store.latestAnsweredResponseKind task.taskId task.generation) with
    | none => recoverTasks codec ambient draw consumerId now rows store
    | some decision =>
      match store.applyDecision codec ambient draw consumerId task decision now with
      | (.error error, store) => (.error error, store)
      | (.ok _, store) =>
        match recoverTasks codec ambient draw consumerId now rows store with
        | (.error error, store) => (.error error, store)
        | (.ok decisions, store) => (.ok ((task.taskId, decision) :: decisions), store)

/-- The states `reconcile_nonterminal` skips. -/
def settledState (state : TaskState) : Bool := state = .queued || state = .retryWait || state.isTerminal

/-- `reconcile_nonterminal`. `draw` gives the identifiers of the result a task is finalized with. -/
def reconcileNonterminal (now : Int) (store : Store) : Checked (List (String × RecoveryDecision)) × Store :=
  match ensureMutationAllowed ambient true with
  | .error error => (.error error, store)
  | .ok _ =>
    let tasks := (store.tasks.rows.filter fun task => !settledState task.state).insertionSort
      fun first second => first.createdAt ≤ second.createdAt
    recoverTasks codec ambient draw consumerId now (tasks.map fun task => (task, store.currentAttempt task)) store

end Store

end AgentMesh.Daemon
