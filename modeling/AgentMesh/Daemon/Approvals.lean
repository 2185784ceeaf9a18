import AgentMesh.Daemon.Interactions

/-! The approval orchestrator (`approvals.rs`): the effects around a one-shot answer. Every operation is a sequence of
writer transactions and reads, so it returns the store it leaves behind also when it fails. -/
namespace AgentMesh.Daemon
open Library

/-- What an orchestrated operation meets outside the store: the fences of its transactions and the checks of its reads
in order, the identifiers it draws, and the standard input of a live process, if there is one. -/
structure Surroundings where
  ambient : Nat → Ambient
  readable : Nat → Store → TaskRow → Checked Unit
  resultId : String
  ackToken : String
  live : Option (Bytes → Bool)

/-- What the orchestrator reads of a task. -/
structure TaskSnapshot where
  state : TaskState
  dispatchPhase : Option DispatchPhase
  deriving DecidableEq, Repr

namespace Store

/-- `load_pending_interaction`: at most one interaction may be pending, and it must be bound and unanswered. -/
def loadPendingInteraction (store : Store) (taskId : String) (generation : Int) : Checked Unit :=
  match store.pendingInteractions taskId generation with
  | [] => pure ()
  | [row] => do
    ensure (((store.attempts.lookup (row.taskId, row.generation)).any fun attempt =>
        attempt.attemptId = row.attemptId) = true ∧ row.capabilityClass.isSome = true ∧
        row.configVersion.isSome = true ∧ row.policyVersion.isSome = true)
      (StorageError.quarantined ("interaction has incomplete binding metadata: " ++ row.interactionId))
    ensure ((store.responses.lookup row.interactionId).isNone = true) (StorageError.quarantined
      ("response evidence belongs to a non-answered interaction: " ++ row.interactionId))
  | _ => throw (.quarantined "task has multiple pending interactions")

/-- `load_snapshot`. `readable` stands for the checks of wire schema, cursor, result evidence and deadline, which can
refuse the read and change nothing. -/
def snapshot (readable : Store → TaskRow → Checked Unit) (store : Store) (taskId : String) :
    Checked TaskSnapshot := do
  let task ← queryRow (store.tasks.lookup taskId)
  let attempt := store.currentAttempt task
  ensure (∀ row ∈ attempt, 1 ≤ row.ordinal ∧ row.ordinal ≤ 9007199254740991)
    (StorageError.quarantined "attempt has invalid private projection fields")
  store.loadPendingInteraction taskId task.generation
  readable store task
  return ⟨task.state, attempt.map AttemptRow.dispatchPhase⟩

def taskState (readable : Store → TaskRow → Checked Unit) (store : Store) (taskId : String) : Checked TaskState :=
  TaskSnapshot.state <$> store.snapshot readable taskId

def dispatchPhase (readable : Store → TaskRow → Checked Unit) (store : Store) (taskId : String) :
    Checked DispatchPhase := do
  let snapshot ← store.snapshot readable taskId
  required .staleGeneration snapshot.dispatchPhase

end Store

/-- The inputs of one answer and of the reclaim that may follow it. -/
structure InteractionAnswer where
  taskId : String
  commandKey : String
  canonicalCommandBytes : Bytes
  interactionId : String
  nonce : String
  generation : Int
  operationDigest : String
  policyDigest : String
  configDigest : String
  responseKind : InteractionResponseKind
  canonicalResponseBytes : Bytes
  now : Int
  spec : AttemptSpec
  limits : SchedulerLimits

def InteractionAnswer.request (answer : InteractionAnswer) (consumerId : String) : ResponseRequest where
  consumerId := consumerId
  commandKey := answer.commandKey
  canonicalCommandBytes := answer.canonicalCommandBytes
  interactionId := answer.interactionId
  nonce := answer.nonce
  expectedGeneration := answer.generation
  expectedOperationDigest := answer.operationDigest
  expectedPolicyDigest := answer.policyDigest
  expectedConfigDigest := answer.configDigest
  responseKind := answer.responseKind
  canonicalResponseBytes := answer.canonicalResponseBytes

inductive AppliedInteraction where
  | replayed (evidence : ResponseRow)
  | preflightApproved (attempt : Attempt)
  | preflightDenied (delivery : ResultDelivery)
  | runtime (kind : InteractionResponseKind) (forwarded : Bool)

inductive ExpiredInteraction where
  | preflightCancelled (delivery : ResultDelivery)
  | runtimeNeedsAttention (delivery : ResultDelivery)

inductive ApprovalError where
  | storage (error : StorageError)
  | supervisor
  | slotBlocked

def saturatingAdd (time more : Int) : Int := min (time + more) 9223372036854775807

/-- The operation under which every approval of a generation reclaims its slot. -/
def reclaimOperationId (taskId : String) (generation : Int) : String := s!"reclaim-preflight:{taskId}:{generation}"

/-- Whether a repeated answer found its effect already applied. -/
def alreadyApplied : AppliedInteraction → TaskState → Bool
  | .preflightApproved _, .running => true
  | .preflightDenied _, .cancelled => true
  | _, _ => false

namespace Store

variable (codec : Codec) (world : Surroundings) (consumerId : String) (answer : InteractionAnswer)

/-- `cancel_before_dispatch`. A task that already moved on is finalized from where it is. -/
def cancelBeforeDispatch (consumerId taskId : String) (generation : Int) (interactionId : String) (now : Int)
    (store : Store) : Except ApprovalError ResultDelivery × Store :=
  let finish (store : Store) : Except ApprovalError ResultDelivery × Store :=
    match store.finalize (world.ambient 2) world.resultId world.ackToken consumerId
        s!"preflight-deny:{taskId}:{generation}"
        (hashBytes codec (utf8 s!"preflight-deny:{taskId}:{generation}:{interactionId}")) taskId generation .cancelled
        (hashBytes codec (utf8 s!"preflight-deny:{interactionId}")) (saturatingAdd now 1) with
    | .error error => (.error (.storage error), store)
    | .ok (delivery, store) => (.ok delivery, store)
  match store.transition codec (world.ambient 1) s!"preflight-deny-finalizing:{taskId}:{generation}" taskId generation
      [.running, .waitingApproval] .finalizing now with
  | .ok (_, store) => finish store
  | .error .terminalImmutable => finish store
  | .error .staleGeneration => finish store
  | .error error => (.error (.storage error), store)

def applyPreflight (store : Store) : Except ApprovalError AppliedInteraction × Store :=
  if answer.responseKind = .deny then
    match store.cancelBeforeDispatch codec world consumerId answer.taskId answer.generation answer.interactionId
        answer.now with
    | (.error error, store) => (.error error, store)
    | (.ok delivery, store) => (.ok (.preflightDenied delivery), store)
  else
    match store.reclaimPreflightDispatchSlot codec (world.ambient 1) (reclaimOperationId answer.taskId answer.generation)
        answer.taskId answer.generation answer.spec answer.limits (saturatingAdd answer.now 1) with
    | .error error => (.error (.storage error), store)
    | .ok (.dispatched attempt, store) => (.ok (.preflightApproved attempt), store)
    | .ok (.blocked _, store) => (.error .slotBlocked, store)

def replayedInteraction (store : Store) : Except ApprovalError AppliedInteraction × Store :=
  match interactionResponse codec store answer.interactionId with
  | .error error => (.error (.storage error), store)
  | .ok evidence => (.ok (.replayed evidence), store)

/-- The effect of an answer that is committed, before any process exists. -/
def applyBeforeDispatch (replayed : Bool) (store : Store) : Except ApprovalError AppliedInteraction × Store :=
  match store.taskState (world.readable 1) answer.taskId with
  | .error error => (.error (.storage error), store)
  | .ok before =>
    match store.applyPreflight codec world consumerId answer with
    | (.error error, store) => (.error error, store)
    | (.ok applied, store) =>
      if replayed && alreadyApplied applied before then store.replayedInteraction codec answer
      else (.ok applied, store)

def applyResponse (store : Store) : Except ApprovalError AppliedInteraction × Store :=
  match store.respondInteraction codec (world.ambient 0) (answer.request consumerId) answer.now with
  | .error error => (.error (.storage error), store)
  | .ok (replayed, store) =>
    match store.dispatchPhase (world.readable 0) answer.taskId with
    | .error error => (.error (.storage error), store)
    | .ok phase =>
      if phase.effectIsProvenAbsent then store.applyBeforeDispatch codec world consumerId answer replayed
      else if replayed then store.replayedInteraction codec answer
      else
        match world.live with
        | none => (.ok (.runtime answer.responseKind false), store)
        | some writeLine =>
          if writeLine answer.canonicalResponseBytes then (.ok (.runtime answer.responseKind true), store)
          else (.error .supervisor, store)

def expirePending (consumerId operationId taskId interactionId : String) (generation : Int) (now : Int) (store : Store)
    : Except ApprovalError ExpiredInteraction × Store :=
  match store.dispatchPhase (world.readable 0) taskId with
  | .error error => (.error (.storage error), store)
  | .ok phase =>
    if phase.effectIsProvenAbsent then
      match store.expirePreflightInteraction codec (world.ambient 0) world.resultId world.ackToken consumerId
          operationId interactionId generation now with
      | (.error error, store) => (.error (.storage error), store)
      | (.ok delivery, store) => (.ok (.preflightCancelled delivery), store)
    else
      match store.expireInteraction codec (world.ambient 0) world.resultId world.ackToken consumerId operationId
          interactionId generation now with
      | (.error error, store) => (.error (.storage error), store)
      | (.ok delivery, store) => (.ok (.runtimeNeedsAttention delivery), store)

end Store

end AgentMesh.Daemon
