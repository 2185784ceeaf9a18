import AgentMesh.Daemon.Improvement

/-! The durable tables of the daemon's store (`storage.rs`), with the columns its operations read. Times are
microseconds. A column that stores the text of an enumeration has that enumeration as its type. -/
namespace AgentMesh.Daemon
open Library

structure TaskRow where
  taskId : String
  requestDigest : String
  retryOfTaskId : Option String
  state : TaskState
  generation : Int
  lastEventSeq : Int
  projectionEventSeq : Int
  evictedThroughSeq : Int
  resultVersion : Option Int
  terminalEventSeq : Option Int
  terminalAt : Option Int
  cancelRequestedAt : Option Int
  retryAt : Option Int
  priority : Nat
  adapterInstanceId : String
  createdAt : Int
  updatedAt : Int

structure EventRow where
  taskId : String
  eventSeq : Int
  generation : Int
  kind : String
  payload : Json
  committedAt : Int

/-- The `state` column shares the task-state texts; an attempt is never `QUEUED`. -/
structure AttemptRow where
  attemptId : String
  taskId : String
  generation : Int
  ordinal : Int
  state : TaskState
  dispatchPhase : DispatchPhase
  processReceipt : Option String
  providerSession : Option String
  effectProfile : String
  isolationLevel : String
  retryClass : String
  adapterInstanceId : String
  adapterVersion : String
  configVersion : Int
  configDigest : String
  worktreeId : Option String
  resumableCapabilityDigest : Option String
  resumeProofDigest : Option String
  createdAt : Int
  updatedAt : Int
  endedAt : Option Int

/-- The capability class and the two versions are null only in rows older than schema 4. -/
structure InteractionRow where
  interactionId : String
  taskId : String
  attemptId : String
  generation : Int
  operationDigest : String
  policyDigest : String
  configDigest : String
  capabilityClass : Option InteractionCapabilityClass
  configVersion : Option Int
  policyVersion : Option Int
  nonce : String
  expiresAt : Int
  state : InteractionState
  createdAt : Int
  updatedAt : Int

structure ResponseRow where
  interactionId : String
  consumerId : String
  decisionDigest : String
  responseKind : InteractionResponseKind
  responseBytes : Bytes
  byteLength : Int
  responseDigest : String
  committedAt : Int

structure ResultRow where
  taskId : String
  resultVersion : Int
  resultId : String
  terminalEventSeq : Int
  resultDigest : String
  createdAt : Int

structure OutboxRow where
  consumerId : String
  taskId : String
  resultVersion : Int
  resultId : String
  ackToken : String
  terminalEventSeq : Int
  createdAt : Int
  ackedAt : Option Int
  reviewId : Option String

structure ReviewRow where
  reviewId : String
  consumerId : String
  taskId : String
  resultVersion : Int
  reviewDigest : String
  verdict : ReviewVerdict
  diagnosis : Option String
  createdAt : Int

/-- Only improvement commands store their response. -/
structure CommandRow where
  consumerId : String
  method : String
  commandKey : String
  requestDigest : String
  responseLocator : String
  response : Option CommandResponse := none
  committedAt : Int

/-- The text of a response locator: an identifier, or a number written in decimal. -/
inductive Locator where
  | text (value : String)
  | number (value : Int)
  deriving DecidableEq, Repr

namespace Locator

def asText : Locator → String
  | text value => value
  | number value => toString value

/-- `locator.parse::<i64>()`. -/
def asI64? : Locator → Option Int
  | text value => value.toInt?
  | number value => some value

end Locator

structure InternalOperationRow where
  operationId : String
  operationDigest : String
  taskId : String
  generation : Int
  kind : String
  responseLocator : Locator
  committedAt : Int

structure TaskRequestRow where
  taskId : String
  requestDigest : String
  requestBytes : Bytes
  byteLength : Int
  createdAt : Int

structure TombstoneRow where
  taskId : String
  requestDigest : String
  terminalState : TaskState
  lastEventSeq : Int
  evictedThroughSeq : Int
  resultDigest : Option String
  compactedAt : Int

/-- A canary assignment pins the configuration a task's attempts must use. -/
structure CanaryAssignmentRow where
  taskId : String
  caseId : String
  candidate : Bool
  configVersion : Int
  configDigest : String
  deriving DecidableEq

structure ImprovementCaseRow where
  caseId : String
  component : String
  state : ImprovementState
  createdAt : Int
  candidateId : Option String
  parentConfigVersion : Int
  canaryStartedAt : Option Int
  rollbackCount : Nat
  deriving DecidableEq

structure ConfigVersionRow where
  version : Int
  digest : String
  component : String
  parentVersion : Int
  rollbackVersion : Int
  candidateId : String
  deriving DecidableEq

/-- The normalized tables beside the snapshot of the improvement engine. The revision is that of the snapshot row, and
zero without one. A candidate's row is its record, since its value is text. -/
structure ImprovementTables where
  cases : Table ImprovementCaseRow.caseId
  candidates : Table CandidateRecord.candidateId
  configVersions : Table ConfigVersionRow.version
  activeConfigs : Table fun entry : String × Int => entry.1
  revision : Int
  audit : List Int

/-- The committed database. -/
structure Store where
  tasks : Table TaskRow.taskId
  events : Table fun event : EventRow => (event.taskId, event.eventSeq)
  attempts : Table fun attempt : AttemptRow => (attempt.taskId, attempt.generation)
  interactions : Table InteractionRow.interactionId
  responses : Table ResponseRow.interactionId
  results : Table fun result : ResultRow => (result.taskId, result.resultVersion)
  outbox : Table fun entry : OutboxRow => (entry.consumerId, entry.taskId, entry.resultVersion)
  reviews : Table ReviewRow.reviewId
  commands : Table fun command : CommandRow => (command.consumerId, command.method, command.commandKey)
  operations : Table InternalOperationRow.operationId
  taskRequests : Table TaskRequestRow.taskId
  tombstones : Table TombstoneRow.taskId
  canaryAssignments : Table CanaryAssignmentRow.taskId
  improvementTables : ImprovementTables
  improvementEngine : Option ImprovementEngine
  mutationEpoch : Int

def Store.initial : Store where
  tasks := .empty
  events := .empty
  attempts := .empty
  interactions := .empty
  responses := .empty
  results := .empty
  outbox := .empty
  reviews := .empty
  commands := .empty
  operations := .empty
  taskRequests := .empty
  tombstones := .empty
  canaryAssignments := .empty
  improvementTables := ⟨.empty, .empty, .empty, .empty, 0, []⟩
  improvementEngine := none
  mutationEpoch := 0

inductive SqlError where
  | queryReturnedNoRows
  | constraintViolation
  deriving DecidableEq, Repr

inductive StorageError where
  | invalidRoot (path : String)
  | quarantined (reason : String)
  | idempotencyConflict
  | staleGeneration
  | terminalImmutable
  | ackMismatch
  | alreadyReviewed
  | cursorExpired (oldestAvailableSeq lastCommittedSeq : Int)
  | blobCorruption (digest : String)
  | interactionConflict
  | storageEmergency
  | quotaExceeded
  | invalidRequest
  | outputLimitExceeded
  | queryDeadline
  | readerSaturated
  | writerBackpressure
  | walPressure
  | migrationMismatch (reason : String)
  | restoreRefused
  | sql (cause : SqlError)
  | io
  deriving DecidableEq, Repr

/-- What an operation on the store answers: a result with the store it committed, or an error that rolled
its transaction back. -/
abbrev Checked (α : Type) := Except StorageError α

end AgentMesh.Daemon
