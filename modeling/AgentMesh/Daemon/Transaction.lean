import AgentMesh.Library.Checked
import AgentMesh.Daemon.Schema

/-! The pieces every writer transaction is made of: the admission fence, request digests, event appends,
the two replay tables and the updates that the immutability triggers guard. -/
namespace AgentMesh.Daemon
open Library

/-- The eight bytes of a length, most significant first. -/
def beBytes (length : Nat) : Bytes :=
  [56, 48, 40, 32, 24, 16, 8, 0].map fun shift => UInt8.ofNat (length / 2 ^ shift)

/-- `digest_fields`: SHA-256 over the fields, each preceded by its length. -/
def digestFields (codec : Codec) (fields : List String) : String :=
  codec.sha256Hex (fields.flatMap fun field => beBytes (utf8 field).length ++ utf8 field)

inductive EmergencyState where
  | normal
  | latched
  | reserveReleased
  deriving DecidableEq, Repr

structure QuotaPolicy where
  quotaBytes : Nat
  reserveBytes : Nat

/-- What a transaction reads outside the database: the emergency latch, the size of the write-ahead log and
the file system's byte counts. -/
structure Ambient where
  emergency : EmergencyState
  walBytes : Nat
  quota : Option QuotaPolicy
  allocatedBytes : Nat
  freeBytes : Nat

def ensureMutationAllowed (ambient : Ambient) (emergencySafe : Bool) : Checked Unit := do
  ensure (ambient.emergency = .normal ∨ emergencySafe) StorageError.storageEmergency
  ensure (emergencySafe ∨ ambient.walBytes < 128 * 1024 * 1024) StorageError.walPressure

def ensureCapacity (ambient : Ambient) (declaredMaximum : Nat) : Checked Unit :=
  match ambient.quota with
  | none => pure ()
  | some policy =>
    ensure (ambient.allocatedBytes + declaredMaximum ≤ policy.quotaBytes - policy.reserveBytes ∧
      policy.reserveBytes ≤ ambient.freeBytes - declaredMaximum) StorageError.quotaExceeded

/-- A lookup that must find its row: `query_row` without `optional`. -/
def queryRow {α : Type} (found : Option α) : Checked α := required (.sql .queryReturnedNoRows) found

def insertRow {α κ : Type} [DecidableEq κ] {key : α → κ} (table : Table key) (row : α) : Checked (Table key) :=
  required (.sql .constraintViolation) (table.insert? row)

theorem taskId_switched (state : TaskState) (now : Int) (row : TaskRow) :
    ({ row with state, updatedAt := now } : TaskRow).taskId = row.taskId := rfl

namespace Store

variable (store : Store)

/-- `UPDATE tasks SET state = …`: the trigger aborts it when a selected task is terminal. -/
def updateTasks (selects : TaskRow → Bool) (change : TaskRow → TaskRow)
    (keeps : ∀ row, (change row).taskId = row.taskId) : Checked Store := do
  ensure (∀ row ∈ store.tasks.rows, selects row = true → row.state.isTerminal = false)
    (StorageError.sql .constraintViolation)
  return { store with tasks := store.tasks.update selects change keeps }

/-- `UPDATE attempts SET state = …`: the trigger aborts it when a selected attempt is terminal. -/
def updateAttempts (selects : AttemptRow → Bool) (change : AttemptRow → AttemptRow)
    (keeps : ∀ row, ((change row).taskId, (change row).generation) = (row.taskId, row.generation)) : Checked Store := do
  ensure (∀ row ∈ store.attempts.rows, selects row = true → row.state.isTerminal = false)
    (StorageError.sql .constraintViolation)
  return { store with attempts := store.attempts.update selects change keeps }

/-- `append_event`: take the task's next sequence number and insert the event under it. -/
def appendEvent (taskId : String) (generation : Int) (kind : String) (payload : Json) (now : Int) :
    Checked (Int × Store) := do
  let task ← queryRow (store.tasks.lookup taskId)
  let seq := task.lastEventSeq + 1
  let events ← insertRow store.events
    { taskId, eventSeq := seq, generation, kind, payload, committedAt := now }
  let tasks := store.tasks.update (fun row => row.taskId = taskId)
    (fun row => { row with lastEventSeq := row.lastEventSeq + 1, projectionEventSeq := row.lastEventSeq + 1 })
    (fun _ => rfl)
  return (seq, { store with tasks, events })

/-- `append_event` once per item, in order. -/
def appendEvents (store : Store) (taskId : String) (generation : Int) (kind : String) (now : Int) :
    List Json → Checked Store
  | [] => pure store
  | payload :: payloads => do
    let (_, store) ← store.appendEvent taskId generation kind payload now
    store.appendEvents taskId generation kind now payloads

def bumpMutationEpoch : Store := { store with mutationEpoch := store.mutationEpoch + 1 }

/-- `command_replay`: the locator of an identical command, or a conflict when the key was used for another. -/
def commandReplay (consumerId method commandKey requestDigest : String) : Checked (Option String) :=
  match store.commands.lookup (consumerId, method, commandKey) with
  | none => pure none
  | some command =>
    if command.requestDigest = requestDigest then pure (some command.responseLocator)
    else throw .idempotencyConflict

def storeCommand (consumerId method commandKey requestDigest responseLocator : String) (now : Int) : Checked Store := do
  let commands ← insertRow store.commands
    { consumerId, method, commandKey, requestDigest, responseLocator, committedAt := now }
  return { store with commands }

def internalOperationReplay (operationId operationDigest : String) : Checked (Option Locator) :=
  match store.operations.lookup operationId with
  | none => pure none
  | some operation =>
    if operation.operationDigest = operationDigest then pure (some operation.responseLocator)
    else throw .idempotencyConflict

/-- `INSERT INTO internal_operations`. -/
def storeOperation (operationId operationDigest taskId : String) (generation : Int) (kind : String)
    (responseLocator : Locator) (now : Int) : Checked Store := do
  let operations ← insertRow store.operations
    { operationId, operationDigest, taskId, generation, kind, responseLocator, committedAt := now }
  return { store with operations }

/-- Answer a repeated operation from its stored locator, or run it for the first time. -/
def replayingOperation {β : Type} (store : Store) (operationId operationDigest : String)
    (replay : Locator → Checked β) (fresh : Checked β) : Checked β := do
  match ← store.internalOperationReplay operationId operationDigest with
  | some locator => replay locator
  | none => fresh

/-- Answer a repeated command from its stored locator, or run it for the first time. -/
def replayingCommand {β : Type} (store : Store) (consumerId method commandKey requestDigest : String)
    (replay : String → Checked β) (fresh : Checked β) : Checked β := do
  match ← store.commandReplay consumerId method commandKey requestDigest with
  | some locator => replay locator
  | none => fresh

theorem updateTasks_eq_ok {store after : Store} {selects : TaskRow → Bool} {change : TaskRow → TaskRow}
    {keeps : ∀ row, (change row).taskId = row.taskId} :
    store.updateTasks selects change keeps = .ok after ↔
      (∀ row ∈ store.tasks.rows, selects row = true → row.state.isTerminal = false) ∧
        { store with tasks := store.tasks.update selects change keeps } = after := by
  simp [updateTasks]

theorem updateAttempts_eq_ok {store after : Store} {selects : AttemptRow → Bool} {change : AttemptRow → AttemptRow}
    {keeps : ∀ row, ((change row).taskId, (change row).generation) = (row.taskId, row.generation)} :
    store.updateAttempts selects change keeps = .ok after ↔
      (∀ row ∈ store.attempts.rows, selects row = true → row.state.isTerminal = false) ∧
        { store with attempts := store.attempts.update selects change keeps } = after := by
  simp [updateAttempts]

/-- A repeated operation carries the digest it was stored with; any other one is new. -/
theorem replayingOperation_eq_ok {β : Type} {store : Store} {operationId operationDigest : String}
    {replay : Locator → Checked β} {fresh : Checked β} {result : β} :
    store.replayingOperation operationId operationDigest replay fresh = .ok result ↔
      (∃ operation, store.operations.lookup operationId = some operation ∧
        operation.operationDigest = operationDigest ∧ replay operation.responseLocator = .ok result) ∨
      (store.operations.lookup operationId = none ∧ fresh = .ok result) := by
  unfold replayingOperation internalOperationReplay
  cases found : store.operations.lookup operationId with
  | none => simp
  | some operation =>
    by_cases same : operation.operationDigest = operationDigest <;> simp [same]

/-- A repeated command carries the digest it was stored with; any other one is new. -/
theorem replayingCommand_eq_ok {β : Type} {store : Store} {consumerId method commandKey requestDigest : String}
    {replay : String → Checked β} {fresh : Checked β} {result : β} :
    store.replayingCommand consumerId method commandKey requestDigest replay fresh = .ok result ↔
      (∃ command, store.commands.lookup (consumerId, method, commandKey) = some command ∧
        command.requestDigest = requestDigest ∧ replay command.responseLocator = .ok result) ∨
      (store.commands.lookup (consumerId, method, commandKey) = none ∧ fresh = .ok result) := by
  unfold replayingCommand commandReplay
  cases found : store.commands.lookup (consumerId, method, commandKey) with
  | none => simp
  | some command =>
    by_cases same : command.requestDigest = requestDigest <;> simp [same]

end Store

def stateEventPayload (state : TaskState) : Json := .object [("state", .string state.asStr)]

end AgentMesh.Daemon
