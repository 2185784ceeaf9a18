import AgentMesh.Daemon.Admission

/-! Evidence recorded while an attempt runs: dispatch phases, adapter events and resumable sessions. -/
namespace AgentMesh.Daemon
open Library

def adapterEventKinds : List String := ["text_delta", "warning", "protocol_error", "usage", "tool_proposal"]

/-- `PREPARING` or `RUNNING`: the states in which a live attempt reports progress. -/
def activeState (state : TaskState) : Bool := state = .preparing || state = .running

namespace Store

/-- The task at a generation, if the generation is its current one. -/
def taskAt (store : Store) (taskId : String) (generation : Int) : Option TaskRow :=
  (store.tasks.lookup taskId).filter fun task => task.generation = generation

/-- `record_dispatch_phase`; the answer says whether the operation was a replay. -/
def recordDispatchPhase (codec : Codec) (ambient : Ambient) (operationId taskId : String) (generation : Int)
    (phase : DispatchPhase) (processReceipt : Option String) (now : Int) (store : Store) :
    Checked (Bool × Store) := do
  ensureMutationAllowed ambient true
  let operationDigest := digestFields codec
    [taskId, toString generation, phase.asStr, processReceipt.getD ""]
  store.replayingOperation operationId operationDigest
    (fun _ => pure (true, store))
    (do
      let task ← required .staleGeneration (store.taskAt taskId generation)
      let attempt ← required .staleGeneration (store.attempts.lookup (taskId, generation))
      ensure (activeState task.state = true) StorageError.staleGeneration
      ensure (attempt.dispatchPhase.canAdvanceTo phase = true) StorageError.staleGeneration
      -- The update skips terminal attempts, and a skipped attempt is a stale one.
      ensure (attempt.state.isTerminal = false) StorageError.staleGeneration
      let started := phase = .processStarted ∨ phase = .providerObserved
      let store ← store.updateAttempts (fun row => row.taskId = taskId ∧ row.generation = generation)
        (fun row => { row with
          dispatchPhase := phase
          processReceipt := processReceipt.or row.processReceipt
          state := if started then .running else row.state
          updatedAt := now }) (fun _ => rfl)
      let store ← if started then
          store.updateTasks
            (fun row => row.taskId = taskId ∧ row.generation = generation ∧ row.state = .preparing)
            (fun row => { row with state := .running, updatedAt := now }) (fun _ => rfl)
        else pure store
      let (_, store) ← store.appendEvent taskId generation "dispatch_phase"
        (.object [("phase", .string phase.asStr)]) now
      let store ← store.storeOperation operationId operationDigest taskId generation "dispatch_phase" (.text "") now
      return (false, store.bumpMutationEpoch))

/-- The states in which an adapter may still report events. -/
def acceptsAdapterEvents (state : TaskState) : Bool :=
  match state with
  | .preparing | .running | .waitingApproval | .cancelRequested | .finalizing => true
  | _ => false

/-- `record_adapter_event`; the answer is the sequence number of the event. -/
def recordAdapterEvent (codec : Codec) (ambient : Ambient) (operationId taskId : String) (generation : Int)
    (kind : String) (payload : Json) (now : Int) (store : Store) : Checked (Int × Store) := do
  ensure (kind ∈ adapterEventKinds ∧ payload.isObject = true) StorageError.invalidRequest
  ensureMutationAllowed ambient true
  let operationDigest := digestFields codec [taskId, toString generation, kind, codec.toText payload]
  store.replayingOperation operationId operationDigest
    (fun locator => do
      let seq ← required (.quarantined "adapter event replay locator") locator.asI64?
      return (seq, store))
    (do
      let task ← required .staleGeneration (store.taskAt taskId generation)
      ensure (acceptsAdapterEvents task.state = true) StorageError.staleGeneration
      let (seq, store) ← store.appendEvent taskId generation kind payload now
      let store ← store.storeOperation operationId operationDigest taskId generation "adapter_event"
        (.number seq) now
      return (seq, store.bumpMutationEpoch))

/-- `record_resumable_session`: bind a provider session to the attempt's adapter and configuration. -/
def recordResumableSession (codec : Codec) (ambient : Ambient) (taskId : String) (generation : Int)
    (providerSession capabilityDigest : String) (now : Int) (store : Store) : Checked (Unit × Store) := do
  ensureMutationAllowed ambient true
  let attempt ← queryRow (store.attempts.lookup (taskId, generation))
  ensure (attempt.processReceipt.isSome ∧ attempt.dispatchPhase = .providerObserved ∧
    providerSession ≠ "" ∧ capabilityDigest ≠ "") StorageError.staleGeneration
  let proof := digestFields codec
    [attempt.adapterInstanceId, attempt.adapterVersion, attempt.configDigest, capabilityDigest]
  ensure (attempt.state = .running) StorageError.staleGeneration
  let store ← store.updateAttempts
    (fun row => row.taskId = taskId ∧ row.generation = generation ∧ row.state = .running)
    (fun row => { row with
      providerSession := some providerSession
      resumableCapabilityDigest := some capabilityDigest
      resumeProofDigest := some proof
      updatedAt := now }) (fun _ => rfl)
  return ((), store.bumpMutationEpoch)

end Store

end AgentMesh.Daemon
