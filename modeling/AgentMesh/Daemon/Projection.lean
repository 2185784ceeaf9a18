import AgentMesh.Daemon.Transaction

/-! The task projection an event log stands for (`derive_projection`). -/
namespace AgentMesh.Daemon
open Library

/-- The task state after one more event. Only `state_changed` and `terminal` carry the state in their
payload; every other kind either fixes it or leaves it alone. -/
def projectState (state : TaskState) (event : EventRow) : Checked TaskState :=
  match event.kind with
  | "state_changed" | "terminal" =>
    required (.quarantined "invalid state event payload")
      ((event.payload.str? "state").bind TaskState.fromStr)
  | "SUBMITTED" | "QUEUED" => pure .queued
  | "attempt_started" | "ATTEMPT_STARTED" | "PREPARING" => pure .preparing
  | "interaction_requested" | "INTERACTION_OPENED" | "WAITING_APPROVAL" => pure .waitingApproval
  | "interaction_decided" | "dispatch_phase" | "INTERACTION_ANSWERED" | "DISPATCH_PHASE" | "RUNNING" =>
    pure .running
  | "CANCEL_REQUESTED" => pure .cancelRequested
  | "RETRY_SCHEDULED" | "RETRY_WAIT" => pure .retryWait
  | "FINALIZING" => pure .finalizing
  | "SUCCEEDED" => pure .succeeded
  | "FAILED" => pure .failed
  | "CANCELLED" => pure .cancelled
  | "NEEDS_ATTENTION" => pure .needsAttention
  | _ => pure state

/-- One iteration of the fold: the state, the generation and the last sequence number. -/
def projectEvent (projection : TaskState × Int × Int) (event : EventRow) : Checked (TaskState × Int × Int) := do
  ensure (event.eventSeq = projection.2.2 + 1) (StorageError.quarantined "event sequence gap")
  let state ← projectState projection.1 event
  return (state, event.generation, event.eventSeq)

/-- `derive_projection` over the events of one task in sequence order. -/
def deriveProjection (events : List EventRow) : Checked (TaskState × Int × Int) :=
  events.foldlM projectEvent (.queued, 0, 0)

@[simp]
theorem deriveProjection_nil : deriveProjection [] = .ok (.queued, 0, 0) := rfl

/-- Folding one more event onto a derived projection. -/
theorem deriveProjection_append (events : List EventRow) (event : EventRow)
    (state : TaskState) (generation last : Int) (derived : deriveProjection events = .ok (state, generation, last))
    (next : TaskState) (consecutive : event.eventSeq = last + 1) (projected : projectState state event = .ok next) :
    deriveProjection (events ++ [event]) = .ok (next, event.generation, last + 1) := by
  have folded : projectEvent (state, generation, last) event = .ok (next, event.generation, last + 1) := by
    simp [projectEvent, consecutive, projected]
  unfold deriveProjection at derived ⊢
  simp only [List.foldlM_append, derived, List.foldlM_cons, List.foldlM_nil]
  simp [bind, Except.bind, pure, Except.pure, folded]

end AgentMesh.Daemon
