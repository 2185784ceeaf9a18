import AgentMesh.Daemon.Admission

/-! The planning round: `dispatch_candidates` of the reader and `plan_dispatch` of the scheduler. -/
namespace AgentMesh.Daemon
open Library

/-- A queued task as the scheduler reads it. -/
structure QueuedCandidate where
  taskId : String
  generation : Int
  state : TaskState
  priority : Nat
  createdAt : Int
  retryAt : Option Int
  adapterInstanceId : Option String
  deriving DecidableEq, Repr

structure PlannedDispatch where
  taskId : String
  generation : Int
  priority : Nat
  adapterInstanceId : String
  deriving DecidableEq, Repr

structure PlannedBlock where
  taskId : String
  generation : Int
  reason : DispatchBlockReason
  adapterInstanceId : Option String
  deriving DecidableEq, Repr

structure DispatchPlan where
  dispatch : List PlannedDispatch
  blocked : List PlannedBlock
  deriving DecidableEq, Repr

namespace QueuedCandidate

/-- Higher priority first, then the earlier one, then the smaller identifier. -/
def precedes (left right : QueuedCandidate) : Prop :=
  right.priority < left.priority ∨ (right.priority = left.priority ∧
    (left.createdAt < right.createdAt ∨ (left.createdAt = right.createdAt ∧ left.taskId ≤ right.taskId)))

instance : DecidableRel precedes := fun left right => by
  unfold precedes
  infer_instance

def timerPending (candidate : QueuedCandidate) (now : Int) : Bool :=
  candidate.state == .retryWait && candidate.retryAt.any fun due => decide (now < due)

def planned (candidate : QueuedCandidate) (adapter : String) : PlannedDispatch :=
  ⟨candidate.taskId, candidate.generation, candidate.priority, adapter⟩

end QueuedCandidate

/-- The local state of the planning loop; `stopped` is its `break`. -/
structure PlanScan where
  remainingGlobal : Nat
  remainingAdapter : String → Nat
  bypassed : Nat
  plan : DispatchPlan
  stopped : Bool

namespace PlanScan

def start (policy : SchedulerPolicy) (occupancy : Occupancy) : PlanScan where
  remainingGlobal := policy.limits.global - occupancy.global
  remainingAdapter adapter := policy.limits.perAdapter - occupancy.occupied adapter
  bypassed := 0
  plan := ⟨[], []⟩
  stopped := false

def block (scan : PlanScan) (candidate : QueuedCandidate) (reason : DispatchBlockReason) : PlanScan :=
  { scan with
    plan := { scan.plan with
      blocked := scan.plan.blocked ++ [⟨candidate.taskId, candidate.generation, reason, candidate.adapterInstanceId⟩] } }

/-- One turn of the loop for a candidate with an assigned adapter whose timer has elapsed. -/
def consider (policy : SchedulerPolicy) (candidate : QueuedCandidate) (adapter : String) (scan : PlanScan) : PlanScan :=
  if scan.remainingAdapter adapter = 0 then
    { scan.block candidate .adapterLimit with
      bypassed := scan.bypassed + 1
      stopped := decide (policy.bypassBound ≤ scan.bypassed + 1) }
  else if scan.remainingGlobal = 0 then
    { scan.block candidate .globalLimit with stopped := true }
  else
    { scan with
      remainingGlobal := scan.remainingGlobal - 1
      remainingAdapter := fun other =>
        if other = adapter then scan.remainingAdapter adapter - 1 else scan.remainingAdapter other
      plan := { scan.plan with dispatch := scan.plan.dispatch ++ [candidate.planned adapter] } }

def next (policy : SchedulerPolicy) (now : Int) (scan : PlanScan) (candidate : QueuedCandidate) : PlanScan :=
  if scan.stopped then scan
  else
    match candidate.adapterInstanceId with
    | none => scan.block candidate .adapterUnassigned
    | some adapter =>
      if candidate.timerPending now then scan.block candidate .retryTimerPending
      else scan.consider policy candidate adapter

end PlanScan

def scanOrder (candidates : List QueuedCandidate) : List QueuedCandidate :=
  candidates.insertionSort QueuedCandidate.precedes

def planDispatch (candidates : List QueuedCandidate) (occupancy : Occupancy) (policy : SchedulerPolicy) (now : Int) :
    Except LimitsError DispatchPlan := do
  policy.validate
  return ((scanOrder candidates).foldl (PlanScan.next policy now) (PlanScan.start policy occupancy)).plan

namespace Store

/-- The task's own adapter, or that of its latest attempt for a task without one. -/
def candidateAdapter (store : Store) (task : TaskRow) : Option String :=
  if task.adapterInstanceId ≠ "" then some task.adapterInstanceId
  else
    match (store.attempts.slice AttemptRow.taskId task.taskId).maxOn? AttemptRow.ordinal with
    | some attempt => if attempt.adapterInstanceId ≠ "" then some attempt.adapterInstanceId else none
    | none => none

/-- A row of the candidate query, checked as the reader checks it. -/
def candidate (store : Store) (task : TaskRow) : Checked QueuedCandidate := do
  ensure (task.priority ≤ 255) (StorageError.quarantined "dispatch candidate priority out of range")
  ensure (0 ≤ task.generation ∧ 0 ≤ task.createdAt) (StorageError.quarantined "invalid dispatch candidate fields")
  return ⟨task.taskId, task.generation, task.state, task.priority, task.createdAt, task.retryAt,
    store.candidateAdapter task⟩

/-- `dispatch_candidates`: the queued and the waiting tasks in the order of the scan. -/
def dispatchCandidates (store : Store) : Checked (List QueuedCandidate) := do
  let candidates ← (store.tasks.rows.filter fun task => task.state = .queued ∨ task.state = .retryWait).mapM
    store.candidate
  return scanOrder candidates

end Store

end AgentMesh.Daemon
