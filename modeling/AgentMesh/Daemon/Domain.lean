import Mathlib

/-! Typed durable states and the transition rules between them (`domain.rs`). Each state is stored as the
text `asStr` gives it, and read back by searching the list of all states for that text. -/
namespace AgentMesh.Daemon

inductive TaskState where
  | queued
  | preparing
  | running
  | waitingApproval
  | retryWait
  | cancelRequested
  | finalizing
  | succeeded
  | failed
  | cancelled
  | needsAttention
  deriving DecidableEq, Repr

namespace TaskState

def all : List TaskState :=
  [queued, preparing, running, waitingApproval, retryWait, cancelRequested, finalizing,
    succeeded, failed, cancelled, needsAttention]

def asStr : TaskState → String
  | queued => "QUEUED"
  | preparing => "PREPARING"
  | running => "RUNNING"
  | waitingApproval => "WAITING_APPROVAL"
  | retryWait => "RETRY_WAIT"
  | cancelRequested => "CANCEL_REQUESTED"
  | finalizing => "FINALIZING"
  | succeeded => "SUCCEEDED"
  | failed => "FAILED"
  | cancelled => "CANCELLED"
  | needsAttention => "NEEDS_ATTENTION"

def fromStr (value : String) : Option TaskState := all.find? fun state => state.asStr == value

def isTerminal : TaskState → Bool
  | succeeded | failed | cancelled | needsAttention => true
  | _ => false

def allows : TaskState → TaskState → Bool
  | queued, preparing | queued, cancelRequested => true
  | retryWait, preparing | retryWait, cancelRequested => true
  | preparing, running | preparing, waitingApproval | preparing, retryWait
  | preparing, cancelRequested | preparing, finalizing => true
  | running, waitingApproval | running, retryWait | running, cancelRequested | running, finalizing => true
  | waitingApproval, running | waitingApproval, cancelRequested | waitingApproval, finalizing => true
  | cancelRequested, finalizing => true
  | finalizing, succeeded | finalizing, failed | finalizing, cancelled | finalizing, needsAttention => true
  | _, _ => false

@[simp]
theorem fromStr_asStr (state : TaskState) : fromStr state.asStr = some state := by
  cases state <;> decide

/-- A terminal state has no successor, so no transition leaves it. -/
theorem allows_of_isTerminal (state next : TaskState) (terminal : state.isTerminal = true) :
    state.allows next = false := by
  cases state <;> simp [isTerminal] at terminal <;> cases next <;> rfl

/-- The only way into a terminal state is from `FINALIZING`. -/
theorem finalizing_of_allows_terminal (state next : TaskState) (allowed : state.allows next = true)
    (terminal : next.isTerminal = true) : state = finalizing := by
  cases next <;> simp [isTerminal] at terminal <;> cases state <;> simp [allows] at allowed ⊢

end TaskState

inductive DispatchPhase where
  | preDispatch
  | spawnPrepared
  | processStarted
  | providerObserved
  deriving DecidableEq, Repr

namespace DispatchPhase

def asStr : DispatchPhase → String
  | preDispatch => "PRE_DISPATCH"
  | spawnPrepared => "SPAWN_PREPARED"
  | processStarted => "PROCESS_STARTED"
  | providerObserved => "PROVIDER_OBSERVED"

def effectIsProvenAbsent : DispatchPhase → Bool
  | preDispatch | spawnPrepared => true
  | _ => false

def canAdvanceTo : DispatchPhase → DispatchPhase → Bool
  | preDispatch, spawnPrepared | preDispatch, processStarted | preDispatch, providerObserved => true
  | spawnPrepared, processStarted | spawnPrepared, providerObserved => true
  | processStarted, providerObserved => true
  | _, _ => false

/-- The position of a phase in `PRE_DISPATCH < SPAWN_PREPARED < PROCESS_STARTED < PROVIDER_OBSERVED`. -/
def rank : DispatchPhase → Nat
  | preDispatch => 0
  | spawnPrepared => 1
  | processStarted => 2
  | providerObserved => 3

theorem canAdvanceTo_iff (phase next : DispatchPhase) :
    phase.canAdvanceTo next = true ↔ phase.rank < next.rank := by
  cases phase <;> cases next <;> decide

end DispatchPhase

inductive InteractionState where
  | pending
  | answered
  | expired
  | cancelled
  deriving DecidableEq, Repr

inductive InteractionCapabilityClass where
  | approval
  | input
  deriving DecidableEq, Repr

def InteractionCapabilityClass.asStr : InteractionCapabilityClass → String
  | .approval => "approval"
  | .input => "input"

inductive InteractionResponseKind where
  | approve
  | deny
  | text
  deriving DecidableEq, Repr

namespace InteractionResponseKind

def asStr : InteractionResponseKind → String
  | approve => "approve"
  | deny => "deny"
  | text => "text"

def eventStatus : InteractionResponseKind → String
  | approve => "APPROVED"
  | deny => "DENIED"
  | text => "PROVIDED"

end InteractionResponseKind

inductive ReviewVerdict where
  | accepted
  | rejected
  deriving DecidableEq, Repr

def ReviewVerdict.asStr : ReviewVerdict → String
  | .accepted => "ACCEPTED"
  | .rejected => "REJECTED"

def ReviewVerdict.fromStr : String → Option ReviewVerdict
  | "ACCEPTED" => some .accepted
  | "REJECTED" => some .rejected
  | _ => none

inductive RecoveryDecision where
  | retrySafe
  | resumeSession
  | needsAttention
  | finalizeCancellation
  deriving DecidableEq, Repr

/-- `i64::saturating_add` of a duration. -/
def addTime (time more : Int) : Int := min (time + more) 9223372036854775807

/-- `i64::saturating_sub` of a duration. -/
def subTime (time less : Int) : Int := max (time - less) (-9223372036854775808)

end AgentMesh.Daemon
