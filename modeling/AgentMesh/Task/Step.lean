import AgentMesh.Task.View

/-! The life of one task: every change a transaction can make to its view, with what must hold before it. -/
namespace AgentMesh.Task
open Library Daemon

namespace TaskView

variable (view : TaskView) (state : TaskState) (now : Int)

/-- The attempts of a task reduced to their generation and dispatch phase. -/
def phases : List (Int × DispatchPhase) :=
  view.attempts.map fun attempt => (attempt.generation, attempt.dispatchPhase)

/-- The dispatch phase of the attempt at the task's current generation. -/
def phase : Option DispatchPhase :=
  (view.phases.find? fun entry => entry.1 = view.row.generation).map Prod.snd

def pending (view : TaskView) : List InteractionRow :=
  (view.interactions.map Prod.fst).filter fun row => row.state = .pending

/-- The pending interactions of a generation, in the order the writer decides them. -/
def pendingAt (generation : Int) : List InteractionRow :=
  ((view.interactions.map Prod.fst).filter fun row =>
    row.generation = generation ∧ row.state = .pending).insertionSort
      fun first second => first.interactionId ≤ second.interactionId

def approved : Prop :=
  ∃ entry ∈ view.interactions, entry.1.generation = view.row.generation ∧ entry.1.state = .answered ∧
    ∃ response ∈ entry.2, response.responseKind = .approve

def inState : TaskView :=
  { view with row := { view.row with state, updatedAt := now } }

/-- Give the selected attempts of the current generation a new state. -/
def attemptsInState (selects : AttemptRow → Bool) (state : TaskState) (now : Int) : TaskView :=
  view.setAttempts (fun attempt => attempt.taskId = view.row.taskId ∧ attempt.generation = view.row.generation ∧
    selects attempt) (fun attempt => { attempt with state, updatedAt := now })

/-- End the selected attempts of the current generation in a state. -/
def attemptsEnded : TaskView :=
  view.setAttempts (fun attempt => attempt.taskId = view.row.taskId ∧ attempt.generation = view.row.generation)
    (fun attempt => { attempt with state, endedAt := some now, updatedAt := now })

/-- Decide every pending interaction of the current generation. -/
def decideAll (decision : InteractionRow → InteractionState) (now : Int) : TaskView :=
  view.setInteractions
    (fun row => row.taskId = view.row.taskId ∧ row.generation = view.row.generation ∧ row.state = .pending)
    (fun row => { row with state := decision row, updatedAt := now })

/-- Decide every pending interaction of the current generation and log each decision. -/
def closed (decision : InteractionRow → InteractionState) (status : InteractionRow → String) (now : Int) : TaskView :=
  (view.decideAll decision now).appendAll view.row.generation "interaction_decided" now
    ((view.pendingAt view.row.generation).map fun row =>
      interactionDecidedPayload row.interactionId (status row) none)

def requestedCancel : TaskView :=
  { view with
    row := { view.row with state := .cancelRequested, cancelRequestedAt := some now, updatedAt := now } }

/-- Write the terminal tuple: the row that names the terminal event, the result and its outbox entry. -/
def terminated (terminal : TaskState) (consumerId resultId ackToken resultDigest : String) (now : Int) : TaskView :=
  { view with
    row := { view.row with
      state := terminal
      resultVersion := some 1
      terminalEventSeq := some (view.row.lastEventSeq + 1)
      terminalAt := some now
      updatedAt := now }
    results := view.results ++
      [{ taskId := view.row.taskId, resultVersion := 1, resultId, terminalEventSeq := view.row.lastEventSeq + 1,
         resultDigest, createdAt := now }]
    outbox := view.outbox ++
      [{ consumerId, taskId := view.row.taskId, resultVersion := 1, resultId, ackToken,
         terminalEventSeq := view.row.lastEventSeq + 1, createdAt := now, ackedAt := none, reviewId := none }] }

def attempted (attempt : AttemptRow) (adapter : String) (now : Int) : TaskView :=
  { view with
    row := { view.row with state := .preparing, adapterInstanceId := adapter, updatedAt := now }
    attempts := view.attempts ++ [attempt] }

/-- Advance the attempt of the current generation; a started process also moves its task to `RUNNING`. -/
def advanced (phase : DispatchPhase) (receipt : Option String) (now : Int) : TaskView :=
  { view with
    row := if (phase = .processStarted ∨ phase = .providerObserved) ∧ view.row.state = .preparing then
        { view.row with state := .running, updatedAt := now }
      else view.row
    attempts := updateWhere
      (fun attempt => attempt.taskId = view.row.taskId ∧ attempt.generation = view.row.generation)
      (fun attempt => { attempt with
        dispatchPhase := phase
        processReceipt := receipt.or attempt.processReceipt
        state := if phase = .processStarted ∨ phase = .providerObserved then .running else attempt.state
        updatedAt := now })
      view.attempts }

def released (generation now : Int) : TaskView :=
  { view with
    row := if view.row.generation = generation ∧ view.row.state = .waitingApproval then
        { view.row with state := .running, updatedAt := now }
      else view.row
    attempts := updateWhere
      (fun attempt => attempt.taskId = view.row.taskId ∧ attempt.generation = generation ∧
        attempt.state = .waitingApproval)
      (fun attempt => { attempt with state := .running, updatedAt := now }) view.attempts }

/-- Add an interaction and make its task and attempt wait for it. -/
def waiting (interaction : InteractionRow) (now : Int) : TaskView :=
  { view with
    row := { view.row with state := .waitingApproval, updatedAt := now }
    attempts := updateWhere (fun attempt => attempt.attemptId = interaction.attemptId)
      (fun attempt => { attempt with state := .waitingApproval, updatedAt := now }) view.attempts
    interactions := view.interactions ++ [(interaction, none)] }

/-- Move the task to its next generation, to be tried again. -/
def postponed (retryAt now : Int) : TaskView :=
  { view with
    row := { view.row with
      generation := view.row.generation + 1, state := .retryWait, retryAt := some retryAt, updatedAt := now } }

def answer (response : ResponseRow) (now : Int) : TaskView :=
  { view with
    interactions := updateWhere (fun entry => entry.1.interactionId = response.interactionId)
      (fun entry => ({ entry.1 with state := .answered, updatedAt := now }, some response)) view.interactions }

/-- Answer one interaction, let its task run and log the decision. -/
def answeredBy (row : InteractionRow) (response : ResponseRow) (now : Int) : TaskView :=
  ((view.released row.generation now).answer response now).append row.generation "interaction_decided"
    (interactionDecidedPayload row.interactionId response.responseKind.eventStatus (some response.responseKind)) now

def expire (interactionId : String) (now : Int) : TaskView :=
  view.setInteractions (fun row => row.interactionId = interactionId)
    (fun row => { row with state := .expired, updatedAt := now })

end TaskView

/-- The view of a task that was just submitted. -/
structure Submitted (view : TaskView) : Prop where
  state : view.row.state = .queued
  generation : view.row.generation = 0
  seq : view.row.lastEventSeq = 1
  projected : view.row.projectionEventSeq = 1
  evicted : view.row.evictedThroughSeq = 0
  open_ : view.row.cancelRequestedAt = none ∧ view.row.terminalEventSeq = none
  undated : view.row.terminalAt = none
  event : ∃ now, view.events =
    [{ taskId := view.row.taskId, eventSeq := 1, generation := 0, kind := "state_changed",
       payload := stateEventPayload .queued, committedAt := now }]
  attempts : view.attempts = []
  interactions : view.interactions = []
  results : view.results = []
  outbox : view.outbox = []

/-- The kinds of change a transaction can make to a task. -/
inductive Change where
  | attemptStarted
  | switched (target : TaskState)
  | dispatched (phase : DispatchPhase)
  | reported
  | sessionRecorded
  | opened
  | answered
  | expired
  | cancelled
  | retried
  | finalizing
  | finalized (terminal : TaskState)
  | acknowledged
  | resumed
  | repaired
  deriving DecidableEq, Repr

/-- The state the event log stands for after a change, from the one it stood for before. -/
def Change.derived (change : Change) (derived : TaskState) : TaskState :=
  match change with
  | .attemptStarted => .preparing
  | .switched target => target
  | .dispatched _ => .running
  | .opened => .waitingApproval
  | .answered | .expired => .running
  | .cancelled => .cancelRequested
  | .finalizing => .finalizing
  | .finalized terminal => terminal
  | .reported | .sessionRecorded | .retried | .acknowledged | .resumed | .repaired => derived

/-- The changes of a task that exists. `consent` says which responses an interaction may be answered with. -/
inductive TaskStep (consent : InteractionRow → ResponseRow → Prop) (view : TaskView) : Change → TaskView → Prop where
  | attemptStarted (attempt : AttemptRow) (adapter : String) (payload : Json) (now : Int)
      (ready : view.row.state = .queued ∨ view.row.state = .retryWait)
      (generation : attempt.generation = view.row.generation) (phase : attempt.dispatchPhase = .preDispatch)
      (fresh : ∀ other ∈ view.attempts, other.generation ≠ view.row.generation)
      (live : attempt.state.isTerminal = false) :
      TaskStep consent view .attemptStarted
        ((view.attempted attempt adapter now).append view.row.generation "attempt_started" payload now)
  | switched (source target : TaskState) (phase : DispatchPhase) (now : Int)
      (pair : (source = .running ∧ target = .waitingApproval) ∨ (source = .waitingApproval ∧ target = .running))
      (current : view.row.state = source) (attempt : view.phase = some phase)
      (absent : phase.effectIsProvenAbsent = true) (approved : view.approved) :
      TaskStep consent view (.switched target)
        (((view.attemptsInState (fun attempt => attempt.state = source) target now).inState target now).append
          view.row.generation "state_changed" (stateEventPayload target) now)
  | dispatched (earlier phase : DispatchPhase) (receipt : Option String) (now : Int)
      (active : activeState view.row.state = true) (attempt : view.phase = some earlier)
      (advance : earlier.canAdvanceTo phase = true) :
      TaskStep consent view (.dispatched phase)
        ((view.advanced phase receipt now).append view.row.generation "dispatch_phase"
          (.object [("phase", .string phase.asStr)]) now)
  | reported (kind : String) (payload : Json) (now : Int) (known : kind ∈ adapterEventKinds)
      (accepts : Store.acceptsAdapterEvents view.row.state = true) :
      TaskStep consent view .reported (view.append view.row.generation kind payload now)
  | sessionRecorded (generation : Int) (session capability proof : String) (now : Int) :
      TaskStep consent view .sessionRecorded
        (view.setAttempts (fun attempt => attempt.taskId = view.row.taskId ∧ attempt.generation = generation ∧
            attempt.state = .running)
          (fun attempt => { attempt with
            providerSession := some session
            resumableCapabilityDigest := some capability
            resumeProofDigest := some proof
            updatedAt := now }))
  | opened (interaction : InteractionRow) (phase : DispatchPhase) (now : Int)
      (active : activeState view.row.state = true) (attempt : view.phase = some phase)
      (generation : interaction.generation = view.row.generation) (state : interaction.state = .pending)
      (fresh : ∀ entry ∈ view.interactions, entry.1.interactionId ≠ interaction.interactionId) :
      TaskStep consent view .opened
        ((view.waiting interaction now).append view.row.generation "interaction_requested"
          (.object [("interaction_id", .string interaction.interactionId)]) now)
  | answered (entry : InteractionRow × Option ResponseRow) (response : ResponseRow) (now : Int)
      (member : entry ∈ view.interactions) (pending : entry.1.state = .pending)
      (inTime : now < entry.1.expiresAt) (same : response.interactionId = entry.1.interactionId)
      (committed : response.committedAt = now) (given : consent entry.1 response) :
      TaskStep consent view .answered (view.answeredBy entry.1 response now)
  | expired (entry : InteractionRow × Option ResponseRow) (now : Int) (member : entry ∈ view.interactions)
      (pending : entry.1.state = .pending) (generation : entry.1.generation = view.row.generation)
      (due : entry.1.expiresAt ≤ now) (current : view.row.state = .waitingApproval) :
      TaskStep consent view .expired
        ((((view.expire entry.1.interactionId now).attemptsInState (fun _ => true) .finalizing now).inState
            .finalizing now).append
          view.row.generation "interaction_decided"
          (interactionDecidedPayload entry.1.interactionId "EXPIRED" none) now)
  | cancelled (now : Int) (allowed : view.row.state.allows .cancelRequested = true) :
      TaskStep consent view .cancelled
        ((((view.attemptsInState (fun attempt => attempt.state.isTerminal = false) .cancelRequested now).closed
            (fun _ => .cancelled) (fun _ => "CANCELLED") now).requestedCancel now).append
          view.row.generation "state_changed" (stateEventPayload .cancelRequested) now)
  | retried (phase : DispatchPhase) (payload : Json) (retryAt now : Int)
      (current : view.row.state = .preparing ∨ view.row.state = .retryWait) (attempt : view.phase = some phase)
      (absent : phase.effectIsProvenAbsent = true) :
      TaskStep consent view .retried
        (((view.attemptsEnded .retryWait now).postponed retryAt now).append (view.row.generation + 1)
          "retry_scheduled" payload now)
  | finalizing (now : Int) (allowed : view.row.state.allows .finalizing = true) :
      TaskStep consent view .finalizing
        ((view.inState .finalizing now).append view.row.generation "state_changed" (stateEventPayload .finalizing) now)
  | finalized (terminal : TaskState) (consumerId resultId ackToken resultDigest : String) (now : Int)
      (current : view.row.state = .finalizing) (isTerminal : terminal.isTerminal = true)
      (intent : view.row.cancelRequestedAt = none ∨ terminal = .cancelled) :
      TaskStep consent view (.finalized terminal)
        ((((view.attemptsEnded terminal now).closed (closedState now) (closedStatus now) now).terminated terminal
            consumerId resultId ackToken resultDigest now).append
          view.row.generation "terminal" (terminalPayload terminal resultId) now)
  | acknowledged (consumerId reviewId : String) (resultVersion now : Int)
      (open_ : ∀ entry ∈ view.outbox, entry.consumerId = consumerId → entry.resultVersion = resultVersion →
        entry.ackedAt = none) :
      TaskStep consent view .acknowledged
        { view with
          outbox := updateWhere (fun entry => entry.consumerId = consumerId ∧ entry.taskId = view.row.taskId ∧
              entry.resultVersion = resultVersion)
            (fun entry => { entry with ackedAt := some now, reviewId := some reviewId }) view.outbox }
  | resumed (now : Int)
      (current : view.row.state = .preparing ∨ view.row.state = .running ∨ view.row.state = .waitingApproval)
      (observed : view.phase = some .providerObserved) :
      TaskStep consent view .resumed
        (view.append view.row.generation "recovery_required" (.object [("action", .string "resume_session")]) now)
  | repaired (derived : TaskState) (now : Int)
      (derives : deriveProjection view.events = .ok (derived, view.row.generation, view.row.lastEventSeq))
      (live : view.row.state.isTerminal = false ∧ derived.isTerminal = false) :
      TaskStep consent view .repaired
        { view with
          row := { view.row with
            state := derived, projectionEventSeq := view.row.lastEventSeq, updatedAt := now } }

end AgentMesh.Task
