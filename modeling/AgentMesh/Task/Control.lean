import AgentMesh.Task.Step

/-! How the state of a task row, the state its events derive, its attempts and its pending interactions hang
together. Row and events may disagree, but only in the few ways `Agrees` lists. -/
namespace AgentMesh.Task
open Library Daemon TaskView List Json

/-- The states a task is in before any process of its attempt may exist. -/
def beforeProcess (state : TaskState) : Bool :=
  match state with
  | .queued | .preparing | .retryWait => true
  | _ => false

def interactive (state : TaskState) : Bool :=
  match state with
  | .waitingApproval | .running | .finalizing => true
  | _ => false

theorem not_interactive_of_terminal {state : TaskState} (terminal : state.isTerminal = true) :
    interactive state = false := by
  cases state <;> first | rfl | cases terminal

def cancelling (state : TaskState) : Bool :=
  match state with
  | .cancelRequested | .finalizing | .cancelled => true
  | _ => false

/-- The derived states a row state can stand next to, given the dispatch phase of the current attempt. -/
def Agrees (state derived : TaskState) (phase : Option DispatchPhase) : Prop :=
  match state with
  | .queued => derived = .queued ∧ phase = none
  | .preparing =>
    (derived = .preparing ∧ (phase = none ∨ phase = some .preDispatch)) ∨
      (derived = .running ∧ phase = some .spawnPrepared)
  | .running => derived = .running
  | .waitingApproval => derived = .waitingApproval ∧ phase ≠ none
  | .retryWait => (derived = .preparing ∨ derived = .running) ∧ phase = none
  | .finalizing => derived = .finalizing ∨ derived = .running
  | state => derived = state

/-- The invariant of a task's row, log, attempts and pending interactions. -/
structure Control (view : TaskView) (derived : TaskState) : Prop where
  derives : deriveProjection view.events = .ok (derived, view.row.generation, view.row.lastEventSeq)
  projected : view.row.projectionEventSeq = view.row.lastEventSeq
  retained : view.row.evictedThroughSeq = 0
  bounded : ∀ entry ∈ view.phases, entry.1 ≤ view.row.generation
  started : ∀ entry ∈ view.phases, entry.2.effectIsProvenAbsent = false →
    entry.1 = view.row.generation ∧ beforeProcess view.row.state = false ∧ beforeProcess derived = false
  agrees : Agrees view.row.state derived view.phase
  cancel : view.row.cancelRequestedAt.isSome = true →
    view.row.state = derived ∧ cancelling view.row.state = true ∧ view.pending = []
  requested : view.row.state = .cancelRequested → view.row.cancelRequestedAt.isSome = true
  pending : ∀ row ∈ view.pending, row.generation = view.row.generation ∧ interactive view.row.state = true ∧
    interactive derived = true

namespace TaskView

variable (view : TaskView) (generation now : Int) (kind : String)

/-- A batch of appends touches the log and the two sequence columns only. -/
@[simp]
theorem appendAll_frame (payloads : List Json) :
    let after := view.appendAll generation kind now payloads
    after.row.taskId = view.row.taskId ∧ after.row.state = view.row.state ∧ after.row.generation = view.row.generation ∧
      after.row.evictedThroughSeq = view.row.evictedThroughSeq ∧
      after.row.cancelRequestedAt = view.row.cancelRequestedAt ∧
      after.row.terminalEventSeq = view.row.terminalEventSeq ∧ after.attempts = view.attempts ∧
      after.interactions = view.interactions ∧ after.results = view.results ∧ after.outbox = view.outbox := by
  induction payloads generalizing view with
  | nil => simp [appendAll]
  | cons payload payloads ih => simpa [appendAll, append] using ih (view.append generation kind payload now)

/-- Appending one event moves the derived projection by that event. -/
theorem derives_append {payload : Json} {derived next : TaskState} {older : Int}
    (derives : deriveProjection view.events = .ok (derived, older, view.row.lastEventSeq))
    (projects : projectState derived (view.nextEvent generation kind payload now) = .ok next) :
    deriveProjection (view.append generation kind payload now).events =
      .ok (next, generation, (view.append generation kind payload now).row.lastEventSeq) :=
  deriveProjection_append view.events _ derived older _ derives next rfl projects

theorem derives_appendAll_decided (payloads : List Json) {derived : TaskState}
    (derives : deriveProjection view.events = .ok (derived, generation, view.row.lastEventSeq)) :
    ∃ next, deriveProjection (view.appendAll generation "interaction_decided" now payloads).events =
      .ok (next, generation, (view.appendAll generation "interaction_decided" now payloads).row.lastEventSeq) := by
  induction payloads generalizing view derived with
  | nil => exact ⟨derived, derives⟩
  | cons payload payloads ih =>
    exact ih (view.append generation "interaction_decided" payload now)
      (derives_append view generation now "interaction_decided" derives rfl)

variable (payload : Json)

@[simp] theorem append_phases : (view.append generation kind payload now).phases = view.phases := rfl
@[simp] theorem append_phase : (view.append generation kind payload now).phase = view.phase := rfl
@[simp] theorem append_pending : (view.append generation kind payload now).pending = view.pending := rfl

theorem setAttempts_phases (selects : AttemptRow → Bool) (change : AttemptRow → AttemptRow)
    (keeps : ∀ attempt, ((change attempt).generation, (change attempt).dispatchPhase) =
      (attempt.generation, attempt.dispatchPhase)) :
    (view.setAttempts selects change).phases = view.phases :=
  map_updateWhere _ selects change keeps view.attempts

@[simp]
theorem attemptsInState_phases (selects : AttemptRow → Bool) (state : TaskState) :
    (view.attemptsInState selects state now).phases = view.phases :=
  view.setAttempts_phases _ _ fun _ => rfl

@[simp]
theorem attemptsEnded_phases (state : TaskState) : (view.attemptsEnded state now).phases = view.phases :=
  view.setAttempts_phases _ _ fun _ => rfl

@[simp]
theorem released_phases : (view.released generation now).phases = view.phases := by
  apply map_updateWhere (fun attempt : AttemptRow => (attempt.generation, attempt.dispatchPhase))
  intro attempt
  rfl

@[simp]
theorem waiting_phases (interaction : InteractionRow) : (view.waiting interaction now).phases = view.phases := by
  apply map_updateWhere (fun attempt : AttemptRow => (attempt.generation, attempt.dispatchPhase))
  intro attempt
  rfl

theorem WellFormed.setAttempts {view : TaskView} (formed : view.WellFormed) (selects : AttemptRow → Bool)
    (change : AttemptRow → AttemptRow)
    (keeps : ∀ attempt, ((change attempt).taskId, (change attempt).generation) =
      (attempt.taskId, attempt.generation)) : (view.setAttempts selects change).WellFormed where
  attempts := by
    intro attempt member
    obtain ⟨old, stored, rfl⟩ := mem_updateWhere.mp member
    have own := formed.attempts old stored
    split
    · exact (congrArg Prod.fst (keeps old)).trans own
    · exact own
  interactions := formed.interactions
  generations := by
    have same := map_updateWhere AttemptRow.generation selects change
      (fun attempt => congrArg Prod.snd (keeps attempt)) view.attempts
    change ((updateWhere selects change view.attempts).map AttemptRow.generation).Nodup
    rw [same]
    exact formed.generations
  interactionIds := formed.interactionIds

theorem mem_pending (row : InteractionRow) :
    row ∈ view.pending ↔ row.state = .pending ∧ ∃ response, (row, response) ∈ view.interactions := by
  simp [pending, and_comm]

/-- Closing a view leaves nothing pending when every pending interaction is of the current generation. -/
theorem decideAll_pending (decision : InteractionRow → InteractionState) (decides : ∀ row, decision row ≠ .pending)
    (own : ∀ entry ∈ view.interactions, entry.1.taskId = view.row.taskId)
    (current : ∀ row ∈ view.pending, row.generation = view.row.generation) :
    (view.decideAll decision now).pending = [] := by
  apply filter_eq_nil_iff.mpr
  intro row member
  obtain ⟨entry, changed, rfl⟩ := mem_map.mp member
  obtain ⟨old, stored, rfl⟩ := mem_updateWhere.mp changed
  by_cases waits : old.1.state = .pending
  · have generation := current old.1 ((view.mem_pending old.1).mpr ⟨waits, old.2, stored⟩)
    simp [own old stored, generation, waits, decides]
  · simp [waits]

/-- Interactions that are changed and decided leave no other pending. -/
theorem decided_pending_subset (selects : InteractionRow × Option ResponseRow → Bool)
    (change : InteractionRow × Option ResponseRow → InteractionRow × Option ResponseRow)
    (decides : ∀ entry, (change entry).1.state ≠ .pending) :
    ∀ row ∈ ({ view with interactions := updateWhere selects change view.interactions } : TaskView).pending,
      row ∈ view.pending := by
  intro row member
  obtain ⟨waits, answer, stored⟩ := (mem_pending _ row).mp member
  obtain ⟨old, before, same⟩ := mem_updateWhere.mp stored
  split at same
  · exact absurd ((congrArg (fun entry => entry.1.state) same).trans waits) (decides old)
  · rw [same] at before
    exact (mem_pending _ row).mpr ⟨waits, answer, before⟩

theorem waiting_pending (interaction : InteractionRow) (waits : interaction.state = .pending) :
    (view.waiting interaction now).pending = view.pending ++ [interaction] := by
  simp [pending, waiting, waits]

theorem advanced_phases (phase : DispatchPhase) (receipt : Option String)
    (own : ∀ attempt ∈ view.attempts, attempt.taskId = view.row.taskId) :
    (view.advanced phase receipt now).phases =
      updateWhere (fun entry => entry.1 = view.row.generation) (fun entry => (entry.1, phase)) view.phases := by
  simp only [phases, advanced, updateWhere, map_map]
  apply map_congr_left
  intro attempt member
  by_cases current : attempt.generation = view.row.generation <;> simp [own attempt member, current]

theorem released_state : (view.released generation now).row.state =
      if view.row.generation = generation ∧ view.row.state = .waitingApproval then .running else view.row.state := by
  unfold released
  dsimp only
  split <;> rfl

theorem released_row : (view.released generation now).row.generation = view.row.generation ∧
      (view.released generation now).row.lastEventSeq = view.row.lastEventSeq ∧
      (view.released generation now).row.evictedThroughSeq = view.row.evictedThroughSeq ∧
      (view.released generation now).row.cancelRequestedAt = view.row.cancelRequestedAt := by
  unfold released
  dsimp only
  split <;> simp

@[simp]
theorem closed_frame (decision : InteractionRow → InteractionState) (status : InteractionRow → String) :
    (view.closed decision status now).row.taskId = view.row.taskId ∧
      (view.closed decision status now).row.state = view.row.state ∧
      (view.closed decision status now).row.generation = view.row.generation ∧
      (view.closed decision status now).row.evictedThroughSeq = view.row.evictedThroughSeq ∧
      (view.closed decision status now).row.cancelRequestedAt = view.row.cancelRequestedAt ∧
      (view.closed decision status now).attempts = view.attempts ∧
      (view.closed decision status now).interactions = (view.decideAll decision now).interactions ∧
      (view.closed decision status now).results = view.results ∧
      (view.closed decision status now).outbox = view.outbox := by
  have frame := appendAll_frame (view.decideAll decision now) view.row.generation now "interaction_decided"
    ((view.pendingAt view.row.generation).map fun row =>
      interactionDecidedPayload row.interactionId (status row) none)
  exact ⟨frame.1, frame.2.1, frame.2.2.1, frame.2.2.2.1, frame.2.2.2.2.1, frame.2.2.2.2.2.2.1,
    frame.2.2.2.2.2.2.2.1, frame.2.2.2.2.2.2.2.2.1, frame.2.2.2.2.2.2.2.2.2⟩

end TaskView

namespace Control

variable {view : TaskView} {derived : TaskState}

/-- A state event makes the log derive the state it carries. -/
theorem projectState_state (earlier state : TaskState) (generation now : Int) :
    projectState earlier (view.nextEvent generation "state_changed" (stateEventPayload state) now) = .ok state := by
  simp [projectState, nextEvent, stateEventPayload, str?, get?, asStr?]

/-- A started attempt belongs to the current generation of a task that is past its preparation. -/
theorem preDispatch_of_beforeProcess (control : Control view derived)
    (early : beforeProcess view.row.state = true ∨ beforeProcess derived = true) :
    ∀ entry ∈ view.phases, entry.2.effectIsProvenAbsent = true := by
  intro entry member
  by_contra observed
  obtain ⟨_, row, log⟩ := control.started entry member (by simpa using observed)
  simp [row, log] at early

theorem no_pending_of_not_interactive (control : Control view derived)
    (quiet : interactive view.row.state = false ∨ interactive derived = false) : view.pending = [] := by
  apply eq_nil_iff_forall_not_mem.mpr
  intro row member
  obtain ⟨_, state, log⟩ := control.pending row member
  simp [state, log] at quiet

theorem not_cancelled_of_not_cancelling (control : Control view derived)
    (live : cancelling view.row.state = false) : view.row.cancelRequestedAt = none := by
  by_contra requested
  have isSome : view.row.cancelRequestedAt.isSome = true := Option.isSome_iff_ne_none.mpr requested
  simp [(control.cancel isSome).2.1] at live

theorem not_cancelled_of_active (control : Control view derived) (active : activeState view.row.state = true) :
    view.row.cancelRequestedAt = none := by
  refine control.not_cancelled_of_not_cancelling ?_
  cases state : view.row.state <;> simp_all [activeState, cancelling]

theorem phase_mem {phase : DispatchPhase} (current : view.phase = some phase) :
    (view.row.generation, phase) ∈ view.phases := by
  obtain ⟨entry, found, rfl⟩ := Option.map_eq_some_iff.mp current
  have generation : entry.1 = view.row.generation := by simpa using find?_some found
  rw [← generation]
  exact mem_of_find?_eq_some found

section

variable (control : Control view derived)

include control

theorem update {after : TaskView} {next : TaskState}
    (derives : deriveProjection after.events = .ok (next, after.row.generation, after.row.lastEventSeq))
    (frame : after.row.projectionEventSeq = after.row.lastEventSeq ∧ after.row.evictedThroughSeq =
      view.row.evictedThroughSeq ∧ after.row.generation = view.row.generation ∧ after.phases = view.phases)
    (agrees : Agrees after.row.state next view.phase)
    (begun : beforeProcess after.row.state = true ∨ beforeProcess next = true → beforeProcess view.row.state = true ∨
      beforeProcess derived = true)
    (cancel : after.row.cancelRequestedAt.isSome = true → after.row.state = next ∧ cancelling after.row.state = true ∧
      after.pending = []) (requested : after.row.state = .cancelRequested → after.row.cancelRequestedAt.isSome = true)
    (pending : ∀ row ∈ after.pending, row.generation = view.row.generation ∧ interactive after.row.state = true ∧
      interactive next = true) : Control after next := by
  obtain ⟨projected, retained, generation, phases⟩ := frame
  constructor
  case derives => exact derives
  case projected => exact projected
  case retained => exact retained.trans control.retained
  case bounded =>
    rw [phases, generation]
    exact control.bounded
  case started =>
    rw [phases, generation]
    intro entry member observed
    obtain ⟨current, row, log⟩ := control.started entry member observed
    have late : ¬(beforeProcess after.row.state = true ∨ beforeProcess next = true) := by
      intro early
      simpa [row, log] using begun early
    simpa [current] using late
  case agrees =>
    unfold phase
    rw [phases, generation]
    exact agrees
  case cancel => exact cancel
  case requested => exact requested
  case pending =>
    rw [generation]
    exact pending

/-- A task that has no process yet gets another attempt or generation. -/
theorem restart {after : TaskView} {next : TaskState}
    (current : view.row.state = .queued ∨ view.row.state = .preparing ∨ view.row.state = .retryWait)
    (derives : deriveProjection after.events = .ok (next, after.row.generation, after.row.lastEventSeq))
    (frame : after.row.projectionEventSeq = after.row.lastEventSeq ∧ after.row.evictedThroughSeq =
      view.row.evictedThroughSeq ∧ view.row.generation ≤ after.row.generation ∧ after.row.cancelRequestedAt =
      view.row.cancelRequestedAt ∧ after.pending = view.pending)
    (phases : ∀ entry ∈ after.phases, entry ∈ view.phases ∨ entry = (after.row.generation, .preDispatch))
    (agrees : Agrees after.row.state next after.phase) (live : after.row.state ≠ .cancelRequested) :
    Control after next := by
  obtain ⟨early, quiet, calm⟩ : beforeProcess view.row.state = true ∧ interactive view.row.state = false ∧
      cancelling view.row.state = false := by
    rcases current with state | state | state <;> rw [state] <;> decide
  have absent := control.preDispatch_of_beforeProcess (.inl early)
  have settled := control.no_pending_of_not_interactive (.inl quiet)
  have open_ := control.not_cancelled_of_not_cancelling calm
  obtain ⟨projected, retained, later, same, pending⟩ := frame
  constructor
  case derives => exact derives
  case projected => exact projected
  case retained => exact retained.trans control.retained
  case bounded =>
    intro entry member
    rcases phases entry member with member | rfl
    · exact (control.bounded entry member).trans later
    · exact le_refl _
  case started =>
    intro entry member observed
    rcases phases entry member with member | rfl
    · rw [absent entry member] at observed
      cases observed
    · cases observed
  case agrees => exact agrees
  case cancel => simp [same, open_]
  case requested => exact fun state => absurd state live
  case pending => simp [pending, settled]

theorem attemptStarted {attempt : AttemptRow} {adapter : String} {payload : Json} {now : Int}
    (ready : view.row.state = .queued ∨ view.row.state = .retryWait)
    (generation : attempt.generation = view.row.generation) (phase : attempt.dispatchPhase = .preDispatch)
    (fresh : ∀ other ∈ view.attempts, other.generation ≠ view.row.generation) :
    Control ((view.attempted attempt adapter now).append view.row.generation "attempt_started" payload now)
      .preparing := by
  have phases : ((view.attempted attempt adapter now).append view.row.generation "attempt_started" payload now).phases =
      view.phases ++ [(view.row.generation, .preDispatch)] := by
    simp [phases, attempted, append, generation, phase]
  have missing : view.phases.find? (fun entry => entry.1 = view.row.generation) = none := by
    apply find?_eq_none.mpr
    intro entry member
    obtain ⟨other, stored, rfl⟩ := mem_map.mp member
    simpa using fresh other stored
  have current : ((view.attempted attempt adapter now).append view.row.generation "attempt_started" payload
      now).phase = some .preDispatch := by
    unfold TaskView.phase
    rw [phases, find?_append]
    change ((view.phases.find? fun entry => entry.1 = view.row.generation).or _).map Prod.snd = _
    rw [missing]
    simp [attempted, append]
  refine control.restart (ready.imp_right .inr) (derives_append _ _ _ _ control.derives rfl)
    ⟨rfl, rfl, le_refl _, rfl, rfl⟩ (fun entry member => ?_) (.inl ⟨rfl, .inr current⟩) nofun
  rwa [phases, mem_append, mem_singleton] at member

theorem switched {source target : TaskState} {now : Int}
    (pair : (source = .running ∧ target = .waitingApproval) ∨ (source = .waitingApproval ∧ target = .running))
    (current : view.row.state = source) {phase : DispatchPhase} (attempt : view.phase = some phase) :
    Control (((view.attemptsInState (fun attempt => attempt.state = source) target now).inState target now).append
      view.row.generation "state_changed" (stateEventPayload target) now) target := by
  have busy : interactive target = true ∧ beforeProcess target = false ∧ target ≠ .cancelRequested ∧
      cancelling source = false := by
    rcases pair with ⟨rfl, rfl⟩ | ⟨rfl, rfl⟩ <;> decide
  have open_ := control.not_cancelled_of_not_cancelling (current ▸ busy.2.2.2)
  apply control.update
  case derives => exact derives_append _ _ _ _ control.derives (projectState_state _ _ _ _)
  case frame => exact ⟨rfl, rfl, rfl, view.attemptsInState_phases now _ target⟩
  case agrees =>
    rcases pair with ⟨rfl, rfl⟩ | ⟨rfl, rfl⟩
    · exact ⟨rfl, by simp [attempt]⟩
    · exact rfl
  case begun => simp [append, inState, busy]
  case cancel => simp [append, inState, attemptsInState, setAttempts, open_]
  case requested => simp [append, inState, busy]
  case pending =>
    intro row member
    exact ⟨(control.pending row member).1, busy.1, busy.1⟩

/-- An event that leaves the derived state alone. -/
theorem appended {kind : String} {payload : Json} {now : Int}
    (silent : projectState derived (view.nextEvent view.row.generation kind payload now) = .ok derived) :
    Control (view.append view.row.generation kind payload now) derived := by
  apply control.update
  case derives => exact derives_append _ _ _ _ control.derives silent
  case frame => exact ⟨rfl, rfl, rfl, rfl⟩
  case agrees => exact control.agrees
  case begun => exact id
  case cancel => exact control.cancel
  case requested => exact control.requested
  case pending => exact control.pending

theorem reported {kind : String} {payload : Json} {now : Int} (known : kind ∈ adapterEventKinds) :
    Control (view.append view.row.generation kind payload now) derived := by
  apply control.appended
  simp only [adapterEventKinds, mem_cons, not_mem_nil, or_false] at known
  rcases known with rfl | rfl | rfl | rfl | rfl <;> rfl

theorem unread {after : TaskView} (row : after.row = view.row) (events : after.events = view.events)
    (phases : after.phases = view.phases) (interactions : after.interactions = view.interactions) :
    Control after derived := by
  have pending : after.pending = view.pending := by simp only [TaskView.pending, interactions]
  apply control.update
  case derives => rw [row, events]; exact control.derives
  case frame => exact ⟨by rw [row]; exact control.projected, by rw [row], by rw [row], phases⟩
  case agrees => rw [row]; exact control.agrees
  case begun => rw [row]; exact id
  case cancel => rw [row, pending]; exact control.cancel
  case requested => rw [row]; exact control.requested
  case pending => rw [row, pending]; exact control.pending

end

theorem advanced_phase {phase earlier : DispatchPhase} {receipt : Option String} {now : Int}
    (own : ∀ attempt ∈ view.attempts, attempt.taskId = view.row.taskId) (attempt : view.phase = some earlier) :
    ((view.advanced phase receipt now).phases.find? fun entry => entry.1 = view.row.generation).map Prod.snd =
      some phase := by
  obtain ⟨entry, found, _⟩ := Option.map_eq_some_iff.mp attempt
  have generation : entry.1 = view.row.generation := by simpa using find?_some found
  rw [view.advanced_phases now phase receipt own,
    find_updateWhere _ _ (fun entry => (entry.1, phase)) (fun _ => rfl), found]
  simp [generation]

section

variable (control : Control view derived)

include control

theorem dispatched (formed : view.WellFormed) {earlier phase : DispatchPhase} {receipt : Option String} {payload : Json}
    {now : Int} (active : activeState view.row.state = true) (attempt : view.phase = some earlier)
    (advance : earlier.canAdvanceTo phase = true) :
    Control ((view.advanced phase receipt now).append view.row.generation "dispatch_phase" payload now) .running := by
  have states : view.row.state = .preparing ∨ view.row.state = .running := by simpa [activeState] using active
  have open_ := control.not_cancelled_of_active active
  have row : (view.advanced phase receipt now).row.generation = view.row.generation ∧
      (view.advanced phase receipt now).row.lastEventSeq = view.row.lastEventSeq ∧
      (view.advanced phase receipt now).row.evictedThroughSeq = view.row.evictedThroughSeq ∧
      (view.advanced phase receipt now).row.cancelRequestedAt = view.row.cancelRequestedAt := by
    unfold advanced
    dsimp only
    split <;> simp
  have state : (view.advanced phase receipt now).row.state =
      if phase = .spawnPrepared then view.row.state else .running := by
    have later : phase ≠ .preDispatch := by
      rintro rfl
      cases earlier <;> cases advance
    unfold advanced
    rcases states with state | state <;> cases phase <;> simp_all
  constructor
  case derives =>
    have logged : deriveProjection (view.advanced phase receipt now).events =
        .ok (derived, view.row.generation, (view.advanced phase receipt now).row.lastEventSeq) := by
      rw [row.2.1]
      exact control.derives
    rw [derives_append _ _ _ _ logged rfl]
    simp [append, row]
  case projected => rfl
  case retained => exact row.2.2.1.trans control.retained
  case bounded =>
    intro entry member
    rw [append_phases, view.advanced_phases now phase receipt formed.attempts] at member
    obtain ⟨old, stored, rfl⟩ := mem_updateWhere.mp member
    have bound := control.bounded old stored
    simp only [append, row.1]
    split <;> exact bound
  case started =>
    intro entry member observed
    rw [append_phases, view.advanced_phases now phase receipt formed.attempts] at member
    obtain ⟨old, stored, rfl⟩ := mem_updateWhere.mp member
    simp only [append, row.1, state]
    by_cases current : old.1 = view.row.generation
    · simp only [current, decide_true, if_true] at observed ⊢
      have notPrepared : phase ≠ .spawnPrepared := by
        rintro rfl
        cases observed
      simp [notPrepared, beforeProcess]
    · simp only [current, decide_false, Bool.false_eq_true, if_false] at observed ⊢
      exact absurd (control.started old stored observed).1 current
  case agrees =>
    have current : ((view.advanced phase receipt now).append view.row.generation "dispatch_phase" payload now).phase =
        some phase := by
      unfold TaskView.phase
      simp only [append, row.1]
      exact advanced_phase formed.attempts attempt
    rw [current]
    simp only [append, state]
    by_cases prepared : phase = .spawnPrepared
    · rw [if_pos prepared]
      rcases states with state | state <;> simp [state, Agrees, prepared]
    · simp [prepared, Agrees]
  case cancel =>
    intro requested
    simp [append, row, open_] at requested
  case requested =>
    intro requested
    simp only [append, state] at requested
    split at requested
    · rcases states with state | state <;> simp [state] at requested
    · cases requested
  case pending =>
    intro waiting member
    have before := control.pending waiting member
    refine ⟨before.1.trans row.1.symm, ?_, rfl⟩
    simp only [append, state]
    split
    · exact before.2.1
    · rfl

theorem opened {interaction : InteractionRow} {phase : DispatchPhase} {payload : Json} {now : Int}
    (active : activeState view.row.state = true) (attempt : view.phase = some phase)
    (generation : interaction.generation = view.row.generation) (state : interaction.state = .pending) :
    Control ((view.waiting interaction now).append view.row.generation "interaction_requested" payload now)
      .waitingApproval := by
  have open_ := control.not_cancelled_of_active active
  apply control.update
  case derives => exact derives_append _ _ _ _ control.derives rfl
  case frame => exact ⟨rfl, rfl, rfl, view.waiting_phases now interaction⟩
  case agrees => exact ⟨rfl, by simp [attempt]⟩
  case begun => simp [append, waiting, beforeProcess]
  case cancel => simp [append, waiting, open_]
  case requested => simp [append, waiting]
  case pending =>
    intro row member
    rw [append_pending, view.waiting_pending now interaction state, mem_append, mem_singleton] at member
    rcases member with member | rfl
    · exact ⟨(control.pending row member).1, rfl, rfl⟩
    · exact ⟨generation, rfl, rfl⟩

theorem answered {entry : InteractionRow × Option ResponseRow} {response : ResponseRow} {payload : Json} {now : Int}
    (member : entry ∈ view.interactions) (pending : entry.1.state = .pending) :
    Control (((view.released entry.1.generation now).answer response now).append entry.1.generation
      "interaction_decided" payload now) .running := by
  have waits : entry.1 ∈ view.pending := (view.mem_pending entry.1).mpr ⟨pending, entry.2, member⟩
  obtain ⟨generation, busy, _⟩ := control.pending entry.1 waits
  rw [generation]
  have row := view.released_row view.row.generation now
  have state := view.released_state view.row.generation now
  -- A task with a pending interaction runs, waits or finalizes; after the answer it runs or finalizes.
  have next : (view.released view.row.generation now).row.state = .running ∨
      (view.released view.row.generation now).row.state = .finalizing := by
    rw [state]
    cases current : view.row.state <;> simp_all [interactive]
  have open_ : view.row.cancelRequestedAt = none := by
    by_contra requested
    have closed := (control.cancel (Option.isSome_iff_ne_none.mpr requested)).2.2
    rw [closed] at waits
    cases waits
  apply control.update
  case derives =>
    have logged : deriveProjection ((view.released view.row.generation now).answer response now).events =
        .ok (derived, view.row.generation,
          ((view.released view.row.generation now).answer response now).row.lastEventSeq) := by
      simp only [answer, row]
      exact control.derives
    rw [derives_append _ _ _ _ logged rfl]
    simp [append, answer, row]
  case frame => exact ⟨rfl, row.2.2.1, row.1, view.released_phases view.row.generation now⟩
  case agrees =>
    change Agrees (view.released view.row.generation now).row.state _ _
    rcases next with next | next <;> simp [next, Agrees]
  case begun =>
    change beforeProcess (view.released view.row.generation now).row.state = true ∨ _ → _
    rcases next with next | next <;> simp [next, beforeProcess]
  case cancel => simp [append, answer, row, open_]
  case requested =>
    change (view.released view.row.generation now).row.state = _ → _
    rcases next with next | next <;> simp [next]
  case pending =>
    intro other still
    have before := decided_pending_subset (view.released view.row.generation now) _ _ (fun _ => by simp) other still
    refine ⟨(control.pending other before).1, ?_, rfl⟩
    change interactive (view.released view.row.generation now).row.state = true
    rcases next with next | next <;> simp [next, interactive]

theorem expired {interactionId : String} {payload : Json} {now : Int} (current : view.row.state = .waitingApproval) :
    Control ((((view.expire interactionId now).attemptsInState (fun _ => true) .finalizing now).inState
      .finalizing now).append view.row.generation "interaction_decided" payload now) .running := by
  have open_ := control.not_cancelled_of_not_cancelling (by rw [current]; rfl)
  apply control.update
  case derives => exact derives_append _ _ _ _ control.derives rfl
  case frame => exact ⟨rfl, rfl, rfl, attemptsInState_phases _ now _ _⟩
  case agrees => exact .inr rfl
  case begun => simp [append, inState, beforeProcess]
  case cancel =>
    simp [append, inState, attemptsInState, setAttempts, expire, setInteractions, open_]
  case requested => simp [append, inState]
  case pending =>
    intro row member
    have before := view.decided_pending_subset _ _ (fun _ => by simp) row member
    exact ⟨(control.pending row before).1, rfl, rfl⟩

theorem retried {phase : DispatchPhase} {payload : Json} {retryAt now : Int}
    (current : view.row.state = .preparing ∨ view.row.state = .retryWait) (attempt : view.phase = some phase) :
    Control (((view.attemptsEnded .retryWait now).postponed retryAt now).append (view.row.generation + 1)
      "retry_scheduled" payload now) derived := by
  have phases : (((view.attemptsEnded .retryWait now).postponed retryAt now).append (view.row.generation + 1)
      "retry_scheduled" payload now).phases = view.phases := view.attemptsEnded_phases now .retryWait
  refine control.restart (.inr current) (derives_append _ _ _ _ control.derives rfl)
    ⟨rfl, rfl, (lt_add_one _).le, rfl, rfl⟩ (fun entry member => .inl (phases ▸ member)) ?_ nofun
  have none : (((view.attemptsEnded .retryWait now).postponed retryAt now).append (view.row.generation + 1)
      "retry_scheduled" payload now).phase = Option.none := by
    unfold TaskView.phase
    rw [phases, Option.map_eq_none_iff, find?_eq_none]
    intro entry member
    have bound := control.bounded entry member
    have later : entry.1 ≠ view.row.generation + 1 := by omega
    simpa [append, postponed, attemptsEnded, setAttempts] using later
  rw [none]
  refine ⟨?_, rfl⟩
  have agrees := control.agrees
  rcases current with state | state
  · simp only [state, Agrees] at agrees
    rcases agrees with ⟨log, _⟩ | ⟨log, _⟩ <;> simp [log]
  · simp [state, Agrees, attempt] at agrees

/-- The log of a view whose pending interactions were decided, and what the decision leaves alone. -/
theorem closed_derives (decision : InteractionRow → InteractionState) (status : InteractionRow → String) (now : Int) :
    ∃ next, deriveProjection (view.closed decision status now).events =
      .ok (next, view.row.generation, (view.closed decision status now).row.lastEventSeq) :=
  derives_appendAll_decided (view.decideAll decision now) view.row.generation now _ control.derives

theorem closed_pending (formed : view.WellFormed) (decision : InteractionRow → InteractionState)
    (decides : ∀ row, decision row ≠ .pending) (status : InteractionRow → String) (now : Int) :
    (view.closed decision status now).pending = [] := by
  have decided := view.decideAll_pending now decision decides formed.interactions
    fun row member => (control.pending row member).1
  unfold TaskView.pending at decided ⊢
  rw [(view.closed_frame now decision status).2.2.2.2.2.2.1]
  exact decided

theorem closing (formed : view.WellFormed) {decision : InteractionRow → InteractionState}
    (decides : ∀ row, decision row ≠ .pending) (status : InteractionRow → String) (now : Int) (marked : TaskView)
    {kind : String} {payload : Json} {next : TaskState}
    (events : marked.events = (view.closed decision status now).events) (attempts : marked.attempts = view.attempts)
    (interactions : marked.interactions = (view.closed decision status now).interactions)
    (seq : marked.row.lastEventSeq = (view.closed decision status now).row.lastEventSeq)
    (generation : marked.row.generation = view.row.generation)
    (retained : marked.row.evictedThroughSeq = view.row.evictedThroughSeq) (state : marked.row.state = next)
    (projects : ∀ earlier, projectState earlier (marked.nextEvent view.row.generation kind payload now) = .ok next)
    (agrees : Agrees next next view.phase) (late : beforeProcess next = false)
    (cancel : marked.row.cancelRequestedAt.isSome = true → cancelling next = true)
    (requested : next = .cancelRequested → marked.row.cancelRequestedAt.isSome = true) :
    Control (marked.append view.row.generation kind payload now) next := by
  have settled : (marked.append view.row.generation kind payload now).pending = [] := by
    have closed := control.closed_pending formed decision decides status now
    unfold TaskView.pending at closed ⊢
    simp only [append, interactions]
    exact closed
  obtain ⟨middle, derives⟩ := control.closed_derives decision status now
  apply control.update
  case derives =>
    rw [← events, ← seq] at derives
    rw [derives_append marked view.row.generation now kind derives (projects middle)]
    simp [append, generation]
  case frame => exact ⟨rfl, retained, generation, by simp only [phases, append, attempts]⟩
  case agrees =>
    simp only [append, state]
    exact agrees
  case begun => simp [append, state, late]
  case cancel =>
    intro isSome
    exact ⟨state, by simpa [append, state] using cancel isSome, settled⟩
  case requested => simpa [append, state] using requested
  case pending =>
    rw [settled]
    simp

theorem cancelled (formed : view.WellFormed) {now : Int} :
    Control ((((view.attemptsInState (fun attempt => attempt.state.isTerminal = false) .cancelRequested now).closed
        (fun _ => .cancelled) (fun _ => "CANCELLED") now).requestedCancel now).append
      view.row.generation "state_changed" (stateEventPayload .cancelRequested) now) .cancelRequested := by
  set stopped := view.attemptsInState (fun attempt => attempt.state.isTerminal = false) .cancelRequested now
  have stoppedControl : Control stopped derived :=
    control.unread rfl rfl (view.attemptsInState_phases now _ _) rfl
  have stoppedFormed : stopped.WellFormed := formed.setAttempts _ _ (fun _ => rfl)
  have frame := stopped.closed_frame now (fun _ => .cancelled) fun _ => "CANCELLED"
  have decides : ∀ _ : InteractionRow, InteractionState.cancelled ≠ .pending := by simp
  apply stoppedControl.closing stoppedFormed decides (fun _ => "CANCELLED") now
    ((stopped.closed (fun _ => .cancelled) (fun _ => "CANCELLED") now).requestedCancel now)
  case events => rfl
  case attempts => exact frame.2.2.2.2.2.1
  case interactions => rfl
  case seq => rfl
  case generation => exact frame.2.2.1
  case retained => exact frame.2.2.2.1
  case state => rfl
  case projects => exact fun earlier => projectState_state earlier _ _ _
  case agrees => exact rfl
  case late => rfl
  case cancel => exact fun _ => rfl
  case requested => exact fun _ => rfl

end

theorem projectState_terminal (earlier terminal : TaskState) (resultId : String) (generation now : Int) :
    projectState earlier (view.nextEvent generation "terminal" (terminalPayload terminal resultId) now) =
      .ok terminal := by
  simp [projectState, nextEvent, terminalPayload, str?, get?, asStr?]

section

variable (control : Control view derived)

include control

theorem finalized (formed : view.WellFormed) {terminal : TaskState} {consumerId resultId ackToken resultDigest : String}
    {now : Int} (isTerminal : terminal.isTerminal = true)
    (intent : view.row.cancelRequestedAt = none ∨ terminal = .cancelled) :
    Control ((((view.attemptsEnded terminal now).closed (closedState now) (closedStatus now) now).terminated terminal
        consumerId resultId ackToken resultDigest now).append
      view.row.generation "terminal" (terminalPayload terminal resultId) now) terminal := by
  set ended := view.attemptsEnded terminal now
  have endedControl : Control ended derived := control.unread rfl rfl (view.attemptsEnded_phases now _) rfl
  have endedFormed : ended.WellFormed := formed.setAttempts _ _ (fun _ => rfl)
  have frame := ended.closed_frame now (closedState now) (closedStatus now)
  have decides : ∀ row, closedState now row ≠ .pending := by
    intro row
    unfold closedState
    split <;> simp
  apply endedControl.closing endedFormed decides (closedStatus now) now
    ((ended.closed (closedState now) (closedStatus now) now).terminated terminal consumerId resultId ackToken
      resultDigest now)
  case events => rfl
  case attempts => exact frame.2.2.2.2.2.1
  case interactions => rfl
  case seq => rfl
  case generation => exact frame.2.2.1
  case retained => exact frame.2.2.2.1
  case state => rfl
  case projects => exact fun earlier => projectState_terminal earlier _ _ _ _
  case agrees => cases terminal <;> first | rfl | cases isTerminal
  case late => cases terminal <;> first | rfl | cases isTerminal
  case cancel =>
    intro requested
    rcases intent with open_ | rfl
    · change (ended.closed (closedState now) (closedStatus now) now).row.cancelRequestedAt.isSome = true at requested
      rw [frame.2.2.2.2.1] at requested
      change view.row.cancelRequestedAt.isSome = true at requested
      simp [open_] at requested
    · rfl
  case requested =>
    rintro rfl
    cases isTerminal

theorem finalizing {now : Int} : Control ((view.inState .finalizing now).append view.row.generation "state_changed"
      (stateEventPayload .finalizing) now) .finalizing := by
  apply control.update
  case derives => exact derives_append _ _ _ _ control.derives (projectState_state _ _ _ _)
  case frame => exact ⟨rfl, rfl, rfl, rfl⟩
  case agrees => exact .inl rfl
  case begun => simp [append, inState, beforeProcess]
  case cancel =>
    intro requested
    exact ⟨rfl, rfl, (control.cancel requested).2.2⟩
  case requested => simp [append, inState]
  case pending =>
    intro row member
    exact ⟨(control.pending row member).1, rfl, rfl⟩

theorem repaired {now : Int} (live : derived.isTerminal = false) : Control { view with
      row := { view.row with state := derived, projectionEventSeq := view.row.lastEventSeq, updatedAt := now } }
      derived := by
  have agrees := control.agrees
  apply control.update
  case derives => exact control.derives
  case frame => exact ⟨rfl, rfl, rfl, rfl⟩
  case agrees =>
    cases state : view.row.state <;> simp_all [Agrees]
    all_goals rcases agrees with ⟨log, _⟩ | ⟨log, _⟩ <;> simp_all
  case begun => exact fun early => .inr (by simpa using early)
  case cancel =>
    intro requested
    obtain ⟨same, intent, settled⟩ := control.cancel requested
    exact ⟨rfl, by rw [← same]; exact intent, settled⟩
  case requested =>
    intro state
    have same : view.row.state = .cancelRequested := by
      change derived = .cancelRequested at state
      cases current : view.row.state <;> simp_all [Agrees]
    exact control.requested same
  case pending =>
    intro row member
    obtain ⟨generation, _, log⟩ := control.pending row member
    exact ⟨generation, log, log⟩

/-- Every change of a task keeps the invariant, and moves the derived state as `Change.derived` says. -/
theorem step (formed : view.WellFormed) {change : Change} {after : TaskView}
    {consent : InteractionRow → ResponseRow → Prop} (step : TaskStep consent view change after) :
    Control after (change.derived derived) := by
  cases step with
  | attemptStarted attempt adapter payload now ready generation phase fresh =>
    exact control.attemptStarted ready generation phase fresh
  | switched source target phase now pair current attempt absent approved => exact control.switched pair current attempt
  | dispatched earlier phase receipt now active attempt advance =>
    exact control.dispatched formed active attempt advance
  | reported kind payload now known accepts => exact control.reported known
  | sessionRecorded generation session capability proof now =>
    exact control.unread rfl rfl (view.setAttempts_phases _ _ fun _ => rfl) rfl
  | opened interaction phase now active attempt generation state fresh =>
    exact control.opened active attempt generation state
  | answered entry response now member pending inTime same committed given => exact control.answered member pending
  | expired entry now member pending generation due current => exact control.expired current
  | cancelled now allowed => exact control.cancelled formed
  | retried phase payload retryAt now current attempt absent => exact control.retried current attempt
  | finalizing now allowed => exact control.finalizing
  | finalized terminal consumerId resultId ackToken resultDigest now current isTerminal intent =>
    exact control.finalized formed isTerminal intent
  | acknowledged consumerId reviewId resultVersion now => exact control.unread rfl rfl rfl rfl
  | resumed now current observed => exact control.appended rfl
  | repaired derivedNow now derives live =>
    obtain rfl : derived = derivedNow := by
      have same := control.derives.symm.trans derives
      simpa using same
    exact control.repaired live.2

end

theorem submitted (fresh : Submitted view) : Control view .queued := by
  obtain ⟨now, events⟩ := fresh.event
  have phases : view.phases = [] := by simp [phases, fresh.attempts]
  have pending : view.pending = [] := by simp [TaskView.pending, fresh.interactions]
  constructor
  case derives =>
    rw [events, fresh.generation, fresh.seq]
    exact deriveProjection_append [] _ .queued 0 0 rfl .queued rfl
      (by simp [projectState, stateEventPayload, str?, get?, asStr?])
  case projected => rw [fresh.projected, fresh.seq]
  case retained => exact fresh.evicted
  case bounded => simp [phases]
  case started => simp [phases]
  case agrees =>
    rw [fresh.state]
    exact ⟨rfl, by simp [phase, phases]⟩
  case cancel => simp [fresh.open_.1]
  case requested => simp [fresh.state]
  case pending => simp [pending]

end Control

end AgentMesh.Task
