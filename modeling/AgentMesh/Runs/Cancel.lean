import AgentMesh.Runs.Operations

/-! A committed cancel wins: no later operation starts, advances or asks anything for the task, and `CANCELLED` is
the only end it can come to. -/
namespace AgentMesh.Runs
open Library Daemon AgentMesh.Task TaskView

def roster (current : TaskView) : List (String × Int × DispatchPhase) :=
  current.attempts.map fun attempt => (attempt.attemptId, attempt.generation, attempt.dispatchPhase)

def asked (current : TaskView) : List String := current.interactions.map fun entry => entry.1.interactionId

/-- A view with a stored cancel intent and the attempts and interactions it was stored with. -/
structure Cancelling (attempts : List (String × Int × DispatchPhase)) (interactions : List String)
    (current : TaskView) : Prop where
  intent : current.row.cancelRequestedAt.isSome = true
  attempts : roster current = attempts
  interactions : asked current = interactions

section Step

variable {consent : InteractionRow → ResponseRow → Prop} {current next : TaskView} {change : Change}
  {derived : TaskState}

theorem roster_setAttempts (current : TaskView) (selects : AttemptRow → Bool) (update : AttemptRow → AttemptRow)
    (keeps : ∀ attempt, ((update attempt).attemptId, (update attempt).generation, (update attempt).dispatchPhase) =
      (attempt.attemptId, attempt.generation, attempt.dispatchPhase)) :
    roster (current.setAttempts selects update) = roster current :=
  map_updateWhere (fun attempt : AttemptRow => (attempt.attemptId, attempt.generation, attempt.dispatchPhase)) selects
    update keeps current.attempts

theorem asked_updateWhere {entries : List (InteractionRow × Option ResponseRow)}
    (selects : InteractionRow × Option ResponseRow → Bool)
    (update : InteractionRow × Option ResponseRow → InteractionRow × Option ResponseRow)
    (keeps : ∀ entry, (update entry).1.interactionId = entry.1.interactionId) :
    (updateWhere selects update entries).map (fun entry => entry.1.interactionId) =
      entries.map fun entry => entry.1.interactionId :=
  map_updateWhere (fun entry : InteractionRow × Option ResponseRow => entry.1.interactionId) selects update keeps
    entries

/-- What a change other than a new attempt, a phase advance or a new question leaves alone. -/
theorem roster_of_step (step : TaskStep consent current change next) (started : change ≠ .attemptStarted)
    (dispatched : ∀ phase, change ≠ .dispatched phase) (opened : change ≠ .opened) :
    roster next = roster current ∧ asked next = asked current := by
  cases step with
  | attemptStarted => exact absurd rfl started
  | dispatched _ phase => exact absurd rfl (dispatched phase)
  | opened => exact absurd rfl opened
  | switched | sessionRecorded | retried => exact ⟨roster_setAttempts current _ _ fun _ => rfl, rfl⟩
  | answered | expired => exact ⟨roster_setAttempts current _ _ fun _ => rfl, asked_updateWhere _ _ fun _ => rfl⟩
  | cancelled now _ =>
    constructor
    · simp only [roster, append, requestedCancel, closed_frame]
      exact roster_setAttempts current _ _ fun _ => rfl
    · simp only [asked, append, requestedCancel, closed_frame]
      exact asked_updateWhere _ _ fun _ => rfl
  | finalized terminal _ _ _ _ now _ _ _ =>
    constructor
    · simp only [roster, append, terminated, closed_frame]
      exact roster_setAttempts current _ _ fun _ => rfl
    · simp only [asked, append, terminated, closed_frame]
      exact asked_updateWhere _ _ fun _ => rfl
  | _ => exact ⟨rfl, rfl⟩

theorem intent_of_step (intent : current.row.cancelRequestedAt.isSome = true)
    (step : TaskStep consent current change next) : next.row.cancelRequestedAt.isSome = true := by
  cases step with
  | dispatched _ phase receipt now =>
    simp only [append, advanced]
    split <;> exact intent
  | answered entry response now =>
    simp only [answeredBy, append, answer, released_row]
    exact intent
  | cancelled => rfl
  | finalized terminal _ _ _ _ now _ _ _ =>
    simp only [append, terminated, closed_frame]
    exact intent
  | _ => exact intent

theorem idle_of_cancelling {state : TaskState} (cancelling : cancelling state = true) :
    activeState state = false ∧ state ≠ .queued ∧ state ≠ .retryWait := by
  cases state <;> simp_all [Task.cancelling, activeState]

theorem Cancelling.step {attempts : List (String × Int × DispatchPhase)} {interactions : List String}
    (control : Control current derived) (cancelling : Cancelling attempts interactions current)
    (step : TaskStep consent current change next) : Cancelling attempts interactions next := by
  obtain ⟨inactive, notQueued, notWaiting⟩ := idle_of_cancelling (control.cancel cancelling.intent).2.1
  obtain ⟨sameAttempts, sameInteractions⟩ : roster next = roster current ∧ asked next = asked current := by
    apply roster_of_step step
    · rintro rfl
      cases step with
      | attemptStarted _ _ _ _ ready _ _ _ => exact ready.elim notQueued notWaiting
    · rintro phase rfl
      cases step with
      | dispatched _ _ _ _ active _ _ => exact absurd active (by simp [inactive])
    · rintro rfl
      cases step with
      | opened _ _ _ active _ _ _ _ => exact absurd active (by simp [inactive])
  exact ⟨intent_of_step cancelling.intent step, sameAttempts.trans cancelling.attempts,
    sameInteractions.trans cancelling.interactions⟩

end Step

variable {codec : Codec}

theorem intent_of_requestCancel {first cancelled : Store} (start : Committed codec Store.initial first)
    {ambient : Ambient} {consumerId commandKey requestDigest taskId : String} {now : Int} {task : TaskRow}
    (stored : first.tasks.lookup taskId = some task) (live : task.state.isTerminal = false)
    (done : first.requestCancel ambient consumerId commandKey requestDigest taskId now = .ok (false, cancelled)) :
    ∃ current, view cancelled taskId = some current ∧ current.row.cancelRequestedAt.isSome = true := by
  rcases requestCancel_changed done with ⟨impossible, _⟩ | ⟨_, row, held, _, ⟨settled, untouched⟩ | changed⟩
  · cases impossible
  · obtain rfl : row = task := Option.mem_unique held stored
    obtain ⟨current, found, rfl⟩ := view_of_lookup held
    obtain ⟨derived, control⟩ := control_of_reachable start found
    refine ⟨current, (untouched.same taskId).view_eq.trans found, control.requested ?_⟩
    rcases settled with terminal | requested
    · simp [live] at terminal
    · exact requested
  · obtain ⟨current, next, _, (step : TaskStep (Consented codec cancelled) _ _ _), found⟩ := changed.step
    cases step with
    | cancelled now _ => exact ⟨_, found, rfl⟩

/-- After a committed cancel the task stays on its way to `CANCELLED` along every continuation, and no attempt,
phase advance or interaction is recorded for it any more. -/
theorem cancel_wins {first cancelled last : Store} (start : Operated codec Store.initial first) {ambient : Ambient}
    {consumerId commandKey requestDigest taskId : String} {now : Int} {task : TaskRow}
    (stored : first.tasks.lookup taskId = some task) (live : task.state.isTerminal = false)
    (done : first.requestCancel ambient consumerId commandKey requestDigest taskId now = .ok (false, cancelled))
    (run : Operated codec cancelled last) :
    (∀ task, last.tasks.lookup taskId = some task →
      task.state = .cancelRequested ∨ task.state = .finalizing ∨ task.state = .cancelled) ∧
    (∀ attempt ∈ last.attempts.rows, attempt.taskId = taskId → ∃ earlier ∈ cancelled.attempts.rows,
      earlier.taskId = taskId ∧ earlier.attemptId = attempt.attemptId ∧ earlier.generation = attempt.generation ∧
        earlier.dispatchPhase = attempt.dispatchPhase) ∧
    (∀ interaction ∈ last.interactions.rows, interaction.taskId = taskId → ∃ earlier ∈ cancelled.interactions.rows,
      earlier.taskId = taskId ∧ earlier.interactionId = interaction.interactionId) := by
  have committed : Committed codec first cancelled :=
    Committed.single (.requestCancel ambient consumerId commandKey requestDigest taskId now) trivial
      (map_eq_ok.mpr ⟨_, done, rfl⟩)
  have reached : ReachableWhen codec (fun _ _ => True) cancelled := start.committed.trans committed
  obtain ⟨current, found, intent⟩ := intent_of_requestCancel start.committed stored live done
  have status := follow (Cancelling (roster current) (asked current))
    (fun control _ cancelling step => cancelling.step control step) reached run.committed found ⟨intent, rfl, rfl⟩
  rcases status with ⟨later, laterFound, cancelling⟩ | gone
  · obtain ⟨derived, control⟩ := control_of_reachable (reached.trans run.committed) laterFound
    refine ⟨fun task held => ?_, fun attempt member owner => ?_, fun interaction member owner => ?_⟩
    · have state := (control.cancel cancelling.intent).2.1
      obtain rfl : later.row = task := Option.some.inj ((view_eq_some laterFound).1.symm.trans held)
      cases current : later.row.state <;> simp_all [Task.cancelling]
    · have listed : (attempt.attemptId, attempt.generation, attempt.dispatchPhase) ∈ roster later :=
        List.mem_map_of_mem ((mem_attempts laterFound attempt).mpr ⟨member, owner⟩)
      rw [cancelling.attempts] at listed
      obtain ⟨earlier, kept, same⟩ := List.mem_map.mp listed
      obtain ⟨inRows, ofTask⟩ := (mem_attempts found earlier).mp kept
      simp only [Prod.mk.injEq] at same
      exact ⟨earlier, inRows, ofTask, same⟩
    · have listed : interaction.interactionId ∈ asked later :=
        List.mem_map.mpr ⟨(interaction, last.responses.lookup interaction.interactionId),
          (mem_interactions laterFound _).mpr ⟨member, owner, rfl⟩, rfl⟩
      rw [cancelling.interactions] at listed
      obtain ⟨earlier, kept, same⟩ := List.mem_map.mp listed
      obtain ⟨inRows, ofTask, _⟩ := (mem_interactions found earlier).mp kept
      exact ⟨earlier.1, inRows, ofTask, same⟩
  · refine ⟨fun task held => ?_, fun attempt member owner => ?_, fun interaction member owner => ?_⟩
    · rw [gone.vacant.task] at held
      cases held
    · exact absurd owner (gone.vacant.no_attempt member)
    · exact absurd owner (gone.vacant.no_interaction member)

/-- A claimed task is cancelled and then recovered. -/
theorem cancel_wins_recovered :
    ∃ first cancelled last, Operated (Script.codec []) Store.initial first ∧
      first.tasks.rows.map TaskRow.state = [.preparing] ∧
      first.requestCancel Script.ambient "console" "cancel" Script.digest "t" 3 = .ok (false, cancelled) ∧
      Operated (Script.codec []) cancelled last ∧ last.tasks.rows.map TaskRow.state = [.cancelled] ∧
      (∀ task, last.tasks.lookup "t" = some task →
        task.state = .cancelRequested ∨ task.state = .finalizing ∨ task.state = .cancelled) := by
  obtain ⟨first, run, preparing, live, ⟨replayed, cancelled⟩, done, rfl, ended⟩ : ∃ store,
      Reachable (Script.codec []) store ∧
      store.tasks.rows.map TaskRow.state = [.preparing] ∧
      ((store.tasks.lookup "t").any fun task => !task.state.isTerminal) = true ∧
      ∃ done, store.requestCancel Script.ambient "console" "cancel" Script.digest "t" 3 = .ok done ∧ done.1 = false ∧
        (done.2.reconcileNonterminal (Script.codec []) Script.ambient (fun _ => ("r", Script.digest))
          "console" 5).2.tasks.rows.map TaskRow.state = [.cancelled] :=
    exists_of_script [Script.submit "t" "k", Script.claim "t" 0] (by decide +kernel)
  have start := Operated.of_reachable run
  obtain ⟨task, stored, live⟩ := (Option.any_eq_true _ _).mp live
  rw [Bool.not_eq_true'] at live
  have recovery : Operated (Script.codec []) cancelled _ :=
    .single (Operates.reconcile Script.ambient (fun _ => ("r", Script.digest)) "console" 5)
  exact ⟨first, cancelled, _, start, preparing, done, recovery, ended,
    (cancel_wins start stored live done recovery).1⟩

end AgentMesh.Runs
