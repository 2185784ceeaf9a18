import AgentMesh.Task.Invariant

/-! The event log and the task row. Every transaction writes both; here is exactly when the log it leaves behind
still stands for the row. -/
namespace AgentMesh.Runs
open Library Daemon AgentMesh.Task

/-- The first commits that make a task row and its log disagree: a prepared spawn and a retry log no state, an
expiry and a late answer log `RUNNING`. -/
def Diverges (request : Request) (store : Store) : Prop :=
  match request with
  | .recordDispatchPhase _ operationId taskId _ phase _ _ =>
    phase = .spawnPrepared ∧ store.operations.lookup operationId = none ∧
      (store.tasks.lookup taskId).map TaskRow.state = some .preparing
  | .scheduleSafeRetry _ operationId _ _ _ _ => store.operations.lookup operationId = none
  | .expireTransaction _ _ _ _ _ => True
  | .respondInteraction _ request _ =>
    store.commands.lookup (request.consumerId, "interaction_response", request.commandKey) = none ∧
      ((store.interactions.lookup request.interactionId).bind fun row =>
        (store.tasks.lookup row.taskId).map TaskRow.state) = some .finalizing
  | _ => False

instance (request : Request) (store : Store) : Decidable (Diverges request store) := by
  unfold Diverges
  split <;> infer_instance

/-- The log of a view stands for exactly what its row says. -/
def Logged (current : TaskView) : Prop := Control current current.row.state

section Step

variable {consent : InteractionRow → ResponseRow → Prop} {current next : TaskView} {change : Change}

theorem advanced_state {earlier phase : DispatchPhase} {receipt : Option String} {now : Int}
    (active : activeState current.row.state = true) (advance : earlier.canAdvanceTo phase = true)
    (prepared : phase = .spawnPrepared → current.row.state ≠ .preparing) :
    (current.advanced phase receipt now).row.state = .running := by
  have states : current.row.state = .preparing ∨ current.row.state = .running := by
    simpa [activeState] using active
  unfold TaskView.advanced
  dsimp only
  rcases states with state | state
  · have started : phase = .processStarted ∨ phase = .providerObserved := by
      cases phase with
      | preDispatch => cases earlier <;> cases advance
      | spawnPrepared => exact absurd state (prepared rfl)
      | processStarted => exact Or.inl rfl
      | providerObserved => exact Or.inr rfl
    simp [state, started]
  · simp [state]

theorem answered_state {entry : InteractionRow × Option ResponseRow} {derived : TaskState} {now : Int}
    (control : Control current derived) (member : entry ∈ current.interactions)
    (pending : entry.1.state = .pending) (live : current.row.state ≠ .finalizing) :
    (current.released entry.1.generation now).row.state = .running := by
  have waits : entry.1 ∈ current.pending := (current.mem_pending entry.1).mpr ⟨pending, entry.2, member⟩
  obtain ⟨generation, busy, _⟩ := control.pending entry.1 waits
  rw [current.released_state, generation]
  cases state : current.row.state <;> simp_all [interactive]

theorem Logged.step (logged : Logged current) (formed : current.WellFormed)
    (step : TaskStep consent current change next)
    (prepared : change = .dispatched .spawnPrepared → current.row.state ≠ .preparing)
    (retried : change ≠ .retried) (expired : change ≠ .expired)
    (answered : change = .answered → current.row.state ≠ .finalizing) : Logged next := by
  have control := Control.step logged formed step
  suffices same : change.derived current.row.state = next.row.state by
    rw [same] at control
    exact control
  cases step with
  | dispatched earlier phase receipt now active attempt advance =>
    exact (advanced_state active advance fun same => prepared (by rw [same])).symm
  | answered entry response now member pending _ _ _ _ =>
    exact (answered_state logged member pending (answered rfl)).symm
  | expired => exact absurd rfl expired
  | retried => exact absurd rfl retried
  | repaired derived now derives live =>
    have same : current.row.state = derived := by simpa using logged.derives.symm.trans derives
    exact same
  | _ => rfl

end Step

variable {codec : Codec} {store : Store}

theorem logged_of_reachable (run : ReachableWhen codec (fun request store => ¬Diverges request store) store)
    {taskId : String} {current : TaskView} (found : view store taskId = some current) : Logged current := by
  refine views_of_reachable (fun _ current => Logged current) ?_ ?_ ?_ run taskId current found
  · exact fun _ => id
  · intro _ fresh submitted
    have control := Control.submitted submitted
    rw [← submitted.state] at control
    exact control
  · intro request before after taskId current change next permitted performs found logged step
    have stored := (view_eq_some found).1
    apply logged.step (wellFormed found) step
    case prepared =>
      rintro rfl preparing
      obtain ⟨_, _, _, _, _, rfl, new⟩ := performs.dispatched
      exact permitted ⟨rfl, new, by simp [stored, preparing]⟩
    case retried =>
      rintro rfl
      obtain ⟨_, _, _, _, _, rfl, new⟩ := performs.retried
      exact permitted new
    case expired =>
      rintro rfl
      obtain ⟨_, _, _, _, _, rfl⟩ := performs.expired
      exact permitted trivial
    case answered =>
      rintro rfl finalizing
      obtain ⟨_, _, _, _, rfl, new, held, rfl⟩ := performs.answered
      exact permitted ⟨new, by simp [held, stored, finalizing]⟩

theorem replayTasks_of_agree {now : Int} {tasks : List TaskRow}
    (agree : ∀ task ∈ tasks, store.replayTask task now = .ok store) :
    Store.replayTasks now tasks store = (.ok (), store) := by
  induction tasks with
  | nil => rfl
  | cons task tasks ih =>
    unfold Store.replayTasks
    rw [agree task (List.mem_cons_self ..)]
    exact ih fun other member => agree other (List.mem_cons_of_mem _ member)

theorem replayTask_of_logged {task : TaskRow} {current : TaskView} {now : Int}
    (found : view store task.taskId = some current) (row : current.row = task) (logged : Logged current) :
    store.replayTask task now = .ok store := by
  have derives := logged.derives
  rw [(view_eq_some found).2.1, row] at derives
  have retained := row ▸ logged.retained
  have projected := row ▸ logged.projected
  simp [Store.replayTask, retained, derives, projected]

/-- In every run without a diverging commit, the log of every task derives its state, generation and last
sequence number, and replaying the projections changes nothing. -/
theorem projection_agrees (run : ReachableWhen codec (fun request store => ¬Diverges request store) store) :
    (∀ task ∈ store.tasks.rows, task.evictedThroughSeq = 0 →
      deriveProjection (store.events.slice EventRow.taskId task.taskId) =
        .ok (task.state, task.generation, task.lastEventSeq)) ∧
      ∀ now, store.replayProjections now = (.ok (), store) := by
  have views : ∀ task ∈ store.tasks.rows, ∃ current, view store task.taskId = some current ∧ current.row = task ∧
      Logged current := by
    intro task member
    obtain ⟨current, found, row⟩ := view_of_lookup ((store.tasks.lookup_eq_some _ _).mpr ⟨member, rfl⟩)
    exact ⟨current, found, row, logged_of_reachable run found⟩
  constructor
  · intro task member _
    obtain ⟨current, found, rfl, logged⟩ := views task member
    rw [← (view_eq_some found).2.1]
    exact logged.derives
  · intro now
    apply replayTasks_of_agree
    intro task member
    obtain ⟨current, found, row, logged⟩ := views task (List.mem_of_mem_filter member)
    exact replayTask_of_logged found row logged

/-- The rule at work on a task that was submitted, claimed and then cancelled. -/
theorem projection_agrees_cancelled :
    ∃ store, ReachableWhen (Script.codec []) (fun request store => ¬Diverges request store) store ∧
      store.tasks.rows.map TaskRow.state = [.cancelRequested] ∧
      (∀ task ∈ store.tasks.rows, task.evictedThroughSeq = 0 →
        deriveProjection (store.events.slice EventRow.taskId task.taskId) =
          .ok (task.state, task.generation, task.lastEventSeq)) ∧
      ∀ now, store.replayProjections now = (.ok (), store) := by
  obtain ⟨store, run, cancelled⟩ : ∃ store,
      ReachableWhen (Script.codec []) (fun request store => ¬Diverges request store) store ∧
        store.tasks.rows.map TaskRow.state = [.cancelRequested] :=
    exists_of_script [Script.submit "t" "k", Script.claim "t" 0,
      .requestCancel Script.ambient "console" "cancel" Script.digest "t" 3] (by decide +kernel)
  exact ⟨store, run, cancelled, projection_agrees run⟩

/-- A dispatched task whose spawn was prepared: its row says `PREPARING`, its log `RUNNING`, and the next open
rewrites the row. -/
theorem spawnPrepared_diverges :
    ∃ store, Reachable (Script.codec []) store ∧ ∃ task ∈ store.tasks.rows, task.evictedThroughSeq = 0 ∧
      task.state = .preparing ∧
      (deriveProjection (store.events.slice EventRow.taskId task.taskId)).toOption = some (.running, 0, 3) ∧
      ((store.replayProjections 4).2.tasks.rows.map TaskRow.state) = [.running] :=
  exists_of_script [Script.submit "t" "k", Script.claim "t" 0, Script.phase "t" 0 .spawnPrepared] (by decide +kernel)

end AgentMesh.Runs
