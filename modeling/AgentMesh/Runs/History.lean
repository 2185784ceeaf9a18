import AgentMesh.Runs.Paging
import AgentMesh.Runs.Redispatch

/-! The history of the store: what whole runs of operations reach, what one transaction touches, and what is never
undone. -/
namespace AgentMesh.Runs
open Library Daemon AgentMesh.Task

variable {codec : Codec} {before after : Store} {taskId : String}

/-- Whole recoveries, expiries and answers, and the files, leases and collections around the store, reach no store that
single transactions do not reach. -/
theorem operated_iff_reachable (codec : Codec) :
    (∀ store, Operated codec Store.initial store ↔ Reachable codec store) ∧
      ∀ permitted vault, VaultReachable codec permitted vault → Operated codec Store.initial vault.store :=
  ⟨fun _ => ⟨Operated.committed, Operated.of_reachable⟩, fun _ _ run => .of_reachable (Storage.store_reachable run)⟩

/-- A transaction, and one compaction in the transaction of a collector's round, changes the rows of one task at most and
forgets no command. -/
theorem transaction_isolated (run : Operated codec Store.initial before) {request : Request}
    (committed : execute codec request before = .ok after) :
    ∃ owner, (∀ other, other ≠ owner → SameAt other before after) ∧
      ∀ row ∈ before.commands.rows, row ∈ after.commands.rows := by
  have effect := execute_effect (keyed_of_reachable run.committed) committed
  have kept := effect.retains.commands
  cases effect with
  | unchanged untouched => exact ⟨"", fun other _ => untouched.same other, kept⟩
  | created owner _ _ _ _ _ _ frame => exact ⟨owner, frame, kept⟩
  | changed owner _ changed => exact ⟨owner, changed.frame, kept⟩
  | removed owner _ _ _ _ _ _ frame => exact ⟨owner, frame, kept⟩

theorem claim_of_submitted : ∃ before after : Store, Operated (Script.codec []) Store.initial before ∧
    execute (Script.codec []) (Script.claim "t" 0) before = .ok after ∧ (∃ task, before.tasks.lookup "t" = some task) ∧
      after.tasks.lookup "t" ≠ none := by
  obtain ⟨before, run, stored, after, done, kept⟩ : ∃ store, Reachable (Script.codec []) store ∧
      (store.tasks.lookup "t").isSome = true ∧ ∃ after, execute (Script.codec []) (Script.claim "t" 0) store = .ok after ∧
        (after.tasks.lookup "t").isSome = true :=
    exists_of_script [Script.submit "t" "k"] (by decide +kernel)
  exact ⟨before, after, .of_reachable run, done, Option.isSome_iff_exists.mp stored, Option.isSome_iff_ne_none.mp kept⟩

theorem transaction_isolated_claim : ∃ before after : Store,
    execute (Script.codec []) (Script.claim "t" 0) before = .ok after ∧
      ∃ owner, ∀ other, other ≠ owner → SameAt other before after := by
  obtain ⟨before, after, run, committed, _⟩ := claim_of_submitted
  obtain ⟨owner, frame, _⟩ := transaction_isolated run committed
  exact ⟨before, after, committed, owner, frame⟩

theorem generation_of_step {consent : InteractionRow → ResponseRow → Prop} {current next : TaskView} {change : Change}
    (step : TaskStep consent current change next) : current.row.generation ≤ next.row.generation := by
  cases step with
  | dispatched | answered =>
    dsimp only [TaskView.append, TaskView.advanced, TaskView.answeredBy, TaskView.answer, TaskView.released]
    split <;> exact le_refl _
  | cancelled | finalized =>
    simp only [TaskView.append, TaskView.requestedCancel, TaskView.terminated, TaskView.closed_frame]
    exact le_refl _
  | retried => exact (lt_add_one _).le
  | _ => exact le_refl _

/-- Until a task is compacted its log only grows, its generation does not go back, and its attempts stay and only
advance. -/
theorem history_grows (start : Operated codec Store.initial before) (run : Operated codec before after) {task : TaskRow}
    (stored : before.tasks.lookup taskId = some task) :
    Gone after taskId ∨ ∃ later, after.tasks.lookup taskId = some later ∧ task.generation ≤ later.generation ∧
      before.events.slice EventRow.taskId taskId <+: after.events.slice EventRow.taskId taskId ∧
      Keeps (before.attempts.slice AttemptRow.taskId taskId) (after.attempts.slice AttemptRow.taskId taskId) := by
  obtain ⟨current, found, rfl⟩ := view_of_lookup stored
  have status := follow (fun later => current.row.generation ≤ later.row.generation ∧ current.events <+: later.events ∧
    Keeps current.attempts later.attempts) (fun _ formed grown step => ⟨grown.1.trans (generation_of_step step),
      grown.2.1.trans (events_of_step step), grown.2.2.trans (keeps_of_step formed step)⟩)
    start.committed run.committed found ⟨le_refl _, List.prefix_refl _, .refl _⟩
  obtain ⟨_, events, attempts, _⟩ := view_eq_some found
  rcases status with ⟨later, laterFound, grown⟩ | gone
  · obtain ⟨row, laterEvents, laterAttempts, _⟩ := view_eq_some laterFound
    rw [events, attempts, laterEvents, laterAttempts] at grown
    exact .inr ⟨later.row, row, grown⟩
  · exact .inl gone

theorem history_grows_claim : ∃ before after : Store,
    execute (Script.codec []) (Script.claim "t" 0) before = .ok after ∧
      before.events.slice EventRow.taskId "t" <+: after.events.slice EventRow.taskId "t" := by
  obtain ⟨before, after, run, committed, ⟨task, stored⟩, kept⟩ := claim_of_submitted
  rcases history_grows run (.single (.transaction (Script.claim "t" 0) after trivial committed)) stored with
    gone | ⟨_, _, _, grown, _⟩
  · exact absurd gone.vacant.task kept
  · exact ⟨before, after, committed, grown⟩

end AgentMesh.Runs
