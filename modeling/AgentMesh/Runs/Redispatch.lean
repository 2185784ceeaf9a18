import AgentMesh.Runs.Operations

/-! No second dispatch once a process may have run. Attempts stay, their phases only advance, and an attempt that
may have started a process is the last one of its task. -/
namespace AgentMesh.Runs
open Library Daemon AgentMesh.Task Store TaskView

variable {attempt : AttemptRow} {generation : Int} {after : Store} {taskId : String}

/-- Every attempt of the earlier view is still there, in the same or a later phase. -/
def Keeps (earlier later : List AttemptRow) : Prop :=
  ∀ attempt ∈ earlier, ∃ kept ∈ later, kept.attemptId = attempt.attemptId ∧
    kept.generation = attempt.generation ∧ attempt.dispatchPhase.rank ≤ kept.dispatchPhase.rank

namespace Keeps

theorem refl (attempts : List AttemptRow) : Keeps attempts attempts :=
  fun attempt member => ⟨attempt, member, rfl, rfl, le_refl _⟩

theorem trans {first second third : List AttemptRow} (left : Keeps first second) (right : Keeps second third) :
    Keeps first third := by
  intro attempt member
  obtain ⟨middle, kept, identified, same, phase⟩ := left attempt member
  obtain ⟨last, keptLast, identifiedLast, sameLast, phaseLast⟩ := right middle kept
  exact ⟨last, keptLast, identifiedLast.trans identified, sameLast.trans same, phase.trans phaseLast⟩

theorem updateWhere {attempts : List AttemptRow} {selects : AttemptRow → Bool} {change : AttemptRow → AttemptRow}
    (identified : ∀ attempt, (change attempt).attemptId = attempt.attemptId)
    (same : ∀ attempt, (change attempt).generation = attempt.generation)
    (phase : ∀ attempt ∈ attempts, selects attempt = true →
      attempt.dispatchPhase.rank ≤ (change attempt).dispatchPhase.rank) :
    Keeps attempts (Library.updateWhere selects change attempts) := by
  intro attempt member
  refine ⟨_, mem_updateWhere.mpr ⟨attempt, member, rfl⟩, ?_⟩
  split
  · rename_i picked
    exact ⟨identified attempt, same attempt, phase attempt member picked⟩
  · exact ⟨rfl, rfl, le_refl _⟩

end Keeps

section Step

variable {consent : InteractionRow → ResponseRow → Prop} {current next : TaskView} {change : Change}

theorem phase_of_current (formed : current.WellFormed) {phase : DispatchPhase} (shown : current.phase = some phase)
    (member : attempt ∈ current.attempts) (here : attempt.generation = current.row.generation) :
    attempt.dispatchPhase = phase := by
  obtain ⟨listed, same, kept⟩ := List.mem_map.mp (Control.phase_mem shown)
  have equal := List.inj_on_of_nodup_map formed.generations same member
  simp only [Prod.mk.injEq] at kept
  rw [← equal (kept.1.trans here.symm)]
  exact kept.2

theorem keeps_of_step (formed : current.WellFormed) (step : TaskStep consent current change next) :
    Keeps current.attempts next.attempts := by
  have unphased : ∀ {selects : AttemptRow → Bool} {state : TaskState} {now : Int},
      Keeps current.attempts (Library.updateWhere selects
        (fun attempt => { attempt with state, updatedAt := now }) current.attempts) :=
    Keeps.updateWhere (fun _ => rfl) (fun _ => rfl) fun _ _ _ => le_refl _
  have ended : ∀ {selects : AttemptRow → Bool} {state : TaskState} {now : Int},
      Keeps current.attempts (Library.updateWhere selects
        (fun attempt => { attempt with state, endedAt := some now, updatedAt := now }) current.attempts) :=
    Keeps.updateWhere (fun _ => rfl) (fun _ => rfl) fun _ _ _ => le_refl _
  cases step with
  | attemptStarted attempt _ _ _ _ _ _ _ =>
    exact fun old member => ⟨old, List.mem_append_left _ member, rfl, rfl, le_refl _⟩
  | dispatched earlier phase _ _ _ shown advance =>
    refine Keeps.updateWhere (fun _ => rfl) (fun _ => rfl) ?_
    intro attempt member picked
    have here : attempt.generation = current.row.generation := by simp at picked; exact picked.2
    rw [phase_of_current formed shown member here]
    exact ((earlier.canAdvanceTo_iff phase).mp advance).le
  | sessionRecorded => exact Keeps.updateWhere (fun _ => rfl) (fun _ => rfl) fun _ _ _ => le_refl _
  | switched => exact unphased
  | opened => exact unphased
  | answered => exact unphased
  | expired => exact unphased
  | cancelled now _ =>
    simp only [append, requestedCancel, closed_frame]
    exact unphased
  | retried => exact ended
  | finalized terminal _ _ _ _ now _ _ _ =>
    simp only [append, terminated, closed_frame]
    exact ended
  | _ => exact Keeps.refl _

end Step

variable {codec : Codec} {store : Store}

/-- The task and generation that a generation-guarded request names. -/
def addressed : Request → Option (String × Int)
  | .recordDispatchPhase _ _ taskId generation _ _ _ => some (taskId, generation)
  | .recordAdapterEvent _ _ taskId generation _ _ _ => some (taskId, generation)
  | .openInteraction _ _ _ _ request _ => some (request.taskId, request.generation)
  | .transitionToFinalizing _ _ taskId generation _ _ => some (taskId, generation)
  | .finalize _ _ _ _ _ _ taskId generation _ _ _ => some (taskId, generation)
  | _ => none

def Stale (store : Store) (taskId : String) (generation : Int) : Prop :=
  ∀ task, store.tasks.lookup taskId = some task → task.generation ≠ generation

theorem Stale.taskAt (stale : Stale store taskId generation) : store.taskAt taskId generation = none := by
  unfold Store.taskAt
  cases found : store.tasks.lookup taskId with
  | none => rfl
  | some task => simp [Option.filter, stale task found]

theorem Stale.transition (stale : Stale store taskId generation) {ambient : Ambient} {operationId : String}
    {sources : List TaskState} {next : TaskState} {now seq : Int}
    (done : store.transition codec ambient operationId taskId generation sources next now = .ok (seq, after)) :
    after = store := by
  simp [Store.transition, Store.replayingOperation_eq_ok, stale.taskAt] at done
  tauto

/-- A request that names another generation than the task's current one commits nothing new. -/
theorem Stale.execute {request : Request} (stale : Stale store taskId generation)
    (named : addressed request = some (taskId, generation)) (committed : execute codec request store = .ok after) :
    after = store := by
  have absent := stale.taskAt
  cases request with
  | recordDispatchPhase =>
    cases named
    simp [Daemon.execute, recordDispatchPhase, replayingOperation_eq_ok, absent] at committed
    tauto
  | recordAdapterEvent =>
    cases named
    simp [Daemon.execute, recordAdapterEvent, replayingOperation_eq_ok, absent] at committed
    tauto
  | openInteraction =>
    cases named
    simp [Daemon.execute, openInteraction, replayingOperation_eq_ok, absent] at committed
    tauto
  | transitionToFinalizing =>
    cases named
    obtain ⟨_, done⟩ := snd_eq_ok committed
    exact stale.transition done
  | finalize =>
    cases named
    simp [Daemon.execute, finalize, replayingCommand_eq_ok, absent] at committed
    tauto
  | _ => cases named

theorem kept_of_run {first last : Store} (start : Committed codec initial first)
    (run : Committed codec first last) (member : attempt ∈ first.attempts.rows) :
    (∃ current kept, view last attempt.taskId = some current ∧ kept ∈ current.attempts ∧
      kept.generation = attempt.generation ∧ attempt.dispatchPhase.rank ≤ kept.dispatchPhase.rank) ∨
      Gone last attempt.taskId := by
  have reached : ReachableWhen codec (fun _ _ => True) first := start
  have held := (first.attempts.lookup_eq_some (attempt.taskId, attempt.generation) attempt).mpr ⟨member, rfl⟩
  obtain ⟨current, found⟩ := (keyed_of_reachable reached).housed.view_of_attempt held
  have status := follow (fun later => Keeps current.attempts later.attempts)
    (fun _ formed kept step => kept.trans (keeps_of_step formed step)) reached run found (.refl _)
  rcases status with ⟨later, laterFound, keeps⟩ | gone
  · obtain ⟨kept, keptIn, _, same, phase⟩ := keeps attempt ((mem_attempts found attempt).mpr ⟨member, rfl⟩)
    exact .inl ⟨later, kept, laterFound, keptIn, same, phase⟩
  · exact .inr gone

theorem attempt_unique {first second : AttemptRow} (firstIn : first ∈ store.attempts.rows)
    (secondIn : second ∈ store.attempts.rows) (owner : second.taskId = first.taskId)
    (same : second.generation = first.generation) : second = first :=
  List.inj_on_of_nodup_map store.attempts.keyed secondIn firstIn (by rw [owner, same])

/-- No automatic redispatch after a process may have run, along every history of operations. -/
theorem no_redispatch {first last : Store} (start : Operated codec Store.initial first)
    (run : Operated codec first last) :
    (∀ attempt ∈ first.attempts.rows,
      attempt.dispatchPhase = .processStarted ∨ attempt.dispatchPhase = .providerObserved →
      ∀ other ∈ last.attempts.rows, other.taskId = attempt.taskId → other.generation ≤ attempt.generation) ∧
    (∀ attempt ∈ first.attempts.rows, ∀ later ∈ last.attempts.rows, later.taskId = attempt.taskId →
      later.generation = attempt.generation → attempt.dispatchPhase.rank ≤ later.dispatchPhase.rank) ∧
    (∀ attempt ∈ last.attempts.rows, ∀ other ∈ last.attempts.rows, other.taskId = attempt.taskId →
      other.generation = attempt.generation → other = attempt) ∧
    (∀ request taskId generation after, addressed request = some (taskId, generation) →
      Stale last taskId generation → execute codec request last = .ok after → after = last) ∧
    (∀ ambient operationId taskId generation sources next now seq after, Stale last taskId generation →
      last.transition codec ambient operationId taskId generation sources next now = .ok (seq, after) →
      after = last) := by
  have reached : ReachableWhen codec (fun _ _ => True) last := start.committed.trans run.committed
  refine ⟨?_, ?_, ?_, ?_, ?_⟩
  · intro attempt member phase other otherIn owner
    rcases kept_of_run start.committed run.committed member with ⟨current, kept, found, keptIn, same, later⟩ | gone
    · obtain ⟨derived, control⟩ := control_of_reachable reached found
      have started : kept.dispatchPhase.effectIsProvenAbsent = false := by
        rcases phase with phase | phase <;> rw [phase] at later <;> revert later <;>
          cases kept.dispatchPhase <;> simp [DispatchPhase.rank, DispatchPhase.effectIsProvenAbsent]
      have final := (control.started _ (List.mem_map_of_mem keptIn) started).1
      have bound := control.bounded _ (List.mem_map_of_mem ((mem_attempts found other).mpr ⟨otherIn, owner⟩))
      dsimp only at final bound
      omega
    · exact absurd owner (gone.vacant.no_attempt otherIn)
  · intro attempt member later laterIn owner generation
    rcases kept_of_run start.committed run.committed member with ⟨current, kept, found, keptIn, same, phase⟩ | gone
    · have equal := List.inj_on_of_nodup_map (wellFormed found).generations keptIn
        ((mem_attempts found later).mpr ⟨laterIn, owner⟩) (same.trans generation.symm)
      rw [← equal]
      exact phase
    · exact absurd owner (gone.vacant.no_attempt laterIn)
  · exact fun attempt member other otherIn => attempt_unique member otherIn
  · exact fun request taskId generation after named stale committed => stale.execute named committed
  · exact fun _ _ _ _ _ _ _ _ _ stale done => stale.transition done

/-- A crash with a started process: recovery ends the task instead of giving it another generation. -/
theorem no_redispatch_started :
    ∃ first last, Operated (Script.codec []) Store.initial first ∧ Operated (Script.codec []) first last ∧
      first.attempts.rows.map AttemptRow.dispatchPhase = [.processStarted] ∧
      last.tasks.rows.map TaskRow.state = [.needsAttention] ∧
      ∀ attempt ∈ first.attempts.rows, ∀ other ∈ last.attempts.rows, other.taskId = attempt.taskId →
        other.generation ≤ attempt.generation := by
  obtain ⟨first, run, started, ended⟩ : ∃ store, Reachable (Script.codec []) store ∧
      store.attempts.rows.map AttemptRow.dispatchPhase = [.processStarted] ∧
      (store.reconcileNonterminal (Script.codec []) Script.ambient (fun _ => ("r", Script.digest)) "console"
        5).2.tasks.rows.map TaskRow.state = [.needsAttention] :=
    exists_of_script [Script.submit "t" "k", Script.claim "t" 0, Script.phase "t" 0 .processStarted]
      (by decide +kernel)
  have start := Operated.of_reachable run
  have recovery : Operated (Script.codec []) first _ :=
    .single (Operates.reconcile Script.ambient (fun _ => ("r", Script.digest)) "console" 5)
  refine ⟨first, _, start, recovery, started, ended, fun attempt member => ?_⟩
  have phase : attempt.dispatchPhase ∈ first.attempts.rows.map AttemptRow.dispatchPhase := List.mem_map_of_mem member
  rw [started, List.mem_singleton] at phase
  exact (no_redispatch start recovery).1 attempt member (Or.inl phase)

end AgentMesh.Runs
