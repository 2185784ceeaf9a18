import AgentMesh.Task.Primitives
import AgentMesh.Task.Step

/-! The writer's transactions refine the life of a task: each one that commits either repeats an earlier one or
makes one `TaskStep`. -/
namespace AgentMesh.Task
open Library Daemon Store TaskView TaskStep List Table

variable {generation now : Int} {limits : SchedulerLimits} {attemptId : String} {ambient : Ambient} {attempt : Attempt}
  {spec : AttemptSpec} {codec : Codec} {phase : DispatchPhase} {seq : Int}
  {commandKey consumerId interactionId kind operationDigest operationId requestDigest : String}

/-- A transaction made one change of one task and left every other task alone. -/
structure Changed (consent : InteractionRow → ResponseRow → Prop) (taskId : String) (before after : Store)
    (change : Change) : Prop where
  step : ∃ current next, view before taskId = some current ∧ TaskStep consent current change next ∧
    view after taskId = some next
  frame : ∀ other, other ≠ taskId → SameAt other before after
  retains : Retains before after
  tombstones : after.tombstones = before.tombstones

variable {consent : InteractionRow → ResponseRow → Prop} {store after : Store} {taskId : String}

/-- One change of one task that is entered in the books under the given keys. -/
structure Booked (consent : InteractionRow → ResponseRow → Prop) (operation : String → Prop)
    (command : String × String × String → Prop) (taskId : String) (before after : Store) (change : Change) : Prop
    extends Changed consent taskId before after change, Counted operation command before after

section Booked

variable {middle last : Store} {current : TaskView} {change : Change} {update : TaskView → TaskView}

theorem Changed.of_moves (moves : Moves taskId store middle update) (untouched : Untouched middle after)
    (found : view store taskId = some current) (step : TaskStep consent current change (update current)) :
    Changed consent taskId store after change :=
  ⟨⟨current, update current, found, step, ((untouched.same taskId).view_eq).trans (moves.moved current found)⟩,
    fun other differs => (moves.frame other differs).trans (untouched.same other), moves.retains.trans untouched.retains,
    untouched.tombstones.trans moves.tombstones⟩

theorem Booked.of_operation {owner : String} {locator : Locator} (moves : Moves taskId store middle update)
    (recorded : middle.storeOperation operationId operationDigest owner generation kind locator now = .ok last)
    (found : view store taskId = some current) (step : TaskStep consent current change (update current)) :
    Booked consent (operationId = ·) (fun _ => False) taskId store last.bumpMutationEpoch change :=
  ⟨.of_moves moves (untouched_bookOperation recorded) found step, (moves.books.record_operation recorded rfl _).bump⟩

theorem Booked.of_command {method responseLocator : String} (moves : Moves taskId store middle update)
    (recorded : middle.storeCommand consumerId method commandKey requestDigest responseLocator now = .ok last)
    (found : view store taskId = some current) (step : TaskStep consent current change (update current)) :
    Booked consent (fun _ => False) ((consumerId, method, commandKey) = ·) taskId store last.bumpMutationEpoch change :=
  ⟨.of_moves moves (untouched_bookCommand recorded) found step, (moves.books.record_command recorded _ rfl).bump⟩

end Booked

theorem view_of_lookup {task : TaskRow} (stored : store.tasks.lookup taskId = some task) :
    ∃ current, view store taskId = some current ∧ current.row = task :=
  ⟨_, by simp only [view, stored, Option.map_some]; rfl, rfl⟩

theorem view_of_taskAt {task : TaskRow} (stored : store.taskAt taskId generation = some task) :
    ∃ current, view store taskId = some current ∧ current.row = task ∧ task.generation = generation := by
  obtain ⟨found, same⟩ := Option.filter_eq_some_iff.mp stored
  obtain ⟨current, here, row⟩ := view_of_lookup found
  exact ⟨current, here, row, by simpa using same⟩

theorem phase_of_attempt {current : TaskView} {attempt : AttemptRow} (found : view store taskId = some current)
    (stored : store.attempts.lookup (taskId, current.row.generation) = some attempt) :
    current.phase = some attempt.dispatchPhase := by
  obtain ⟨member, key⟩ := of_lookup stored
  simp only [Prod.mk.injEq] at key
  have inView : attempt ∈ current.attempts := (mem_attempts found attempt).mpr ⟨member, key.1⟩
  have listed : (attempt.generation, attempt.dispatchPhase) ∈ current.phases := mem_map_of_mem inView
  unfold phase
  cases search : current.phases.find? fun entry => entry.1 = current.row.generation with
  | none =>
    have differs := find?_eq_none.mp search _ listed
    simp [key.2] at differs
  | some entry =>
    have same : entry.1 = current.row.generation := by simpa using find?_some search
    obtain ⟨other, otherIn, rfl⟩ := mem_map.mp (mem_of_find?_eq_some search)
    have unique := inj_on_of_nodup_map (wellFormed found).generations otherIn inView
    rw [unique (same.trans key.2.symm)]
    rfl

theorem insertAttempt_fresh {current : TaskView} (done : store.insertAttempt attempt spec now = .ok after)
    (found : view store attempt.taskId = some current) :
    ∀ other ∈ current.attempts, other.generation ≠ attempt.generation := by
  simp only [insertAttempt, insertRow, eq_ok_iff] at done
  obtain ⟨_, _, attempts, inserted, rfl⟩ := done
  have absent := (insert_eq_some.mp inserted).1
  intro other member same
  obtain ⟨stored, own⟩ := (mem_attempts found other).mp member
  have taken := (store.attempts.lookup_eq_some (attempt.taskId, attempt.generation) other).mpr
    ⟨stored, by rw [own, same]⟩
  simp only [AttemptSpec.newAttempt] at absent
  rw [taken] at absent
  cases absent

theorem attemptStarted_moves (attempt : Attempt) {first second third : Store} {selects : TaskRow → Bool}
    {change : TaskRow → TaskRow} {keeps : ∀ row, (change row).taskId = row.taskId} {current : TaskView}
    (found : view store attempt.taskId = some current)
    (ready : current.row.state = .queued ∨ current.row.state = .retryWait)
    (generation : current.row.generation = attempt.generation)
    (inserted : store.insertAttempt attempt spec now = .ok first)
    (updated : first.updateTasks selects change keeps = .ok second)
    (own : ∀ row, selects row = true → row.taskId = attempt.taskId) (picked : selects current.row = true)
    (adapter : String)
    (prepared : change current.row =
      { current.row with state := .preparing, adapterInstanceId := adapter, updatedAt := now })
    (logged : second.appendEvent attempt.taskId attempt.generation "attempt_started" (attemptStartedPayload attempt)
      now = .ok (seq, third)) :
    ∃ update, Moves attempt.taskId store third update ∧ TaskStep consent current .attemptStarted (update current) ∧
      spec.newAttempt attempt now ∈ (update current).attempts := by
  have fresh := insertAttempt_fresh inserted found
  rw [← generation] at fresh
  refine ⟨_, (moves_insertAttempt inserted).trans ((moves_updateTasks attempt.taskId updated own).trans
    (moves_appendEvent logged)), ?_, ?_⟩
  · simp only [setRow, picked, if_true, prepared, ← generation]
    exact attemptStarted (spec.newAttempt attempt now) adapter _ now ready generation.symm rfl fresh rfl
  · exact mem_append_right _ (mem_singleton.mpr rfl)

theorem beginAttempt_changed
    (done : store.beginAttempt ambient attemptId consumerId commandKey requestDigest taskId generation spec now =
      .ok (attempt, after)) :
    after = store ∨ Booked consent (fun _ => False) ((consumerId, "begin_attempt", commandKey) = ·) taskId store after
      .attemptStarted := by
  simp only [beginAttempt, bind_eq_ok, replayingCommand_eq_ok, pure_eq_ok, Prod.mk.injEq] at done
  obtain ⟨_, _, _, _, replay | fresh⟩ := done
  · obtain ⟨_, _, _, _, _, _, _, _, rfl⟩ := replay
    exact .inl rfl
  · obtain ⟨_, task, stored, _, ready, first, inserted, second, updated, ⟨seq, third⟩, logged, fourth, recorded, _,
      rfl⟩ := fresh
    rw [ensure_eq_ok] at ready
    obtain ⟨current, found, rfl⟩ := view_of_lookup (required_eq_ok.mp stored)
    have own : ∀ row : TaskRow, decide (row.taskId = taskId ∧ row.generation = generation) = true →
        row.taskId = taskId := fun row picked => (of_decide_eq_true picked).1
    obtain ⟨update, moves, step, _⟩ := attemptStarted_moves ⟨attemptId, taskId, generation, store.nextOrdinal taskId⟩
      found ready.2 ready.1 inserted updated own (by simp [row_taskId (view_eq_some found).1, ready.1])
      current.row.adapterInstanceId rfl logged
    exact .inr (.of_command moves recorded found step)

theorem reserveSlot_changed {outcome : DispatchOutcome} {current : TaskView} (found : view store taskId = some current)
    (ready : current.row.state = .queued ∨ current.row.state = .retryWait) (same : current.row.generation = generation)
    (done : store.reserveSlot attemptId operationId operationDigest taskId generation spec now = .ok (outcome, after)) :
    Booked consent (operationId = ·) (fun _ => False) taskId store after .attemptStarted ∧
      (∃ attempt, outcome = .dispatched attempt) ∧
      ∃ next attempt, view after taskId = some next ∧ attempt ∈ next.attempts ∧ attempt.generation = generation ∧
        attempt.adapterInstanceId = spec.adapterInstanceId := by
  simp only [reserveSlot, eq_ok_iff] at done
  obtain ⟨first, inserted, second, updated, ⟨seq, third⟩, logged, fourth, recorded, rfl, rfl⟩ := done
  have own : ∀ row : TaskRow, decide (row.taskId = taskId ∧ row.generation = generation ∧
      (row.state = .queued ∨ row.state = .retryWait)) = true → row.taskId = taskId := by
    intro row picked
    exact (of_decide_eq_true picked).1
  obtain ⟨update, moves, step, added⟩ := attemptStarted_moves
    ⟨attemptId, taskId, generation, store.nextOrdinal taskId⟩ found ready same inserted updated own
    (by simp [row_taskId (view_eq_some found).1, same, ready]) spec.adapterInstanceId rfl logged
  have stored := (((untouched_bookOperation recorded).same taskId).view_eq).trans (moves.moved current found)
  exact ⟨.of_operation moves recorded found step, ⟨_, rfl⟩, _, _, stored, added, rfl, rfl⟩

/-- What `claim_dispatch_slot` did: it repeated an earlier claim, refused, or reserved a slot that was free. -/
inductive Claimed (consent : InteractionRow → ResponseRow → Prop) (store after : Store) (operationId taskId : String)
    (generation : Int) (spec : AttemptSpec) (limits : SchedulerLimits) : DispatchOutcome → Prop where
  | replayed (attempt : Attempt) (known : store.operations.lookup operationId ≠ none) (same : after = store) :
      Claimed consent store after operationId taskId generation spec limits (.dispatched attempt)
  | refused (evidence : DispatchBlocked) (new : store.operations.lookup operationId = none) (same : after = store) :
      Claimed consent store after operationId taskId generation spec limits (.blocked evidence)
  | reserved (attempt : Attempt) (new : store.operations.lookup operationId = none)
      (globalFree : store.readOccupancy.global < limits.global)
      (adapterFree : store.readOccupancy.occupied spec.adapterInstanceId < limits.perAdapter)
      (changed : Booked consent (operationId = ·) (fun _ => False) taskId store after .attemptStarted)
      (added : ∃ next row, view after taskId = some next ∧ row ∈ next.attempts ∧ row.generation = generation ∧
        row.adapterInstanceId = spec.adapterInstanceId)
      (current : ∃ earlier, view store taskId = some earlier ∧ earlier.row.generation = generation) :
      Claimed consent store after operationId taskId generation spec limits (.dispatched attempt)

theorem claimDispatchSlot_claimed {outcome : DispatchOutcome}
    (done : store.claimDispatchSlot codec ambient attemptId operationId taskId generation spec limits now =
      .ok (outcome, after)) : Claimed consent store after operationId taskId generation spec limits outcome := by
  simp only [claimDispatchSlot, bind_eq_ok, replayingOperation_eq_ok, pure_eq_ok, Prod.mk.injEq] at done
  obtain ⟨_, _, _, _, _, _, replay | fresh⟩ := done
  · obtain ⟨_, known, _, attempt, _, _, _, rfl, rfl⟩ := replay
    exact .replayed attempt (by simp [known]) rfl
  · obtain ⟨new, task, stored, _, same, outcome⟩ := fresh
    rw [ensure_eq_ok] at same
    obtain ⟨current, found, rfl⟩ := view_of_lookup (required_eq_ok.mp stored)
    split at outcome
    · simp only [bind_eq_ok, pure_eq_ok, Prod.mk.injEq] at outcome
      obtain ⟨_, _, rfl, rfl⟩ := outcome
      exact .refused _ new rfl
    · rename_i due
      simp only [bind_eq_ok] at outcome
      obtain ⟨_, _, outcome⟩ := outcome
      split at outcome
      · simp only [pure_eq_ok, Prod.mk.injEq] at outcome
        obtain ⟨rfl, rfl⟩ := outcome
        exact .refused _ new rfl
      · rename_i globalFree
        split at outcome
        · simp only [pure_eq_ok, Prod.mk.injEq] at outcome
          obtain ⟨rfl, rfl⟩ := outcome
          exact .refused _ new rfl
        · rename_i adapterFree
          have ready : current.row.state = .queued ∨ current.row.state = .retryWait :=
            (not_not.mp due).imp id And.left
          obtain ⟨changed, ⟨attempt, rfl⟩, added⟩ := reserveSlot_changed found ready same outcome
          exact .reserved attempt new (not_le.mp globalFree) (not_le.mp adapterFree) changed added
            ⟨current, found, same⟩

theorem Claimed.changed {outcome : DispatchOutcome}
    (claimed : Claimed consent store after operationId taskId generation spec limits outcome) :
    after = store ∨ Booked consent (operationId = ·) (fun _ => False) taskId store after .attemptStarted := by
  cases claimed with
  | replayed _ _ same => exact .inl same
  | refused _ _ same => exact .inl same
  | reserved _ _ _ _ changed => exact .inr changed

theorem switchState_moves {source target : TaskState} {middle : Store} {current : TaskView}
    (found : view store taskId = some current)
    (pair : (source = .running ∧ target = .waitingApproval) ∨ (source = .waitingApproval ∧ target = .running))
    (state : current.row.state = source) (same : current.row.generation = generation)
    (attempt : current.phase = some phase) (absent : phase.effectIsProvenAbsent = true) (approved : current.approved)
    (done : store.switchState taskId generation source target now = .ok middle) :
    ∃ update, Moves taskId store middle update ∧ TaskStep consent current (.switched target) (update current) := by
  simp only [switchState, eq_ok_iff] at done
  obtain ⟨first, updated, second, attempts, ⟨seq, third⟩, logged, rfl⟩ := done
  have own := row_taskId (view_eq_some found).1
  refine ⟨_, (moves_updateTasks taskId updated (by simp; tauto)).trans
    ((moves_updateAttempts taskId attempts (fun _ => rfl) (by simp; tauto)).trans (moves_appendEvent logged)), ?_⟩
  have step : TaskStep consent current _ _ :=
    switched source target phase now pair state attempt absent approved
  simpa [setRow, setAttempts, attemptsInState, inState, own, same, state] using step

theorem approved_of_hasApproval {current : TaskView} (found : view store taskId = some current)
    (same : current.row.generation = generation) (approval : store.hasApproval taskId generation = true) :
    current.approved := by
  simp only [hasApproval, any_eq_true, Bool.and_eq_true, decide_eq_true_eq] at approval
  obtain ⟨row, stored, ⟨⟨own, here⟩, answered⟩, response⟩ := approval
  cases kept : store.responses.lookup row.interactionId with
  | none => simp [kept] at response
  | some answer =>
    exact ⟨(row, some answer), (mem_interactions found _).mpr ⟨stored, own, kept.symm⟩, here.trans same.symm, answered,
      answer, rfl, by simpa [kept] using response⟩

/-- The task is in a state at a generation whose attempt runs on the adapter of the request and has no process yet. -/
def Reclaimable (store : Store) (taskId : String) (generation : Int) (spec : AttemptSpec) (state : TaskState) : Prop :=
  ∃ current row, view store taskId = some current ∧ current.row.generation = generation ∧
    current.row.state = state ∧ row ∈ current.attempts ∧ row.generation = generation ∧
    row.adapterInstanceId = spec.adapterInstanceId ∧ row.dispatchPhase.effectIsProvenAbsent = true ∧ current.approved

/-- What `reclaim_preflight_dispatch_slot` did: it repeated an earlier reclaim, refused and gave the slot back if the
task held one, or left the task running within the limits. -/
inductive Reclaimed (consent : InteractionRow → ResponseRow → Prop) (store after : Store)
    (operationId taskId : String) (generation : Int) (spec : AttemptSpec) (limits : SchedulerLimits) :
    DispatchOutcome → Prop where
  | replayed (attempt : Attempt) (known : store.operations.lookup operationId ≠ none) (same : after = store) :
      Reclaimed consent store after operationId taskId generation spec limits (.dispatched attempt)
  | refused (evidence : DispatchBlocked) (new : store.operations.lookup operationId = none) (same : after = store) :
      Reclaimed consent store after operationId taskId generation spec limits (.blocked evidence)
  | rolledBack (evidence : DispatchBlocked) (new : store.operations.lookup operationId = none)
      (ready : Reclaimable store taskId generation spec .running)
      (changed : Booked consent (operationId = ·) (fun _ => False) taskId store after (.switched .waitingApproval)) :
      Reclaimed consent store after operationId taskId generation spec limits (.blocked evidence)
  | kept (attempt : Attempt) (new : store.operations.lookup operationId = none)
      (ready : Reclaimable store taskId generation spec .running)
      (globalFits : store.readOccupancy.global ≤ limits.global)
      (adapterFits : store.readOccupancy.occupied spec.adapterInstanceId ≤ limits.perAdapter)
      (untouched : Untouched store after) (counted : Counted (operationId = ·) (fun _ => False) store after) :
      Reclaimed consent store after operationId taskId generation spec limits (.dispatched attempt)
  | released (attempt : Attempt) (new : store.operations.lookup operationId = none)
      (ready : Reclaimable store taskId generation spec .waitingApproval)
      (globalFree : store.readOccupancy.global < limits.global)
      (adapterFree : store.readOccupancy.occupied spec.adapterInstanceId < limits.perAdapter)
      (changed : Booked consent (operationId = ·) (fun _ => False) taskId store after (.switched .running)) :
      Reclaimed consent store after operationId taskId generation spec limits (.dispatched attempt)

theorem reclaimPreflightDispatchSlot_reclaimed {outcome : DispatchOutcome}
    (done : store.reclaimPreflightDispatchSlot codec ambient operationId taskId generation spec limits now =
      .ok (outcome, after)) : Reclaimed consent store after operationId taskId generation spec limits outcome := by
  simp only [reclaimPreflightDispatchSlot, bind_eq_ok, replayingOperation_eq_ok, pure_eq_ok, Prod.mk.injEq] at done
  obtain ⟨_, _, _, _, _, _, replay | fresh⟩ := done
  · obtain ⟨_, known, _, attempt, _, _, _, rfl, rfl⟩ := replay
    exact .replayed attempt (by simp [known]) rfl
  · obtain ⟨new, task, stored, row, attempt, _, guard, _, approval, outcome⟩ := fresh
    rw [ensure_eq_ok] at guard approval
    obtain ⟨same, state, adapter, _, _, _, absent⟩ := guard
    obtain ⟨current, found, rfl⟩ := view_of_lookup (required_eq_ok.mp stored)
    have own := row_taskId (view_eq_some found).1
    rw [required_eq_ok, currentAttempt, own] at attempt
    have phase := phase_of_attempt found attempt
    obtain ⟨member, key⟩ := of_lookup attempt
    simp only [Prod.mk.injEq] at key
    have approved := approved_of_hasApproval found same approval
    have ready : Reclaimable store taskId generation spec current.row.state :=
      ⟨current, row, found, same, rfl, (mem_attempts found row).mpr ⟨member, key.1⟩, key.2.trans same, adapter, absent,
        approved⟩
    rcases state with state | state
    · simp only [state, if_true] at outcome
      rw [state] at ready
      split at outcome
      · simp only [bind_eq_ok, pure_eq_ok, Prod.mk.injEq] at outcome
        obtain ⟨middle, switched, rfl, rfl⟩ := outcome
        obtain ⟨update, moves, step⟩ := switchState_moves found (.inl ⟨rfl, rfl⟩) state same phase absent approved
          switched
        exact .rolledBack _ new ready ⟨.of_moves moves (untouched_bumpMutationEpoch middle) found step,
          (moves.books.entry _ _).bump⟩
      · rename_i fits
        simp only [bind_eq_ok, pure_eq_ok, Prod.mk.injEq] at outcome
        obtain ⟨_, rfl, attempt, _, last, recorded, rfl, rfl⟩ := outcome
        rw [not_or, not_lt, not_lt] at fits
        exact .kept attempt new ready fits.1 fits.2 (untouched_bookOperation recorded)
          ((SameBooks.refl _).record_operation recorded rfl _).bump
    · simp only [state, reduceCtorEq, if_false] at outcome
      rw [state] at ready
      split at outcome
      · simp only [pure_eq_ok, Prod.mk.injEq] at outcome
        obtain ⟨rfl, rfl⟩ := outcome
        exact .refused _ new rfl
      · rename_i fits
        simp only [bind_eq_ok, pure_eq_ok, Prod.mk.injEq] at outcome
        obtain ⟨middle, switched, attempt, _, last, recorded, rfl, rfl⟩ := outcome
        rw [not_or, not_le, not_le] at fits
        obtain ⟨update, moves, step⟩ := switchState_moves found (.inr ⟨rfl, rfl⟩) state same phase absent approved
          switched
        exact .released attempt new ready fits.1 fits.2 (.of_operation moves recorded found step)

/-- A task that a new reclaim dispatched runs with the attempt it was prepared with and the interactions it had. -/
theorem Reclaimed.running (new : store.operations.lookup operationId = none)
    (reclaimed : Reclaimed consent store after operationId taskId generation spec limits (.dispatched attempt)) :
    Reclaimable after taskId generation spec .running ∧ interactionsOf after taskId = interactionsOf store taskId := by
  cases reclaimed with
  | replayed _ known => exact absurd new known
  | kept _ _ ready _ _ untouched =>
    obtain ⟨current, row, found, rest⟩ := ready
    exact ⟨⟨current, row, ((untouched.same taskId).view_eq).trans found, rest⟩, (untouched.same taskId).interactions⟩
  | released _ _ ready _ _ changed =>
    obtain ⟨current, row, found, same, _, member, rowGeneration, adapter, absent, approved⟩ := ready
    obtain ⟨first, next, firstFound, step, stored⟩ := changed.step
    obtain rfl : first = current := Option.mem_unique firstFound found
    cases step with
    | switched source _ phase now =>
      constructor
      · refine ⟨_, _, stored, same, rfl, mem_updateWhere.mpr ⟨row, member, rfl⟩, ?_, ?_, ?_, approved⟩
        all_goals split <;> assumption
      · exact (view_eq_some stored).2.2.2.1.symm.trans (view_eq_some found).2.2.2.1

theorem recordDispatchPhase_changed {processReceipt : Option String} {replayed : Bool}
    (done : store.recordDispatchPhase codec ambient operationId taskId generation phase processReceipt now =
      .ok (replayed, after)) :
    after = store ∨ (store.operations.lookup operationId = none ∧
      Booked consent (operationId = ·) (fun _ => False) taskId store after (.dispatched phase)) := by
  simp only [recordDispatchPhase, eq_ok_iff, replayingOperation_eq_ok] at done
  obtain ⟨_, _, replay | fresh⟩ := done
  · obtain ⟨_, _, _, _, rfl⟩ := replay
    exact .inl rfl
  · obtain ⟨new, task, stored, attempt, held, _, active, _, advance, _, _, first, attempts, rest⟩ := fresh
    obtain ⟨current, found, rfl, rfl⟩ := view_of_taskAt stored
    have own := row_taskId (view_eq_some found).1
    have step : TaskStep consent current _ _ :=
      dispatched attempt.dispatchPhase phase processReceipt now active (phase_of_attempt found held) advance
    have moved := moves_updateAttempts taskId attempts (fun _ => rfl) (by simp; tauto)
    refine .inr ⟨new, ?_⟩
    split at rest
    · rename_i begun
      simp only [eq_ok_iff] at rest
      obtain ⟨second, started, ⟨seq, third⟩, logged, fourth, recorded, _, rfl⟩ := rest
      have moves := moved.trans ((moves_updateTasks taskId started (by simp; tauto)).trans (moves_appendEvent logged))
      refine .of_operation moves recorded found ?_
      simpa [setRow, setAttempts, advanced, own, begun] using step
    · rename_i begun
      simp only [eq_ok_iff] at rest
      obtain ⟨_, rfl, ⟨seq, third⟩, logged, fourth, recorded, _, rfl⟩ := rest
      refine .of_operation (moved.trans (moves_appendEvent logged)) recorded found ?_
      simpa [setAttempts, advanced, own, begun] using step

theorem recordAdapterEvent_changed {payload : Json}
    (done : store.recordAdapterEvent codec ambient operationId taskId generation kind payload now = .ok (seq, after)) :
    after = store ∨ Booked consent (operationId = ·) (fun _ => False) taskId store after .reported := by
  simp only [recordAdapterEvent, eq_ok_iff, replayingOperation_eq_ok] at done
  obtain ⟨_, ⟨known, _⟩, _, _, replay | fresh⟩ := done
  · obtain ⟨_, _, _, _, _, _, rfl⟩ := replay
    exact .inl rfl
  · obtain ⟨_, task, stored, _, accepts, ⟨_, first⟩, logged, second, recorded, _, rfl⟩ := fresh
    obtain ⟨current, found, rfl, rfl⟩ := view_of_taskAt stored
    exact .inr (.of_operation (moves_appendEvent logged) recorded found (reported kind payload now known accepts))

theorem Housed.view_of_attempt (housed : Housed store) {attempt : AttemptRow}
    (held : store.attempts.lookup (taskId, generation) = some attempt) :
    ∃ current, view store taskId = some current := by
  cases stored : store.tasks.lookup taskId with
  | some task => exact (view_of_lookup stored).imp fun _ => And.left
  | none =>
    obtain ⟨member, key⟩ := of_lookup held
    exact absurd (congrArg Prod.fst key) ((housed taskId stored).no_attempt member)

theorem recordResumableSession_changed (housed : Housed store) {providerSession capabilityDigest : String}
    (done : store.recordResumableSession codec ambient taskId generation providerSession capabilityDigest now = .ok ((),
      after)) : Changed consent taskId store after .sessionRecorded := by
  simp only [recordResumableSession, queryRow, eq_ok_iff] at done
  obtain ⟨_, _, attempt, held, _, _, _, _, first, attempts, _, rfl⟩ := done
  obtain ⟨current, found⟩ := housed.view_of_attempt held
  refine .of_moves (moves_updateAttempts taskId attempts (fun _ => rfl) (by simp; tauto))
    (untouched_bumpMutationEpoch first) found ?_
  have step : TaskStep consent current _ _ :=
    sessionRecorded generation providerSession capabilityDigest
      (digestFields codec [attempt.adapterInstanceId, attempt.adapterVersion, attempt.configDigest, capabilityDigest]) now
  simpa [row_taskId (view_eq_some found).1] using step

/-- A response is stored only for an interaction that exists. -/
theorem Referenced.lookup_none (referenced : Referenced store) (absent : store.interactions.lookup interactionId = none)
    : store.responses.lookup interactionId = none := by
  rw [lookup_eq_none] at absent ⊢
  intro response stored same
  obtain ⟨row, kept, owner⟩ := referenced response stored
  exact absent row kept (owner.trans same)

theorem openInteraction_changed (unique : (store.attempts.rows.map AttemptRow.attemptId).Nodup)
    (referenced : Referenced store) {nonce : String} {request : InteractionRequest} {interaction : Interaction}
    (done : store.openInteraction codec ambient interactionId nonce operationId request now =
      .ok (interaction, after)) :
    after = store ∨ Changed consent request.taskId store after .opened := by
  simp only [openInteraction, eq_ok_iff, replayingOperation_eq_ok, insertRow] at done
  obtain ⟨_, _, _, _, replay | fresh⟩ := done
  · obtain ⟨_, _, _, _, _, _, rfl⟩ := replay
    exact .inl rfl
  · obtain ⟨_, task, stored, attempt, held, _, active, _, _, _, _, interactions, inserted, first, updated, second,
      attempts, ⟨seq, third⟩, logged, fourth, recorded, _, rfl⟩ := fresh
    obtain ⟨current, found, rfl, same⟩ := view_of_taskAt stored
    obtain ⟨held, identified⟩ := Option.filter_eq_some_iff.mp held
    simp only [decide_eq_true_eq] at identified
    have own := row_taskId (view_eq_some found).1
    have absent := (insert_eq_some.mp inserted).1
    have ownAttempt : ∀ row ∈ first.attempts.rows, decide (row.attemptId = request.attemptId) = true →
        row.taskId = request.taskId := by
      obtain ⟨_, rfl⟩ := updateTasks_eq_ok.mp updated
      intro row member picked
      obtain ⟨kept, key⟩ := of_lookup held
      have equal := inj_on_of_nodup_map unique member kept
        ((by simpa using picked : row.attemptId = _).trans identified.symm)
      rw [equal]
      exact congrArg Prod.fst key
    have moves := (moves_insertInteraction inserted).trans
      ((moves_updateTasks request.taskId updated (by simp; tauto)).trans
        ((moves_updateAttempts request.taskId attempts (fun _ => rfl) ownAttempt).trans (moves_appendEvent logged)))
    refine .inr (.of_moves moves (untouched_bookOperation recorded) found ?_)
    have fresh : ∀ entry ∈ current.interactions, entry.1.interactionId ≠ interactionId := by
      intro entry member taken
      exact lookup_eq_none.mp absent entry.1 ((mem_interactions found entry).mp member).1 taken
    have step : TaskStep consent current _ _ :=
      opened (request.newInteraction interactionId nonce now) attempt.dispatchPhase now active
        (phase_of_attempt found (by rw [same]; exact held)) same.symm rfl fresh
    have lookup := referenced.lookup_none absent
    have picked : decide (current.row.taskId = request.taskId ∧ current.row.generation = request.generation) = true := by
      simp [own, same]
    simp only [setRow, lookup, picked, if_true]
    rw [← same]
    exact step

end AgentMesh.Task
