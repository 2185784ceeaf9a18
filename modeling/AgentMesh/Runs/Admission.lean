import AgentMesh.Runs.Operations

/-! Slots. A claim or a reclaim that decides anew counts the slots in use and stays within the limits; a repeated one
answers from its record and counts nothing. -/
namespace AgentMesh.Runs
open Library Daemon AgentMesh.Task Script Store

variable {consent : InteractionRow → ResponseRow → Prop} {before after store : Store} {taskId : String}
  {attempt row : AttemptRow} {current : TaskView}

def Idle (store : Store) (taskId : String) : Prop :=
  ∀ attempt ∈ store.attempts.rows, attempt.taskId = taskId → store.occupies attempt = false

theorem occupies_of_view (found : view store taskId = some current) (own : attempt.taskId = taskId) :
    store.occupies attempt = true ↔ attempt.generation = current.row.generation ∧
      occupyingState current.row.state attempt.dispatchPhase = true := by
  simp only [occupies, own, (view_eq_some found).1, Bool.and_eq_true, beq_iff_eq]
  rw [eq_comm]

theorem idle_of_phase (found : view store taskId = some current)
    (quiet : ∀ phase ∈ current.phase, occupyingState current.row.state phase = false) : Idle store taskId := by
  intro attempt member own
  by_contra occupied
  obtain ⟨generation, busy⟩ := (occupies_of_view found own).mp (by simpa using occupied)
  have phase : current.phase = some attempt.dispatchPhase := by
    apply phase_of_attempt found
    exact (store.attempts.lookup_eq_some _ _).mpr ⟨member, by rw [own, generation]⟩
  rw [quiet _ phase] at busy
  cases busy

theorem idle_of_started (changed : Changed consent taskId before after .attemptStarted) : Idle before taskId := by
  obtain ⟨current, next, found, step, _⟩ := changed.step
  apply idle_of_phase found
  cases step with
  | attemptStarted _ _ _ _ ready =>
    intro phase _
    rcases ready with state | state <;> rw [state] <;> rfl

theorem idle_of_released (changed : Changed consent taskId before after (.switched .running)) : Idle before taskId := by
  obtain ⟨current, next, found, step, _⟩ := changed.step
  apply idle_of_phase found
  cases step with
  | switched source _ phase _ pair state attempt absent =>
    rcases pair with ⟨_, target⟩ | ⟨rfl, _⟩
    · cases target
    · rw [state, attempt]
      rintro _ ⟨⟩
      simp [occupyingState, absent]

theorem idle_of_rolledBack (changed : Changed consent taskId before after (.switched .waitingApproval)) :
    Idle after taskId := by
  obtain ⟨current, next, _, step, stored⟩ := changed.step
  apply idle_of_phase stored
  cases step with
  | switched source _ phase now pair state attempt absent =>
    have same : ((current.attemptsInState (fun attempt => attempt.state = source) .waitingApproval now).inState
        .waitingApproval now).phase = current.phase := by
      unfold TaskView.phase
      exact congrArg _ (congrArg _ (current.attemptsInState_phases now _ _))
    rw [TaskView.append_phase, same, attempt]
    rintro _ ⟨⟩
    simp [TaskView.append, TaskView.inState, occupyingState, absent]

section Count

variable (frame : ∀ other, other ≠ taskId → SameAt other before after) (wanted : AttemptRow → Bool)

include frame

theorem slots_of_frame : after.attempts.rows.countP (fun attempt => after.occupies attempt && wanted attempt) +
        (before.attempts.slice AttemptRow.taskId taskId).countP
          (fun attempt => before.occupies attempt && wanted attempt) =
      before.attempts.rows.countP (fun attempt => before.occupies attempt && wanted attempt) +
        (after.attempts.slice AttemptRow.taskId taskId).countP
          (fun attempt => after.occupies attempt && wanted attempt) := by
  refine countP_of_slices AttemptRow.taskId taskId (fun other differs => (frame other differs).attempts) ?_
  intro attempt other
  rw [occupies, occupies, (frame attempt.taskId other).task]

end Count

theorem own_slots_le_one (store : Store) (taskId : String) (wanted : AttemptRow → Bool) :
    (store.attempts.slice AttemptRow.taskId taskId).countP (fun attempt => store.occupies attempt && wanted attempt) ≤
      1 := by
  rw [List.countP_eq_length_filter]
  cases stored : store.tasks.lookup taskId with
  | none =>
    rw [List.filter_eq_nil_iff.mpr]
    · exact Nat.zero_le 1
    · intro attempt member
      obtain ⟨_, own⟩ := (store.attempts.mem_slice _ _ attempt).mp member
      simp [occupies, own, stored]
  | some task =>
    have distinct : ((store.attempts.slice AttemptRow.taskId taskId).map AttemptRow.generation).Nodup :=
      store.attempts.nodup_slice _ _ _ fun _ _ owner generation => Prod.ext owner generation
    refine length_le_one_of_key AttemptRow.generation task.generation ((List.filter_sublist.map _).nodup distinct) ?_
    intro attempt member
    obtain ⟨inSlice, counted⟩ := List.mem_filter.mp member
    obtain ⟨_, own⟩ := (store.attempts.mem_slice _ _ attempt).mp inSlice
    simp only [occupies, own, stored, Bool.and_eq_true, beq_iff_eq] at counted
    exact counted.1.1.symm

theorem own_slots_of_idle (idle : Idle store taskId) (wanted : AttemptRow → Bool) :
    (store.attempts.slice AttemptRow.taskId taskId).countP (fun attempt => store.occupies attempt && wanted attempt) =
      0 := by
  rw [List.countP_eq_zero]
  intro attempt member
  obtain ⟨inRows, own⟩ := (store.attempts.mem_slice _ _ attempt).mp member
  simp [idle attempt inRows own]

theorem global_eq (store : Store) :
    store.readOccupancy.global = store.attempts.rows.countP fun attempt => store.occupies attempt && true := by
  simp [readOccupancy]

section

variable (frame : ∀ other, other ≠ taskId → SameAt other before after)

include frame

theorem occupancy_grows (idle : Idle before taskId) : after.readOccupancy.global ≤ before.readOccupancy.global + 1 ∧
      ∀ adapter, after.readOccupancy.occupied adapter ≤ before.readOccupancy.occupied adapter + 1 := by
  have grows : ∀ wanted : AttemptRow → Bool,
      after.attempts.rows.countP (fun attempt => after.occupies attempt && wanted attempt) ≤
        before.attempts.rows.countP (fun attempt => before.occupies attempt && wanted attempt) + 1 := by
    intro wanted
    have counted := slots_of_frame frame wanted
    have one := own_slots_le_one after taskId wanted
    rw [own_slots_of_idle idle wanted] at counted
    omega
  rw [global_eq, global_eq]
  exact ⟨grows _, fun adapter => grows fun attempt => attempt.adapterInstanceId == adapter⟩

theorem occupancy_shrinks (idle : Idle after taskId) : after.readOccupancy.global ≤ before.readOccupancy.global := by
  have counted := slots_of_frame frame fun _ => true
  rw [own_slots_of_idle idle] at counted
  rw [global_eq, global_eq]
  omega

end

theorem occupancy_same (untouched : Untouched before after) : after.readOccupancy.global = before.readOccupancy.global ∧
    ∀ adapter, after.readOccupancy.occupied adapter = before.readOccupancy.occupied adapter := by
  have same : ∀ wanted : AttemptRow → Bool,
      after.attempts.rows.countP (fun attempt => after.occupies attempt && wanted attempt) =
        before.attempts.rows.countP (fun attempt => before.occupies attempt && wanted attempt) := by
    intro wanted
    have counted := slots_of_frame (fun other (_ : other ≠ "") => untouched.same other) wanted
    have own : (after.attempts.slice AttemptRow.taskId "").countP
          (fun attempt => after.occupies attempt && wanted attempt) =
        (before.attempts.slice AttemptRow.taskId "").countP
          (fun attempt => before.occupies attempt && wanted attempt) := by
      rw [(untouched.same "").attempts]
      apply List.countP_congr
      intro attempt member
      rw [occupies, occupies, (untouched.same attempt.taskId).task]
    omega
  rw [global_eq, global_eq]
  exact ⟨same _, fun adapter => same fun attempt => attempt.adapterInstanceId == adapter⟩

/-- Every slot of the task is within the limits, in total and for the adapter that takes it. -/
def Fits (limits : SchedulerLimits) (taskId : String) (store : Store) : Prop :=
  ∀ attempt ∈ store.attempts.rows, attempt.taskId = taskId → store.occupies attempt = true →
    store.readOccupancy.global ≤ limits.global ∧
      store.readOccupancy.occupied attempt.adapterInstanceId ≤ limits.perAdapter

instance (limits : SchedulerLimits) (taskId : String) (store : Store) : Decidable (Fits limits taskId store) := by
  unfold Fits
  infer_instance

theorem eq_of_occupies (found : view store taskId = some current) (member : row ∈ current.attempts)
    (generation : row.generation = current.row.generation) (stored : attempt ∈ store.attempts.rows)
    (own : attempt.taskId = taskId) (occupied : store.occupies attempt = true) : attempt = row := by
  obtain ⟨same, _⟩ := (occupies_of_view found own).mp occupied
  exact List.inj_on_of_nodup_map (wellFormed found).generations ((mem_attempts found attempt).mpr ⟨stored, own⟩) member
    (same.trans generation.symm)

theorem fits_of_attempt {limits : SchedulerLimits} (found : view store taskId = some current)
    (member : row ∈ current.attempts) (generation : row.generation = current.row.generation)
    (globalFits : store.readOccupancy.global ≤ limits.global)
    (adapterFits : store.readOccupancy.occupied row.adapterInstanceId ≤ limits.perAdapter) :
    Fits limits taskId store := by
  intro attempt stored own occupied
  obtain rfl := eq_of_occupies found member generation stored own occupied
  exact ⟨globalFits, adapterFits⟩

/-- The two decisions about slots. -/
inductive SlotCall where
  | claim (attemptId : String)
  | reclaim

namespace SlotCall

/-- The operation identifiers of the dispatcher and of the approval orchestrator. -/
def operationId (taskId : String) (generation : Int) : SlotCall → String
  | claim _ => s!"claim:{taskId}:{generation}"
  | reclaim => reclaimOperationId taskId generation

def run (codec : Codec) (ambient : Ambient) (taskId : String) (generation : Int) (spec : AttemptSpec)
    (limits : SchedulerLimits) (now : Int) (store : Store) (call : SlotCall) : Checked (DispatchOutcome × Store) :=
  match call with
  | claim attemptId =>
    store.claimDispatchSlot codec ambient attemptId (call.operationId taskId generation) taskId generation spec limits now
  | reclaim =>
    store.reclaimPreflightDispatchSlot codec ambient (call.operationId taskId generation) taskId generation spec limits
      now

end SlotCall

/-- What a slot decision promises: a dispatched task is within the limits, and a blocked one takes no slot. -/
def Admits (limits : SchedulerLimits) (taskId : String) (before after : Store) : DispatchOutcome → Prop
  | .dispatched _ => Fits limits taskId after
  | .blocked _ =>
    (Idle before taskId → Idle after taskId) ∧ after.readOccupancy.global ≤ before.readOccupancy.global

section Decisions

variable {operationId : String} {generation : Int} {spec : AttemptSpec} {limits : SchedulerLimits}
  {outcome : DispatchOutcome}

theorem generation_of_started (changed : Changed consent taskId store after .attemptStarted) {next : TaskView}
    (stored : view after taskId = some next)
    (current : ∃ earlier, view store taskId = some earlier ∧ earlier.row.generation = generation) :
    next.row.generation = generation := by
  obtain ⟨earlier, earlierFound, same⟩ := current
  obtain ⟨first, last, found, step, lastFound⟩ := changed.step
  obtain rfl : first = earlier := Option.mem_unique found earlierFound
  obtain rfl : last = next := Option.mem_unique lastFound stored
  cases step with
  | attemptStarted => exact same

theorem admits_of_claimed (claimed : Claimed consent store after operationId taskId generation spec limits outcome) :
    Admits limits taskId store after outcome ↔
      store.operations.lookup operationId = none ∨ Fits limits taskId store := by
  cases claimed with
  | replayed attempt known same =>
    subst same
    exact ⟨.inr, fun holds => holds.resolve_left known⟩
  | refused evidence new same =>
    subst same
    exact iff_of_true ⟨id, le_rfl⟩ (.inl new)
  | reserved attempt new globalFree adapterFree changed added current =>
    refine iff_of_true ?_ (.inl new)
    obtain ⟨next, row, stored, member, rowGeneration, adapter⟩ := added
    obtain ⟨total, perAdapter⟩ := occupancy_grows changed.frame (idle_of_started changed.toChanged)
    have kept := generation_of_started changed.toChanged stored current
    refine fits_of_attempt stored member (rowGeneration.trans kept.symm) (by omega) ?_
    have grows := perAdapter row.adapterInstanceId
    rw [adapter] at grows ⊢
    omega

theorem within_of_reclaimed {attempt : Attempt} (new : store.operations.lookup operationId = none)
    (reclaimed : Reclaimed consent store after operationId taskId generation spec limits (.dispatched attempt)) :
    after.readOccupancy.global ≤ limits.global ∧
      after.readOccupancy.occupied spec.adapterInstanceId ≤ limits.perAdapter := by
  cases reclaimed with
  | replayed _ known => exact absurd new known
  | kept _ _ _ globalFits adapterFits untouched =>
    obtain ⟨total, perAdapter⟩ := occupancy_same untouched
    rw [total, perAdapter]
    exact ⟨globalFits, adapterFits⟩
  | released _ _ _ globalFree adapterFree changed =>
    obtain ⟨total, perAdapter⟩ := occupancy_grows changed.frame (idle_of_released changed.toChanged)
    have grows := perAdapter spec.adapterInstanceId
    omega

theorem admits_of_reclaimed
    (reclaimed : Reclaimed consent store after operationId taskId generation spec limits outcome) :
    Admits limits taskId store after outcome ↔
      store.operations.lookup operationId = none ∨ Fits limits taskId store := by
  cases outcome with
  | blocked evidence =>
    cases reclaimed with
    | refused _ new same =>
      subst same
      exact iff_of_true ⟨id, le_rfl⟩ (.inl new)
    | rolledBack _ new ready changed =>
      have idle := idle_of_rolledBack changed.toChanged
      exact iff_of_true ⟨fun _ => idle, occupancy_shrinks changed.frame idle⟩ (.inl new)
  | dispatched attempt =>
    by_cases new : store.operations.lookup operationId = none
    · refine iff_of_true ?_ (.inl new)
      obtain ⟨⟨next, row, stored, same, _, member, rowGeneration, adapter, _⟩, _⟩ := reclaimed.running new
      obtain ⟨total, perAdapter⟩ := within_of_reclaimed new reclaimed
      exact fits_of_attempt stored member (rowGeneration.trans same.symm) total (adapter ▸ perAdapter)
    · cases reclaimed with
      | replayed _ known same =>
        subst same
        exact ⟨.inr, fun holds => holds.resolve_left new⟩
      | kept _ fresh | released _ fresh => exact absurd fresh new

end Decisions

/-- A slot decision keeps its promise exactly when it decides anew or when the store it finds is within the limits. -/
theorem admission_within_limits {codec : Codec} {ambient : Ambient} {generation : Int} {spec : AttemptSpec}
    {limits : SchedulerLimits} {now : Int} {outcome : DispatchOutcome} (call : SlotCall)
    (done : call.run codec ambient taskId generation spec limits now store = .ok (outcome, after)) :
    Admits limits taskId store after outcome ↔
      store.operations.lookup (call.operationId taskId generation) = none ∨ Fits limits taskId store := by
  cases call with
  | claim attemptId =>
    have claimed : Claimed (fun _ _ => True) _ _ _ _ _ _ _ _ := claimDispatchSlot_claimed done
    exact admits_of_claimed claimed
  | reclaim =>
    have reclaimed : Reclaimed (fun _ _ => True) _ _ _ _ _ _ _ _ := reclaimPreflightDispatchSlot_reclaimed done
    exact admits_of_reclaimed reclaimed

/-- A first claim is dispatched within the limits. -/
theorem admission_within_limits_claimed :
    ∃ store attempt after, Reachable (codec []) store ∧
      (SlotCall.claim "a").run (codec []) ambient "t" 0 spec .default 2 store =
        .ok (.dispatched attempt, after) ∧ Fits .default "t" after := by
  obtain ⟨store, run, new, ⟨_, after⟩, called, rfl⟩ : ∃ store, Reachable (codec []) store ∧
      (store.operations.lookup "claim:t:0").isNone = true ∧
      ∃ result, (SlotCall.claim "a").run (codec []) ambient "t" 0 spec .default 2 store = .ok result ∧
        result.1 = .dispatched ⟨"a", "t", 0, 1⟩ :=
    exists_of_script [submit "t" "k"] (by decide +kernel)
  exact ⟨store, _, after, run, called,
    (admission_within_limits (.claim "a") called).mpr (Or.inl (Option.isNone_iff_eq_none.mp new))⟩

/-- A second approval of a task repeats the reclaim of the first one, which dispatches it although another task took
the slot in between. -/
theorem repeated_reclaim_exceeds :
    ∃ store attempt after, Reachable (codec (answers "t" "approve" ["a", "b"])) store ∧
      SlotCall.reclaim.run (codec (answers "t" "approve" ["a", "b"])) ambient "t" 0 spec
        .default 6 store = .ok (.dispatched attempt, after) ∧
      ¬Admits .default "t" store after (.dispatched attempt) := by
  obtain ⟨store, run, ⟨_, after⟩, called, rfl, exceeded⟩ : ∃ store,
      Reachable (codec (answers "t" "approve" ["a", "b"])) store ∧
      ∃ result, SlotCall.reclaim.run (codec (answers "t" "approve" ["a", "b"])) ambient "t" 0 spec .default 6 store =
        .ok result ∧ result.1 = .dispatched ⟨"attempt:t:0", "t", 0, 1⟩ ∧ ¬Fits .default "t" result.2 :=
    exists_of_script [submit "t" "k", claim "t" 0, opening "t" "a",
      .respondInteraction ambient (answer "a" .approve) 4, reclaim "t", opening "t" "b",
      submit "u" "l", claim "u" 0,
      .respondInteraction ambient (answer "b" .approve) 4] (by decide +kernel)
  exact ⟨store, _, after, run, called, exceeded⟩

end AgentMesh.Runs
