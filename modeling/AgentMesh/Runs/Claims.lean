import AgentMesh.Runs.Admission
import AgentMesh.Runs.Commits
import AgentMesh.Runs.Planning

/-! Claiming a plan. The planned tasks, claimed in their order with nothing between, all get their slots. -/
namespace AgentMesh.Runs
open Library Daemon AgentMesh.Task List Store QueuedCandidate

section Reserve

variable {codec : Codec} {store after : Store} {taskId operationId attemptId operationDigest : String}
  {generation now : Int} {spec : AttemptSpec} {limits : SchedulerLimits}

/-- A task that waits for a slot, as the store holds it: no attempt of its generation, and its next event is free. -/
structure Waiting (store : Store) (taskId : String) (generation now : Int) (adapter : String) : Prop where
  task : ∃ task, store.tasks.lookup taskId = some task ∧ task.generation = generation ∧
    (task.state = .queued ∨ (task.state = .retryWait ∧ ∀ due ∈ task.retryAt, due ≤ now)) ∧
    (task.adapterInstanceId = "" ∨ task.adapterInstanceId = adapter) ∧
    store.events.lookup (taskId, task.lastEventSeq + 1) = none
  attempt : store.attempts.lookup (taskId, generation) = none

/-- What a claim leaves as it was, apart from the tasks. -/
structure Books (store after : Store) (operationId attemptId : String) : Prop where
  assignments : after.canaryAssignments = store.canaryAssignments
  engine : after.improvementEngine = store.improvementEngine
  tables : after.improvementTables = store.improvementTables
  operations : ∀ other, other ≠ operationId → after.operations.lookup other = store.operations.lookup other
  attempts : ∀ row ∈ after.attempts.rows, row ∈ store.attempts.rows ∨ row.attemptId = attemptId

theorem appendEvent_ok {task : TaskRow} {kind : String} {payload : Json}
    (stored : store.tasks.lookup taskId = some task) (free : store.events.lookup (taskId, task.lastEventSeq + 1) = none) :
    ∃ seq tasks events, store.appendEvent taskId generation kind payload now =
      .ok (seq, { store with tasks, events }) := by
  obtain ⟨events, added⟩ := store.events.insert_of_free
    { taskId, eventSeq := task.lastEventSeq + 1, generation, kind, payload, committedAt := now } free
  simp only [appendEvent, queryRow, insertRow, stored, eq_ok_iff]
  exact ⟨_, _, events, task, rfl, events, added, rfl, rfl⟩

theorem reserveSlot_ok (waiting : Waiting store taskId generation now spec.adapterInstanceId)
    (new : store.operations.lookup operationId = none) (positive : 1 ≤ spec.configVersion)
    (fresh : ∀ row ∈ store.attempts.rows, row.attemptId ≠ attemptId) :
    ∃ attempt after, store.reserveSlot attemptId operationId operationDigest taskId generation spec now =
      .ok (.dispatched attempt, after) ∧ Books store after operationId attemptId := by
  obtain ⟨⟨task, stored, same, ready, _, free⟩, absent⟩ := waiting
  let attempt : Attempt := ⟨attemptId, taskId, generation, store.nextOrdinal taskId⟩
  obtain ⟨attempts, added⟩ := store.attempts.insert_of_free (spec.newAttempt attempt now) absent
  have inserted : store.insertAttempt attempt spec now = .ok { store with attempts } := by
    simp only [insertAttempt, insertRow, eq_ok_iff]
    exact ⟨(), ⟨positive, fresh⟩, attempts, added, rfl⟩
  let selects : TaskRow → Bool := fun row =>
    row.taskId = taskId ∧ row.generation = generation ∧ (row.state = .queued ∨ row.state = .retryWait)
  let change : TaskRow → TaskRow := fun row =>
    { row with state := .preparing, adapterInstanceId := spec.adapterInstanceId, updatedAt := now }
  have moved : { store with attempts }.updateTasks selects change (fun _ => rfl) =
      .ok { store with attempts, tasks := store.tasks.update selects change (fun _ => rfl) } := by
    refine updateTasks_eq_ok.mpr ⟨fun row _ selected => ?_, rfl⟩
    obtain ⟨_, _, state | state⟩ := of_decide_eq_true selected
    · rw [state]
      rfl
    · rw [state]
      rfl
  have own : task.taskId = taskId := row_taskId stored
  have selected : selects task = true := decide_eq_true ⟨own, same, ready.imp id And.left⟩
  have looked : (store.tasks.update selects change (fun _ => rfl)).lookup taskId = some (change task) := by
    rw [Table.lookup_update, stored, Option.map_some, if_pos selected]
  obtain ⟨seq, tasks, events, logged⟩ := @appendEvent_ok
    { store with attempts, tasks := store.tasks.update selects change (fun _ => rfl) } taskId generation now _
    "attempt_started" (attemptStartedPayload attempt) looked free
  obtain ⟨operations, recorded⟩ := store.operations.insert_of_free
    { operationId, operationDigest, taskId, generation, kind := "claim_dispatch_slot",
      responseLocator := .text attemptId, committedAt := now } new
  simp only [reserveSlot, eq_ok_iff, storeOperation, insertRow]
  refine ⟨attempt, _, ⟨_, inserted, _, moved, _, logged, _, ⟨operations, recorded, rfl⟩, rfl, rfl⟩, rfl, rfl, rfl, ?_, ?_⟩
  · intro other differs
    exact (Table.lookup_insert recorded other).trans (if_neg (Ne.symm differs))
  · intro row member
    have rows : attempts.rows = _ := (Table.insert_eq_some.mp added).2
    have listed : row ∈ attempts.rows := member
    rw [rows, mem_append, mem_singleton] at listed
    obtain old | rfl := listed
    · exact .inl old
    · exact .inr rfl

end Reserve

/-- The arguments of one claim, next to the task that the plan names. -/
structure Claim where
  ambient : Ambient
  attemptId : String
  operationId : String
  spec : AttemptSpec
  now : Int

/-- The arguments pass the checks that a claim makes of any arguments. -/
def Claim.Valid (claim : Claim) : Prop :=
  (0 ≤ claim.now ∧ claim.now ≤ maxSafeTimeUs ∧ claim.operationId ≠ "") ∧
    (AdapterInstanceId.parse claim.spec.adapterInstanceId).isSome = true ∧ 1 ≤ claim.spec.configVersion

instance (claim : Claim) : Decidable claim.Valid := by
  unfold Claim.Valid
  infer_instance

section Single

variable {codec : Codec} {store after : Store} {limits : SchedulerLimits} {dispatch : PlannedDispatch} {claim : Claim}

def Claim.run (codec : Codec) (limits : SchedulerLimits) (store : Store) (dispatch : PlannedDispatch) (claim : Claim) :
    Checked (DispatchOutcome × Store) :=
  store.claimDispatchSlot codec claim.ambient claim.attemptId claim.operationId dispatch.taskId dispatch.generation
    claim.spec limits claim.now

/-- What a claim needs of the store besides a free slot. -/
structure Suits (store : Store) (dispatch : PlannedDispatch) (claim : Claim) : Prop where
  adapter : claim.spec.adapterInstanceId = dispatch.adapterInstanceId
  allowed : ensureMutationAllowed claim.ambient false = .ok ()
  assigned : store.verifyAttemptAssignment dispatch.taskId claim.spec = .ok ()
  new : store.operations.lookup claim.operationId = none
  fresh : ∀ row ∈ store.attempts.rows, row.attemptId ≠ claim.attemptId
  waiting : Waiting store dispatch.taskId dispatch.generation claim.now dispatch.adapterInstanceId

section

variable (suits : Suits store dispatch claim)

include suits

/-- With a free slot, a claim comes down to the check of its arguments and the reservation. -/
theorem Suits.run_eq (globalFree : store.readOccupancy.global < limits.global)
    (adapterFree : store.readOccupancy.occupied dispatch.adapterInstanceId < limits.perAdapter) :
    ∃ digest, claim.run codec limits store dispatch = (do
      validateSlotRequest claim.operationId claim.spec limits claim.now
      store.reserveSlot claim.attemptId claim.operationId digest dispatch.taskId dispatch.generation claim.spec
        claim.now) := by
  obtain ⟨task, stored, same, ready, adapter, _⟩ := suits.waiting.task
  unfold Claim.run claimDispatchSlot
  generalize digestFields codec _ = digest
  refine ⟨digest, ?_⟩
  have started : ¬¬(task.state = .queued ∨ (task.state = .retryWait ∧ ∀ due ∈ task.retryAt, due ≤ claim.now)) :=
    not_not.mpr ready
  have matching : task.adapterInstanceId = "" ∨ task.adapterInstanceId = claim.spec.adapterInstanceId := by
    rwa [suits.adapter]
  have room : ¬limits.perAdapter ≤ store.readOccupancy.occupied claim.spec.adapterInstanceId := by
    rw [suits.adapter]
    omega
  have total : ¬limits.global ≤ store.readOccupancy.global := by omega
  simp only [suits.allowed, suits.assigned, replayingOperation, internalOperationReplay, suits.new, stored,
    required, ensure, same, matching, bind, Except.bind, pure, Except.pure, if_true, if_neg started, if_neg total,
    if_neg room]

theorem Suits.run_ok (limitsValid : limits.valid = true) (valid : claim.Valid)
    (globalFree : store.readOccupancy.global < limits.global)
    (adapterFree : store.readOccupancy.occupied dispatch.adapterInstanceId < limits.perAdapter) :
    ∃ attempt after, claim.run codec limits store dispatch = .ok (.dispatched attempt, after) ∧
      Books store after claim.operationId claim.attemptId := by
  obtain ⟨digest, same⟩ := @Suits.run_eq codec store limits dispatch claim suits globalFree adapterFree
  have waiting := suits.waiting
  rw [← suits.adapter] at waiting
  obtain ⟨attempt, after, reserved, books⟩ := @reserveSlot_ok store dispatch.taskId claim.operationId claim.attemptId
    digest dispatch.generation claim.now claim.spec waiting suits.new valid.2.2 suits.fresh
  refine ⟨attempt, after, ?_, books⟩
  rw [same, bind_eq_ok]
  refine ⟨(), ?_, reserved⟩
  simp only [validateSlotRequest, eq_ok_iff]
  exact ⟨(), valid.1, (), limitsValid, valid.2.1⟩

/-- Arguments that do not pass are refused as such, whatever the slots. -/
theorem Suits.run_refused (limitsValid : limits.valid = true) (invalid : ¬claim.Valid)
    (globalFree : store.readOccupancy.global < limits.global)
    (adapterFree : store.readOccupancy.occupied dispatch.adapterInstanceId < limits.perAdapter) :
    claim.run codec limits store dispatch = .error .invalidRequest ∨
      claim.run codec limits store dispatch = .error (.sql .constraintViolation) := by
  obtain ⟨digest, same⟩ := @Suits.run_eq codec store limits dispatch claim suits globalFree adapterFree
  rw [same]
  by_cases timely : 0 ≤ claim.now ∧ claim.now ≤ maxSafeTimeUs ∧ claim.operationId ≠ ""
  · by_cases parsed : (AdapterInstanceId.parse claim.spec.adapterInstanceId).isSome = true
    · have versioned : ¬(1 ≤ claim.spec.configVersion ∧
          ∀ row ∈ store.attempts.rows, row.attemptId ≠ claim.attemptId) := fun both => invalid ⟨timely, parsed, both.1⟩
      right
      simp only [validateSlotRequest, reserveSlot, insertAttempt, ensure, if_pos timely, if_pos limitsValid,
        if_pos parsed, if_neg versioned, bind, Except.bind]
    · left
      simp only [validateSlotRequest, ensure, if_pos timely, if_pos limitsValid, if_neg parsed, bind, Except.bind]
  · left
    simp only [validateSlotRequest, ensure, if_neg timely, bind, Except.bind]

end

theorem run_unparsed (unparsed : ¬(AdapterInstanceId.parse claim.spec.adapterInstanceId).isSome = true) :
    claim.run codec limits store dispatch = .error .invalidRequest := by
  have refused : validateSlotRequest claim.operationId claim.spec limits claim.now = .error .invalidRequest := by
    simp only [validateSlotRequest, ensure, if_neg unparsed]
    split_ifs <;> rfl
  unfold Claim.run claimDispatchSlot
  rw [refused]
  rfl

theorem run_dispatched {attempt : Attempt} (new : store.operations.lookup claim.operationId = none)
    (done : claim.run codec limits store dispatch = .ok (.dispatched attempt, after)) :
    (∀ other, other ≠ dispatch.taskId → SameAt other store after) ∧
      after.readOccupancy.global ≤ store.readOccupancy.global + 1 ∧
      ∀ adapter, after.readOccupancy.occupied adapter ≤ store.readOccupancy.occupied adapter +
        if claim.spec.adapterInstanceId = adapter then 1 else 0 := by
  have claimed : Claimed (fun _ _ => True) _ _ _ _ _ _ _ _ := claimDispatchSlot_claimed done
  cases claimed with
  | replayed _ known => exact absurd new known
  | reserved _ _ _ _ changed added current =>
    obtain ⟨next, row, stored, member, rowGeneration, adapter⟩ := added
    obtain ⟨total, perAdapter⟩ := occupancy_grows changed.frame (idle_of_started changed.toChanged)
    refine ⟨changed.frame, total, fun other => ?_⟩
    split_ifs with own
    · exact perAdapter other
    · -- The only slot of the task is that of the new attempt, on another adapter.
      have elsewhere : (after.attempts.slice AttemptRow.taskId dispatch.taskId).countP
          (fun attempt => after.occupies attempt && attempt.adapterInstanceId == other) = 0 := by
        rw [countP_eq_zero]
        intro attempt inSlice counted
        obtain ⟨inRows, mine⟩ := (after.attempts.mem_slice _ _ attempt).mp inSlice
        rw [Bool.and_eq_true, beq_iff_eq] at counted
        have generation := rowGeneration.trans (generation_of_started changed.toChanged stored current).symm
        obtain rfl := eq_of_occupies stored member generation inRows mine counted.1
        exact own (adapter.symm.trans counted.2)
      have counted := slots_of_frame changed.frame fun attempt => attempt.adapterInstanceId == other
      rw [elsewhere, own_slots_of_idle (idle_of_started changed.toChanged)] at counted
      exact Nat.le_of_eq counted

theorem Suits.kept {other : PlannedDispatch} {later : Claim} (suits : Suits store other later)
    (frame : ∀ taskId, taskId ≠ dispatch.taskId → SameAt taskId store after)
    (books : Books store after claim.operationId claim.attemptId) (task : other.taskId ≠ dispatch.taskId)
    (operation : later.operationId ≠ claim.operationId) (attempt : later.attemptId ≠ claim.attemptId) :
    Suits after other later := by
  have same := frame other.taskId task
  obtain ⟨⟨row, stored, generation, ready, adapter, free⟩, absent⟩ := suits.waiting
  refine ⟨suits.adapter, suits.allowed, ?_, ?_, ?_, ⟨row, same.task.trans stored, generation, ready, adapter, ?_⟩, ?_⟩
  · have unchanged : after.verifyAttemptAssignment other.taskId later.spec =
        store.verifyAttemptAssignment other.taskId later.spec := by
      simp only [verifyAttemptAssignment, loadImprovementEngine, books.assignments, books.engine, books.tables]
    exact unchanged.trans suits.assigned
  · exact (books.operations _ operation).trans suits.new
  · intro attemptRow member used
    obtain old | new := books.attempts attemptRow member
    · exact suits.fresh attemptRow old used
    · exact attempt (used.symm.trans new)
  · exact Table.absent_of_slice EventRow.taskId same.events (fun _ found => congrArg Prod.fst found) free
  · exact Table.absent_of_slice AttemptRow.taskId same.attempts (fun _ found => congrArg Prod.fst found) absent

end Single

section Round

variable {codec : Codec} {limits : SchedulerLimits}

/-- Claim planned tasks one after the other; a refused claim leaves the store as it was. -/
def claimEach (codec : Codec) (limits : SchedulerLimits) :
    List (PlannedDispatch × Claim) → Store → List (Checked DispatchOutcome)
  | [], _ => []
  | (dispatch, claim) :: rest, store =>
    match claim.run codec limits store dispatch with
    | .ok (outcome, after) => .ok outcome :: claimEach codec limits rest after
    | .error error => .error error :: claimEach codec limits rest store

/-- A claim with valid arguments is dispatched; any other is refused for its arguments. -/
def Settles (claim : Claim) (result : Checked DispatchOutcome) : Prop :=
  if claim.Valid then ∃ attempt, result = .ok (.dispatched attempt)
  else result = .error .invalidRequest ∨ result = .error (.sql .constraintViolation)

/-- The claims of one round: of different tasks, under different names, with room for all of them. -/
structure Claimable (limits : SchedulerLimits) (pairs : List (PlannedDispatch × Claim)) (store : Store) : Prop where
  suits : ∀ pair ∈ pairs, Suits store pair.1 pair.2
  tasks : (pairs.map fun pair => pair.1.taskId).Nodup
  operations : (pairs.map fun pair => pair.2.operationId).Nodup
  attempts : (pairs.map fun pair => pair.2.attemptId).Nodup
  global : pairs.length ≤ limits.global - store.readOccupancy.global
  adapters : ∀ adapter, (pairs.countP fun pair => pair.1.adapterInstanceId == adapter) ≤
    limits.perAdapter - store.readOccupancy.occupied adapter

theorem Claimable.settles (limitsValid : limits.valid = true) {pairs : List (PlannedDispatch × Claim)} {store : Store}
    (claimable : Claimable limits pairs store) :
    List.Forall₂ (fun pair => Settles pair.2) pairs (claimEach codec limits pairs store) := by
  induction pairs generalizing store with
  | nil => exact .nil
  | cons pair rest ih =>
    obtain ⟨dispatch, claim⟩ := pair
    obtain ⟨suits, tasks, operations, attempts, global, adapters⟩ := claimable
    rw [forall_mem_cons] at suits
    rw [map_cons, nodup_cons] at tasks operations attempts
    rw [length_cons] at global
    have here := adapters dispatch.adapterInstanceId
    rw [countP_cons_of_pos (by simp)] at here
    have globalFree : store.readOccupancy.global < limits.global := by omega
    have adapterFree : store.readOccupancy.occupied dispatch.adapterInstanceId < limits.perAdapter := by omega
    have fewer : ∀ adapter, (rest.countP fun pair => pair.1.adapterInstanceId == adapter) ≤
        limits.perAdapter - store.readOccupancy.occupied adapter := by
      intro adapter
      have all := adapters adapter
      rw [countP_cons] at all
      omega
    by_cases valid : claim.Valid
    · obtain ⟨attempt, after, done, books⟩ := suits.1.run_ok limitsValid valid globalFree adapterFree
      obtain ⟨frame, total, perAdapter⟩ := run_dispatched suits.1.new done
      have later : Claimable limits rest after := by
        refine ⟨fun pair member => ?_, tasks.2, operations.2, attempts.2, by omega, fun adapter => ?_⟩
        · refine (suits.2 pair member).kept frame books ?_ ?_ ?_
          · exact fun same => tasks.1 (mem_map.mpr ⟨pair, member, same⟩)
          · exact fun same => operations.1 (mem_map.mpr ⟨pair, member, same⟩)
          · exact fun same => attempts.1 (mem_map.mpr ⟨pair, member, same⟩)
        · have grown := perAdapter adapter
          have all := adapters adapter
          rw [suits.1.adapter] at grown
          rw [countP_cons] at all
          simp only [beq_iff_eq] at all
          split_ifs at grown all <;> omega
      rw [claimEach, done]
      exact .cons (by rw [Settles, if_pos valid]; exact ⟨attempt, rfl⟩) (ih later)
    · have later : Claimable limits rest store :=
        ⟨suits.2, tasks.2, operations.2, attempts.2, by omega, fewer⟩
      obtain refused | refused := suits.1.run_refused limitsValid valid globalFree adapterFree
      · rw [claimEach, refused]
        exact .cons (by rw [Settles, if_neg valid]; exact .inl rfl) (ih later)
      · rw [claimEach, refused]
        exact .cons (by rw [Settles, if_neg valid]; exact .inr rfl) (ih later)

end Round

section Candidates

variable {codec : Codec} {store : Store} {candidates : List QueuedCandidate}

/-- A candidate is a queued or waiting task as the store holds it. -/
def Offered (store : Store) (candidate : QueuedCandidate) : Prop :=
  ∃ task ∈ store.tasks.rows, (task.state = .queued ∨ task.state = .retryWait) ∧ candidate =
    ⟨task.taskId, task.generation, task.state, task.priority, task.createdAt, task.retryAt, store.candidateAdapter task⟩

theorem offered_of_read (read : store.dispatchCandidates = .ok candidates) :
    (candidates.map taskId).Nodup ∧ ∀ candidate ∈ candidates, Offered store candidate := by
  simp only [dispatchCandidates, eq_ok_iff, mapM_eq_ok] at read
  obtain ⟨listed, each, rfl⟩ := read
  have general : ∀ (tasks : List TaskRow) (listed : List QueuedCandidate),
      List.Forall₂ (fun task candidate => store.candidate task = .ok candidate) tasks listed →
      listed = tasks.map fun task => ⟨task.taskId, task.generation, task.state, task.priority, task.createdAt,
        task.retryAt, store.candidateAdapter task⟩ := by
    intro tasks listed each
    induction each with
    | nil => rfl
    | cons here _ ih =>
      simp only [candidate, eq_ok_iff] at here
      obtain ⟨_, _, _, _, rfl⟩ := here
      rw [map_cons, ih]
  have sorted := perm_insertionSort precedes listed
  constructor
  · have names : listed.map taskId = (store.tasks.rows.filter fun task =>
        task.state = .queued ∨ task.state = .retryWait).map TaskRow.taskId := by
      rw [general _ _ each, map_map]
      rfl
    rw [scanOrder, (sorted.map _).nodup_iff, names]
    exact (filter_sublist.map _).nodup store.tasks.keyed
  · intro candidate member
    rw [scanOrder, sorted.mem_iff, general _ _ each, mem_map] at member
    obtain ⟨task, selected, rfl⟩ := member
    obtain ⟨stored, state⟩ := mem_filter.mp selected
    exact ⟨task, stored, of_decide_eq_true state, rfl⟩

/-- A queued or waiting task of a reachable store has no attempt of its generation, and its next event is free. -/
theorem idle_of_reachable (run : Reachable codec store) {taskId : String} {task : TaskRow}
    (stored : store.tasks.lookup taskId = some task) (state : task.state = .queued ∨ task.state = .retryWait) :
    store.attempts.lookup (taskId, task.generation) = none ∧
      store.events.lookup (taskId, task.lastEventSeq + 1) = none := by
  obtain ⟨current, found, rfl⟩ := view_of_lookup stored
  obtain ⟨derived, control⟩ := control_of_reachable run found
  constructor
  · have agrees := control.agrees
    cases present : store.attempts.lookup (taskId, current.row.generation) with
    | none => rfl
    | some attempt =>
      rw [phase_of_attempt found present] at agrees
      obtain state | state := state
      · rw [state] at agrees
        exact absurd agrees.2 (by simp)
      · rw [state] at agrees
        exact absurd agrees.2 (by simp)
  · obtain rfl := row_taskId stored
    exact (roomy_of_reachable run stored).free

theorem waiting_of_ready (run : Reachable codec store) {candidate : QueuedCandidate} (offered : Offered store candidate)
    {time now : Int} {adapter : String} (ready : Ready time candidate adapter) (later : time ≤ now) :
    Waiting store candidate.taskId candidate.generation now adapter := by
  obtain ⟨task, member, state, rfl⟩ := offered
  obtain ⟨assigned, elapsed⟩ := ready
  have stored : store.tasks.lookup task.taskId = some task := (store.tasks.lookup_eq_some _ _).mpr ⟨member, rfl⟩
  obtain ⟨absent, free⟩ := idle_of_reachable run stored state
  refine ⟨⟨task, stored, rfl, ?_, ?_, free⟩, absent⟩
  · obtain queued | waiting := state
    · exact .inl queued
    · refine .inr ⟨waiting, fun due timer => ?_⟩
      rw [Option.mem_def] at timer
      simp only [timerPending, waiting, timer, beq_self_eq_true, Bool.true_and, Option.any_some,
        decide_eq_false_iff_not] at elapsed
      omega
  · by_cases own : task.adapterInstanceId = ""
    · exact .inl own
    · simp only [candidateAdapter, if_pos own, Option.some.injEq] at assigned
      exact .inr assigned

end Candidates

/-- The claims of a plan made at a time: each carries the planned adapter and passes the assignment check, the names
are new, and the clock does not run backwards. -/
@[mk_iff]
structure Prepared (store : Store) (time : Int) (pairs : List (PlannedDispatch × Claim)) : Prop where
  adapter : ∀ pair ∈ pairs, pair.2.spec.adapterInstanceId = pair.1.adapterInstanceId
  allowed : ∀ pair ∈ pairs, ensureMutationAllowed pair.2.ambient false = .ok ()
  assigned : ∀ pair ∈ pairs, store.verifyAttemptAssignment pair.1.taskId pair.2.spec = .ok ()
  later : ∀ pair ∈ pairs, time ≤ pair.2.now
  new : ∀ pair ∈ pairs, store.operations.lookup pair.2.operationId = none
  fresh : ∀ pair ∈ pairs, ∀ row ∈ store.attempts.rows, row.attemptId ≠ pair.2.attemptId
  operations : (pairs.map fun pair => pair.2.operationId).Nodup
  attempts : (pairs.map fun pair => pair.2.attemptId).Nodup

/-- Claims of a plan, in its order, are all dispatched when their arguments are valid; the others are refused for their
arguments. -/
theorem plan_claimable {codec : Codec} {store : Store} (run : Reachable codec store)
    {candidates : List QueuedCandidate} (read : store.dispatchCandidates = .ok candidates) {policy : SchedulerPolicy}
    {time : Int} {plan : DispatchPlan} (planned : planDispatch candidates store.readOccupancy policy time = .ok plan)
    (pairs : List (PlannedDispatch × Claim)) (order : pairs.map Prod.fst = plan.dispatch)
    (prepared : Prepared store time pairs) :
    List.Forall₂ (fun pair => Settles pair.2) pairs (claimEach codec policy.limits pairs store) := by
  obtain ⟨distinct, offered⟩ := offered_of_read read
  have valid : policy.validate = .ok () := by
    simp only [planDispatch, bind_eq_ok] at planned
    obtain ⟨_, valid, _⟩ := planned
    exact valid
  have positive := positive_of_valid valid
  rw [planDispatch_eq candidates valid, Except.ok.injEq] at planned
  have dispatches : plan.dispatch = dispatched policy store.readOccupancy time (scanOrder candidates) := by
    rw [← planned]
    rfl
  obtain ⟨total, perAdapter⟩ := @dispatched_within policy store.readOccupancy time positive (scanOrder candidates)
  have names := @dispatched_distinct policy store.readOccupancy time positive candidates distinct
  obtain ⟨chosen, sublist, ready, chosenAs⟩ := @dispatched_sublist policy store.readOccupancy time positive
    (scanOrder candidates)
  rw [← dispatches, ← order] at total perAdapter names chosenAs
  refine Claimable.settles (limits_of_valid valid)
    ⟨fun pair member => ?_, ?_, prepared.operations, prepared.attempts, ?_, ?_⟩
  · refine ⟨prepared.adapter pair member, prepared.allowed pair member, prepared.assigned pair member,
      prepared.new pair member, prepared.fresh pair member, ?_⟩
    have listed : pair.1 ∈ pairs.map Prod.fst := mem_map_of_mem member
    rw [chosenAs] at listed
    obtain ⟨candidate, chosenIn, same⟩ := mem_map.mp listed
    obtain ⟨adapter, waiting⟩ := ready candidate chosenIn
    have source : candidate ∈ candidates :=
      (perm_insertionSort QueuedCandidate.precedes candidates).mem_iff.mp (sublist.subset chosenIn)
    have waits := waiting_of_ready run (offered candidate source) waiting (prepared.later pair member)
    rw [waiting.1] at same
    rw [← same]
    exact waits
  · rwa [map_map] at names
  · rwa [length_map] at total
  · intro adapter
    have bound := perAdapter adapter
    rwa [countP_map] at bound

instance (store : Store) (time : Int) (pairs : List (PlannedDispatch × Claim)) : Decidable (Prepared store time pairs) :=
  decidable_of_iff' _ (prepared_iff store time pairs)

/-- Two submitted tasks with an adapter each are planned and dispatched. -/
theorem plan_claimable_submitted :
    ∃ store candidates plan pairs first second, Reachable (Script.codec []) store ∧
      store.dispatchCandidates = .ok candidates ∧
      planDispatch candidates store.readOccupancy .default 2 = .ok plan ∧ pairs.map Prod.fst = plan.dispatch ∧
      claimEach (Script.codec []) SchedulerLimits.default pairs store =
        [.ok (.dispatched first), .ok (.dispatched second)] := by
  let other : AttemptSpec := { Script.spec with adapterInstanceId := "claude:local:default:" ++ Script.digest }
  let pairs : List (PlannedDispatch × Claim) :=
    [(⟨"s", 0, 5, Script.spec.adapterInstanceId⟩, ⟨Script.ambient, "a", "claim:s:0", Script.spec, 2⟩),
      (⟨"t", 0, 5, other.adapterInstanceId⟩, ⟨Script.ambient, "b", "claim:t:0", other, 2⟩)]
  let candidates : List QueuedCandidate := [⟨"s", 0, .queued, 5, 1, none, some Script.spec.adapterInstanceId⟩,
    ⟨"t", 0, .queued, 5, 1, none, some other.adapterInstanceId⟩]
  obtain ⟨store, run, read, planned, prepared⟩ : ∃ store, Reachable (Script.codec []) store ∧
      store.dispatchCandidates = .ok candidates ∧
      planDispatch candidates store.readOccupancy .default 2 = .ok ⟨pairs.map Prod.fst, []⟩ ∧
      Prepared store 2 pairs :=
    exists_of_script [.submit Script.ambient "console" "task.submit" "s" (utf8 "s") "s" none 5
        (some Script.spec.adapterInstanceId) 1,
      .submit Script.ambient "console" "task.submit" "t" (utf8 "t") "t" none 5 (some other.adapterInstanceId) 1]
      (by decide +kernel)
  have settled := plan_claimable run read planned pairs rfl prepared
  obtain ⟨validFirst, validSecond⟩ : (⟨Script.ambient, "a", "claim:s:0", Script.spec, 2⟩ : Claim).Valid ∧
      (⟨Script.ambient, "b", "claim:t:0", other, 2⟩ : Claim).Valid := by decide +kernel
  simp only [pairs, forall₂_cons_left_iff, forall₂_nil_left_iff, Settles, if_pos validFirst, if_pos validSecond] at settled
  obtain ⟨_, _, ⟨first, rfl⟩, ⟨_, _, ⟨second, rfl⟩, rfl, rfl⟩, listed⟩ := settled
  exact ⟨store, _, _, _, first, second, run, read, planned, rfl, listed⟩

/-- `begin_attempt` takes any text as an adapter. A retry of its task is planned for that adapter, and no claim that
carries the adapter passes the check of its arguments. -/
theorem planned_adapter_refused :
    ∃ store candidates plan dispatch claim, Reachable (Script.codec []) store ∧
      store.dispatchCandidates = .ok candidates ∧
      planDispatch candidates store.readOccupancy .default 4 = .ok plan ∧ plan.dispatch = [dispatch] ∧
      Prepared store 4 [(dispatch, claim)] ∧
      claimEach (Script.codec []) SchedulerLimits.default [(dispatch, claim)] store = [.error .invalidRequest] := by
  let spec : AttemptSpec := { Script.spec with adapterInstanceId := "x" }
  let dispatch : PlannedDispatch := ⟨"t", 1, 5, "x"⟩
  let claim : Claim := ⟨Script.ambient, "b", "claim:t:1", spec, 4⟩
  obtain ⟨store, run, read, planned, prepared⟩ : ∃ store, Reachable (Script.codec []) store ∧
      store.dispatchCandidates = .ok [⟨"t", 1, .retryWait, 5, 1, some 4, some "x"⟩] ∧
      planDispatch [⟨"t", 1, .retryWait, 5, 1, some 4, some "x"⟩] store.readOccupancy .default 4 =
        .ok ⟨[dispatch], []⟩ ∧
      Prepared store 4 [(dispatch, claim)] :=
    exists_of_script [Script.submit "t" "k",
      .beginAttempt Script.ambient "a" "console" "begin" Script.digest "t" 0 spec 2,
      .scheduleSafeRetry Script.ambient "retry" "t" 0 4 3] (by decide +kernel)
  have refused : claim.run (Script.codec []) SchedulerLimits.default store dispatch = .error .invalidRequest :=
    run_unparsed (by decide)
  refine ⟨store, _, _, dispatch, claim, run, read, planned, rfl, prepared, ?_⟩
  rw [claimEach, refused, claimEach]

end AgentMesh.Runs
