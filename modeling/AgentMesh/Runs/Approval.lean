import AgentMesh.Runs.Operations

/-! Preflight approvals. `apply_response` reports an approval from three sources: the answer it commits, any earlier
approval of the generation, and the record of an earlier reclaim. Here is exactly when its report is right. -/
namespace AgentMesh.Runs
open Library Daemon AgentMesh.Task Option

variable {codec : Codec} {store after : Store}

/-- The most recently opened interaction of a task and generation, with its answer. -/
def latestInteraction (store : Store) (taskId : String) (generation : Int) :
    Option (InteractionRow × Option ResponseRow) :=
  ((interactionsOf store taskId).filter fun entry => entry.1.generation = generation).getLast?

/-- The interaction was answered with `approve`. -/
def IsApproved (entry : InteractionRow × Option ResponseRow) : Prop :=
  entry.1.state = .answered ∧ ∃ response, entry.2 = some response ∧ response.responseKind = .approve

/-- The task runs at a generation whose attempt has no process yet, and nobody asked to cancel it. -/
def RunsPreflight (store : Store) (taskId : String) (generation : Int) : Prop :=
  ∃ task attempt, store.tasks.lookup taskId = some task ∧ task.generation = generation ∧ task.state = .running ∧
    task.cancelRequestedAt = none ∧ store.attempts.lookup (taskId, generation) = some attempt ∧
    (attempt.dispatchPhase = .preDispatch ∨ attempt.dispatchPhase = .spawnPrepared)

def ApprovalHolds (store : Store) (taskId : String) (generation : Int) : Prop :=
  (∃ entry, latestInteraction store taskId generation = some entry ∧ IsApproved entry) ∧
    RunsPreflight store taskId generation

/-- When the report will be right: the latest interaction is the one that is answered, with `approve`, or was approved
before; and the reclaim is not recorded yet, or this is the first answer to an interaction the task still waits for. -/
def ApprovalDue (consumerId : String) (answer : InteractionAnswer) (store : Store) : Prop :=
  (∃ entry, latestInteraction store answer.taskId answer.generation = some entry ∧
    ((entry.1.interactionId = answer.interactionId ∧ answer.responseKind = .approve) ∨
      (entry.1.interactionId ≠ answer.interactionId ∧ IsApproved entry))) ∧
  (store.operations.lookup (reclaimOperationId answer.taskId answer.generation) = none ∨
    (store.commands.lookup (consumerId, "interaction_response", answer.commandKey) = none ∧
      ∃ task, store.tasks.lookup answer.taskId = some task ∧ task.generation = answer.generation ∧
        (task.state = .running ∨ (task.state = .waitingApproval ∧
          ∃ row, store.interactions.lookup answer.interactionId = some row ∧ row.taskId = answer.taskId))))

section Read

variable {readable : Store → TaskRow → Checked Unit} {taskId : String}

theorem snapshot_eq_ok {snapshot : TaskSnapshot} (done : store.snapshot readable taskId = .ok snapshot) :
    ∃ task, store.tasks.lookup taskId = some task ∧ snapshot.state = task.state ∧
      snapshot.dispatchPhase = (store.currentAttempt task).map AttemptRow.dispatchPhase := by
  simp only [Store.snapshot, queryRow, eq_ok_iff] at done
  obtain ⟨task, stored, _, _, _, _, _, _, rfl⟩ := done
  exact ⟨task, stored, rfl, rfl⟩

theorem taskState_eq_ok {state : TaskState} (done : store.taskState readable taskId = .ok state) :
    ∃ task, store.tasks.lookup taskId = some task ∧ task.state = state := by
  obtain ⟨snapshot, read, rfl⟩ := map_eq_ok.mp done
  obtain ⟨task, stored, state, _⟩ := snapshot_eq_ok read
  exact ⟨task, stored, state.symm⟩

theorem dispatchPhase_eq_ok {phase : DispatchPhase} (done : store.dispatchPhase readable taskId = .ok phase) :
    ∃ task attempt, store.tasks.lookup taskId = some task ∧
      store.attempts.lookup (taskId, task.generation) = some attempt ∧ attempt.dispatchPhase = phase := by
  simp only [Store.dispatchPhase, eq_ok_iff] at done
  obtain ⟨snapshot, read, phase⟩ := done
  obtain ⟨task, stored, _, phases⟩ := snapshot_eq_ok read
  rw [phases, map_eq_some_iff] at phase
  obtain ⟨attempt, held, rfl⟩ := phase
  rw [Store.currentAttempt, row_taskId stored] at held
  exact ⟨task, attempt, stored, held, rfl⟩

end Read

variable {world : Surroundings} {consumerId : String} {answer : InteractionAnswer} {attempt : Attempt}

theorem applyPreflight_approved
    (done : store.applyPreflight codec world consumerId answer = (.ok (.preflightApproved attempt), after)) :
    store.reclaimPreflightDispatchSlot codec (world.ambient 1) (reclaimOperationId answer.taskId answer.generation)
      answer.taskId answer.generation answer.spec answer.limits (saturatingAdd answer.now 1) =
      .ok (.dispatched attempt, after) := by
  unfold Store.applyPreflight at done
  split at done
  · split at done <;> simp at done
  · split at done
    · simp at done
    · rename_i dispatched last reclaimed
      simp only [Prod.mk.injEq, Except.ok.injEq, AppliedInteraction.preflightApproved.injEq] at done
      obtain ⟨rfl, rfl⟩ := done
      exact reclaimed
    · simp at done

theorem replayedInteraction_ne :
    store.replayedInteraction codec answer ≠ (.ok (.preflightApproved attempt), after) := by
  unfold Store.replayedInteraction
  split <;> simp

theorem applyBeforeDispatch_approved {replayed : Bool}
    (done : store.applyBeforeDispatch codec world consumerId answer replayed =
      (.ok (.preflightApproved attempt), after)) :
    (∃ task, store.tasks.lookup answer.taskId = some task ∧ (replayed = true → task.state ≠ .running)) ∧
      store.reclaimPreflightDispatchSlot codec (world.ambient 1) (reclaimOperationId answer.taskId answer.generation)
        answer.taskId answer.generation answer.spec answer.limits (saturatingAdd answer.now 1) =
        .ok (.dispatched attempt, after) := by
  unfold Store.applyBeforeDispatch at done
  split at done
  · simp at done
  · rename_i before read
    obtain ⟨task, stored, rfl⟩ := taskState_eq_ok read
    split at done
    · simp at done
    · rename_i applied last result
      split at done
      · exact absurd done replayedInteraction_ne
      · rename_i new
        simp only [Prod.mk.injEq, Except.ok.injEq] at done
        obtain ⟨rfl, rfl⟩ := done
        refine ⟨⟨task, stored, fun repeated running => new ?_⟩, applyPreflight_approved result⟩
        simp [repeated, running, alreadyApplied]

theorem applyResponse_approved
    (done : store.applyResponse codec world consumerId answer = (.ok (.preflightApproved attempt), after)) :
    ∃ replayed middle task current,
      store.respondInteraction codec (world.ambient 0) (answer.request consumerId) answer.now = .ok (replayed, middle) ∧
      middle.tasks.lookup answer.taskId = some task ∧
      middle.attempts.lookup (answer.taskId, task.generation) = some current ∧
      current.dispatchPhase.effectIsProvenAbsent = true ∧ (replayed = true → task.state ≠ .running) ∧
      middle.reclaimPreflightDispatchSlot codec (world.ambient 1) (reclaimOperationId answer.taskId answer.generation)
        answer.taskId answer.generation answer.spec answer.limits (saturatingAdd answer.now 1) =
        .ok (.dispatched attempt, after) := by
  unfold Store.applyResponse at done
  split at done
  · simp at done
  · rename_i replayed middle answered
    split at done
    · simp at done
    · rename_i phase read
      obtain ⟨task, current, stored, held, rfl⟩ := dispatchPhase_eq_ok read
      split at done
      · rename_i absent
        obtain ⟨⟨same, sameStored, repeated⟩, reclaimed⟩ := applyBeforeDispatch_approved done
        obtain rfl : same = task := mem_unique sameStored stored
        exact ⟨replayed, middle, same, current, answered, stored, held, absent, repeated, reclaimed⟩
      · split at done
        · exact absurd done replayedInteraction_ne
        · split at done
          · simp at done
          · split at done <;> simp at done

section Latest

variable {taskId : String} {generation : Int}

theorem mem_of_latest {entry : InteractionRow × Option ResponseRow}
    (latest : latestInteraction store taskId generation = some entry) :
    store.interactions.lookup entry.1.interactionId = some entry.1 ∧ entry.1.taskId = taskId ∧
      entry.2 = store.responses.lookup entry.1.interactionId := by
  have listed := (List.mem_filter.mp (List.mem_of_getLast? latest)).1
  obtain ⟨row, member, rfl⟩ := List.mem_map.mp listed
  obtain ⟨stored, own⟩ := (store.interactions.mem_slice _ _ row).mp member
  exact ⟨(store.interactions.lookup_eq_some _ _).mpr ⟨stored, rfl⟩, own, rfl⟩

theorem latest_updateWhere {selects : InteractionRow × Option ResponseRow → Bool}
    {change : InteractionRow × Option ResponseRow → InteractionRow × Option ResponseRow}
    (changed : interactionsOf after taskId = updateWhere selects change (interactionsOf store taskId))
    (keeps : ∀ entry, (change entry).1.generation = entry.1.generation) :
    latestInteraction after taskId generation =
      (latestInteraction store taskId generation).map fun entry => if selects entry then change entry else entry := by
  unfold latestInteraction
  rw [changed, filter_updateWhere _ _ _ (fun entry => by rw [keeps entry]), updateWhere, List.getLast?_map]

/-- An answer reaches the latest interaction only if that is the one it answers. -/
theorem latest_of_answered {replayed : Bool} {request : ResponseRequest} {now : Int}
    (answered : Answered codec store after request now replayed) :
    (∃ entry, latestInteraction after taskId generation = some entry ∧ IsApproved entry) ↔
      ∃ entry, latestInteraction store taskId generation = some entry ∧
        ((entry.1.interactionId = request.interactionId ∧ request.responseKind = .approve) ∨
          (entry.1.interactionId ≠ request.interactionId ∧ IsApproved entry)) := by
  cases answered with
  | replayed row response _ stored isAnswered evidence kind same =>
    subst same
    refine exists_congr fun entry => and_congr_right fun latest => ?_
    obtain ⟨listed, _, joined⟩ := mem_of_latest latest
    by_cases here : entry.1.interactionId = request.interactionId
    · obtain rfl : row = entry.1 := some.inj (stored.symm.trans (here ▸ listed))
      have approved : IsApproved entry ↔ request.responseKind = .approve := by
        simp [IsApproved, isAnswered, joined, evidence, kind]
      simp [here, approved]
    · simp [here]
  | fresh row current new stored found _ changed next _ =>
    by_cases own : row.taskId = taskId
    · subst own
      have changed : interactionsOf after row.taskId =
          updateWhere (fun entry => entry.1.interactionId = request.interactionId)
            (fun entry => ({ entry.1 with state := .answered, updatedAt := now },
              some (request.newResponse codec now))) (interactionsOf store row.taskId) := by
        rw [← (view_eq_some next).2.2.2.1, ← (view_eq_some found).2.2.2.1]
        rfl
      have rewritten := @latest_updateWhere store after row.taskId generation _ _ changed fun _ => rfl
      rw [rewritten]
      simp only [map_eq_some_iff, exists_exists_and_eq_and]
      refine exists_congr fun entry => and_congr_right fun _ => ?_
      by_cases here : entry.1.interactionId = request.interactionId <;> simp [here, IsApproved]
    · have same : latestInteraction after taskId generation = latestInteraction store taskId generation := by
        unfold latestInteraction
        rw [(changed.frame taskId (Ne.symm own)).interactions]
      rw [same]
      refine exists_congr fun entry => and_congr_right fun latest => ?_
      obtain ⟨listed, ofTask, _⟩ := mem_of_latest latest
      have apart : entry.1.interactionId ≠ request.interactionId := by
        intro here
        obtain rfl : row = entry.1 := some.inj (stored.symm.trans (here ▸ listed))
        exact own ofTask
      simp [apart]

end Latest

section Running

variable {taskId : String} {generation : Int}

theorem absent_iff (phase : DispatchPhase) :
    phase.effectIsProvenAbsent = true ↔ phase = .preDispatch ∨ phase = .spawnPrepared := by
  cases phase <;> simp [DispatchPhase.effectIsProvenAbsent]

theorem runsPreflight_iff (run : Reachable codec store) {task : TaskRow} {current : AttemptRow}
    (stored : store.tasks.lookup taskId = some task)
    (held : store.attempts.lookup (taskId, task.generation) = some current)
    (absent : current.dispatchPhase.effectIsProvenAbsent = true) :
    RunsPreflight store taskId generation ↔ task.generation = generation ∧ task.state = .running := by
  constructor
  · rintro ⟨other, _, otherStored, same, running, _⟩
    obtain rfl : task = other := mem_unique stored otherStored
    exact ⟨same, running⟩
  · rintro ⟨rfl, running⟩
    obtain ⟨view, found, rfl⟩ := view_of_lookup stored
    obtain ⟨derived, control⟩ := control_of_reachable run found
    have open_ := control.not_cancelled_of_not_cancelling (by rw [running]; rfl)
    exact ⟨view.row, current, stored, rfl, running, open_, held, (absent_iff _).mp absent⟩

theorem runsPreflight_of_reclaimable (run : Reachable codec store) {spec : AttemptSpec}
    (ready : Reclaimable store taskId generation spec .running) : RunsPreflight store taskId generation := by
  obtain ⟨view, row, found, rfl, running, member, rowGeneration, _, absent, _⟩ := ready
  obtain ⟨listed, own⟩ := (mem_attempts found row).mp member
  refine (runsPreflight_iff run (view_eq_some found).1 ?_ absent).mpr ⟨rfl, running⟩
  exact (store.attempts.lookup_eq_some _ _).mpr ⟨listed, Prod.ext own rowGeneration⟩

theorem running_of_answered {request : ResponseRequest} {now : Int}
    (answered : Answered codec store after request now false) {task : TaskRow}
    (stored : after.tasks.lookup taskId = some task) :
    (task.generation = request.expectedGeneration ∧ task.state = .running) ↔
      ∃ earlier, store.tasks.lookup taskId = some earlier ∧ earlier.generation = request.expectedGeneration ∧
        (earlier.state = .running ∨ (earlier.state = .waitingApproval ∧
          ∃ row, store.interactions.lookup request.interactionId = some row ∧ row.taskId = taskId)) := by
  cases answered with
  | fresh row current _ held found generation changed next _ =>
    by_cases own : row.taskId = taskId
    · subst own
      have released := current.released_state row.generation now
      obtain rfl : (current.answeredBy row (request.newResponse codec now) now).row = task :=
        some.inj ((view_eq_some next).1.symm.trans stored)
      have state : (current.answeredBy row (request.newResponse codec now) now).row.state =
          (current.released row.generation now).row.state := rfl
      have sameGeneration : (current.answeredBy row (request.newResponse codec now) now).row.generation =
          current.row.generation := (current.released_row row.generation now).1
      rw [state, sameGeneration, released, generation]
      simp only [(view_eq_some found).1, held, some.injEq, exists_eq_left', and_true]
      refine and_congr_right fun same => ?_
      by_cases waits : current.row.state = .waitingApproval <;> simp [same, waits]
    · have same := (changed.frame taskId (Ne.symm own)).task
      rw [stored] at same
      simp only [← same, held, some.injEq, exists_eq_left', own, and_false, or_false]

end Running

/-- `apply_response` reports an approval rightly exactly when the approval was due. -/
theorem approval_reported (run : Operated codec Store.initial store)
    (done : store.applyResponse codec world consumerId answer = (.ok (.preflightApproved attempt), after)) :
    ApprovalHolds after answer.taskId answer.generation ↔ ApprovalDue consumerId answer store := by
  have reached : Reachable codec store := run.committed
  obtain ⟨replayed, middle, task, current, responded, stored, held, absent, repeated, reclaim⟩ :=
    applyResponse_approved done
  have answered := respondInteraction_answered (keyed_of_reachable reached).housed responded
  have latest := @latest_of_answered codec store middle answer.taskId answer.generation _ _ _ answered
  have middleReached : Reachable codec middle := reached.trans (respondInteraction_committed responded)
  have reclaimed : Reclaimed (Consented codec after) _ _ _ _ _ _ _ _ := reclaimPreflightDispatchSlot_reclaimed reclaim
  have operations : middle.operations = store.operations := by
    cases answered with
    | replayed _ _ _ _ _ _ _ same => rw [same]
    | fresh _ _ _ _ _ _ _ _ operations => exact operations
  by_cases new : store.operations.lookup (reclaimOperationId answer.taskId answer.generation) = none
  · obtain ⟨ready, same⟩ := reclaimed.running (operations ▸ new)
    have afterReached : Reachable codec after := by
      have committed := @applyResponse_committed codec store world consumerId answer
      rw [done] at committed
      exact reached.trans committed
    have unchanged : latestInteraction after answer.taskId answer.generation =
        latestInteraction middle answer.taskId answer.generation := by
      rw [latestInteraction, same, latestInteraction]
    rw [ApprovalHolds, unchanged, latest]
    exact and_congr Iff.rfl (iff_of_true (runsPreflight_of_reclaimable afterReached ready) (Or.inl new))
  · obtain rfl : after = middle := by
      cases reclaimed with
      | replayed _ _ same => exact same
      | kept _ fresh | released _ fresh => exact absurd (operations ▸ fresh) new
    refine and_congr latest ((runsPreflight_iff middleReached stored held absent).trans ?_)
    cases replayed with
    | true =>
      refine iff_of_false (fun holds => repeated rfl holds.2) ?_
      cases answered with
      | replayed _ _ known => exact fun due => due.elim new fun first => known first.1
    | false =>
      have first : store.commands.lookup (consumerId, "interaction_response", answer.commandKey) = none := by
        cases answered with
        | fresh _ _ new => exact new
      rw [or_iff_right new, and_iff_right first]
      exact running_of_answered answered stored

def approvedAttempt : Except ApprovalError AppliedInteraction → Option Attempt
  | .ok (.preflightApproved attempt) => some attempt
  | _ => none

theorem approvedAttempt_eq_some {result : Except ApprovalError AppliedInteraction}
    (approved : approvedAttempt result = some attempt) : result = .ok (.preflightApproved attempt) := by
  unfold approvedAttempt at approved
  split at approved
  · cases approved
    rfl
  · cases approved

def quietWorld : Surroundings where
  ambient _ := Script.ambient
  readable _ _ _ := pure ()
  resultId := "result"
  ackToken := Script.digest
  live := none

def answerTo (interactionId : String) (kind : InteractionResponseKind) : InteractionAnswer where
  taskId := "t"
  commandKey := s!"answer:{interactionId}"
  canonicalCommandBytes := utf8 s!"answer:{interactionId}"
  interactionId := interactionId
  nonce := s!"nonce:{interactionId}"
  generation := 0
  operationDigest := Script.digest
  policyDigest := Script.digest
  configDigest := Script.digest
  responseKind := kind
  canonicalResponseBytes := utf8 kind.asStr
  now := 4
  spec := Script.spec
  limits := .default

def approveThenDeny : Codec := Script.codec (Script.answers "t" "approve" ["a"] ++ Script.answers "t" "deny" ["b"])

/-- The first approval of a waiting task. -/
theorem approval_reported_first :
    ∃ store attempt after, Operated approveThenDeny Store.initial store ∧
      store.applyResponse approveThenDeny quietWorld "console" (answerTo "a" .approve) =
        (.ok (.preflightApproved attempt), after) ∧ ApprovalHolds after "t" 0 := by
  obtain ⟨store, run, approved, latest, new⟩ : ∃ store, Reachable approveThenDeny store ∧
      approvedAttempt (store.applyResponse approveThenDeny quietWorld "console" (answerTo "a" .approve)).1 =
        some ⟨"attempt:t:0", "t", 0, 1⟩ ∧
      ((latestInteraction store "t" 0).map fun entry => entry.1.interactionId) = some "a" ∧
      (store.operations.lookup (reclaimOperationId "t" 0)).isNone = true :=
    exists_of_script [Script.submit "t" "k", Script.claim "t" 0, Script.opening "t" "a"] (by decide +kernel)
  have start := Operated.of_reachable run
  have done : store.applyResponse approveThenDeny quietWorld "console" (answerTo "a" .approve) =
      (.ok (.preflightApproved ⟨"attempt:t:0", "t", 0, 1⟩), _) := Prod.ext (approvedAttempt_eq_some approved) rfl
  obtain ⟨entry, found, named⟩ := Option.map_eq_some_iff.mp latest
  refine ⟨store, _, _, start, done, (approval_reported start done).mpr ?_⟩
  exact ⟨⟨entry, found, Or.inl ⟨named, rfl⟩⟩, Or.inl (Option.isNone_iff_eq_none.mp new)⟩

/-- A task whose second interaction was denied is reported as approved when the answer to its first one is repeated,
although it is cancelled. -/
theorem repeated_approval_after_denial :
    ∃ store attempt after, Operated approveThenDeny Store.initial store ∧
      store.applyResponse approveThenDeny quietWorld "console" (answerTo "a" .approve) =
        (.ok (.preflightApproved attempt), after) ∧
      (after.tasks.lookup "t").map TaskRow.state = some .cancelled ∧ ¬ApprovalHolds after "t" 0 := by
  obtain ⟨store, run, approved, cancelled⟩ : ∃ store, Reachable approveThenDeny store ∧
      approvedAttempt ((store.applyResponse approveThenDeny quietWorld "console"
        (answerTo "b" .deny)).2.applyResponse approveThenDeny quietWorld "console"
        (answerTo "a" .approve)).1 = some ⟨"attempt:t:0", "t", 0, 1⟩ ∧
      (((store.applyResponse approveThenDeny quietWorld "console" (answerTo "b" .deny)).2.applyResponse
        approveThenDeny quietWorld "console" (answerTo "a" .approve)).2.tasks.lookup "t").map TaskRow.state =
        some .cancelled :=
    exists_of_script [Script.submit "t" "k", Script.claim "t" 0, Script.opening "t" "a",
      .respondInteraction Script.ambient (Script.answer "a" .approve) 4, Script.reclaim "t", Script.opening "t" "b"]
      (by decide +kernel)
  refine ⟨_, _, _, (Operated.of_reachable run).tail (.answer quietWorld "console" (answerTo "b" .deny)),
    Prod.ext (approvedAttempt_eq_some approved) rfl, cancelled, ?_⟩
  rintro ⟨_, task, _, stored, _, running, _⟩
  rw [stored] at cancelled
  simp [running] at cancelled

end AgentMesh.Runs
