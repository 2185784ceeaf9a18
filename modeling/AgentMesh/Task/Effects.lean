import AgentMesh.Task.Decisions

/-! What a committed transaction did to the tasks of the store. -/
namespace AgentMesh.Task
open Library Daemon Table Store Option

variable {ambient : Ambient} {now : Int} {commandKey consumerId : String} {task : TaskRow}

/-- The change a request makes to a task when it commits for the first time. -/
def Performs (store : Store) (taskId : String) (request : Request) (change : Change) : Prop :=
  match request with
  | .beginAttempt _ _ _ _ _ owner _ _ _ | .claimDispatchSlot _ _ _ owner _ _ _ _ =>
    owner = taskId ∧ change = .attemptStarted
  | .reclaimPreflightDispatchSlot _ operationId owner _ _ _ _ =>
    owner = taskId ∧ (∃ target, change = .switched target) ∧ store.operations.lookup operationId = none
  | .recordDispatchPhase _ operationId owner _ phase _ _ =>
    owner = taskId ∧ change = .dispatched phase ∧ store.operations.lookup operationId = none
  | .recordAdapterEvent _ _ owner _ _ _ _ => owner = taskId ∧ change = .reported
  | .recordResumableSession _ owner _ _ _ _ => owner = taskId ∧ change = .sessionRecorded
  | .openInteraction _ _ _ _ request _ => request.taskId = taskId ∧ change = .opened
  | .respondInteraction _ request _ =>
    change = .answered ∧
      store.commands.lookup (request.consumerId, "interaction_response", request.commandKey) = none ∧
      ∃ row, store.interactions.lookup request.interactionId = some row ∧ row.taskId = taskId
  | .expireTransaction _ _ _ _ _ => change = .expired
  | .requestCancel _ _ _ _ owner _ => owner = taskId ∧ change = .cancelled
  | .scheduleSafeRetry _ operationId owner _ _ _ =>
    owner = taskId ∧ change = .retried ∧ store.operations.lookup operationId = none
  | .transitionToFinalizing _ _ owner _ _ _ => owner = taskId ∧ change = .finalizing
  | .finalize _ _ _ _ _ _ owner _ terminal _ _ => owner = taskId ∧ change = .finalized terminal
  | .recordResume owner _ => owner = taskId ∧ change = .resumed
  | .replayTask owner _ => owner = taskId ∧ change = .repaired
  | .reviewAndAck _ _ _ _ _ delivery _ _ _ => delivery.taskId = taskId ∧ change = .acknowledged
  | .submit .. | .settleExpiry .. | .compactTask .. | .assignCanary .. | .improvementCommand .. => False

namespace Performs

variable {store : Store} {taskId : String} {request : Request}

theorem dispatched {phase : DispatchPhase} (performs : Performs store taskId request (.dispatched phase)) :
    ∃ ambient operationId generation receipt now,
      request = .recordDispatchPhase ambient operationId taskId generation phase receipt now ∧
        store.operations.lookup operationId = none := by
  cases request with
  | recordDispatchPhase ambient operationId owner generation phase receipt now =>
    obtain ⟨rfl, same, new⟩ := performs
    cases same
    exact ⟨ambient, operationId, generation, receipt, now, rfl, new⟩
  | _ => simp [Performs] at performs

theorem retried (performs : Performs store taskId request .retried) : ∃ ambient operationId generation retryAt now,
      request = .scheduleSafeRetry ambient operationId taskId generation retryAt now ∧
        store.operations.lookup operationId = none := by
  cases request with
  | scheduleSafeRetry ambient operationId owner generation retryAt now =>
    obtain ⟨rfl, _, new⟩ := performs
    exact ⟨ambient, operationId, generation, retryAt, now, rfl, new⟩
  | _ => simp [Performs] at performs

theorem switched {target : TaskState} (performs : Performs store taskId request (.switched target)) :
    ∃ ambient operationId generation spec limits now,
      request = .reclaimPreflightDispatchSlot ambient operationId taskId generation spec limits now ∧
        store.operations.lookup operationId = none := by
  cases request with
  | reclaimPreflightDispatchSlot ambient operationId owner generation spec limits now =>
    obtain ⟨rfl, _, new⟩ := performs
    exact ⟨ambient, operationId, generation, spec, limits, now, rfl, new⟩
  | _ => simp [Performs] at performs

theorem expired (performs : Performs store taskId request .expired) :
    ∃ preflight operationId interactionId generation now,
      request = .expireTransaction preflight operationId interactionId generation now := by
  cases request with
  | expireTransaction preflight operationId interactionId generation now => exact ⟨_, _, _, _, _, rfl⟩
  | _ => simp [Performs] at performs

theorem answered (performs : Performs store taskId request .answered) :
    ∃ ambient response now row, request = .respondInteraction ambient response now ∧
      store.commands.lookup (response.consumerId, "interaction_response", response.commandKey) = none ∧
      store.interactions.lookup response.interactionId = some row ∧ row.taskId = taskId := by
  cases request with
  | respondInteraction ambient response now =>
    obtain ⟨_, new, row, stored, owner⟩ := performs
    exact ⟨ambient, response, now, row, rfl, new, stored, owner⟩
  | _ => simp [Performs] at performs

end Performs

def creates : Request → Option String
  | .submit _ _ _ _ _ taskId _ _ _ _ => some taskId
  | _ => none

def compacts : Request → Option String
  | .compactTask _ taskId _ => some taskId
  | _ => none

def records : Request → Option String
  | .finalize _ resultId _ _ _ _ _ _ _ _ _ => some resultId
  | _ => none

/-- A request that introduces neither a task nor a result. -/
def Nameless (request : Request) : Prop := creates request = none ∧ records request = none

/-- A transaction touched no task, created one, changed one, or removed one that had ended. -/
inductive Effect (codec : Codec) (request : Request) (before after : Store) : Prop where
  | unchanged (untouched : Untouched before after)
  | created (taskId : String) (fresh : TaskView) (asked : creates request = some taskId)
      (absent : before.tasks.lookup taskId = none)
      (admitted : request.admissible before → before.tombstones.lookup taskId = none) (submitted : Submitted fresh)
      (stored : view after taskId = some fresh)
      (frame : ∀ other, other ≠ taskId → SameAt other before after) (retains : Retains before after)
      (tombstones : after.tombstones = before.tombstones)
  | changed (taskId : String) (change : Change)
      (changed : Changed (Consented codec after) taskId before after change)
      (performs : Performs before taskId request change)
  | removed (taskId : String) (current : TaskView) (asked : compacts request = some taskId)
      (found : view before taskId = some current)
      (ended : current.row.terminalAt.isSome = true) (vacant : Vacant after taskId)
      (buried : ∃ row ∈ after.tombstones.rows, row.taskId = taskId)
      (frame : ∀ other, other ≠ taskId → SameAt other before after) (retains : Retains before after)

variable {codec : Codec} {store after : Store} {taskId : String}

theorem submit_effect (housed : Housed store) {method : String} {request : Bytes} {retryOfTaskId : Option String}
    {priority : Nat} {adapterInstanceId : Option String} {submission : Submission}
    (done : store.submit codec ambient consumerId method commandKey request taskId retryOfTaskId priority
      adapterInstanceId now = .ok (submission, after)) :
    after = store ∨ ∃ fresh, store.tasks.lookup taskId = none ∧ Submitted fresh ∧ view after taskId = some fresh ∧
      (∀ other, other ≠ taskId → SameAt other store after) ∧ Retains store after ∧
      after.tombstones = store.tombstones := by
  simp only [submit, eq_ok_iff, replayingCommand_eq_ok, insertRow] at done
  obtain ⟨_, _, _, _, replay | fresh⟩ := done
  · obtain ⟨_, _, _, _, _, _, rfl⟩ := replay
    exact .inl rfl
  · obtain ⟨_, _, _, _, _, _, absent, _, _, _, _, tasks, inserted, taskRequests, _, ⟨seq, second⟩, logged, third,
      recorded, _, rfl⟩ := fresh
    have vacant := housed taskId (by simpa using absent)
    have moves := moves_appendEvent logged
    have booked := untouched_bookCommand recorded
    have stored := lookup_insert inserted taskId
    rw [if_pos rfl] at stored
    obtain ⟨base, found, row⟩ := @view_of_lookup { store with tasks, taskRequests } taskId _ stored
    obtain ⟨_, events, attempts, interactions, results, outbox⟩ := view_eq_some found
    have admitted : Retains store { store with tasks, taskRequests } :=
      ⟨id, id, id, fun _ => id, fun _ => id⟩
    have apart : ∀ other, other ≠ taskId → SameAt other store { store with tasks, taskRequests } := by
      intro other differs
      refine ⟨?_, rfl, rfl, rfl, rfl, rfl⟩
      exact (lookup_insert inserted other).trans (if_neg (Ne.symm differs))
    refine .inr ⟨_, vacant.task, ?_, ((booked.same taskId).view_eq).trans (moves.moved base found),
      fun other differs => (apart other differs).trans ((moves.frame other differs).trans (booked.same other)),
      admitted.trans (moves.retains.trans booked.retains), booked.tombstones.trans moves.tombstones⟩
    constructor
    case event =>
      refine ⟨now, ?_⟩
      simp [TaskView.append, TaskView.nextEvent, events, vacant.events, row]
    case attempts => exact attempts.trans vacant.attempts
    case interactions => exact interactions.trans vacant.interactions
    case results => exact results.trans vacant.results
    case outbox => exact outbox.trans vacant.outbox
    all_goals simp [TaskView.append, row]

theorem moves_acknowledge (consumerId reviewId taskId : String) (resultVersion now : Int)
    {reviews : Table ReviewRow.reviewId} (grown : ∀ row ∈ store.reviews.rows, row ∈ reviews.rows) :
    Moves taskId store { store with
        reviews
        outbox := store.outbox.update
          (fun row => row.consumerId = consumerId ∧ row.taskId = taskId ∧ row.resultVersion = resultVersion)
          (fun row => { row with ackedAt := some now, reviewId := some reviewId }) (fun _ => rfl) } fun current =>
      { current with
        outbox := updateWhere
          (fun row => row.consumerId = consumerId ∧ row.taskId = taskId ∧ row.resultVersion = resultVersion)
          (fun row => { row with ackedAt := some now, reviewId := some reviewId }) current.outbox } := by
  have fixes : ∀ row : OutboxRow, { row with ackedAt := some now, reviewId := some reviewId }.taskId = row.taskId :=
    fun _ => rfl
  refine ⟨fun other differs => ⟨rfl, rfl, rfl, rfl, rfl, ?_⟩, fun current found => ?_,
    ⟨id, id, id, fun _ => id, fun _ => id⟩, rfl,
    ⟨rfl, rfl, rfl, fun _ => id, grown⟩⟩
  · rw [slice_update _ _ _ _ _ _ fixes]
    apply updateWhere_of_none
    intro row member
    have owner := ((store.outbox.mem_slice _ _ row).mp member).2
    simp [owner, differs]
  · obtain ⟨row, stored, rfl⟩ := map_eq_some_iff.mp found
    simp only [view, stored, map_some, slice_update _ _ _ _ _ _ fixes]
    rfl

theorem reviewAndAck_effect {reviewId : String} {canonicalReviewCommand : Bytes} {delivery : ResultDelivery}
    {verdict : ReviewVerdict} {diagnosis : Option String} {replayed : Bool}
    (done : store.reviewAndAck codec ambient reviewId consumerId commandKey canonicalReviewCommand delivery verdict
      diagnosis now = .ok (replayed, after)) :
    ((store.commands.lookup (consumerId, "review_ack", commandKey)).isSome = true ∧ after = store) ∨
      (store.mutationEpoch < after.mutationEpoch ∧
        Counted (fun _ => False) ((consumerId, "review_ack", commandKey) = ·) store after ∧
        (Untouched store after ∨ Changed (Consented codec after) delivery.taskId store after .acknowledged)) := by
  simp only [reviewAndAck, eq_ok_iff, replayingCommand_eq_ok] at done
  obtain ⟨_, _, _, _, _, _, replay | fresh⟩ := done
  · obtain ⟨_, known, _, _, _, ⟨_, _, _⟩, _, _, _, _, _, _, rfl⟩ := replay
    exact .inl ⟨by simp [known], rfl⟩
  · obtain ⟨_, ⟨entry, task, review⟩, stored, _, same, outcome⟩ := fresh
    split at outcome
    · simp only [eq_ok_iff] at outcome
      obtain ⟨_, _, _, rfl, last, recorded, _, rfl⟩ := outcome
      have booked := (SameBooks.refl _).record_command recorded (fun _ => False) (Eq.refl _)
      exact .inr ⟨booked.raises, booked.bump, .inl (untouched_bookCommand recorded)⟩
    · rename_i unacked
      simp only [eq_ok_iff, insertRow] at outcome
      obtain ⟨reviews, filed, _, rfl, last, recorded, _, rfl⟩ := outcome
      have grown : ∀ row ∈ store.reviews.rows, row ∈ reviews.rows := fun row member =>
        (insert_eq_some.mp filed).2 ▸ List.mem_append_left _ member
      have moves := moves_acknowledge consumerId reviewId delivery.taskId delivery.resultVersion now grown
      have booked := moves.books.record_command recorded (fun _ => False) (Eq.refl _)
      simp only [ackRow, bind_eq_bind, bind_eq_some_iff, pure_def] at stored
      obtain ⟨row, listed, _, held, joined⟩ := stored
      obtain rfl : row = entry := congrArg Prod.fst (some.inj joined)
      have owner : row.taskId = delivery.taskId :=
        congrArg (fun key => key.2.1) (of_lookup listed).2
      rw [owner] at held
      obtain ⟨current, found, rfl⟩ := view_of_lookup held
      refine .inr ⟨booked.raises, booked.bump, .inr (.of_moves moves (untouched_bookCommand recorded) found ?_)⟩
      have open_ : ∀ entry ∈ current.outbox, entry.consumerId = consumerId →
          entry.resultVersion = delivery.resultVersion → entry.ackedAt = none := by
        intro entry member consumer version
        rw [(view_eq_some found).2.2.2.2.2, mem_slice] at member
        have same := (store.outbox.lookup_eq_some (consumerId, delivery.taskId, delivery.resultVersion) entry).mpr
          ⟨member.1, by rw [consumer, member.2, version]⟩
        obtain rfl : row = entry := mem_unique listed same
        simpa using unacked
      have step : TaskStep (Consented codec last.bumpMutationEpoch) current _ _ :=
        TaskStep.acknowledged consumerId reviewId delivery.resultVersion now open_
      simpa [row_taskId held] using step

/-- The interactions of a task that stays keep their responses when another task is compacted. -/
theorem interactionsOf_delete {other : String} (differs : other ≠ taskId) :
    ((store.interactions.delete fun row => row.taskId = taskId).slice InteractionRow.taskId other).map (fun row =>
        (row, (store.responses.delete fun row =>
          (store.interactions.lookup row.interactionId).any fun row => row.taskId = taskId).lookup row.interactionId)) =
      interactionsOf store other := by
  rw [slice_delete, if_neg differs, interactionsOf]
  apply List.map_congr_left
  intro row member
  obtain ⟨stored, owner⟩ := (store.interactions.mem_slice _ _ row).mp member
  have found := (store.interactions.lookup_eq_some row.interactionId row).mpr ⟨stored, rfl⟩
  rw [lookup_delete]
  cases kept : store.responses.lookup row.interactionId with
  | none => rfl
  | some response =>
    have identified := (of_lookup kept).2
    simp [Option.filter, identified, found, owner, differs]

theorem referenced_delete (referenced : Referenced store) (taskId : String) :
    ∀ response ∈ (store.responses.delete fun row =>
        (store.interactions.lookup row.interactionId).any fun row => row.taskId = taskId).rows,
      ∃ row ∈ (store.interactions.delete fun row => row.taskId = taskId).rows,
        row.interactionId = response.interactionId := by
  intro response member
  simp only [delete_rows, List.mem_filter] at member ⊢
  obtain ⟨row, stored, same⟩ := referenced response member.1
  have found := (store.interactions.lookup_eq_some response.interactionId row).mpr ⟨stored, same⟩
  refine ⟨row, ⟨stored, ?_⟩, same⟩
  simpa [found] using member.2

theorem compactTask_effect {pinned : Bool} (done : store.compactTask pinned taskId now = .ok after) :
    Effect codec (.compactTask pinned taskId now) store after := by
  simp only [compactTask, queryRow, eq_ok_iff] at done
  obtain ⟨task, stored, _, ⟨_, _, terminalAt, ended, _⟩, rfl⟩ := done
  obtain ⟨current, found, rfl⟩ := view_of_lookup stored
  refine .removed taskId current rfl found ?_ ?_ ?_ ?_ ?_
  · rw [ended]
    rfl
  · constructor
    case task =>
      simp [lookup_delete, stored, row_taskId stored]
    all_goals simp [slice_delete, interactionsOf]
  · exact (insert_or_ignore store.tombstones _).2
  · intro other differs
    constructor
    case task =>
      rw [lookup_delete]
      cases elsewhere : store.tasks.lookup other with
      | none => rfl
      | some row => simp [Option.filter, row_taskId elsewhere, differs]
    case interactions => exact interactionsOf_delete differs
    all_goals simp [slice_delete, differs]
  · constructor
    case attemptIds => exact fun unique => (List.filter_sublist.map _).nodup unique
    case resultIds => exact fun unique => (List.filter_sublist.map _).nodup unique
    case responses => exact fun referenced => referenced_delete referenced taskId
    case commands => exact fun _ => id
    case tombstones => exact (insert_or_ignore store.tombstones _).1

theorem replayTask_effect (stored : store.tasks.lookup taskId = some task)
    (done : store.replayTask task now = .ok after) :
    after = store ∨ (Changed (Consented codec after) taskId store after .repaired ∧ SameBooks store after) := by
  obtain ⟨current, found, rfl⟩ := view_of_lookup stored
  have own := row_taskId stored
  unfold replayTask at done
  split at done
  · simp only [eq_ok_iff] at done
    exact .inl done.choose_spec.2.symm
  · simp only [eq_ok_iff, Prod.exists] at done
    obtain ⟨state, generation, last, derives, _, ⟨rfl, rfl⟩, outcome⟩ := done
    split at outcome
    · simp only [pure_eq_ok] at outcome
      exact .inl outcome.symm
    · simp only [eq_ok_iff] at outcome
      obtain ⟨_, live, updated⟩ := outcome
      have moves := moves_updateTasks taskId updated (by simp [own])
      rw [own, ← (view_eq_some found).2.1] at derives
      have step : TaskStep (Consented codec after) current _ _ := .repaired state now derives live
      refine .inr ⟨.of_moves moves (.refl after) found ?_, moves.books⟩
      simpa [TaskView.setRow] using step

theorem resume_of_recoveryDecision {attempt : Option AttemptRow} {answered : Option InteractionResponseKind}
    (decided : recoveryDecision codec task attempt answered = some .resumeSession) :
    task.state ≠ .cancelRequested ∧ task.state ≠ .finalizing ∧ ∃ row, attempt = some row ∧
      resumeProven codec row = true := by
  simp only [recoveryDecision] at decided
  split_ifs at decided with cancel finalizing requested proven
  · cases decided
  · cases decided
  · cases decided
  · obtain ⟨row, rfl⟩ : ∃ row, attempt = some row := by
      cases attempt with
      | none => cases proven
      | some row => exact ⟨row, rfl⟩
    exact ⟨cancel, finalizing, row, rfl, proven⟩
  · cases decided
  · split at decided <;> cases decided
  · cases decided

theorem resumeTask_effect (done : store.resumeTask codec taskId now = .ok after) :
    after = store ∨ (Changed (Consented codec after) taskId store after .resumed ∧
      Entry (fun operationId => ∃ task, store.tasks.lookup taskId = some task ∧
        s!"recovery-resume:{taskId}:{task.generation}" = operationId) (fun _ => False) store after) := by
  simp only [resumeTask, recordResume, eq_ok_iff, replayingOperation_eq_ok] at done
  obtain ⟨task, stored, _, ⟨active, decided⟩, replay | fresh⟩ := done
  · obtain ⟨_, _, _, rfl⟩ := replay
    exact .inl rfl
  · obtain ⟨_, ⟨seq, first⟩, logged, recorded⟩ := fresh
    obtain ⟨current, found, rfl⟩ := view_of_lookup stored
    have own := row_taskId stored
    rw [own] at logged recorded
    have moves := moves_appendEvent logged
    obtain ⟨cancel, finalizing, attempt, held, proven⟩ := resume_of_recoveryDecision decided
    have state : current.row.state = .preparing ∨ current.row.state = .running ∨
        current.row.state = .waitingApproval := by
      cases state : current.row.state <;> simp_all [settledState, TaskState.isTerminal]
    have observed : current.phase = some .providerObserved := by
      rw [currentAttempt, own] at held
      rw [phase_of_attempt found held]
      simp only [resumeProven, Bool.and_eq_true, decide_eq_true_eq] at proven
      rw [proven.1.1.1.1]
    exact .inr ⟨.of_moves moves (untouched_storeOperation recorded) found (.resumed now state observed),
      moves.books.record_operation recorded ⟨_, stored, rfl⟩ _⟩

/-- What every task needs of the rest of the store. -/
structure Keyed (store : Store) : Prop where
  housed : Housed store
  attemptIds : (store.attempts.rows.map AttemptRow.attemptId).Nodup
  resultIds : (store.results.rows.map ResultRow.resultId).Nodup
  referenced : Referenced store

private theorem unchanged_or {request : Request} {rest : Prop} (outcome : after = store ∨ rest)
    (effect : rest → Effect codec request store after) : Effect codec request store after := by
  rcases outcome with rfl | rest
  · exact .unchanged (.refl after)
  · exact effect rest

theorem execute_effect (keyed : Keyed store) {request : Request} (committed : execute codec request store = .ok after) :
    Effect codec request store after := by
  have housed := keyed.housed
  cases request with
  | submit ambient consumerId method commandKey body taskId retryOfTaskId priority adapterInstanceId now =>
    obtain ⟨_, done⟩ := snd_eq_ok committed
    exact unchanged_or (submit_effect housed done) fun ⟨fresh, absent, submitted, stored, frame, retains, tombstones⟩ =>
      .created taskId fresh rfl absent id submitted stored frame retains tombstones
  | beginAttempt ambient attemptId consumerId commandKey requestDigest taskId generation spec now =>
    obtain ⟨_, done⟩ := snd_eq_ok committed
    exact unchanged_or (beginAttempt_changed done) fun booked => .changed taskId _ booked.toChanged ⟨rfl, rfl⟩
  | claimDispatchSlot ambient attemptId operationId taskId generation spec limits now =>
    obtain ⟨_, done⟩ := snd_eq_ok committed
    exact unchanged_or (claimDispatchSlot_claimed done).changed fun booked =>
      .changed taskId _ booked.toChanged ⟨rfl, rfl⟩
  | reclaimPreflightDispatchSlot ambient operationId taskId generation spec limits now =>
    obtain ⟨⟨outcome, last⟩, done, rfl⟩ := map_eq_ok.mp committed
    have reclaimed : Reclaimed (Consented codec last) _ _ _ _ _ _ _ outcome :=
      reclaimPreflightDispatchSlot_reclaimed done
    cases reclaimed with
    | replayed _ _ same | refused _ _ same => exact unchanged_or (.inl same) False.elim
    | kept _ _ _ _ _ untouched => exact .unchanged untouched
    | rolledBack _ new _ booked | released _ new _ _ _ booked =>
      exact .changed taskId _ booked.toChanged ⟨rfl, ⟨_, rfl⟩, new⟩
  | recordDispatchPhase ambient operationId taskId generation phase processReceipt now =>
    obtain ⟨_, done⟩ := snd_eq_ok committed
    exact unchanged_or (recordDispatchPhase_changed done) fun ⟨new, booked⟩ =>
      .changed taskId _ booked.toChanged ⟨rfl, rfl, new⟩
  | recordAdapterEvent ambient operationId taskId generation kind payload now =>
    obtain ⟨_, done⟩ := snd_eq_ok committed
    exact unchanged_or (recordAdapterEvent_changed done) fun booked => .changed taskId _ booked.toChanged ⟨rfl, rfl⟩
  | recordResumableSession ambient taskId generation providerSession capabilityDigest now =>
    obtain ⟨_, done⟩ := snd_eq_ok committed
    exact .changed taskId _ (recordResumableSession_changed housed done) ⟨rfl, rfl⟩
  | openInteraction ambient interactionId nonce operationId request now =>
    obtain ⟨_, done⟩ := snd_eq_ok committed
    exact unchanged_or (openInteraction_changed keyed.attemptIds keyed.referenced done) fun changed =>
      .changed request.taskId _ changed ⟨rfl, rfl⟩
  | respondInteraction ambient request now =>
    obtain ⟨_, done⟩ := snd_eq_ok committed
    exact unchanged_or (respondInteraction_answered housed done).changed fun ⟨new, row, stored, changed⟩ =>
      .changed row.taskId _ changed ⟨rfl, new, row, stored, rfl⟩
  | expireTransaction preflight operationId interactionId generation now =>
    obtain ⟨taskId, done⟩ := snd_eq_ok committed
    exact .changed taskId _ (expireTransaction_changed done).toChanged rfl
  | settleExpiry operationId resultId =>
    obtain rfl := pure_eq_ok.mp committed
    exact .unchanged ⟨fun _ => ⟨rfl, rfl, rfl, rfl, rfl, rfl⟩, ⟨id, id, id, fun _ => id, fun _ => id⟩, rfl⟩
  | requestCancel ambient consumerId commandKey requestDigest taskId now =>
    obtain ⟨_, done⟩ := snd_eq_ok committed
    rcases requestCancel_changed done with ⟨_, rfl⟩ | ⟨_, task, stored, _, ⟨_, untouched⟩ | changed⟩
    · exact .unchanged (.refl _)
    · exact .unchanged untouched
    · exact .changed taskId _ changed ⟨rfl, rfl⟩
  | scheduleSafeRetry ambient operationId taskId generation retryAt now =>
    obtain ⟨_, done⟩ := snd_eq_ok committed
    exact unchanged_or (scheduleSafeRetry_changed done) fun ⟨new, booked⟩ =>
      .changed taskId _ booked.toChanged ⟨rfl, rfl, new⟩
  | transitionToFinalizing ambient operationId taskId generation sources now =>
    obtain ⟨_, done⟩ := snd_eq_ok committed
    exact unchanged_or (transition_changed done) fun booked => .changed taskId _ booked.toChanged ⟨rfl, rfl⟩
  | finalize ambient resultId ackToken consumerId commandKey requestDigest taskId generation terminal resultDigest
      now =>
    obtain ⟨_, done⟩ := snd_eq_ok committed
    exact unchanged_or ((finalize_changed done).imp And.right fun new => new.2.1) fun booked =>
      .changed taskId _ booked.toChanged ⟨rfl, rfl⟩
  | recordResume taskId now =>
    exact unchanged_or (resumeTask_effect committed) fun ⟨changed, _⟩ => .changed taskId _ changed ⟨rfl, rfl⟩
  | replayTask taskId now =>
    obtain ⟨task, stored, done⟩ := bind_eq_ok.mp committed
    exact unchanged_or (replayTask_effect (required_eq_ok.mp stored) done) fun ⟨changed, _⟩ =>
      .changed taskId _ changed ⟨rfl, rfl⟩
  | reviewAndAck ambient reviewId consumerId commandKey canonicalReviewCommand delivery verdict diagnosis now =>
    obtain ⟨_, done⟩ := snd_eq_ok committed
    refine unchanged_or ((reviewAndAck_effect done).imp And.right fun new => new.2.2) ?_
    rintro (untouched | changed)
    · exact .unchanged untouched
    · exact .changed delivery.taskId _ changed ⟨rfl, rfl⟩
  | compactTask pinned taskId now => exact compactTask_effect committed
  | assignCanary assignments tables engine =>
    obtain rfl := pure_eq_ok.mp committed
    exact .unchanged ⟨fun _ => ⟨rfl, rfl, rfl, rfl, rfl, rfl⟩, ⟨id, id, id, fun _ => id, fun _ => id⟩, rfl⟩
  | improvementCommand =>
    obtain ⟨_, done⟩ := snd_eq_ok committed
    rcases improvementCommand_eq_ok done with ⟨rfl, _⟩ | ⟨_, _, _, _, commands, inserted, rfl⟩
    · exact .unchanged (.refl _)
    · refine .unchanged ⟨fun _ => ⟨rfl, rfl, rfl, rfl, rfl, rfl⟩, ⟨id, id, id, fun _ member => ?_, fun _ => id⟩, rfl⟩
      have grown := (insert_eq_some.mp inserted).2
      have kept : _ ∈ commands.rows := grown ▸ List.mem_append_left _ member
      exact kept

end AgentMesh.Task
