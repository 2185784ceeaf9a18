import AgentMesh.Task.Operations
import AgentMesh.Task.Control

/-! The transactions that decide interactions and end tasks, as steps of the task they touch. -/
namespace AgentMesh.Task
open Library Daemon TaskView Table TaskStep

variable {consent : InteractionRow → ResponseRow → Prop} {store after : Store} {taskId : String} {replayed : Bool}
  {row : InteractionRow} {request : ResponseRequest} {commandKey consumerId requestDigest : String}
  {ambient : Ambient} {codec : Codec} {interactionId operationId : String}

/-- A stored command gave this response to this interaction: its bytes parse to a command that names the
interaction with its task, generation, nonce and three digests. -/
def Consented (codec : Codec) (store : Store) (row : InteractionRow) (response : ResponseRow) : Prop :=
  ∃ bytes command, parseInteractionResponseCommand codec bytes = .ok command ∧
    ({ consumerId := response.consumerId, method := "interaction_response", commandKey := command.commandKey,
       requestDigest := hashBytes codec bytes, responseLocator := row.interactionId,
       committedAt := response.committedAt } : CommandRow) ∈ store.commands.rows ∧
    command.interactionId = row.interactionId ∧ command.taskId = row.taskId ∧
    command.generation = row.generation ∧ command.nonce = row.nonce ∧
    command.operationDigest = row.operationDigest ∧ command.policyDigest = row.policyDigest ∧
    command.configDigest = row.configDigest ∧ command.responseKind = response.responseKind ∧
    command.responseBytes = response.responseBytes

theorem storeCommand_mem {method responseLocator : String} {now : Int}
    (done : store.storeCommand consumerId method commandKey requestDigest responseLocator now = .ok after) :
    ({ consumerId, method, commandKey, requestDigest, responseLocator, committedAt := now } : CommandRow) ∈
      after.commands.rows := by
  simp only [Store.storeCommand, insertRow, eq_ok_iff] at done
  obtain ⟨commands, inserted, rfl⟩ := done
  rw [(insert_eq_some.mp inserted).2]
  exact List.mem_append_right _ (List.mem_singleton.mpr rfl)

theorem answerInteraction_changed {now : Int} {current : TaskView} (found : view store row.taskId = some current)
    (stored : store.interactions.lookup request.interactionId = some row) (pending : row.state = .pending)
    (inTime : now < row.expiresAt) (given : Consented codec after row (request.newResponse codec now))
    (done : Store.answerInteraction codec request row now store = .ok (replayed, after)) :
    replayed = false ∧ Changed (Consented codec after) row.taskId store after .answered ∧
      view after row.taskId = some (current.answeredBy row (request.newResponse codec now) now) ∧
      after.operations = store.operations := by
  simp only [Store.answerInteraction, insertRow, eq_ok_iff] at done
  obtain ⟨responses, inserted, first, updated, second, attempts, ⟨seq, third⟩, logged, fourth, recorded, rfl, rfl⟩ :=
    done
  have own := row_taskId (view_eq_some found).1
  have moves := (moves_answer stored pending inserted).trans
    ((moves_updateTasks row.taskId updated (by simp; tauto)).trans
      ((moves_updateAttempts row.taskId attempts (fun _ => rfl) (by simp; tauto)).trans (moves_appendEvent logged)))
  obtain ⟨kept, identified⟩ := of_lookup stored
  have member : (row, store.responses.lookup row.interactionId) ∈ current.interactions :=
    (mem_interactions found _).mpr ⟨kept, rfl, rfl⟩
  have step : TaskStep (Consented codec fourth.bumpMutationEpoch) current _ _ :=
    answered _ (request.newResponse codec now) now member pending inTime identified.symm rfl given
  have untouched := untouched_bookCommand recorded
  have moved := moves.moved current found
  simp only [setRow, setAttempts, own, true_and, ← identified] at moved
  have answers : view third row.taskId = some (current.answeredBy row (request.newResponse codec now) now) := by
    simpa [answeredBy, answer, released, own] using moved
  have next := ((untouched.same row.taskId).view_eq).trans answers
  refine ⟨rfl, ⟨⟨current, _, found, step, next⟩, fun other differs =>
    (moves.frame other differs).trans (untouched.same other), moves.retains.trans untouched.retains,
    untouched.tombstones.trans moves.tombstones⟩, next, ?_⟩
  simp only [Store.storeCommand, eq_ok_iff] at recorded
  obtain ⟨_, _, rfl⟩ := recorded
  exact moves.books.operations

theorem Housed.view_of_interaction (housed : Housed store)
    (stored : store.interactions.lookup interactionId = some row) :
    ∃ current, view store row.taskId = some current := by
  cases task : store.tasks.lookup row.taskId with
  | some task => exact (view_of_lookup task).imp fun _ => And.left
  | none =>
    obtain ⟨member, _⟩ := of_lookup stored
    exact absurd rfl ((housed row.taskId task).no_interaction member)

/-- What `respond_interaction` did: it recognised an answer that is already stored, or stored a new one in time. -/
inductive Answered (codec : Codec) (store after : Store) (request : ResponseRequest) (now : Int) : Bool → Prop where
  | replayed (row : InteractionRow) (response : ResponseRow)
      (known : store.commands.lookup (request.consumerId, "interaction_response", request.commandKey) ≠ none)
      (stored : store.interactions.lookup request.interactionId = some row) (answered : row.state = .answered)
      (evidence : store.responses.lookup row.interactionId = some response)
      (kind : response.responseKind = request.responseKind) (same : after = store) :
      Answered codec store after request now true
  | fresh (row : InteractionRow) (current : TaskView)
      (new : store.commands.lookup (request.consumerId, "interaction_response", request.commandKey) = none)
      (stored : store.interactions.lookup request.interactionId = some row)
      (found : view store row.taskId = some current) (generation : row.generation = request.expectedGeneration)
      (changed : Changed (Consented codec after) row.taskId store after .answered)
      (next : view after row.taskId = some (current.answeredBy row (request.newResponse codec now) now))
      (operations : after.operations = store.operations) : Answered codec store after request now false

theorem Answered.changed {now : Int} (answered : Answered codec store after request now replayed) : after = store ∨
      (store.commands.lookup (request.consumerId, "interaction_response", request.commandKey) = none ∧
        ∃ row, store.interactions.lookup request.interactionId = some row ∧
          Changed (Consented codec after) row.taskId store after .answered) := by
  cases answered with
  | replayed _ _ _ _ _ _ _ same => exact .inl same
  | fresh row _ new stored _ _ changed => exact .inr ⟨new, row, stored, changed⟩

theorem responseEvidence_stored {response : ResponseRow}
    (done : Store.responseEvidence codec store row = .ok response) :
    row.state = .answered ∧ store.responses.lookup row.interactionId = some response := by
  simp only [Store.responseEvidence, eq_ok_iff] at done
  obtain ⟨_, answered, response, stored, _, _, _, _, _, _, _, _, _, _, rfl⟩ := done
  exact ⟨answered, stored⟩

theorem respondInteraction_answered (housed : Housed store) {now : Int}
    (done : store.respondInteraction codec ambient request now = .ok (replayed, after)) :
    Answered codec store after request now replayed := by
  simp only [Store.respondInteraction, eq_ok_iff, Store.replayingCommand_eq_ok] at done
  obtain ⟨_, _, command, parsed, kind, _, _, fields, replay | fresh⟩ := done
  all_goals
    obtain ⟨commandKey, _, interactionId, generation, operation, policy, config, nonce, responseKind, responseBytes, _⟩ :=
      fields
  · obtain ⟨stored, known, _, _, verified, rfl, rfl⟩ := replay
    simp only [Store.verifyInteractionResponseReplay, eq_ok_iff] at verified
    obtain ⟨row, held, response, evidence, _, named, _, _, _, _, _, _, sameKind, _⟩ := verified
    obtain ⟨answered, evidence⟩ := responseEvidence_stored evidence
    rw [← named, interactionId] at held
    exact .replayed row response (by simp [known]) held answered evidence (sameKind.trans responseKind) rfl
  · obtain ⟨new, row, stored, _, _, _, _, _, _, _, _, _, guard, answered⟩ := fresh
    obtain ⟨ofTask, pending, inTime, atGeneration, sameNonce, sameOperation, samePolicy, sameConfig⟩ := guard
    obtain ⟨current, found⟩ := housed.view_of_interaction stored
    have identified := (of_lookup stored).2
    have recorded : (⟨request.consumerId, "interaction_response", request.commandKey,
        hashBytes codec request.canonicalCommandBytes, request.interactionId, none, now⟩ : CommandRow) ∈
          after.commands.rows := by
      simp only [Store.answerInteraction, eq_ok_iff] at answered
      obtain ⟨_, _, _, _, _, _, _, _, last, recorded, _, rfl⟩ := answered
      have listed := storeCommand_mem recorded
      exact listed
    have given : Consented codec after row (request.newResponse codec now) := by
      refine ⟨request.canonicalCommandBytes, command, parsed, ?_, interactionId.trans identified.symm, ofTask,
        generation.trans atGeneration.symm, nonce.trans sameNonce.symm, operation.trans sameOperation.symm,
        policy.trans samePolicy.symm, config.trans sameConfig.symm, responseKind, responseBytes⟩
      rw [commandKey, identified]
      exact recorded
    obtain ⟨rfl, changed, next, operations⟩ := answerInteraction_changed found stored pending inTime given answered
    exact .fresh row current new stored found atGeneration changed next operations

theorem expireTransaction_changed {kind : ExpiryKind} {owner : String} {generation now : Int}
    (done : store.expireTransaction codec kind operationId interactionId generation now = .ok (owner, after)) :
    Booked consent (operationId = ·) (fun _ => False) owner store after .expired := by
  simp only [Store.expireTransaction, eq_ok_iff] at done
  obtain ⟨row, stored, task, held, _, ⟨atGeneration, pending, due, state⟩, _, _, ⟨seq, first⟩, logged, second,
    attempts, third, updated, fourth, recorded, rfl, rfl⟩ := done
  obtain ⟨current, found, rfl, same⟩ := view_of_taskAt held
  subst atGeneration
  have own := row_taskId (view_eq_some found).1
  obtain ⟨kept, identified⟩ := of_lookup stored
  have ownInteraction : ∀ other ∈ first.interactions.rows,
      decide (other.interactionId = interactionId) = true → other.taskId = row.taskId := by
    simp only [Store.appendEvent, eq_ok_iff] at logged
    obtain ⟨_, _, _, _, _, rfl⟩ := logged
    intro other member picked
    have listed := (store.interactions.lookup_eq_some _ _).mpr ⟨member, by simpa using picked⟩
    obtain rfl : row = other := Option.mem_unique stored listed
    rfl
  have moves := (moves_appendEvent logged).trans
    ((moves_updateInteractions row.taskId (fun row => { row with state := .expired, updatedAt := now })
        (fun _ => rfl) (fun _ => rfl) ownInteraction).trans
      ((moves_updateAttempts row.taskId attempts (fun _ => rfl) (by simp; tauto)).trans
        (moves_updateTasks row.taskId updated (by simp; tauto))))
  refine .of_operation moves recorded found ?_
  have member : (row, store.responses.lookup row.interactionId) ∈ current.interactions :=
    (mem_interactions found _).mpr ⟨kept, rfl, rfl⟩
  have step : TaskStep consent current _ _ := expired _ now member pending same.symm due state
  simpa [setRow, setAttempts, append, nextEvent, expire,
    setInteractions, attemptsInState, inState, own, same, identified] using step

theorem scheduleSafeRetry_changed {generation retryAt now next : Int}
    (done : store.scheduleSafeRetry codec ambient operationId taskId generation retryAt now = .ok (next, after)) :
    after = store ∨ (store.operations.lookup operationId = none ∧
      Booked consent (operationId = ·) (fun _ => False) taskId store after .retried) := by
  simp only [Store.scheduleSafeRetry, queryRow, eq_ok_iff, Store.replayingOperation_eq_ok] at done
  obtain ⟨_, _, replay | fresh⟩ := done
  · obtain ⟨_, _, _, _, _, _, rfl⟩ := replay
    exact .inl rfl
  · obtain ⟨new, task, stored, attempt, held, _, state, _, absent, _, _, first, attempts, second, updated, ⟨seq, third⟩,
      logged, fourth, recorded, _, rfl⟩ := fresh
    obtain ⟨current, found, rfl, rfl⟩ := view_of_taskAt stored
    have own := row_taskId (view_eq_some found).1
    have moves := (moves_updateAttempts taskId attempts (fun _ => rfl) (by simp; tauto)).trans
      ((moves_updateTasks taskId updated (by simp; tauto)).trans (moves_appendEvent logged))
    refine .inr ⟨new, .of_operation moves recorded found ?_⟩
    have step : TaskStep consent current _ _ :=
      retried attempt.dispatchPhase (.object [("prior_generation", .number current.row.generation),
          ("retry_at_ms", .number (max retryAt 0 / 1000))]) retryAt now state (phase_of_attempt found held) absent
    simpa [setRow, setAttempts, attemptsEnded, postponed, own] using step

theorem transition_changed {generation : Int} {sources : List TaskState} {now seq : Int}
    (done : store.transition codec ambient operationId taskId generation sources .finalizing now = .ok (seq, after)) :
    after = store ∨ Booked consent (operationId = ·) (fun _ => False) taskId store after .finalizing := by
  simp only [Store.transition, eq_ok_iff, Store.replayingOperation_eq_ok] at done
  obtain ⟨_, _, _, _, replay | fresh⟩ := done
  · obtain ⟨_, _, _, _, _, _, rfl⟩ := replay
    exact .inl rfl
  · obtain ⟨_, task, stored, _, _, _, ⟨_, allowed⟩, first, updated, ⟨_, second⟩, logged, third, recorded, _, rfl⟩ :=
      fresh
    obtain ⟨current, found, rfl, rfl⟩ := view_of_taskAt stored
    have own := row_taskId (view_eq_some found).1
    have moves := (moves_updateTasks taskId updated (by simp; tauto)).trans (moves_appendEvent logged)
    refine .inr (.of_operation moves recorded found ?_)
    have step : TaskStep consent current _ _ := finalizing now allowed
    simpa [setRow, inState, own] using step

section Closing

variable (current : TaskView) (generation now : Int) (kind : String)

theorem appendAll_setAttempts (selects : AttemptRow → Bool) (change : AttemptRow → AttemptRow) (payloads : List Json) :
    (current.setAttempts selects change).appendAll generation kind now payloads =
      (current.appendAll generation kind now payloads).setAttempts selects change := by
  induction payloads generalizing current with
  | nil => rfl
  | cons payload payloads ih => exact ih (current.append generation kind payload now)

theorem appendAll_setInteractions (selects : InteractionRow → Bool) (change : InteractionRow → InteractionRow)
    (payloads : List Json) :
    (current.setInteractions selects change).appendAll generation kind now payloads =
      (current.appendAll generation kind now payloads).setInteractions selects change := by
  induction payloads generalizing current with
  | nil => rfl
  | cons payload payloads ih => exact ih (current.append generation kind payload now)

theorem closed_setAttempts (selects : AttemptRow → Bool) (change : AttemptRow → AttemptRow)
    (decision : InteractionRow → InteractionState) (status : InteractionRow → String) :
    (current.setAttempts selects change).closed decision status now =
      ((current.appendAll current.row.generation "interaction_decided" now
        ((current.pendingAt current.row.generation).map fun row =>
          interactionDecidedPayload row.interactionId (status row) none)).setAttempts selects change).setInteractions
        (fun row => row.taskId = current.row.taskId ∧ row.generation = current.row.generation ∧ row.state = .pending)
        (fun row => { row with state := decision row, updatedAt := now }) := by
  unfold closed decideAll
  rw [appendAll_setInteractions, appendAll_setAttempts]
  rfl

end Closing

theorem pendingInteractions_eq {current : TaskView} (found : view store taskId = some current) (generation : Int) :
    store.pendingInteractions taskId generation = current.pendingAt generation := by
  simp only [Store.pendingInteractions, pendingAt, (view_eq_some found).2.2.2.1, interactionsOf, List.map_map]
  congr 2
  exact (List.map_id _).symm

theorem cancelTask_moves {current : TaskView} {now : Int} (found : view store taskId = some current)
    (allowed : current.row.state.allows .cancelRequested = true) (done : store.cancelTask current.row now = .ok after) :
    ∃ update, Moves taskId store after update ∧ TaskStep consent current .cancelled (update current) := by
  have own := row_taskId (view_eq_some found).1
  simp only [Store.cancelTask, own, pendingInteractions_eq found, eq_ok_iff] at done
  obtain ⟨first, decided, second, updated, third, attempts, ⟨seq, fourth⟩, logged, rfl⟩ := done
  refine ⟨_, (moves_appendEvents _ decided).trans ((moves_updateTasks taskId updated (by simp; tauto)).trans
    ((moves_updateAttempts taskId attempts (fun _ => rfl) (by simp; tauto)).trans
      (moves_decidePending.trans (moves_appendEvent logged)))), ?_⟩
  have step : TaskStep consent current _ _ := cancelled now allowed
  rw [attemptsInState, closed_setAttempts] at step
  simp only [own] at step
  simpa [setRow, requestedCancel, setAttempts, setInteractions, own] using step

theorem requestCancel_changed {now : Int}
    (done : store.requestCancel ambient consumerId commandKey requestDigest taskId now = .ok (replayed, after)) :
    (replayed = true ∧ after = store) ∨ (replayed = false ∧ ∃ task, store.tasks.lookup taskId = some task ∧
        Counted (fun _ => False) ((consumerId, "cancel", commandKey) = ·) store after ∧
        (((task.state.isTerminal = true ∨ task.state = .cancelRequested) ∧ Untouched store after) ∨
          Changed consent taskId store after .cancelled)) := by
  simp only [Store.requestCancel, queryRow, eq_ok_iff, Store.replayingCommand_eq_ok] at done
  obtain ⟨_, _, replay | fresh⟩ := done
  · obtain ⟨_, _, _, rfl, rfl⟩ := replay
    exact .inl ⟨rfl, rfl⟩
  · obtain ⟨_, task, stored, outcome⟩ := fresh
    obtain ⟨current, found, rfl⟩ := view_of_lookup stored
    split at outcome
    · simp only [eq_ok_iff] at outcome
      obtain ⟨_, allowed, middle, cancelled, last, recorded, rfl, rfl⟩ := outcome
      obtain ⟨update, moves, step⟩ := cancelTask_moves found allowed cancelled
      have booked := Booked.of_command moves recorded found step
      exact .inr ⟨rfl, current.row, stored, booked.toCounted, .inr booked.toChanged⟩
    · rename_i settled
      simp only [eq_ok_iff] at outcome
      obtain ⟨_, rfl, last, recorded, rfl, rfl⟩ := outcome
      have done : current.row.state.isTerminal = true ∨ current.row.state = .cancelRequested := by
        cases terminal : current.row.state.isTerminal <;> simp_all
      exact .inr ⟨rfl, current.row, stored, ((SameBooks.refl _).record_command recorded _ rfl).bump,
        .inl ⟨done, untouched_bookCommand recorded⟩⟩

theorem finalize_changed {resultId ackToken resultDigest : String} {generation : Int} {terminal : TaskState} {now : Int}
    {delivery : ResultDelivery}
    (done : store.finalize ambient resultId ackToken consumerId commandKey requestDigest taskId generation terminal
      resultDigest now = .ok (delivery, after)) :
    ((store.commands.lookup (consumerId, "finalize", commandKey)).isSome = true ∧ after = store) ∨
      (store.commands.lookup (consumerId, "finalize", commandKey) = none ∧
        Booked consent (fun _ => False) ((consumerId, "finalize", commandKey) = ·) taskId store after
          (.finalized terminal) ∧
        ∀ result ∈ after.results.rows, result ∈ store.results.rows ∨ result.resultId = resultId) := by
  simp only [Store.finalize, eq_ok_iff, Store.replayingCommand_eq_ok] at done
  obtain ⟨_, _, _, isTerminal, replay | fresh⟩ := done
  · obtain ⟨_, known, _, _, _, _, rfl⟩ := replay
    exact .inl ⟨by rw [known]; rfl, rfl⟩
  · obtain ⟨new, task, stored, _, live, _, allowed, _, intent, first, decided, ⟨seq, second⟩, logged, third, inserted,
      fourth, updated, fifth, attempts, sixth, recorded, _, rfl⟩ := fresh
    obtain ⟨current, found, rfl, rfl⟩ := view_of_taskAt stored
    have own := row_taskId (view_eq_some found).1
    have state := TaskState.finalizing_of_allows_terminal _ _ allowed isTerminal
    rw [pendingInteractions_eq found] at decided
    have closing := moves_appendEvents _ decided
    have sequence := appendEvent_seq logged (closing.moved current found)
    have moves : Moves taskId store (fifth.decidePending taskId current.row.generation (closedState now) now) _ :=
      closing.trans ((moves_appendEvent logged).trans ((moves_insertResult inserted).trans
      ((moves_updateTasks taskId updated (by simp; tauto)).trans
        ((moves_updateAttempts taskId attempts (fun _ => rfl) (by simp; tauto)).trans moves_decidePending))))
    have booked := untouched_bookCommand recorded
    refine .inr ⟨new, .of_command moves recorded found ?_, ?_⟩
    · have step : TaskStep consent current _ _ :=
        finalized terminal consumerId resultId ackToken resultDigest now state isTerminal intent
      rw [attemptsEnded, closed_setAttempts] at step
      simp only [own] at step
      simpa [setRow, terminated, setAttempts, setInteractions, append, nextEvent, own, sequence] using step
    · intro result member
      have listed : result ∈ slice _ ResultRow.taskId result.taskId := (mem_slice _ _ _ _).mpr ⟨member, rfl⟩
      by_cases here : result.taskId = taskId
      · rw [here, (booked.same taskId).results, ← (view_eq_some (moves.moved current found)).2.2.2.2.1] at listed
        rcases List.mem_append.mp listed with old | new
        · have kept : result ∈ (current.appendAll current.row.generation "interaction_decided" now _).results := old
          rw [(current.appendAll_frame _ _ _ _).2.2.2.2.2.2.2.2.1, (view_eq_some found).2.2.2.2.1] at kept
          exact .inl ((mem_slice _ _ _ _).mp kept).1
        · rw [List.mem_singleton.mp new]
          exact .inr rfl
      · rw [(booked.same result.taskId).results, (moves.frame result.taskId here).results] at listed
        exact .inl ((mem_slice _ _ _ _).mp listed).1

end AgentMesh.Task
