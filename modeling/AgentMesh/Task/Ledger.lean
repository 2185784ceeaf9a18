import AgentMesh.Task.Effects

/-! The two replay tables, the files of a task and the mutation epoch. A transaction adds at most the operation and the
command it was called with, so the keys one caller uses stay free as long as nobody else uses them; it drops the request
and the review of no task that still exists; and unless it belongs to the recovery of the store, a transaction that
changes anything raises the epoch. -/
namespace AgentMesh.Task
open Library Daemon Store Counted

variable {codec : Codec} {store before middle after : Store} {replayed : Bool} {seq : Int} {delivery : ResultDelivery}
  {attemptId commandKey consumerId kind requestDigest : String} {operation : String → Prop}

def BooksOperation (store : Store) (request : Request) (operationId : String) : Prop :=
  match request with
  | .claimDispatchSlot _ _ own _ _ _ _ _ | .reclaimPreflightDispatchSlot _ own _ _ _ _ _
  | .recordDispatchPhase _ own _ _ _ _ _ | .recordAdapterEvent _ own _ _ _ _ _ | .openInteraction _ _ _ own _ _
  | .expireTransaction _ own _ _ _ | .scheduleSafeRetry _ own _ _ _ _ | .transitionToFinalizing _ own _ _ _ _ =>
    own = operationId
  | .recordResume taskId _ =>
    ∃ task, store.tasks.lookup taskId = some task ∧ s!"recovery-resume:{taskId}:{task.generation}" = operationId
  | _ => False

def BooksCommand (request : Request) (key : String × String × String) : Prop :=
  match request with
  | .submit _ consumerId method commandKey _ _ _ _ _ _ => (consumerId, method, commandKey) = key
  | .beginAttempt _ _ consumerId commandKey _ _ _ _ _ => (consumerId, "begin_attempt", commandKey) = key
  | .respondInteraction _ request _ => (request.consumerId, "interaction_response", request.commandKey) = key
  | .requestCancel _ consumerId commandKey _ _ _ => (consumerId, "cancel", commandKey) = key
  | .finalize _ _ _ consumerId commandKey _ _ _ _ _ _ => (consumerId, "finalize", commandKey) = key
  | .reviewAndAck _ _ consumerId commandKey _ _ _ _ _ => (consumerId, "review_ack", commandKey) = key
  | .improvementCommand _ consumerId commandKey _ command _ => (consumerId, command.method, commandKey) = key
  | _ => False

/-- The transactions that do not advance the mutation epoch: the last one of an expiry, the two of recovery, and the
compaction of one task, which the collector counts itself. -/
def uncounted : Request → Bool
  | .settleExpiry .. | .recordResume .. | .replayTask .. | .compactTask .. => true
  | _ => false

section Transactions

variable {request : Request} {ambient : Ambient} {taskId : String} {generation now : Int}

theorem submit_books {method : String} {body : Bytes} {retryOfTaskId : Option String} {priority : Nat}
    {adapterInstanceId : Option String} {submission : Submission}
    (done : store.submit codec ambient consumerId method commandKey body taskId retryOfTaskId priority adapterInstanceId
      now = .ok (submission, after)) :
    Counted (fun _ => False) (fun key => (consumerId, method, commandKey) = key) store after := by
  simp only [submit, eq_ok_iff, replayingCommand_eq_ok] at done
  obtain ⟨_, _, _, _, replay | fresh⟩ := done
  · obtain ⟨_, _, _, _, _, _, rfl⟩ := replay
    exact refl _ _ _
  · obtain ⟨_, _, _, _, _, _, _, _, _, _, _, tasks, _, taskRequests, filed, ⟨_, _⟩, logged, last, recorded, _, rfl⟩ :=
      fresh
    have admitted : Entry (fun _ => False) (fun key => (consumerId, method, commandKey) = key)
        { store with tasks, taskRequests } last :=
      (moves_appendEvent logged).books.record_command recorded _ rfl
    have grown := (Table.insert_eq_some.mp (required_eq_ok.mp filed)).2
    refine ⟨⟨admitted.operations, admitted.commands, fun row member kept => ?_, admitted.reviews⟩, .inr admitted.raises⟩
    exact admitted.requests row (grown ▸ List.mem_append_left _ member) kept

theorem recordResumableSession_books {providerSession capabilityDigest : String} {done : Unit}
    (committed : store.recordResumableSession codec ambient taskId generation providerSession capabilityDigest now =
      .ok (done, after)) : Counted (fun _ => False) (fun _ => False) store after := by
  simp only [recordResumableSession, eq_ok_iff] at committed
  obtain ⟨_, _, _, _, _, _, _, _, _, attempts, _, rfl⟩ := committed
  exact ((moves_updateAttempts taskId attempts (fun _ => rfl) (by simp; tauto)).books.entry _ _).bump

theorem openInteraction_books {interactionId nonce operationId : String} {request : InteractionRequest}
    {interaction : Interaction}
    (done : store.openInteraction codec ambient interactionId nonce operationId request now =
      .ok (interaction, after)) : Counted (operationId = ·) (fun _ => False) store after := by
  simp only [openInteraction, eq_ok_iff, replayingOperation_eq_ok] at done
  obtain ⟨_, _, _, _, replay | fresh⟩ := done
  · obtain ⟨_, _, _, _, _, _, rfl⟩ := replay
    exact refl _ _ _
  · obtain ⟨_, _, _, _, _, _, _, _, _, _, _, interactions, _, _, updated, _, attempts, ⟨_, _⟩, logged, _, recorded, _,
      rfl⟩ := fresh
    obtain ⟨_, rfl⟩ := updateTasks_eq_ok.mp updated
    obtain ⟨_, rfl⟩ := updateAttempts_eq_ok.mp attempts
    have books := (moves_appendEvent logged).books
    have opened : SameBooks store _ := ⟨books.operations, books.commands, books.epoch, books.requests, books.reviews⟩
    exact (opened.record_operation recorded rfl _).bump

theorem respondInteraction_books {request : ResponseRequest} {replayed : Bool}
    (done : store.respondInteraction codec ambient request now = .ok (replayed, after)) :
    Counted (fun _ => False) ((request.consumerId, "interaction_response", request.commandKey) = ·) store after := by
  simp only [respondInteraction, eq_ok_iff, replayingCommand_eq_ok] at done
  obtain ⟨_, _, _, _, _, _, _, _, replay | fresh⟩ := done
  · obtain ⟨_, _, _, _, _, _, rfl⟩ := replay
    exact refl _ _ _
  · obtain ⟨_, _, _, _, _, _, _, _, _, _, _, _, _, answered⟩ := fresh
    simp only [answerInteraction, eq_ok_iff] at answered
    obtain ⟨_, _, _, updated, _, attempts, ⟨_, _⟩, logged, _, recorded, _, rfl⟩ := answered
    obtain ⟨_, rfl⟩ := updateTasks_eq_ok.mp updated
    obtain ⟨_, rfl⟩ := updateAttempts_eq_ok.mp attempts
    have books := (moves_appendEvent logged).books
    have answers : SameBooks store _ := ⟨books.operations, books.commands, books.epoch, books.requests, books.reviews⟩
    exact (answers.record_command recorded _ rfl).bump

theorem settleExpiry_books (operationId resultId : String) :
    Entry (fun _ => False) (fun _ => False) store (store.settleExpiry operationId resultId) := by
  refine ⟨⟨fun other row found => .inl ?_, fun key row found => .inl found, fun _ member _ => member,
    fun _ member _ => member⟩, rfl⟩
  simp only [settleExpiry, Table.lookup_update, Option.map_eq_some_iff] at found
  obtain ⟨old, stored, rfl⟩ := found
  refine ⟨old, stored, ?_⟩
  split <;> rfl

theorem compactTask_books {pinned : Bool} (done : store.compactTask pinned taskId now = .ok after) :
    Entry (fun _ => False) (fun _ => False) store after := by
  simp only [compactTask, eq_ok_iff] at done
  obtain ⟨_, _, _, _, rfl⟩ := done
  have other_of_kept : ∀ {other : String}, (store.tasks.delete fun row => row.taskId = taskId).lookup other ≠ none →
      other ≠ taskId := by
    intro other kept here
    refine kept (Option.eq_none_iff_forall_ne_some.mpr fun row found => ?_)
    obtain ⟨stored, spared⟩ := Option.filter_eq_some_iff.mp ((Table.lookup_delete _ _ _).symm.trans found)
    simp [row_taskId stored, here] at spared
  refine ⟨⟨fun operationId row found => .inl ⟨row, ?_, rfl⟩, fun key row found => .inl found, ?_, ?_⟩, rfl⟩
  · simp only [Table.lookup_delete] at found
    exact (Option.filter_eq_some_iff.mp found).1
  · intro row member kept
    exact List.mem_filter.mpr ⟨member, by simpa using other_of_kept kept⟩
  · intro row member kept
    exact List.mem_filter.mpr ⟨member, by simpa using other_of_kept kept⟩

theorem improvementCommand_books {canonicalCommand : Bytes} {command : ImprovementCommand} {response : CommandResponse}
    (done : store.improvementCommand codec ambient consumerId commandKey canonicalCommand command now = .ok (response,
      after)) : Counted (fun _ => False) (fun key => (consumerId, command.method, commandKey) = key) store after := by
  rcases improvementCommand_eq_ok done with ⟨rfl, _⟩ | ⟨_, _, _, _, commands, inserted, rfl⟩
  · exact refl _ _ _
  · refine ⟨⟨fun _ row found => .inl ⟨row, found, rfl⟩, fun key row found => ?_, fun _ member _ => member,
      fun _ member _ => member⟩, .inr (Int.lt_succ _)⟩
    have grown := Table.lookup_insert inserted key
    split at grown
    · rename_i named
      exact .inr named
    · exact .inl (grown.symm.trans found)

theorem counted_of_booked {operation : String → Prop} {command : String × String × String → Prop} {change : Change}
    (outcome : after = store ∨ Booked (fun _ _ => True) operation command taskId store after change) :
    Counted operation command store after := by
  rcases outcome with rfl | booked
  · exact refl _ _ _
  · exact booked.toCounted

section

variable (committed : execute codec request before = .ok after)

include committed

/-- A committed transaction adds only the operation and the command of its own request, and it counts itself unless it
belongs to the recovery of the store. -/
theorem execute_entry : Counted (BooksOperation before request) (BooksCommand request) before after ∨
      (uncounted request = true ∧ Entry (BooksOperation before request) (BooksCommand request) before after) := by
  cases request with
  | submit =>
    obtain ⟨_, done⟩ := snd_eq_ok committed
    exact .inl (submit_books done)
  | beginAttempt =>
    obtain ⟨_, done⟩ := snd_eq_ok committed
    exact .inl (counted_of_booked (beginAttempt_changed done))
  | claimDispatchSlot =>
    obtain ⟨_, done⟩ := snd_eq_ok committed
    exact .inl (counted_of_booked (claimDispatchSlot_claimed done).changed)
  | reclaimPreflightDispatchSlot =>
    obtain ⟨outcome, done⟩ := snd_eq_ok committed
    have reclaimed : Reclaimed (fun _ _ => True) _ _ _ _ _ _ _ outcome := reclaimPreflightDispatchSlot_reclaimed done
    cases reclaimed with
    | replayed _ _ same | refused _ _ same => exact .inl (same ▸ refl _ _ _)
    | kept _ _ _ _ _ _ counted => exact .inl counted
    | rolledBack _ _ _ booked | released _ _ _ _ _ booked => exact .inl booked.toCounted
  | recordDispatchPhase =>
    obtain ⟨_, done⟩ := snd_eq_ok committed
    exact .inl (counted_of_booked ((recordDispatchPhase_changed done).imp id And.right))
  | recordAdapterEvent =>
    obtain ⟨_, done⟩ := snd_eq_ok committed
    exact .inl (counted_of_booked (recordAdapterEvent_changed done))
  | openInteraction =>
    obtain ⟨_, done⟩ := snd_eq_ok committed
    exact .inl (openInteraction_books done)
  | respondInteraction =>
    obtain ⟨_, done⟩ := snd_eq_ok committed
    exact .inl (respondInteraction_books done)
  | expireTransaction =>
    obtain ⟨_, done⟩ := snd_eq_ok committed
    exact .inl (counted_of_booked (.inr (expireTransaction_changed done)))
  | requestCancel =>
    obtain ⟨_, done⟩ := snd_eq_ok committed
    have outcome : _ ∨ (_ ∧ ∃ task, _ ∧ _ ∧ (_ ∨ Changed (fun _ _ => True) _ _ _ _)) := requestCancel_changed done
    rcases outcome with ⟨_, rfl⟩ | ⟨_, _, _, counted, _⟩
    · exact .inl (refl _ _ _)
    · exact .inl counted
  | scheduleSafeRetry =>
    obtain ⟨_, done⟩ := snd_eq_ok committed
    exact .inl (counted_of_booked ((scheduleSafeRetry_changed done).imp id And.right))
  | transitionToFinalizing =>
    obtain ⟨_, done⟩ := snd_eq_ok committed
    exact .inl (counted_of_booked (transition_changed done))
  | finalize =>
    obtain ⟨_, done⟩ := snd_eq_ok committed
    exact .inl (counted_of_booked ((finalize_changed done).imp And.right fun new => new.2.1))
  | reviewAndAck =>
    obtain ⟨_, done⟩ := snd_eq_ok committed
    rcases reviewAndAck_effect done with ⟨_, rfl⟩ | ⟨_, counted, _⟩
    · exact .inl (refl _ _ _)
    · exact .inl counted
  | recordResumableSession =>
    obtain ⟨_, done⟩ := snd_eq_ok committed
    exact .inl (recordResumableSession_books done)
  | settleExpiry operationId resultId =>
    obtain rfl := pure_eq_ok.mp committed
    exact .inr ⟨rfl, settleExpiry_books operationId resultId⟩
  | recordResume =>
    rcases resumeTask_effect committed with rfl | ⟨_, entry⟩
    · exact .inl (refl _ _ _)
    · exact .inr ⟨rfl, entry⟩
  | replayTask =>
    obtain ⟨_, stored, done⟩ := bind_eq_ok.mp committed
    have outcome : _ ∨ (Changed (Consented codec after) _ _ _ _ ∧ _) :=
      replayTask_effect (required_eq_ok.mp stored) done
    rcases outcome with rfl | ⟨_, books⟩
    · exact .inl (refl _ _ _)
    · exact .inr ⟨rfl, books.entry _ _⟩
  | compactTask => exact .inr ⟨rfl, compactTask_books committed⟩
  | assignCanary assignments tables engine =>
    obtain rfl := pure_eq_ok.mp committed
    have assigned : SameBooks before
        { before with canaryAssignments := assignments, improvementTables := tables, improvementEngine := engine } :=
      ⟨rfl, rfl, rfl, fun _ => id, fun _ => id⟩
    exact .inl (assigned.entry _ _).bump
  | improvementCommand =>
    obtain ⟨_, done⟩ := snd_eq_ok committed
    exact .inl (improvementCommand_books done)

theorem execute_epoch : before.mutationEpoch ≤ after.mutationEpoch := by
  rcases execute_entry committed with counted | ⟨_, entry⟩
  · rcases counted.counted with rfl | raised
    · exact Int.le_refl _
    · exact Int.le_of_lt raised
  · exact Int.le_of_eq entry.epoch.symm

end

end Transactions

end AgentMesh.Task
