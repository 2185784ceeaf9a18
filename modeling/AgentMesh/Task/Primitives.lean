import AgentMesh.Task.View

/-! What each piece of a transaction does to the view of a task. -/
namespace AgentMesh.Task
open Library Daemon Table Option Store List

variable {store after : Store} {taskId : String} {generation now seq : Int} {row : InteractionRow}
  {consumerId kind : String} {payload : Json} {locator : Locator} {response : ResponseRow}
  {commandKey method operationDigest operationId owner requestDigest responseLocator : String}
  {responses : Table ResponseRow.interactionId} {current : TaskView}

theorem view_eq_some (found : view store taskId = some current) : store.tasks.lookup taskId = some current.row ∧
      current.events = store.events.slice EventRow.taskId taskId ∧
      current.attempts = store.attempts.slice AttemptRow.taskId taskId ∧
      current.interactions = interactionsOf store taskId ∧
      current.results = store.results.slice ResultRow.taskId taskId ∧
      current.outbox = store.outbox.slice OutboxRow.taskId taskId := by
  obtain ⟨row, stored, rfl⟩ := map_eq_some_iff.mp found
  exact ⟨stored, rfl, rfl, rfl, rfl, rfl⟩

theorem row_taskId {row : TaskRow} (found : store.tasks.lookup taskId = some row) : row.taskId = taskId :=
  (of_lookup found).2

theorem mem_attempts (found : view store taskId = some current) (attempt : AttemptRow) :
    attempt ∈ current.attempts ↔ attempt ∈ store.attempts.rows ∧ attempt.taskId = taskId := by
  rw [(view_eq_some found).2.2.1, mem_slice]

theorem mem_interactions (found : view store taskId = some current) (entry : InteractionRow × Option ResponseRow) :
    entry ∈ current.interactions ↔ entry.1 ∈ store.interactions.rows ∧ entry.1.taskId = taskId ∧
      entry.2 = store.responses.lookup entry.1.interactionId := by
  rw [(view_eq_some found).2.2.2.1, interactionsOf, List.mem_map]
  constructor
  · rintro ⟨row, member, rfl⟩
    obtain ⟨stored, owner⟩ := (store.interactions.mem_slice _ _ row).mp member
    exact ⟨stored, owner, rfl⟩
  · rintro ⟨stored, owner, response⟩
    refine ⟨entry.1, (store.interactions.mem_slice _ _ entry.1).mpr ⟨stored, owner⟩, ?_⟩
    rw [← response]

theorem Vacant.no_attempt (vacant : Vacant store taskId) {attempt : AttemptRow}
    (member : attempt ∈ store.attempts.rows) : attempt.taskId ≠ taskId := by
  intro owner
  have inSlice := (store.attempts.mem_slice AttemptRow.taskId taskId attempt).mpr ⟨member, owner⟩
  rw [vacant.attempts] at inSlice
  cases inSlice

theorem Vacant.no_interaction (vacant : Vacant store taskId) (member : row ∈ store.interactions.rows) :
    row.taskId ≠ taskId := by
  intro owner
  have inSlice := (store.interactions.mem_slice InteractionRow.taskId taskId row).mpr ⟨member, owner⟩
  have empty := vacant.interactions
  rw [interactionsOf, map_eq_nil_iff] at empty
  rw [empty] at inSlice
  cases inSlice

theorem wellFormed (found : view store taskId = some current) : current.WellFormed := by
  obtain ⟨stored, _, attempts, interactions, _, _⟩ := view_eq_some found
  have own := row_taskId stored
  constructor
  · intro attempt member
    rw [own]
    exact ((mem_attempts found attempt).mp member).2
  · intro entry member
    rw [own]
    exact ((mem_interactions found entry).mp member).2.1
  · rw [attempts]
    exact store.attempts.nodup_slice _ _ _ fun _ _ owner generation => Prod.ext owner generation
  · rw [interactions, interactionsOf, List.map_map]
    exact (filter_sublist.map _).nodup store.interactions.keyed

theorem moves_updateTasks (taskId : String) {selects : TaskRow → Bool} {change : TaskRow → TaskRow}
    {keeps : ∀ row, (change row).taskId = row.taskId} (done : store.updateTasks selects change keeps = .ok after)
    (own : ∀ row, selects row = true → row.taskId = taskId) :
    Moves taskId store after fun current => current.setRow selects change := by
  obtain ⟨_, rfl⟩ := updateTasks_eq_ok.mp done
  refine ⟨fun other differs => ⟨?_, rfl, rfl, rfl, rfl, rfl⟩, fun current found => ?_,
    ⟨id, id, id, fun _ => id, fun _ => id⟩, rfl,
    ⟨rfl, rfl, rfl, fun _ => id, fun _ => id⟩⟩
  · rw [lookup_update]
    cases found : store.tasks.lookup other with
    | none => rfl
    | some row =>
      have unpicked : selects row = false := by
        by_contra picked
        exact differs ((row_taskId found).symm.trans (own row (by simpa using picked)))
      simp [unpicked]
  · obtain ⟨row, stored, rfl⟩ := map_eq_some_iff.mp found
    simp only [view, lookup_update, stored, map_some]
    rfl

theorem moves_updateAttempts (taskId : String) {selects : AttemptRow → Bool} {change : AttemptRow → AttemptRow}
    {keeps : ∀ row, ((change row).taskId, (change row).generation) = (row.taskId, row.generation)}
    (done : store.updateAttempts selects change keeps = .ok after)
    (identified : ∀ row, (change row).attemptId = row.attemptId)
    (own : ∀ row ∈ store.attempts.rows, selects row = true → row.taskId = taskId) :
    Moves taskId store after fun current => current.setAttempts selects change := by
  obtain ⟨_, rfl⟩ := updateAttempts_eq_ok.mp done
  have fixes : ∀ row, (change row).taskId = row.taskId := fun row => congrArg Prod.fst (keeps row)
  refine ⟨fun other differs => ⟨rfl, rfl, ?_, rfl, rfl, rfl⟩, fun current found => ?_,
    ⟨fun unique => ?_, id, id, fun _ => id, fun _ => id⟩, rfl,
    ⟨rfl, rfl, rfl, fun _ => id, fun _ => id⟩⟩
  · rw [slice_update _ _ _ _ _ _ fixes]
    apply updateWhere_of_none
    intro row member
    obtain ⟨stored, same⟩ := (store.attempts.mem_slice _ _ row).mp member
    by_contra picked
    exact differs (same.symm.trans (own row stored (by simpa using picked)))
  · obtain ⟨row, stored, rfl⟩ := map_eq_some_iff.mp found
    simp only [view, stored, map_some, slice_update _ _ _ _ _ _ fixes]
    rfl
  · rw [update_rows, map_updateWhere _ _ _ identified]
    exact unique

/-- Appending one event. -/
theorem moves_appendEvent (done : store.appendEvent taskId generation kind payload now = .ok (seq, after)) :
    Moves taskId store after fun current => current.append generation kind payload now := by
  simp only [appendEvent, queryRow, insertRow, eq_ok_iff] at done
  obtain ⟨task, stored, events, inserted, rfl, rfl⟩ := done
  refine ⟨fun other differs => ⟨?_, ?_, rfl, rfl, rfl, rfl⟩, fun current found => ?_,
    ⟨id, id, id, fun _ => id, fun _ => id⟩, rfl,
    ⟨rfl, rfl, rfl, fun _ => id, fun _ => id⟩⟩
  · rw [lookup_update]
    cases found : store.tasks.lookup other with
    | none => rfl
    | some row =>
      have apart : row.taskId ≠ taskId := by rw [row_taskId found]; exact differs
      simp [apart]
  · rw [slice_insert inserted, if_neg (Ne.symm differs)]
  · obtain ⟨row, here, rfl⟩ := map_eq_some_iff.mp found
    obtain rfl : row = task := mem_unique here stored
    have own : row.taskId = taskId := row_taskId stored
    simp only [view, lookup_update, stored, map_some, slice_insert inserted, own, decide_true, if_true]
    simp [TaskView.append, TaskView.nextEvent, interactionsOf, own]

/-- Appending a batch of events. -/
theorem moves_appendEvents (payloads : List Json) :
    ∀ {store after : Store}, store.appendEvents taskId generation kind now payloads = .ok after →
      Moves taskId store after fun current => current.appendAll generation kind now payloads := by
  induction payloads with
  | nil =>
    intro store after done
    obtain rfl : store = after := by simpa [appendEvents] using done
    exact Moves.refl taskId store
  | cons payload payloads ih =>
    intro store after done
    simp only [appendEvents, bind_eq_ok, Prod.exists] at done
    obtain ⟨seq, middle, appended, rest⟩ := done
    exact (moves_appendEvent appended).trans (ih rest)

theorem appendEvent_seq (done : store.appendEvent taskId generation kind payload now = .ok (seq, after))
    (found : view store taskId = some current) : seq = current.row.lastEventSeq + 1 := by
  simp only [appendEvent, queryRow, insertRow, eq_ok_iff] at done
  obtain ⟨task, stored, events, inserted, rfl, rfl⟩ := done
  obtain rfl : task = current.row := some.inj (stored.symm.trans (view_eq_some found).1)
  rfl

theorem untouched_storeCommand
    (done : store.storeCommand consumerId method commandKey requestDigest responseLocator now = .ok after) :
    Untouched store after := by
  simp only [storeCommand, insertRow, eq_ok_iff] at done
  obtain ⟨commands, inserted, rfl⟩ := done
  have rows := (insert_eq_some.mp inserted).2
  constructor
  case same => exact fun _ => ⟨rfl, rfl, rfl, rfl, rfl, rfl⟩
  case retains =>
    refine ⟨id, id, id, fun command member => ?_, fun _ => id⟩
    rw [rows]
    exact mem_append_left _ member
  case tombstones => rfl

theorem untouched_storeOperation
    (done : store.storeOperation operationId operationDigest owner generation kind locator now = .ok after) :
    Untouched store after := by
  simp only [storeOperation, insertRow, eq_ok_iff] at done
  obtain ⟨operations, _, rfl⟩ := done
  constructor
  case same => exact fun _ => ⟨rfl, rfl, rfl, rfl, rfl, rfl⟩
  case retains => exact ⟨id, id, id, fun _ => id, fun _ => id⟩
  case tombstones => rfl

theorem moves_insertAttempt {attempt : Attempt} {spec : AttemptSpec}
    (done : store.insertAttempt attempt spec now = .ok after) :
    Moves attempt.taskId store after fun current =>
      { current with attempts := current.attempts ++ [spec.newAttempt attempt now] } := by
  simp only [insertAttempt, insertRow, eq_ok_iff] at done
  obtain ⟨_, ⟨_, fresh⟩, attempts, inserted, rfl⟩ := done
  refine ⟨fun other differs => ⟨rfl, rfl, ?_, rfl, rfl, rfl⟩, fun current found => ?_,
    ⟨fun unique => ?_, id, id, fun _ => id, fun _ => id⟩, rfl,
    ⟨rfl, rfl, rfl, fun _ => id, fun _ => id⟩⟩
  · rw [slice_insert inserted, if_neg]
    exact Ne.symm differs
  · obtain ⟨row, stored, rfl⟩ := map_eq_some_iff.mp found
    simp only [view, stored, map_some, slice_insert inserted]
    simp [AttemptSpec.newAttempt, interactionsOf]
  · exact nodup_insert inserted _ unique fresh

theorem moves_updateInteractions (taskId : String) {selects : InteractionRow → Bool}
    (change : InteractionRow → InteractionRow)
    (keeps : ∀ row, (change row).interactionId = row.interactionId)
    (fixes : ∀ row, (change row).taskId = row.taskId)
    (own : ∀ row ∈ store.interactions.rows, selects row = true → row.taskId = taskId) :
    Moves taskId store { store with interactions := store.interactions.update selects change keeps }
      fun current => current.setInteractions selects change := by
  refine ⟨fun other differs => ⟨rfl, rfl, rfl, ?_, rfl, rfl⟩, fun current found => ?_,
    ⟨id, id, fun referenced response member => ?_, fun _ => id, fun _ => id⟩, rfl,
    ⟨rfl, rfl, rfl, fun _ => id, fun _ => id⟩⟩
  · simp only [interactionsOf, slice_update _ _ _ _ _ _ fixes]
    congr 1
    apply updateWhere_of_none
    intro row member
    obtain ⟨stored, same⟩ := (store.interactions.mem_slice _ _ row).mp member
    by_contra picked
    exact differs (same.symm.trans (own row stored (by simpa using picked)))
  · obtain ⟨row, stored, rfl⟩ := map_eq_some_iff.mp found
    simp only [view, stored, map_some, interactionsOf, slice_update _ _ _ _ _ _ fixes]
    simp only [TaskView.setInteractions, updateWhere, List.map_map, some.injEq, TaskView.mk.injEq, true_and,
      and_true]
    apply List.map_congr_left
    intro entry _
    by_cases picked : selects entry = true <;> simp [picked, keeps]
  · obtain ⟨row, stored, same⟩ := referenced response member
    refine ⟨if selects row then change row else row, mem_updateWhere.mpr ⟨row, stored, rfl⟩, ?_⟩
    split
    · exact (keeps row).trans same
    · exact same

theorem moves_decidePending {decision : InteractionRow → InteractionState} :
    Moves taskId store (store.decidePending taskId generation decision now) fun current =>
      current.setInteractions
        (fun row => row.taskId = taskId ∧ row.generation = generation ∧ row.state = .pending)
        (fun row => { row with state := decision row, updatedAt := now }) := by
  apply moves_updateInteractions
  · intro row
    rfl
  · intro row _ picked
    exact (by simpa using picked : _ ∧ _).1

theorem moves_insertInteraction {interactions : Table InteractionRow.interactionId}
    (inserted : store.interactions.insert? row = some interactions) :
    Moves row.taskId store { store with interactions } fun current =>
      { current with
        interactions := current.interactions ++ [(row, store.responses.lookup row.interactionId)] } := by
  refine ⟨fun other differs => ⟨rfl, rfl, rfl, ?_, rfl, rfl⟩, fun current found => ?_,
    ⟨id, id, fun referenced response member => ?_, fun _ => id, fun _ => id⟩, rfl,
    ⟨rfl, rfl, rfl, fun _ => id, fun _ => id⟩⟩
  · simp only [interactionsOf, slice_insert inserted]
    rw [if_neg (Ne.symm differs)]
  · obtain ⟨task, stored, rfl⟩ := map_eq_some_iff.mp found
    simp [view, stored, interactionsOf, slice_insert inserted]
  · obtain ⟨old, stored, same⟩ := referenced response member
    refine ⟨old, ?_, same⟩
    rw [(insert_eq_some.mp inserted).2]
    exact mem_append_left _ stored

section

variable (stored : store.interactions.lookup response.interactionId = some row) (pending : row.state = .pending)
  (inserted : store.responses.insert? response = some responses)

include stored pending inserted

/-- Answering a pending interaction: its row is marked and the response is joined to it. -/
theorem interactionsOf_answer (taskId : String) : interactionsOf { store with
        interactions := store.interactions.update
          (fun row => row.interactionId = response.interactionId ∧ row.state = .pending)
          (fun row => { row with state := .answered, updatedAt := now }) (fun _ => rfl)
        responses } taskId =
      updateWhere (fun entry => entry.1.interactionId = response.interactionId)
        (fun entry => ({ entry.1 with state := .answered, updatedAt := now }, some response))
        (interactionsOf store taskId) := by
  have fixes : ∀ row : InteractionRow, { row with state := .answered, updatedAt := now }.taskId = row.taskId :=
    fun _ => rfl
  simp only [interactionsOf, slice_update _ _ _ _ _ _ fixes, updateWhere, List.map_map]
  apply List.map_congr_left
  intro other member
  obtain ⟨kept, _⟩ := (store.interactions.mem_slice _ _ other).mp member
  by_cases same : other.interactionId = response.interactionId
  · obtain rfl : row = other := by
      have found := (store.interactions.lookup_eq_some _ _).mpr ⟨kept, same⟩
      exact mem_unique stored found
    simp [same, pending, lookup_insert inserted]
  · simp [same, lookup_insert inserted, Ne.symm same]

theorem moves_answer : Moves row.taskId store { store with
        interactions := store.interactions.update
          (fun row => row.interactionId = response.interactionId ∧ row.state = .pending)
          (fun row => { row with state := .answered, updatedAt := now }) (fun _ => rfl)
        responses } fun current =>
      { current with
        interactions := updateWhere (fun entry => entry.1.interactionId = response.interactionId)
          (fun entry => ({ entry.1 with state := .answered, updatedAt := now }, some response))
          current.interactions } := by
  obtain ⟨kept, identified⟩ := of_lookup stored
  refine ⟨fun other differs => ⟨rfl, rfl, rfl, ?_, rfl, rfl⟩, fun current found => ?_,
    ⟨id, id, fun referenced answer member => ?_, fun _ => id, fun _ => id⟩, rfl,
    ⟨rfl, rfl, rfl, fun _ => id, fun _ => id⟩⟩
  · rw [interactionsOf_answer stored pending inserted]
    apply updateWhere_of_none
    intro entry member
    obtain ⟨elsewhere, inSlice, rfl⟩ := mem_map.mp member
    obtain ⟨listed, owner⟩ := (store.interactions.mem_slice _ _ elsewhere).mp inSlice
    simp only [decide_eq_false_iff_not]
    intro same
    have found := (store.interactions.lookup_eq_some _ _).mpr ⟨listed, same⟩
    obtain rfl : row = elsewhere := mem_unique stored found
    exact differs owner.symm
  · obtain ⟨task, here, rfl⟩ := map_eq_some_iff.mp found
    simp only [view, here, map_some, interactionsOf_answer stored pending inserted]
  · have mark : ∀ old : InteractionRow, ∃ row, row.interactionId = old.interactionId ∧
        (old ∈ store.interactions.rows → row ∈ (store.interactions.update
          (fun row => row.interactionId = response.interactionId ∧ row.state = .pending)
          (fun row => { row with state := .answered, updatedAt := now }) (fun _ => rfl)).rows) := by
      intro old
      refine ⟨_, ?_, fun listed => mem_updateWhere.mpr ⟨old, listed, rfl⟩⟩
      split <;> rfl
    rw [(insert_eq_some.mp inserted).2, mem_append, mem_singleton] at member
    rcases member with member | rfl
    · obtain ⟨old, listed, same⟩ := referenced answer member
      obtain ⟨marked, identity, inTable⟩ := mark old
      exact ⟨marked, inTable listed, identity.trans same⟩
    · obtain ⟨marked, identity, inTable⟩ := mark row
      exact ⟨marked, inTable kept, identity.trans identified⟩

end

theorem moves_insertResult {resultId ackToken resultDigest : String}
    (done : store.insertResult consumerId taskId resultId ackToken resultDigest seq now = .ok after) :
    Moves taskId store after fun current =>
      { current with
        results := current.results ++
          [{ taskId, resultVersion := 1, resultId, terminalEventSeq := seq, resultDigest, createdAt := now }]
        outbox := current.outbox ++
          [{ consumerId, taskId, resultVersion := 1, resultId, ackToken, terminalEventSeq := seq, createdAt := now,
             ackedAt := none, reviewId := none }] } := by
  simp only [insertResult, insertRow, eq_ok_iff] at done
  obtain ⟨_, ⟨_, fresh, _⟩, results, resultInserted, outbox, outboxInserted, rfl⟩ := done
  refine ⟨fun other differs => ⟨rfl, rfl, rfl, rfl, ?_, ?_⟩, fun current found => ?_,
    ⟨id, fun unique => nodup_insert resultInserted _ unique fresh, id, fun _ => id,
      fun _ => id⟩, rfl, ⟨rfl, rfl, rfl, fun _ => id, fun _ => id⟩⟩
  · rw [slice_insert resultInserted, if_neg (Ne.symm differs)]
  · rw [slice_insert outboxInserted, if_neg (Ne.symm differs)]
  · obtain ⟨row, stored, rfl⟩ := map_eq_some_iff.mp found
    simp [view, stored, interactionsOf, slice_insert resultInserted, slice_insert outboxInserted]

theorem untouched_bumpMutationEpoch (store : Store) : Untouched store store.bumpMutationEpoch := by
  constructor
  case same => exact fun _ => ⟨rfl, rfl, rfl, rfl, rfl, rfl⟩
  case retains => exact ⟨id, id, id, fun _ => id, fun _ => id⟩
  case tombstones => rfl

theorem untouched_bookCommand
    (done : store.storeCommand consumerId method commandKey requestDigest responseLocator now = .ok after) :
    Untouched store after.bumpMutationEpoch :=
  (untouched_storeCommand done).trans (untouched_bumpMutationEpoch after)

theorem untouched_bookOperation
    (done : store.storeOperation operationId operationDigest owner generation kind locator now = .ok after) :
    Untouched store after.bumpMutationEpoch :=
  (untouched_storeOperation done).trans (untouched_bumpMutationEpoch after)

section Books

variable {before middle : Store} {operation : String → Prop} {command : String × String × String → Prop}

/-- A later store holds no operation or command but earlier ones and those of the given keys, and the requests and
reviews of every task it still has. -/
structure Books (operation : String → Prop) (command : String × String × String → Prop) (before after : Store) :
    Prop where
  operations : ∀ operationId row, after.operations.lookup operationId = some row →
    (∃ old, before.operations.lookup operationId = some old ∧ old.operationDigest = row.operationDigest) ∨
      operation operationId
  commands : ∀ key row, after.commands.lookup key = some row → before.commands.lookup key = some row ∨ command key
  requests : ∀ row ∈ before.taskRequests.rows, after.tasks.lookup row.taskId ≠ none → row ∈ after.taskRequests.rows
  reviews : ∀ row ∈ before.reviews.rows, after.tasks.lookup row.taskId ≠ none → row ∈ after.reviews.rows

/-- What a transaction has written before it counts itself. -/
structure Entry (operation : String → Prop) (command : String × String × String → Prop) (before after : Store) : Prop
    extends Books operation command before after where
  epoch : after.mutationEpoch = before.mutationEpoch

/-- What a transaction that counts itself has written: nothing, or entries under a higher epoch. -/
structure Counted (operation : String → Prop) (command : String × String × String → Prop) (before after : Store) : Prop
    extends Books operation command before after where
  counted : after = before ∨ before.mutationEpoch < after.mutationEpoch

theorem SameBooks.entry (same : SameBooks before after) (operation : String → Prop)
    (command : String × String × String → Prop) : Entry operation command before after := by
  refine ⟨⟨fun operationId row found => .inl ⟨row, ?_, rfl⟩, fun key row found => .inl ?_,
    fun row member _ => same.requests row member, fun row member _ => same.reviews row member⟩, same.epoch⟩
  · rw [← same.operations]
    exact found
  · rw [← same.commands]
    exact found

theorem SameBooks.record_operation (same : SameBooks before middle)
    (recorded : middle.storeOperation operationId operationDigest owner generation kind locator now = .ok after)
    (own : operation operationId) (command : String × String × String → Prop) :
    Entry operation command before after := by
  simp only [storeOperation, insertRow, eq_ok_iff] at recorded
  obtain ⟨operations, inserted, rfl⟩ := recorded
  have kept := same.entry operation command
  refine ⟨⟨fun other row found => ?_, kept.commands, kept.requests, kept.reviews⟩, kept.epoch⟩
  rw [lookup_insert inserted] at found
  split at found
  · rename_i named
    exact .inr (named ▸ own)
  · exact kept.operations other row found

theorem SameBooks.record_command (same : SameBooks before middle)
    (recorded : middle.storeCommand consumerId method commandKey requestDigest responseLocator now = .ok after)
    (operation : String → Prop) (own : command (consumerId, method, commandKey)) :
    Entry operation command before after := by
  simp only [storeCommand, insertRow, eq_ok_iff] at recorded
  obtain ⟨commands, inserted, rfl⟩ := recorded
  have kept := same.entry operation command
  refine ⟨⟨kept.operations, fun other row found => ?_, kept.requests, kept.reviews⟩, kept.epoch⟩
  rw [lookup_insert inserted] at found
  split at found
  · rename_i named
    exact .inr (named ▸ own)
  · exact kept.commands other row found

theorem Entry.raises (entry : Entry operation command before after) :
    before.mutationEpoch < after.bumpMutationEpoch.mutationEpoch :=
  entry.epoch ▸ Int.lt_succ after.mutationEpoch

theorem Entry.bump (entry : Entry operation command before after) :
    Counted operation command before after.bumpMutationEpoch :=
  ⟨⟨entry.operations, entry.commands, entry.requests, entry.reviews⟩, .inr entry.raises⟩

theorem Counted.refl (store : Store) (operation : String → Prop) (command : String × String × String → Prop) :
    Counted operation command store store :=
  ⟨((SameBooks.refl store).entry operation command).toBooks, .inl rfl⟩

end Books

end AgentMesh.Task
