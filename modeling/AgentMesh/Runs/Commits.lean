import AgentMesh.Runs.Paging
import AgentMesh.Runs.Terminal

/-! When a transaction commits. In a reachable store the rows of a task fit together, so the database has nothing to
object to: what the writer's own checks let through is committed. -/
namespace AgentMesh.Library

variable {ε α β : Type}

/-- The computation ends well, and its value has the property. -/
def Succeeds (outcome : Except ε α) (property : α → Prop) : Prop := ∃ value, outcome = .ok value ∧ property value

theorem Succeeds.bind {first : Except ε α} {next : α → Except ε β} {middle : α → Prop} {property : β → Prop}
    (head : Succeeds first middle) (tail : ∀ value, middle value → Succeeds (next value) property) :
    Succeeds (first >>= next) property := by
  obtain ⟨value, rfl, holds⟩ := head
  exact tail value holds

theorem Succeeds.imp {outcome : Except ε α} {property weaker : α → Prop} (succeeds : Succeeds outcome property)
    (weakens : ∀ value, property value → weaker value) : Succeeds outcome weaker := by
  obtain ⟨value, done, holds⟩ := succeeds
  exact ⟨value, done, weakens value holds⟩

theorem succeeds_pure {value : α} {property : α → Prop} (holds : property value) :
    Succeeds (pure value : Except ε α) property := ⟨value, rfl, holds⟩

theorem succeeds_ok_bind {first : Except ε α} {value : α} {next : α → Except ε β} {property : β → Prop}
    (done : first = .ok value) (tail : Succeeds (next value) property) : Succeeds (first >>= next) property := by
  rw [done]
  exact tail

theorem succeeds_ensure_bind {condition : Prop} [Decidable condition] {error : ε} {next : Unit → Except ε β}
    {property : β → Prop} (holds : condition) (tail : Succeeds (next ()) property) :
    Succeeds (ensure condition error >>= next) property :=
  succeeds_ok_bind (if_pos holds) tail

theorem succeeds_required_bind {error : ε} {found : Option α} {value : α} {next : α → Except ε β} {property : β → Prop}
    (held : found = some value) (tail : Succeeds (next value) property) :
    Succeeds (required error found >>= next) property :=
  succeeds_ok_bind (required_eq_ok.mpr held) tail

theorem Table.lookup_of_slice_nil {κ κ' : Type} [DecidableEq κ] [DecidableEq κ'] {key : α → κ} {table : Table key}
    (column : α → κ') {value : κ'} {wanted : κ} (empty : table.slice column value = [])
    (inside : ∀ row, key row = wanted → column row = value) : table.lookup wanted = none := by
  rw [Table.lookup_eq_none]
  intro row member found
  have here := (table.mem_slice column value row).mpr ⟨member, inside row found⟩
  rw [empty] at here
  cases here

end AgentMesh.Library

namespace AgentMesh.Runs
open Library Daemon AgentMesh.Task List Store TaskState

variable {codec : Codec} {store after : Store} {ambient : Ambient} {taskId operationId : String} {row task : TaskRow}
  {generation now : Int} {permitted : Request → Store → Prop}

/-- The current attempt of a task that has not ended has not ended either. -/
def Live (current : TaskView) : Prop :=
  current.row.state.isTerminal = false → ∀ attempt ∈ current.attempts, attempt.generation = current.row.generation →
    attempt.state.isTerminal = false

section Live

variable {consent : InteractionRow → ResponseRow → Prop} {current next : TaskView} {change : Change}
  {derived : TaskState}

/-- A change of the attempts that puts none of them into a terminal state. -/
theorem Live.updated (live : Live current) (open_ : current.row.state.isTerminal = false)
    {selects : AttemptRow → Bool} {update : AttemptRow → AttemptRow}
    (attempts : next.attempts = updateWhere selects update current.attempts)
    (generation : next.row.generation = current.row.generation)
    (keeps : ∀ attempt, (update attempt).generation = attempt.generation)
    (moves : ∀ attempt, attempt.state.isTerminal = false → (update attempt).state.isTerminal = false) : Live next := by
  intro _ attempt member here
  rw [attempts] at member
  rw [generation] at here
  obtain ⟨old, stored, rfl⟩ := mem_updateWhere.mp member
  split at here
  · rename_i selected
    rw [if_pos selected]
    exact moves old (live open_ old stored ((keeps old).symm.trans here))
  · rename_i spared
    rw [if_neg spared]
    exact live open_ old stored here

theorem Live.step (control : Control current derived) (live : Live current) (step : TaskStep consent current change next) :
    Live next := by
  by_cases ended : current.row.state.isTerminal = true
  · have same : next.row.state = current.row.state := by
      rcases change_of_terminal control step ended with rfl | rfl <;> cases step <;> rfl
    intro unended
    rw [same, ended] at unended
    cases unended
  have open_ : current.row.state.isTerminal = false := by simpa using ended
  cases step with
  | attemptStarted _ _ _ _ _ _ _ _ alive =>
    intro _ attempt member here
    rcases mem_append.mp member with old | fresh
    · exact live open_ attempt old here
    · rw [mem_singleton.mp fresh]
      exact alive
  | switched _ _ _ _ pair =>
    refine live.updated open_ rfl rfl (fun _ => rfl) fun _ _ => ?_
    rcases pair with ⟨_, rfl⟩ | ⟨_, rfl⟩ <;> rfl
  | dispatched =>
    refine live.updated open_ rfl ?_ (fun _ => rfl) ?_
    · simp only [TaskView.append, TaskView.advanced]
      split <;> rfl
    · intro attempt alive
      dsimp only
      split
      · rfl
      · exact alive
  | answered =>
    refine live.updated open_ rfl ?_ (fun _ => rfl) fun _ _ => rfl
    simp only [TaskView.answeredBy, TaskView.append, TaskView.answer, TaskView.released]
    split <;> rfl
  | sessionRecorded => exact live.updated open_ rfl rfl (fun _ => rfl) fun _ alive => alive
  | opened | expired => exact live.updated open_ rfl rfl (fun _ => rfl) fun _ _ => rfl
  | cancelled now =>
    have frame := (current.attemptsInState (fun attempt => attempt.state.isTerminal = false) .cancelRequested
      now).closed_frame now (fun _ => .cancelled) fun _ => "CANCELLED"
    exact live.updated open_ frame.2.2.2.2.2.1 frame.2.2.1 (fun _ => rfl) fun _ _ => rfl
  | retried =>
    -- No attempt of the next generation exists yet.
    intro _ attempt member here
    obtain ⟨old, stored, rfl⟩ := mem_updateWhere.mp member
    have bound := control.bounded _ (mem_map_of_mem stored)
    have number : old.generation = current.row.generation + 1 := by
      revert here
      split <;> exact id
    simp only [number] at bound
    omega
  | finalized _ _ _ _ _ _ _ isTerminal =>
    intro unended
    cases isTerminal.symm.trans unended
  | reported | acknowledged | resumed | finalizing | repaired => exact fun _ => live open_

theorem live_of_reachable (run : ReachableWhen codec permitted store) (found : view store taskId = some current) :
    Live current := by
  refine (views_of_reachable (fun _ current => (∃ derived, Control current derived) ∧ Live current) ?_ ?_ ?_ run
    taskId current found).2
  · exact fun _ => id
  · intro _ fresh submitted
    refine ⟨⟨.queued, .submitted submitted⟩, fun _ attempt member => ?_⟩
    rw [submitted.attempts] at member
    cases member
  · rintro _ _ _ _ current change next _ _ found ⟨⟨derived, control⟩, live⟩ step
    exact ⟨⟨change.derived derived, control.step (wellFormed found) step⟩, live.step control step⟩

end Live

/-- The row of a task and room in its log: no event is numbered beyond the row's last one. -/
structure Roomy (store : Store) (row : TaskRow) : Prop where
  stored : store.tasks.lookup row.taskId = some row
  last : ∀ event ∈ store.events.rows, event.taskId = row.taskId → event.eventSeq ≤ row.lastEventSeq

/-- What writing a task and its log leaves as it was. -/
structure Aside (store after : Store) : Prop where
  attempts : after.attempts = store.attempts
  interactions : after.interactions = store.interactions
  results : after.results = store.results
  outbox : after.outbox = store.outbox
  commands : after.commands = store.commands
  operations : after.operations = store.operations

theorem Aside.refl (store : Store) : Aside store store := ⟨rfl, rfl, rfl, rfl, rfl, rfl⟩

theorem Aside.trans {first second third : Store} (left : Aside first second) (right : Aside second third) :
    Aside first third :=
  ⟨right.attempts.trans left.attempts, right.interactions.trans left.interactions, right.results.trans left.results,
    right.outbox.trans left.outbox, right.commands.trans left.commands, right.operations.trans left.operations⟩

section Roomy

theorem roomy_of_reachable (run : ReachableWhen codec permitted store) (stored : store.tasks.lookup taskId = some row) :
    Roomy store row := by
  obtain rfl := row_taskId stored
  obtain ⟨current, found, rfl⟩ := view_of_lookup stored
  obtain ⟨derived, control⟩ := control_of_reachable run found
  obtain ⟨_, events, _⟩ := view_eq_some found
  obtain ⟨consecutive, last⟩ := consecutive_of_derives control.derives
  refine ⟨stored, fun event member own => ?_⟩
  have listed : event ∈ current.events := by
    rw [events]
    exact (store.events.mem_slice EventRow.taskId _ event).mpr ⟨member, own⟩
  have bounded := (consecutive.above _ (mem_map_of_mem listed)).2
  rw [length_map] at bounded
  omega

variable (roomy : Roomy store row)

include roomy

theorem Roomy.free : store.events.lookup (row.taskId, row.lastEventSeq + 1) = none := by
  rw [Table.lookup_eq_none]
  intro event member key
  obtain ⟨own, number⟩ := Prod.mk.inj key
  have bound := roomy.last event member own
  omega

theorem Roomy.appendEvent (generation : Int) (kind : String) (payload : Json) (now : Int) :
    Succeeds (store.appendEvent row.taskId generation kind payload now) fun done =>
      Roomy done.2 { row with lastEventSeq := row.lastEventSeq + 1, projectionEventSeq := row.lastEventSeq + 1 } ∧
        Aside store done.2 := by
  obtain ⟨events, added⟩ := store.events.insert_of_free
    { taskId := row.taskId, eventSeq := row.lastEventSeq + 1, generation, kind, payload, committedAt := now } roomy.free
  refine succeeds_required_bind roomy.stored (succeeds_required_bind added (succeeds_pure ⟨⟨?_, ?_⟩, ?_⟩))
  · rw [Table.lookup_update, roomy.stored]
    simp
  · intro event member own
    rw [(Table.insert_eq_some.mp added).2, mem_append, mem_singleton] at member
    obtain old | rfl := member
    · exact (roomy.last event old own).trans (Int.le_add_one le_rfl)
    · exact le_rfl
  · exact ⟨rfl, rfl, rfl, rfl, rfl, rfl⟩

theorem Roomy.appendEvents (generation : Int) (kind : String) (now : Int) (payloads : List Json) :
    Succeeds (store.appendEvents row.taskId generation kind now payloads) fun after =>
      (∃ longer, Roomy after longer ∧ longer.taskId = row.taskId ∧ longer.state = row.state) ∧
        Aside store after := by
  induction payloads generalizing store row with
  | nil => exact succeeds_pure ⟨⟨row, roomy, rfl, rfl⟩, .refl store⟩
  | cons payload payloads ih =>
    refine (roomy.appendEvent generation kind payload now).bind ?_
    rintro ⟨_, middle⟩ ⟨longer, beside⟩
    exact (ih longer).imp fun _ later => ⟨later.1, beside.trans later.2⟩

theorem Roomy.updateTasks {selects : TaskRow → Bool} {change : TaskRow → TaskRow}
    {keeps : ∀ row, (change row).taskId = row.taskId} (own : ∀ other, selects other = true → other.taskId = row.taskId)
    (live : row.state.isTerminal = false) :
    Succeeds (store.updateTasks selects change keeps) fun after =>
      (selects row = true → (change row).lastEventSeq = row.lastEventSeq → Roomy after (change row)) ∧
        Aside store after := by
  refine ⟨_, updateTasks_eq_ok.mpr ⟨fun other member selected => ?_, rfl⟩, fun selected same => ⟨?_, ?_⟩,
    ⟨rfl, rfl, rfl, rfl, rfl, rfl⟩⟩
  · have stored := (store.tasks.lookup_eq_some _ _).mpr ⟨member, own other selected⟩
    rw [← Option.some.inj (roomy.stored.symm.trans stored)]
    exact live
  · rw [keeps, Table.lookup_update, roomy.stored, Option.map_some, if_pos selected]
  · intro event member owner
    rw [same]
    exact roomy.last event member (owner.trans (keeps row))

end Roomy

theorem updateAttempts_succeeds {selects : AttemptRow → Bool} {change : AttemptRow → AttemptRow}
    {keeps : ∀ row, ((change row).taskId, (change row).generation) = (row.taskId, row.generation)}
    (live : ∀ attempt ∈ store.attempts.rows, selects attempt = true → attempt.state.isTerminal = false) :
    Succeeds (store.updateAttempts selects change keeps) fun after => ∃ attempts, after = { store with attempts } :=
  ⟨_, updateAttempts_eq_ok.mpr ⟨live, rfl⟩, _, rfl⟩

theorem storeOperation_succeeds {operationDigest kind : String} {locator : Locator}
    (free : store.operations.lookup operationId = none) :
    Succeeds (store.storeOperation operationId operationDigest taskId generation kind locator now) fun after =>
      ∃ operation operations, operation.operationId = operationId ∧ store.operations.insert? operation = some operations ∧
        after = { store with operations } := by
  obtain ⟨operations, added⟩ := store.operations.insert_of_free
    { operationId, operationDigest, taskId, generation, kind, responseLocator := locator, committedAt := now } free
  exact succeeds_required_bind added (succeeds_pure ⟨_, operations, rfl, added, rfl⟩)

theorem storeCommand_succeeds {consumerId method commandKey requestDigest locator : String}
    (free : store.commands.lookup (consumerId, method, commandKey) = none) :
    Succeeds (store.storeCommand consumerId method commandKey requestDigest locator now) fun after =>
      ∃ command commands, (command.consumerId, command.method, command.commandKey) = (consumerId, method, commandKey) ∧
        command.responseLocator = locator ∧ store.commands.insert? command = some commands ∧
        after = { store with commands } := by
  obtain ⟨commands, added⟩ := store.commands.insert_of_free
    { consumerId, method, commandKey, requestDigest, responseLocator := locator, committedAt := now } free
  exact succeeds_required_bind added (succeeds_pure ⟨_, commands, rfl, rfl, added, rfl⟩)

theorem insertResult_succeeds {consumerId resultId ackToken digest : String} {seq : Int} (token : ackToken.length = 64)
    (unused : (∀ result ∈ store.results.rows, result.resultId ≠ resultId) ∧
      ∀ entry ∈ store.outbox.rows, entry.resultId ≠ resultId)
    (noResult : store.results.lookup (taskId, 1) = none) (noEntry : store.outbox.lookup (consumerId, taskId, 1) = none) :
    Succeeds (store.insertResult consumerId taskId resultId ackToken digest seq now) fun after =>
      ∃ result entry results outbox, result.resultId = resultId ∧ entry.resultId = resultId ∧
        store.results.insert? result = some results ∧ store.outbox.insert? entry = some outbox ∧
        after = { store with results, outbox } := by
  obtain ⟨results, filed⟩ := store.results.insert_of_free
    { taskId, resultVersion := 1, resultId, terminalEventSeq := seq, resultDigest := digest, createdAt := now } noResult
  obtain ⟨outbox, listed⟩ := store.outbox.insert_of_free
    { consumerId, taskId, resultVersion := 1, resultId, ackToken, terminalEventSeq := seq, createdAt := now,
      ackedAt := none, reviewId := none } noEntry
  refine succeeds_ensure_bind ⟨token, unused.1, fun entry member same => unused.2 entry member same.2⟩ ?_
  exact succeeds_required_bind filed (succeeds_required_bind listed
    (succeeds_pure ⟨_, _, results, outbox, rfl, rfl, filed, listed, rfl⟩))

theorem taskAt_stored (stored : store.tasks.lookup taskId = some row) :
    store.taskAt taskId row.generation = some row := by
  simp [taskAt, stored]

theorem mutationAllowed_safe (ambient : Ambient) : ensureMutationAllowed ambient true = .ok () := by
  simp [ensureMutationAllowed, ensure]

theorem mutationAllowed_iff (ambient : Ambient) : ensureMutationAllowed ambient false = .ok () ↔
    ambient.emergency = .normal ∧ ambient.walBytes < 128 * 1024 * 1024 := by
  simp [ensureMutationAllowed]

theorem replayingOperation_of_free {α : Type} {digest : String} {replay : Locator → Checked α} {fresh : Checked α}
    (free : store.operations.lookup operationId = none) :
    store.replayingOperation operationId digest replay fresh = fresh := by
  simp only [replayingOperation, internalOperationReplay, free]
  rfl

theorem replayingCommand_of_free {α : Type} {consumerId method commandKey digest : String} {replay : String → Checked α}
    {fresh : Checked α} (free : store.commands.lookup (consumerId, method, commandKey) = none) :
    store.replayingCommand consumerId method commandKey digest replay fresh = fresh := by
  simp only [replayingCommand, commandReplay, free]
  rfl

/-- One operation is on file; no command, no result and no outbox entry is new. -/
structure Registers (operationId : String) (store after : Store) : Prop where
  results : after.results = store.results
  outbox : after.outbox = store.outbox
  commands : after.commands = store.commands
  operations : ∃ operation, operation.operationId = operationId ∧
    store.operations.insert? operation = some after.operations

theorem Aside.registers {middle : Store} (beside : Aside store middle) {operation : InternalOperationRow}
    {operations : Table InternalOperationRow.operationId} (named : operation.operationId = operationId)
    (added : middle.operations.insert? operation = some operations) :
    Registers operationId store { middle with operations } :=
  ⟨beside.results, beside.outbox, beside.commands, operation, named, beside.operations ▸ added⟩

/-- One result is on file, with its outbox entry and its command; no operation is new. -/
structure Concludes (key : String × String × String) (resultId : String) (store after : Store) : Prop where
  operations : after.operations = store.operations
  result : ∃ result, result.resultId = resultId ∧ store.results.insert? result = some after.results
  entry : ∃ entry, entry.resultId = resultId ∧ store.outbox.insert? entry = some after.outbox
  command : ∃ command, (command.consumerId, command.method, command.commandKey) = key ∧
    command.responseLocator = resultId ∧ store.commands.insert? command = some after.commands

/-- The task is in `FINALIZING`, in the generation and with the wish to be cancelled that it had before. -/
def Finalizing (taskId : String) (row : TaskRow) (after : Store) : Prop :=
  ∃ moved, after.tasks.lookup taskId = some moved ∧ moved.state = .finalizing ∧ moved.generation = row.generation ∧
    moved.cancelRequestedAt = row.cancelRequestedAt

section Operations

variable (run : ReachableWhen codec permitted store) (stored : store.tasks.lookup taskId = some row)

include run stored

theorem live_attempts (open_ : row.state.isTerminal = false) : ∀ attempt ∈ store.attempts.rows,
    attempt.taskId = taskId ∧ attempt.generation = row.generation → attempt.state.isTerminal = false := by
  obtain ⟨current, found, rfl⟩ := view_of_lookup stored
  rintro attempt member ⟨own, here⟩
  exact live_of_reachable run found open_ attempt ((mem_attempts found attempt).mpr ⟨member, own⟩) here

/-- A task that may be finalized is moved to `FINALIZING` by an operation that was not recorded before. -/
theorem transition_commits (allowed : row.state.allows .finalizing = true)
    (free : store.operations.lookup operationId = none) :
    Succeeds (store.transition codec ambient operationId taskId row.generation [row.state] .finalizing now)
      fun done => Registers operationId store done.2 ∧ Finalizing taskId row done.2 := by
  have open_ : row.state.isTerminal = false := by
    by_contra ended
    rw [allows_of_isTerminal _ _ (by simpa using ended)] at allowed
    cases allowed
  obtain rfl := row_taskId stored
  refine succeeds_ok_bind (mutationAllowed_safe ambient) (succeeds_ensure_bind rfl ?_)
  rw [replayingOperation_of_free free]
  refine succeeds_required_bind (taskAt_stored stored) (succeeds_ensure_bind open_ ?_)
  refine succeeds_ensure_bind ⟨by simp, allowed⟩ ?_
  refine ((roomy_of_reachable run stored).updateTasks (by simp; tauto) open_).bind ?_
  rintro _ ⟨roomy, moved⟩
  refine ((roomy (by simp) rfl).appendEvent _ _ _ _).bind ?_
  rintro ⟨_, _⟩ ⟨room, logged⟩
  have beside := moved.trans logged
  refine (storeOperation_succeeds (beside.operations ▸ free)).bind ?_
  rintro _ ⟨operation, operations, named, added, rfl⟩
  have registers := beside.registers named added
  exact succeeds_pure ⟨⟨registers.1, registers.2, registers.3, registers.4⟩, _, room.stored, rfl, rfl, rfl⟩

theorem scheduleSafeRetry_commits {attempt : AttemptRow} {retryAt : Int}
    (allowed : ensureMutationAllowed ambient false = .ok ())
    (held : store.attempts.lookup (taskId, row.generation) = some attempt)
    (absent : attempt.dispatchPhase.effectIsProvenAbsent = true) (state : row.state = .preparing)
    (room : row.generation < 9223372036854775807) (free : store.operations.lookup operationId = none) :
    Succeeds (store.scheduleSafeRetry codec ambient operationId taskId row.generation retryAt now) fun done =>
      Registers operationId store done.2 := by
  have open_ : row.state.isTerminal = false := by rw [state]; rfl
  have live := live_attempts run stored open_
  obtain rfl := row_taskId stored
  refine succeeds_ok_bind allowed ?_
  rw [replayingOperation_of_free free]
  refine succeeds_required_bind (taskAt_stored stored) (succeeds_required_bind held (succeeds_ensure_bind (.inl state) ?_))
  refine succeeds_ensure_bind absent (succeeds_ensure_bind room ?_)
  refine (updateAttempts_succeeds (by simpa using live)).bind ?_
  rintro _ ⟨attempts, rfl⟩
  have roomy : Roomy { store with attempts } row := ⟨stored, (roomy_of_reachable run stored).last⟩
  refine (roomy.updateTasks (by simp; tauto) open_).bind ?_
  rintro _ ⟨roomy, moved⟩
  refine ((roomy (by simp) rfl).appendEvent _ _ _ _).bind ?_
  rintro ⟨_, _⟩ ⟨_, logged⟩
  have beside := moved.trans logged
  refine (storeOperation_succeeds (beside.operations ▸ free)).bind ?_
  rintro _ ⟨operation, operations, named, added, rfl⟩
  have registers := beside.registers named added
  exact succeeds_pure ⟨registers.1, registers.2, registers.3, registers.4⟩

theorem recordResume_commits (free : store.operations.lookup s!"recovery-resume:{taskId}:{generation}" = none) :
    Succeeds (store.recordResume codec taskId generation now) fun after =>
      Registers s!"recovery-resume:{taskId}:{generation}" store after := by
  obtain rfl := row_taskId stored
  unfold recordResume
  dsimp only
  rw [replayingOperation_of_free free]
  refine ((roomy_of_reachable run stored).appendEvent _ _ _ _).bind ?_
  rintro ⟨_, _⟩ ⟨_, logged⟩
  refine (storeOperation_succeeds (logged.operations ▸ free)).imp ?_
  rintro _ ⟨operation, operations, named, added, rfl⟩
  exact logged.registers named added

/-- A finalizing task is ended by a command that was not recorded before, with a result under a new identifier. -/
theorem finalize_commits {resultId ackToken consumerId commandKey requestDigest resultDigest : String}
    {terminal : TaskState} (state : row.state = .finalizing) (ends : terminal.isTerminal = true)
    (intent : row.cancelRequestedAt = none ∨ terminal = .cancelled) (token : ackToken.length = 64)
    (unused : (∀ result ∈ store.results.rows, result.resultId ≠ resultId) ∧
      ∀ entry ∈ store.outbox.rows, entry.resultId ≠ resultId)
    (free : store.commands.lookup (consumerId, "finalize", commandKey) = none) :
    Succeeds (store.finalize ambient resultId ackToken consumerId commandKey requestDigest taskId row.generation terminal
      resultDigest now) fun done => Concludes (consumerId, "finalize", commandKey) resultId store done.2 := by
  have open_ : row.state.isTerminal = false := by rw [state]; rfl
  have live := live_attempts run stored open_
  have allowed : row.state.allows terminal = true := by
    rw [state]
    cases terminal <;> first | rfl | cases ends
  obtain ⟨current, found, rfl⟩ := view_of_lookup stored
  have unfinished : Unfinished current := by
    have settled := settled_of_reachable run found
    rwa [Settled, if_neg (by simp [open_])] at settled
  obtain ⟨_, _, _, _, results, outbox⟩ := view_eq_some found
  have noResult : store.results.lookup (taskId, 1) = none :=
    Table.lookup_of_slice_nil ResultRow.taskId (results.symm.trans unfinished.1) fun _ key => congrArg Prod.fst key
  have noEntry : store.outbox.lookup (consumerId, taskId, 1) = none :=
    Table.lookup_of_slice_nil OutboxRow.taskId (outbox.symm.trans unfinished.2.1)
      fun _ key => congrArg (fun key => key.2.1) key
  obtain rfl := row_taskId stored
  refine succeeds_ok_bind (mutationAllowed_safe ambient) (succeeds_ensure_bind ends ?_)
  rw [replayingCommand_of_free free]
  refine succeeds_required_bind (taskAt_stored stored) (succeeds_ensure_bind open_ (succeeds_ensure_bind allowed ?_))
  refine succeeds_ensure_bind intent ?_
  refine ((roomy_of_reachable run stored).appendEvents _ _ _ _).bind ?_
  rintro _ ⟨⟨longer, roomy, owner, same⟩, closed⟩
  have logged := roomy.appendEvent current.row.generation "terminal" (terminalPayload terminal resultId) now
  rw [owner] at logged
  refine logged.bind ?_
  rintro ⟨seq, middle⟩ ⟨roomy, logged⟩
  have beside := closed.trans logged
  refine (insertResult_succeeds token (beside.results ▸ beside.outbox ▸ unused) (beside.results ▸ noResult)
    (beside.outbox ▸ noEntry)).bind ?_
  rintro _ ⟨result, entry, results, outbox, ofResult, ofEntry, filed, listed, rfl⟩
  have room : Roomy { middle with results, outbox } _ := ⟨roomy.stored, roomy.last⟩
  refine (room.updateTasks (fun other selected => ?_) (by exact (congrArg isTerminal same).trans open_)).bind ?_
  · exact (of_decide_eq_true selected).1
  rintro last ⟨_, ended⟩
  have attempts : last.attempts = store.attempts := ended.attempts.trans beside.attempts
  have commands : last.commands = store.commands := ended.commands.trans beside.commands
  refine (updateAttempts_succeeds (by simpa [attempts] using live)).bind ?_
  rintro _ ⟨_, rfl⟩
  refine (storeCommand_succeeds (commands ▸ free)).bind ?_
  rintro _ ⟨command, recorded, named, locator, added, rfl⟩
  refine succeeds_pure ⟨ended.operations.trans beside.operations, ⟨result, ofResult, ?_⟩, ⟨entry, ofEntry, ?_⟩,
    command, named, locator, commands ▸ added⟩
  · exact (beside.results ▸ filed).trans (congrArg some ended.results.symm)
  · exact (beside.outbox ▸ listed).trans (congrArg some ended.outbox.symm)

end Operations

/-- An interaction that its expiry finds due: pending, of the named generation of a waiting task and, for a preflight
interaction, before any effect. -/
structure Expirable (store : Store) (kind : ExpiryKind) (interactionId : String) (generation now : Int)
    (row : InteractionRow) (task : TaskRow) : Prop where
  interaction : store.interactions.lookup interactionId = some row
  stored : store.tasks.lookup row.taskId = some task
  current : row.generation = generation ∧ task.generation = generation
  due : row.state = .pending ∧ row.expiresAt ≤ now
  waiting : task.state = .waitingApproval
  absent : kind.preflight = true → ∃ attempt ∈ store.attempts.lookup (row.taskId, generation),
    attempt.dispatchPhase.effectIsProvenAbsent = true

/-- The first transaction of a new expiry commits when the interaction is due. -/
theorem expireTransaction_commits {kind : ExpiryKind} {interactionId : String} {interaction : InteractionRow}
    (run : ReachableWhen codec permitted store) (free : store.operations.lookup operationId = none)
    (due : Expirable store kind interactionId generation now interaction task) :
    Succeeds (store.expireTransaction codec kind operationId interactionId generation now) fun done =>
      Registers operationId store done.2 ∧ Finalizing done.1 task done.2 := by
  obtain ⟨read, stored, ⟨same, rfl⟩, pending, waiting, absent⟩ := due
  have open_ : task.state.isTerminal = false := by rw [waiting]; rfl
  have live := live_attempts run stored open_
  have owner := row_taskId stored
  refine succeeds_required_bind read (succeeds_required_bind (taskAt_stored stored) ?_)
  refine succeeds_ensure_bind ⟨same, pending.1, pending.2, waiting⟩ (succeeds_ensure_bind ?_ ?_)
  · simpa [Option.any_eq_true] using absent
  have logged := (roomy_of_reachable run stored).appendEvent task.generation "interaction_decided"
    (interactionDecidedPayload interactionId "EXPIRED" none) now
  rw [owner] at logged
  refine logged.bind ?_
  rintro ⟨_, middle⟩ ⟨roomy, logged⟩
  have same : middle.attempts = store.attempts := logged.attempts
  refine (updateAttempts_succeeds (by simpa [same] using live)).bind ?_
  rintro _ ⟨attempts, rfl⟩
  have room : ∀ interactions, Roomy { middle with interactions, attempts } _ := fun _ => ⟨roomy.stored, roomy.last⟩
  refine ((room _).updateTasks (fun other selected => ?_) open_).bind ?_
  · exact (of_decide_eq_true selected).1
  rintro last ⟨moved, ended⟩
  refine (storeOperation_succeeds ((ended.operations.trans logged.operations) ▸ free)).bind ?_
  rintro _ ⟨operation, operations, named, added, rfl⟩
  refine succeeds_pure ⟨⟨ended.results.trans logged.results, ended.outbox.trans logged.outbox,
    ended.commands.trans logged.commands, operation, named, ?_⟩, _, (moved (by simp) rfl).stored, rfl, rfl, rfl⟩
  exact (ended.operations.trans logged.operations) ▸ added

theorem expirable_of_expireTransaction {kind : ExpiryKind} {interactionId : String}
    (done : store.expireTransaction codec kind operationId interactionId generation now = .ok (taskId, after)) :
    ∃ interaction task, Expirable store kind interactionId generation now interaction task := by
  simp only [expireTransaction, eq_ok_iff] at done
  obtain ⟨row, interaction, task, found, _, ⟨same, pending, due, waiting⟩, _, absent, _⟩ := done
  obtain ⟨stored, current⟩ := Option.filter_eq_some_iff.mp found
  refine ⟨row, task, interaction, stored, ⟨same, of_decide_eq_true current⟩, ⟨pending, due⟩, waiting, fun preflight => ?_⟩
  simpa [Option.any_eq_true] using absent preflight

end AgentMesh.Runs
