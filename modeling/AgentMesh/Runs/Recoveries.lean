import AgentMesh.Daemon.OperationDigests
import AgentMesh.Runs.Commits

/-! Recovery, decision by decision. What comes of a decision that `reconcile_nonterminal` takes for a task can be read
off the rows of the task and the two replay tables as they are before the recovery, since what it does for one task
touches neither the rows nor the keys of another. -/
namespace AgentMesh.Daemon

/-- The errors that report a failure of the database or of the file system. -/
def StorageError.isDatabase : StorageError → Bool
  | .sql _ | .io => true
  | _ => false

end AgentMesh.Daemon

namespace AgentMesh.Runs
open Library Library.Literal Daemon AgentMesh.Task List Store TaskState

variable {codec : Codec} {store after : Store} {ambient : Ambient} {draw : String → String × String}
  {consumerId taskId operationId : String} {task : TaskRow} {generation now : Int}

def Refusal (error : StorageError) : Prop := error.isDatabase = false

theorem refusal_of_fence {safe : Bool} {error : StorageError} (fence : ensureMutationAllowed ambient safe = .error error) :
    Refusal error := by
  unfold ensureMutationAllowed ensure at fence
  split at fence
  · split at fence
    · cases fence
    · cases fence
      rfl
  · cases fence
    rfl

/-- The keys a recovery writes under. -/
def recoveryKey (label taskId : String) (generation : Int) : String := s!"{label}:{taskId}:{generation}"

section Keys

theorem eq_of_mark {α : Type} {mark : α} {first other second others : List α} (plain : mark ∉ first)
    (clear : mark ∉ other) (same : first ++ mark :: second = other ++ mark :: others) :
    first = other ∧ second = others := by
  induction first generalizing other with
  | nil =>
    cases other with
    | nil => exact ⟨rfl, (cons.inj same).2⟩
    | cons head other => exact absurd (cons.inj same).1 (ne_of_not_mem_cons clear)
  | cons head first ih =>
    cases other with
    | nil => exact absurd (cons.inj same).1.symm (ne_of_not_mem_cons plain)
    | cons next other =>
      obtain ⟨rfl, rest⟩ := cons.inj same
      obtain ⟨rfl, rfl⟩ := ih (not_mem_of_not_mem_cons plain) (not_mem_of_not_mem_cons clear) rest
      exact ⟨rfl, rfl⟩

theorem colon_notMem_toString (value : Int) : ':' ∉ (toString value).toList := by
  have digits : ':' ∉ Nat.toDigits 10 value.natAbs := fun member =>
    absurd (Nat.isDigit_of_mem_toDigits (by omega) (by omega) member) (by decide)
  rw [toList_toString, decimal]
  split
  · simp [digits]
  · exact digits

/-- Keys of two tasks are different, whatever they are for. -/
theorem recoveryKey_inj {label other otherId : String} {later : Int} (plain : ':' ∉ label.toList)
    (clear : ':' ∉ other.toList) (same : recoveryKey label taskId generation = recoveryKey other otherId later) :
    taskId = otherId := by
  have texts : label.toList ++ ':' :: (taskId.toList ++ ':' :: (toString generation).toList) =
      other.toList ++ ':' :: (otherId.toList ++ ':' :: (toString later).toList) := by
    simpa [recoveryKey, toString] using congrArg String.toList same
  -- The number behind the last colon has none, so the rest is cut off from the end.
  have turned := congrArg reverse (eq_of_mark plain clear texts).2
  simp only [reverse_append, reverse_cons, append_assoc, singleton_append] at turned
  have ends := eq_of_mark (by simpa using colon_notMem_toString generation) (by simpa using colon_notMem_toString later)
    turned
  exact String.toList_injective (reverse_injective ends.2)

end Keys

/-- What comes of the decision for one task. -/
inductive Verdict where
  /-- Accepted, with every row as it was. -/
  | kept
  | changed
  /-- Refused, with every row as it was. -/
  | refused
  /-- Refused after the task was moved to `FINALIZING`. -/
  | torn
  /-- Stopped by the database. -/
  | failed
  deriving DecidableEq

/-- What a verdict is once the task has been moved before. -/
def Verdict.moved : Verdict → Verdict
  | kept => changed
  | refused => torn
  | verdict => verdict

section Verdicts

variable (codec : Codec) (ambient : Ambient) (consumerId : String) (now : Int) (store : Store) (task : TaskRow)

def retryVerdict : Verdict :=
  if ambient.emergency = .normal ∧ ambient.walBytes < 128 * 1024 * 1024 then
    match store.operations.lookup (recoveryKey "recovery-retry" task.taskId task.generation) with
    | some operation =>
      if operation.operationDigest = digestFields codec [task.taskId, toString task.generation, toString now] ∧
        operation.responseLocator.asI64?.isSome = true then .kept else .refused
    | none =>
      if task.state ≠ .preparing then .failed
      else if task.generation < 9223372036854775807 then .changed else .refused
  else .refused

def resumeVerdict : Verdict :=
  match store.operations.lookup (recoveryKey "recovery-resume" task.taskId task.generation) with
  | some operation =>
    if operation.operationDigest = digestFields codec [task.taskId, toString task.generation, "resume-session"] then .kept
    else .refused
  | none => .changed

/-- The result of a task in `FINALIZING`. -/
def resultVerdict (taskId : String) (generation : Int) (target : TaskState) : Verdict :=
  match store.commands.lookup (consumerId, "finalize", recoveryKey "recovery-result" taskId generation) with
  | some command =>
    if command.requestDigest ≠ digestFields codec [taskId, toString generation, target.asStr] then .refused
    else if ∃ entry ∈ store.outbox.rows, entry.consumerId = consumerId ∧ entry.resultId = command.responseLocator then
      .kept
    else .failed
  | none => .changed

/-- The end of a task: the move to `FINALIZING`, where it is still to be made, and the result. -/
def endVerdict (target : TaskState) : Verdict :=
  if task.state = .finalizing then resultVerdict codec consumerId store task.taskId task.generation target
  else
    match store.operations.lookup (recoveryKey "recovery-finalizing" task.taskId task.generation) with
    | none => (resultVerdict codec consumerId store task.taskId task.generation target).moved
    | some operation =>
      if operation.operationDigest = digestFields codec
          [task.taskId, toString task.generation, task.state.asStr, TaskState.finalizing.asStr] ∧
        operation.responseLocator.asI64?.isSome = true ∧
        resultVerdict codec consumerId store task.taskId task.generation target ≠ .changed then
        resultVerdict codec consumerId store task.taskId task.generation target
      else .refused

def verdict : Verdict :=
  match recoveryDecision codec task (store.currentAttempt task)
      (store.latestAnsweredResponseKind task.taskId task.generation) with
  | none => .kept
  | some .retrySafe => retryVerdict codec ambient now store task
  | some .resumeSession => resumeVerdict codec store task
  | some .finalizeCancellation => endVerdict codec consumerId store task .cancelled
  | some .needsAttention => endVerdict codec consumerId store task .needsAttention

end Verdicts

/-- What a decision for a task may add: operations and a command under the keys of the task, and one result. -/
structure Noted (consumerId taskId : String) (generation : Int) (resultId : String) (store after : Store) : Prop where
  operations : ∀ operationId, after.operations.lookup operationId = store.operations.lookup operationId ∨
    ∃ label ∈ ["recovery-retry", "recovery-resume", "recovery-finalizing"],
      operationId = recoveryKey label taskId generation
  commands : ∀ key, after.commands.lookup key = store.commands.lookup key ∨
    key = (consumerId, "finalize", recoveryKey "recovery-result" taskId generation)
  located : ∀ command ∈ after.commands.rows, command ∈ store.commands.rows ∨ command.responseLocator = resultId
  results : ∀ result ∈ after.results.rows, result ∈ store.results.rows ∨ result.resultId = resultId
  outbox : ∀ entry ∈ after.outbox.rows, entry ∈ store.outbox.rows ∨ entry.resultId = resultId
  delivered : ∀ entry ∈ store.outbox.rows, entry ∈ after.outbox.rows
  longer : store.operations.rows.length + store.commands.rows.length <
    after.operations.rows.length + after.commands.rows.length

section Noted

variable {resultId : String}

theorem Registers.recorded {label : String} (known : label ∈ ["recovery-retry", "recovery-resume", "recovery-finalizing"])
    (registers : Registers (recoveryKey label taskId generation) store after) :
    Noted consumerId taskId generation resultId store after := by
  obtain ⟨results, outbox, commands, operation, named, added⟩ := registers
  refine ⟨fun operationId => ?_, fun key => .inl (by rw [commands]), fun command member => .inl (commands ▸ member),
    fun result member => .inl (results ▸ member), fun entry member => .inl (outbox ▸ member),
    fun entry member => outbox ▸ member, ?_⟩
  · by_cases own : operation.operationId = operationId
    · exact .inr ⟨label, known, own.symm.trans named⟩
    · exact .inl ((Table.lookup_insert added operationId).trans (if_neg own))
  · rw [commands, (Table.insert_eq_some.mp added).2, length_append, length_singleton]
    omega

theorem mem_inserted {α κ : Type} [DecidableEq κ] {key : α → κ} {table grown : Table key} {row other : α}
    (added : table.insert? row = some grown) (member : other ∈ grown.rows) : other ∈ table.rows ∨ other = row := by
  rwa [(Table.insert_eq_some.mp added).2, mem_append, mem_singleton] at member

theorem Concludes.recorded
    (concludes : Concludes (consumerId, "finalize", recoveryKey "recovery-result" taskId generation) resultId store
      after) : Noted consumerId taskId generation resultId store after := by
  obtain ⟨operations, ⟨result, ofResult, filed⟩, ⟨entry, ofEntry, listed⟩, command, named, locator, added⟩ := concludes
  have more := (Table.insert_eq_some.mp added).2
  refine ⟨fun operationId => .inl (by rw [operations]), fun key => ?_, fun other member => ?_, fun other member => ?_,
    fun other member => ?_, fun other member => ?_, ?_⟩
  · by_cases own : (command.consumerId, command.method, command.commandKey) = key
    · exact .inr (own.symm.trans named)
    · exact .inl ((Table.lookup_insert added key).trans (if_neg own))
  · exact (mem_inserted added member).imp_right (by rintro rfl; exact locator)
  · exact (mem_inserted filed member).imp_right (by rintro rfl; exact ofResult)
  · exact (mem_inserted listed member).imp_right (by rintro rfl; exact ofEntry)
  · rw [(Table.insert_eq_some.mp listed).2]
    exact mem_append_left _ member
  · rw [operations, more, length_append, length_singleton]
    omega

theorem Noted.trans {middle : Store} (left : Noted consumerId taskId generation resultId store middle)
    (right : Noted consumerId taskId generation resultId middle after) :
    Noted consumerId taskId generation resultId store after where
  operations operationId := (right.operations operationId).elim
    (fun same => (left.operations operationId).imp same.trans id) .inr
  commands key := (right.commands key).elim (fun same => (left.commands key).imp same.trans id) .inr
  located command member := (right.located command member).elim (left.located command) .inr
  results result member := (right.results result member).elim (left.results result) .inr
  outbox entry member := (right.outbox entry member).elim (left.outbox entry) .inr
  delivered entry member := right.delivered entry (left.delivered entry member)
  longer := left.longer.trans right.longer

end Noted

/-- The decision for a task comes to its verdict. -/
inductive Comes (consumerId taskId : String) (generation : Int) (resultId : String) (store : Store) :
    Verdict → Checked Unit × Store → Prop
  | kept : Comes consumerId taskId generation resultId store .kept (.ok (), store)
  | changed (after : Store) : Noted consumerId taskId generation resultId store after →
      Comes consumerId taskId generation resultId store .changed (.ok (), after)
  | refused (error : StorageError) : Refusal error →
      Comes consumerId taskId generation resultId store .refused (.error error, store)
  | torn (error : StorageError) (after : Store) : Refusal error →
      Noted consumerId taskId generation resultId store after →
      Comes consumerId taskId generation resultId store .torn (.error error, after)
  | failed (error : StorageError) (after : Store) : error.isDatabase = true →
      Comes consumerId taskId generation resultId store .failed (.error error, after)

theorem Comes.moved {resultId : String} {middle : Store} {verdict : Verdict} {outcome : Checked Unit × Store}
    (first : Noted consumerId taskId generation resultId store middle)
    (last : Comes consumerId taskId generation resultId middle verdict outcome) :
    Comes consumerId taskId generation resultId store verdict.moved outcome := by
  cases last with
  | kept => exact .changed middle first
  | changed after recorded => exact .changed after (first.trans recorded)
  | refused error refusal => exact .torn error middle refusal first
  | torn error after refusal recorded => exact .torn error after refusal (first.trans recorded)
  | failed error after database => exact .failed error after database

section Comes

variable {resultId : String} {α : Type} {digest : String}

theorem replayingOperation_of_found {replay : Locator → Checked α} {fresh : Checked α} {operation : InternalOperationRow}
    (found : store.operations.lookup operationId = some operation) :
    store.replayingOperation operationId digest replay fresh =
      if operation.operationDigest = digest then replay operation.responseLocator else .error .idempotencyConflict := by
  simp only [replayingOperation, internalOperationReplay, found]
  split <;> rfl

theorem replayingCommand_of_found {method commandKey : String} {replay : String → Checked α} {fresh : Checked α}
    {command : CommandRow} (found : store.commands.lookup (consumerId, method, commandKey) = some command) :
    store.replayingCommand consumerId method commandKey digest replay fresh =
      if command.requestDigest = digest then replay command.responseLocator else .error .idempotencyConflict := by
  simp only [replayingCommand, commandReplay, found]
  split <;> rfl

variable (run : Reachable codec store) (stored : store.tasks.lookup task.taskId = some task)

include run stored

omit run stored in
theorem retry_of_recoveryDecision {attempt : Option AttemptRow} {answered : Option InteractionResponseKind}
    (decided : recoveryDecision codec task attempt answered = some .retrySafe) :
    ∃ row, attempt = some row ∧ row.dispatchPhase.effectIsProvenAbsent = true := by
  simp only [recoveryDecision] at decided
  split_ifs at decided with _ _ _ _ _ absent
  · cases decided
  · cases decided
  · cases decided
  · cases decided
  · cases decided
  · simpa [Option.any_eq_true] using absent
  · cases decided

theorem comes_retry (active : settledState task.state = false)
    (decided : recoveryDecision codec task (store.currentAttempt task) (store.latestAnsweredResponseKind task.taskId
      task.generation) = some .retrySafe) :
    Comes consumerId task.taskId task.generation resultId store (retryVerdict codec ambient now store task)
      (store.applyDecision codec ambient draw consumerId task .retrySafe now) := by
  have key : s!"recovery-retry:{task.taskId}:{task.generation}" =
      recoveryKey "recovery-retry" task.taskId task.generation := by simp [recoveryKey, toString]
  obtain ⟨attempt, held, absent⟩ := retry_of_recoveryDecision decided
  unfold retryVerdict
  cases fence : ensureMutationAllowed ambient false with
  | error error =>
    have fenced : ¬(ambient.emergency = .normal ∧ ambient.walBytes < 128 * 1024 * 1024) := fun calm => by
      cases fence.symm.trans ((mutationAllowed_iff ambient).mpr calm)
    simp only [applyDecision, scheduleSafeRetry, fence, if_neg fenced]
    exact .refused error (refusal_of_fence fence)
  | ok done =>
    rw [if_pos ((mutationAllowed_iff ambient).mp fence)]
    cases found : store.operations.lookup (recoveryKey "recovery-retry" task.taskId task.generation) with
    | some operation =>
      simp only [applyDecision, scheduleSafeRetry, fence, key, bind, Except.bind, replayingOperation_of_found found]
      by_cases same : operation.operationDigest = digestFields codec [task.taskId, toString task.generation, toString now]
      · cases number : operation.responseLocator.asI64? with
        | none =>
          simp only [same, required, Option.isSome_none, Bool.false_eq_true, and_false, if_false]
          exact .refused _ rfl
        | some next =>
          simp only [same, required, Option.isSome_some, and_true, if_true]
          exact .kept
      · simp only [same, false_and, if_false]
        exact .refused _ rfl
    | none =>
      have read : store.attempts.lookup (task.taskId, task.generation) = some attempt := held
      dsimp only
      split
      · rename_i state
        have waits : ¬(task.state = .preparing ∨ task.state = .retryWait) := by
          rintro (preparing | waiting)
          · exact state preparing
          · simp [settledState, waiting] at active
        simp only [applyDecision, scheduleSafeRetry, fence, key, bind, Except.bind, replayingOperation_of_free found,
          queryRow, taskAt_stored stored, read, required, ensure, if_neg waits]
        exact .failed _ _ rfl
      · rename_i state
        have preparing : task.state = .preparing := not_not.mp state
        split
        · rename_i room
          obtain ⟨⟨next, after⟩, done, registers⟩ := @scheduleSafeRetry_commits codec store ambient task.taskId _ task now
            _ run stored attempt now fence held absent preparing room found
          simp only [applyDecision, key, done]
          exact .changed after (Registers.recorded (by simp) registers)
        · rename_i room
          simp only [applyDecision, scheduleSafeRetry, fence, key, bind, Except.bind, replayingOperation_of_free found,
            queryRow, taskAt_stored stored, read, required, ensure, preparing, absent, true_or, if_true, if_neg room]
          exact .refused _ rfl

theorem comes_resume :
    Comes consumerId task.taskId task.generation resultId store (resumeVerdict codec store task)
      (store.applyDecision codec ambient draw consumerId task .resumeSession now) := by
  unfold resumeVerdict
  have key : s!"recovery-resume:{task.taskId}:{task.generation}" =
      recoveryKey "recovery-resume" task.taskId task.generation := by simp [recoveryKey, toString]
  cases found : store.operations.lookup (recoveryKey "recovery-resume" task.taskId task.generation) with
  | some operation =>
    simp only [applyDecision, recordResume]
    rw [key, replayingOperation_of_found found]
    split
    · exact .kept
    · exact .refused _ rfl
  | none =>
    rw [← key] at found
    obtain ⟨after, done, registers⟩ := @recordResume_commits codec store task.taskId task task.generation now _ run stored
      found
    simp only [applyDecision, done]
    exact .changed after (Registers.recorded (by simp) (key ▸ registers))

end Comes

/-- The result identifier is new: no result, no outbox entry and no command names it. -/
structure Unused (resultId : String) (store : Store) : Prop where
  results : ∀ result ∈ store.results.rows, result.resultId ≠ resultId
  outbox : ∀ entry ∈ store.outbox.rows, entry.resultId ≠ resultId
  commands : ∀ command ∈ store.commands.rows, command.responseLocator ≠ resultId

theorem Registers.unused {operationId resultId : String} (registers : Registers operationId store after)
    (unused : Unused resultId store) : Unused resultId after :=
  ⟨registers.results ▸ unused.results, registers.outbox ▸ unused.outbox, registers.commands ▸ unused.commands⟩

section Ends

variable {resultId ackToken : String} {target : TaskState} {row : TaskRow}

/-- The last transaction of a recovered task, with the store it leaves behind. -/
def finish (codec : Codec) (ambient : Ambient) (resultId ackToken consumerId taskId : String) (generation : Int)
    (target : TaskState) (now : Int) (store : Store) : Checked Unit × Store :=
  match store.finalize ambient resultId ackToken consumerId (recoveryKey "recovery-result" taskId generation)
      (digestFields codec [taskId, toString generation, target.asStr]) taskId generation target
      (digestFields codec ["minimal-recovery-result", target.asStr]) now with
  | .error error => (.error error, store)
  | .ok (_, store) => (.ok (), store)

theorem loadDelivery_of_listed (run : Reachable codec store) {locator : String}
    (listed : ∃ entry ∈ store.outbox.rows, entry.consumerId = consumerId ∧ entry.resultId = locator) :
    ∃ delivery, store.loadDelivery consumerId locator = .ok delivery := by
  have found : (store.outbox.rows.find? fun row =>
      row.consumerId == consumerId && row.resultId == locator).isSome = true := by
    simpa using listed
  obtain ⟨entry, found⟩ := Option.isSome_iff_exists.mp found
  cases stored : store.tasks.lookup entry.taskId with
  | none =>
    have outbox := ((keyed_of_reachable run).housed entry.taskId stored).outbox
    have member : entry ∈ store.outbox.slice OutboxRow.taskId entry.taskId :=
      (Table.mem_slice ..).mpr ⟨mem_of_find?_eq_some found, rfl⟩
    simp [outbox] at member
  | some task => exact ⟨_, by simp [loadDelivery, found, stored, queryRow, required]; rfl⟩

theorem loadDelivery_of_unlisted {locator : String}
    (unlisted : ¬∃ entry ∈ store.outbox.rows, entry.consumerId = consumerId ∧ entry.resultId = locator) :
    store.loadDelivery consumerId locator = .error (.sql .queryReturnedNoRows) := by
  have missing : store.outbox.rows.find? (fun row => row.consumerId == consumerId && row.resultId == locator) = none := by
    simpa using unlisted
  simp [loadDelivery, missing, queryRow, required, bind, Except.bind]

/-- A command on file answers for the task, whatever state the task is in. -/
theorem comes_replay (run : Reachable codec store) (ends : target.isTerminal = true) {command : CommandRow}
    (found : store.commands.lookup (consumerId, "finalize", recoveryKey "recovery-result" taskId generation) =
      some command) :
    Comes consumerId taskId generation resultId store (resultVerdict codec consumerId store taskId generation target)
      (finish codec ambient resultId ackToken consumerId taskId generation target now store) := by
  simp only [resultVerdict, finish, finalize, mutationAllowed_safe, found, bind, Except.bind, ensure, ends, if_true,
    replayingCommand_of_found found]
  by_cases same : command.requestDigest = digestFields codec [taskId, toString generation, target.asStr]
  · rw [if_pos same, if_neg (not_not.mpr same)]
    split
    · rename_i listed
      obtain ⟨delivery, loaded⟩ := loadDelivery_of_listed run listed
      simp only [loaded]
      exact .kept
    · rename_i unlisted
      simp only [loadDelivery_of_unlisted unlisted]
      exact .failed _ _ rfl
  · rw [if_neg same, if_pos same]
    exact .refused _ rfl

/-- A task that was not moved is not ended, unless its command is on file. -/
theorem comes_unmoved (run : Reachable codec store) (stored : store.tasks.lookup task.taskId = some task)
    (state : task.state ≠ .finalizing) (ends : target.isTerminal = true) :
    Comes consumerId task.taskId task.generation resultId store
      (if resultVerdict codec consumerId store task.taskId task.generation target ≠ .changed then
        resultVerdict codec consumerId store task.taskId task.generation target else .refused)
      (finish codec ambient resultId ackToken consumerId task.taskId task.generation target now store) := by
  cases found : store.commands.lookup (consumerId, "finalize", recoveryKey "recovery-result" task.taskId
    task.generation) with
  | some command =>
    have answered : resultVerdict codec consumerId store task.taskId task.generation target ≠ .changed := by
      simp only [resultVerdict, found]
      split_ifs <;> decide
    rw [if_pos answered]
    exact comes_replay run ends found
  | none =>
    have still : resultVerdict codec consumerId store task.taskId task.generation target = .changed := by
      simp only [resultVerdict, found]
    rw [if_neg (not_not.mpr still)]
    have barred : ¬task.state.allows target = true := fun allowed =>
      state (finalizing_of_allows_terminal _ _ allowed ends)
    simp only [finish, finalize, mutationAllowed_safe, bind, Except.bind, ensure, ends, if_true,
      replayingCommand_of_free found, taskAt_stored stored, required, barred]
    by_cases ended : task.state.isTerminal = false
    · simp only [ended, if_true]
      exact .refused _ rfl
    · simp only [ended]
      exact .refused _ rfl

variable (token : ackToken.length = 64) (unused : Unused resultId store)

include token unused

/-- A finalizing task gets its result. -/
theorem comes_result (run : Reachable codec store) (stored : store.tasks.lookup taskId = some row)
    (here : row.generation = generation) (state : row.state = .finalizing) (ends : target.isTerminal = true)
    (intent : row.cancelRequestedAt = none ∨ target = .cancelled) :
    Comes consumerId taskId generation resultId store (resultVerdict codec consumerId store taskId generation target)
      (finish codec ambient resultId ackToken consumerId taskId generation target now store) := by
  cases found : store.commands.lookup (consumerId, "finalize", recoveryKey "recovery-result" taskId generation) with
  | some command => exact comes_replay run ends found
  | none =>
    subst here
    obtain ⟨⟨delivery, after⟩, done, concludes⟩ := @finalize_commits codec store ambient taskId row now _ run stored
      resultId ackToken consumerId _ (digestFields codec [taskId, toString row.generation, target.asStr])
      (digestFields codec ["minimal-recovery-result", target.asStr]) target state ends intent token
      ⟨unused.results, unused.outbox⟩ found
    simp only [resultVerdict, finish, found, done]
    exact .changed after concludes.recorded

theorem comes_end (run : Reachable codec store) (stored : store.tasks.lookup task.taskId = some task)
    (active : settledState task.state = false) (ends : target.isTerminal = true)
    (intent : task.cancelRequestedAt = none ∨ target = .cancelled) (drawn : draw task.taskId = (resultId, ackToken)) :
    Comes consumerId task.taskId task.generation resultId store (endVerdict codec consumerId store task target)
      (store.recoverTerminal codec ambient draw consumerId task target now) := by
  have key : s!"recovery-finalizing:{task.taskId}:{task.generation}" =
      recoveryKey "recovery-finalizing" task.taskId task.generation := by simp [recoveryKey, toString]
  have resultKey : s!"recovery-result:{task.taskId}:{task.generation}" =
      recoveryKey "recovery-result" task.taskId task.generation := by simp [recoveryKey, toString]
  unfold endVerdict recoverTerminal
  simp only [drawn, resultKey, key]
  split
  · rename_i state
    exact comes_result token unused run stored rfl state ends intent
  · rename_i state
    have allowed : task.state.allows .finalizing = true := by
      revert active state
      cases task.state <;> decide
    cases found : store.operations.lookup (recoveryKey "recovery-finalizing" task.taskId task.generation) with
    | none =>
      obtain ⟨⟨seq, middle⟩, done, registers, moved, held, finalizing, here, cancel⟩ :=
        @transition_commits codec store ambient task.taskId _ task now _ run stored allowed found
      dsimp only at registers held
      have reached : Reachable codec middle := run.trans (transition_alone trivial done).committed
      have same : resultVerdict codec consumerId middle task.taskId task.generation target =
          resultVerdict codec consumerId store task.taskId task.generation target := by
        simp only [resultVerdict, registers.commands, registers.outbox]
      simp only [done]
      exact same ▸ (comes_result token (registers.unused unused) reached held here finalizing ends (cancel ▸ intent)).moved
        (registers.recorded (by simp))
    | some operation =>
      simp only [transition, mutationAllowed_safe, decide_true, bind, Except.bind, ensure, isTerminal, if_true,
        replayingOperation_of_found found, map_cons, map_nil, String.intercalate_singleton]
      by_cases same : operation.operationDigest = digestFields codec
        [task.taskId, toString task.generation, task.state.asStr, finalizing.asStr]
      · cases number : operation.responseLocator.asI64? with
        | none =>
          simp only [same, required, Option.isSome_none, Bool.false_eq_true, false_and, and_false, if_true, if_false]
          exact .refused _ rfl
        | some seq =>
          simp only [same, required, Option.isSome_some, true_and, if_true]
          exact comes_unmoved run stored state ends
      · simp only [same, if_false, false_and]
        exact .refused _ rfl

end Ends

/-- The identifiers drawn for results: tokens of the right length, and a new identifier for every task. -/
structure Fresh (draw : String → String × String) (store : Store) : Prop where
  token : ∀ taskId, (draw taskId).2.length = 64
  apart : ∀ taskId otherId, (draw taskId).1 = (draw otherId).1 → taskId = otherId
  unused : ∀ taskId, Unused (draw taskId).1 store

section Decisions

variable (run : Reachable codec store) (stored : store.tasks.lookup task.taskId = some task)
  (active : settledState task.state = false)

include run stored active

theorem intent_of_recoveryDecision {attempt : Option AttemptRow} {answered : Option InteractionResponseKind}
    (decided : recoveryDecision codec task attempt answered = some .needsAttention) : task.cancelRequestedAt = none := by
  by_cases finalizing : task.state = .finalizing
  · by_contra cancelled
    simp [recoveryDecision, finalizing, Option.isSome_iff_ne_none.mpr cancelled] at decided
  · obtain ⟨current, found, rfl⟩ := view_of_lookup stored
    obtain ⟨derived, control⟩ := control_of_reachable run found
    refine control.not_cancelled_of_not_cancelling ?_
    have requested : current.row.state ≠ .cancelRequested := by
      intro state
      simp [recoveryDecision, state] at decided
    revert active finalizing requested
    cases current.row.state <;> decide

/-- The verdict is what the decision comes to. -/
theorem comes_decision (token : (draw task.taskId).2.length = 64) (unused : Unused (draw task.taskId).1 store)
    {decision : RecoveryDecision}
    (decided : recoveryDecision codec task (store.currentAttempt task) (store.latestAnsweredResponseKind task.taskId
      task.generation) = some decision) :
    Comes consumerId task.taskId task.generation (draw task.taskId).1 store
      (verdict codec ambient consumerId now store task)
      (store.applyDecision codec ambient draw consumerId task decision now) := by
  simp only [verdict, decided]
  cases decision with
  | retrySafe => exact comes_retry run stored active decided
  | resumeSession => exact comes_resume run stored
  | finalizeCancellation => exact comes_end token unused run stored active rfl (.inr rfl) rfl
  | needsAttention =>
    exact comes_end token unused run stored active rfl (.inl (intent_of_recoveryDecision run stored active decided)) rfl

end Decisions

section Frame

theorem latestAnsweredResponseKind_of_interactions (same : interactionsOf after taskId = interactionsOf store taskId)
    (generation : Int) :
    after.latestAnsweredResponseKind taskId generation = store.latestAnsweredResponseKind taskId generation := by
  have rows : ∀ store : Store, (store.interactions.slice InteractionRow.taskId taskId).filterMap (fun row =>
      if row.generation = generation ∧ row.state = .answered then
        (store.responses.lookup row.interactionId).map fun response => (row, response.responseKind) else none) =
      (interactionsOf store taskId).filterMap fun pair =>
        if pair.1.generation = generation ∧ pair.1.state = .answered then
          pair.2.map fun response => (pair.1, response.responseKind) else none := fun store => by
    rw [interactionsOf, filterMap_map]
    rfl
  simp only [latestAnsweredResponseKind, rows, same]

/-- What is recovered for one task is not affected by what was recovered for another. -/
theorem verdict_frame {other : TaskRow} {resultId : String} (same : SameAt other.taskId store after)
    (recorded : Noted consumerId task.taskId task.generation resultId store after)
    (differs : other.taskId ≠ task.taskId) (unused : Unused resultId store) :
    verdict codec ambient consumerId now after other = verdict codec ambient consumerId now store other := by
  have operations : ∀ label, ':' ∉ label.toList →
      after.operations.lookup (recoveryKey label other.taskId other.generation) =
      store.operations.lookup (recoveryKey label other.taskId other.generation) := by
    intro label plain
    refine (recorded.operations _).resolve_right ?_
    rintro ⟨known, listed, key⟩
    refine differs (recoveryKey_inj plain ?_ key)
    revert listed
    simp only [mem_cons, not_mem_nil, or_false]
    rintro (rfl | rfl | rfl) <;> decide
  have commands := (recorded.commands (consumerId, "finalize", recoveryKey "recovery-result" other.taskId
    other.generation)).resolve_right fun key => differs (recoveryKey_inj (by decide) (by decide)
      (congrArg (fun key => key.2.2) key))
  have result : ∀ target, resultVerdict codec consumerId after other.taskId other.generation target =
      resultVerdict codec consumerId store other.taskId other.generation target := by
    intro target
    simp only [resultVerdict, commands]
    cases found : store.commands.lookup (consumerId, "finalize", recoveryKey "recovery-result" other.taskId
      other.generation) with
    | none => rfl
    | some command =>
      have listed : (∃ entry ∈ after.outbox.rows, entry.consumerId = consumerId ∧
          entry.resultId = command.responseLocator) ↔ ∃ entry ∈ store.outbox.rows, entry.consumerId = consumerId ∧
            entry.resultId = command.responseLocator := by
        constructor
        · rintro ⟨entry, member, named, located⟩
          refine ⟨entry, (recorded.outbox entry member).resolve_right fun new => ?_, named, located⟩
          exact unused.commands command (Table.of_lookup found).1 (located.symm.trans new)
        · rintro ⟨entry, member, rest⟩
          exact ⟨entry, recorded.delivered entry member, rest⟩
      simp only [listed]
  have attempt : after.currentAttempt other = store.currentAttempt other := same.attempt other.generation
  simp only [verdict, attempt, latestAnsweredResponseKind_of_interactions same.interactions, retryVerdict, resumeVerdict,
    endVerdict, result, operations "recovery-retry" (by decide), operations "recovery-resume" (by decide),
    operations "recovery-finalizing" (by decide)]

end Frame

/-- No refusal comes after a change: up to the first verdict that stops the recovery, a refused task is preceded by kept
ones only and no task is moved to `FINALIZING` without getting its result. -/
def Unbroken (clean : Bool) : List Verdict → Prop
  | [] | .failed :: _ => True
  | .kept :: verdicts => Unbroken clean verdicts
  | .changed :: verdicts => Unbroken false verdicts
  | .refused :: _ => clean = true
  | .torn :: _ => False

section Loop

/-- The records of a store. Every change of a recovery makes them more. -/
def records (store : Store) : Nat := store.operations.rows.length + store.commands.rows.length

theorem Unused.recorded {otherId resultId : String} (unused : Unused otherId store)
    (recorded : Noted consumerId taskId generation resultId store after) (differs : resultId ≠ otherId) :
    Unused otherId after where
  results result member := (recorded.results result member).elim (unused.results result) fun new => new ▸ differs
  outbox entry member := (recorded.outbox entry member).elim (unused.outbox entry) fun new => new ▸ differs
  commands command member := (recorded.located command member).elim (unused.commands command) fun new => new ▸ differs

/-- A decided task adds to what the rest of the loop returns and hides none of its errors. -/
theorem decided_error {outcome : Checked (List (String × RecoveryDecision)) × Store} {entry : String × RecoveryDecision}
    {error : StorageError} {last : Store} :
    (match outcome with
      | (.error error, store) => (.error error, store)
      | (.ok decisions, store) => (.ok (entry :: decisions), store)) = (Except.error error, last) ↔
        outcome = (.error error, last) := by
  rcases outcome with ⟨_ | _, _⟩ <;> simp

theorem recoverTasks_undone (origin : Store) (rows : List (TaskRow × Option AttemptRow))
    (distinct : (rows.map fun row => row.1.taskId).Nodup) (clean : Bool) (run : Reachable codec store)
    (current : ∀ row ∈ rows, Current store row) (token : ∀ taskId, (draw taskId).2.length = 64)
    (apart : ∀ taskId otherId, (draw taskId).1 = (draw otherId).1 → taskId = otherId)
    (unused : ∀ row ∈ rows, Unused (draw row.1.taskId).1 store)
    (state : if clean then store = origin else records origin < records store) :
    (∀ error last, recoverTasks codec ambient draw consumerId now rows store = (.error error, last) → Refusal error →
      last = origin) ↔ Unbroken clean (rows.map fun row => verdict codec ambient consumerId now store row.1) := by
  induction rows generalizing store clean with
  | nil => exact iff_of_true (by simp [recoverTasks]) trivial
  | cons row rows ih =>
    obtain ⟨task, attempt⟩ := row
    obtain ⟨absent, distinct⟩ := nodup_cons.mp distinct
    obtain ⟨stored, held, active⟩ : Current store (task, attempt) := current _ (mem_cons_self ..)
    dsimp only at stored held active
    have rest : ∀ row ∈ rows, Current store row := fun row member => current row (mem_cons_of_mem _ member)
    have free : ∀ row ∈ rows, Unused (draw row.1.taskId).1 store := fun row member =>
      unused row (mem_cons_of_mem _ member)
    have grown : ∀ {after : Store}, records store < records after → records origin < records after := by
      intro after longer
      cases clean with
      | false => exact lt_trans state longer
      | true => exact (show store = origin from state) ▸ longer
    rw [recoverTasks, map_cons]
    cases decided : recoveryDecision codec task attempt (store.latestAnsweredResponseKind task.taskId task.generation) with
    | none =>
      have kept : verdict codec ambient consumerId now store task = .kept := by simp only [verdict, held, decided]
      rw [kept]
      exact ih distinct clean run rest free state
    | some decision =>
      rw [← held] at decided
      have comes : Comes consumerId task.taskId task.generation (draw task.taskId).1 store _
          (store.applyDecision codec ambient draw consumerId task decision now) :=
        comes_decision run stored active (token task.taskId) (unused _ (mem_cons_self ..)) decided
      have alone : Alone codec (fun _ _ => True) task.taskId store
          (store.applyDecision codec ambient draw consumerId task decision now).2 :=
        applyDecision_alone (fun _ _ _ => trivial) draw consumerId stored active decided
      dsimp only
      generalize store.applyDecision codec ambient draw consumerId task decision now = outcome at comes alone ⊢
      generalize verdict codec ambient consumerId now store task = first at comes ⊢
      cases comes with
      | kept =>
        exact Iff.trans (forall₂_congr fun _ _ => imp_congr_left decided_error) (ih distinct clean run rest free state)
      | changed after recorded =>
        have apartFrom : ∀ row ∈ rows, row.1.taskId ≠ task.taskId := fun row member same =>
          absent (mem_map.mpr ⟨row, member, same⟩)
        have kept : ∀ row ∈ rows, Current after row := fun row member =>
          (rest row member).frame (alone.frame row.1.taskId (apartFrom row member))
        have unread : ∀ row ∈ rows, Unused (draw row.1.taskId).1 after := fun row member =>
          (free row member).recorded recorded fun same => apartFrom row member (apart _ _ same).symm
        have same : rows.map (fun row => verdict codec ambient consumerId now after row.1) =
            rows.map fun row => verdict codec ambient consumerId now store row.1 := map_congr_left fun row member =>
          verdict_frame (alone.frame row.1.taskId (apartFrom row member)) recorded (apartFrom row member)
            (unused _ (mem_cons_self ..))
        rw [Unbroken, ← same]
        exact Iff.trans (forall₂_congr fun _ _ => imp_congr_left decided_error)
          (ih distinct false (run.trans alone.committed) kept unread (grown recorded.longer))
      | refused error refusal =>
        rw [Unbroken]
        cases clean with
        | true => exact iff_of_true (by rintro _ _ ⟨⟩ _; exact state) rfl
        | false =>
          refine iff_of_false (fun undone => ?_) (by decide)
          exact absurd (congrArg records (undone error store rfl refusal)) (ne_of_gt state)
      | torn error after refusal recorded =>
        refine iff_of_false (fun undone => ?_) id
        exact absurd (congrArg records (undone error after rfl refusal)) (ne_of_gt (grown recorded.longer))
      | failed error after database =>
        refine iff_of_true ?_ trivial
        rintro _ _ ⟨⟩ refusal
        exact absurd (database.symm.trans refusal) (by decide)

/-- A refused recovery leaves nothing behind exactly when its verdicts, read off the store before it, are unbroken. -/
theorem reconcileNonterminal_undone (run : Reachable codec store) (fresh : Fresh draw store) :
    (∀ error last, store.reconcileNonterminal codec ambient draw consumerId now = (.error error, last) → Refusal error →
      last = store) ↔
      Unbroken true ((nonterminalRows store).map fun row => verdict codec ambient consumerId now store row.1) := by
  rw [reconcileNonterminal_eq]
  exact recoverTasks_undone store _ (nodup_nonterminalRows store) true run (fun row => (mem_nonterminalRows row).mp)
    fresh.token fresh.apart (fun row _ => fresh.unused row.1.taskId) rfl

end Loop

end AgentMesh.Runs
