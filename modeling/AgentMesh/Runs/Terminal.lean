import AgentMesh.Runs.Operations

/-! The terminal tuple. A task has ended exactly when it has one result, one outbox entry and one terminal event,
all three naming each other, and then nothing but compaction touches them. -/
namespace AgentMesh.Runs
open Library Daemon AgentMesh.Task TaskView TaskState List

/-- One result, one outbox entry and one terminal event, the last one of the log, in agreement with the row. -/
def Complete (current : TaskView) : Prop :=
  ∃ result entry event earlier, current.results = [result] ∧ current.outbox = [entry] ∧
    current.events = earlier ++ [event] ∧ (∀ other ∈ earlier, other.kind ≠ "terminal") ∧ event.kind = "terminal" ∧
    event.payload = terminalPayload current.row.state result.resultId ∧ event.eventSeq = current.row.lastEventSeq ∧
    current.row.terminalEventSeq = some event.eventSeq ∧ result.terminalEventSeq = event.eventSeq ∧
    entry.terminalEventSeq = event.eventSeq ∧ entry.resultId = result.resultId ∧ result.resultVersion = 1 ∧
    entry.resultVersion = 1

/-- No result, no outbox entry and no terminal event. -/
def Unfinished (current : TaskView) : Prop :=
  current.results = [] ∧ current.outbox = [] ∧ ∀ event ∈ current.events, event.kind ≠ "terminal"

/-- The tuple is complete when the task has ended and empty until then. -/
def Settled (current : TaskView) : Prop :=
  if current.row.state.isTerminal then Complete current else Unfinished current

/-- The events a batch appends are of its kind. -/
theorem mem_appendAll_events {current : TaskView} {generation now : Int} {kind : String} {payloads : List Json}
    {event : EventRow} (member : event ∈ (current.appendAll generation kind now payloads).events) :
    event ∈ current.events ∨ event.kind = kind := by
  induction payloads generalizing current with
  | nil => exact .inl member
  | cons payload payloads ih =>
    rcases ih member with earlier | fresh
    · rcases mem_append.mp earlier with earlier | fresh
      · exact .inl earlier
      · rw [mem_singleton] at fresh
        exact .inr (by rw [fresh]; rfl)
    · exact .inr fresh

namespace Unfinished

variable {current : TaskView} (unfinished : Unfinished current)

include unfinished

theorem append {generation now : Int} {kind : String} {payload : Json} (other : kind ≠ "terminal") :
    Unfinished (current.append generation kind payload now) := by
  refine ⟨unfinished.1, unfinished.2.1, fun event member => ?_⟩
  rcases mem_append.mp member with earlier | fresh
  · exact unfinished.2.2 event earlier
  · rw [mem_singleton] at fresh
    rw [fresh]
    exact other

theorem closed (decision : InteractionRow → InteractionState) (status : InteractionRow → String) (now : Int) :
    Unfinished (current.closed decision status now) := by
  have frame := current.closed_frame now decision status
  refine ⟨frame.2.2.2.2.2.2.2.1.trans unfinished.1, frame.2.2.2.2.2.2.2.2.trans unfinished.2.1, ?_⟩
  intro event member
  rcases mem_appendAll_events member with earlier | kind
  · exact unfinished.2.2 event earlier
  · rw [kind]
    decide

end Unfinished

section Step

variable {consent : InteractionRow → ResponseRow → Prop} {current next : TaskView} {change : Change}
  {derived : TaskState}

/-- The only changes of a task that has ended. -/
theorem change_of_terminal (control : Control current derived) (step : TaskStep consent current change next)
    (terminal : current.row.state.isTerminal = true) : change = .acknowledged ∨ change = .sessionRecorded := by
  cases step with
  | attemptStarted _ _ _ _ ready _ _ _ => rcases ready with state | state <;> simp [state, isTerminal] at terminal
  | switched source target _ _ pair state _ _ _ =>
    rcases pair with ⟨rfl, _⟩ | ⟨rfl, _⟩ <;> simp [state, isTerminal] at terminal
  | dispatched _ _ _ _ active _ _ | opened _ _ _ active _ _ _ _ =>
    cases state : current.row.state <;> simp_all [activeState, isTerminal]
  | reported _ _ _ _ accepts =>
    cases state : current.row.state <;> simp_all [Store.acceptsAdapterEvents, isTerminal]
  | sessionRecorded => exact .inr rfl
  | answered entry _ _ member pending _ _ _ _ =>
    have waits : entry.1 ∈ current.pending := (current.mem_pending entry.1).mpr ⟨pending, entry.2, member⟩
    have busy := (control.pending entry.1 waits).2.1
    cases state : current.row.state <;> simp_all [interactive, isTerminal]
  | expired _ _ _ _ _ _ state | finalized _ _ _ _ _ _ state _ _ => simp [state, isTerminal] at terminal
  | cancelled _ allowed | finalizing _ allowed => simp [allows_of_isTerminal _ _ terminal] at allowed
  | retried _ _ _ _ state _ _ => rcases state with state | state <;> simp [state, isTerminal] at terminal
  | acknowledged => exact .inl rfl
  | resumed _ state _ => rcases state with state | state | state <;> simp [state, isTerminal] at terminal
  | repaired _ _ _ live => simp [live.1] at terminal

theorem unfinished_of_step (unfinished : Unfinished current) (live : current.row.state.isTerminal = false)
    (step : TaskStep consent current change next) (open_ : ∀ terminal, change ≠ .finalized terminal) :
    next.row.state.isTerminal = false ∧ Unfinished next := by
  cases step with
  | attemptStarted | opened | expired | retried | finalizing => exact ⟨rfl, .append unfinished (by decide)⟩
  | switched source target _ _ pair _ _ _ _ =>
    refine ⟨?_, .append unfinished (by decide)⟩
    rcases pair with ⟨_, rfl⟩ | ⟨_, rfl⟩ <;> rfl
  | dispatched _ phase receipt now _ _ _ =>
    have advanced : Unfinished (current.advanced phase receipt now) := unfinished
    refine ⟨?_, advanced.append (by decide)⟩
    simp only [TaskView.append, TaskView.advanced]
    split
    · rfl
    · exact live
  | reported kind _ _ known _ =>
    refine ⟨live, .append unfinished ?_⟩
    rintro rfl
    revert known
    decide
  | sessionRecorded => exact ⟨live, unfinished⟩
  | answered entry response now _ _ _ _ _ _ =>
    have answered : Unfinished ((current.released entry.1.generation now).answer response now) := unfinished
    refine ⟨?_, answered.append (by decide)⟩
    simp only [TaskView.answeredBy, TaskView.append, TaskView.answer, TaskView.released_state]
    split
    · rfl
    · exact live
  | cancelled now _ =>
    have stopped : Unfinished (current.attemptsInState (fun attempt => attempt.state.isTerminal = false)
        .cancelRequested now) := unfinished
    exact ⟨rfl, .append (stopped.closed (fun _ => .cancelled) (fun _ => "CANCELLED") now) (by decide)⟩
  | finalized terminal => exact absurd rfl (open_ terminal)
  | acknowledged =>
    refine ⟨live, unfinished.1, ?_, unfinished.2.2⟩
    rw [unfinished.2.1]
    rfl
  | resumed => exact ⟨live, .append unfinished (by decide)⟩
  | repaired _ _ _ live => exact ⟨live.2, unfinished⟩

theorem complete_of_finalized (unfinished : Unfinished current) (terminal : TaskState)
    (consumerId resultId ackToken resultDigest : String) (now : Int) :
    Complete ((((current.attemptsEnded terminal now).closed (closedState now) (closedStatus now) now).terminated terminal
      consumerId resultId ackToken resultDigest now).append current.row.generation "terminal"
        (terminalPayload terminal resultId) now) := by
  set closed := (current.attemptsEnded terminal now).closed (closedState now) (closedStatus now) now
  have ended : Unfinished (current.attemptsEnded terminal now) := unfinished
  have open_ : Unfinished closed := ended.closed (closedState now) (closedStatus now) now
  refine ⟨⟨closed.row.taskId, 1, resultId, closed.row.lastEventSeq + 1, resultDigest, now⟩,
    ⟨consumerId, closed.row.taskId, 1, resultId, ackToken, closed.row.lastEventSeq + 1, now, none, none⟩, _,
    closed.events, ?_, ?_, rfl, open_.2.2, rfl, rfl, rfl, rfl, rfl, rfl, rfl, rfl, rfl⟩
  · simp only [append, terminated, open_.1, nil_append]
  · simp only [append, terminated, open_.2.1, nil_append]

theorem complete_of_step (complete : Complete current) (step : TaskStep consent current change next)
    (kind : change = .acknowledged ∨ change = .sessionRecorded) : Complete next := by
  obtain ⟨result, entry, event, earlier, results, outbox, rest⟩ := complete
  rcases kind with rfl | rfl
  · cases step with
    | acknowledged consumerId reviewId resultVersion now =>
      by_cases picked : entry.consumerId = consumerId ∧ entry.taskId = current.row.taskId ∧
          entry.resultVersion = resultVersion
      · refine ⟨result, { entry with ackedAt := some now, reviewId := some reviewId }, event, earlier, results, ?_, rest⟩
        simp [outbox, updateWhere, picked]
      · refine ⟨result, entry, event, earlier, results, ?_, rest⟩
        simp [outbox, updateWhere, picked]
  · cases step with
    | sessionRecorded => exact ⟨result, entry, event, earlier, results, outbox, rest⟩

theorem Settled.step (control : Control current derived) (settled : Settled current)
    (step : TaskStep consent current change next) : Settled next := by
  unfold Settled at settled ⊢
  cases terminal : current.row.state.isTerminal with
  | true =>
    rw [if_pos terminal] at settled
    have kind := change_of_terminal control step terminal
    have same : next.row.state = current.row.state := by
      rcases kind with rfl | rfl <;> cases step <;> rfl
    rw [same, if_pos terminal]
    exact complete_of_step settled step kind
  | false =>
    rw [if_neg (by simp [terminal])] at settled
    by_cases final : ∃ ended, change = .finalized ended
    · obtain ⟨ended, rfl⟩ := final
      cases step with
      | finalized _ consumerId resultId ackToken resultDigest now _ isTerminal _ =>
        have complete := complete_of_finalized settled ended consumerId resultId ackToken resultDigest now
        rw [if_pos (by exact isTerminal)]
        exact complete
    · obtain ⟨live, unfinished⟩ :=
        unfinished_of_step settled terminal step fun ended same => final ⟨ended, same⟩
      rw [if_neg (by simp [live])]
      exact unfinished

theorem appendAll_terminalAt (current : TaskView) (generation now : Int) (kind : String) (payloads : List Json) :
    (current.appendAll generation kind now payloads).row.terminalAt = current.row.terminalAt := by
  induction payloads generalizing current with
  | nil => rfl
  | cons payload payloads ih => exact ih (current.append generation kind payload now)

section

variable (step : TaskStep consent current change next) (open_ : ∀ terminal, change ≠ .finalized terminal)

include step open_

theorem terminalAt_of_step : next.row.terminalAt = current.row.terminalAt := by
  cases step with
  | finalized terminal => exact absurd rfl (open_ terminal)
  | cancelled now _ => exact appendAll_terminalAt _ _ _ _ _
  | dispatched _ phase receipt now _ _ _ =>
    simp only [append, advanced]
    split <;> rfl
  | answered entry response now _ _ _ _ _ _ =>
    simp only [answeredBy, append, answer, released]
    split <;> rfl
  | _ => rfl

theorem results_of_step : next.results = current.results := by
  cases step with
  | finalized terminal => exact absurd rfl (open_ terminal)
  | cancelled now _ => exact (closed_frame _ now _ _).2.2.2.2.2.2.2.1
  | _ => rfl

end

def Dated (current : TaskView) : Prop := current.row.terminalAt.isSome = current.row.state.isTerminal

theorem Dated.step (control : Control current derived) (settled : Settled current) (dated : Dated current)
    (step : TaskStep consent current change next) : Dated next := by
  unfold Dated at dated ⊢
  cases terminal : current.row.state.isTerminal with
  | true =>
    rw [terminal] at dated
    rcases change_of_terminal control step terminal with rfl | rfl <;> cases step <;> exact dated.trans terminal.symm
  | false =>
    rw [Settled, if_neg (by simp [terminal])] at settled
    by_cases final : ∃ ended, change = .finalized ended
    · obtain ⟨ended, rfl⟩ := final
      cases step with
      | finalized _ _ _ _ _ _ _ isTerminal _ => exact isTerminal.symm
    · have open_ : ∀ ended, change ≠ .finalized ended := fun ended same => final ⟨ended, same⟩
      rw [terminalAt_of_step step open_, dated, terminal, (unfinished_of_step settled terminal step open_).1]

end Step

variable {codec : Codec} {store : Store} {taskId : String} {permitted : Request → Store → Prop}

theorem settled_of_submitted {fresh : TaskView} (submitted : Submitted fresh) :
    (∃ derived, Control fresh derived) ∧ Settled fresh := by
  obtain ⟨now, events⟩ := submitted.event
  refine ⟨⟨.queued, .submitted submitted⟩, ?_⟩
  rw [Settled, submitted.state, if_neg (by decide)]
  refine ⟨submitted.results, submitted.outbox, ?_⟩
  simp [events]

theorem settled_of_reachable (run : ReachableWhen codec permitted store) {current : TaskView}
    (found : view store taskId = some current) : Settled current := by
  refine (views_of_reachable (fun _ current => (∃ derived, Control current derived) ∧ Settled current) ?_ ?_ ?_ run
    taskId current found).2
  · exact fun _ => id
  · exact fun submitted => settled_of_submitted submitted
  · rintro _ _ _ _ current change next _ _ found ⟨⟨derived, control⟩, settled⟩ step
    exact ⟨⟨change.derived derived, control.step (wellFormed found) step⟩, settled.step control step⟩

theorem dated_of_reachable (run : ReachableWhen codec permitted store) {current : TaskView}
    (found : view store taskId = some current) : Dated current := by
  refine (views_of_reachable (fun _ current => ((∃ derived, Control current derived) ∧ Settled current) ∧ Dated current)
    ?_ ?_ ?_ run taskId current found).2
  · exact fun _ => id
  · intro _ fresh submitted
    refine ⟨settled_of_submitted submitted, ?_⟩
    simp [Dated, submitted.undated, submitted.state, isTerminal]
  · rintro _ _ _ _ current change next _ _ found ⟨⟨⟨derived, control⟩, settled⟩, dated⟩ step
    exact ⟨⟨⟨change.derived derived, control.step (wellFormed found) step⟩, settled.step control step⟩,
      dated.step control settled step⟩

/-- Exactly one result, one outbox entry and one terminal event of the task, the last event of its log, and all of
them agree with the task row. -/
def ExactTuple (store : Store) (task : TaskRow) : Prop :=
  ∃ result entry event, store.results.slice ResultRow.taskId task.taskId = [result] ∧
    store.outbox.slice OutboxRow.taskId task.taskId = [entry] ∧
    (store.events.slice EventRow.taskId task.taskId).filter (fun event => event.kind = "terminal") = [event] ∧
    (store.events.slice EventRow.taskId task.taskId).getLast? = some event ∧
    event.payload = terminalPayload task.state result.resultId ∧ entry.resultId = result.resultId ∧
    event.eventSeq = task.lastEventSeq ∧ task.terminalEventSeq = some event.eventSeq ∧
    result.terminalEventSeq = event.eventSeq ∧ entry.terminalEventSeq = event.eventSeq

theorem exactTuple_of_complete {current : TaskView} (found : view store taskId = some current)
    (complete : Complete current) : ExactTuple store current.row := by
  obtain ⟨row, events, _, _, results, outbox⟩ := view_eq_some found
  obtain ⟨result, entry, event, earlier, oneResult, oneEntry, log, others, kind, payload, last, named, ofResult,
    ofEntry, same, _, _⟩ := complete
  rw [results, ← row_taskId row] at oneResult
  rw [outbox, ← row_taskId row] at oneEntry
  rw [events, ← row_taskId row] at log
  refine ⟨result, entry, event, oneResult, oneEntry, ?_, ?_, payload, same, last, named, ofResult, ofEntry⟩
  · rw [log, filter_append, filter_eq_nil_iff.mpr]
    · simp [kind]
    · intro other member
      simpa using others other member
  · rw [log]
    simp

/-- The sequence numbers of a task's events are distinct. -/
theorem terminalEvents_eq {task : TaskRow} {event : EventRow}
    (member : event ∈ store.events.slice EventRow.taskId task.taskId)
    (named : task.terminalEventSeq = some event.eventSeq) : store.terminalEvents task = [event] := by
  have distinct : ((store.events.slice EventRow.taskId task.taskId).map EventRow.eventSeq).Nodup :=
    store.events.nodup_slice _ _ _ fun _ _ owner seq => Prod.ext owner seq
  unfold Store.terminalEvents
  rw [named]
  simpa using filter_key_eq EventRow.eventSeq distinct member

theorem tuple_accepted {current : TaskView} (found : view store taskId = some current) (complete : Complete current) :
    store.tupleComplete current.row = true ∧ store.tupleError current.row = none := by
  obtain ⟨row, events, _, _, results, outbox⟩ := view_eq_some found
  obtain ⟨result, entry, event, earlier, oneResult, oneEntry, log, _, kind, payload, _, named, ofResult, ofEntry, same,
    version, entryVersion⟩ := complete
  have own := row_taskId row
  rw [results, ← own] at oneResult
  rw [outbox, ← own] at oneEntry
  rw [events, ← own] at log
  have one : store.terminalEvents current.row = [event] := by
    apply terminalEvents_eq _ named
    rw [log]
    exact mem_append_right _ (mem_singleton.mpr rfl)
  have stored : store.results.lookup (current.row.taskId, 1) = some result := by
    have member : result ∈ store.results.slice ResultRow.taskId current.row.taskId := by simp [oneResult]
    obtain ⟨inRows, owner⟩ := (store.results.mem_slice _ _ result).mp member
    exact (store.results.lookup_eq_some _ _).mpr ⟨inRows, by rw [owner, version]⟩
  constructor
  · simp [Store.tupleComplete, oneResult, oneEntry, one]
  · simp [Store.tupleError, stored, oneEntry, entryVersion, one, kind, payload, terminalPayload, Json.isObject, Json.len,
      Json.str?, Json.get?, Json.asStr?, named, ofResult, ofEntry, same]

theorem integrityCheck_accepts (run : ReachableWhen codec permitted store) : store.integrityCheck = .ok () := by
  have accepted : ∀ task ∈ store.tasks.rows, task.state.isTerminal = true →
      store.tupleComplete task = true ∧ store.tupleError task = none := by
    intro task member terminal
    obtain ⟨current, found, rfl⟩ := view_of_lookup ((store.tasks.lookup_eq_some _ _).mpr ⟨member, rfl⟩)
    have settled := settled_of_reachable run found
    rw [Settled, if_pos terminal] at settled
    exact tuple_accepted found settled
  have complete : (store.tasks.rows.filter fun task => task.state.isTerminal).find?
      (fun task => !store.tupleComplete task) = none := by
    rw [find?_eq_none]
    intro task member
    obtain ⟨stored, terminal⟩ := mem_filter.mp member
    simp [(accepted task stored terminal).1]
  have agreeing : (store.tasks.rows.filter fun task => task.state.isTerminal).findSome? store.tupleError = none := by
    rw [findSome?_eq_none_iff]
    intro task member
    obtain ⟨stored, terminal⟩ := mem_filter.mp member
    exact (accepted task stored terminal).2
  simp only [Store.integrityCheck, complete, agreeing]
  rfl

/-- What an ended task keeps: its state, date, result and log, the identity of its outbox entry and its
acknowledgement. -/
structure Frozen (earlier current : TaskView) : Prop where
  terminal : current.row.state.isTerminal = true
  state : current.row.state = earlier.row.state
  date : current.row.terminalAt = earlier.row.terminalAt
  results : current.results = earlier.results
  outbox : current.outbox.map (fun entry => (entry.resultId, entry.ackToken, entry.terminalEventSeq)) =
    earlier.outbox.map fun entry => (entry.resultId, entry.ackToken, entry.terminalEventSeq)
  events : current.events = earlier.events
  acked : ∀ entry ∈ earlier.outbox, entry.ackedAt.isSome = true → entry ∈ current.outbox

theorem Frozen.refl {current : TaskView} (terminal : current.row.state.isTerminal = true) : Frozen current current :=
  ⟨terminal, rfl, rfl, rfl, rfl, rfl, fun _ member _ => member⟩

theorem Frozen.step {consent : InteractionRow → ResponseRow → Prop} {earlier current next : TaskView}
    {derived : TaskState} {change : Change} (control : Control current derived) (frozen : Frozen earlier current)
    (step : TaskStep consent current change next) : Frozen earlier next := by
  rcases change_of_terminal control step frozen.terminal with rfl | rfl
  · cases step with
    | acknowledged consumerId reviewId resultVersion now open_ =>
      refine ⟨frozen.terminal, frozen.state, frozen.date, frozen.results, ?_, frozen.events, ?_⟩
      · rw [← frozen.outbox]
        refine map_updateWhere (fun entry : OutboxRow => (entry.resultId, entry.ackToken, entry.terminalEventSeq)) _ _
          ?_ _
        exact fun _ => rfl
      · intro entry member acked
        have kept := frozen.acked entry member acked
        refine mem_updateWhere.mpr ⟨entry, kept, if_neg ?_⟩
        intro picked
        simp only [decide_eq_true_eq] at picked
        rw [open_ entry kept picked.1 picked.2.2] at acked
        cases acked
  · cases step with
    | sessionRecorded =>
      exact ⟨frozen.terminal, frozen.state, frozen.date, frozen.results, frozen.outbox, frozen.events, frozen.acked⟩

/-- The terminal tuple is exact in every reachable state, the integrity check accepts it, and no operation except
compaction changes it. -/
theorem terminal_tuple (run : Operated codec Store.initial store) :
    (∀ task ∈ store.tasks.rows, task.state.isTerminal = true ↔ ExactTuple store task) ∧
    store.integrityCheck = .ok () ∧
    ∀ last, Operated codec store last → ∀ taskId task, store.tasks.lookup taskId = some task →
      task.state.isTerminal = true →
      (∃ later, last.tasks.lookup taskId = some later ∧ later.state = task.state ∧
        last.results.slice ResultRow.taskId taskId = store.results.slice ResultRow.taskId taskId ∧
        (last.outbox.slice OutboxRow.taskId taskId).map
            (fun entry => (entry.resultId, entry.ackToken, entry.terminalEventSeq)) =
          (store.outbox.slice OutboxRow.taskId taskId).map
            (fun entry => (entry.resultId, entry.ackToken, entry.terminalEventSeq)) ∧
        last.events.slice EventRow.taskId taskId = store.events.slice EventRow.taskId taskId) ∨ Gone last taskId := by
  have reached : ReachableWhen codec (fun _ _ => True) store := run.committed
  refine ⟨fun task member => ?_, integrityCheck_accepts reached, fun last operated taskId task stored terminal => ?_⟩
  · obtain ⟨current, found, rfl⟩ := view_of_lookup ((store.tasks.lookup_eq_some _ _).mpr ⟨member, rfl⟩)
    have settled := settled_of_reachable reached found
    unfold Settled at settled
    constructor
    · intro terminal
      rw [if_pos terminal] at settled
      exact exactTuple_of_complete found settled
    · rintro ⟨result, _, _, oneResult, _⟩
      by_contra live
      rw [if_neg live] at settled
      have none := settled.1
      rw [(view_eq_some found).2.2.2.2.1, oneResult] at none
      cases none
  · obtain ⟨current, found, rfl⟩ := view_of_lookup stored
    have status := follow (Frozen current) (fun control _ frozen step => frozen.step control step) run.committed
      operated.committed found (.refl terminal)
    rcases status with ⟨later, laterFound, frozen⟩ | gone
    · obtain ⟨_, events, _, _, results, outbox⟩ := view_eq_some found
      obtain ⟨row, laterEvents, _, _, laterResults, laterOutbox⟩ := view_eq_some laterFound
      refine .inl ⟨later.row, row, frozen.state, ?_, ?_, ?_⟩
      · rw [← laterResults, ← results, frozen.results]
      · rw [← laterOutbox, ← outbox, frozen.outbox]
      · rw [← laterEvents, ← events, frozen.events]
    · exact .inr gone

/-- A task that succeeded keeps its tuple through a restart. -/
theorem terminal_tuple_succeeded :
    ∃ store last, Operated (Script.codec []) Store.initial store ∧
      (store.tasks.lookup "t").map TaskRow.state = some .succeeded ∧ store.integrityCheck = .ok () ∧
      Operated (Script.codec []) store last ∧
      ((∃ later, last.tasks.lookup "t" = some later ∧ later.state = .succeeded) ∨ Gone last "t") := by
  obtain ⟨store, run, succeeded⟩ : ∃ store, Reachable (Script.codec []) store ∧
      (store.tasks.lookup "t").map TaskRow.state = some .succeeded :=
    exists_of_script [Script.submit "t" "k", Script.claim "t" 0, Script.phase "t" 0 .processStarted,
      .transitionToFinalizing Script.ambient "finalizing:t:0" "t" 0 [.preparing, .running] 4,
      .finalize Script.ambient "result" Script.digest "console" "finalize:t:0" Script.digest "t" 0 .succeeded
        Script.digest 5]
      (by decide +kernel)
  have start := Operated.of_reachable run
  obtain ⟨task, stored, ended⟩ := Option.map_eq_some_iff.mp succeeded
  have recovery : Operated (Script.codec []) store _ :=
    .single (Operates.reconcile Script.ambient (fun _ => ("r", Script.digest)) "console" 6)
  obtain ⟨_, accepted, kept⟩ := terminal_tuple start
  refine ⟨store, _, start, succeeded, accepted, recovery, ?_⟩
  rcases kept _ recovery "t" task stored (by rw [ended]; rfl) with ⟨later, found, same, _⟩ | gone
  · exact Or.inl ⟨later, found, same.trans ended⟩
  · exact Or.inr gone

end AgentMesh.Runs
