import AgentMesh.Daemon.Paging
import AgentMesh.Storage.Effects

/-! Pages of a growing log. A reader that feeds the cursor of each page into the next call sees the committed events after
its first cursor once each and in order, whatever is committed or compacted between two calls. -/
namespace AgentMesh.Runs
open Library Daemon Daemon.Reader AgentMesh.Task Store EventRow List Script Table Option

variable {pinned : Bool} {evicted now start : Int} {numbers : List Int} {events : List PublicEvent}
  {current : TaskView}

section Sequence

/-- The numbers count up by one from the first one after `start`. -/
def Consecutive : Int → List Int → Prop
  | _, [] => True
  | start, number :: numbers => number = start + 1 ∧ Consecutive (start + 1) numbers

theorem Consecutive.append {start : Int} {front back : List Int} :
    Consecutive start (front ++ back) ↔ Consecutive start front ∧ Consecutive (start + front.length) back := by
  induction front generalizing start with
  | nil => simp [Consecutive]
  | cons number front ih =>
    have shift : start + 1 + (front.length : Int) = start + (front.length + 1 : Nat) := by omega
    simp only [cons_append, Consecutive, ih, length_cons, and_assoc, shift]

theorem Consecutive.above (consecutive : Consecutive start numbers) :
    ∀ number ∈ numbers, start < number ∧ number ≤ start + numbers.length := by
  induction numbers generalizing start with
  | nil => simp
  | cons first numbers ih =>
    intro number member
    rw [length_cons]
    rcases mem_cons.mp member with rfl | later
    · have here := consecutive.1
      omega
    · have bounds := ih consecutive.2 number later
      omega

theorem Consecutive.last (consecutive : Consecutive start numbers) :
    numbers.getLast?.getD start = start + numbers.length := by
  induction numbers generalizing start with
  | nil => simp
  | cons first numbers ih =>
    have here : first = start + 1 := consecutive.1
    have later := ih consecutive.2
    rw [getLast?_cons, getD_some, here, later, length_cons]
    omega

theorem Consecutive.sorted {rows : List EventRow} (consecutive : Consecutive start (rows.map eventSeq)) :
    rows.Pairwise fun first second => first.eventSeq ≤ second.eventSeq := by
  induction rows generalizing start with
  | nil => exact .nil
  | cons row rows ih =>
    refine .cons (fun later member => ?_) (ih consecutive.2)
    have bound := (consecutive.2.above later.eventSeq (mem_map_of_mem member)).1
    have here : row.eventSeq = start + 1 := consecutive.1
    omega

/-- The events after a cursor are the end of the log. -/
theorem Consecutive.filter_after {log : List EventRow} (consecutive : Consecutive 0 (log.map eventSeq))
    {cursor : Int} (positive : 0 ≤ cursor) :
    (log.filter fun row => cursor < row.eventSeq) = log.drop cursor.toNat := by
  have parts : log = log.take cursor.toNat ++ log.drop cursor.toNat := (take_append_drop _ _).symm
  have split := consecutive
  rw [parts, map_append, Consecutive.append] at split
  have early : (log.take cursor.toNat).filter (fun row => decide (cursor < row.eventSeq)) = [] := by
    rw [filter_eq_nil_iff]
    intro row member
    have bound := (split.1.above row.eventSeq (mem_map_of_mem member)).2
    have length : ((log.take cursor.toNat).map eventSeq).length ≤ cursor.toNat := by simp
    simp only [decide_eq_true_eq, not_lt]
    omega
  have late : (log.drop cursor.toNat).filter (fun row => decide (cursor < row.eventSeq)) = log.drop cursor.toNat := by
    rw [filter_eq_self]
    intro row member
    have bound := (split.2.above row.eventSeq (mem_map_of_mem member)).1
    have length : (log.drop cursor.toNat).length ≠ 0 := by
      have := length_pos_of_mem member
      omega
    simp only [length_drop] at length
    simp only [length_map, length_take] at bound
    simp only [decide_eq_true_eq]
    omega
  conv_lhs => rw [parts]
  rw [filter_append, early, late, nil_append]

theorem Consecutive.slice {log : List EventRow} (consecutive : Consecutive 0 (log.map eventSeq)) {cursor : Int}
    (positive : 0 ≤ cursor) (within : cursor ≤ log.length) (count : Nat) :
    Consecutive cursor (((log.drop cursor.toNat).take count).map eventSeq) := by
  rw [← take_append_drop cursor.toNat log, map_append, Consecutive.append] at consecutive
  have late := consecutive.2
  rw [← take_append_drop count (log.drop cursor.toNat), map_append, Consecutive.append] at late
  have start : 0 + (((log.take cursor.toNat).map eventSeq).length : Int) = cursor := by
    rw [length_map, length_take]
    omega
  rw [start] at late
  exact late.1

theorem consecutive_of_derives {events : List EventRow} {state : TaskState} {generation last : Int}
    (derives : deriveProjection events = .ok (state, generation, last)) :
    Consecutive 0 (events.map eventSeq) ∧ last = events.length := by
  have general : ∀ (events : List EventRow) (before : TaskState × Int × Int),
      events.foldlM projectEvent before = .ok (state, generation, last) →
      Consecutive before.2.2 (events.map eventSeq) ∧ last = before.2.2 + events.length := by
    intro events
    induction events with
    | nil =>
      intro before done
      cases done
      exact ⟨trivial, by simp⟩
    | cons event events ih =>
      intro before done
      rw [foldlM_cons, bind_eq_ok] at done
      obtain ⟨middle, first, rest⟩ := done
      simp only [projectEvent, eq_ok_iff] at first
      obtain ⟨_, next, _, _, rfl⟩ := first
      obtain ⟨consecutive, counted⟩ := ih _ rest
      refine ⟨⟨next, next ▸ consecutive⟩, ?_⟩
      simp only [length_cons, counted]
      omega
  obtain ⟨consecutive, counted⟩ := general events _ derives
  exact ⟨consecutive, by simpa using counted⟩

end Sequence

section Page

variable {codec : Codec} {exposure : Exposure} {store : Store} {taskId : String}

def Shows (codec : Codec) (exposure : Exposure) (row : EventRow) (event : PublicEvent) : Prop :=
  publicEvent codec exposure row = .ok event

theorem Shows.seq {row : EventRow} {event : PublicEvent} (shows : Shows codec exposure row event) :
    event.seq = row.eventSeq := by
  simp only [Shows, publicEvent, eq_ok_iff] at shows
  obtain ⟨_, _, _, _, _, _, rfl⟩ := shows
  rfl

theorem seqs_of_shows {rows : List EventRow} (shows : List.Forall₂ (Shows codec exposure) rows events) :
    events.map PublicEvent.seq = rows.map eventSeq := by
  induction shows with
  | nil => rfl
  | cons first _ ih => rw [map_cons, map_cons, first.seq, ih]

theorem stopAtBudget_eq_ok {answer : List PublicEvent × Bool} :
    stopAtBudget events = .ok answer ↔ events ≠ [] ∧ answer = (events, true) := by
  cases events with
  | nil => simp [stopAtBudget]
  | cons event events =>
    simp only [stopAtBudget, isEmpty_cons, Bool.false_eq_true, if_false, pure_eq_ok, ne_eq, reduceCtorEq,
      not_false_eq_true, true_and]
    exact eq_comm

/-- The loop shows rows from the front of its list, at least one if the budget ended it. -/
theorem collectEvents_eq_ok {afterSeq lastSeq : Int} {maximum : Nat} {rows : List EventRow}
    {collected : List PublicEvent} {encodedBytes : Nat} {stopped : Bool}
    (done : collectEvents codec exposure afterSeq lastSeq maximum rows events encodedBytes = .ok (collected, stopped)) :
    ∃ added, collected = events ++ added ∧ List.Forall₂ (Shows codec exposure) (rows.take added.length) added ∧
      (stopped = true → collected ≠ []) := by
  induction rows generalizing events encodedBytes with
  | nil =>
    cases done
    exact ⟨[], by simp, by simp, by simp⟩
  | cons row rows ih =>
    have stops : stopAtBudget events = .ok (collected, stopped) → ∃ added, collected = events ++ added ∧
        List.Forall₂ (Shows codec exposure) ((row :: rows).take added.length) added ∧
        (stopped = true → collected ≠ []) := by
      intro ended
      obtain ⟨shown, same⟩ := stopAtBudget_eq_ok.mp ended
      cases same
      exact ⟨[], by simp, by simp, fun _ => shown⟩
    simp only [collectEvents, bind_eq_ok] at done
    obtain ⟨_, _, _, _, outcome⟩ := done
    split at outcome
    · exact stops outcome
    · rw [bind_eq_ok] at outcome
      obtain ⟨event, shown, outcome⟩ := outcome
      split at outcome
      · exact stops outcome
      · obtain ⟨added, rfl, shows, partly⟩ := ih outcome
        exact ⟨event :: added, by simp, .cons shown shows, partly⟩

/-- How much of the task's log was evicted and where the log ends, as its row or its tombstone says. -/
def storedBounds (store : Store) (taskId : String) : Option (Int × Int) :=
  match store.tasks.lookup taskId with
  | some task => some (task.evictedThroughSeq, task.lastEventSeq)
  | none => (store.tombstones.lookup taskId).map fun tombstone => (tombstone.evictedThroughSeq, tombstone.lastEventSeq)

/-- The bounds of a log as the protocol can carry them. -/
def Representable (evicted last : Int) : Prop :=
  (safeFrom 0 evicted ∧ safeFrom 0 last ∧ evicted ≤ last) ∧ evicted + 1 ≤ maxSafeInteger

theorem loadCursor_eq {last : Int} (stored : storedBounds store taskId = some (evicted, last)) :
    loadCursor store taskId = (do
      ensure (safeFrom 0 evicted ∧ safeFrom 0 last ∧ evicted ≤ last) (drift "invalid cursor bounds")
      ensure (evicted + 1 ≤ maxSafeInteger) (drift "cursor lower bound overflow")
      return { oldestAvailableSeq := evicted + 1, lastCommittedSeq := last }) := by
  cases live : store.tasks.lookup taskId with
  | some task =>
    simp only [storedBounds, live, some.injEq, Prod.mk.injEq] at stored
    obtain ⟨rfl, rfl⟩ := stored
    simp only [loadCursor, live]
    rfl
  | none =>
    simp only [storedBounds, live] at stored
    obtain ⟨tombstone, found, same⟩ := map_eq_some_iff.mp stored
    cases same
    simp only [loadCursor, live, found]
    rfl

theorem loadCursor_of_none (stored : storedBounds store taskId = none) :
    loadCursor store taskId = .error (.sql .queryReturnedNoRows) := by
  cases live : store.tasks.lookup taskId with
  | some task => simp [storedBounds, live] at stored
  | none =>
    simp only [storedBounds, live] at stored
    simp only [loadCursor, live, map_eq_none_iff.mp stored]
    rfl

theorem loadCursor_eq_ok {cursor : CursorBounds} : loadCursor store taskId = .ok cursor ↔
    ∃ evicted last, storedBounds store taskId = some (evicted, last) ∧ Representable evicted last ∧
      cursor = { oldestAvailableSeq := evicted + 1, lastCommittedSeq := last } := by
  cases stored : storedBounds store taskId with
  | none => simp [loadCursor_of_none stored]
  | some bounds =>
    simp only [loadCursor_eq stored, eq_ok_iff, some.injEq, Representable]
    constructor
    · rintro ⟨_, safe, _, room, rfl⟩
      exact ⟨bounds.1, bounds.2, rfl, ⟨safe, room⟩, rfl⟩
    · rintro ⟨_, _, rfl, ⟨safe, room⟩, rfl⟩
      exact ⟨(), safe, (), room, rfl⟩

/-- The log of a task in one store: numbered from one on, with every event still stored or every event evicted. -/
inductive Tracked (store : Store) (taskId : String) (log : List EventRow) : Prop
  | absent (task : store.tasks.lookup taskId = none) (tombstone : store.tombstones.lookup taskId = none)
      (empty : log = [])
  | live (task : TaskRow) (stored : store.tasks.lookup taskId = some task)
      (unburied : store.tombstones.lookup taskId = none) (events : store.events.slice EventRow.taskId taskId = log)
      (retained : task.evictedThroughSeq = 0) (counted : task.lastEventSeq = log.length)
  | gone (tombstone : TombstoneRow) (task : store.tasks.lookup taskId = none)
      (events : store.events.slice EventRow.taskId taskId = [])
      (buried : store.tombstones.lookup taskId = some tombstone) (evicted : tombstone.evictedThroughSeq = log.length)
      (counted : tombstone.lastEventSeq = log.length)

theorem eventRowsAfter_eq {log : List EventRow} (events : store.events.slice EventRow.taskId taskId = log)
    (consecutive : Consecutive 0 (log.map eventSeq)) {cursor : Int} (positive : 0 ≤ cursor) (limit : Nat) :
    eventRowsAfter store taskId cursor limit = (log.drop cursor.toNat).take limit := by
  have sorted : (log.drop cursor.toNat).Pairwise fun first second => first.eventSeq ≤ second.eventSeq :=
    consecutive.sorted.sublist (drop_sublist _ _)
  rw [eventRowsAfter, events, consecutive.filter_after positive, sorted.insertionSort_eq]

variable {log : List EventRow} {cursor : Int} {limit maximum : Nat} {consumerId : Option String} {page : PublicEventPage}

section

variable (tracked : Tracked store taskId log)

include tracked

theorem Tracked.bounds {last : Int} (stored : storedBounds store taskId = some (evicted, last)) : last = log.length := by
  unfold storedBounds at stored
  cases tracked with
  | absent task tombstone => simp [task, tombstone] at stored
  | live task found _ _ _ counted =>
    rw [found] at stored
    cases stored
    exact counted
  | gone tombstone task _ buried _ counted =>
    rw [task, buried] at stored
    cases stored
    exact counted

/-- What is stored after a cursor that is not below the evicted prefix is the end of the log. -/
theorem Tracked.rows (consecutive : Consecutive 0 (log.map EventRow.eventSeq)) {last : Int}
    (stored : storedBounds store taskId = some (evicted, last)) (notBefore : evicted ≤ cursor) (positive : 0 ≤ cursor) :
    eventRowsAfter store taskId cursor limit = (log.drop cursor.toNat).take limit := by
  cases tracked with
  | absent task tombstone => simp [storedBounds, task, tombstone] at stored
  | live task found _ events => exact eventRowsAfter_eq events consecutive positive limit
  | gone tombstone task events buried evictedAll =>
    have past : log.drop cursor.toNat = [] := by
      simp only [storedBounds, task, buried, map_some, some.injEq, Prod.mk.injEq] at stored
      rw [drop_eq_nil_iff]
      omega
    simp [eventRowsAfter, events, past]

/-- A page shows the next committed events in order, its cursor moves over them, and it is empty only at the end of the
log. -/
theorem Tracked.paged (consecutive : Consecutive 0 (log.map eventSeq)) (positive : 1 ≤ limit)
    (done : loadEventPage codec exposure store taskId cursor limit maximum consumerId = .ok page) :
    0 ≤ cursor ∧ page.nextSeq = cursor + page.events.length ∧ page.nextSeq ≤ log.length ∧
      List.Forall₂ (Shows codec exposure) ((log.drop cursor.toNat).take page.events.length) page.events ∧
      (page.events = [] → cursor = log.length) := by
  simp only [loadEventPage, eq_ok_iff, Prod.exists] at done
  obtain ⟨bounds, loaded, _, notBefore, _, notAfter, events, stopped, collected, _, complete, _, _, rfl⟩ := done
  obtain ⟨evicted, last, stored, representable, rfl⟩ := loadCursor_eq_ok.mp loaded
  obtain ⟨_, rfl, shows, partly⟩ := collectEvents_eq_ok collected
  dsimp only [nil_append] at notBefore notAfter shows partly ⊢
  have low : 0 ≤ evicted := representable.1.1.1
  have start : 0 ≤ cursor := by omega
  have counted : last = log.length := tracked.bounds stored
  rw [tracked.rows consecutive stored (by omega) start] at shows
  have fits := shows.length_eq
  rw [length_take, length_take, length_drop] at fits
  rw [take_take, min_eq_left (by omega)] at shows
  have reached : (events.getLast?.map PublicEvent.seq).getD cursor = cursor + events.length := by
    have numbered := consecutive.slice start (by omega) events.length
    rw [← seqs_of_shows shows] at numbered
    have final := numbered.last
    rwa [getLast?_map, length_map] at final
  refine ⟨start, reached, by omega, shows, fun empty => ?_⟩
  have running : stopped ≠ true := fun ended => partly ended empty
  have whole := complete.resolve_left running
  simp only [empty, length_nil] at whole
  omega

end

end Page

section Commit

variable {codec : Codec} {request : Request} {before after : Store} {taskId : String} {log : List EventRow}

theorem appendAll_extends (view : TaskView) (generation now : Int) (kind : String) (payloads : List Json) :
    view.events <+: (view.appendAll generation kind now payloads).events := by
  induction payloads generalizing view with
  | nil => exact prefix_refl _
  | cons payload payloads ih =>
    have first : view.events <+: (view.append generation kind payload now).events := prefix_append _ _
    exact first.trans (ih _)

theorem closed_extends (view : TaskView) (decision : InteractionRow → InteractionState) (status : InteractionRow → String)
    (now : Int) : view.events <+: (view.closed decision status now).events :=
  appendAll_extends (view.decideAll decision now) _ now _ _

/-- A change of a task only adds to its log. -/
theorem events_of_step {consent : InteractionRow → ResponseRow → Prop} {next : TaskView} {change : Change}
    (step : TaskStep consent current change next) : current.events <+: next.events := by
  have one : ∀ (view : TaskView) (generation now : Int) (kind : String) (payload : Json),
      view.events <+: (view.append generation kind payload now).events := fun _ _ _ _ _ => prefix_append _ _
  cases step with
  | sessionRecorded | acknowledged | repaired => exact prefix_refl _
  | cancelled now =>
    have closed := closed_extends (current.attemptsInState (fun attempt => attempt.state.isTerminal = false)
      .cancelRequested now) (fun _ => .cancelled) (fun _ => "CANCELLED") now
    exact closed.trans (one (.requestedCancel _ now) _ now _ _)
  | finalized terminal consumerId resultId ackToken resultDigest now =>
    have closed := closed_extends (current.attemptsEnded terminal now) (closedState now) (closedStatus now) now
    exact closed.trans (one (.terminated _ terminal consumerId resultId ackToken resultDigest now) _ now _ _)
  | dispatched earlier phase receipt now => exact one (current.advanced phase receipt now) _ now _ _
  | answered entry response now =>
    exact one ((current.released entry.1.generation now).answer response now) _ now _ _
  | _ => exact one _ _ _ _ _

theorem tombstone_kept (keyed : Keyed before) (committed : execute codec request before = .ok after)
    (other : compacts request ≠ some taskId) : after.tombstones.lookup taskId = before.tombstones.lookup taskId := by
  cases compaction : compacts request with
  | none => rw [(execute_effect keyed committed).tombstones compaction]
  | some compacted =>
    cases request with
    | compactTask pinned owner now =>
      cases compaction
      exact (Storage.compactTask_others committed fun same => other (same ▸ rfl)).2
    | _ => cases compaction

/-- The log of the task after a commit; a compaction evicts it and does not change it. -/
def committedLog (store : Store) (taskId : String) (log : List EventRow) : List EventRow :=
  if (store.tasks.lookup taskId).isSome then store.events.slice EventRow.taskId taskId else log

theorem tracked_live (run : Reachable codec after) (found : view after taskId = some current)
    (unburied : after.tombstones.lookup taskId = none) :
    Tracked after taskId current.events ∧ Consecutive 0 (current.events.map eventSeq) ∧
      committedLog after taskId log = current.events := by
  obtain ⟨stored, events, _⟩ := view_eq_some found
  obtain ⟨derived, control⟩ := control_of_reachable run found
  obtain ⟨consecutive, counted⟩ := consecutive_of_derives control.derives
  refine ⟨.live current.row stored unburied events.symm control.retained counted, consecutive, ?_⟩
  simp [committedLog, stored, events]

theorem Tracked.same (tracked : Tracked before taskId log) (same : SameAt taskId before after)
    (tombstone : after.tombstones.lookup taskId = before.tombstones.lookup taskId) : Tracked after taskId log := by
  cases tracked with
  | absent task unburied empty => exact .absent (same.task.trans task) (tombstone.trans unburied) empty
  | live task stored unburied events retained counted =>
    exact .live task (same.task.trans stored) (tombstone.trans unburied) (same.events.trans events) retained counted
  | gone grave task events buried evicted counted =>
    exact .gone grave (same.task.trans task) (same.events.trans events) (tombstone.trans buried) evicted counted

theorem compactTask_bounds {task : TaskRow} (stored : before.tasks.lookup taskId = some task)
    (unburied : before.tombstones.lookup taskId = none) (committed : before.compactTask pinned taskId now = .ok after) :
    after.tasks.lookup taskId = none ∧ after.events.slice EventRow.taskId taskId = [] ∧
      ∃ tombstone, after.tombstones.lookup taskId = some tombstone ∧
        tombstone.evictedThroughSeq = max task.lastEventSeq task.evictedThroughSeq ∧
        tombstone.lastEventSeq = task.lastEventSeq := by
  simp only [compactTask, queryRow, eq_ok_iff] at committed
  obtain ⟨other, found, _, _, same⟩ := committed
  obtain rfl : task = other := mem_unique stored found
  let tombstone : TombstoneRow :=
    { taskId, requestDigest := task.requestDigest, terminalState := task.state, lastEventSeq := task.lastEventSeq,
      evictedThroughSeq := max task.lastEventSeq task.evictedThroughSeq,
      resultDigest := (before.results.lookup (taskId, 1)).map ResultRow.resultDigest, compactedAt := now }
  obtain ⟨tombstones, inserted⟩ := before.tombstones.insert_of_free tombstone unburied
  refine ⟨by simp [← same, lookup_delete, stored, row_taskId stored], by simp [← same, slice_delete],
    tombstone, ?_, rfl, rfl⟩
  rw [← same]
  change ((before.tombstones.insert? tombstone).getD before.tombstones).lookup taskId = some tombstone
  rw [inserted, getD_some, lookup_insert inserted]
  exact if_pos rfl

theorem Tracked.compacted (tracked : Tracked before taskId log)
    (committed : before.compactTask pinned taskId now = .ok after) :
    Tracked after taskId log ∧ committedLog after taskId log = log := by
  have live : ∃ task, before.tasks.lookup taskId = some task := by
    simp only [compactTask, queryRow, eq_ok_iff] at committed
    obtain ⟨task, stored, _⟩ := committed
    exact ⟨task, stored⟩
  obtain ⟨task, stored⟩ := live
  cases tracked with
  | absent absent | gone _ absent => cases absent.symm.trans stored
  | live other found unburied events retained counted =>
    obtain ⟨removed, evicted, tombstone, buried, low, high⟩ := compactTask_bounds found unburied committed
    exact ⟨.gone tombstone removed evicted buried (by omega) (by omega), by simp [committedLog, removed]⟩

theorem Tracked.commit (tracked : Tracked before taskId log) (consecutive : Consecutive 0 (log.map eventSeq))
    (run : Reachable codec before) (admissible : request.admissible before)
    (committed : execute codec request before = .ok after) :
    Tracked after taskId (committedLog after taskId log) ∧
      Consecutive 0 ((committedLog after taskId log).map eventSeq) ∧ log <+: committedLog after taskId log := by
  have keyed := keyed_of_reachable run
  have later : Reachable codec after := .tail run ⟨request, admissible, trivial, committed⟩
  by_cases compaction : compacts request = some taskId
  · cases request with
    | compactTask pinned owner now =>
      cases compaction
      obtain ⟨gone, kept⟩ := tracked.compacted committed
      rw [kept]
      exact ⟨gone, consecutive, prefix_refl _⟩
    | _ => cases compaction
  · have tombstone := tombstone_kept keyed committed compaction
    cases (execute_effect keyed committed).at_task taskId with
    | same same =>
      have kept : committedLog after taskId log = log := by
        cases tracked with
        | absent task | gone _ task => simp [committedLog, same.task, task]
        | live task stored _ events => simp [committedLog, same.task, stored, same.events, events]
      rw [kept]
      exact ⟨tracked.same same tombstone, consecutive, prefix_refl _⟩
    | created fresh _ absent admitted submitted stored =>
      have unburied := admitted admissible
      have empty : log = [] := by
        cases tracked with
        | absent _ _ empty => exact empty
        | live _ stored => cases absent.symm.trans stored
        | gone _ _ _ buried => cases unburied.symm.trans buried
      obtain ⟨live, counts, same⟩ := tracked_live later stored (tombstone.trans unburied)
      rw [same, empty]
      exact ⟨live, counts, nil_prefix⟩
    | changed change current next found performs step stored =>
      have held := (view_eq_some found).1
      cases tracked with
      | absent task | gone _ task => cases task.symm.trans held
      | live task _ unburied events =>
        obtain ⟨live, counts, same⟩ := tracked_live later stored (tombstone.trans unburied)
        rw [same, ← events, ← (view_eq_some found).2.1]
        exact ⟨live, counts, events_of_step step⟩
    | removed _ asked => exact absurd asked compaction

end Commit

section Session

/-- A reader of one task beside the writer. `log` is the task's log in the last store that had the task, `start` the
first cursor, and `events` what the pages since then returned. -/
structure Reading where
  store : Store
  log : List EventRow
  start : Int
  cursor : Int
  events : List PublicEvent

def Reading.initial : Reading := ⟨Store.initial, [], 0, 0, []⟩

/-- A commit of the writer, a new first cursor, or a page that starts where the last one ended. A call that is refused
changes nothing. -/
inductive Reads (codec : Codec) (exposure : Exposure) (taskId : String) (reading : Reading) : Reading → Prop
  | commits (after : Store) : Commits codec (fun _ _ => True) reading.store after →
      Reads codec exposure taskId reading
        { reading with store := after, log := committedLog after taskId reading.log }
  | begins (start : Int) : Reads codec exposure taskId reading { reading with start, cursor := start, events := [] }
  | pages (limit maximum : Nat) (consumerId : Option String) (page : PublicEventPage) : 1 ≤ limit →
      loadEventPage codec exposure reading.store taskId reading.cursor limit maximum consumerId = .ok page →
      Reads codec exposure taskId reading
        { reading with cursor := page.nextSeq, events := reading.events ++ page.events }

variable {codec : Codec} {exposure : Exposure} {taskId : String} {reading later : Reading}

/-- The pages so far are the piece of the log between the first cursor and the current one. -/
structure Follows (codec : Codec) (exposure : Exposure) (taskId : String) (reading : Reading) : Prop where
  reachable : Reachable codec reading.store
  tracked : Tracked reading.store taskId reading.log
  consecutive : Consecutive 0 (reading.log.map EventRow.eventSeq)
  counted : reading.cursor = reading.start + reading.events.length
  within : reading.events ≠ [] → 0 ≤ reading.start ∧ reading.cursor ≤ reading.log.length
  shows : List.Forall₂ (Shows codec exposure) ((reading.log.drop reading.start.toNat).take reading.events.length)
    reading.events

theorem Follows.commit (follows : Follows codec exposure taskId reading) {after : Store}
    (commits : Commits codec (fun _ _ => True) reading.store after) :
    Follows codec exposure taskId { reading with store := after, log := committedLog after taskId reading.log } := by
  obtain ⟨request, admissible, _, committed⟩ := commits
  obtain ⟨tracked, consecutive, extends_⟩ :=
    follows.tracked.commit follows.consecutive follows.reachable admissible committed
  obtain ⟨added, grown⟩ := extends_
  constructor
  case reachable => exact .tail follows.reachable ⟨request, admissible, trivial, committed⟩
  case tracked => exact tracked
  case consecutive => exact consecutive
  case counted => exact follows.counted
  case within =>
    intro some
    obtain ⟨positive, bounded⟩ := follows.within some
    refine ⟨positive, ?_⟩
    dsimp only
    rw [← grown, length_append]
    omega
  case shows =>
    dsimp only
    by_cases empty : reading.events = []
    · rw [empty]
      exact .nil
    · obtain ⟨positive, bounded⟩ := follows.within empty
      have counted := follows.counted
      rw [← grown, drop_append_of_le_length (by omega), take_append_of_le_length (by rw [length_drop]; omega)]
      exact follows.shows

theorem Follows.page (follows : Follows codec exposure taskId reading) {limit maximum : Nat}
    {consumerId : Option String} {page : PublicEventPage} (positive : 1 ≤ limit)
    (done : loadEventPage codec exposure reading.store taskId reading.cursor limit maximum consumerId = .ok page) :
    Follows codec exposure taskId { reading with cursor := page.nextSeq, events := reading.events ++ page.events } := by
  obtain ⟨low, next, bounded, shows, _⟩ := follows.tracked.paged follows.consecutive positive done
  have counted := follows.counted
  have start : 0 ≤ reading.start := by
    by_cases empty : reading.events = []
    · rw [empty, length_nil] at counted
      omega
    · exact (follows.within empty).1
  constructor
  case reachable => exact follows.reachable
  case tracked => exact follows.tracked
  case consecutive => exact follows.consecutive
  case counted =>
    dsimp only
    rw [length_append]
    omega
  case within => exact fun _ => ⟨start, bounded⟩
  case shows =>
    dsimp only
    have place : reading.cursor.toNat = reading.start.toNat + reading.events.length := by omega
    rw [length_append, take_add, drop_drop, ← place]
    exact rel_append follows.shows shows

theorem follows_of_reads (run : Relation.ReflTransGen (Reads codec exposure taskId) Reading.initial reading) :
    Follows codec exposure taskId reading := by
  induction run with
  | refl => exact ⟨.refl, .absent rfl rfl rfl, trivial, rfl, fun some => absurd rfl some, .nil⟩
  | tail _ step follows =>
    cases step with
    | commits after commits => exact follows.commit commits
    | begins start =>
      exact ⟨follows.reachable, follows.tracked, follows.consecutive, by simp, fun some => absurd rfl some, .nil⟩
    | pages limit maximum consumerId page positive done => exact follows.page positive done

/-- A cursor below the evicted prefix has expired, as long as the protocol can carry the bounds of the log. -/
theorem expired_iff {store : Store} {last cursor : Int} {limit maximum : Nat} {consumerId : Option String}
    (stored : storedBounds store taskId = some (evicted, last)) (below : cursor < evicted) :
    loadEventPage codec exposure store taskId cursor limit maximum consumerId =
      .error (.cursorExpired (evicted + 1) last) ↔ Representable evicted last := by
  have cursorOf := loadCursor_eq stored
  constructor
  · intro expired
    by_contra beyond
    have refused : ∃ reason, loadCursor store taskId = .error (.quarantined reason) := by
      rw [cursorOf]
      by_cases safe : safeFrom 0 evicted ∧ safeFrom 0 last ∧ evicted ≤ last
      · have room : ¬evicted + 1 ≤ maxSafeInteger := fun room => beyond ⟨safe, room⟩
        exact ⟨"cursor lower bound overflow", by simp only [ensure, if_pos safe, if_neg room]; rfl⟩
      · exact ⟨"invalid cursor bounds", by simp only [ensure, if_neg safe]; rfl⟩
    obtain ⟨reason, refused⟩ := refused
    rw [loadEventPage, refused] at expired
    cases expired
  · intro representable
    have early : ¬evicted + 1 - 1 ≤ cursor := by omega
    rw [loadEventPage, loadCursor_eq_ok.mpr ⟨evicted, last, stored, representable, rfl⟩]
    change (ensure (evicted + 1 - 1 ≤ cursor) (StorageError.cursorExpired (evicted + 1) last) >>= _) = _
    rw [ensure, if_neg early]
    rfl

end Session

section LongLog

variable {store : Store} {row : TaskRow}

/-- The row of task `t`, which is about to end, and nothing else in the store is in the way. -/
structure Closing (store : Store) (row : TaskRow) : Prop where
  tasks : store.tasks.rows = [row]
  shape : row.taskId = "t" ∧ row.generation = 0 ∧ row.state = .finalizing ∧ row.evictedThroughSeq = 0
  events : ∀ event ∈ store.events.rows, event.eventSeq ≤ row.lastEventSeq
  commands : ∀ command ∈ store.commands.rows, command.method ≠ "finalize" ∧ command.method ≠ "review_ack"
  attempts : store.attempts.rows = []
  interactions : store.interactions.rows = []
  results : store.results.rows = []
  outbox : store.outbox.rows = []
  reviews : store.reviews.rows = []
  tombstones : store.tombstones.rows = []

theorem digest_length : digest.length = 64 := by
  have general : ∀ count, (String.ofList (replicate count 'a')).length = count := by simp
  exact general 64

def longCodec : Codec := codec [acceptance]

theorem exists_fresh {α : Type} {key : α → String} (table : Table key) : ∃ name, table.lookup name = none := by
  have infinite : Infinite String := .of_injective (fun length => String.ofList (replicate length 'x'))
    fun first second same => by simpa using congrArg String.length same
  obtain ⟨name, absent⟩ := Infinite.exists_notMem_finset (table.rows.map key).toFinset
  refine ⟨name, lookup_eq_none.mpr fun row member same => absent ?_⟩
  exact mem_toFinset.mpr (mem_map.mpr ⟨row, member, same⟩)

theorem lookup_single (tasks : store.tasks.rows = [row]) (owner : row.taskId = "t") :
    store.tasks.lookup "t" = some row := by
  rw [lookup_eq_some, tasks]
  exact ⟨mem_singleton_self row, owner⟩

theorem Closing.appends (closing : Closing store row) (kind : String) (payload : Json)
    (now : Int) : ∃ events, store.events.insert? ⟨"t", row.lastEventSeq + 1, 0, kind, payload, now⟩ = some events ∧
      ∀ event ∈ events.rows, event.eventSeq ≤ row.lastEventSeq + 1 := by
  obtain ⟨events, logged⟩ := store.events.insert_of_free ⟨"t", row.lastEventSeq + 1, 0, kind, payload, now⟩ (by
    rw [lookup_eq_none]
    intro event member same
    have bound := closing.events event member
    have seq : event.eventSeq = row.lastEventSeq + 1 := congrArg Prod.snd same
    omega)
  refine ⟨events, logged, ?_⟩
  rw [(insert_eq_some.mp logged).2, forall_mem_append]
  exact ⟨fun event older => by have := closing.events event older; omega, by simp⟩

/-- One more event makes the log longer. -/
theorem Closing.report (closing : Closing store row) :
    ∃ after later, Commits longCodec (fun _ _ => True) store after ∧ Closing after later ∧
      later.lastEventSeq = row.lastEventSeq + 1 := by
  obtain ⟨owner, generation, state, retained⟩ := closing.shape
  have found := lookup_single closing.tasks owner
  obtain ⟨operationId, fresh⟩ := exists_fresh store.operations
  obtain ⟨events, logged, bounds⟩ := closing.appends "usage" (.object []) 5
  obtain ⟨operations, recorded⟩ := store.operations.insert_of_free
    { operationId, operationDigest := digestFields longCodec ["t", toString (0 : Int), "usage",
        longCodec.toText (.object [])], taskId := "t", generation := 0, kind := "adapter_event",
      responseLocator := .number (row.lastEventSeq + 1), committedAt := 5 } fresh
  have done : ∃ seq after, store.recordAdapterEvent longCodec ambient operationId "t" 0 "usage" (.object []) 5 =
      .ok (seq, after) ∧ Closing after
        { row with lastEventSeq := row.lastEventSeq + 1, projectionEventSeq := row.lastEventSeq + 1 } := by
    simp only [recordAdapterEvent, replayingOperation_eq_ok, eq_ok_iff, appendEvent, storeOperation, queryRow,
      insertRow, Prod.exists]
    refine ⟨_, _, ⟨(), by decide, (), rfl, .inr ⟨fresh, row, by simp [taskAt, found, generation], (),
      by rw [state]; rfl, row.lastEventSeq + 1, _, ⟨row, found, events, logged, rfl, rfl⟩, _, ⟨operations, recorded, rfl⟩,
      rfl, rfl⟩⟩, ?_⟩
    refine { closing with tasks := ?_, events := bounds }
    simp [bumpMutationEpoch, update_rows, closing.tasks, updateWhere, owner]
  obtain ⟨_, after, done, longer⟩ := done
  exact ⟨after, _, ⟨.recordAdapterEvent ambient operationId "t" 0 "usage" (.object []) 5, trivial, trivial,
    map_eq_ok.mpr ⟨_, done, rfl⟩⟩, longer, rfl⟩

def longResult (seq : Int) : OutboxRow :=
  { consumerId := "console", taskId := "t", resultVersion := 1, resultId := "result", ackToken := digest,
    terminalEventSeq := seq, createdAt := 6, ackedAt := none, reviewId := none }

/-- The task has ended, and its result waits to be acknowledged. -/
structure Ended (store : Store) (row : TaskRow) : Prop where
  tasks : store.tasks.rows = [row]
  shape : row.taskId = "t" ∧ row.state = .cancelled ∧ row.evictedThroughSeq = 0 ∧ row.terminalAt = some 6
  outbox : store.outbox.rows = [longResult row.lastEventSeq]
  commands : ∀ command ∈ store.commands.rows, command.method ≠ "review_ack"
  reviews : store.reviews.rows = []
  tombstones : store.tombstones.rows = []

theorem Closing.finish (closing : Closing store row) :
    ∃ after later, Commits longCodec (fun _ _ => True) store after ∧ Ended after later ∧
      later.lastEventSeq = row.lastEventSeq + 1 := by
  obtain ⟨owner, generation, state, retained⟩ := closing.shape
  have found := lookup_single closing.tasks owner
  have fresh : store.commands.lookup ("console", "finalize", "finalize:t:0") = none := by
    rw [lookup_eq_none]
    intro command member same
    exact (closing.commands command member).1 (congrArg (fun key => key.2.1) same)
  have calm : store.pendingInteractions "t" 0 = [] := by
    simp [pendingInteractions, slice, closing.interactions]
  obtain ⟨events, logged, _⟩ := closing.appends "terminal" (terminalPayload .cancelled "result") 6
  obtain ⟨results, resulted⟩ := store.results.insert_of_free
    { taskId := "t", resultVersion := 1, resultId := "result", terminalEventSeq := row.lastEventSeq + 1,
      resultDigest := digest, createdAt := 6 } (by simp [lookup_eq_none, closing.results])
  obtain ⟨outbox, posted⟩ := store.outbox.insert_of_free (longResult (row.lastEventSeq + 1))
    (by simp [lookup_eq_none, closing.outbox])
  obtain ⟨commands, booked⟩ := store.commands.insert_of_free
    { consumerId := "console", method := "finalize", commandKey := "finalize:t:0", requestDigest := digest,
      responseLocator := "result", committedAt := 6 } fresh
  have done : ∃ delivery after, store.finalize ambient "result" digest "console" "finalize:t:0"
      digest "t" 0 .cancelled digest 6 = .ok (delivery, after) ∧ Ended after { row with
        lastEventSeq := row.lastEventSeq + 1, projectionEventSeq := row.lastEventSeq + 1, state := .cancelled
        resultVersion := some 1, terminalEventSeq := some (row.lastEventSeq + 1), terminalAt := some 6
        updatedAt := 6 } := by
    simp only [finalize, replayingCommand_eq_ok, eq_ok_iff, appendEvent, storeCommand, insertResult, updateTasks_eq_ok,
      updateAttempts_eq_ok, queryRow, insertRow, Prod.exists, calm, map_nil, appendEvents]
    refine ⟨_, _, ⟨(), rfl, (), rfl, .inr ⟨fresh, row, by simp [taskAt, found, generation], (), by rw [state]; rfl,
      (), by rw [state]; rfl, (), .inr trivial, _, rfl, row.lastEventSeq + 1, _, ⟨row, found, events, logged, rfl, rfl⟩, _,
      ⟨(), ?_, results, resulted, outbox, posted, rfl⟩, _, ⟨?_, rfl⟩, _, ⟨?_, rfl⟩, _, ⟨commands, booked, rfl⟩, rfl, rfl⟩⟩,
      ?_, ⟨owner, rfl, retained, rfl⟩, ?_, ?_, closing.reviews, closing.tombstones⟩
    · exact ⟨digest_length, by simp only [closing.results, not_mem_nil, false_imp_iff, implies_true],
        by simp only [closing.outbox, not_mem_nil, false_imp_iff, implies_true]⟩
    · simp [update_rows, closing.tasks, updateWhere, owner, state, TaskState.isTerminal]
    · simp [closing.attempts]
    · simp [bumpMutationEpoch, decidePending, update_rows, closing.tasks, updateWhere, owner, generation]
    · exact (insert_eq_some.mp posted).2.trans (by rw [closing.outbox]; rfl)
    · have listed := (insert_eq_some.mp booked).2
      refine fun command member => (mem_append.mp (listed ▸ member)).elim
        (fun older => (closing.commands command older).2) fun new => ?_
      rw [mem_singleton.mp new]
      decide
  obtain ⟨_, after, done, ended⟩ := done
  exact ⟨after, _, ⟨.finalize ambient "result" digest "console" "finalize:t:0" digest "t" 0
    .cancelled digest 6, trivial, trivial, map_eq_ok.mpr ⟨_, done, rfl⟩⟩, ended, rfl⟩

theorem Ended.compact (ended : Ended store row) (long : 0 ≤ row.lastEventSeq) :
    ∃ after, Relation.ReflTransGen (Commits longCodec fun _ _ => True) store after ∧
      storedBounds after "t" = some (row.lastEventSeq, row.lastEventSeq) := by
  obtain ⟨owner, state, retained, terminalAt⟩ := ended.shape
  have found := lookup_single ended.tasks owner
  have posted : store.outbox.lookup ("console", "t", 1) = some (longResult row.lastEventSeq) := by
    rw [lookup_eq_some, ended.outbox]
    exact ⟨mem_singleton_self _, rfl⟩
  have fresh : store.commands.lookup ("console", "review_ack", "review:t") = none := by
    rw [lookup_eq_none]
    intro command member same
    exact ended.commands command member (congrArg (fun key => key.2.1) same)
  have parsed : parseReviewAckCommand longCodec (utf8 "review:t") = .ok
      { commandKey := "review:t", taskId := "t", resultId := "result", resultVersion := 1, ackToken := digest,
        verdict := .accepted, diagnosis := none } := by
    decide +kernel
  obtain ⟨reviews, reviewed⟩ := store.reviews.insert_of_free
    { reviewId := "review", consumerId := "console", taskId := "t", resultVersion := 1,
      reviewDigest := hashBytes longCodec (utf8 "review:t"), verdict := .accepted, diagnosis := none, createdAt := 7 }
    (by simp [lookup_eq_none, ended.reviews])
  obtain ⟨commands, booked⟩ := store.commands.insert_of_free
    { consumerId := "console", method := "review_ack", commandKey := "review:t",
      requestDigest := hashBytes longCodec (utf8 "review:t"), responseLocator := "result", committedAt := 7 } fresh
  let delivery : ResultDelivery :=
    { taskId := "t", resultId := "result", resultVersion := 1, ackToken := digest
      terminalEventSeq := row.lastEventSeq, terminalState := .cancelled }
  obtain ⟨middle, acked, kept, unburied, entries⟩ : ∃ middle, store.reviewAndAck longCodec ambient "review"
      "console" "review:t" (utf8 "review:t") delivery .accepted none 7 = .ok (false, middle) ∧
      middle.tasks.lookup "t" = some row ∧ middle.tombstones.lookup "t" = none ∧
      middle.outbox.rows = [{ longResult row.lastEventSeq with ackedAt := some 7, reviewId := some "review" }] := by
    simp only [reviewAndAck, replayingCommand_eq_ok, eq_ok_iff, parsed, storeCommand, insertRow, Prod.exists]
    refine ⟨_, ⟨(), rfl, _, rfl, (), ⟨rfl, rfl, rfl, rfl, rfl, rfl, rfl⟩, .inr ⟨fresh, longResult row.lastEventSeq, row,
      none, ?_, (), ⟨rfl, rfl, state, rfl⟩, by
        rw [if_neg (by simp [longResult])]
        simp only [eq_ok_iff]
        exact ⟨reviews, reviewed, _, rfl, _, ⟨commands, booked, rfl⟩, trivial, rfl⟩⟩⟩, ?_, ?_, ?_⟩
    · simp [ackRow, delivery, posted, longResult, found]
    · exact found
    · simp [lookup_eq_none, bumpMutationEpoch, ended.tombstones]
    · simp [bumpMutationEpoch, update_rows, ended.outbox, updateWhere, longResult, delivery]
  have due : middle.compactable false row (90 * dayUs + 6) :=
    ⟨rfl, ⟨_, by rw [entries]; exact mem_singleton_self _, owner.symm, rfl, rfl⟩, 6, terminalAt, by decide⟩
  obtain ⟨after, compacted⟩ : ∃ after, middle.compactTask false "t" (90 * dayUs + 6) = .ok after := by
    simp only [compactTask, queryRow, eq_ok_iff]
    exact ⟨_, row, kept, (), due, rfl⟩
  obtain ⟨removed, _, tombstone, buried, evicted, counted⟩ := compactTask_bounds kept unburied compacted
  refine ⟨after, .tail (.single ⟨.reviewAndAck ambient "review" "console" "review:t" (utf8 "review:t") delivery
    .accepted none 7, trivial, trivial, map_eq_ok.mpr ⟨_, acked, rfl⟩⟩)
    ⟨.compactTask false "t" (90 * dayUs + 6), trivial, trivial, compacted⟩, ?_⟩
  simp only [storedBounds, removed, buried, map_some, some.injEq, Prod.mk.injEq]
  omega

theorem exists_long_log (bound : Nat) : ∃ store, ∃ last > (bound : Int), Reachable longCodec store ∧
    storedBounds store "t" = some (last, last) := by
  have base : ∃ store row, Reachable longCodec store ∧ Closing store row ∧ row.lastEventSeq = 3 := by
    obtain ⟨store, run, tasks, events, commands, empty⟩ : ∃ store, Reachable longCodec store ∧
        store.tasks.rows.map (fun row => (row.taskId, row.generation, row.state, row.lastEventSeq,
          row.evictedThroughSeq)) = [("t", 0, .finalizing, 3, 0)] ∧
        (∀ event ∈ store.events.rows, event.eventSeq ≤ 3) ∧
        (∀ command ∈ store.commands.rows, command.method ≠ "finalize" ∧ command.method ≠ "review_ack") ∧
        store.attempts.rows.length + store.interactions.rows.length + store.results.rows.length +
          store.outbox.rows.length + store.reviews.rows.length + store.tombstones.rows.length = 0 :=
      exists_of_script [submit "t" "k", .requestCancel ambient "console" "cancel" digest "t" 3,
        .transitionToFinalizing ambient "finalizing:t:0" "t" 0 [.cancelRequested] 4] (by decide +kernel)
    obtain ⟨row, rows, shape⟩ := map_eq_singleton_iff.mp tasks
    simp only [Prod.mk.injEq] at shape
    obtain ⟨owner, generation, state, last, retained⟩ := shape
    refine ⟨store, row, run, ⟨rows, ⟨owner, generation, state, retained⟩, last ▸ events, commands, ?_, ?_, ?_, ?_, ?_,
      ?_⟩, last⟩
    all_goals exact eq_nil_of_length_eq_zero (by omega)
  have grown : ∀ more : Nat, ∃ store row, Reachable longCodec store ∧ Closing store row ∧
      row.lastEventSeq = 3 + more := by
    intro more
    induction more with
    | zero => exact base
    | succ more ih =>
      obtain ⟨store, row, run, closing, last⟩ := ih
      obtain ⟨after, later, commits, longer, next⟩ := closing.report
      exact ⟨after, later, .tail run commits, longer, by omega⟩
  obtain ⟨store, row, run, closing, last⟩ := grown bound
  obtain ⟨middle, later, finished, ended, next⟩ := closing.finish
  obtain ⟨after, compacted, bounds⟩ := ended.compact (by omega)
  exact ⟨after, _, by omega, (run.tail finished).trans compacted, bounds⟩

end LongLog

section Exact

variable {codec : Codec} {exposure : Exposure} {taskId : String} {store : Store}

theorem reads_of_reachable (run : Reachable codec store) :
    ∃ log, Relation.ReflTransGen (Reads codec exposure taskId) Reading.initial ⟨store, log, 0, 0, []⟩ := by
  induction run with
  | refl => exact ⟨[], .refl⟩
  | tail _ commits ih =>
    obtain ⟨log, reads⟩ := ih
    exact ⟨_, .tail reads (.commits _ commits)⟩

theorem Tracked.representable_iff {log : List EventRow} (tracked : Tracked store taskId log) {last : Int}
    (stored : storedBounds store taskId = some (evicted, last)) :
    Representable evicted last ↔ last ≤ maxSafeInteger ∧ evicted < maxSafeInteger := by
  have counted := tracked.bounds stored
  have low : 0 ≤ evicted ∧ evicted ≤ last := by
    unfold storedBounds at stored
    cases tracked with
    | absent task tombstone => simp [task, tombstone] at stored
    | live task found _ _ retained =>
      simp only [found, some.injEq, Prod.mk.injEq] at stored
      omega
    | gone tombstone task _ buried evictedAll =>
      simp only [task, buried, map_some, some.injEq, Prod.mk.injEq] at stored
      omega
  simp only [Representable, safeFrom]
  omega

/-- However commits and pages interleave, the events of a task are numbered from one on in the order of their commits,
the pages since the first cursor show the events after it once each and in order, and the next call shows the events
after the current cursor: its cursor is that of the last event shown, and it is empty only at the end of the log. A cursor
below the evicted prefix has expired as long as the protocol can carry the bounds of the log. -/
theorem paging_exact (codec : Codec) (exposure : Exposure) (taskId : String) (reading : Reading)
    (run : Relation.ReflTransGen (Reads codec exposure taskId) Reading.initial reading) :
    (Consecutive 0 (reading.log.map EventRow.eventSeq) ∧ reading.cursor = reading.start + reading.events.length ∧
      List.Forall₂ (Shows codec exposure) ((reading.log.drop reading.start.toNat).take reading.events.length)
        reading.events) ∧
    ∀ limit maximum consumerId, 1 ≤ limit →
      (∀ page, loadEventPage codec exposure reading.store taskId reading.cursor limit maximum consumerId = .ok page →
        page.nextSeq = reading.cursor + page.events.length ∧
        (∀ event ∈ page.events.getLast?, page.nextSeq = event.seq) ∧
        List.Forall₂ (Shows codec exposure) ((reading.log.drop reading.cursor.toNat).take page.events.length)
          page.events ∧
        (page.events = [] → reading.cursor = reading.log.length)) ∧
      ∀ evicted last, storedBounds reading.store taskId = some (evicted, last) → reading.cursor < evicted →
        (loadEventPage codec exposure reading.store taskId reading.cursor limit maximum consumerId =
          .error (.cursorExpired (evicted + 1) last) ↔ last ≤ maxSafeInteger ∧ evicted < maxSafeInteger) := by
  have follows := follows_of_reads run
  refine ⟨⟨follows.consecutive, follows.counted, follows.shows⟩, fun limit maximum consumerId positive => ⟨?_, ?_⟩⟩
  · intro page done
    obtain ⟨_, next, _, shows, ended⟩ := follows.tracked.paged follows.consecutive positive done
    refine ⟨next, fun event final => ?_, shows, ended⟩
    simp only [loadEventPage, eq_ok_iff, Prod.exists] at done
    obtain ⟨_, _, _, _, _, _, events, _, _, _, _, _, _, rfl⟩ := done
    have last : events.getLast? = some event := final
    simp only [last, Option.map_some, Option.getD_some]
  · intro evicted last stored below
    rw [expired_iff stored below, follows.tracked.representable_iff stored]

/-- Values that the public form of an event takes from elsewhere in scripted runs. -/
def plainExposure : Exposure := ⟨fun _ _ => "event", .string⟩

/-- A reader pages twice through the log of a started task. -/
theorem paging_exact_started : ∃ reading,
    Relation.ReflTransGen (Reads (Script.codec []) plainExposure "t") Reading.initial reading ∧
      reading.events.map PublicEvent.seq = [1, 2, 3] ∧
      List.Forall₂ (Shows (Script.codec []) plainExposure)
        ((reading.log.drop reading.start.toNat).take reading.events.length) reading.events := by
  obtain ⟨store, run, ⟨front, read, shown, next⟩, back, again, shownNext⟩ : ∃ store, Reachable (Script.codec []) store ∧
      (∃ page, loadEventPage (Script.codec []) plainExposure store "t" 0 2 1000 none = .ok page ∧
        page.events.map PublicEvent.seq = [1, 2] ∧ page.nextSeq = 2) ∧
      ∃ page, loadEventPage (Script.codec []) plainExposure store "t" 2 2 1000 none = .ok page ∧
        page.events.map PublicEvent.seq = [3] :=
    exists_of_script [Script.submit "t" "k", Script.claim "t" 0, Script.phase "t" 0 .processStarted] (by decide +kernel)
  obtain ⟨log, reads⟩ := @reads_of_reachable (Script.codec []) plainExposure "t" store run
  have paged := reads.tail (.pages 2 1000 none front (by decide) read)
  have turned := paged.tail (.pages 2 1000 none back (by decide) (by rwa [next]))
  refine ⟨_, turned, ?_, (paging_exact _ _ _ _ turned).1.2.2⟩
  simp [shown, shownNext]

/-- The log of a compacted task that had more events than the protocol can number: an old cursor is not told to have
expired. -/
theorem long_log_not_expired : ∃ reading,
    Relation.ReflTransGen (Reads longCodec plainExposure "t") Reading.initial reading ∧ 0 ≤ reading.cursor ∧
      ∃ evicted last, storedBounds reading.store "t" = some (evicted, last) ∧ reading.cursor < evicted ∧
        ∀ limit maximum consumerId,
          loadEventPage longCodec plainExposure reading.store "t" reading.cursor limit maximum consumerId =
            .error (.quarantined "invalid cursor bounds") := by
  obtain ⟨store, last, long, run, stored⟩ := exists_long_log 9007199254740992
  obtain ⟨log, reads⟩ := @reads_of_reachable longCodec plainExposure "t" store run
  refine ⟨_, reads, le_rfl, last, last, stored, by dsimp only; omega, fun limit maximum consumerId => ?_⟩
  have beyond : ¬(safeFrom 0 last ∧ safeFrom 0 last ∧ last ≤ last) := by
    rintro ⟨⟨_, high⟩, _⟩
    unfold maxSafeInteger at high
    omega
  rw [loadEventPage, loadCursor_eq stored, ensure, if_neg beyond]
  rfl

end Exact

end AgentMesh.Runs
