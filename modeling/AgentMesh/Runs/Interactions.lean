import AgentMesh.Runs.Operations

/-! One-shot interactions. Four changes decide interactions, each for its own reason; every one of them decides
pending interactions only and logs each decision once. -/
namespace AgentMesh.Runs
open Library Daemon AgentMesh.Task TaskView List

/-- The statuses a log records for the decision of an interaction, in order. -/
def decisions (events : List EventRow) (interactionId : String) : List (Option String) :=
  (events.filter fun event => event.kind = "interaction_decided" ∧
    event.payload.str? "interaction_id" = some interactionId).map fun event => event.payload.str? "status"

/-- The status that goes with the state of an interaction, once it is decided. -/
def statusOf (entry : InteractionRow × Option ResponseRow) : Option String :=
  match entry.1.state with
  | .pending => none
  | .answered => entry.2.map fun response => response.responseKind.eventStatus
  | .expired => some "EXPIRED"
  | .cancelled => some "CANCELLED"

def outcome (entry : InteractionRow × Option ResponseRow) : List (Option String) :=
  if entry.1.state = .pending then [] else [statusOf entry]

section Log

variable (current : TaskView) (generation now : Int)

@[simp]
theorem decisions_append (earlier later : List EventRow) (interactionId : String) :
    decisions (earlier ++ later) interactionId = decisions earlier interactionId ++ decisions later interactionId := by
  simp [decisions]

theorem decisions_other {kind : String} (other : kind ≠ "interaction_decided") (payload : Json)
    (interactionId : String) :
    decisions (current.append generation kind payload now).events interactionId =
      decisions current.events interactionId := by
  have silent : decisions [current.nextEvent generation kind payload now] interactionId = [] := by
    simp [decisions, nextEvent, other]
  rw [append, decisions_append, silent, append_nil]

theorem decisions_decided (decided status : String) (kind : Option InteractionResponseKind) (interactionId : String) :
    decisions (current.append generation "interaction_decided" (interactionDecidedPayload decided status kind)
        now).events interactionId =
      decisions current.events interactionId ++ if decided = interactionId then [some status] else [] := by
  rw [append, decisions_append]
  congr 1
  cases kind <;> by_cases same : decided = interactionId <;>
    simp [decisions, nextEvent, interactionDecidedPayload, Json.str?, Json.get?, Json.asStr?, same]

theorem decisions_appendAll (status : InteractionRow → String) (rows : List InteractionRow) (interactionId : String) :
    decisions (current.appendAll generation "interaction_decided" now
        (rows.map fun row => interactionDecidedPayload row.interactionId (status row) none)).events interactionId =
      decisions current.events interactionId ++
        (rows.filter fun row => row.interactionId = interactionId).map fun row => some (status row) := by
  induction rows generalizing current with
  | nil => simp [appendAll]
  | cons row rows ih =>
    rw [map_cons, appendAll, ih, decisions_decided, append_assoc]
    by_cases same : row.interactionId = interactionId <;> simp [same]

end Log

/-- How a pending interaction is decided: by an answer that came in time, or without one. -/
inductive Ruling (consent : InteractionRow → ResponseRow → Prop) (entry : InteractionRow × Option ResponseRow) :
    InteractionRow × Option ResponseRow → Prop where
  | answered (response : ResponseRow) (now : Int) (inTime : response.committedAt < entry.1.expiresAt)
      (given : consent entry.1 response) :
      Ruling consent entry ({ entry.1 with state := .answered, updatedAt := now }, some response)
  | closed (state : InteractionState) (now : Int) (unanswered : state = .expired ∨ state = .cancelled) :
      Ruling consent entry ({ entry.1 with state, updatedAt := now }, entry.2)

/-- What a change does to the interactions of a task: it decides pending ones, logging each decision once, and
adds new ones. -/
def Rules (consent : InteractionRow → ResponseRow → Prop) (current next : TaskView) : Prop :=
  ∃ (ruled : InteractionRow × Option ResponseRow → InteractionRow × Option ResponseRow)
    (opened : List InteractionRow),
    next.interactions = current.interactions.map ruled ++ opened.map (fun row => (row, none)) ∧
    (∀ row ∈ opened, row.state = .pending ∧
      ∀ entry ∈ current.interactions, entry.1.interactionId ≠ row.interactionId) ∧
    (∀ entry ∈ current.interactions,
      (ruled entry = entry ∧ decisions next.events entry.1.interactionId =
        decisions current.events entry.1.interactionId) ∨
      (entry.1.state = .pending ∧ Ruling consent entry (ruled entry) ∧ decisions next.events entry.1.interactionId =
        decisions current.events entry.1.interactionId ++ outcome (ruled entry))) ∧
    ∀ interactionId, (∀ entry ∈ current.interactions, entry.1.interactionId ≠ interactionId) →
      decisions next.events interactionId = decisions current.events interactionId

namespace Rules

variable {consent : InteractionRow → ResponseRow → Prop} {current next : TaskView}

theorem quiet (same : next.interactions = current.interactions)
    (silent : ∀ interactionId, decisions next.events interactionId = decisions current.events interactionId) :
    Rules consent current next :=
  ⟨id, [], by simpa using same, by simp, fun _ _ => .inl ⟨rfl, silent _⟩, fun interactionId _ => silent interactionId⟩

theorem single (formed : current.WellFormed) {entry : InteractionRow × Option ResponseRow}
    (change : InteractionRow × Option ResponseRow → InteractionRow × Option ResponseRow)
    (member : entry ∈ current.interactions) (pending : entry.1.state = .pending)
    (ruling : Ruling consent entry (change entry))
    (changed : next.interactions =
      updateWhere (fun other => other.1.interactionId = entry.1.interactionId) change current.interactions)
    (logged : ∀ interactionId, decisions next.events interactionId = decisions current.events interactionId ++
      if entry.1.interactionId = interactionId then outcome (change entry) else []) : Rules consent current next := by
  refine ⟨_, [], by simpa [updateWhere] using changed, by simp, fun other otherIn => ?_, fun interactionId free => ?_⟩
  · by_cases same : other.1.interactionId = entry.1.interactionId
    · obtain rfl := inj_on_of_nodup_map formed.interactionIds otherIn member same
      refine .inr ⟨pending, by simpa using ruling, ?_⟩
      simpa using logged other.1.interactionId
    · refine .inl ⟨by simp [same], ?_⟩
      rw [logged, if_neg (Ne.symm same), append_nil]
  · rw [logged, if_neg (free entry member), append_nil]

theorem closed (formed : current.WellFormed) {decision : InteractionRow → InteractionState}
    {status : InteractionRow → String} (now : Int)
    (matching : ∀ row, (decision row = .expired ∧ status row = "EXPIRED") ∨
      (decision row = .cancelled ∧ status row = "CANCELLED")) :
    Rules consent current (current.closed decision status now) := by
  have interactions := (current.closed_frame now decision status).2.2.2.2.2.2.1
  have logged := decisions_appendAll (current.decideAll decision now) current.row.generation now status
    (current.pendingAt current.row.generation)
  have distinct : ((current.pendingAt current.row.generation).map InteractionRow.interactionId).Nodup := by
    refine ((perm_insertionSort _ _).map _).nodup_iff.mpr ?_
    have ids : ((current.interactions.map Prod.fst).map InteractionRow.interactionId).Nodup := by
      simpa [Function.comp_def] using formed.interactionIds
    exact (filter_sublist.map _).nodup ids
  have listed : ∀ row, row ∈ current.pendingAt current.row.generation ↔
      (∃ response, (row, response) ∈ current.interactions) ∧ row.generation = current.row.generation ∧
        row.state = .pending := by
    intro row
    rw [pendingAt, (perm_insertionSort _ _).mem_iff]
    simp
  refine ⟨_, [], interactions.trans (append_nil _).symm, by simp, fun entry member => ?_, fun interactionId free => ?_⟩
  · have own := formed.interactions entry member
    by_cases open_ : entry.1.generation = current.row.generation ∧ entry.1.state = .pending
    · right
      have mine := (listed entry.1).mpr ⟨⟨entry.2, member⟩, open_⟩
      refine ⟨open_.2, ?_, ?_⟩
      · rw [if_pos (by simp [own, open_])]
        refine .closed (decision entry.1) now ?_
        exact (matching entry.1).imp And.left And.left
      · refine (logged entry.1.interactionId).trans ?_
        rw [filter_key_eq InteractionRow.interactionId distinct mine]
        rw [if_pos (by simp [own, open_]), outcome, statusOf]
        rcases matching entry.1 with same | same <;> simp [same, decideAll, setInteractions]
    · left
      have none : (current.pendingAt current.row.generation).filter
          (fun row => row.interactionId = entry.1.interactionId) = [] := by
        rw [filter_eq_nil_iff]
        intro row rowIn same
        obtain ⟨⟨response, stored⟩, holds⟩ := (listed row).mp rowIn
        obtain rfl := inj_on_of_nodup_map formed.interactionIds stored member (by simpa using same)
        exact open_ holds
      refine ⟨by simp [own, open_], ?_⟩
      refine (logged entry.1.interactionId).trans ?_
      rw [none]
      simp [decideAll, setInteractions]
  · refine (logged interactionId).trans ?_
    have none : (current.pendingAt current.row.generation).filter (fun row => row.interactionId = interactionId) = [] := by
      rw [filter_eq_nil_iff]
      intro row rowIn same
      obtain ⟨⟨response, stored⟩, _⟩ := (listed row).mp rowIn
      exact free _ stored (by simpa using same)
    rw [none]
    simp [decideAll, setInteractions]

/-- A later event that decides nothing keeps the account of the decisions. -/
theorem append (rules : Rules consent current next) {kind : String} (other : kind ≠ "interaction_decided")
    (generation : Int) (payload : Json) (now : Int) :
    Rules consent current (next.append generation kind payload now) := by
  obtain ⟨ruled, opened, interactions, fresh, entries, others⟩ := rules
  refine ⟨ruled, opened, interactions, fresh, ?_, ?_⟩
  · simpa only [decisions_other next generation now other payload] using entries
  · simpa only [decisions_other next generation now other payload] using others

/-- Rewriting the row, the attempts, the result or the outbox changes no interaction. -/
theorem congr (rules : Rules consent current next) {before after : TaskView}
    (earlier : before.interactions = current.interactions ∧ before.events = current.events)
    (later : after.interactions = next.interactions ∧ after.events = next.events) : Rules consent before after := by
  unfold Rules
  rw [earlier.1, earlier.2, later.1, later.2]
  exact rules

end Rules

section Step

variable {consent : InteractionRow → ResponseRow → Prop} {current next : TaskView} {change : Change}

theorem closed_matching (now : Int) (row : InteractionRow) :
    (closedState now row = .expired ∧ closedStatus now row = "EXPIRED") ∨
      (closedState now row = .cancelled ∧ closedStatus now row = "CANCELLED") := by
  unfold closedState closedStatus
  split <;> simp

theorem rules_of_step (formed : current.WellFormed) (step : TaskStep consent current change next) :
    Rules consent current next := by
  cases step with
  | attemptStarted attempt adapter payload now =>
    exact .quiet rfl (decisions_other (current.attempted attempt adapter now) _ now (by decide) payload)
  | switched source target phase now =>
    exact .quiet rfl (decisions_other (inState _ target now) _ now (by decide) _)
  | dispatched earlier phase receipt now =>
    exact .quiet rfl (decisions_other (current.advanced phase receipt now) _ now (by decide) _)
  | reported kind payload now known =>
    refine .quiet rfl (decisions_other current _ now ?_ payload)
    rintro rfl
    revert known
    decide
  | sessionRecorded | acknowledged | repaired => exact .quiet rfl fun _ => rfl
  | opened interaction phase now _ _ _ state fresh =>
    have silent := decisions_other (current.waiting interaction now) current.row.generation now
      (by decide : "interaction_requested" ≠ "interaction_decided")
      (.object [("interaction_id", .string interaction.interactionId)])
    refine ⟨id, [interaction], by simp [append, waiting], ?_, fun _ _ => .inl ⟨rfl, silent _⟩,
      fun interactionId _ => silent interactionId⟩
    simpa [state] using fresh
  | answered entry response now member pending inTime same committed given =>
    refine .single formed (fun entry => ({ entry.1 with state := .answered, updatedAt := now }, some response)) member
      pending (.answered response now (committed ▸ inTime) given) ?_ fun interactionId => ?_
    · simp [answeredBy, append, answer, released, same]
    · exact decisions_decided ((current.released entry.1.generation now).answer response now) _ now _ _ _ _
  | expired entry now member pending =>
    refine .single formed (fun entry => ({ entry.1 with state := .expired, updatedAt := now }, entry.2)) member
      pending (.closed .expired now (.inl rfl)) rfl fun interactionId => ?_
    exact decisions_decided (inState _ .finalizing now) _ now _ _ _ _
  | cancelled now =>
    have kept := formed.setAttempts (fun attempt => attempt.taskId = current.row.taskId ∧
      attempt.generation = current.row.generation ∧ (attempt.state.isTerminal = false : Bool))
      (fun attempt => { attempt with state := .cancelRequested, updatedAt := now }) fun _ => rfl
    have closed : Rules consent _ _ := .closed kept now fun _ => .inr ⟨rfl, rfl⟩
    exact .append (.congr closed ⟨rfl, rfl⟩ ⟨rfl, rfl⟩) (by decide) _ _ now
  | retried phase payload retryAt now =>
    exact .quiet rfl (decisions_other (postponed _ retryAt now) _ now (by decide) payload)
  | finalizing now => exact .quiet rfl (decisions_other (current.inState .finalizing now) _ now (by decide) _)
  | finalized terminal consumerId resultId ackToken resultDigest now =>
    have kept := formed.setAttempts
      (fun attempt => attempt.taskId = current.row.taskId ∧ attempt.generation = current.row.generation)
      (fun attempt => { attempt with state := terminal, endedAt := some now, updatedAt := now }) fun _ => rfl
    have closed : Rules consent _ _ := .closed kept now (closed_matching now)
    exact .append (.congr closed ⟨rfl, rfl⟩ ⟨rfl, rfl⟩) (by decide) _ _ now
  | resumed now => exact .quiet rfl (decisions_other current _ now (by decide) _)

/-- What holds for every interaction of a task: its decisions are the ones its state calls for, and it has an answer
exactly when it was answered, in time and by a command that names it. -/
structure OneShot (codec : Codec) (store : Store) (current : TaskView) : Prop where
  decided : ∀ entry ∈ current.interactions, decisions current.events entry.1.interactionId = outcome entry
  named : ∀ interactionId, (∀ entry ∈ current.interactions, entry.1.interactionId ≠ interactionId) →
    decisions current.events interactionId = []
  responded : ∀ entry ∈ current.interactions, entry.2.isSome = true ↔ entry.1.state = .answered
  consented : ∀ entry ∈ current.interactions, ∀ response ∈ entry.2,
    response.committedAt < entry.1.expiresAt ∧ Consented codec store entry.1 response

namespace Ruling

variable {entry verdict : InteractionRow × Option ResponseRow} (ruling : Ruling consent entry verdict)

include ruling

theorem decides : verdict.1.interactionId = entry.1.interactionId ∧ verdict.1.state ≠ .pending := by
  cases ruling with
  | answered => simp
  | closed state now unanswered => rcases unanswered with rfl | rfl <;> simp

theorem responded (open_ : entry.2 = none) : verdict.2.isSome = true ↔ verdict.1.state = .answered := by
  cases ruling with
  | answered => simp
  | closed state now unanswered => rcases unanswered with rfl | rfl <;> simp [open_]

end Ruling

theorem Ruling.consented {codec : Codec} {store : Store} {entry verdict : InteractionRow × Option ResponseRow}
    (ruling : Ruling (Consented codec store) entry verdict) (open_ : entry.2 = none) :
    ∀ response ∈ verdict.2, response.committedAt < verdict.1.expiresAt ∧ Consented codec store verdict.1 response := by
  intro response answer
  cases ruling with
  | answered given now inTime consent =>
    obtain rfl : given = response := by simpa using answer
    exact ⟨inTime, consent⟩
  | closed => simp [open_] at answer

theorem OneShot.step {codec : Codec} {store : Store} (oneShot : OneShot codec store current)
    (rules : Rules (Consented codec store) current next) : OneShot codec store next := by
  obtain ⟨ruled, opened, interactions, fresh, entries, others⟩ := rules
  have members : ∀ entry ∈ next.interactions, (∃ old ∈ current.interactions, ruled old = entry) ∨
      ∃ row ∈ opened, (row, none) = entry := by
    intro entry member
    simpa [interactions] using member
  have sameId : ∀ entry ∈ current.interactions, (ruled entry).1.interactionId = entry.1.interactionId := by
    intro entry member
    rcases entries entry member with ⟨same, _⟩ | ⟨_, ruling, _⟩
    · rw [same]
    · exact ruling.decides.1
  have unanswered : ∀ entry ∈ current.interactions, entry.1.state = .pending → entry.2 = none := by
    intro entry member pending
    have answered := oneShot.responded entry member
    simpa [pending] using answered
  constructor
  case decided =>
    intro entry member
    rcases members entry member with ⟨old, stored, rfl⟩ | ⟨row, added, rfl⟩
    · rw [sameId old stored]
      rcases entries old stored with ⟨same, silent⟩ | ⟨pending, _, logged⟩
      · rw [silent, same, oneShot.decided old stored]
      · rw [logged, oneShot.decided old stored, outcome, if_pos pending, nil_append]
    · obtain ⟨pending, free⟩ := fresh row added
      rw [others row.interactionId free, oneShot.named row.interactionId free, outcome, if_pos pending]
  case named =>
    intro interactionId free
    have older : ∀ entry ∈ current.interactions, entry.1.interactionId ≠ interactionId := by
      intro entry stored
      rw [← sameId entry stored]
      apply free
      rw [interactions]
      exact mem_append_left _ (mem_map_of_mem stored)
    rw [others interactionId older, oneShot.named interactionId older]
  case responded =>
    intro entry member
    rcases members entry member with ⟨old, stored, rfl⟩ | ⟨row, added, rfl⟩
    · rcases entries old stored with ⟨same, _⟩ | ⟨pending, ruling, _⟩
      · rw [same]
        exact oneShot.responded old stored
      · exact ruling.responded (unanswered old stored pending)
    · simp [(fresh row added).1]
  case consented =>
    intro entry member response answer
    rcases members entry member with ⟨old, stored, rfl⟩ | ⟨row, added, rfl⟩
    · rcases entries old stored with ⟨same, _⟩ | ⟨pending, ruling, _⟩
      · rw [same] at answer ⊢
        exact oneShot.consented old stored response answer
      · exact ruling.consented (unanswered old stored pending) response answer
    · cases answer

/-- At most one interaction is pending, and while one is neither the row nor the log says `RUNNING`. -/
structure Sole (current : TaskView) (derived : TaskState) : Prop where
  single : current.pending.length ≤ 1
  halted : current.pending ≠ [] → current.row.state ≠ .running ∧ derived ≠ .running

namespace Sole

variable {derived : TaskState}

theorem of_none (none : next.pending = []) : Sole next derived :=
  ⟨by simp [none], fun some => absurd none some⟩

theorem none_of_active (sole : Sole current derived) (control : Control current derived)
    (active : activeState current.row.state = true) : current.pending = [] := by
  have states : current.row.state = .preparing ∨ current.row.state = .running := by
    simpa [activeState] using active
  rcases states with state | state
  · exact control.no_pending_of_not_interactive (.inl (by rw [state]; rfl))
  · by_contra some
    exact (sole.halted some).1 state

/-- Deciding the only pending interaction leaves none. -/
theorem none_of_decided (sole : Sole current derived) {entry : InteractionRow × Option ResponseRow}
    (member : entry ∈ current.interactions) (pending : entry.1.state = .pending)
    (fewer : ∀ row ∈ next.pending, row ∈ current.pending)
    (decided : ∀ row ∈ next.pending, row.interactionId ≠ entry.1.interactionId) : next.pending = [] := by
  have waits : entry.1 ∈ current.pending := (current.mem_pending entry.1).mpr ⟨pending, entry.2, member⟩
  obtain ⟨only, alone⟩ := length_eq_one_iff.mp (le_antisymm sole.single (length_pos_of_mem waits))
  rw [alone, mem_singleton] at waits
  apply eq_nil_iff_forall_not_mem.mpr
  intro row rowIn
  have same := fewer row rowIn
  rw [alone, mem_singleton] at same
  exact decided row rowIn (by rw [same, waits])

theorem apart_of_decided (interactionId : String) (entries : List (InteractionRow × Option ResponseRow))
    (change : InteractionRow × Option ResponseRow → InteractionRow × Option ResponseRow)
    (decides : ∀ entry, (change entry).1.state ≠ .pending)
    (changed : next.interactions = updateWhere (fun entry => entry.1.interactionId = interactionId) change entries) :
    ∀ row ∈ next.pending, row.interactionId ≠ interactionId := by
  intro row member same
  obtain ⟨waits, answer, stored⟩ := (next.mem_pending row).mp member
  rw [changed] at stored
  obtain ⟨old, _, updated⟩ := mem_updateWhere.mp stored
  split at updated
  · rename_i picked
    exact decides old (by rw [updated]; exact waits)
  · rename_i other
    rw [updated] at other
    exact other (by simpa using same)

theorem step (sole : Sole current derived) (control : Control current derived) (formed : current.WellFormed)
    (step : TaskStep consent current change next)
    (alone : change = .switched .running → current.pending = []) : Sole next (change.derived derived) := by
  have after := control.step formed step
  cases step with
  | attemptStarted attempt adapter payload now ready =>
    apply of_none
    refine control.no_pending_of_not_interactive (.inl ?_)
    rcases ready with state | state <;> rw [state] <;> rfl
  | switched source target phase now pair state =>
    apply of_none
    rcases pair with ⟨rfl, rfl⟩ | ⟨rfl, rfl⟩
    · exact sole.none_of_active control (by rw [state]; rfl)
    · exact alone rfl
  | dispatched earlier phase receipt now active => exact of_none (sole.none_of_active control active)
  | reported | sessionRecorded | acknowledged | resumed => exact ⟨sole.single, sole.halted⟩
  | opened interaction phase now active _ _ state =>
    have none := sole.none_of_active control active
    have one : (current.waiting interaction now).pending = [interaction] := by
      rw [current.waiting_pending now interaction state, none, nil_append]
    refine ⟨?_, fun _ => by simp [append, waiting, Change.derived]⟩
    rw [append_pending, one]
    exact le_rfl
  | answered entry response now member pending inTime same =>
    apply of_none
    refine sole.none_of_decided member pending
      (decided_pending_subset (current.released entry.1.generation now) _ _ (fun _ => by simp)) ?_
    rw [← same]
    exact apart_of_decided response.interactionId current.interactions _ (fun _ => by simp) rfl
  | expired entry now member pending =>
    apply of_none
    refine sole.none_of_decided member pending (current.decided_pending_subset _ _ (fun _ => by simp)) ?_
    exact apart_of_decided entry.1.interactionId current.interactions
      (fun entry => ({ entry.1 with state := .expired, updatedAt := now }, entry.2)) (fun _ => by simp) rfl
  | cancelled now => exact of_none (after.no_pending_of_not_interactive (.inl rfl))
  | retried phase payload retryAt now state =>
    apply of_none
    refine control.no_pending_of_not_interactive (.inl ?_)
    rcases state with state | state <;> rw [state] <;> rfl
  | finalizing =>
    exact ⟨sole.single, fun _ => by simp [append, inState, Change.derived]⟩
  | finalized terminal consumerId resultId ackToken resultDigest now _ isTerminal =>
    exact of_none (after.no_pending_of_not_interactive (.inr (not_interactive_of_terminal isTerminal)))
  | repaired logged now derives =>
    obtain rfl : derived = logged := by simpa using control.derives.symm.trans derives
    exact ⟨sole.single, fun some => ⟨(sole.halted some).2, (sole.halted some).2⟩⟩

end Sole

def DecidedAs (interactionId : String) (state : InteractionState) (current : TaskView) : Prop :=
  ∃ entry ∈ current.interactions, entry.1.interactionId = interactionId ∧ entry.1.state = state

theorem DecidedAs.step {interactionId : String} {state : InteractionState} (final : state ≠ .pending)
    (decided : DecidedAs interactionId state current) (rules : Rules consent current next) :
    DecidedAs interactionId state next := by
  obtain ⟨entry, member, named, same⟩ := decided
  obtain ⟨ruled, opened, interactions, _, entries, _⟩ := rules
  rcases entries entry member with ⟨kept, _⟩ | ⟨pending, _⟩
  · refine ⟨entry, ?_, named, same⟩
    rw [interactions]
    exact mem_append_left _ (mem_map.mpr ⟨entry, member, kept⟩)
  · exact absurd (same.symm.trans pending) final

end Step

/-- The commit that lets a waiting task run although an interaction of it is still pending. -/
def Overtakes (request : Request) (store : Store) : Prop :=
  match request with
  | .reclaimPreflightDispatchSlot _ operationId taskId _ _ _ _ =>
    store.operations.lookup operationId = none ∧
      (store.tasks.lookup taskId).map TaskRow.state = some .waitingApproval ∧
      ∃ row ∈ store.interactions.rows, row.taskId = taskId ∧ row.state = .pending
  | _ => False

instance (request : Request) (store : Store) : Decidable (Overtakes request store) := by
  unfold Overtakes
  split <;> infer_instance

section Runs

variable {codec : Codec} {store : Store} {permitted : Request → Store → Prop} {taskId : String}

theorem oneShot_of_reachable (run : ReachableWhen codec permitted store) {current : TaskView}
    (found : view store taskId = some current) : OneShot codec store current := by
  refine views_of_reachable (OneShot codec) ?_ ?_ ?_ run taskId current found
  · intro before after current retains oneShot
    refine ⟨oneShot.decided, oneShot.named, oneShot.responded, fun entry member response answer => ?_⟩
    obtain ⟨inTime, bytes, command, parsed, stored, rest⟩ := oneShot.consented entry member response answer
    exact ⟨inTime, bytes, command, parsed, retains.commands _ stored, rest⟩
  · intro store fresh submitted
    obtain ⟨now, events⟩ := submitted.event
    constructor
    case named => simp [events, decisions]
    all_goals simp [submitted.interactions]
  · intro request before after taskId current change next _ _ found oneShot step
    exact oneShot.step (rules_of_step (wellFormed found) step)

theorem sole_of_reachable (run : ReachableWhen codec (fun request store => ¬Overtakes request store) store)
    {current : TaskView} (found : view store taskId = some current) :
    ∃ derived, Control current derived ∧ Sole current derived := by
  refine views_of_reachable (fun _ current => ∃ derived, Control current derived ∧ Sole current derived) ?_ ?_ ?_ run
    taskId current found
  · exact fun _ => id
  · intro _ fresh submitted
    refine ⟨.queued, .submitted submitted, .of_none ?_⟩
    simp [pending, submitted.interactions]
  · rintro request before after taskId current change next permitted performs found ⟨derived, control, sole⟩ step
    have formed := wellFormed found
    refine ⟨change.derived derived, control.step formed step, sole.step control formed step ?_⟩
    rintro rfl
    by_contra waiting
    obtain ⟨_, _, _, _, _, _, rfl, new⟩ := performs.switched
    have state : current.row.state = .waitingApproval := by
      cases step with
      | switched source _ _ _ pair state =>
        rcases pair with ⟨_, target⟩ | ⟨rfl, _⟩
        · cases target
        · exact state
    obtain ⟨row, member⟩ := exists_mem_of_ne_nil _ waiting
    obtain ⟨pending, response, listed⟩ := (current.mem_pending row).mp member
    obtain ⟨stored, owner, _⟩ := (mem_interactions found _).mp listed
    exact permitted ⟨new, by simp [(view_eq_some found).1, state], row, stored, owner, pending⟩

/-- In a run without an overtaking reclaim every interaction is decided at most once and for good, by a decision that
is logged once; it has a response exactly when it was answered, in time and by a command that names it; a terminal
task has nothing pending, and no task ever has two pending interactions. -/
theorem interactions_one_shot (run : ReachableWhen codec (fun request store => ¬Overtakes request store) store) :
    (∀ row ∈ store.interactions.rows,
      (row.state ≠ .pending ↔ decisions (store.events.slice EventRow.taskId row.taskId) row.interactionId =
        [statusOf (row, store.responses.lookup row.interactionId)]) ∧
      (row.state = .pending → decisions (store.events.slice EventRow.taskId row.taskId) row.interactionId = []) ∧
      ((store.responses.lookup row.interactionId).isSome = true ↔ row.state = .answered) ∧
      (∀ response, store.responses.lookup row.interactionId = some response →
        response.committedAt < row.expiresAt ∧ Consented codec store row response) ∧
      ∀ task, store.tasks.lookup row.taskId = some task → task.state.isTerminal = true → row.state ≠ .pending) ∧
    (∀ taskId, (store.interactions.rows.filter fun row => row.taskId = taskId ∧ row.state = .pending).length ≤ 1) ∧
    ∀ last, Committed codec store last → ∀ row ∈ store.interactions.rows, row.state ≠ .pending →
      (∃ later ∈ last.interactions.rows, later.interactionId = row.interactionId ∧ later.state = row.state) ∨
        Gone last row.taskId := by
  have housed := (keyed_of_reachable run).housed
  have views : ∀ row ∈ store.interactions.rows, ∃ current, view store row.taskId = some current ∧
      (row, store.responses.lookup row.interactionId) ∈ current.interactions := by
    intro row member
    obtain ⟨current, found⟩ := housed.view_of_interaction ((store.interactions.lookup_eq_some _ _).mpr ⟨member, rfl⟩)
    exact ⟨current, found, (mem_interactions found _).mpr ⟨member, rfl, rfl⟩⟩
  refine ⟨fun row member => ?_, fun taskId => ?_, fun last later row member decided => ?_⟩
  · obtain ⟨current, found, listed⟩ := views row member
    have oneShot := oneShot_of_reachable run found
    have logged := oneShot.decided _ listed
    rw [(view_eq_some found).2.1] at logged
    refine ⟨?_, fun pending => ?_, oneShot.responded _ listed, oneShot.consented _ listed, ?_⟩
    · rw [logged, outcome]
      by_cases pending : row.state = .pending <;> simp [pending]
    · rw [logged, outcome, if_pos pending]
    · intro task stored terminal pending
      obtain ⟨derived, control⟩ := control_of_reachable run found
      obtain rfl : current.row = task := Option.some.inj ((view_eq_some found).1.symm.trans stored)
      have none := control.no_pending_of_not_interactive (Or.inl (not_interactive_of_terminal terminal))
      have waits := (current.mem_pending row).mpr ⟨pending, _, listed⟩
      simp [none] at waits
  · cases found : view store taskId with
    | none =>
      have vacant := housed taskId (by simpa [view] using found)
      have none : (store.interactions.rows.filter fun row => row.taskId = taskId ∧ row.state = .pending) = [] := by
        rw [filter_eq_nil_iff]
        intro row member
        simpa using fun owner => absurd owner (vacant.no_interaction member)
      rw [none]
      exact Nat.zero_le 1
    | some current =>
      obtain ⟨_, _, sole⟩ := sole_of_reachable run found
      have same : (store.interactions.rows.filter fun row => row.taskId = taskId ∧ row.state = .pending) =
          current.pending := by
        rw [pending, (view_eq_some found).2.2.2.1]
        simp [interactionsOf, Table.slice, Function.comp_def, filter_filter, Bool.and_comm]
      rw [same]
      exact sole.single
  · obtain ⟨current, found, listed⟩ := views row member
    have status := follow (DecidedAs row.interactionId row.state)
      (fun _ formed holds step => holds.step decided (rules_of_step formed step)) run.reachable later found
      ⟨_, listed, rfl, rfl⟩
    rcases status with ⟨next, laterFound, entry, laterListed, named, same⟩ | gone
    · exact Or.inl ⟨entry.1, ((mem_interactions laterFound entry).mp laterListed).1, named, same⟩
    · exact Or.inr gone

end Runs

/-- An approved interaction, followed by one that is still pending. -/
theorem interactions_one_shot_approved :
    ∃ store, ReachableWhen (Script.codec (Script.answers "t" "approve" ["a"]))
        (fun request store => ¬Overtakes request store) store ∧
      (store.interactions.rows.map fun row => (row.interactionId, row.state)) = [("a", .answered), ("b", .pending)] ∧
      (∀ row ∈ store.interactions.rows,
        (row.state ≠ .pending ↔ decisions (store.events.slice EventRow.taskId row.taskId) row.interactionId =
          [statusOf (row, store.responses.lookup row.interactionId)])) ∧
      ∀ taskId, (store.interactions.rows.filter fun row =>
        row.taskId = taskId ∧ row.state = .pending).length ≤ 1 := by
  obtain ⟨store, run, states⟩ : ∃ store, ReachableWhen (Script.codec (Script.answers "t" "approve" ["a"]))
      (fun request store => ¬Overtakes request store) store ∧
      (store.interactions.rows.map fun row => (row.interactionId, row.state)) = [("a", .answered), ("b", .pending)] :=
    exists_of_script [Script.submit "t" "k", Script.claim "t" 0, Script.opening "t" "a",
      .respondInteraction Script.ambient (Script.answer "a" .approve) 4, Script.reclaim "t", Script.opening "t" "b"]
      (by decide +kernel)
  obtain ⟨decided, single, _⟩ := interactions_one_shot run
  exact ⟨store, run, states, fun row member => (decided row member).1, single⟩

/-- A reclaim that comes after a second interaction was opened lets the task run, so that a third one can be opened
while the second is pending. -/
theorem overtaking_reclaim_two_pending :
    ∃ store, Reachable (Script.codec (Script.answers "t" "approve" ["a"])) store ∧
      (store.interactions.rows.filter fun row => row.taskId = "t" ∧ row.state = .pending).length = 2 :=
  exists_of_script [Script.submit "t" "k", Script.claim "t" 0, Script.opening "t" "a",
    .respondInteraction Script.ambient (Script.answer "a" .approve) 4, Script.opening "t" "b", Script.reclaim "t",
    Script.opening "t" "c"] (by decide +kernel)

end AgentMesh.Runs
