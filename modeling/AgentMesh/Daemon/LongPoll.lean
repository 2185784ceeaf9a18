import AgentMesh.Daemon.Paging

/-! The long poll of `wait_task` (`router.rs`). Every iteration reads the clock several times, against the deadline of
the request and against the end of the wait. -/
namespace AgentMesh.Daemon.LongPoll
open Reader

variable {count : Nat} {last : Option PublicEventPage} {initial : Bool} {next : Option PublicEventPage} {turn : Turn}

inductive WaitUntil where
  | events
  | attention
  deriving DecidableEq

inductive WaitError where
  | deadline
  | storage (error : StorageError)

/-- What one iteration meets: the clock before the read, the answer of the read, the clock after a failed one, the
snapshot if it can be read, the clock at the check of the wait, before the pause and after it. -/
structure Turn where
  started : Int
  read : Checked PublicEventPage
  refused : Int
  snapshot : Option Reader.TaskSnapshot
  checked : Int
  asked : Int
  woke : Int

def snapshotNeedsAttention (snapshot : Reader.TaskSnapshot) : Bool :=
  snapshot.interaction.isSome || snapshot.result.isSome || (snapshot.task.value.str? "state").any fun state =>
    ["WAITING_APPROVAL", "NEEDS_ATTENTION", "SUCCEEDED", "FAILED", "CANCELLED"].contains state

def waitReady (page : PublicEventPage) (snapshot : Option Reader.TaskSnapshot) (wanted : WaitUntil) (waitMs : Nat) : Bool :=
  waitMs = 0 || page.terminalResult.isSome ||
    match wanted with
    | .events => !page.events.isEmpty
    | .attention => snapshot.any snapshotNeedsAttention

/-- The clock counts nanoseconds. -/
def millisecond : Int := 1000000

structure Wait where
  deadline : Int
  waitDeadline : Int
  wanted : WaitUntil
  waitMs : Nat

/-- The loop goes on with the last page, or has ended. -/
inductive Progress where
  | running (last : Option PublicEventPage)
  | done (answer : Except WaitError PublicEventPage)

namespace Wait

variable (wait : Wait)

def pollDeadline : Int := min wait.deadline wait.waitDeadline

def ready (turn : Turn) (page : PublicEventPage) : Bool :=
  waitReady page (if wait.wanted = .attention ∧ wait.waitMs ≠ 0 then turn.snapshot else none) wait.wanted wait.waitMs

def readDeadline (initial : Bool) : Int := if initial then wait.deadline else wait.pollDeadline

/-- What follows a read that gave a page. -/
def judge (turn : Turn) (page : PublicEventPage) : Progress :=
  if wait.ready turn page = true ∨ wait.pollDeadline ≤ turn.checked then .done (.ok page)
  else if wait.pollDeadline < turn.asked then .done (.error .deadline)
  else if wait.pollDeadline - turn.woke ≤ millisecond then .done (.ok page)
  else .running (some page)

/-- One iteration of the loop of `wait_task`. -/
def iteration (initial : Bool) (last : Option PublicEventPage) (turn : Turn) : Progress :=
  if wait.readDeadline initial < turn.started then .done (last.elim (.error .deadline) .ok)
  else
    match turn.read with
    | .error error =>
      .done (if error = .queryDeadline ∧ wait.pollDeadline ≤ turn.refused then
          last.elim (.error (.storage error)) .ok
        else .error (.storage error))
    | .ok page => wait.judge turn page

/-- The loop after a number of iterations. -/
def after (turns : Nat → Turn) : Nat → Progress
  | 0 => .running none
  | count + 1 =>
    match after turns count with
    | .running last => wait.iteration (count = 0) last (turns count)
    | .done answer => .done answer

/-- The clock passes the end of the wait between the check and the next look at it, or a later read fails for another
reason than the end of the wait. -/
def Slips (turn : Turn) : Prop :=
  match turn.read with
  | .error error => ¬(error = .queryDeadline ∧ wait.pollDeadline ≤ turn.refused)
  | .ok page => ¬(wait.ready turn page = true ∨ wait.pollDeadline ≤ turn.checked) ∧ wait.pollDeadline < turn.asked

/-- The loop goes on after the turn: its read starts in time and gives a page that is not ready, and more than a
millisecond of the wait is left. -/
def GoesOn (initial : Bool) (turn : Turn) : Prop :=
  turn.started ≤ wait.readDeadline initial ∧ ∃ page, turn.read = .ok page ∧ wait.ready turn page = false ∧
    turn.checked < wait.pollDeadline ∧ turn.asked ≤ wait.pollDeadline ∧ millisecond < wait.pollDeadline - turn.woke

end Wait

/-- The clock never goes back, and a pause takes at least the time asked for. -/
structure Clocked (wait : Wait) (turns : Nat → Turn) : Prop where
  checked : ∀ index, (turns index).started ≤ (turns index).checked
  asked : ∀ index, (turns index).checked ≤ (turns index).asked
  slept : ∀ index, (turns index).asked + min (wait.pollDeadline - (turns index).asked) (10 * millisecond) ≤
    (turns index).woke
  next : ∀ index, (turns index).woke ≤ (turns (index + 1)).started

variable {wait : Wait} {turns : Nat → Turn}

theorem iteration_running (goes : wait.iteration initial last turn = .running next) :
    wait.GoesOn initial turn ∧ ∃ page, next = some page ∧ turn.read = .ok page := by
  unfold Wait.iteration at goes
  split at goes
  · cases goes
  · rename_i timely
    split at goes
    · cases goes
    · rename_i page read
      unfold Wait.judge at goes
      split_ifs at goes with ended
      rw [not_or, Bool.not_eq_true, not_le] at ended
      exact ⟨⟨not_lt.mp timely, page, read, ended.1, ended.2, by omega, by omega⟩, page,
        (Progress.running.inj goes).symm, read⟩

theorem iteration_of_goesOn (goes : wait.GoesOn initial turn) :
    ∃ next, wait.iteration initial last turn = .running next := by
  obtain ⟨timely, page, read, unready, checked, asked, left⟩ := goes
  refine ⟨some page, ?_⟩
  simp [Wait.iteration, not_lt.mpr timely, read, Wait.judge, unready, not_le.mpr checked, not_lt.mpr asked]
  omega

/-- An iteration that has a page to return, or whose read gives one, fails exactly if it slips. -/
theorem iteration_fails_iff
    (holds : last.isSome = true ∨ turn.started ≤ wait.readDeadline initial ∧ ∃ page, turn.read = .ok page) :
    (∃ error, wait.iteration initial last turn = .done (.error error)) ↔
      turn.started ≤ wait.readDeadline initial ∧ wait.Slips turn := by
  by_cases late : wait.readDeadline initial < turn.started
  · obtain ⟨page, rfl⟩ := Option.isSome_iff_exists.mp (holds.resolve_right fun timely => by omega)
    simp [Wait.iteration, late]
  · have timely : turn.started ≤ wait.readDeadline initial := by omega
    cases read : turn.read with
    | ok page =>
      simp only [Wait.iteration, late, if_false, read, Wait.judge, Wait.Slips, timely, true_and]
      split_ifs <;> simp_all
    | error error =>
      obtain ⟨page, rfl⟩ := Option.isSome_iff_exists.mp (holds.resolve_right (by simp [read]))
      simp only [Wait.iteration, late, if_false, read, Wait.Slips, timely, true_and]
      split_ifs <;> simp_all

/-- An iteration that returns a page returns the one it read or the last one. -/
theorem iteration_done_ok {page : PublicEventPage} (done : wait.iteration initial last turn = .done (.ok page)) :
    last = some page ∨ turn.read = .ok page := by
  unfold Wait.iteration at done
  split at done
  · cases last <;> simp_all
  · split at done
    · split_ifs at done <;> cases last <;> simp_all
    · unfold Wait.judge at done
      split_ifs at done <;> simp_all

theorem after_succ_running (goes : wait.after turns (count + 1) = .running next) :
    ∃ last, wait.after turns count = .running last ∧
      wait.iteration (count = 0) last (turns count) = .running next := by
  rw [Wait.after] at goes
  cases earlier : wait.after turns count with
  | done answer => simp [earlier] at goes
  | running last => exact ⟨last, rfl, by simpa [earlier] using goes⟩

theorem running_iff : (∃ last, wait.after turns count = .running last) ↔
    ∀ earlier < count, wait.GoesOn (earlier = 0) (turns earlier) := by
  induction count with
  | zero => exact iff_of_true ⟨none, rfl⟩ (by simp)
  | succ count ih =>
    constructor
    · rintro ⟨next, goes⟩ earlier below
      obtain ⟨last, before, goes⟩ := after_succ_running goes
      rcases Nat.lt_succ_iff_lt_or_eq.mp below with sooner | rfl
      · exact ih.mp ⟨last, before⟩ earlier sooner
      · exact (iteration_running goes).1
    · intro all
      obtain ⟨last, before⟩ := ih.mpr fun earlier below => all earlier (Nat.lt_succ_of_lt below)
      obtain ⟨next, goes⟩ := iteration_of_goesOn (all count (Nat.lt_succ_self count))
      exact ⟨next, by rw [Wait.after, before]; exact goes⟩

/-- A page that the loop carries was read in the iteration before. -/
theorem page_of_running (goes : wait.after turns count = .running last) :
    (count = 0 ∧ last = none) ∨ ∃ page index, last = some page ∧ index < count ∧ (turns index).read = .ok page := by
  cases count with
  | zero => exact .inl ⟨rfl, (Progress.running.inj goes).symm⟩
  | succ count =>
    obtain ⟨_, _, goes⟩ := after_succ_running goes
    obtain ⟨_, page, rfl, read⟩ := iteration_running goes
    exact .inr ⟨page, count, rfl, Nat.lt_succ_self count, read⟩

/-- Every iteration that goes on takes ten milliseconds of the wait. -/
theorem started_le (clocked : Clocked wait turns) (goes : wait.after turns count = .running last) :
    (turns 0).started + count * (10 * millisecond) ≤ (turns count).started := by
  induction count generalizing last with
  | zero => simp
  | succ count ih =>
    obtain ⟨_, before, goes⟩ := after_succ_running goes
    obtain ⟨⟨_, _, _, _, _, asked, left⟩, _⟩ := iteration_running goes
    have earlier := ih before
    have first := clocked.checked count
    have second := clocked.asked count
    have third := clocked.slept count
    have fourth := clocked.next count
    unfold millisecond at *
    push_cast
    omega

theorem exists_done (clocked : Clocked wait turns) : ∃ count answer, wait.after turns count = .done answer := by
  by_contra never
  have goes : ∀ count, ∃ last, wait.after turns count = .running last := by
    intro count
    cases now : wait.after turns count with
    | running last => exact ⟨last, rfl⟩
    | done answer => exact absurd ⟨count, answer, now⟩ never
  obtain ⟨count, enough⟩ : ∃ count : Nat, wait.pollDeadline - (turns 0).started < count :=
    ⟨(wait.pollDeadline - (turns 0).started).toNat + 1, by omega⟩
  obtain ⟨_, next⟩ := goes (count + 1)
  obtain ⟨_, running, next⟩ := after_succ_running next
  obtain ⟨⟨_, _, _, _, _, asked, _⟩, _⟩ := iteration_running next
  have far := started_le clocked running
  have first := clocked.checked count
  have second := clocked.asked count
  unfold millisecond at far
  omega

/-- The loop goes on after every earlier turn, and the read of this one is not given up before it starts. -/
def Reads (wait : Wait) (turns : Nat → Turn) (index : Nat) : Prop :=
  (∀ earlier < index, wait.GoesOn (earlier = 0) (turns earlier)) ∧
    (turns index).started ≤ wait.readDeadline (index = 0)

/-- The wait ends; it ends at the first page that is ready; and it gives a page that it read exactly if no iteration
slips. -/
theorem wait_keeps_page_iff (wait : Wait) (turns : Nat → Turn) (clocked : Clocked wait turns)
    (timely : (turns 0).started ≤ wait.deadline) (first : ∃ page, (turns 0).read = .ok page) :
    (∃ count answer, wait.after turns count = .done answer) ∧
    (∀ index page, Reads wait turns index → (turns index).read = .ok page → wait.ready (turns index) page = true →
      wait.after turns (index + 1) = .done (.ok page)) ∧
    ((∀ count answer, wait.after turns count = .done answer →
        ∃ page, answer = .ok page ∧ ∃ index < count, (turns index).read = .ok page) ↔
      ∀ index, Reads wait turns index → ¬wait.Slips (turns index)) := by
  have holds : ∀ {count last}, wait.after turns count = .running last → last.isSome = true ∨
      (turns count).started ≤ wait.readDeadline (count = 0) ∧ ∃ page, (turns count).read = .ok page := by
    intro count last goes
    obtain ⟨rfl, rfl⟩ | ⟨page, _, rfl, _⟩ := page_of_running goes
    · exact .inr ⟨timely, first⟩
    · exact .inl rfl
  refine ⟨exists_done clocked, ?_, ?_, ?_⟩
  · rintro index page ⟨before, started⟩ read ready
    obtain ⟨last, goes⟩ := running_iff.mpr before
    simp [Wait.after, goes, Wait.iteration, Int.not_lt.mpr started, read, Wait.judge, ready]
  · rintro kept index ⟨before, started⟩ slips
    obtain ⟨last, goes⟩ := running_iff.mpr before
    obtain ⟨error, failed⟩ := (iteration_fails_iff (holds goes)).mpr ⟨started, slips⟩
    obtain ⟨page, same, _⟩ := kept (index + 1) (.error error) (by simp only [Wait.after, goes, failed])
    cases same
  · intro steady count
    induction count with
    | zero => exact fun answer done => nomatch done
    | succ count ih =>
      intro answer done
      cases earlier : wait.after turns count with
      | done before =>
        simp only [Wait.after, earlier, Progress.done.injEq] at done
        obtain ⟨page, same, index, below, read⟩ := ih before earlier
        exact ⟨page, done ▸ same, index, Nat.lt_succ_of_lt below, read⟩
      | running last =>
        simp only [Wait.after, earlier] at done
        cases answer with
        | error error =>
          obtain ⟨started, slips⟩ := (iteration_fails_iff (holds earlier)).mp ⟨error, done⟩
          exact absurd slips (steady count ⟨running_iff.mp ⟨last, earlier⟩, started⟩)
        | ok page =>
          refine ⟨page, rfl, ?_⟩
          obtain rfl | read := iteration_done_ok done
          · obtain ⟨_, nothing⟩ | ⟨_, index, same, below, read⟩ := page_of_running earlier
            · cases nothing
            · cases same
              exact ⟨index, Nat.lt_succ_of_lt below, read⟩
          · exact ⟨count, Nat.lt_succ_self count, read⟩

/-- Reads that find nothing, and a clock that is twenty milliseconds later in every iteration. -/
def quietTurns (index : Nat) : Turn where
  started := 20 * millisecond * index
  read := .ok ⟨"t", 0, [], 0, ⟨1, 0⟩, none⟩
  refused := 20 * millisecond * index
  snapshot := none
  checked := 20 * millisecond * index
  asked := 20 * millisecond * index + 6
  woke := 20 * millisecond * index + 20 * millisecond

theorem clocked_quietTurns (wait : Wait) : Clocked wait quietTurns where
  checked _ := le_rfl
  asked _ := by simp [quietTurns]
  slept index := by
    simp only [quietTurns, millisecond]
    omega
  next index := by
    simp only [quietTurns, millisecond]
    push_cast
    omega

theorem wait_keeps_page_iff_quiet :
    ∃ count answer, Wait.after ⟨50 * millisecond, 45 * millisecond, .events, 45⟩ quietTurns count = .done answer :=
  (wait_keeps_page_iff _ quietTurns (clocked_quietTurns _) (by decide) ⟨_, rfl⟩).1

/-- The wait ends between two looks at the clock: the page that was read is lost. -/
theorem page_lost_at_deadline :
    Clocked ⟨50 * millisecond, 5, .events, 1⟩ quietTurns ∧ (∀ index, ∃ page, (quietTurns index).read = .ok page) ∧
      Wait.after ⟨50 * millisecond, 5, .events, 1⟩ quietTurns 1 = .done (.error .deadline) :=
  ⟨clocked_quietTurns _, fun _ => ⟨_, rfl⟩, rfl⟩

end AgentMesh.Daemon.LongPoll
