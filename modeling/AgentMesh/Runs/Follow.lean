import AgentMesh.Runs.Paging

/-! The follow console (`follow.rs`). It reads the next events, and then, from another snapshot, whether the task has
ended; it leaves when the first read was empty and the second says so. -/
namespace AgentMesh.Runs.Follow
open Library Daemon Reader

section Model

/-- The order of `task_summaries`: newest first. -/
def newestFirst (first second : TaskRow) : Prop :=
  second.createdAt < first.createdAt ∨ second.createdAt = first.createdAt ∧ second.taskId ≤ first.taskId

instance (first second : TaskRow) : Decidable (newestFirst first second) := by
  unfold newestFirst
  infer_instance

/-- `task_summaries`, on the snapshot it reads. -/
def taskSummaries (store : Store) (limit : Nat) : Checked (List TaskRow) := do
  ensure (1 ≤ limit ∧ limit ≤ 200) StorageError.invalidRequest
  ((store.tasks.rows.insertionSort newestFirst).take limit).mapM fun row => do
    ensure (safeFrom 0 row.generation ∧ safeFrom 0 row.lastEventSeq) (drift "task summary has invalid counters")
    let _ ← usToMs row.createdAt
    let _ ← usToMs row.updatedAt
    return row

inductive FollowError where
  | notFound
  | storage

inductive FollowReadClass where
  | transient
  | missing
  | permanent

def classifyFollowStorage : StorageError → FollowReadClass
  | .queryDeadline | .readerSaturated => .transient
  | .invalidRequest => .missing
  | _ => .permanent

/-- Where the loop is: before its first read, before its second one, or at its end. -/
inductive Phase where
  | events
  | terminal (idle : Bool)
  | returned (answer : Except FollowError Unit)

/-- The cursor and the events of the reading are the loop's `after_seq` and what it handed to the renderer. -/
structure Console where
  reading : Reading
  phase : Phase

namespace Console

/-- What an error of a read leads to; `again` is the phase after a pause. -/
def failed (console : Console) (again : Phase) (error : StorageError) : Console :=
  match classifyFollowStorage error with
  | .transient => { console with phase := again }
  | .missing => { console with phase := .returned (.error .notFound) }
  | .permanent => { console with phase := .returned (.error .storage) }

/-- The loop after the answer to its first read. -/
def afterEvents (console : Console) : Checked PublicEventPage → Console
  | .error error => console.failed .events error
  | .ok page =>
    { reading := { console.reading with
        cursor := (page.events.getLast?.map PublicEvent.seq).getD console.reading.cursor
        events := console.reading.events ++ page.events }
      phase := .terminal page.events.isEmpty }

/-- The loop after the answer to its second read. -/
def afterTerminal (console : Console) (idle : Bool) : Checked Bool → Console
  | .error error => console.failed .events error
  | .ok terminal => { console with phase := if terminal && idle then .returned (.ok ()) else .events }

end Console

variable (codec : Codec) (exposure : Exposure) (taskId consumerId : String)

/-- `ReaderFollow::events`. -/
def feedEvents (store : Store) (afterSeq : Int) : Checked PublicEventPage :=
  publicEventsAfterBounded codec exposure store taskId afterSeq 50 (responseFrameLimit - 64 * 1024) (some consumerId)

/-- `ReaderFollow::terminal`. -/
def feedTerminal (store : Store) : Checked Bool := do
  let tasks ← taskSummaries store 200
  return (tasks.find? fun task => task.taskId = taskId).any fun task => task.state.isTerminal

/-- A read may also fail for a moment. -/
def Answers {α : Type} (read answer : Checked α) : Prop :=
  answer = read ∨ answer = .error .queryDeadline ∨ answer = .error .readerSaturated

/-- A commit of the writer while the loop is at work. -/
inductive Passes (console : Console) : Console → Prop
  | commits (after : Store) : (∀ answer, console.phase ≠ .returned answer) →
      Commits codec (fun _ _ => True) console.reading.store after →
      Passes console { console with reading := { console.reading with
        store := after
        log := committedLog after taskId console.reading.log } }

/-- The loop has read an empty page at `idle`, and since then only the writer has been at work. -/
structure Pauses (idle late : Console) : Prop where
  phase : idle.phase = .events
  empty : ∃ page, feedEvents codec exposure taskId consumerId idle.reading.store idle.reading.cursor = .ok page ∧
    page.events = []
  between : Relation.ReflTransGen (Passes codec taskId) { idle with phase := .terminal true } late

/-- One iteration of the loop on a store that stays as it is. -/
def iteration (console : Console) : Console :=
  match console.phase with
  | .events =>
    let read := console.afterEvents
      (feedEvents codec exposure taskId consumerId console.reading.store console.reading.cursor)
    match read.phase with
    | .terminal idle => read.afterTerminal idle (feedTerminal taskId read.reading.store)
    | _ => read
  | _ => console

end Model

section Listing

variable {store : Store} {taskId : String} {task : TaskRow}

instance : Std.Total newestFirst where
  total first second := by
    unfold newestFirst
    rcases lt_trichotomy first.createdAt second.createdAt with older | same | newer
    · exact .inr (.inl older)
    · exact (le_total second.taskId first.taskId).imp (fun low => .inr ⟨same.symm, low⟩) fun low => .inr ⟨same, low⟩
    · exact .inl (.inl newer)

instance : IsTrans TaskRow newestFirst where
  trans first second third := by
    rintro (newer | ⟨same, low⟩) (newer' | ⟨same', low'⟩)
    · exact .inl (newer'.trans newer)
    · exact .inl (same' ▸ newer)
    · exact .inl (same ▸ newer')
    · exact .inr ⟨same'.trans same, low'.trans low⟩

end Listing

section Shown

variable {codec : Codec} {exposure : Exposure} {taskId consumerId : String} {console next : Console}

theorem Pauses.grown {idle late : Console} (pauses : Pauses codec exposure taskId consumerId idle late)
    (follows : Follows codec exposure taskId idle.reading) :
    Follows codec exposure taskId late.reading ∧ late.reading.start = idle.reading.start ∧
      late.reading.cursor = idle.reading.cursor ∧ idle.reading.log <+: late.reading.log := by
  have between := pauses.between
  clear pauses
  induction between with
  | refl => exact ⟨follows, rfl, rfl, List.prefix_refl _⟩
  | tail _ passes ih =>
    obtain ⟨after, live, commits⟩ := passes
    obtain ⟨follows, start, cursor, grown⟩ := ih
    have ⟨request, admissible, _, committed⟩ := commits
    obtain ⟨_, _, more⟩ := follows.tracked.commit follows.consecutive follows.reachable admissible committed
    exact ⟨follows.commit commits, start, cursor, grown.trans more⟩

end Shown

section Return

variable {codec : Codec} {exposure : Exposure} {taskId consumerId : String} {store : Store} {log : List EventRow}
  {listed : Bool} {console : Console}

variable (tracked : Tracked store taskId log) (consecutive : Consecutive 0 (log.map EventRow.eventSeq))
  (readable : ∀ cursor : Int, 0 ≤ cursor → cursor ≤ log.length →
    ∃ page, feedEvents codec exposure taskId consumerId store cursor = .ok page)
  (answered : feedTerminal taskId store = .ok listed)
include tracked consecutive readable answered

end Return

end AgentMesh.Runs.Follow
