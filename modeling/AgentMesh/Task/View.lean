import AgentMesh.Daemon.Writer

/-! The rows of one task, seen apart from the rest of the store. A transaction of the writer changes the view of
at most one task; `Moves` says which function of that view it applies. -/
namespace AgentMesh.Task
open Library Daemon

variable {before : Store} {taskId : String} {after first second third : Store}

/-- Everything the store holds about one task, the responses joined to their interactions. -/
@[ext]
structure TaskView where
  row : TaskRow
  events : List EventRow
  attempts : List AttemptRow
  interactions : List (InteractionRow × Option ResponseRow)
  results : List ResultRow
  outbox : List OutboxRow

namespace TaskView

def nextEvent (view : TaskView) (generation : Int) (kind : String) (payload : Json) (now : Int) : EventRow :=
  { taskId := view.row.taskId, eventSeq := view.row.lastEventSeq + 1, generation, kind, payload, committedAt := now }

def append (view : TaskView) (generation : Int) (kind : String) (payload : Json) (now : Int) : TaskView :=
  { view with
    row := { view.row with
      lastEventSeq := view.row.lastEventSeq + 1
      projectionEventSeq := view.row.lastEventSeq + 1 }
    events := view.events ++ [view.nextEvent generation kind payload now] }

def appendAll (view : TaskView) (generation : Int) (kind : String) (now : Int) : List Json → TaskView
  | [] => view
  | payload :: payloads => (view.append generation kind payload now).appendAll generation kind now payloads

def setRow (view : TaskView) (selects : TaskRow → Bool) (change : TaskRow → TaskRow) : TaskView :=
  { view with row := if selects view.row then change view.row else view.row }

def setAttempts (view : TaskView) (selects : AttemptRow → Bool) (change : AttemptRow → AttemptRow) : TaskView :=
  { view with attempts := updateWhere selects change view.attempts }

/-- Rewrite the selected interactions and keep the responses joined to them. -/
def setInteractions (view : TaskView) (selects : InteractionRow → Bool)
    (change : InteractionRow → InteractionRow) : TaskView :=
  { view with
    interactions := updateWhere (fun entry => selects entry.1) (fun entry => (change entry.1, entry.2))
      view.interactions }

end TaskView

def interactionsOf (store : Store) (taskId : String) : List (InteractionRow × Option ResponseRow) :=
  (store.interactions.slice InteractionRow.taskId taskId).map fun row =>
    (row, store.responses.lookup row.interactionId)

def view (store : Store) (taskId : String) : Option TaskView :=
  (store.tasks.lookup taskId).map fun row =>
    { row
      events := store.events.slice EventRow.taskId taskId
      attempts := store.attempts.slice AttemptRow.taskId taskId
      interactions := interactionsOf store taskId
      results := store.results.slice ResultRow.taskId taskId
      outbox := store.outbox.slice OutboxRow.taskId taskId }

/-- What the table keys guarantee about a view: its rows belong to the task, with one attempt per generation and
one entry per interaction. -/
structure TaskView.WellFormed (view : TaskView) : Prop where
  attempts : ∀ attempt ∈ view.attempts, attempt.taskId = view.row.taskId
  interactions : ∀ entry ∈ view.interactions, entry.1.taskId = view.row.taskId
  generations : (view.attempts.map AttemptRow.generation).Nodup
  interactionIds : (view.interactions.map fun entry => entry.1.interactionId).Nodup

/-- Two stores hold the same rows for one task. -/
structure SameAt (taskId : String) (before after : Store) : Prop where
  task : after.tasks.lookup taskId = before.tasks.lookup taskId
  events : after.events.slice EventRow.taskId taskId = before.events.slice EventRow.taskId taskId
  attempts : after.attempts.slice AttemptRow.taskId taskId = before.attempts.slice AttemptRow.taskId taskId
  interactions : interactionsOf after taskId = interactionsOf before taskId
  results : after.results.slice ResultRow.taskId taskId = before.results.slice ResultRow.taskId taskId
  outbox : after.outbox.slice OutboxRow.taskId taskId = before.outbox.slice OutboxRow.taskId taskId

/-- No row of the store belongs to the task. -/
structure Vacant (store : Store) (taskId : String) : Prop where
  task : store.tasks.lookup taskId = none
  events : store.events.slice EventRow.taskId taskId = []
  attempts : store.attempts.slice AttemptRow.taskId taskId = []
  interactions : interactionsOf store taskId = []
  results : store.results.slice ResultRow.taskId taskId = []
  outbox : store.outbox.slice OutboxRow.taskId taskId = []

/-- Every row of the store belongs to a task that exists. -/
def Housed (store : Store) : Prop := ∀ taskId, store.tasks.lookup taskId = none → Vacant store taskId

namespace SameAt

theorem refl (taskId : String) (store : Store) : SameAt taskId store store :=
  ⟨rfl, rfl, rfl, rfl, rfl, rfl⟩

theorem trans (left : SameAt taskId first second) (right : SameAt taskId second third) : SameAt taskId first third :=
  ⟨right.task.trans left.task, right.events.trans left.events, right.attempts.trans left.attempts,
    right.interactions.trans left.interactions, right.results.trans left.results, right.outbox.trans left.outbox⟩

section

variable (same : SameAt taskId before after)

include same

theorem view_eq : view after taskId = view before taskId := by
  simp only [view, same.task, same.events, same.attempts, same.interactions, same.results, same.outbox]

theorem vacant (vacant : Vacant before taskId) : Vacant after taskId :=
  ⟨same.task.trans vacant.task, same.events.trans vacant.events, same.attempts.trans vacant.attempts,
    same.interactions.trans vacant.interactions, same.results.trans vacant.results,
    same.outbox.trans vacant.outbox⟩

theorem attempt (generation : Int) :
    after.attempts.lookup (taskId, generation) = before.attempts.lookup (taskId, generation) := by
  ext attempt
  have member := congrArg (attempt ∈ ·) same.attempts
  simp only [Table.mem_slice, eq_iff_iff] at member
  simp only [Table.lookup_eq_some, Prod.mk.injEq]
  tauto

end

end SameAt

def Referenced (store : Store) : Prop :=
  ∀ response ∈ store.responses.rows, ∃ row ∈ store.interactions.rows, row.interactionId = response.interactionId

/-- What a piece of a transaction keeps across all tasks: the uniqueness of attempt and result identifiers, the
interactions behind the responses, and every committed command and tombstone. -/
structure Retains (before after : Store) : Prop where
  attemptIds : (before.attempts.rows.map AttemptRow.attemptId).Nodup →
    (after.attempts.rows.map AttemptRow.attemptId).Nodup
  resultIds : (before.results.rows.map ResultRow.resultId).Nodup → (after.results.rows.map ResultRow.resultId).Nodup
  responses : Referenced before → Referenced after
  commands : ∀ command ∈ before.commands.rows, command ∈ after.commands.rows
  tombstones : ∀ tombstone ∈ before.tombstones.rows, tombstone ∈ after.tombstones.rows

theorem Retains.refl (store : Store) : Retains store store :=
  ⟨id, id, id, fun _ => id, fun _ => id⟩

theorem Retains.trans (left : Retains first second) (right : Retains second third) : Retains first third :=
  ⟨fun unique => right.attemptIds (left.attemptIds unique), fun unique => right.resultIds (left.resultIds unique),
    fun referenced => right.responses (left.responses referenced),
    fun command member => right.commands command (left.commands command member),
    fun tombstone member => right.tombstones tombstone (left.tombstones tombstone member)⟩

/-- A later store has the operations, the commands and the epoch of an earlier one and every request and review. -/
structure SameBooks (before after : Store) : Prop where
  operations : after.operations = before.operations
  commands : after.commands = before.commands
  epoch : after.mutationEpoch = before.mutationEpoch
  requests : ∀ row ∈ before.taskRequests.rows, row ∈ after.taskRequests.rows
  reviews : ∀ row ∈ before.reviews.rows, row ∈ after.reviews.rows

theorem SameBooks.refl (store : Store) : SameBooks store store :=
  ⟨rfl, rfl, rfl, fun _ => id, fun _ => id⟩

theorem SameBooks.trans (left : SameBooks first second) (right : SameBooks second third) : SameBooks first third :=
  ⟨right.operations.trans left.operations, right.commands.trans left.commands, right.epoch.trans left.epoch,
    fun row member => right.requests row (left.requests row member),
    fun row member => right.reviews row (left.reviews row member)⟩

/-- A change of the store that leaves every other task alone and applies `change` to the view of one. -/
structure Moves (taskId : String) (before after : Store) (change : TaskView → TaskView) : Prop where
  frame : ∀ other, other ≠ taskId → SameAt other before after
  moved : ∀ current, view before taskId = some current → view after taskId = some (change current)
  retains : Retains before after
  tombstones : after.tombstones = before.tombstones
  books : SameBooks before after

namespace Moves

theorem refl (taskId : String) (store : Store) : Moves taskId store store id :=
  ⟨fun other _ => .refl other store, fun _ => id, .refl store, rfl, .refl store⟩

theorem trans {earlier later : TaskView → TaskView} (left : Moves taskId first second earlier)
    (right : Moves taskId second third later) : Moves taskId first third fun current => later (earlier current) :=
  ⟨fun other differs => (left.frame other differs).trans (right.frame other differs),
    fun current found => right.moved _ (left.moved current found), left.retains.trans right.retains,
    right.tombstones.trans left.tombstones, left.books.trans right.books⟩

end Moves

/-- A change of the store that leaves every task alone. -/
structure Untouched (before after : Store) : Prop where
  same : ∀ taskId, SameAt taskId before after
  retains : Retains before after
  tombstones : after.tombstones = before.tombstones

namespace Untouched

theorem refl (store : Store) : Untouched store store :=
  ⟨fun taskId => .refl taskId store, .refl store, rfl⟩

theorem trans (left : Untouched first second) (right : Untouched second third) : Untouched first third :=
  ⟨fun taskId => (left.same taskId).trans (right.same taskId), left.retains.trans right.retains,
    right.tombstones.trans left.tombstones⟩

end Untouched

end AgentMesh.Task
