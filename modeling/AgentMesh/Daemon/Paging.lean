import AgentMesh.Daemon.Reader

/-! Event pages of the reader (`load_event_page`). A page stops at its row limit, at its byte budget or at the end of the
log, and its cursor moves over the events it returns. -/
namespace AgentMesh.Daemon.Reader
open Library

variable (codec : Codec) (exposure : Exposure) (store : Store) (taskId : String)

def responseFrameLimit : Nat := 8 * 1024 * 1024

/-- What the public form of an event takes from elsewhere: the identifier its row was stored under, and the text that
`sanitize_raw` leaves of a text. -/
structure Exposure where
  eventId : String → Int → String
  sanitizeRaw : String → Json

structure PublicEvent where
  eventId : String
  taskId : String
  seq : Int
  generation : Int
  committedAtUs : Int
  value : Json

structure PublicEventPage where
  taskId : String
  requestedAfterSeq : Int
  events : List PublicEvent
  nextSeq : Int
  cursor : CursorBounds
  terminalResult : Option ResultRead

def freeTextField : String → Option String
  | "text_delta" => some "text"
  | "warning" => some "warning"
  | "protocol_error" => some "message"
  | _ => none

def replaceField (field : String) (replacement : Json) : Json → Json
  | .object fields => .object (fields.map fun entry => if entry.1 = field then (entry.1, replacement) else entry)
  | other => other

def redactEventFreeText (kind : String) (payload : Json) : Json :=
  match freeTextField kind with
  | none => payload
  | some field =>
    match payload.str? field with
    | none => payload
    | some text => replaceField field (exposure.sanitizeRaw text) payload

def publicEvent (row : EventRow) : Checked PublicEvent := do
  let eventId := exposure.eventId row.taskId row.eventSeq
  ensure (safeFrom 1 row.eventSeq ∧ safeFrom 0 row.generation)
    (drift ("event has invalid sequence or generation: " ++ eventId))
  let occurredAtMs ← usToMs row.committedAt
  let value : Json := .object [("version", .number 1), ("kind", .string "event"), ("event_id", .string eventId),
    ("task_id", .string row.taskId), ("seq", .number row.eventSeq), ("occurred_at_ms", .number occurredAtMs),
    ("event_type", .string row.kind), ("payload", redactEventFreeText exposure row.kind row.payload)]
  validate codec value "event"
  return { eventId, taskId := row.taskId, seq := row.eventSeq, generation := row.generation,
           committedAtUs := row.committedAt, value }

def validateEventPageRequest (afterSeq : Int) (limit maximumEncodedEventBytes : Nat) : Checked Unit :=
  ensure (safeFrom 0 afterSeq ∧ (1 ≤ limit ∧ limit ≤ 200) ∧ maximumEncodedEventBytes ≠ 0 ∧
    maximumEncodedEventBytes ≤ responseFrameLimit) StorageError.invalidRequest

/-- The rows of a task after a cursor, in order, up to a limit. -/
def eventRowsAfter (afterSeq : Int) (limit : Nat) : List EventRow :=
  (((store.events.slice EventRow.taskId taskId).filter fun row => afterSeq < row.eventSeq).insertionSort
    fun first second => first.eventSeq ≤ second.eventSeq).take limit

/-- A row that does not fit ends the page; the first row of a page has to fit. -/
def stopAtBudget (events : List PublicEvent) : Checked (List PublicEvent × Bool) :=
  if events.isEmpty then throw StorageError.outputLimitExceeded else return (events, true)

section Page

variable (codec : Codec) (exposure : Exposure) (afterSeq lastCommittedSeq : Int) (maximumEncodedEventBytes : Nat)

/-- The loop over the rows of a page: the events so far, whether the budget ended the page. -/
def collectEvents : List EventRow → List PublicEvent → Nat → Checked (List PublicEvent × Bool)
  | [], events, _ => return (events, false)
  | row :: rows, events, encodedBytes => do
    ensure (row.eventSeq = afterSeq + (events.length + 1) ∧ row.eventSeq ≤ lastCommittedSeq)
      (drift "event sequence is not a contiguous committed prefix")
    let payloadLength := (utf8 (codec.toText row.payload)).length
    ensure (payloadLength ≤ maxEventPayloadBytes) (drift "event payload is oversized")
    if maximumEncodedEventBytes < payloadLength then stopAtBudget events
    else
      let event ← publicEvent codec exposure row
      let additional := (utf8 (codec.toText event.value)).length + (!events.isEmpty).toNat
      if maximumEncodedEventBytes < encodedBytes + additional then stopAtBudget events
      else collectEvents rows (events ++ [event]) (encodedBytes + additional)

end Page

/-- The terminal result that a page embeds for a consumer. -/
def embeddedResult : Option String → Checked (Option ResultRead)
  | some consumer => loadResult codec store taskId consumer
  | none => pure none

def loadEventPage (afterSeq : Int) (limit maximumEncodedEventBytes : Nat) (consumerId : Option String) :
    Checked PublicEventPage := do
  let cursor ← loadCursor store taskId
  ensure (cursor.oldestAvailableSeq - 1 ≤ afterSeq)
    (StorageError.cursorExpired cursor.oldestAvailableSeq cursor.lastCommittedSeq)
  ensure (afterSeq ≤ cursor.lastCommittedSeq) StorageError.invalidRequest
  let (events, budgetStopped) ← collectEvents codec exposure afterSeq cursor.lastCommittedSeq maximumEncodedEventBytes
    (eventRowsAfter store taskId afterSeq limit) [] 0
  ensure (budgetStopped = true ∨ (events.length : Int) = min (cursor.lastCommittedSeq - afterSeq) limit)
    (drift "committed event page contains a missing row")
  let terminalResult ← embeddedResult codec store taskId consumerId
  return { taskId, requestedAfterSeq := afterSeq, events, nextSeq := (events.getLast?.map PublicEvent.seq).getD afterSeq,
           cursor, terminalResult }

/-- `public_events_after_bounded`, on the snapshot it reads. -/
def publicEventsAfterBounded (afterSeq : Int) (limit maximumEncodedEventBytes : Nat) (consumerId : Option String) :
    Checked PublicEventPage := do
  validateEventPageRequest afterSeq limit maximumEncodedEventBytes
  loadEventPage codec exposure store taskId afterSeq limit maximumEncodedEventBytes consumerId

end AgentMesh.Daemon.Reader
