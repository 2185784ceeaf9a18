import AgentMesh.Daemon.Json

/-! What the decoders of provider output keep of streamed text (`adapters/acp.rs`, `adapters/claude.rs`). Every line is
decoded on its own, and every text is trimmed. -/
namespace AgentMesh.Providers
open Daemon List

def isWhitespace (char : Char) : Bool :=
  (9 ≤ char.toNat && char.toNat ≤ 13) || (0x2000 ≤ char.toNat && char.toNat ≤ 0x200a) ||
    [0x20, 0x85, 0xa0, 0x1680, 0x2028, 0x2029, 0x202f, 0x205f, 0x3000].contains char.toNat

def trimmed (chars : List Char) : List Char := (chars.dropWhile isWhitespace).rdropWhile isWhitespace

def trim (text : String) : String := String.ofList (trimmed text.toList)

inductive NormalizedKind where
  | textDelta (text : String)
  | toolProposal (operationDigest interactionId : String)
  | warning (warning : String)
  | other

inductive FrameClassification where
  | skip
  | warning
  | events (kinds : List NormalizedKind)

/-- The parts of the two decoders that read no streamed text. -/
structure Rest where
  toolProposal : Json → Option NormalizedKind
  otherMethod : String → Json → FrameClassification
  reply : Json → FrameClassification
  toolUse : Json → List NormalizedKind
  otherEvent : Json → List NormalizedKind

/-- `nonempty_text` and the text of `text_from_content`. -/
def nonemptyText (value : Option Json) : Option String :=
  ((value.bind Json.asStr?).map trim).filter fun text => text ≠ ""

namespace Rest

variable (rest : Rest)

def classifyUpdate : Option Json → FrameClassification
  | none => .skip
  | some update =>
    match update.str? "sessionUpdate" with
    | some "agent_message_chunk" =>
      match nonemptyText ((update.get? "content").bind (·.get? "text")) with
      | some text => .events [.textDelta text]
      | none => .skip
    | some "tool_call" => (rest.toolProposal update).elim .skip fun kind => .events [kind]
    | some "plan" | some "available_commands_update" | some "tool_call_update" | some "agent_thought_chunk"
    | some "user_message_chunk" | some "session_info_update" => .skip
    | _ => .warning

def classifyFrame (frame : Json) : FrameClassification :=
  match frame.str? "method" with
  | some method =>
    if method = "session/update" then rest.classifyUpdate ((frame.get? "params").bind (·.get? "update"))
    else rest.otherMethod method frame
  | none =>
    if (frame.get? "result").isSome ∨ (frame.get? "error").isSome then rest.reply frame
    else (frame.get? "update").elim .warning fun update => rest.classifyUpdate (some update)

/-- `decode_acp_line` on the object of a line. -/
def decodeAcpLine (frame : Json) : List NormalizedKind :=
  match rest.classifyFrame frame with
  | .skip => []
  | .warning => [.warning "Adapter reported a deterministic warning."]
  | .events kinds => kinds

/-- `classify_stream_event`; the start of a tool is among the parts that read no text. -/
def classifyStreamEvent (event : Json) : List NormalizedKind :=
  match event.str? "type", event.get? "delta" with
  | some "content_block_delta", some delta =>
    match delta.str? "type" with
    | some "text_delta" => ((nonemptyText (delta.get? "text")).map .textDelta).toList
    | some "thinking_delta" =>
      ((nonemptyText (delta.get? "thinking")).map fun text => .warning ("thinking: " ++ text)).toList
    | _ => []
  | some "content_block_start", _ => rest.toolUse event
  | _, _ => []

/-- One block of `classify_assistant`. -/
def classifyBlock (block : Json) : List NormalizedKind :=
  match block.str? "type" with
  | some "text" => ((nonemptyText (block.get? "text")).map .textDelta).toList
  | some "thinking" => ((nonemptyText (block.get? "thinking")).map fun text => .warning ("thinking: " ++ text)).toList
  | some "tool_use" => rest.toolUse block
  | _ => []

def classifyClaudeEvent (value : Json) : List NormalizedKind :=
  match value.str? "type" with
  | some "assistant" =>
    match (value.get? "message").bind (·.get? "content") with
    | some (.array content) => content.flatMap rest.classifyBlock
    | _ => []
  | some "stream_event" => (value.get? "event").elim [] rest.classifyStreamEvent
  | _ => rest.otherEvent value

end Rest

def said (kinds : List NormalizedKind) : List Char :=
  kinds.flatMap fun
    | .textDelta text => text.toList
    | _ => []

/-- A line with a chunk of an agent's message, with or without the envelope of JSON-RPC. -/
structure AcpChunk where
  frame : Json
  update : Json
  text : String
  framed : frame.str? "method" = some "session/update" ∧
      (frame.get? "params").bind (·.get? "update") = some update ∨
    frame.str? "method" = none ∧ frame.get? "result" = none ∧ frame.get? "error" = none ∧
      frame.get? "update" = some update
  kind : update.str? "sessionUpdate" = some "agent_message_chunk"
  content : (update.get? "content").bind (·.get? "text") = some (.string text)

/-- A line with a text delta of a streamed block. -/
structure ClaudeChunk where
  line : Json
  event : Json
  delta : Json
  text : String
  kind : line.str? "type" = some "stream_event" ∧ line.get? "event" = some event
  changes : event.str? "type" = some "content_block_delta" ∧ event.get? "delta" = some delta
  adds : delta.str? "type" = some "text_delta" ∧ delta.get? "text" = some (.string text)

/-- A message: the chunks of each of its blocks, and the record that repeats the completed blocks. -/
structure ClaudeMessage where
  blocks : List (List ClaudeChunk)
  record : Json
  items : List Json
  kind : record.str? "type" = some "assistant"
  content : (record.get? "message").bind (·.get? "content") = some (.array items)
  repeats : List.Forall₂ (fun chunks item => item.str? "type" = some "text" ∧ ∃ text : String,
    item.get? "text" = some (.string text) ∧ text.toList = chunks.flatMap fun chunk => chunk.text.toList) blocks items

namespace ClaudeMessage

def chunks (message : ClaudeMessage) : List ClaudeChunk := message.blocks.flatten

def lines (message : ClaudeMessage) : List Json := message.chunks.map ClaudeChunk.line ++ [message.record]

end ClaudeMessage

section Trim

def ink (chars : List Char) : List Char := chars.filter fun char => !isWhitespace char

theorem ink_dropWhile (chars : List Char) : ink (chars.dropWhile isWhitespace) = ink chars := by
  induction chars with
  | nil => rfl
  | cons char chars ih =>
    by_cases space : isWhitespace char = true
    · simpa [ink, space] using ih
    · simp [space]

theorem ink_trimmed (chars : List Char) : ink (trimmed chars) = ink chars := by
  have reversed := ink_dropWhile (chars.dropWhile isWhitespace).reverse
  have front := ink_dropWhile chars
  unfold ink at reversed front ⊢
  rw [trimmed, rdropWhile, filter_reverse, reversed, filter_reverse, reverse_reverse, front]

theorem trimmed_sublist (chars : List Char) : (trimmed chars).Sublist chars :=
  (List.rdropWhile_prefix _ _).sublist.trans (dropWhile_sublist _)

theorem trimmed_of_blank {chars : List Char} (blank : ink chars = []) : trimmed chars = [] := by
  have spaces : chars.dropWhile isWhitespace = [] := by
    rw [dropWhile_eq_nil_iff]
    intro char member
    simpa using filter_eq_nil_iff.mp blank char member
  rw [trimmed, spaces]
  rfl

@[simp]
theorem toList_trim (text : String) : (trim text).toList = trimmed text.toList := String.toList_ofList

theorem said_append (first second : List NormalizedKind) : said (first ++ second) = said first ++ said second :=
  flatMap_append

theorem said_flatMap {α : Type} (entries : List α) (decode : α → List NormalizedKind) :
    said (entries.flatMap decode) = entries.flatMap fun entry => said (decode entry) :=
  flatMap_assoc

theorem said_nonemptyText (text : String) :
    said ((nonemptyText (some (.string text))).map NormalizedKind.textDelta).toList = (trim text).toList := by
  by_cases blank : trim text = ""
  · simp [nonemptyText, Json.asStr?, blank, said]
  · simp [nonemptyText, Json.asStr?, blank, said, Option.filter]

/-- When each part can only lose characters, nothing is lost of the whole exactly when nothing is lost of a part. -/
theorem flatMap_eq_iff {α : Type} {kept whole : α → List Char} (shorter : ∀ entry, (kept entry).Sublist (whole entry))
    (entries : List α) :
    entries.flatMap kept = entries.flatMap whole ↔ ∀ entry ∈ entries, kept entry = whole entry := by
  constructor
  · intro same
    induction entries with
    | nil => simp
    | cons entry entries ih =>
      rw [flatMap_cons, flatMap_cons] at same
      have total := congrArg length same
      have later : (entries.flatMap kept).length ≤ (entries.flatMap whole).length := by
        rw [length_flatMap, length_flatMap]
        exact sum_le_sum fun entry _ => (shorter entry).length_le
      have here := (shorter entry).length_le
      rw [length_append, length_append] at total
      obtain ⟨first, rest⟩ := append_inj same (by omega)
      exact forall_mem_cons.mpr ⟨first, ih rest⟩
  · intro each
    exact flatMap_congr each

end Trim

section Decoding

variable (rest : Rest)

theorem said_acp (chunk : AcpChunk) : said (rest.decodeAcpLine chunk.frame) = trimmed chunk.text.toList := by
  have update : rest.classifyFrame chunk.frame = rest.classifyUpdate (some chunk.update) := by
    obtain ⟨method, params⟩ | ⟨method, result, error, update⟩ := chunk.framed
    · simp [Rest.classifyFrame, method, params]
    · simp [Rest.classifyFrame, method, result, error, update]
  have text := said_nonemptyText chunk.text
  rw [toList_trim] at text
  simp only [Rest.decodeAcpLine, update, Rest.classifyUpdate, chunk.kind, chunk.content]
  cases found : nonemptyText (some (.string chunk.text)) <;> simpa [found] using text

theorem said_claude (chunk : ClaudeChunk) : said (rest.classifyClaudeEvent chunk.line) = trimmed chunk.text.toList := by
  rw [← toList_trim, ← said_nonemptyText]
  simp only [Rest.classifyClaudeEvent, chunk.kind, Option.elim_some, Rest.classifyStreamEvent, chunk.changes, chunk.adds]

theorem said_lines (message : ClaudeMessage) : said (message.lines.flatMap rest.classifyClaudeEvent) =
    (message.chunks.flatMap fun chunk => trimmed chunk.text.toList) ++ said (rest.classifyClaudeEvent message.record) := by
  simp only [ClaudeMessage.lines, flatMap_append, said_append, said_flatMap, flatMap_map, said_claude,
    flatMap_singleton]

theorem said_record (message : ClaudeMessage) : said (rest.classifyClaudeEvent message.record) =
    message.blocks.flatMap fun chunks => trimmed (chunks.flatMap fun chunk => chunk.text.toList) := by
  simp only [Rest.classifyClaudeEvent, message.kind, message.content, said_flatMap]
  have repeats := message.repeats
  generalize message.blocks = blocks at repeats ⊢
  generalize message.items = items at repeats ⊢
  induction repeats with
  | nil => rfl
  | cons item _ ih =>
    obtain ⟨kind, text, stored, joined⟩ := item
    rw [flatMap_cons, flatMap_cons, ih, ← joined, ← toList_trim, ← said_nonemptyText]
    simp only [Rest.classifyBlock, kind, stored]

def ClaudeMessage.text (message : ClaudeMessage) : List Char :=
  message.blocks.flatMap fun chunks => chunks.flatMap fun chunk => chunk.text.toList

theorem flatMap_chunks (message : ClaudeMessage) (part : ClaudeChunk → List Char) :
    message.chunks.flatMap part = message.blocks.flatMap fun chunks => chunks.flatMap part := by
  rw [ClaudeMessage.chunks, ← flatMap_id, flatMap_assoc]
  rfl

theorem ink_flatMap {α : Type} (entries : List α) (part : α → List Char) :
    ink (entries.flatMap part) = entries.flatMap fun entry => ink (part entry) := filter_flatMap

theorem ink_lines (message : ClaudeMessage) :
    ink (said (message.lines.flatMap rest.classifyClaudeEvent)) = ink message.text ++ ink message.text := by
  rw [said_lines, said_record, flatMap_chunks, ink, filter_append, ← ink, ← ink, ClaudeMessage.text]
  simp only [ink_flatMap, ink_trimmed]

theorem said_of_blank {message : ClaudeMessage} (blank : ink message.text = []) :
    said (message.lines.flatMap rest.classifyClaudeEvent) = [] := by
  rw [ClaudeMessage.text, ink_flatMap, flatMap_eq_nil_iff] at blank
  rw [said_lines, said_record, flatMap_chunks, append_eq_nil_iff, flatMap_eq_nil_iff, flatMap_eq_nil_iff]
  refine ⟨fun chunks member => ?_, fun chunks member => trimmed_of_blank (blank chunks member)⟩
  have each := blank chunks member
  rw [ink_flatMap, flatMap_eq_nil_iff] at each
  exact flatMap_eq_nil_iff.mpr fun chunk inside => trimmed_of_blank (each chunk inside)

/-- The text of an ACP message is kept exactly when no chunk begins or ends with white space. The text of a Claude
message is kept only when there is none, since the record at its end says it again. -/
theorem provider_text_lossless_iff :
    (∀ chunks : List AcpChunk,
      said (chunks.flatMap fun chunk => rest.decodeAcpLine chunk.frame) = (chunks.flatMap fun chunk => chunk.text.toList) ↔
        ∀ chunk ∈ chunks, trim chunk.text = chunk.text) ∧
      ∀ message : ClaudeMessage,
        said (message.lines.flatMap rest.classifyClaudeEvent) =
            (message.chunks.flatMap fun chunk => chunk.text.toList) ↔ ∀ chunk ∈ message.chunks, chunk.text = "" := by
  constructor
  · intro chunks
    have decoded : (fun chunk : AcpChunk => said (rest.decodeAcpLine chunk.frame)) = fun chunk =>
        trimmed chunk.text.toList := funext (said_acp rest)
    rw [said_flatMap, decoded, flatMap_eq_iff fun chunk : AcpChunk => trimmed_sublist chunk.text.toList]
    refine forall₂_congr fun chunk _ => ?_
    rw [← toList_trim, String.toList_inj]
  · intro message
    have texts := flatMap_chunks message fun chunk => chunk.text.toList
    have empty : message.text = [] ↔ ∀ chunk ∈ message.chunks, chunk.text = "" := by
      rw [ClaudeMessage.text, ← texts, flatMap_eq_nil_iff]
      exact forall₂_congr fun chunk _ => String.toList_eq_nil_iff
    rw [texts, ← ClaudeMessage.text, ← empty]
    constructor
    · intro same
      have twice := congrArg length (ink_lines rest message)
      rw [same, length_append] at twice
      have blank : ink message.text = [] := eq_nil_of_length_eq_zero (by omega)
      rw [← same, said_of_blank rest blank]
    · intro none
      rw [said_of_blank rest (by rw [none]; rfl), none]

end Decoding

def acpChunk (text : String) : AcpChunk where
  frame := .object [("method", .string "session/update"), ("params", .object [("update", .object
    [("sessionUpdate", .string "agent_message_chunk"), ("content", .object [("text", .string text)])])])]
  update := .object [("sessionUpdate", .string "agent_message_chunk"), ("content", .object [("text", .string text)])]
  text
  framed := .inl ⟨rfl, rfl⟩
  kind := rfl
  content := rfl

def claudeChunk (text : String) : ClaudeChunk where
  line := .object [("type", .string "stream_event"), ("event", .object [("type", .string "content_block_delta"),
    ("delta", .object [("type", .string "text_delta"), ("text", .string text)])])]
  event := .object [("type", .string "content_block_delta"),
    ("delta", .object [("type", .string "text_delta"), ("text", .string text)])]
  delta := .object [("type", .string "text_delta"), ("text", .string text)]
  text
  kind := ⟨rfl, rfl⟩
  changes := ⟨rfl, rfl⟩
  adds := ⟨rfl, rfl⟩

def claudeMessage (text : String) : ClaudeMessage where
  blocks := [[claudeChunk text]]
  record := .object [("type", .string "assistant"), ("message", .object [("content", .array
    [.object [("type", .string "text"), ("text", .string text)]])])]
  items := [.object [("type", .string "text"), ("text", .string text)]]
  kind := rfl
  content := rfl
  repeats := .cons ⟨rfl, text, rfl, (append_nil _).symm⟩ .nil

/-- The space between two chunks is lost, and a word that was streamed is said twice. -/
theorem provider_text_altered :
    (∀ rest : Rest, said ([acpChunk "a", acpChunk " b"].flatMap fun chunk => rest.decodeAcpLine chunk.frame) =
      ['a', 'b']) ∧
      ∀ rest : Rest, said ((claudeMessage "a").lines.flatMap rest.classifyClaudeEvent) = ['a', 'a'] := by
  constructor
  · intro rest
    rw [said_flatMap, flatMap_congr fun chunk _ => said_acp rest chunk]
    decide
  · intro rest
    rw [said_lines, said_record]
    decide

end AgentMesh.Providers
