import AgentMesh.Daemon.Json

/-! Length-prefixed frames (`frame.rs`, `native-transport.ts`). The daemon reads exact lengths from a blocking stream;
the bridge takes whatever chunks its helper's output arrives in. -/
namespace AgentMesh.Protocol.Framing
open Daemon List

section Frames

inductive FrameError where
  | frameInvalid
  | frameTooLarge
  | connectionClosed
  deriving DecidableEq

def requestFrameLimit : Nat := 1024 * 1024

def responseFrameLimit : Nat := 8 * 1024 * 1024

/-- `u32::to_le_bytes` and `writeUInt32LE`. -/
def toLeBytes (length : Nat) : Bytes :=
  [UInt8.ofNat length, UInt8.ofNat (length / 256), UInt8.ofNat (length / 65536), UInt8.ofNat (length / 16777216)]

/-- `u32::from_le_bytes` and `readUInt32LE`. -/
def fromLeBytes (header : Bytes) : Nat := header.foldr (fun byte rest => byte.toNat + 256 * rest) 0

/-- `decode_frame_length` and `validateFrameLength`. -/
def decodeFrameLength (limit length : Nat) : Except FrameError Nat :=
  if length = 0 then .error .frameInvalid else if limit < length then .error .frameTooLarge else .ok length

/-- `encode_frame`. -/
def encodeFrame (limit : Nat) (payload : Bytes) : Except FrameError Bytes :=
  if payload = [] then .error .frameInvalid
  else if limit < payload.length ∨ 2 ^ 32 ≤ payload.length then .error .frameTooLarge
  else .ok (toLeBytes payload.length ++ payload)

/-- The bridge's `encodeFrame`, from the bytes that `JSON.stringify` gives. -/
def bridgeEncodeFrame (payload : Bytes) : Except FrameError Bytes :=
  if requestFrameLimit < payload.length then .error .frameTooLarge else .ok (toLeBytes payload.length ++ payload)

/-- `read_frame`: the payload buffer it allocates, if any, and the payload with the rest of the stream. -/
def readFrame (limit : Nat) (stream : Bytes) : Option Nat × Except FrameError (Bytes × Bytes) :=
  if stream.length < 4 then (none, .error .connectionClosed)
  else
    match decodeFrameLength limit (fromLeBytes (stream.take 4)) with
    | .error error => (none, .error error)
    | .ok length =>
      (some length, if stream.length < length + 4 then .error .connectionClosed
        else .ok ((stream.drop 4).take length, stream.drop (length + 4)))

/-- Repeated `read_frame` up to its first error: the payloads, and the buffers allocated for them. -/
def readFrames (limit : Nat) : Nat → Bytes → List Bytes × List Nat
  | 0, _ => ([], [])
  | reads + 1, stream =>
    match readFrame limit stream with
    | (allocated, .error _) => ([], allocated.toList)
    | (allocated, .ok (payload, rest)) =>
      (payload :: (readFrames limit reads rest).1, allocated.toList ++ (readFrames limit reads rest).2)

def frame (payload : Bytes) : Bytes := toLeBytes payload.length ++ payload

def Valid (limit : Nat) (payload : Bytes) : Prop := payload ≠ [] ∧ payload.length ≤ limit

/-- A frame that starts with a length of zero or beyond the limit. -/
def BadHeader (limit : Nat) (header : Bytes) : Prop :=
  header.length = 4 ∧ (fromLeBytes header = 0 ∨ limit < fromLeBytes header)

/-- The front of a frame whose length is allowed. -/
def Unfinished (limit : Nat) (bytes : Bytes) : Prop :=
  bytes.length < 4 ∨ ¬(fromLeBytes (bytes.take 4) = 0 ∨ limit < fromLeBytes (bytes.take 4)) ∧
    bytes.length < fromLeBytes (bytes.take 4) + 4

theorem fromLeBytes_toLeBytes {length : Nat} (small : length < 2 ^ 32) : fromLeBytes (toLeBytes length) = length := by
  simp only [fromLeBytes, toLeBytes, foldr_cons, foldr_nil, UInt8.toNat_ofNat']
  omega

variable {limit : Nat} {payload : Bytes} {payloads : List Bytes}

theorem length_of_frame (valid : Valid limit payload) (bounded : limit < 2 ^ 32) (rest : Bytes) :
    fromLeBytes ((frame payload ++ rest).take 4) = payload.length := by
  have header : (frame payload ++ rest).take 4 = toLeBytes payload.length := rfl
  rw [header, fromLeBytes_toLeBytes (by have := valid.2; omega)]

theorem decodeFrameLength_frame (valid : Valid limit payload) :
    decodeFrameLength limit payload.length = .ok payload.length := by
  have nonempty : payload.length ≠ 0 := fun empty => valid.1 (eq_nil_of_length_eq_zero empty)
  rw [decodeFrameLength, if_neg nonempty, if_neg (by have := valid.2; omega)]

theorem drop_frame (payload rest : Bytes) : (frame payload ++ rest).drop (payload.length + 4) = rest :=
  drop_left' (by simp [frame, toLeBytes])

theorem take_frame (payload rest : Bytes) : ((frame payload ++ rest).drop 4).take payload.length = payload :=
  take_left' rfl

theorem readFrame_frame (valid : Valid limit payload) (bounded : limit < 2 ^ 32) (rest : Bytes) :
    readFrame limit (frame payload ++ rest) = (some payload.length, .ok (payload, rest)) := by
  have long : ¬(frame payload ++ rest).length < 4 := by simp [frame, toLeBytes]
  have enough : ¬(frame payload ++ rest).length < payload.length + 4 := by simp [frame, toLeBytes]
  simp only [readFrame, if_neg long, length_of_frame valid bounded, decodeFrameLength_frame valid, if_neg enough,
    take_frame, drop_frame]

theorem readFrames_frames (valid : ∀ payload ∈ payloads, Valid limit payload) (bounded : limit < 2 ^ 32) (reads : Nat)
    (rest : Bytes) :
    readFrames limit (payloads.length + reads) (payloads.flatMap frame ++ rest) =
      (payloads ++ (readFrames limit reads rest).1, payloads.map length ++ (readFrames limit reads rest).2) := by
  induction payloads with
  | nil => simp
  | cons payload payloads ih =>
    obtain ⟨first, later⟩ := forall_mem_cons.mp valid
    rw [length_cons, Nat.succ_add, flatMap_cons, append_assoc, readFrames, readFrame_frame first bounded]
    dsimp only
    rw [ih later]
    rfl

theorem readFrame_bad {header : Bytes} (bad : BadHeader limit header) (rest : Bytes) :
    ∃ error, readFrame limit (header ++ rest) = (none, .error error) := by
  have long : ¬(header ++ rest).length < 4 := by simp [bad.1]
  have start : (header ++ rest).take 4 = header := take_left' bad.1
  rw [readFrame, if_neg long, start, decodeFrameLength]
  obtain zero | large := bad.2
  · rw [if_pos zero]
    exact ⟨_, rfl⟩
  · rw [if_neg (by omega), if_pos large]
    exact ⟨_, rfl⟩

theorem toLeBytes_fromLeBytes {header : Bytes} (four : header.length = 4) : toLeBytes (fromLeBytes header) = header := by
  obtain ⟨first, second, third, fourth, rfl⟩ := length_eq_four.mp four
  have bounds := And.intro (And.intro first.toNat_lt second.toNat_lt) (And.intro third.toNat_lt fourth.toNat_lt)
  simp only [toLeBytes, fromLeBytes, foldr_cons, foldr_nil, cons.injEq, and_true, ← UInt8.toNat_inj, UInt8.toNat_ofNat']
  omega

theorem buffer_cases (limit : Nat) (bytes : Bytes) :
    Unfinished limit bytes ∨ (∃ header rest, BadHeader limit header ∧ bytes = header ++ rest) ∨
      ∃ payload rest, Valid limit payload ∧ bytes = frame payload ++ rest := by
  by_cases short : bytes.length < 4
  · exact .inl (.inl short)
  have four : (bytes.take 4).length = 4 := length_take_of_le (by omega)
  by_cases bad : fromLeBytes (bytes.take 4) = 0 ∨ limit < fromLeBytes (bytes.take 4)
  · exact .inr (.inl ⟨_, _, ⟨four, bad⟩, (take_append_drop 4 bytes).symm⟩)
  by_cases part : bytes.length < fromLeBytes (bytes.take 4) + 4
  · exact .inl (.inr ⟨bad, part⟩)
  have length : ((bytes.drop 4).take (fromLeBytes (bytes.take 4))).length = fromLeBytes (bytes.take 4) := by
    rw [length_take, length_drop]
    omega
  refine .inr (.inr ⟨(bytes.drop 4).take (fromLeBytes (bytes.take 4)), (bytes.drop 4).drop (fromLeBytes (bytes.take 4)),
    ⟨fun empty => ?_, by omega⟩, ?_⟩)
  · rw [empty] at length
    exact bad (.inl length.symm)
  · rw [frame, length, toLeBytes_fromLeBytes four, append_assoc, take_append_drop, take_append_drop]

end Frames

section Chunks

/-- What the handling of a message depends on: `decodeWireFrame` on the payload, the pending request and
`unwrapRpcResponse` in one step that may throw, and the rejection of what is pending. -/
structure Requests (σ : Type) where
  settle : σ → Bytes → Option σ
  reject : σ → σ

/-- The state of the bridge for the current child. Nothing more is received once its output is destroyed. The payloads
handed to the message decoder are kept for the statements. -/
structure Transport (σ : Type) where
  generation : Nat
  destroyed : Bool
  buffered : Bytes
  pending : σ
  decoded : List Bytes

/-- The checks of `decodeWireFrame` on the bytes of one frame. -/
def wirePayload (limit : Nat) (bytes : Bytes) : Option Bytes :=
  if bytes.length < 4 then none
  else
    match decodeFrameLength limit (fromLeBytes (bytes.take 4)) with
    | .error _ => none
    | .ok length => if bytes.length = length + 4 then some (bytes.drop 4) else none

variable {σ : Type} (requests : Requests σ)

def failGeneration (bridge : Transport σ) : Transport σ :=
  { bridge with destroyed := true, buffered := [], pending := requests.reject bridge.pending }

/-- The loop of `receive`. -/
def drain (bridge : Transport σ) : Transport σ :=
  if bridge.buffered.length < 4 then bridge
  else
    let length := fromLeBytes (bridge.buffered.take 4)
    if length = 0 ∨ responseFrameLimit < length then failGeneration requests bridge
    else if bridge.buffered.length < length + 4 then bridge
    else
      let buffered := bridge.buffered.drop (length + 4)
      match wirePayload responseFrameLimit (bridge.buffered.take (length + 4)) with
      | none => failGeneration requests { bridge with buffered }
      | some payload =>
        match requests.settle bridge.pending payload with
        | none => failGeneration requests { bridge with buffered, decoded := bridge.decoded ++ [payload] }
        | some pending => drain { bridge with buffered, pending, decoded := bridge.decoded ++ [payload] }
termination_by bridge.buffered.length
decreasing_by simp; omega

def receive (generation : Nat) (chunk : Bytes) (bridge : Transport σ) : Transport σ :=
  if generation ≠ bridge.generation then bridge
  else drain requests { bridge with buffered := bridge.buffered ++ chunk }

/-- A `data` event of the child's output. -/
def data (bridge : Transport σ) (chunk : Bytes) : Transport σ :=
  if bridge.destroyed then bridge else receive requests bridge.generation chunk bridge

variable {requests} {bridge : Transport σ}

theorem drain_unfinished (unfinished : Unfinished responseFrameLimit bridge.buffered) :
    drain requests bridge = bridge := by
  rw [drain]
  split_ifs with short
  · rfl
  · obtain ⟨good, part⟩ := unfinished.resolve_left short
    dsimp only
    rw [if_neg good, if_pos part]

theorem drain_bad {header rest : Bytes} (bad : BadHeader responseFrameLimit header)
    (start : bridge.buffered = header ++ rest) : drain requests bridge = failGeneration requests bridge := by
  have long : ¬bridge.buffered.length < 4 := by simp [start, bad.1]
  have front : bridge.buffered.take 4 = header := start ▸ take_left' bad.1
  rw [drain, if_neg long]
  dsimp only
  rw [front, if_pos bad.2]

theorem drain_frame {payload : Bytes} (valid : Valid responseFrameLimit payload) (rest : Bytes) :
    drain requests { bridge with buffered := frame payload ++ rest } = (requests.settle bridge.pending payload).elim
        (failGeneration requests { bridge with decoded := bridge.decoded ++ [payload] })
        fun pending => drain requests { bridge with
          buffered := rest
          pending
          decoded := bridge.decoded ++ [payload] } := by
  have size : (frame payload).length = payload.length + 4 := by simp [frame, toLeBytes]
  have length := length_of_frame valid (by decide)
  have checked : decodeFrameLength responseFrameLimit payload.length = .ok payload.length := decodeFrameLength_frame valid
  have wire : wirePayload responseFrameLimit (frame payload) = some payload := by
    have alone := length []
    rw [append_nil] at alone
    rw [wirePayload, if_neg (by omega), alone, checked]
    exact if_pos size
  have good : ¬(payload.length = 0 ∨ responseFrameLimit < payload.length) := by
    have within := valid.2
    have nonempty := length_pos_iff.mpr valid.1
    omega
  rw [drain, if_neg (by simp; omega)]
  dsimp only
  rw [length, if_neg good, if_neg (by simp [size]), take_left' size, wire, drop_frame]
  dsimp only
  cases requests.settle bridge.pending payload <;> rfl

theorem data_drain (alive : bridge.destroyed = false) (chunk : Bytes) :
    data requests (drain requests bridge) chunk =
      drain requests { bridge with buffered := bridge.buffered ++ chunk } := by
  induction size : bridge.buffered.length using Nat.strongRecOn generalizing bridge with
  | ind size ih =>
    obtain unfinished | ⟨header, rest, bad, start⟩ | ⟨payload, rest, valid, start⟩ :=
      buffer_cases responseFrameLimit bridge.buffered
    · rw [drain_unfinished unfinished]
      simp [data, receive, alive]
    · rw [drain_bad bad start, drain_bad bad ((congrArg (· ++ chunk) start).trans (append_assoc ..))]
      rfl
    · have whole : bridge = { bridge with buffered := frame payload ++ rest } := by rw [← start]
      rw [start, append_assoc, drain_frame valid, whole, drain_frame valid]
      cases requests.settle bridge.pending payload with
      | none => rfl
      | some pending => exact ih _ (by simp [start, frame, toLeBytes] at size ⊢; omega) alive rfl

theorem foldl_data (alive : bridge.destroyed = false) (chunks : List Bytes) :
    chunks.foldl (data requests) (drain requests bridge) =
      drain requests { bridge with buffered := bridge.buffered ++ chunks.flatten } := by
  induction chunks generalizing bridge with
  | nil => simp
  | cons chunk chunks ih =>
    rw [foldl_cons, data_drain alive, @ih { bridge with buffered := bridge.buffered ++ chunk } alive,
      flatten_cons, append_assoc]

/-- Frames that are all accepted are handed over in order, and the bytes after them are looked at next. -/
theorem drain_frames {payloads : List Bytes} {last : σ} (rest : Bytes)
    (valid : ∀ payload ∈ payloads, Valid responseFrameLimit payload)
    (accepted : payloads.foldlM requests.settle bridge.pending = some last) :
    drain requests { bridge with buffered := payloads.flatMap frame ++ rest } =
      drain requests { bridge with buffered := rest, pending := last, decoded := bridge.decoded ++ payloads } := by
  induction payloads generalizing bridge with
  | nil =>
    obtain rfl := Option.some.inj accepted
    rw [append_nil]
    rfl
  | cons payload payloads ih =>
    obtain ⟨first, later⟩ := forall_mem_cons.mp valid
    rw [foldlM_cons] at accepted
    obtain ⟨middle, settled, accepted⟩ := Option.bind_eq_some_iff.mp accepted
    rw [flatMap_cons, append_assoc, drain_frame first, settled, Option.elim_some]
    refine (@ih ⟨bridge.generation, bridge.destroyed, rest, middle, bridge.decoded ++ [payload]⟩ later accepted).trans ?_
    rw [append_assoc]
    rfl

theorem decoded_drain_bad {payloads : List Bytes} {header : Bytes} (bad : BadHeader responseFrameLimit header)
    (rest : Bytes) (valid : ∀ payload ∈ payloads, Valid responseFrameLimit payload) :
    (drain requests { bridge with buffered := payloads.flatMap frame ++ (header ++ rest) }).decoded <+:
      bridge.decoded ++ payloads := by
  induction payloads generalizing bridge with
  | nil =>
    rw [drain_bad bad rfl, append_nil]
    exact prefix_rfl
  | cons payload payloads ih =>
    obtain ⟨first, later⟩ := forall_mem_cons.mp valid
    rw [flatMap_cons, append_assoc, drain_frame first, append_cons bridge.decoded payload payloads]
    cases requests.settle bridge.pending payload with
    | none => exact prefix_append _ _
    | some middle => exact @ih ⟨bridge.generation, bridge.destroyed, rest, middle, bridge.decoded ++ [payload]⟩ later

/-- What has arrived of some frames: the first of them, and the front of the next one. -/
theorem split_frames {payloads : List Bytes} {stream : Bytes}
    (valid : ∀ payload ∈ payloads, Valid responseFrameLimit payload) (arrived : stream <+: payloads.flatMap frame) :
    ∃ done rest tail, payloads = done ++ rest ∧ stream = done.flatMap frame ++ tail ∧ Unfinished responseFrameLimit tail ∧
      (rest = [] → tail = []) ∧ ∀ next ∈ rest.head?, tail <+: frame next ∧ tail ≠ frame next := by
  induction payloads generalizing stream with
  | nil =>
    obtain rfl := prefix_nil.mp arrived
    exact ⟨[], [], [], rfl, rfl, .inl (by decide), fun _ => rfl, by simp⟩
  | cons payload payloads ih =>
    obtain ⟨first, later⟩ := forall_mem_cons.mp valid
    rw [flatMap_cons] at arrived
    by_cases short : stream.length < (frame payload).length
    · have front := prefix_of_prefix_length_le arrived (prefix_append _ _) (Nat.le_of_lt short)
      refine ⟨[], payload :: payloads, stream, rfl, rfl, ?_, by simp, ?_⟩
      · by_cases header : stream.length < 4
        · exact .inl header
        · obtain ⟨missing, whole⟩ := front
          have length := length_of_frame first (by decide) []
          rw [append_nil, ← whole, take_append_of_le_length (by omega)] at length
          have nonempty : payload.length ≠ 0 := fun empty => first.1 (eq_nil_of_length_eq_zero empty)
          have within := first.2
          have size : (frame payload).length = payload.length + 4 := by simp [frame, toLeBytes]
          exact .inr (by omega)
      · rintro next ⟨⟩
        exact ⟨front, fun same => Nat.ne_of_lt short (congrArg length same)⟩
    · obtain ⟨after, rfl⟩ := prefix_of_prefix_length_le (prefix_append _ _) arrived (Nat.le_of_not_lt short)
      obtain ⟨done, rest, tail, rfl, rfl, unfinished⟩ := ih later ((prefix_append_right_inj _).mp arrived)
      exact ⟨payload :: done, rest, tail, rfl, by rw [flatMap_cons, append_assoc], unfinished⟩

/-- Frames are delivered whole and in order, however the helper's output is cut, and what the bridge writes is read back
frame by frame; a length of zero or beyond the limit ends both readers, without a buffer for its payload. -/
theorem framing_transparent (requests : Requests σ) (generation : Nat) (pending : σ) (payloads : List Bytes) :
    ((∀ payload ∈ payloads, Valid responseFrameLimit payload) →
      (∀ payload ∈ payloads, encodeFrame responseFrameLimit payload = .ok (frame payload)) ∧
      ∀ (chunks : List Bytes) last, chunks.flatten <+: payloads.flatMap frame →
        payloads.foldlM requests.settle pending = some last →
        ∃ done rest tail reached, payloads = done ++ rest ∧ chunks.flatten = done.flatMap frame ++ tail ∧
          (rest = [] → tail = []) ∧ (∀ next ∈ rest.head?, tail <+: frame next ∧ tail ≠ frame next) ∧
          done.foldlM requests.settle pending = some reached ∧
          chunks.foldl (data requests) ⟨generation, false, [], pending, []⟩ = ⟨generation, false, tail, reached, done⟩) ∧
    ((∀ payload ∈ payloads, Valid requestFrameLimit payload) →
      (∀ payload ∈ payloads, bridgeEncodeFrame payload = .ok (frame payload)) ∧
      ∀ further, readFrames requestFrameLimit (payloads.length + further) (payloads.flatMap frame) =
        (payloads, payloads.map length)) ∧
    (∀ header rest, (∀ payload ∈ payloads, Valid responseFrameLimit payload) → BadHeader responseFrameLimit header →
      ∀ chunks : List Bytes, chunks.flatten = payloads.flatMap frame ++ (header ++ rest) →
        (chunks.foldl (data requests) ⟨generation, false, [], pending, []⟩).decoded <+: payloads) ∧
    ∀ header rest, (∀ payload ∈ payloads, Valid requestFrameLimit payload) → BadHeader requestFrameLimit header →
      ∀ further, readFrames requestFrameLimit (payloads.length + further) (payloads.flatMap frame ++ (header ++ rest)) =
        (payloads, payloads.map length) := by
  have run : ∀ chunks : List Bytes, chunks.foldl (data requests) ⟨generation, false, [], pending, []⟩ =
      drain requests ⟨generation, false, chunks.flatten, pending, []⟩ := by
    intro chunks
    have same := @foldl_data σ requests ⟨generation, false, [], pending, []⟩ rfl chunks
    rwa [drain_unfinished (.inl (by simp))] at same
  refine ⟨fun valid => ⟨fun payload member => ?_, fun chunks last arrived accepted => ?_⟩,
    fun valid => ⟨fun payload member => ?_, fun further => ?_⟩, fun header rest valid bad chunks whole => ?_,
    fun header rest valid bad further => ?_⟩
  · have within : payload.length ≤ 8 * 1024 * 1024 := (valid payload member).2
    rw [encodeFrame, if_neg (valid payload member).1, if_neg (by unfold responseFrameLimit; omega)]
    rfl
  · obtain ⟨done, rest, tail, rfl, split, unfinished, ended, front⟩ := split_frames valid arrived
    rw [foldlM_append] at accepted
    obtain ⟨reached, first, -⟩ := Option.bind_eq_some_iff.mp accepted
    refine ⟨done, rest, tail, reached, rfl, split, ended, front, first, ?_⟩
    have taken := fun payload member => valid payload (mem_append_left rest member)
    rw [run, split]
    refine (@drain_frames σ requests ⟨generation, false, [], pending, []⟩ done reached tail taken first).trans ?_
    exact drain_unfinished unfinished
  · rw [bridgeEncodeFrame, if_neg (Nat.not_lt_of_le (valid payload member).2)]
    rfl
  · have all := readFrames_frames valid (by decide) further []
    have ended : readFrames requestFrameLimit further [] = ([], []) := by cases further <;> rfl
    simpa [ended] using all
  · rw [run, whole]
    exact @decoded_drain_bad σ requests ⟨generation, false, [], pending, []⟩ payloads header bad rest valid
  · have stops : readFrames requestFrameLimit further (header ++ rest) = ([], []) := by
      obtain ⟨error, refused⟩ := readFrame_bad bad rest
      cases further with
      | zero => rfl
      | succ further => rw [readFrames, refused]; rfl
    rw [readFrames_frames valid (by decide), stops, append_nil, append_nil]

/-- Two frames in three pieces, cut inside the first header and the second payload. -/
theorem framing_transparent_cut :
    [[1, 0], [0, 0, 7, 2], [0, 0, 0, 8]].foldl (data (⟨fun count _ => some (count + 1), id⟩ : Requests Nat))
      ⟨0, false, [], 0, []⟩ = ⟨0, false, [2, 0, 0, 0, 8], 1, [[7]]⟩ := by
  obtain ⟨_, delivered⟩ := (framing_transparent (⟨fun count _ => some (count + 1), id⟩ : Requests Nat) 0 0
    [[7], [8, 9]]).1 (by simp [Valid, responseFrameLimit])
  obtain ⟨done, rest, tail, reached, split, arrived, ended, front, settled, received⟩ :=
    delivered [[1, 0], [0, 0, 7, 2], [0, 0, 0, 8]] 2 (by decide) rfl
  rw [received]
  match done, rest, split with
  | [], [_, _], rfl =>
    have short := (front [7] rfl).1.length_le
    rw [← show [[1, 0], [0, 0, 7, 2], [0, 0, 0, 8]].flatten = tail from arrived] at short
    exact absurd short (by decide)
  | [_], [_], rfl =>
    obtain rfl : 1 = reached := Option.some.inj settled
    have rest : frame [7] ++ [2, 0, 0, 0, 8] = frame [7] ++ tail := arrived
    rw [← append_cancel_left rest]
  | [_, _], [], rfl =>
    rw [ended rfl] at arrived
    exact absurd (congrArg length arrived) (by decide)

end Chunks

end AgentMesh.Protocol.Framing
