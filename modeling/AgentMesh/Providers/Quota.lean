import AgentMesh.Daemon.Json

/-! The spool quota of one attempt (`process.rs`): drain threads share a counter of 64 bits and a flag. A chunk is added
to the counter before it is known how much of it fits, and what does not fit is taken off later. -/
namespace AgentMesh.Providers.Quota
open Daemon Relation Function Finset List

def spoolReadBufferBytes : Nat := 8192

/-- What `apply_quota` accepts of a chunk, given the counter before its `fetch_add`. -/
def accept (limit previous incoming : Nat) : Nat :=
  if previous ≥ limit then 0
  else
    let remaining := limit - previous
    if incoming > remaining then remaining else incoming

theorem accept_eq (limit previous incoming : Nat) : accept limit previous incoming = min incoming (limit - previous) := by
  unfold accept
  dsimp only
  split
  · omega
  · split <;> omega

/-- Where a drain thread is between two operations on the shared counters, with the chunk in hand and the number of its
bytes that were accepted. -/
inductive Phase where
  | reading
  /-- About to set the flag. -/
  | storing (chunk : Bytes) (accepted : Nat)
  /-- About to take the excess off the counter. -/
  | correcting (chunk : Bytes) (accepted : Nat)
  /-- About to write what was accepted and to look at the flag. -/
  | checking (chunk : Bytes) (accepted : Nat)
  | stopped

structure Drain where
  phase : Phase
  /-- All bytes read so far. -/
  stream : Bytes
  /-- The spool file. -/
  file : Bytes

namespace Drain

def initial : Drain := ⟨.reading, [], []⟩

def read (drain : Drain) : Nat := drain.stream.length

/-- The bytes written and those accepted of the chunk in hand. -/
def accepted (drain : Drain) : Nat :=
  drain.file.length + match drain.phase with
    | .storing _ accepted | .correcting _ accepted | .checking _ accepted => accepted
    | _ => 0

/-- The bytes that the counter holds although they were not accepted. -/
def excess (drain : Drain) : Nat :=
  match drain.phase with
  | .storing chunk accepted | .correcting chunk accepted => chunk.length - accepted
  | _ => 0

/-- Everything read was accepted, but for a part of the last chunk. -/
def Kept (drain : Drain) : Prop :=
  match drain.phase with
  | .reading => drain.file = drain.stream
  | .storing chunk accepted | .correcting chunk accepted =>
    drain.stream = drain.file ++ chunk ∧ accepted < chunk.length ∧ chunk.length ≤ spoolReadBufferBytes
  | .checking chunk accepted => drain.stream = drain.file ++ chunk ∧ accepted ≤ chunk.length
  | .stopped => drain.file <+: drain.stream

theorem Kept.bounds {drain : Drain} (kept : drain.Kept) :
    drain.accepted + drain.excess ≤ drain.read ∧ drain.excess ≤ spoolReadBufferBytes := by
  obtain ⟨phase, stream, file⟩ := drain
  cases phase <;> simp only [Kept, accepted, excess, read] at kept ⊢
  case reading => simp [kept]
  case stopped => exact ⟨kept.length_le, Nat.zero_le _⟩
  case checking chunk accepted =>
    rw [kept.1, length_append]
    omega
  case storing chunk accepted | correcting chunk accepted =>
    rw [kept.1, length_append]
    omega

theorem Kept.isPrefix {drain : Drain} (kept : drain.Kept) : drain.file <+: drain.stream := by
  obtain ⟨phase, stream, file⟩ := drain
  cases phase <;> simp only [Kept] at kept ⊢
  case reading => rw [kept]
  case stopped => exact kept
  case checking | storing | correcting => exact kept.1 ▸ prefix_append ..

end Drain

/-- One operation of a thread on the counter and the flag. It sees the flag that it has set itself; one set by another
thread may be seen later. -/
inductive Turn (limit written : Nat) (exceeded : Bool) : Drain → Nat → Bool → Drain → Prop where
  | add {stream file chunk : Bytes} (filled : 0 < chunk.length) (fits : chunk.length ≤ spoolReadBufferBytes) :
    Turn limit written exceeded ⟨.reading, stream, file⟩ ((written + chunk.length) % 2 ^ 64) exceeded
      ⟨if accept limit written chunk.length < chunk.length then .storing chunk (accept limit written chunk.length)
        else .checking chunk (accept limit written chunk.length), stream ++ chunk, file⟩
  | store {stream file chunk : Bytes} {accepted : Nat} :
    Turn limit written exceeded ⟨.storing chunk accepted, stream, file⟩ written true
      ⟨.correcting chunk accepted, stream, file⟩
  | sub {stream file chunk : Bytes} {accepted : Nat} :
    Turn limit written exceeded ⟨.correcting chunk accepted, stream, file⟩
      ((written + 2 ^ 64 - (chunk.length - accepted)) % 2 ^ 64) exceeded ⟨.checking chunk accepted, stream, file⟩
  | resume {stream file chunk : Bytes} {accepted : Nat} (unset : accepted = chunk.length) :
    Turn limit written exceeded ⟨.checking chunk accepted, stream, file⟩ written exceeded
      ⟨.reading, stream, file ++ chunk.take accepted⟩
  | stop {stream file chunk : Bytes} {accepted : Nat} (seen : exceeded = true) :
    Turn limit written exceeded ⟨.checking chunk accepted, stream, file⟩ written exceeded
      ⟨.stopped, stream, file ++ chunk.take accepted⟩
  | close {stream file : Bytes} :
    Turn limit written exceeded ⟨.reading, stream, file⟩ written exceeded ⟨.stopped, stream, file⟩

structure Shared (ι : Type) where
  written : Nat
  exceeded : Bool
  drains : ι → Drain

variable {ι : Type}

def Shared.initial : Shared ι := ⟨0, false, fun _ => .initial⟩

variable [DecidableEq ι] {limit : Nat}

inductive Step (limit : Nat) (shared : Shared ι) : Shared ι → Prop where
  | turn (index : ι) {written : Nat} {exceeded : Bool} {drain : Drain}
    (turn : Turn limit shared.written shared.exceeded (shared.drains index) written exceeded drain) :
    Step limit shared ⟨written, exceeded, update shared.drains index drain⟩

variable [Fintype ι]

def Shared.total (shared : Shared ι) (measure : Drain → Nat) : Nat := ∑ index, measure (shared.drains index)

theorem total_update (measure : Drain → Nat) (drains : ι → Drain) (index : ι) (drain : Drain) :
    ∑ other, measure (update drains index drain other) + measure (drains index) =
      ∑ other, measure (drains other) + measure drain := by
  rw [← sum_erase_add _ _ (mem_univ index),
    ← sum_erase_add univ (fun other => measure (drains other)) (mem_univ index), update_self,
    sum_congr rfl fun other member => by rw [update_of_ne (ne_of_mem_erase member)]]
  omega

/-- The counter is what was accepted and what is still to be taken off. -/
structure Exact (limit : Nat) (shared : Shared ι) : Prop where
  kept : ∀ index, (shared.drains index).Kept
  counter : shared.written = shared.total Drain.accepted + shared.total Drain.excess
  balanced : shared.total Drain.accepted = min limit (shared.total Drain.read)
  flagged : ∀ index, (shared.drains index).accepted < (shared.drains index).read →
    shared.exceeded = true ∨ ∃ chunk accepted, (shared.drains index).phase = .storing chunk accepted
  honest : shared.exceeded = true → shared.total Drain.accepted < shared.total Drain.read

open Drain

omit [DecidableEq ι] in
theorem Exact.initial : Exact limit (Shared.initial : Shared ι) := by
  constructor <;> simp [Shared.initial, Shared.total, Drain.initial, Drain.Kept, Drain.accepted, Drain.excess, Drain.read]

omit [DecidableEq ι] in
theorem excess_le {shared : Shared ι} (kept : ∀ index, (shared.drains index).Kept) :
    shared.total accepted + shared.total excess ≤ shared.total read ∧
      shared.total excess ≤ Fintype.card ι * spoolReadBufferBytes := by
  constructor
  · unfold Shared.total
    rw [← sum_add_distrib]
    exact sum_le_sum fun index _ => (kept index).bounds.1
  · have bound := sum_le_card_nsmul univ (fun index => (shared.drains index).excess) spoolReadBufferBytes
      fun index _ => (kept index).bounds.2
    rwa [smul_eq_mul, card_univ] at bound

section Turns

variable {written after : Nat} {exceeded flag : Bool} {drain next : Drain}
  (turn : Turn limit written exceeded drain after flag next) (kept : drain.Kept)

include turn kept

theorem Turn.keeps : next.Kept := by
  cases turn with
  | @add stream file chunk filled fits =>
    have bound := accept_eq limit written chunk.length
    obtain rfl : file = stream := kept
    split <;> simp only [Kept, true_and] <;> omega
  | store => exact kept
  | sub => exact ⟨kept.1, kept.2.1.le⟩
  | resume unset =>
    rw [unset, take_length]
    exact kept.1.symm
  | @stop stream file chunk accepted =>
    obtain ⟨rfl, -⟩ : stream = file ++ chunk ∧ _ := kept
    exact (prefix_append_right_inj file).mpr (List.take_prefix ..)
  | @close stream file =>
    obtain rfl : file = stream := kept
    exact prefix_rfl

/-- What a turn does to the numbers: a chunk is added, or the counter goes back by what was to be taken off. -/
theorem Turn.effect :
    (∃ size, 0 < size ∧ next.read = drain.read + size ∧ next.accepted = drain.accepted + min size (limit - written) ∧
      next.excess + min size (limit - written) = drain.excess + size ∧ after = (written + size) % 2 ^ 64 ∧
      flag = exceeded) ∨
    next.read = drain.read ∧ next.accepted = drain.accepted ∧ (flag = exceeded ∨ flag = true ∧ 0 < drain.excess) ∧
      ∃ size, drain.excess = next.excess + size ∧ (written < 2 ^ 64 → after = (written + 2 ^ 64 - size) % 2 ^ 64) := by
  cases turn with
  | @add stream file chunk filled fits =>
    refine .inl ⟨chunk.length, filled, length_append, ?_, ?_, rfl, rfl⟩
    · rw [accept_eq]
      split <;> rfl
    · rw [accept_eq]
      split <;> simp only [excess] <;> omega
  | @store stream file chunk accepted =>
    refine .inr ⟨rfl, rfl, .inr ⟨rfl, ?_⟩, 0, rfl, by omega⟩
    exact Nat.sub_pos_of_lt kept.2.1
  | sub => exact .inr ⟨rfl, rfl, .inl rfl, _, (Nat.zero_add _).symm, fun _ => rfl⟩
  | @resume stream file chunk accepted unset =>
    refine .inr ⟨rfl, ?_, .inl rfl, 0, rfl, by omega⟩
    simp only [Drain.accepted, length_append, length_take]
    omega
  | @stop stream file chunk accepted =>
    obtain ⟨-, short⟩ : stream = file ++ chunk ∧ accepted ≤ chunk.length := kept
    refine .inr ⟨rfl, ?_, .inl rfl, 0, rfl, by omega⟩
    simp only [Drain.accepted, length_append, length_take]
    omega
  | close => exact .inr ⟨rfl, rfl, .inl rfl, 0, rfl, by omega⟩

/-- A thread that has not accepted everything has set the flag or is about to. -/
theorem Turn.flagged
    (flagged : drain.accepted < drain.read → exceeded = true ∨ ∃ chunk accepted, drain.phase = .storing chunk accepted)
    (short : next.accepted < next.read) : flag = true ∨ ∃ chunk accepted, next.phase = .storing chunk accepted := by
  have moved := turn.effect kept
  cases turn with
  | @add stream file chunk filled fits =>
    obtain rfl : file = stream := kept
    split
    case isTrue => exact .inr ⟨_, _, rfl⟩
    case isFalse all =>
      simp only [Drain.accepted, Drain.read, if_neg all, length_append] at short
      omega
  | store => exact .inl rfl
  | sub | resume | stop | close =>
    simp only [Drain.read, Drain.excess] at moved short flagged
    obtain ⟨_, some, more, _⟩ | ⟨same, takes, -⟩ := moved
    · omega
    · exact .inl ((flagged (by omega)).resolve_right (by simp))

end Turns

theorem Exact.step {shared next : Shared ι} (small : limit + Fintype.card ι * spoolReadBufferBytes < 2 ^ 64)
    (exact : Exact limit shared) (step : Step limit shared next) : Exact limit next := by
  obtain ⟨kept, counter, balanced, flagged, honest⟩ := exact
  cases step with
  | turn index turn =>
    rename_i written exceeded drain
    have keeps : ∀ other, (update shared.drains index drain other).Kept := by
      intro other
      obtain rfl | different := eq_or_ne other index
      · rw [update_self]
        exact turn.keeps (kept other)
      · rw [update_of_ne different]
        exact kept other
    have accepted := total_update accepted shared.drains index drain
    have excess := total_update excess shared.drains index drain
    have read := total_update read shared.drains index drain
    obtain ⟨within, bound⟩ := excess_le kept
    obtain ⟨withins, bounds⟩ := @excess_le ι _ ⟨written, exceeded, update shared.drains index drain⟩ keeps
    have effect := turn.effect (kept index)
    have raised : shared.exceeded = true → exceeded = true := by grind
    have flags : ∀ other,
        (update shared.drains index drain other).accepted < (update shared.drains index drain other).read →
        exceeded = true ∨ ∃ chunk accepted, (update shared.drains index drain other).phase = .storing chunk accepted := by
      intro other
      obtain rfl | different := eq_or_ne other index
      · rw [update_self]
        exact turn.flagged (kept other) (flagged other)
      · rw [update_of_ne different]
        exact fun short => (flagged other short).imp_left raised
    simp only [Shared.total] at *
    obtain ⟨size, filled, more, takes, leaves, adds, same⟩ | ⟨same, takes, flag, size, leaves, goes⟩ := effect
    · refine ⟨keeps, ?_, ?_, flags, fun set => ?_⟩ <;> simp only [Shared.total]
      · omega
      · omega
      · have := honest (same ▸ set)
        omega
    · refine ⟨keeps, ?_, ?_, flags, fun set => ?_⟩ <;> simp only [Shared.total]
      · omega
      · omega
      · obtain same | ⟨-, leftover⟩ := flag
        · have := honest (same ▸ set)
          omega
        · have := single_le_sum (f := fun other => (shared.drains other).excess) (fun _ _ => Nat.zero_le _)
            (mem_univ index)
          omega

theorem exact_of_run {shared : Shared ι} (small : limit + Fintype.card ι * spoolReadBufferBytes < 2 ^ 64)
    (run : ReflTransGen (Step limit) .initial shared) : Exact limit shared := by
  induction run with
  | refl => exact .initial
  | tail _ step exact => exact exact.step small step

/-- The counter never wraps around and every spool file is a prefix of its stream; when all threads have stopped, what
was accepted is the smaller of the limit and of what was read, and the flag tells which. -/
theorem quota_exact {shared : Shared ι} (small : limit + Fintype.card ι * spoolReadBufferBytes < 2 ^ 64)
    (run : ReflTransGen (Step limit) .initial shared) :
    shared.written = shared.total Drain.accepted + shared.total Drain.excess ∧ shared.written < 2 ^ 64 ∧
      (∀ index, (shared.drains index).file <+: (shared.drains index).stream) ∧
      ((∀ index, (shared.drains index).phase = .stopped) →
        shared.total (·.file.length) = min limit (shared.total Drain.read) ∧
        (shared.exceeded = true ↔ limit < shared.total Drain.read) ∧
        shared.written = shared.total (·.file.length)) := by
  obtain ⟨kept, counter, balanced, flagged, honest⟩ := exact_of_run small run
  obtain ⟨within, bound⟩ := excess_le kept
  refine ⟨counter, by omega, fun index => (kept index).isPrefix, fun stopped => ?_⟩
  have files : shared.total Drain.accepted = shared.total (·.file.length) :=
    Finset.sum_congr rfl fun index _ => by rw [Drain.accepted, stopped index]; rfl
  have none : shared.total Drain.excess = 0 :=
    Finset.sum_eq_zero fun index _ => by rw [Drain.excess, stopped index]
  refine ⟨by omega, ⟨fun set => ?_, fun more => ?_⟩, by omega⟩
  · have := honest set
    omega
  · have short : shared.total Drain.accepted < shared.total Drain.read := by omega
    obtain ⟨index, -, short⟩ := Finset.exists_lt_of_sum_lt short
    refine (flagged index short).resolve_right ?_
    simp [stopped index]

theorem quota_exact_cut : ∃ shared : Shared Unit, shared.total Drain.read = 2 ∧ shared.exceeded = true ∧
    shared.total (·.file.length) = min 1 (shared.total Drain.read) := by
  have run : ReflTransGen (Step 1) (Shared.initial : Shared Unit) _ :=
    (((ReflTransGen.refl.tail (.turn () (@Turn.add 1 0 false [] [] [0, 0] (by decide) (by decide)))).tail
      (.turn () .store)).tail (.turn () .sub)).tail (.turn () (.stop rfl))
  exact ⟨_, rfl, rfl, ((quota_exact (by decide) run).2.2.2 fun _ => rfl).1⟩

theorem joined {shared : Shared ι} {index : ι} (idle : shared.drains index = .initial)
    (run : ReflTransGen (Step 1) .initial shared) : ∃ next : Shared ι, ReflTransGen (Step 1) .initial next ∧
      next.written = (shared.written + spoolReadBufferBytes) % 2 ^ 64 ∧
      (∀ other ≠ index, next.drains other = shared.drains other) ∧
      next.total accepted = shared.total accepted + min spoolReadBufferBytes (1 - shared.written) := by
  obtain ⟨drain, accepted, turn⟩ : ∃ drain : Drain, drain.accepted = min spoolReadBufferBytes (1 - shared.written) ∧
      Turn 1 shared.written shared.exceeded .initial ((shared.written + spoolReadBufferBytes) % 2 ^ 64)
        shared.exceeded drain := by
    have length := @List.length_replicate UInt8 spoolReadBufferBytes 0
    have turn := @Turn.add 1 shared.written shared.exceeded [] [] (replicate spoolReadBufferBytes 0)
      (by rw [length]; decide) length.le
    rw [length, accept_eq] at turn
    refine ⟨_, ?_, turn⟩
    split <;> simp [accepted]
  have taken := total_update Drain.accepted shared.drains index drain
  refine ⟨_, run.tail (.turn index (idle ▸ turn)), rfl, fun other different => update_of_ne different .., ?_⟩
  rw [idle, show initial.accepted = 0 from rfl] at taken
  rwa [← accepted]

/-- Each of the threads has added a full chunk, and none has taken its excess off yet. -/
theorem flooded (members : Finset ι) (few : members.card ≤ 2 ^ 51) : ∃ shared : Shared ι,
    ReflTransGen (Step 1) .initial shared ∧ shared.written = (members.card * spoolReadBufferBytes) % 2 ^ 64 ∧
      (∀ index ∉ members, shared.drains index = .initial) ∧ shared.total accepted = min 1 members.card := by
  induction members using Finset.induction_on with
  | empty => exact ⟨_, .refl, by simp [Shared.initial], fun _ _ => rfl,
      by simp [Shared.total, Shared.initial, accepted, initial]⟩
  | insert index members fresh ih =>
    rw [card_insert_of_notMem fresh] at few ⊢
    obtain ⟨shared, run, written, others, accepted⟩ := ih (by omega)
    obtain ⟨next, longer, adds, same, takes⟩ := joined (others index fresh) run
    unfold spoolReadBufferBytes at *
    refine ⟨next, longer, by omega, fun other absent => ?_, by omega⟩
    rw [mem_insert, not_or] at absent
    rw [same other absent.1, others other absent.2]

/-- With enough threads between their addition and its correction the counter comes back to zero, and more than the
limit is accepted. -/
theorem quota_overrun : ∃ shared : Shared (Fin (2 ^ 51 + 1)), ReflTransGen (Step 1) .initial shared ∧
    shared.total Drain.accepted = 2 := by
  have most : (Finset.univ.erase (Fin.last (2 ^ 51))).card = 2 ^ 51 := by
    rw [Finset.card_erase_of_mem (Finset.mem_univ _), Finset.card_univ, Fintype.card_fin]
    rfl
  obtain ⟨shared, run, written, others, accepted⟩ := flooded (Finset.univ.erase (Fin.last (2 ^ 51))) most.le
  obtain ⟨next, longer, adds, same, takes⟩ := joined (others (Fin.last (2 ^ 51)) (Finset.notMem_erase _ _)) run
  rw [most] at written accepted
  unfold spoolReadBufferBytes at *
  exact ⟨next, longer, by omega⟩

end AgentMesh.Providers.Quota
