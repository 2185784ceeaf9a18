import Mathlib

/-! Lossy UTF-8 decoding: what was read of a broken character becomes one replacement character. A newline byte is
never part of another character, so the text before it does not depend on what follows. -/
namespace AgentMesh.Library.Lossy
open List

/-- The bytes of a character that starts with this one, zero if none does. -/
def charWidth (byte : UInt8) : Nat :=
  if byte < 0x80 then 1 else if byte < 0xC2 then 0 else if byte < 0xE0 then 2 else if byte < 0xF0 then 3
  else if byte < 0xF5 then 4 else 0

def secondFits (first second : UInt8) : Bool :=
  (if first = 0xE0 then 0xA0 else if first = 0xF0 then 0x90 else 0x80) ≤ second &&
    second ≤ (if first = 0xED then 0x9F else if first = 0xF4 then 0x8F else 0xBF)

/-- Reads the continuation bytes still owed after the bits `code`. -/
def readTail : Nat → Nat → List UInt8 → Char × List UInt8
  | 0, code, rest => (Char.ofNat code, rest)
  | _ + 1, _, [] => ('�', [])
  | owed + 1, code, byte :: rest =>
    if 0x80 ≤ byte ∧ byte ≤ 0xBF then readTail owed (code * 64 + byte.toNat % 64) rest else ('�', byte :: rest)

/-- One character, or the replacement of the longest part of one, and the bytes after it. -/
def readChar (first : UInt8) (rest : List UInt8) : Char × List UInt8 :=
  match charWidth first with
  | 0 => ('�', rest)
  | 1 => (Char.ofNat first.toNat, rest)
  | owed + 2 =>
    match rest with
    | [] => ('�', [])
    | second :: later =>
      if secondFits first second then readTail owed (first.toNat % 2 ^ (5 - owed) * 64 + second.toNat % 64) later
      else ('�', rest)

theorem readTail_suffix (owed code : Nat) (rest : List UInt8) : (readTail owed code rest).2 <:+ rest := by
  fun_induction readTail owed code rest with
  | case1 | case2 | case4 => exact suffix_rfl
  | case3 owed code byte rest _ ih => exact ih.trans (suffix_cons byte rest)

theorem readChar_suffix (first : UInt8) (rest : List UInt8) : (readChar first rest).2 <:+ rest := by
  unfold readChar
  split
  · exact suffix_rfl
  · exact suffix_rfl
  · cases rest with
    | nil => exact suffix_rfl
    | cons second later =>
      dsimp only
      split_ifs
      · exact (readTail_suffix _ _ _).trans (suffix_cons _ _)
      · exact suffix_rfl

/-- `String::from_utf8_lossy`. -/
def decode : List UInt8 → List Char
  | [] => []
  | first :: rest => (readChar first rest).1 :: decode (readChar first rest).2
termination_by bytes => bytes.length
decreasing_by exact Nat.lt_succ_of_le (readChar_suffix first rest).length_le

theorem readTail_newline (owed code : Nat) (rest after : List UInt8) : readTail owed code (rest ++ 0x0A :: after) =
      ((readTail owed code rest).1, (readTail owed code rest).2 ++ 0x0A :: after) := by
  fun_induction readTail owed code rest with
  | case1 => rfl
  | case2 => simp [readTail]
  | case3 owed code byte rest fits ih => rw [cons_append, readTail, if_pos fits, ih]
  | case4 owed code byte rest broken => rw [cons_append, readTail, if_neg broken]

theorem readChar_newline (first : UInt8) (rest after : List UInt8) : readChar first (rest ++ 0x0A :: after) =
      ((readChar first rest).1, (readChar first rest).2 ++ 0x0A :: after) := by
  have broken : secondFits first 0x0A = false := by
    unfold secondFits
    split_ifs <;> decide
  unfold readChar
  split
  · rfl
  · rfl
  · cases rest with
    | nil => simp [broken]
    | cons second later =>
      simp only [cons_append]
      split_ifs
      · exact readTail_newline _ _ _ _
      · rfl

theorem decode_newline (before after : List UInt8) :
    decode (before ++ 0x0A :: after) = decode before ++ '\n' :: decode after := by
  fun_induction decode before with
  | case1 => rw [nil_append, decode]; rfl
  | case2 first rest ih => rw [cons_append, decode, readChar_newline, ih, cons_append]

theorem ofNat_ne_newline {code : Nat} (other : code ≠ 10) : Char.ofNat code ≠ '\n' := by
  intro same
  have value := congrArg Char.toNat same
  unfold Char.ofNat at value
  split at value
  · exact other value
  · exact absurd value (by decide)

theorem readTail_ne_newline {owed code : Nat} (rest : List UInt8) (large : 10 < code) :
    (readTail owed code rest).1 ≠ '\n' := by
  fun_induction readTail owed code rest with
  | case1 => exact ofNat_ne_newline (Nat.ne_of_gt large)
  | case2 => decide
  | case3 owed code byte rest _ ih => exact ih (by omega)
  | case4 => simp

/-- The bits of the first two bytes alone are more than a newline: the shorter encodings are refused. -/
theorem code_large {first second : UInt8} {owed : Nat} (width : charWidth first = owed + 2)
    (fits : secondFits first second = true) : 10 < first.toNat % 2 ^ (5 - owed) * 64 + second.toNat % 64 := by
  have kind : owed = 0 ∧ 0xC2 ≤ first.toNat ∧ first.toNat < 0xE0 ∨ owed = 1 ∧ 0xE0 ≤ first.toNat ∧ first.toNat < 0xF0 ∨
      owed = 2 ∧ 0xF0 ≤ first.toNat ∧ first.toNat < 0xF5 := by
    simp only [charWidth, UInt8.lt_iff_toNat_lt, UInt8.reduceToNat] at width
    split_ifs at width <;> omega
  have range : (first.toNat = 0xE0 → 0xA0 ≤ second.toNat) ∧ (first.toNat = 0xF0 → 0x90 ≤ second.toNat) ∧
      second.toNat ≤ 0xBF := by
    simp only [secondFits, UInt8.le_iff_toNat_le, ← UInt8.toNat_inj, UInt8.reduceToNat, Bool.and_eq_true,
      decide_eq_true_eq] at fits
    refine ⟨fun same => ?_, fun same => ?_, ?_⟩
    · simpa [same] using fits.1
    · simpa [same] using fits.1
    · refine fits.2.trans ?_
      split_ifs <;> decide
  obtain ⟨rfl, above, below⟩ | ⟨rfl, above, below⟩ | ⟨rfl, above, below⟩ := kind <;>
    simp only [Nat.reduceSub, Nat.reducePow] <;> omega

theorem readChar_ne_newline {first : UInt8} (rest : List UInt8) (other : first ≠ 0x0A) :
    (readChar first rest).1 ≠ '\n' := by
  unfold readChar
  split
  · simp
  · exact ofNat_ne_newline fun same => other (UInt8.toNat_inj.mp same)
  · rename_i owed width
    cases rest with
    | nil => simp
    | cons second later =>
      dsimp only
      split_ifs with fits
      · exact readTail_ne_newline _ (code_large width fits)
      · simp

theorem newline_of_decode {bytes : List UInt8} (newline : '\n' ∈ decode bytes) : 0x0A ∈ bytes := by
  fun_induction decode bytes with
  | case1 => exact absurd newline not_mem_nil
  | case2 first rest ih =>
    by_cases other : first = 0x0A
    · exact other ▸ mem_cons_self
    · obtain here | later := mem_cons.mp newline
      · exact absurd here.symm (readChar_ne_newline rest other)
      · exact mem_cons_of_mem _ ((readChar_suffix first rest).subset (ih later))

end AgentMesh.Library.Lossy
