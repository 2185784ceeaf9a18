import AgentMesh.Library.Lossy
import AgentMesh.Providers.Text

/-! The lines read from a growing spool (`dispatcher.rs`). The offset kept between reads counts the bytes of the
decoded text, while a read may cut the spool inside a character. -/
namespace AgentMesh.Providers
open Library.Lossy List

variable {done : List UInt8}

/-- `str::split_inclusive('\n')`. -/
def splitInclusive : List Char → List (List Char)
  | [] => []
  | char :: rest =>
    if char = '\n' then [char] :: splitInclusive rest
    else
      match splitInclusive rest with
      | [] => [[char]]
      | piece :: pieces => (char :: piece) :: pieces

/-- `str::len`. -/
def textLen (text : List Char) : Nat := (text.map Char.utf8Size).sum

/-- The pieces the loop of `complete_spool_lines` takes before it breaks. -/
def completePieces (unread : List Char) : List (List Char) :=
  (splitInclusive unread).takeWhile fun piece => piece.getLast? = some '\n'

/-- `complete_spool_lines`: the lines that are not blank, and the bytes consumed. -/
def completeSpoolLines (unread : List Char) : List (List Char) × Nat :=
  (((completePieces unread).map (rdropWhile fun char => char = '\n' ∨ char = '\r')).filter
      fun line => trimmed line ≠ [],
    ((completePieces unread).map textLen).sum)

/-- The slice of a text from a byte offset on; `none` is the panic on an offset that is no character boundary. -/
def sliceFrom : List Char → Nat → Option (List Char)
  | text, 0 => some text
  | [], _ + 1 => none
  | char :: rest, offset => if char.utf8Size ≤ offset then sliceFrom rest (offset - char.utf8Size) else none

/-- The start of `persist_new_frames`: the complete lines after the consumed offset, and the new offset. -/
def newLines (bytes : List UInt8) (consumed : Nat) : Option (List (List Char) × Nat) :=
  let text := decode bytes
  let start := if textLen text < consumed then 0 else consumed
  (sliceFrom text start).map fun unread =>
    ((completeSpoolLines unread).1, start + (completeSpoolLines unread).2)

def readLines : List (List UInt8) → Nat → Option (List (List Char))
  | [], _ => some []
  | bytes :: reads, consumed =>
    (newLines bytes consumed).bind fun step => (readLines reads step.2).map (step.1 ++ ·)

section Slices

theorem sliceFrom_append (text other : List Char) : sliceFrom (text ++ other) (textLen text) = some other := by
  induction text with
  | nil => cases other <;> rfl
  | cons char rest ih =>
    have positive := char.utf8Size_pos
    have length : textLen (char :: rest) = char.utf8Size + textLen rest := by simp [textLen]
    rw [length, cons_append, sliceFrom, if_pos (by omega), Nat.add_sub_cancel_left]
    · exact ih
    · omega

theorem textLen_flatten (pieces : List (List Char)) : textLen pieces.flatten = (pieces.map textLen).sum := by
  induction pieces with
  | nil => rfl
  | cons piece pieces ih => simp_all [textLen]

end Slices

section Pieces

theorem flatten_splitInclusive (text : List Char) : (splitInclusive text).flatten = text := by
  fun_induction splitInclusive text <;> simp_all

theorem splitInclusive_newline (text other : List Char) :
    splitInclusive (text ++ '\n' :: other) = splitInclusive (text ++ ['\n']) ++ splitInclusive other := by
  induction text with
  | nil => simp [splitInclusive]
  | cons char rest ih =>
    have kept := flatten_splitInclusive (rest ++ ['\n'])
    simp only [cons_append, splitInclusive, ih]
    split_ifs
    · rfl
    · cases pieces : splitInclusive (rest ++ ['\n']) with
      | nil => simp [pieces] at kept
      | cons piece pieces => rfl

theorem splitInclusive_complete (text : List Char) :
    ∀ piece ∈ splitInclusive (text ++ ['\n']), piece.getLast? = some '\n' := by
  induction text with
  | nil => simp [splitInclusive]
  | cons char rest ih =>
    have kept := flatten_splitInclusive (rest ++ ['\n'])
    simp only [cons_append, splitInclusive]
    split_ifs with same
    · exact forall_mem_cons.mpr ⟨congrArg some same, ih⟩
    · cases pieces : splitInclusive (rest ++ ['\n']) with
      | nil => simp [pieces] at kept
      | cons piece pieces =>
        rw [pieces] at ih
        obtain ⟨first, later⟩ := forall_mem_cons.mp ih
        refine forall_mem_cons.mpr ⟨?_, later⟩
        rw [getLast?_cons, first]
        rfl

theorem completePieces_newline (text other : List Char) :
    completePieces (text ++ '\n' :: other) = splitInclusive (text ++ ['\n']) ++ completePieces other := by
  rw [completePieces, splitInclusive_newline, takeWhile_append_of_pos]
  · rfl
  · exact fun piece member => decide_eq_true (splitInclusive_complete text piece member)

theorem completePieces_of_not_mem {text : List Char} (absent : '\n' ∉ text) : completePieces text = [] := by
  have kept := flatten_splitInclusive text
  unfold completePieces
  cases pieces : splitInclusive text with
  | nil => rfl
  | cons piece pieces =>
    refine takeWhile_cons_of_neg fun ended => absent ?_
    have last := mem_of_getLast? (of_decide_eq_true ended)
    rw [← kept, pieces]
    exact mem_flatten_of_mem mem_cons_self last

end Pieces

section Reads

def Ended (bytes : List UInt8) : Prop := bytes = [] ∨ ∃ front, bytes = front ++ [0x0A]

theorem Ended.append {done rest : List UInt8} (ended : Ended done) (later : Ended rest) : Ended (done ++ rest) := by
  obtain rfl | ⟨front, rfl⟩ := later
  · rwa [append_nil]
  · exact .inr ⟨done ++ front, by rw [append_assoc]⟩

theorem exists_ended (bytes : List UInt8) : ∃ done rest, bytes = done ++ rest ∧ Ended done ∧ 0x0A ∉ rest := by
  induction bytes using reverseRecOn with
  | nil => exact ⟨[], [], rfl, .inl rfl, not_mem_nil⟩
  | append_singleton front last ih =>
    obtain ⟨done, rest, rfl, ended, absent⟩ := ih
    by_cases newline : last = 0x0A
    · exact ⟨done ++ rest ++ [last], [], by simp, .inr ⟨_, by rw [newline]⟩, not_mem_nil⟩
    · exact ⟨done, rest ++ [last], by simp, ended, by simp [absent, Ne.symm newline]⟩

theorem decode_ended (ended : Ended done) (rest : List UInt8) : decode (done ++ rest) = decode done ++ decode rest := by
  obtain rfl | ⟨front, rfl⟩ := ended
  · simp [decode]
  · have alone := decode_newline front []
    rw [append_assoc, singleton_append, decode_newline, alone]
    simp [decode]

/-- Bytes up to the end of a line are all consumed, and what follows them is split on its own. -/
theorem completePieces_ended (ended : Ended done) (rest : List UInt8) :
    completePieces (decode (done ++ rest)) = splitInclusive (decode done) ++ completePieces (decode rest) := by
  obtain rfl | ⟨front, rfl⟩ := ended
  · simp [decode, splitInclusive]
  · have alone := decode_newline front []
    rw [append_assoc, singleton_append, decode_newline, completePieces_newline, alone, decode]

theorem completePieces_decode (ended : Ended done) : completePieces (decode done) = splitInclusive (decode done) := by
  simpa [decode, completePieces, splitInclusive] using completePieces_ended ended []

theorem completeSpoolLines_ended (ended : Ended done) (rest : List UInt8) :
    (completeSpoolLines (decode (done ++ rest))).1 =
      (completeSpoolLines (decode done)).1 ++ (completeSpoolLines (decode rest)).1 := by
  simp only [completeSpoolLines, completePieces_ended ended, completePieces_decode ended, map_append, filter_append]

/-- What is read up to the end of the last line is consumed; the bytes after it are left for the next read. -/
theorem completePieces_tail {tail : List UInt8} (ended : Ended done) (absent : 0x0A ∉ tail) :
    completePieces (decode (done ++ tail)) = completePieces (decode done) := by
  rw [completePieces_ended ended, completePieces_decode ended,
    completePieces_of_not_mem fun newline => absent (newline_of_decode newline), append_nil]

theorem consumed_decode (ended : Ended done) : (completeSpoolLines (decode done)).2 = textLen (decode done) := by
  unfold completeSpoolLines
  rw [completePieces_decode ended, ← textLen_flatten, flatten_splitInclusive]

theorem newLines_ended (ended : Ended done) (rest : List UInt8) : ∃ next, Ended next ∧ next <+: done ++ rest ∧
      (completeSpoolLines (decode (done ++ rest))).1 = (completeSpoolLines (decode next)).1 ∧
      newLines (done ++ rest) (textLen (decode done)) =
        some ((completeSpoolLines (decode rest)).1, textLen (decode next)) := by
  obtain ⟨head, tail, rfl, complete, absent⟩ := exists_ended rest
  have split := completePieces_tail complete absent
  have length : textLen (decode (done ++ head)) = textLen (decode done) + textLen (decode head) := by
    simp [decode_ended ended, textLen]
  refine ⟨done ++ head, ended.append complete, ⟨tail, append_assoc ..⟩, ?_, ?_⟩
  · rw [← append_assoc]
    simp only [completeSpoolLines, completePieces_tail (ended.append complete) absent]
  · have inside : ¬ textLen (decode (done ++ (head ++ tail))) < textLen (decode done) := by
      simp [decode_ended ended, textLen]
    have consumed : (completeSpoolLines (decode (head ++ tail))).2 = textLen (decode head) := by
      rw [← consumed_decode complete]
      simp only [completeSpoolLines, split]
    have unread : sliceFrom (decode (done ++ (head ++ tail))) (textLen (decode done)) = some (decode (head ++ tail)) := by
      rw [decode_ended ended, sliceFrom_append]
    simp only [newLines, if_neg inside, unread, Option.map_some, consumed, length]

theorem readLines_ended {reads : List (List UInt8)} {last : List UInt8} (ended : Ended done)
    (same : (completeSpoolLines (decode last)).1 = (completeSpoolLines (decode done)).1)
    (starts : ∀ read ∈ reads, done <+: read) (growing : reads.Pairwise (· <+: ·)) :
    ∃ lines, readLines reads (textLen (decode done)) = some lines ∧
      (completeSpoolLines (decode done)).1 ++ lines = (completeSpoolLines (decode (reads.getLastD last))).1 := by
  induction reads generalizing done last with
  | nil => exact ⟨[], rfl, by simp [same]⟩
  | cons read reads ih =>
    obtain ⟨⟨rest, rfl⟩, -⟩ := forall_mem_cons.mp starts
    obtain ⟨later, growing⟩ := pairwise_cons.mp growing
    obtain ⟨next, complete, inside, equal, step⟩ := newLines_ended ended rest
    obtain ⟨lines, run, total⟩ := ih complete equal (fun read member => inside.trans (later read member)) growing
    refine ⟨(completeSpoolLines (decode rest)).1 ++ lines, ?_, ?_⟩
    · simp only [readLines, step, Option.bind_some, run, Option.map_some]
    · rw [← append_assoc, ← completeSpoolLines_ended ended, equal, total, getLastD_cons]

/-- However the reads cut the spool, no slice panics, and the lines are those of one read of the longest prefix. -/
theorem incremental_lines_exact (whole : List UInt8) (reads : List (List UInt8))
    (prefixes : ∀ read ∈ reads, read <+: whole)
    (growing : reads.Pairwise fun read later => read.length ≤ later.length) :
    readLines reads 0 = some (completeSpoolLines (decode (reads.getLastD []))).1 := by
  have chain : reads.Pairwise (· <+: ·) := growing.imp_of_mem fun member after longer =>
    prefix_of_prefix_length_le (prefixes _ member) (prefixes _ after) longer
  obtain ⟨lines, run, total⟩ := readLines_ended (.inl rfl) (rfl : _ = (completeSpoolLines (decode [])).1)
    (fun _ _ => nil_prefix) chain
  have start : (completeSpoolLines (decode [])).1 = [] ∧ textLen (decode []) = 0 := by
    simp [decode, completeSpoolLines, completePieces, splitInclusive, textLen]
  rw [start.1, nil_append] at total
  rw [start.2] at run
  rw [run, total]

theorem incremental_lines_exact_broken_char :
    readLines [[0x61, 0xE2], [0x61, 0xE2, 0x0A, 0x62], [0x61, 0xE2, 0x0A, 0x62, 0x0A]] 0 =
      some (completeSpoolLines (decode [0x61, 0xE2, 0x0A, 0x62, 0x0A])).1 :=
  incremental_lines_exact [0x61, 0xE2, 0x0A, 0x62, 0x0A] _ (by decide) (by decide)

end Reads

end AgentMesh.Providers
