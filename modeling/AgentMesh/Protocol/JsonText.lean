import AgentMesh.Library.Literal
import AgentMesh.Daemon.Interactions

/-! The text of a JSON value: the compact writer and the reader that the daemon calls. A number that is not an integer
has no counterpart among the values here, so the reader refuses it; canonical text refuses it later in the source. -/
namespace AgentMesh.Daemon
open Library Library.Literal Option

namespace Json

theorem induction {holds : Json → Prop} (null : holds null) (bool : ∀ value, holds (bool value))
    (number : ∀ value, holds (number value)) (string : ∀ value, holds (string value))
    (array : ∀ items, (∀ item ∈ items, holds item) → holds (array items))
    (object : ∀ fields, (∀ field ∈ fields, holds field.2) → holds (object fields)) (value : Json) : holds value :=
  Json.rec null bool number string array object (fun _ member => absurd member List.not_mem_nil)
    (fun _ _ first others => List.forall_mem_cons.mpr ⟨first, others⟩)
    (fun _ member => absurd member List.not_mem_nil)
    (fun _ _ first others => List.forall_mem_cons.mpr ⟨first, others⟩) (fun _ _ second => second) value

mutual

def write : Json → List Char
  | null => ['n', 'u', 'l', 'l']
  | bool true => ['t', 'r', 'u', 'e']
  | bool false => ['f', 'a', 'l', 's', 'e']
  | number value => decimal value
  | string value => quote value
  | array items => '[' :: separated ']' (writeItems items)
  | object fields => '{' :: separated '}' (writeFields fields)

def writeItems : List Json → List (List Char)
  | [] => []
  | item :: items => write item :: writeItems items

def writeFields : List (String × Json) → List (List Char)
  | [] => []
  | (key, value) :: fields => (quote key ++ ':' :: write value) :: writeFields fields

end

mutual

def nesting : Json → Nat
  | array items => nestingItems items + 1
  | object fields => nestingFields fields + 1
  | _ => 0

def nestingItems : List Json → Nat
  | [] => 0
  | item :: items => max (nesting item) (nestingItems items)

def nestingFields : List (String × Json) → Nat
  | [] => 0
  | (_, value) :: fields => max (nesting value) (nestingFields fields)

end

def readScalar : Reader Json
  | 'n' :: 'u' :: 'l' :: 'l' :: rest => some (null, rest)
  | 't' :: 'r' :: 'u' :: 'e' :: rest => some (bool true, rest)
  | 'f' :: 'a' :: 'l' :: 's' :: 'e' :: rest => some (bool false, rest)
  | '"' :: rest => (readQuoted rest).map fun result => (string result.1, result.2)
  | input => (readDecimal input).map fun result => (number result.1, result.2)

def readField (read : Reader Json) (input : List Char) : Option ((String × Json) × List Char) :=
  match skipBlanks input with
  | '"' :: rest => do
    let (key, rest) ← readQuoted rest
    match skipBlanks rest with
    | ':' :: rest => do
      let (value, rest) ← read rest
      return ((key, value), rest)
    | _ => none
  | _ => none

/-- A value with at most `levels` arrays and objects around each other, fields in the order of the text. -/
def readValue : Nat → Reader Json
  | 0, input => readScalar (skipBlanks input)
  | levels + 1, input => match skipBlanks input with
    | '[' :: rest => (readSequence ']' (readValue levels) rest).map fun result => (array result.1, result.2)
    | '{' :: rest =>
      (readSequence '}' (readField (readValue levels)) rest).map fun result => (object result.1, result.2)
    | input => readScalar input

/-- The reader's recursion limit of 128 is reached by the 128th bracket. -/
def maxNesting : Nat := 127

/-- `serde_json::to_string`. -/
def toText (value : Json) : String := String.ofList (write value)

def readDocument (levels : Nat) (input : List Char) : Option Json := do
  let (value, rest) ← readValue levels input
  if skipBlanks rest = [] then some value else none

/-- `serde_json::from_slice`: objects are maps ordered by key, in which a later field replaces an earlier one. -/
def fromSlice (bytes : Bytes) : Option Json := do
  let text ← String.fromUTF8? ⟨bytes.toArray⟩
  let value ← readDocument maxNesting text.toList
  return value.canonicalValue

theorem nestingItems_le (items : List Json) (levels : Nat) :
    nestingItems items ≤ levels ↔ ∀ item ∈ items, nesting item ≤ levels := by
  induction items with
  | nil => simp [nestingItems]
  | cons item items ih => simp [nestingItems, ih]

theorem nestingFields_le (fields : List (String × Json)) (levels : Nat) :
    nestingFields fields ≤ levels ↔ ∀ field ∈ fields, nesting field.2 ≤ levels := by
  induction fields with
  | nil => simp [nestingFields]
  | cons field fields ih =>
    rw [nestingFields, Nat.max_le, ih, List.forall_mem_cons]

theorem nesting_array_le (items : List Json) (levels : Nat) : nesting (array items) ≤ levels ↔
    ∃ inner, levels = inner + 1 ∧ ∀ item ∈ items, nesting item ≤ inner := by
  simp only [nesting, ← nestingItems_le]
  constructor
  · intro shallow
    exact ⟨levels - 1, by omega, by omega⟩
  · rintro ⟨inner, rfl, shallow⟩
    omega

theorem nesting_object_le (fields : List (String × Json)) (levels : Nat) : nesting (object fields) ≤ levels ↔
    ∃ inner, levels = inner + 1 ∧ ∀ field ∈ fields, nesting field.2 ≤ inner := by
  simp only [nesting, ← nestingFields_le]
  constructor
  · intro shallow
    exact ⟨levels - 1, by omega, by omega⟩
  · rintro ⟨inner, rfl, shallow⟩
    omega

/-- Every written value starts with a character that neither is blank nor closes a sequence. -/
theorem write_head (value : Json) :
    ∃ char rest, write value = char :: rest ∧ isBlank char = false ∧ char ≠ ']' ∧ char ≠ '}' := by
  cases value with
  | null | string value | array items | object fields => exact ⟨_, _, rfl, by decide⟩
  | bool value => cases value <;> exact ⟨_, _, rfl, by decide⟩
  | number value =>
    obtain ⟨char, rest, same, start⟩ := decimal_head value
    have ink : isBlank char = false := by
      simp [isBlank, start ' ', start '\n', start '\t', start '\r', Char.isDigit]
    exact ⟨char, rest, same, ink, start ']' (by decide) (by decide), start '}' (by decide) (by decide)⟩

theorem delimited_of_ends {char : Char} (ends : char = ']' ∨ char = '}' ∨ char = ',') (rest : List Char) :
    Delimited (char :: rest) := by
  obtain rfl | rfl | rfl := ends
  all_goals rfl

theorem readScalar_decimal (value : Int) (rest : List Char) (delimited : Delimited rest) :
    readScalar (decimal value ++ rest) = some (number value, rest) := by
  have read := readDecimal_decimal value rest delimited
  obtain ⟨char, tail, same, start⟩ := decimal_head value
  have other : char ≠ 'n' ∧ char ≠ 't' ∧ char ≠ 'f' ∧ char ≠ '"' := by
    refine ⟨?_, ?_, ?_, ?_⟩
    all_goals exact start _ (by decide) (by decide)
  rw [same, List.cons_append] at read ⊢
  rw [readScalar, read]
  · rfl
  all_goals
    intros
    simp_all

theorem readValue_of_scalar {char : Char} (ink : isBlank char = false) (other : char ≠ '[' ∧ char ≠ '{')
    (levels : Nat) (rest : List Char) : readValue levels (char :: rest) = readScalar (char :: rest) := by
  cases levels with
  | zero => rw [readValue, skipBlanks_cons_of_not_blank ink]
  | succ levels =>
    rw [readValue, skipBlanks_cons_of_not_blank ink]
    split
    · simp_all
    · simp_all
    · rfl

theorem readField_write {levels : Nat} (key : String) (value : Json) (rest : List Char)
    (reads : readValue levels (write value ++ rest) = some (value, rest)) :
    readField (readValue levels) (quote key ++ ':' :: write value ++ rest) = some ((key, value), rest) := by
  have quoted := readQuoted_quote key (':' :: (write value ++ rest))
  have mark : isBlank '"' = false := by decide
  have colon : isBlank ':' = false := by decide
  simp [readField, quote, mark, quoted, colon, reads]

theorem readItems_write {levels : Nat} {items : List Json} (each : ∀ item ∈ items, ∀ rest, Delimited rest →
    readValue levels (write item ++ rest) = some (item, rest)) :
    List.Forall₂ (Reads ']' (readValue levels)) (writeItems items) items := by
  induction items with
  | nil => exact .nil
  | cons item items ih =>
    obtain ⟨char, rest, same, ink, inside, _⟩ := write_head item
    refine .cons ⟨⟨char, rest, same, ink, inside⟩, fun next rest ends => ?_⟩
      (ih fun item member => each item (List.mem_cons_of_mem _ member))
    exact each item List.mem_cons_self (next :: rest) (delimited_of_ends (by tauto) rest)

theorem readFields_write {levels : Nat} {fields : List (String × Json)} (each : ∀ field ∈ fields, ∀ rest,
    Delimited rest → readValue levels (write field.2 ++ rest) = some (field.2, rest)) :
    List.Forall₂ (Reads '}' (readField (readValue levels))) (writeFields fields) fields := by
  induction fields with
  | nil => exact .nil
  | cons field fields ih =>
    refine .cons ⟨⟨'"', _, rfl, by decide⟩, fun next rest ends => ?_⟩
      (ih fun field member => each field (List.mem_cons_of_mem _ member))
    apply readField_write
    exact each field List.mem_cons_self (next :: rest) (delimited_of_ends (by tauto) rest)

/-- What the writer wrote is read back, whatever follows it that does not carry a number further. -/
theorem readValue_write (value : Json) : ∀ levels, nesting value ≤ levels → ∀ rest, Delimited rest →
    readValue levels (write value ++ rest) = some (value, rest) := by
  induction value using Json.induction with
  | null =>
    intro levels _ _ _
    cases levels <;> rfl
  | bool value =>
    intro levels _ _ _
    cases value <;> cases levels <;> rfl
  | number value =>
    intro levels _ rest delimited
    obtain ⟨char, tail, same, start⟩ := decimal_head value
    obtain ⟨_, _, head, ink, _⟩ := write_head (number value)
    rw [write, same, List.cons.injEq] at head
    have scalar := readScalar_decimal value rest delimited
    rw [same, List.cons_append] at scalar
    rw [write, same, List.cons_append, readValue_of_scalar (head.1 ▸ ink), scalar]
    exact ⟨start _ (by decide) (by decide), start _ (by decide) (by decide)⟩
  | string value =>
    intro levels _ rest _
    rw [write, quote, List.cons_append, List.append_assoc, readValue_of_scalar (by decide) (by decide), readScalar,
      List.singleton_append, readQuoted_quote]
    rfl
  | array items ih =>
    intro levels shallow rest _
    rw [nesting_array_le] at shallow
    obtain ⟨levels, rfl, inner⟩ := shallow
    have bracket : isBlank '[' = false := by decide
    have whole := readSequence_separated (by decide) (by decide)
      (readItems_write fun item member => ih item member levels (inner item member)) rest
    simp [write, readValue, bracket, whole]
  | object fields ih =>
    intro levels shallow rest _
    rw [nesting_object_le] at shallow
    obtain ⟨levels, rfl, inner⟩ := shallow
    have bracket : isBlank '{' = false := by decide
    have whole := readSequence_separated (by decide) (by decide)
      (readFields_write fun field member => ih field member levels (inner field member)) rest
    simp [write, readValue, bracket, whole]

/-- Different values have different texts; the order of fields counts. -/
theorem write_injective {value other : Json} (same : write value = write other) : value = other := by
  have first := readValue_write value (max (nesting value) (nesting other)) (by omega) [] rfl
  have second := readValue_write other (max (nesting value) (nesting other)) (by omega) [] rfl
  rw [same, second, some.injEq, Prod.mk.injEq] at first
  exact first.1.symm

theorem toText_injective : Function.Injective toText := fun _ _ same =>
  write_injective (String.ofList_injective same)

theorem nesting_of_readScalar {input rest : List Char} {value : Json} (done : readScalar input = some (value, rest)) :
    nesting value = 0 := by
  unfold readScalar at done
  split at done
  all_goals
    simp only [some.injEq, Prod.mk.injEq, map_eq_some_iff, Prod.exists] at done
  case h_4 | h_5 =>
    obtain ⟨_, _, _, rfl, _⟩ := done
    rfl
  all_goals
    obtain ⟨rfl, _⟩ := done
    rfl

theorem nesting_of_readValue (levels : Nat) : ∀ input value rest, readValue levels input = some (value, rest) →
    nesting value ≤ levels := by
  induction levels with
  | zero =>
    intro input value rest done
    exact Nat.le_of_eq (nesting_of_readScalar done)
  | succ levels ih =>
    intro input value rest done
    rw [readValue] at done
    split at done
    · simp only [map_eq_some_iff, Prod.mk.injEq, Prod.exists] at done
      obtain ⟨items, _, read, rfl, _⟩ := done
      rw [nesting_array_le]
      exact ⟨levels, rfl, readSequence_forall ih read⟩
    · simp only [map_eq_some_iff, Prod.mk.injEq, Prod.exists] at done
      obtain ⟨fields, _, read, rfl, _⟩ := done
      rw [nesting_object_le]
      refine ⟨levels, rfl, readSequence_forall (fun input field rest done => ?_) read⟩
      rw [readField] at done
      split at done
      · simp only [bind_eq_bind, bind_eq_some_iff, Prod.exists] at done
        obtain ⟨key, after, _, done⟩ := done
        split at done
        · simp only [bind_eq_some_iff, pure_def, some.injEq, Prod.mk.injEq, Prod.exists] at done
          obtain ⟨inner, _, read, rfl, _⟩ := done
          exact ih _ _ _ read
        · contradiction
      · contradiction
    · exact Nat.le_trans (Nat.le_of_eq (nesting_of_readScalar done)) (Nat.zero_le _)

theorem fromUtf8_utf8 (text : String) : String.fromUTF8? ⟨(utf8 text).toArray⟩ = some text := by
  have valid : text.toByteArray.IsValidUTF8 := text.isValidUTF8
  simp [utf8, String.fromUTF8?, valid, String.fromUTF8]

theorem utf8_injective {text other : String} (same : utf8 text = utf8 other) : text = other := by
  have first := fromUtf8_utf8 text
  rw [same, fromUtf8_utf8, some.injEq] at first
  exact first.symm

theorem readDocument_toText (levels : Nat) (value : Json) (shallow : nesting value ≤ levels) :
    readDocument levels (toText value).toList = some value := by
  have read := readValue_write value levels shallow [] rfl
  rw [List.append_nil] at read
  rw [readDocument, toText, String.toList_ofList, read]
  rfl

theorem fromSlice_toText (value : Json) (shallow : nesting value ≤ maxNesting) :
    fromSlice (utf8 (toText value)) = some value.canonicalValue := by
  have read := readDocument_toText maxNesting value shallow
  rw [fromSlice, fromUtf8_utf8, bind_eq_bind, bind_some, read]
  rfl

end Json

/-- The store's codec with this reader and writer. -/
def Codec.serde (codec : Codec) : Codec := { codec with fromSlice := Json.fromSlice, toText := Json.toText }

end AgentMesh.Daemon
