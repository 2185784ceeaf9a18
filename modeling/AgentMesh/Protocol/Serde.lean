import AgentMesh.Library.Unicode
import AgentMesh.Protocol.JsonText

/-! JSON documents of a structure with named fields, as a derived reader takes them: how many bytes a document can have,
and that no proper part of an object's text is a document. -/
namespace AgentMesh.Daemon
open Library Library.Literal Library.Unicode Option

variable {value : Json} {fields : List (String × Json)} {input : List Char}

theorem utf8_eq (text : String) : utf8 text = encodeUtf8 text.toList := by
  rw [utf8, ← String.utf8Encode_toList]
  simp [List.utf8Encode, encodeUtf8]

namespace Json

/-- The value of a document, with the fields of its objects in the order of the text. -/
def parse (bytes : Bytes) : Option Json := do
  let text ← String.fromUTF8? ⟨bytes.toArray⟩
  readDocument maxNesting text.toList

def toVec (value : Json) : Bytes := utf8 value.toText

/-- The fields of a structure: by name, none twice and none unknown, or by position. -/
def members (names : List String) : Json → Option (List (Option Json))
  | object fields =>
    if (fields.map Prod.fst).Nodup ∧ ∀ field ∈ fields, field.1 ∈ names then
      some (names.map fun name => fields.lookup name)
    else none
  | array items => if items.length = names.length then some (items.map some) else none
  | _ => none

def asInteger (least most : Int) : Json → Option Int
  | number value => if least ≤ value ∧ value ≤ most then some value else none
  | _ => none

def asUInt16 (value : Json) : Option UInt16 := (asInteger 0 (2 ^ 16 - 1) value).map fun value => .ofNat value.toNat

def asUInt32 (value : Json) : Option UInt32 := (asInteger 0 (2 ^ 32 - 1) value).map fun value => .ofNat value.toNat

def asUInt64 (value : Json) : Option UInt64 := (asInteger 0 (2 ^ 64 - 1) value).map fun value => .ofNat value.toNat

def asInt64 (value : Json) : Option Int64 := (asInteger (-2 ^ 63) (2 ^ 63 - 1) value).map .ofInt

def asText : Json → Option String
  | string value => some value
  | _ => none

/-- The name of a variant without content, alone or as the key of nothing. -/
def asVariant : Json → Option String
  | string name => some name
  | object [(name, null)] => some name
  | _ => none

def asOption {α : Type} (read : Json → Option α) : Option Json → Option (Option α)
  | none | some null => some none
  | some value => (read value).map some

@[simp]
theorem asUInt16_number (value : UInt16) : asUInt16 (number value.toNat) = some value := by
  have small := value.toNat_lt
  simp [asUInt16, asInteger]
  omega

@[simp]
theorem asUInt32_number (value : UInt32) : asUInt32 (number value.toNat) = some value := by
  have small := value.toNat_lt
  simp [asUInt32, asInteger]
  omega

@[simp]
theorem asUInt64_number (value : UInt64) : asUInt64 (number value.toNat) = some value := by
  have small := value.toNat_lt
  simp [asUInt64, asInteger]
  omega

@[simp]
theorem asInt64_number (value : Int64) : asInt64 (number value.toInt) = some value := by
  have low := value.le_toInt
  have high := value.toInt_lt
  simp [asInt64, asInteger]
  omega

theorem parse_toVec (value : Json) (shallow : nesting value ≤ maxNesting) : parse value.toVec = some value := by
  rw [parse, toVec, fromUtf8_utf8, bind_eq_bind, bind_some]
  exact readDocument_toText maxNesting value shallow

theorem toVec_injective {other : Json} (same : value.toVec = other.toVec) : value = other :=
  write_injective (String.ofList_injective (utf8_injective same))

section Cut

theorem readScalar_of_number {char : Char} (start : char.isDigit = true ∨ char = '-') (tail : List Char) :
    readScalar (char :: tail) = (readDecimal (char :: tail)).map fun result => (number result.1, result.2) := by
  have other : char ≠ 'n' ∧ char ≠ 't' ∧ char ≠ 'f' ∧ char ≠ '"' := by
    refine ⟨?_, ?_, ?_, ?_⟩
    all_goals
      rintro rfl
      exact absurd start (by decide)
  rw [readScalar]
  all_goals
    intros
    simp_all

theorem stable_readScalar : Stable readScalar := by
  intro input value rest done stops more
  unfold readScalar at done
  split at done
  case h_4 =>
    simp only [map_eq_some_iff, Prod.mk.injEq, Prod.exists] at done
    obtain ⟨text, _, read, rfl, rfl⟩ := done
    have further := closed_readQuoted _ _ _ read more
    simp [readScalar, further]
  case h_5 =>
    simp only [map_eq_some_iff, Prod.mk.injEq, Prod.exists] at done
    obtain ⟨integer, _, read, rfl, rfl⟩ := done
    have further := stable_readDecimal _ _ _ read stops more
    obtain ⟨char, tail, rfl, start⟩ := readDecimal_head read
    rw [List.cons_append] at further ⊢
    rw [readScalar_of_number start, further, map_some]
  all_goals
    simp only [some.injEq, Prod.mk.injEq] at done
    obtain ⟨rfl, rfl⟩ := done
    rfl

theorem stable_readField {read : Reader Json} (stable : Stable read) : Stable (readField read) := by
  intro input field rest done stops more
  unfold readField at done
  split at done
  · rename_i after found
    simp only [bind_eq_bind, bind_eq_some_iff, Prod.exists] at done
    obtain ⟨key, between, quoted, done⟩ := done
    have name := closed_readQuoted _ _ _ quoted more
    split at done
    · rename_i final colon
      simp only [bind_eq_some_iff, pure_def, some.injEq, Prod.mk.injEq, Prod.exists] at done
      obtain ⟨value, _, read, rfl, rfl⟩ := done
      have further := stable _ _ _ read stops more
      simp [readField, skipBlanks_append found, name, skipBlanks_append colon, further]
    · contradiction
  · contradiction

theorem stable_skipped {rest : List Char} (done : readScalar (skipBlanks input) = some (value, rest))
    (stops : rest ≠ []) (more : List Char) : ∃ char tail, skipBlanks input = char :: tail ∧
      readScalar (char :: (tail ++ more)) = some (value, rest ++ more) := by
  cases found : skipBlanks input with
  | nil =>
    rw [found] at done
    contradiction
  | cons char tail =>
    rw [found] at done
    exact ⟨char, tail, rfl, stable_readScalar _ _ _ done stops more⟩

theorem stable_readValue (levels : Nat) : Stable (readValue levels) := by
  induction levels with
  | zero =>
    intro input value rest done stops more
    obtain ⟨char, tail, found, further⟩ := stable_skipped done stops more
    rw [readValue, skipBlanks_append found]
    exact further
  | succ levels ih =>
    intro input value rest done stops more
    rw [readValue] at done
    split at done
    · rename_i after found
      simp only [map_eq_some_iff, Prod.mk.injEq, Prod.exists] at done
      obtain ⟨items, _, read, rfl, rfl⟩ := done
      simp [readValue, skipBlanks_append found, closed_readSequence ih _ _ _ read more]
    · rename_i after found
      simp only [map_eq_some_iff, Prod.mk.injEq, Prod.exists] at done
      obtain ⟨fields, _, read, rfl, rfl⟩ := done
      simp [readValue, skipBlanks_append found, closed_readSequence (stable_readField ih) _ _ _ read more]
    · rename_i array object
      obtain ⟨char, tail, found, further⟩ := stable_skipped done stops more
      rw [readValue, skipBlanks_append found]
      split
      · rename_i same
        exact absurd (found.trans (by rw [(List.cons.inj same).1])) (array tail)
      · rename_i same
        exact absurd (found.trans (by rw [(List.cons.inj same).1])) (object tail)
      · exact further

/-- An object ends with its own bracket, so nothing that follows changes it. -/
theorem readValue_object_append {levels : Nat} {rest : List Char}
    (done : readValue levels input = some (object fields, rest)) (more : List Char) :
    readValue levels (input ++ more) = some (object fields, rest ++ more) := by
  have scalar : ∀ input, readScalar input ≠ some (object fields, rest) := by
    intro input read
    have flat := nesting_of_readScalar read
    rw [nesting] at flat
    omega
  cases levels with
  | zero => exact absurd done (scalar _)
  | succ levels =>
    rw [readValue] at done
    split at done
    · simp at done
    · rename_i after found
      simp only [map_eq_some_iff, Prod.mk.injEq, Prod.exists] at done
      obtain ⟨read_fields, _, read, same, rfl⟩ := done
      have further := closed_readSequence (stable_readField (stable_readValue levels)) _ _ _ read more
      simp [readValue, skipBlanks_append found, further, same]
    · exact absurd done (scalar _)

theorem readDocument_cut {levels : Nat} (shallow : nesting (object fields) ≤ levels) {more : List Char}
    (cut : write (object fields) = input ++ more) (done : readDocument levels input = some value) : more = [] := by
  simp only [readDocument, bind_eq_bind, bind_eq_some_iff, Prod.exists] at done
  obtain ⟨found, rest, read, _⟩ := done
  have whole := readValue_write (object fields) levels shallow [] rfl
  rw [List.append_nil, cut] at whole
  rw [nesting_object_le] at shallow
  obtain ⟨levels, rfl, _⟩ := shallow
  cases input with
  | nil => contradiction
  | cons char tail =>
    rw [write, List.cons_append] at cut
    obtain ⟨rfl, _⟩ := List.cons.inj cut
    have bracket : isBlank '{' = false := by decide
    have shape : ∃ others, found = object others := by
      simp only [readValue, skipBlanks_cons_of_not_blank bracket, map_eq_some_iff, Prod.mk.injEq, Prod.exists] at read
      obtain ⟨others, _, _, same, _⟩ := read
      exact ⟨others, same.symm⟩
    obtain ⟨others, rfl⟩ := shape
    have further := readValue_object_append read more
    rw [whole, some.injEq, Prod.mk.injEq] at further
    exact (List.append_eq_nil_iff.mp further.2.symm).2

theorem parse_cut (shallow : nesting (object fields) ≤ maxNesting) {bytes : Bytes}
    (cut : bytes <+: (object fields).toVec) (done : parse bytes = some value) : bytes = (object fields).toVec := by
  simp only [parse, bind_eq_bind, bind_eq_some_iff] at done
  obtain ⟨text, decoded, read⟩ := done
  obtain rfl : bytes = utf8 text := by
    simp only [String.fromUTF8?, dite_none_right_eq_some, some.injEq] at decoded
    obtain ⟨valid, rfl⟩ := decoded
    rfl
  obtain ⟨tail, joined⟩ := cut
  rw [toVec, utf8_eq, utf8_eq, toText, String.toList_ofList] at joined
  obtain ⟨more, cut, rfl⟩ := encodeUtf8_cut joined
  rw [readDocument_cut shallow cut read] at joined cut
  rw [toVec, utf8_eq, utf8_eq, toText, String.toList_ofList, cut, List.append_nil]

end Cut

section Size

mutual

/-- A bound on the bytes of a text: an escaped byte takes six. -/
def weight : Json → Nat
  | null => 4
  | bool _ => 5
  | number value => (decimal value).length
  | string value => 6 * value.utf8ByteSize + 2
  | array items => weightItems items + 2
  | object fields => weightFields fields + 2

def weightItems : List Json → Nat
  | [] => 0
  | item :: items => weight item + 1 + weightItems items

def weightFields : List (String × Json) → Nat
  | [] => 0
  | (key, value) :: fields => 6 * key.utf8ByteSize + 3 + weight value + 1 + weightFields fields

end

theorem length_utf8 (text : String) : (utf8 text).length = text.utf8ByteSize := by
  rw [utf8, Array.length_toList]
  rfl

theorem length_quote_le (text : String) : (encodeUtf8 (quote text)).length ≤ 6 * text.utf8ByteSize + 2 := by
  have quoted := length_encodeUtf8_quote text
  rwa [← utf8_eq, length_utf8] at quoted

theorem length_write_le (value : Json) : (encodeUtf8 (write value)).length ≤ weight value := by
  induction value using Json.induction with
  | null => decide
  | bool value => cases value <;> decide
  | number value => rw [write, weight, length_encodeUtf8_decimal]
  | string value => exact length_quote_le value
  | array items ih =>
    have each : ((writeItems items).map fun text => (encodeUtf8 text).length + 1).sum ≤ weightItems items := by
      induction items with
      | nil => exact Nat.le_refl _
      | cons item items rest =>
        rw [List.forall_mem_cons] at ih
        have later := rest ih.2
        simp only [writeItems, weightItems, List.map_cons, List.sum_cons]
        omega
    have whole := length_encodeUtf8_separated (by decide : ']'.utf8Size = 1) (writeItems items)
    have bracket : '['.utf8Size = 1 := by decide
    rw [write, weight, length_encodeUtf8_cons, bracket]
    omega
  | object fields ih =>
    have each : ((writeFields fields).map fun text => (encodeUtf8 text).length + 1).sum ≤ weightFields fields := by
      induction fields with
      | nil => exact Nat.le_refl _
      | cons field fields rest =>
        rw [List.forall_mem_cons] at ih
        have later := rest ih.2
        have key := length_quote_le field.1
        have colon : ':'.utf8Size = 1 := by decide
        simp only [writeFields, weightFields, List.map_cons, List.sum_cons, encodeUtf8_append, List.length_append,
          length_encodeUtf8_cons, colon]
        omega
    have whole := length_encodeUtf8_separated (by decide : '}'.utf8Size = 1) (writeFields fields)
    have bracket : '{'.utf8Size = 1 := by decide
    rw [write, weight, length_encodeUtf8_cons, bracket]
    omega

theorem length_toVec_le (value : Json) : value.toVec.length ≤ weight value := by
  rw [toVec, utf8_eq, toText, String.toList_ofList]
  exact length_write_le value

theorem length_decimal_le {value : Int} (small : value.natAbs < 10 ^ 20) : (decimal value).length ≤ 21 := by
  have digits := Nat.toDigits_length 10 value.natAbs 20 (by decide) small
  unfold decimal
  split
  · rw [List.length_cons]
    omega
  · omega

end Size

end Json

end AgentMesh.Daemon
