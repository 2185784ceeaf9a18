import Mathlib

/-! Texts as lists of characters: quoted strings, decimal integers and bracketed sequences as JSON spells them, with
readers that return what is left of the input. Each reader gives back what its writer wrote. -/
namespace AgentMesh.Library.Literal
open Option Nat

variable {α : Type} {char : Char} {input rest : List Char}

/-- A reader takes a value from the front of its input. -/
abbrev Reader (α : Type) := List Char → Option (α × List Char)

def isBlank (char : Char) : Bool := char == ' ' || char == '\n' || char == '\t' || char == '\r'

def skipBlanks (input : List Char) : List Char := input.dropWhile isBlank

@[simp]
theorem skipBlanks_cons_of_not_blank (ink : isBlank char = false) (rest : List Char) :
    skipBlanks (char :: rest) = char :: rest := by
  simp [skipBlanks, ink]

section Quoted

def hexDigit (value : Nat) : Char :=
  if value < 10 then Char.ofNat (48 + value) else Char.ofNat (87 + value)

def hexValue (char : Char) : Option Nat :=
  if '0' ≤ char ∧ char ≤ '9' then some (char.toNat - 48)
  else if 'a' ≤ char ∧ char ≤ 'f' then some (char.toNat - 87)
  else if 'A' ≤ char ∧ char ≤ 'F' then some (char.toNat - 55)
  else none

theorem hexValue_hexDigit : ∀ value < 16, hexValue (hexDigit value) = some value := by decide

/-- How a character stands inside quotes: only the quote, the backslash and control characters are escaped. -/
def escape (char : Char) : List Char :=
  match char with
  | '"' => ['\\', '"']
  | '\\' => ['\\', '\\']
  | '\x08' => ['\\', 'b']
  | '\x0c' => ['\\', 'f']
  | '\n' => ['\\', 'n']
  | '\r' => ['\\', 'r']
  | '\t' => ['\\', 't']
  | char =>
    if char.toNat < 32 then ['\\', 'u', '0', '0', hexDigit (char.toNat / 16), hexDigit (char.toNat % 16)] else [char]

def quote (text : String) : List Char := '"' :: (text.toList.flatMap escape ++ ['"'])

def readHex : Reader Nat
  | a :: b :: c :: d :: rest => do
    let a ← hexValue a
    let b ← hexValue b
    let c ← hexValue c
    let d ← hexValue d
    return (((a * 16 + b) * 16 + c) * 16 + d, rest)
  | _ => none

def leadingSurrogate (unit : Nat) : Bool := 0xd800 ≤ unit && unit ≤ 0xdbff

def trailingSurrogate (unit : Nat) : Bool := 0xdc00 ≤ unit && unit ≤ 0xdfff

def pairCode (leading trailing : Nat) : Nat := 0x10000 + (leading - 0xd800) * 0x400 + (trailing - 0xdc00)

/-- The rest of a `\u` escape; a surrogate is read only as the first of a pair. -/
def readUnicode (input : List Char) : Option (Char × List Char) := do
  let (unit, rest) ← readHex input
  if trailingSurrogate unit then none
  else if leadingSurrogate unit then
    match rest with
    | '\\' :: 'u' :: rest => do
      let (second, rest) ← readHex rest
      if trailingSurrogate second then some (Char.ofNat (pairCode unit second), rest) else none
    | _ => none
  else some (Char.ofNat unit, rest)

def readEscape : Reader Char
  | '"' :: rest => some ('"', rest)
  | '\\' :: rest => some ('\\', rest)
  | '/' :: rest => some ('/', rest)
  | 'b' :: rest => some ('\x08', rest)
  | 'f' :: rest => some ('\x0c', rest)
  | 'n' :: rest => some ('\n', rest)
  | 'r' :: rest => some ('\r', rest)
  | 't' :: rest => some ('\t', rest)
  | 'u' :: rest => readUnicode rest
  | _ => none

def readChars : Nat → Reader (List Char)
  | 0, _ => none
  | fuel + 1, input => match input with
    | [] => none
    | '"' :: rest => some ([], rest)
    | '\\' :: rest => do
      let (char, rest) ← readEscape rest
      let (chars, rest) ← readChars fuel rest
      return (char :: chars, rest)
    | char :: rest =>
      if char.toNat < 32 then none else do
        let (chars, rest) ← readChars fuel rest
        return (char :: chars, rest)

def readQuoted (input : List Char) : Option (String × List Char) := do
  let (chars, rest) ← readChars input.length input
  return (String.ofList chars, rest)

theorem readHex_low (code : Nat) (small : code < 256) (rest : List Char) :
    readHex ('0' :: '0' :: hexDigit (code / 16) :: hexDigit (code % 16) :: rest) = some (code, rest) := by
  have high := hexValue_hexDigit (code / 16) (by omega)
  have low := hexValue_hexDigit (code % 16) (by omega)
  have zero : hexValue '0' = some 0 := by decide
  have whole : code / 16 * 16 + code % 16 = code := by omega
  simp [readHex, zero, high, low, whole]

theorem readEscape_control (char : Char) (control : char.toNat < 32) (rest : List Char) :
    readEscape ('u' :: '0' :: '0' :: hexDigit (char.toNat / 16) :: hexDigit (char.toNat % 16) :: rest) =
      some (char, rest) := by
  have plain : trailingSurrogate char.toNat = false ∧ leadingSurrogate char.toNat = false := by
    simp only [trailingSurrogate, leadingSurrogate, Bool.and_eq_false_iff, decide_eq_false_iff_not]
    omega
  simp [readEscape, readUnicode, readHex_low char.toNat (by omega), plain]

theorem readChars_escape (char : Char) (fuel : Nat) (rest : List Char) : readChars (fuel + 1) (escape char ++ rest) =
      (readChars fuel rest).map fun result => (char :: result.1, result.2) := by
  unfold escape
  split
  case h_8 quote slash _ _ _ _ _ =>
    split
    · rename_i control
      simp only [readChars, List.cons_append, List.nil_append, readEscape_control char control]
      cases found : readChars fuel rest <;> simp [found]
    · rename_i visible
      simp only [List.cons_append, List.nil_append]
      rw [readChars]
      · simp only [if_neg visible]
        cases found : readChars fuel rest <;> simp
      · exact quote
      · exact slash
  all_goals
    simp only [readChars, List.cons_append, List.nil_append, readEscape]
    cases found : readChars fuel rest <;> simp [found]

theorem readChars_written (chars : List Char) : ∀ fuel, chars.length < fuel → ∀ rest,
    readChars fuel (chars.flatMap escape ++ '"' :: rest) = some (chars, rest) := by
  induction chars with
  | nil =>
    intro fuel enough rest
    obtain ⟨fuel, rfl⟩ := exists_eq_succ_of_ne_zero (ne_of_gt enough)
    rfl
  | cons char chars ih =>
    intro fuel enough rest
    obtain ⟨fuel, rfl⟩ := exists_eq_succ_of_ne_zero (ne_of_gt (lt_of_le_of_lt (zero_le _) enough))
    rw [List.length_cons] at enough
    rw [List.flatMap_cons, List.append_assoc, readChars_escape, ih fuel (by omega) rest]
    rfl

theorem length_le_flatMap_escape (chars : List Char) : chars.length ≤ (chars.flatMap escape).length := by
  induction chars with
  | nil => exact le_refl _
  | cons char chars ih =>
    have one : 1 ≤ (escape char).length := by
      unfold escape
      split <;> first | split | skip
      all_goals simp
    rw [List.flatMap_cons, List.length_append, List.length_cons]
    omega

theorem readQuoted_quote (text : String) (rest : List Char) :
    readQuoted (text.toList.flatMap escape ++ '"' :: rest) = some (text, rest) := by
  have written := length_le_flatMap_escape text.toList
  rw [readQuoted, readChars_written text.toList _ (by rw [List.length_append, List.length_cons]; omega) rest]
  simp

end Quoted

section Decimal

/-- Decimal digits without leading zeros, after a minus sign for a negative integer. -/
def decimal (value : Int) : List Char :=
  if value < 0 then '-' :: Nat.toDigits 10 value.natAbs else Nat.toDigits 10 value.natAbs

def continuesNumber (char : Char) : Bool := char.isDigit || char == '.' || char == 'e' || char == 'E'

/-- The digits of a number without leading zeros; a fraction or an exponent makes it no integer. -/
def readDigits (input : List Char) : Option (Nat × List Char) :=
  let (digits, rest) := input.span Char.isDigit
  if digits = [] ∨ (digits.head? = some '0' ∧ digits ≠ ['0']) ∨ rest.head?.any continuesNumber then none
  else some (Nat.ofDigitChars 10 digits 0, rest)

def readDecimal : Reader Int
  | '-' :: rest => do
    let (value, rest) ← readDigits rest
    if value = 0 then none else return (-(value : Int), rest)
  | input => do
    let (value, rest) ← readDigits input
    return ((value : Int), rest)

/-- What may follow a number that has been written out. -/
def Delimited (rest : List Char) : Prop := rest.head?.any continuesNumber = false

theorem toDigits_ne_nil (value : Nat) : toDigits 10 value ≠ [] :=
  List.ne_nil_of_length_pos (length_toDigits_pos)

theorem toDigits_head (value : Nat) : (toDigits 10 value).head? = some '0' → value = 0 := by
  induction value using Nat.strongRecOn with
  | _ value ih =>
    intro leading
    by_cases small : value < 10
    · have digit : ∀ digit < 10, digitChar digit = '0' → digit = 0 := by decide
      rw [toDigits_of_lt_base small] at leading
      exact digit value small (by simpa using leading)
    · have split := toDigits_append_toDigits (b := 10) (n := value / 10) (d := value % 10) (by omega) (by omega)
        (by omega)
      rw [div_add_mod] at split
      rw [← split, List.head?_append, or_of_isSome (by simp)] at leading
      have none := ih (value / 10) (by omega) leading
      omega

theorem readDigits_toDigits (value : Nat) (rest : List Char) (delimited : Delimited rest) :
    readDigits (toDigits 10 value ++ rest) = some (value, rest) := by
  have digits : ∀ char ∈ toDigits 10 value, char.isDigit = true := fun char member =>
    isDigit_of_mem_toDigits (by omega) (by omega) member
  have stops : rest.head?.any Char.isDigit = false := by
    cases rest with
    | nil => rfl
    | cons char rest =>
      simp only [Delimited, List.head?_cons, any_some, continuesNumber, Bool.or_eq_false_iff] at delimited ⊢
      exact delimited.1.1.1
  have spans : (toDigits 10 value ++ rest).span Char.isDigit = (toDigits 10 value, rest) := by
    rw [List.span_eq_takeWhile_dropWhile, List.takeWhile_append_of_pos digits, List.dropWhile_append_of_pos digits]
    cases rest with
    | nil => simp
    | cons char rest =>
      have stop : char.isDigit = false := by simpa using stops
      simp [stop]
  have leading : ¬((toDigits 10 value).head? = some '0' ∧ toDigits 10 value ≠ ['0']) := by
    rintro ⟨head, several⟩
    rw [toDigits_head value head] at several
    exact several (by decide)
  unfold readDigits
  simp only [spans]
  rw [if_neg, ofDigitChars_toDigits (by omega) (by omega)]
  simp only [not_or]
  exact ⟨toDigits_ne_nil value, leading, by simpa [Delimited] using delimited⟩

theorem decimal_head (value : Int) : ∃ char rest, decimal value = char :: rest ∧
    ∀ other : Char, other.isDigit = false → other ≠ '-' → char ≠ other := by
  unfold decimal
  split
  · exact ⟨'-', _, rfl, fun _ _ sign => sign.symm⟩
  · obtain ⟨char, rest, same⟩ := List.exists_cons_of_ne_nil (toDigits_ne_nil value.natAbs)
    have digit : char.isDigit = true :=
      isDigit_of_mem_toDigits (by omega : 0 < 10) (by omega) (same ▸ List.mem_cons_self)
    refine ⟨char, rest, same, fun other plain _ equal => ?_⟩
    rw [equal, plain] at digit
    contradiction

theorem readDecimal_decimal (value : Int) (rest : List Char) (delimited : Delimited rest) :
    readDecimal (decimal value ++ rest) = some (value, rest) := by
  have digits := readDigits_toDigits value.natAbs rest delimited
  unfold decimal
  split
  · rename_i negative
    have nonzero : value.natAbs ≠ 0 := by omega
    have back : -(value.natAbs : Int) = value := by omega
    simp only [List.cons_append, readDecimal, digits, bind_eq_bind, bind_some, if_neg nonzero, back]
    rfl
  · rename_i positive
    have back : (value.natAbs : Int) = value := by omega
    obtain ⟨char, tail, same⟩ := List.exists_cons_of_ne_nil (toDigits_ne_nil value.natAbs)
    have digit : char.isDigit = true :=
      isDigit_of_mem_toDigits (by omega : 0 < 10) (by omega) (same ▸ List.mem_cons_self)
    rw [same, List.cons_append] at digits ⊢
    rw [readDecimal]
    · simp [digits, back]
    · intro tail sign
      rw [List.cons.injEq] at sign
      rw [sign.1] at digit
      exact absurd digit (by decide)

end Decimal

section Sequence

/-- Texts separated by commas, up to and with the closing bracket. -/
def separatedTail (close : Char) : List (List Char) → List Char
  | [] => [close]
  | text :: texts => ',' :: (text ++ separatedTail close texts)

def separated (close : Char) : List (List Char) → List Char
  | [] => [close]
  | text :: texts => text ++ separatedTail close texts

def readTail (close : Char) (item : Reader α) : Nat → Reader (List α)
  | 0, _ => none
  | fuel + 1, input => match skipBlanks input with
    | [] => none
    | char :: rest =>
      if char = close then some ([], rest)
      else if char = ',' then do
        let (value, rest) ← item rest
        let (values, rest) ← readTail close item fuel rest
        return (value :: values, rest)
      else none

def readSequence (close : Char) (item : Reader α) (input : List Char) : Option (List α × List Char) :=
  match skipBlanks input with
  | [] => none
  | char :: rest =>
    if char = close then some ([], rest) else do
      let (value, rest) ← item (char :: rest)
      let (values, rest) ← readTail close item rest.length rest
      return (value :: values, rest)

/-- A text that `item` reads as `value` wherever a sequence may hold it. -/
structure Reads (close : Char) (item : Reader α) (text : List Char) (value : α) : Prop where
  starts : ∃ char rest, text = char :: rest ∧ isBlank char = false ∧ char ≠ close
  reads : ∀ char rest, char = close ∨ char = ',' → item (text ++ char :: rest) = some (value, char :: rest)

variable {close : Char} {item : Reader α}

theorem separatedTail_cons (texts : List (List Char)) :
    ∃ char rest, separatedTail close texts = char :: rest ∧ (char = close ∨ char = ',') := by
  cases texts with
  | nil => exact ⟨close, [], rfl, .inl rfl⟩
  | cons text texts => exact ⟨',', _, rfl, .inr rfl⟩

theorem readTail_separatedTail (ink : isBlank close = false) (other : close ≠ ',') {texts : List (List Char)}
    {values : List α} (each : List.Forall₂ (Reads close item) texts values) : ∀ fuel, texts.length < fuel → ∀ rest,
      readTail close item fuel (separatedTail close texts ++ rest) = some (values, rest) := by
  induction each with
  | nil =>
    intro fuel enough rest
    obtain ⟨fuel, rfl⟩ := exists_eq_succ_of_ne_zero (ne_of_gt enough)
    simp [separatedTail, readTail, ink]
  | @cons text value texts values first _ ih =>
    intro fuel enough rest
    obtain ⟨fuel, rfl⟩ := exists_eq_succ_of_ne_zero (ne_of_gt (lt_of_le_of_lt (zero_le _) enough))
    rw [List.length_cons] at enough
    obtain ⟨char, tail, same, ends⟩ := @separatedTail_cons close texts
    have rest_read := ih fuel (by omega) rest
    have item_read := first.reads char (tail ++ rest) ends
    rw [same, List.cons_append] at rest_read
    have comma : isBlank ',' = false := by decide
    simp [separatedTail, readTail, same, comma, Ne.symm other, item_read, rest_read]

theorem length_lt_separatedTail (texts : List (List Char)) : texts.length < (separatedTail close texts).length := by
  induction texts with
  | nil => exact zero_lt_one
  | cons text texts ih =>
    simp only [separatedTail, List.length_cons, List.length_append]
    omega

theorem readSequence_separated (ink : isBlank close = false) (other : close ≠ ',') {texts : List (List Char)}
    {values : List α} (each : List.Forall₂ (Reads close item) texts values) (rest : List Char) :
    readSequence close item (separated close texts ++ rest) = some (values, rest) := by
  cases each with
  | nil => simp [separated, readSequence, ink]
  | @cons text value texts values first others =>
    obtain ⟨char, tail, same, visible, inside⟩ := first.starts
    obtain ⟨next, after, tailed, ends⟩ := @separatedTail_cons close texts
    have item_read := first.reads next (after ++ rest) ends
    have longer := @length_lt_separatedTail close texts
    have tail_read := readTail_separatedTail ink other others (separatedTail close texts ++ rest).length
      (by rw [List.length_append]; omega) rest
    rw [tailed, List.cons_append, List.length_cons, List.length_append] at tail_read
    rw [same, List.cons_append] at item_read
    simp [separated, readSequence, same, tailed, visible, inside, item_read, tail_read]

theorem readTail_forall {holds : α → Prop}
    (each : ∀ input value rest, item input = some (value, rest) → holds value) : ∀ fuel input values rest,
      readTail close item fuel input = some (values, rest) → ∀ value ∈ values, holds value := by
  intro fuel
  induction fuel with
  | zero => simp [readTail]
  | succ fuel ih =>
    intro input values rest done
    rw [readTail] at done
    split at done
    · contradiction
    · rename_i char after _
      split_ifs at done
      · simp_all
      · simp only [bind_eq_bind, bind_eq_some_iff, pure_def, some.injEq, Prod.mk.injEq, Prod.exists] at done
        obtain ⟨first, between, read, others, _, later, rfl, _⟩ := done
        exact List.forall_mem_cons.mpr ⟨each _ _ _ read, ih _ _ _ later⟩

theorem readSequence_forall {holds : α → Prop}
    (each : ∀ input value rest, item input = some (value, rest) → holds value) {values : List α}
    (done : readSequence close item input = some (values, rest)) : ∀ value ∈ values, holds value := by
  rw [readSequence] at done
  split at done
  · contradiction
  · split_ifs at done
    · simp_all
    · simp only [bind_eq_bind, bind_eq_some_iff, pure_def, some.injEq, Prod.mk.injEq, Prod.exists] at done
      obtain ⟨first, between, read, others, _, later, rfl, _⟩ := done
      exact List.forall_mem_cons.mpr ⟨each _ _ _ read, readTail_forall each _ _ _ _ later⟩

end Sequence

/-! Readers that are not affected by what follows the part they have read. -/
section Further

/-- A reader that, once it has stopped inside its input, is not affected by what follows. -/
def Stable (read : Reader α) : Prop :=
  ∀ input value rest, read input = some (value, rest) → rest ≠ [] → ∀ more,
    read (input ++ more) = some (value, rest ++ more)

def Closed (read : Reader α) : Prop :=
  ∀ input value rest, read input = some (value, rest) → ∀ more, read (input ++ more) = some (value, rest ++ more)

theorem dropWhile_append_of_ne_nil {holds : Char → Bool} (stops : input.dropWhile holds ≠ []) (more : List Char) :
    (input ++ more).dropWhile holds = input.dropWhile holds ++ more := by
  rw [List.dropWhile_append, if_neg (by simpa using stops)]

theorem skipBlanks_append (found : skipBlanks input = char :: rest) (more : List Char) :
    skipBlanks (input ++ more) = char :: (rest ++ more) := by
  have stops : input.dropWhile isBlank ≠ [] := by
    rw [← skipBlanks, found]
    exact List.cons_ne_nil _ _
  rw [skipBlanks, dropWhile_append_of_ne_nil stops, ← skipBlanks, found, List.cons_append]

theorem closed_readHex : Closed readHex := by
  intro input value rest done more
  unfold readHex at done
  split at done
  · simp only [bind_eq_bind, bind_eq_some_iff, pure_def, some.injEq, Prod.mk.injEq] at done
    obtain ⟨a, first, b, second, c, third, d, fourth, rfl, rfl⟩ := done
    simp [readHex, first, second, third, fourth]
  · contradiction

theorem closed_readUnicode : Closed readUnicode := by
  intro input value rest done more
  simp only [readUnicode, bind_eq_bind, bind_eq_some_iff, Prod.exists] at done
  obtain ⟨unit, between, read, done⟩ := done
  have further := closed_readHex _ _ _ read more
  split_ifs at done with trailing leading
  · split at done
    · simp only [bind_eq_some_iff, Prod.exists] at done
      obtain ⟨second, after, paired, done⟩ := done
      have pair := closed_readHex _ _ _ paired more
      split_ifs at done with low
      simp only [some.injEq, Prod.mk.injEq] at done
      obtain ⟨rfl, rfl⟩ := done
      simp [readUnicode, further, trailing, leading, pair, low]
    · contradiction
  · simp only [some.injEq, Prod.mk.injEq] at done
    obtain ⟨rfl, rfl⟩ := done
    simp [readUnicode, further, trailing, leading]

theorem closed_readEscape : Closed readEscape := by
  intro input value rest done more
  unfold readEscape at done
  split at done
  case h_9 => exact closed_readUnicode _ _ _ done more
  case h_10 => contradiction
  all_goals
    simp only [some.injEq, Prod.mk.injEq] at done
    obtain ⟨rfl, rfl⟩ := done
    rfl

theorem readChars_append (fuel : Nat) : ∀ input value rest, readChars fuel input = some (value, rest) →
    ∀ enough more, fuel ≤ enough → readChars enough (input ++ more) = some (value, rest ++ more) := by
  induction fuel with
  | zero => simp [readChars]
  | succ fuel ih =>
    intro input value rest done enough more more_fuel
    obtain ⟨enough, rfl⟩ := exists_eq_succ_of_ne_zero (by omega : enough ≠ 0)
    unfold readChars at done
    split at done
    · contradiction
    · simp only [some.injEq, Prod.mk.injEq] at done
      obtain ⟨rfl, rfl⟩ := done
      rfl
    · simp only [bind_eq_bind, bind_eq_some_iff, pure_def, some.injEq, Prod.mk.injEq, Prod.exists] at done
      obtain ⟨char, between, escaped, chars, _, later, rfl, rfl⟩ := done
      have first := closed_readEscape _ _ _ escaped more
      have others := ih _ _ _ later enough more (by omega)
      simp [readChars, first, others]
    · rename_i char after quote slash
      split_ifs at done with control
      simp only [bind_eq_bind, bind_eq_some_iff, pure_def, some.injEq, Prod.mk.injEq, Prod.exists] at done
      obtain ⟨chars, _, later, rfl, rfl⟩ := done
      have others := ih _ _ _ later enough more (by omega)
      rw [List.cons_append, readChars]
      · simp [control, others]
      · exact fun same => quote same
      · exact fun same => slash same

theorem closed_readQuoted : Closed readQuoted := by
  intro input value rest done more
  simp only [readQuoted, bind_eq_bind, bind_eq_some_iff, pure_def, some.injEq, Prod.mk.injEq, Prod.exists] at done
  obtain ⟨chars, _, read, rfl, rfl⟩ := done
  have further := readChars_append _ _ _ _ read (input ++ more).length more (by simp)
  simp only [readQuoted, further, bind_eq_bind, bind_some]
  rfl

theorem stable_readDigits : Stable readDigits := by
  intro input value rest done stops more
  simp only [readDigits, List.span_eq_takeWhile_dropWhile] at done ⊢
  split_ifs at done with refused
  simp only [some.injEq, Prod.mk.injEq] at done
  obtain ⟨rfl, rfl⟩ := done
  have shorter : (input.takeWhile Char.isDigit).length ≠ input.length := by
    intro whole
    have split := congrArg List.length (@List.takeWhile_append_dropWhile _ Char.isDigit input)
    rw [List.length_append] at split
    exact stops (List.length_eq_zero_iff.mp (by omega))
  have digits : (input ++ more).takeWhile Char.isDigit = input.takeWhile Char.isDigit := by
    rw [List.takeWhile_append, if_neg shorter]
  have after := dropWhile_append_of_ne_nil stops more
  have head : (input.dropWhile Char.isDigit ++ more).head? = (input.dropWhile Char.isDigit).head? := by
    rw [List.head?_append, or_of_isSome (by simpa using stops)]
  rw [digits, after, head, if_neg refused]

theorem readDigits_head {value : Nat} (done : readDigits input = some (value, rest)) :
    ∃ char tail, input = char :: tail ∧ char.isDigit = true := by
  cases input with
  | nil => simp [readDigits, List.span_eq_takeWhile_dropWhile] at done
  | cons char tail =>
    refine ⟨char, tail, rfl, ?_⟩
    by_contra other
    simp [readDigits, List.span_eq_takeWhile_dropWhile, other] at done

theorem readDecimal_of_digit (digit : char.isDigit = true) (tail : List Char) :
    readDecimal (char :: tail) = (readDigits (char :: tail)).map fun result => ((result.1 : Int), result.2) := by
  rw [readDecimal]
  · cases readDigits (char :: tail) <;> rfl
  · rintro _ same
    rw [(List.cons.inj same).1] at digit
    exact absurd digit (by decide)

theorem readDecimal_head {value : Int} (done : readDecimal input = some (value, rest)) :
    ∃ char tail, input = char :: tail ∧ (char.isDigit = true ∨ char = '-') := by
  unfold readDecimal at done
  split at done
  · exact ⟨_, _, rfl, .inr rfl⟩
  · simp only [bind_eq_bind, bind_eq_some_iff, Prod.exists] at done
    obtain ⟨digits, after, read, _⟩ := done
    obtain ⟨char, tail, same, digit⟩ := readDigits_head read
    exact ⟨char, tail, same, .inl digit⟩

theorem stable_readDecimal : Stable readDecimal := by
  intro input value rest done stops more
  obtain ⟨char, tail, rfl, digit | rfl⟩ := readDecimal_head done
  · rw [readDecimal_of_digit digit] at done
    rw [List.cons_append, readDecimal_of_digit digit, ← List.cons_append]
    simp only [map_eq_some_iff, Prod.mk.injEq, Prod.exists] at done ⊢
    obtain ⟨digits, _, read, rfl, rfl⟩ := done
    exact ⟨digits, _, stable_readDigits _ _ _ read stops more, rfl, rfl⟩
  · simp only [readDecimal, bind_eq_bind, bind_eq_some_iff, Prod.exists] at done
    obtain ⟨digits, after, read, done⟩ := done
    split_ifs at done with zero
    simp only [pure_def, some.injEq, Prod.mk.injEq] at done
    obtain ⟨rfl, rfl⟩ := done
    have further := stable_readDigits _ _ _ read stops more
    simp [readDecimal, further, zero]

variable {close : Char} {item : Reader α}

theorem readTail_append (stable : Stable item) (fuel : Nat) : ∀ input values rest,
    readTail close item fuel input = some (values, rest) → ∀ enough more, fuel ≤ enough →
      readTail close item enough (input ++ more) = some (values, rest ++ more) := by
  induction fuel with
  | zero => simp [readTail]
  | succ fuel ih =>
    intro input values rest done enough more more_fuel
    obtain ⟨enough, rfl⟩ := exists_eq_succ_of_ne_zero (by omega : enough ≠ 0)
    rw [readTail] at done
    split at done
    · contradiction
    · rename_i char after found
      rw [readTail, skipBlanks_append found]
      split_ifs at done with closing comma
      · simp only [some.injEq, Prod.mk.injEq] at done
        obtain ⟨rfl, rfl⟩ := done
        simp [closing]
      · simp only [bind_eq_bind, bind_eq_some_iff, pure_def, some.injEq, Prod.mk.injEq, Prod.exists] at done
        obtain ⟨value, between, read, others, _, later, rfl, rfl⟩ := done
        -- The tail is never read from an empty input, so the item stopped inside its own.
        have inside : between ≠ [] := by
          rintro rfl
          cases fuel <;> simp [readTail, skipBlanks] at later
        have first := stable _ _ _ read inside more
        have rest_read := ih _ _ _ later enough more (by omega)
        dsimp only
        rw [if_neg closing, if_pos comma]
        simp [first, rest_read]

theorem closed_readSequence (stable : Stable item) : Closed (readSequence close item) := by
  intro input values rest done more
  rw [readSequence] at done
  split at done
  · contradiction
  · rename_i char after found
    rw [readSequence, skipBlanks_append found]
    split_ifs at done with closing
    · simp only [some.injEq, Prod.mk.injEq] at done
      obtain ⟨rfl, rfl⟩ := done
      simp [closing]
    · simp only [bind_eq_bind, bind_eq_some_iff, pure_def, some.injEq, Prod.mk.injEq, Prod.exists] at done
      obtain ⟨value, between, read, others, _, later, rfl, rfl⟩ := done
      have inside : between ≠ [] := by
        rintro rfl
        simp [readTail] at later
      have first := stable _ _ _ read inside more
      have rest_read := readTail_append stable _ _ _ _ later (between ++ more).length more (by simp)
      rw [List.cons_append] at first
      simp only [closing, if_false, first, rest_read, bind_eq_bind, bind_some]
      rfl

end Further

end AgentMesh.Library.Literal
