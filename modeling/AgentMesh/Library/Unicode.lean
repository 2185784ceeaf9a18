import AgentMesh.Library.Literal

/-! Text in UTF-8 bytes and in UTF-16 code units. The bytes of two texts compare as the texts do; their code units
need not. -/
namespace AgentMesh.Library.Unicode
open Literal List UInt16

section Utf8

theorem cons_lt_cons {byte other : UInt8} {rest after : List UInt8} (le : byte.toNat ≤ other.toNat)
    (tie : byte.toNat = other.toNat → rest < after) : byte :: rest < other :: after := by
  rw [cons_lt_cons_iff, UInt8.lt_iff_toNat_lt, ← UInt8.toNat_inj]
  obtain less | same := Nat.lt_or_eq_of_le le
  · exact .inl less
  · exact .inr ⟨same, tie same⟩

/-- The bytes of a smaller character come first, whatever follows. -/
theorem utf8EncodeChar_lt {char other : Char} (less : char < other) (rest after : List UInt8) :
    String.utf8EncodeChar char ++ rest < String.utf8EncodeChar other ++ after := by
  have valid : other.val.toNat < 0x110000 := by
    obtain low | high := other.valid
    · exact Nat.lt_trans low (by decide)
    · exact high.2
  have smaller : char.val.toNat < other.val.toNat := UInt32.lt_iff_toNat_lt.mp (Char.lt_def.mp less)
  unfold String.utf8EncodeChar
  dsimp only
  split_ifs
  all_goals try omega
  -- What is left is compared byte by byte; the last tie contradicts the order of the characters.
  all_goals
    simp only [cons_append, nil_append]
    repeat' (apply cons_lt_cons; (simp only [UInt8.toNat_ofNat']; omega); intro tie; simp only [UInt8.toNat_ofNat'] at tie)
    all_goals omega

def encodeUtf8 (chars : List Char) : List UInt8 := chars.flatMap String.utf8EncodeChar

theorem encodeUtf8_lt {chars others : List Char} (less : chars < others) : encodeUtf8 chars < encodeUtf8 others := by
  induction chars generalizing others with
  | nil =>
    cases others with
    | nil => exact absurd less (lt_irrefl _)
    | cons other others =>
      obtain ⟨byte, bytes, same⟩ := exists_cons_of_ne_nil
        (ne_nil_of_length_pos (String.length_utf8EncodeChar other ▸ Char.utf8Size_pos other))
      simp [encodeUtf8, same]
  | cons char chars ih =>
    cases others with
    | nil => exact absurd less (not_lt_nil _)
    | cons other others =>
      rw [cons_lt_cons_iff] at less
      obtain first | ⟨rfl, later⟩ := less
      · exact utf8EncodeChar_lt first _ _
      · exact append_left_lt (ih later)

theorem encodeUtf8_lt_iff (chars others : List Char) : encodeUtf8 chars < encodeUtf8 others ↔ chars < others := by
  refine ⟨fun less => ?_, encodeUtf8_lt⟩
  obtain before | rfl | after := lt_trichotomy chars others
  · exact before
  · exact absurd less (List.lt_irrefl _)
  · exact absurd less (List.lt_asymm (encodeUtf8_lt after))

theorem encodeUtf8_injective {chars others : List Char} (same : encodeUtf8 chars = encodeUtf8 others) :
    chars = others := by
  obtain before | equal | after := lt_trichotomy chars others
  · exact absurd (same ▸ encodeUtf8_lt before) (List.lt_irrefl _)
  · exact equal
  · exact absurd (same ▸ encodeUtf8_lt after) (List.lt_irrefl _)

@[simp]
theorem encodeUtf8_nil : encodeUtf8 [] = [] := rfl

@[simp]
theorem encodeUtf8_append (chars others : List Char) :
    encodeUtf8 (chars ++ others) = encodeUtf8 chars ++ encodeUtf8 others := flatMap_append

@[simp]
theorem length_encodeUtf8_cons (char : Char) (chars : List Char) :
    (encodeUtf8 (char :: chars)).length = char.utf8Size + (encodeUtf8 chars).length := by
  simp [encodeUtf8]

theorem length_encodeUtf8_of_ascii {chars : List Char} (ascii : ∀ char ∈ chars, char.utf8Size = 1) :
    (encodeUtf8 chars).length = chars.length := by
  induction chars with
  | nil => rfl
  | cons char chars ih =>
    rw [forall_mem_cons] at ascii
    rw [length_encodeUtf8_cons, ascii.1, ih ascii.2, length_cons, Nat.add_comm]

theorem length_encodeUtf8_escape (char : Char) : (encodeUtf8 (escape char)).length ≤ 6 * char.utf8Size := by
  have hex : ∀ value < 16, (hexDigit value).utf8Size = 1 := by decide
  have some_bytes := char.utf8Size_pos
  unfold escape
  split
  case h_8 =>
    split
    · rename_i control
      have high := hex (char.toNat / 16) (by omega)
      have low := hex (char.toNat % 16) (by omega)
      have slash : '\\'.utf8Size = 1 ∧ 'u'.utf8Size = 1 ∧ '0'.utf8Size = 1 := by decide
      simp only [length_encodeUtf8_cons, high, low, slash, encodeUtf8_nil, length_nil]
      omega
    · simp only [length_encodeUtf8_cons, encodeUtf8_nil, length_nil]
      omega
  all_goals decide

theorem length_encodeUtf8_quote (text : String) :
    (encodeUtf8 (quote text)).length ≤ 6 * (encodeUtf8 text.toList).length + 2 := by
  have escaped : ∀ chars : List Char, (encodeUtf8 (chars.flatMap escape)).length ≤ 6 * (encodeUtf8 chars).length := by
    intro chars
    induction chars with
    | nil => exact Nat.le_refl _
    | cons char chars ih =>
      have first := length_encodeUtf8_escape char
      rw [flatMap_cons, encodeUtf8_append, length_append, length_encodeUtf8_cons]
      omega
  have all := escaped text.toList
  have mark : '"'.utf8Size = 1 := by decide
  simp only [quote, length_encodeUtf8_cons, encodeUtf8_append, length_append, mark, encodeUtf8_nil, length_nil]
  omega

theorem length_encodeUtf8_decimal (value : Int) : (encodeUtf8 (decimal value)).length = (decimal value).length := by
  apply length_encodeUtf8_of_ascii
  have digit : ∀ char ∈ Nat.toDigits 10 value.natAbs, char.utf8Size = 1 := by
    intro char member
    have digit : char.isDigit = true := Nat.isDigit_of_mem_toDigits (by omega) (by omega) member
    simp only [Char.isDigit, Bool.and_eq_true, decide_eq_true_eq] at digit
    have high : char.val ≤ 57 := digit.2
    rw [Char.utf8Size, if_pos (UInt32.le_trans high (by decide))]
  unfold decimal
  split
  · rw [forall_mem_cons]
    exact ⟨by decide, digit⟩
  · exact digit

/-- A bracketed sequence has a comma or bracket after each text and one more bracket. -/
theorem length_encodeUtf8_separated {close : Char} (single : close.utf8Size = 1) (texts : List (List Char)) :
    (encodeUtf8 (separated close texts)).length ≤ (texts.map fun text => (encodeUtf8 text).length + 1).sum + 1 := by
  have tail : ∀ texts : List (List Char), (encodeUtf8 (separatedTail close texts)).length =
      (texts.map fun text => (encodeUtf8 text).length + 1).sum + 1 := by
    intro texts
    induction texts with
    | nil => simp [separatedTail, single]
    | cons text texts ih =>
      have comma : ','.utf8Size = 1 := by decide
      simp only [separatedTail, length_encodeUtf8_cons, comma, encodeUtf8_append, length_append, ih, map_cons, sum_cons]
      omega
  cases texts with
  | nil => simp [separated, single]
  | cons text texts =>
    simp only [separated, encodeUtf8_append, length_append, tail, map_cons, sum_cons]
    omega

theorem encodeUtf8_cut {chars others : List Char} {tail : List UInt8}
    (joined : encodeUtf8 chars ++ tail = encodeUtf8 others) :
    ∃ more, others = chars ++ more ∧ tail = encodeUtf8 more := by
  induction chars generalizing others with
  | nil => exact ⟨others, rfl, joined⟩
  | cons char chars ih =>
    cases others with
    | nil =>
      have size := congrArg length joined
      have some_bytes := char.utf8Size_pos
      rw [length_append, length_encodeUtf8_cons, encodeUtf8_nil, length_nil] at size
      omega
    | cons other others =>
      have split : String.utf8EncodeChar char ++ (encodeUtf8 chars ++ tail) =
          String.utf8EncodeChar other ++ encodeUtf8 others := by
        simpa [encodeUtf8] using joined
      obtain before | rfl | after := lt_trichotomy char other
      · exact absurd (split ▸ utf8EncodeChar_lt before _ _) (List.lt_irrefl _)
      · obtain ⟨more, rfl, rfl⟩ := ih (append_cancel_left split)
        exact ⟨more, rfl, rfl⟩
      · exact absurd (split ▸ utf8EncodeChar_lt after _ _) (List.lt_irrefl _)

end Utf8

section Utf16

abbrev Units := List UInt16

def utf16Char (char : Char) : Units :=
  if char.toNat < 0x10000 then [UInt16.ofNat char.toNat]
  else [UInt16.ofNat (0xd800 + (char.toNat - 0x10000) / 0x400), UInt16.ofNat (0xdc00 + (char.toNat - 0x10000) % 0x400)]

def utf16 (chars : List Char) : Units := chars.flatMap utf16Char

@[simp]
theorem utf16_nil : utf16 [] = [] := rfl

@[simp]
theorem utf16_cons (char : Char) (chars : List Char) : utf16 (char :: chars) = utf16Char char ++ utf16 chars := rfl

@[simp]
theorem utf16_append (chars others : List Char) : utf16 (chars ++ others) = utf16 chars ++ utf16 others :=
  flatMap_append

/-- The code points that code units stand for; a surrogate outside a pair stands for itself. -/
def codePoints : Units → List Nat
  | [] => []
  | [unit] => [unit.toNat]
  | unit :: next :: rest =>
    if leadingSurrogate unit.toNat && trailingSurrogate next.toNat then
      pairCode unit.toNat next.toNat :: codePoints rest
    else unit.toNat :: codePoints (next :: rest)

theorem surrogates_of_offset (offset : Nat) (small : offset < 0x100000) :
    leadingSurrogate (ofNat (0xd800 + offset / 0x400)).toNat = true ∧
      trailingSurrogate (ofNat (0xdc00 + offset % 0x400)).toNat = true ∧
      pairCode (ofNat (0xd800 + offset / 0x400)).toNat (ofNat (0xdc00 + offset % 0x400)).toNat = 0x10000 + offset := by
  have size : size = 0x10000 := rfl
  have leading : (ofNat (0xd800 + offset / 0x400)).toNat = 0xd800 + offset / 0x400 :=
    toNat_ofNat_of_lt' (by omega)
  have trailing : (ofNat (0xdc00 + offset % 0x400)).toNat = 0xdc00 + offset % 0x400 :=
    toNat_ofNat_of_lt' (by omega)
  rw [leading, trailing]
  unfold leadingSurrogate trailingSurrogate pairCode
  rw [Bool.and_eq_true, Bool.and_eq_true, decide_eq_true_eq, decide_eq_true_eq, decide_eq_true_eq, decide_eq_true_eq]
  omega

/-- The shapes of a character's code units: one that is no surrogate, or a pair of surrogates. -/
theorem utf16Char_cases (char : Char) :
    (∃ unit, utf16Char char = [unit] ∧ unit.toNat = char.toNat ∧ leadingSurrogate unit.toNat = false ∧
      trailingSurrogate unit.toNat = false) ∨
    ∃ leading trailing, utf16Char char = [leading, trailing] ∧ leadingSurrogate leading.toNat = true ∧
      trailingSurrogate trailing.toNat = true ∧ pairCode leading.toNat trailing.toNat = char.toNat := by
  have valid : char.toNat < 0xd800 ∨ 0xdfff < char.toNat ∧ char.toNat < 0x110000 := char.valid
  have size : size = 0x10000 := rfl
  by_cases basic : char.toNat < 0x10000
  · have unit : (ofNat char.toNat).toNat = char.toNat := toNat_ofNat_of_lt' (by omega)
    have plain : leadingSurrogate char.toNat = false ∧ trailingSurrogate char.toNat = false := by
      simp only [leadingSurrogate, trailingSurrogate, Bool.and_eq_false_iff, decide_eq_false_iff_not]
      omega
    refine .inl ⟨ofNat char.toNat, by rw [utf16Char, if_pos basic], unit, ?_⟩
    rwa [unit]
  · obtain ⟨offset, code⟩ := Nat.exists_eq_add_of_le (Nat.le_of_not_lt basic)
    obtain ⟨leading, trailing, pair⟩ := surrogates_of_offset offset (by omega)
    refine .inr ⟨_, _, ?_, leading, trailing, pair.trans code.symm⟩
    rw [utf16Char, if_neg basic, code, Nat.add_sub_cancel_left]

theorem codePoints_utf16Char (char : Char) (rest : Units) :
    codePoints (utf16Char char ++ rest) = char.toNat :: codePoints rest := by
  obtain ⟨unit, same, code, leading, _⟩ | ⟨leading, trailing, same, first, second, code⟩ := utf16Char_cases char
  · rw [same, ← code]
    cases rest with
    | nil => rfl
    | cons next rest => simp [codePoints, leading]
  · rw [same, ← code]
    simp [codePoints, first, second]

theorem codePoints_utf16 (chars : List Char) : codePoints (utf16 chars) = chars.map Char.toNat := by
  induction chars with
  | nil => rfl
  | cons char chars ih => rw [utf16_cons, codePoints_utf16Char, ih, map_cons]

def scalar (code : Nat) : Char := if code.isValidChar then Char.ofNat code else Char.ofNat 0xfffd

def encodeUnits (units : Units) : List UInt8 := encodeUtf8 ((codePoints units).map scalar)

@[simp]
theorem encodeUnits_utf16 (chars : List Char) : encodeUnits (utf16 chars) = encodeUtf8 chars := by
  have scalars : ∀ char : Char, scalar char.toNat = char := by
    intro char
    have valid : char.toNat.isValidChar := char.valid
    rw [scalar, if_pos valid, Char.ofNat_toNat]
  simp [encodeUnits, codePoints_utf16, Function.comp_def, scalars]

def hasLoneSurrogate : Units → Bool
  | [] => false
  | [unit] => leadingSurrogate unit.toNat || trailingSurrogate unit.toNat
  | unit :: next :: rest =>
    if leadingSurrogate unit.toNat then !trailingSurrogate next.toNat || hasLoneSurrogate rest
    else trailingSurrogate unit.toNat || hasLoneSurrogate (next :: rest)

@[simp]
theorem hasLoneSurrogate_utf16 (chars : List Char) : hasLoneSurrogate (utf16 chars) = false := by
  induction chars with
  | nil => rfl
  | cons char chars ih =>
    obtain ⟨unit, same, _, leading, trailing⟩ | ⟨leading, trailing, same, first, second, _⟩ := utf16Char_cases char
    · rw [utf16_cons, same]
      cases rest : utf16 chars with
      | nil => simp [hasLoneSurrogate, leading, trailing]
      | cons next rest =>
        rw [rest] at ih
        simp [hasLoneSurrogate, leading, trailing, ih]
    · rw [utf16_cons, same]
      simp [hasLoneSurrogate, first, second, ih]

end Utf16

end AgentMesh.Library.Unicode
