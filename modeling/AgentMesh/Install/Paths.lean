import AgentMesh.Install.Text

/-! The paths that a record demands of its evidence are valid paths, whatever the identity of the installation. -/
namespace AgentMesh.Install
open Library Library.Unicode List

def isHexChar (char : Char) : Bool := char.isDigit || ('a' ≤ char && char ≤ 'f')

theorem toNat_of_isHexChar {char : Char} (hex : isHexChar char = true) :
    (48 ≤ char.toNat ∧ char.toNat ≤ 57) ∨ (97 ≤ char.toNat ∧ char.toNat ≤ 102) := by
  simp only [isHexChar, Char.isDigit, Bool.or_eq_true, Bool.and_eq_true, decide_eq_true_eq] at hex
  exact hex

theorem ne_of_isHexChar {char other : Char} (hex : isHexChar char = true) (plain : isHexChar other = false) :
    char ≠ other := by
  rintro rfl
  rw [hex] at plain
  contradiction

/-- A part of a path without separators. -/
structure Component (chars : List Char) : Prop where
  safe : isSafeWindowsComponent chars = true
  plain : '\\' ∉ chars ∧ '/' ∉ chars ∧ ':' ∉ chars

theorem length_utf16_of_hex {chars : List Char} (hex : ∀ char ∈ chars, isHexChar char = true) :
    (utf16 chars).length = chars.length := by
  induction chars with
  | nil => rfl
  | cons char chars ih =>
    rw [forall_mem_cons] at hex
    have small := toNat_of_isHexChar hex.1
    have one : utf16Char char = [UInt16.ofNat char.toNat] := if_pos (by omega)
    have rest := ih hex.2
    rw [utf16, flatMap_cons, one, ← utf16, singleton_append, length_cons, rest, length_cons]

theorem not_reserved_of_long {basename : List Char} (long : 8 ≤ basename.length) : isReservedName basename = false := by
  have short : ∀ name ∈ ["CON", "PRN", "AUX", "NUL", "CLOCK$", "CONIN$", "CONOUT$"], name.toList.length < 8 := by decide
  unfold isReservedName
  rw [Bool.or_eq_false_iff]
  constructor
  · rw [← Bool.not_eq_true, contains_iff_mem]
    intro member
    have few := short _ member
    rw [String.toList_ofList] at few
    omega
  · split
    · simp at long
    · rfl

theorem component_of_hex {chars : List Char} (hex : ∀ char ∈ chars, isHexChar char = true) (long : 8 ≤ chars.length)
    (fits : chars.length ≤ 255) : Component chars := by
  have other : ∀ char, isHexChar char = false → char ∉ chars := fun char plain member =>
    ne_of_isHexChar (hex char member) plain rfl
  have last : ∀ char, isHexChar char = false → chars.getLast? ≠ some char := fun char plain found =>
    other char plain (mem_of_getLast? found)
  have whole : chars.takeWhile (· ≠ '.') = chars := by
    rw [takeWhile_eq_self_iff]
    intro char member
    simpa using ne_of_isHexChar (hex char member) (by decide)
  have untrimmed : chars.rdropWhile (· = ' ') = chars := by
    rw [rdropWhile_eq_self_iff]
    intro nonempty
    simpa using ne_of_isHexChar (hex _ (getLast_mem nonempty)) (by decide)
  have reserved : isReservedName (chars.map Char.toUpper) = false := not_reserved_of_long (by rwa [length_map])
  refine ⟨?_, other _ (by decide), other _ (by decide), other _ (by decide)⟩
  simp only [isSafeWindowsComponent, Bool.and_eq_true, decide_eq_true_eq, Bool.not_eq_true', whole, untrimmed, reserved,
    all_eq_true, length_utf16_of_hex hex, and_true]
  refine ⟨⟨⟨⟨⟨⟨?_, fits⟩, ?_⟩, ?_⟩, last _ (by decide)⟩, last _ (by decide)⟩, fun char member => ?_⟩
  · rintro rfl
    simp at long
  · rintro rfl
    simp at long
  · rintro rfl
    simp at long
  · have small := toNat_of_isHexChar (hex char member)
    refine ⟨by omega, ?_⟩
    rw [← Bool.not_eq_true, contains_iff_mem]
    intro special
    have none : (['<', '>', '"', ':', '|', '?', '*'].all fun special => !isHexChar special) = true := by decide
    have absent := all_eq_true.mp none char special
    rw [hex char member] at absent
    contradiction

theorem mem_intercalate {separator char : Char} {components : List (List Char)}
    (member : char ∈ [separator].intercalate components) :
    char = separator ∨ ∃ component ∈ components, char ∈ component := by
  rw [intercalate, mem_flatten] at member
  obtain ⟨part, member, inside⟩ := member
  induction components with
  | nil => simp at member
  | cons component components ih =>
    cases components with
    | nil =>
      rw [intersperse_singleton, mem_singleton] at member
      exact .inr ⟨component, mem_cons_self, member ▸ inside⟩
    | cons next components =>
      rw [intersperse_cons_cons, mem_cons, mem_cons] at member
      obtain rfl | rfl | member := member
      · exact .inr ⟨part, mem_cons_self, inside⟩
      · exact .inl (mem_singleton.mp inside)
      · obtain same | ⟨other, later, inside⟩ := ih member
        · exact .inl same
        · exact .inr ⟨other, mem_cons_of_mem _ later, inside⟩

theorem isRelativeWindowsPath_of_components {first : List Char} {others : List (List Char)}
    (each : ∀ component ∈ first :: others, Component component) {value : String}
    (joined : value.toList = ['\\'].intercalate (first :: others)) (short : value.utf8ByteSize ≤ 512) :
    isRelativeWindowsPath value = true := by
  have parts : value.toList.splitOn '\\' = first :: others := by
    rw [joined]
    exact splitOn_intercalate '\\' (fun component member => (each component member).plain.1) (cons_ne_nil _ _)
  have absent : ∀ char, (char = '/' ∨ char = ':') → char ∉ value.toList := by
    intro char special member
    rw [joined] at member
    obtain rfl | ⟨component, inside, member⟩ := mem_intercalate member
    · revert special
      decide
    · obtain rfl | rfl := special
      · exact (each component inside).plain.2.1 member
      · exact (each component inside).plain.2.2 member
  have start : ∃ char rest, value.toList = char :: rest ∧ char ≠ '\\' := by
    have here := each first mem_cons_self
    cases first with
    | nil => exact absurd here.safe (by decide)
    | cons char chars =>
      refine ⟨char, (['\\'].intercalate ((char :: chars) :: others)).tail, ?_, fun same => ?_⟩
      · rw [joined]
        cases others <;> simp [intercalate]
      · exact here.plain.1 (same ▸ mem_cons_self)
  obtain ⟨char, rest, same, ink⟩ := start
  have named : value ≠ "" := by
    rintro rfl
    simp at same
  simp only [isRelativeWindowsPath, Bool.and_eq_true, decide_eq_true_eq, Bool.not_eq_true', parts, all_eq_true]
  refine ⟨⟨⟨⟨⟨named, short⟩, ?_⟩, ?_⟩, ?_⟩, fun component member => (each component member).safe⟩
  · simpa using absent '/' (.inl rfl)
  · rw [same, head?_cons]
    simpa using ink
  · simpa using absent ':' (.inr rfl)

theorem component_of_isLowerHex {length : Nat} {value : String} (hex : isLowerHex length value = true)
    (long : 8 ≤ length) (fits : length ≤ 255) : Component value.toList := by
  have size := size_of_isLowerHex hex
  simp only [isLowerHex, Bool.and_eq_true, all_eq_true] at hex
  have ascii : ∀ char ∈ value.toList, char.utf8Size = 1 := by
    intro char member
    have small := toNat_of_isHexChar (hex.2 char member)
    have low : char.val ≤ 0x7f := UInt32.le_iff_toNat_le.mpr (show char.toNat ≤ 0x7f by omega)
    exact Char.utf8Size_eq_one_iff.mpr low
  have count : value.toList.length = length := by
    rw [← length_encodeUtf8_of_ascii ascii, ← Daemon.utf8_eq, Daemon.Json.length_utf8, size]
  exact component_of_hex hex.2 (by omega) (by omega)

namespace InstallRecord

variable (record : InstallRecord)

theorem size_installRoot : record.installRoot.utf8ByteSize = 41 := by
  rw [installRoot, String.utf8ByteSize_append, size_of_isLowerHex record.installId.valid]
  rfl

theorem isRelativeWindowsPath_under {rest : List (List Char)} (each : ∀ component ∈ rest, Component component)
    {value : String} (short : value.utf8ByteSize ≤ 512)
    (joined : value.toList = ['\\'].intercalate ("installs".toList :: record.installId.value.toList :: rest)) :
    isRelativeWindowsPath value = true := by
  refine isRelativeWindowsPath_of_components ?_ joined short
  rw [forall_mem_cons, forall_mem_cons]
  exact ⟨⟨by decide, by decide⟩, component_of_isLowerHex record.installId.valid (by decide) (by decide), each⟩

def keyPath : RelativeWindowsPath where
  value := record.installRoot ++ "\\secrets\\endpoint-key.dpapi"
  valid := by
    refine @isRelativeWindowsPath_under record ["secrets".toList, "endpoint-key.dpapi".toList] ?_ _ ?_ ?_
    · rw [forall_mem_cons, forall_mem_singleton]
      exact ⟨⟨by decide +kernel, by decide⟩, ⟨by decide +kernel, by decide⟩⟩
    · rw [String.utf8ByteSize_append, size_installRoot]
      decide
    · simp [installRoot, intercalate]

def dataPath : RelativeWindowsPath where
  value := record.installRoot ++ "\\data"
  valid := by
    refine @isRelativeWindowsPath_under record ["data".toList] ?_ _ ?_ ?_
    · rw [forall_mem_singleton]
      exact ⟨by decide +kernel, by decide⟩
    · rw [String.utf8ByteSize_append, size_installRoot]
      decide
    · simp [installRoot, intercalate]

def runtimePath (digest : Sha256Digest) : RelativeWindowsPath where
  value := record.installRoot ++ "\\bin\\" ++ digest.value ++ "\\mesh-daemon.exe"
  valid := by
    refine @isRelativeWindowsPath_under record ["bin".toList, digest.value.toList, "mesh-daemon.exe".toList] ?_ _ ?_ ?_
    · rw [forall_mem_cons, forall_mem_cons, forall_mem_singleton]
      exact ⟨⟨by decide +kernel, by decide⟩, component_of_isLowerHex digest.valid (by decide) (by decide),
        ⟨by decide +kernel, by decide⟩⟩
    · rw [String.utf8ByteSize_append, String.utf8ByteSize_append, String.utf8ByteSize_append, size_installRoot,
        size_of_isLowerHex digest.valid]
      decide
    · simp [installRoot, intercalate]

end InstallRecord

end AgentMesh.Install
