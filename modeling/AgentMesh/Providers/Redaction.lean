import AgentMesh.Providers.Text

/-! The sanitizer of raw provider output (`adapters.rs`): values under sensitive keys and texts that carry a marker are
replaced, object keys are kept as they are. -/
namespace AgentMesh.Providers
open Daemon List

/-- A decoded JSON value. What a number is does not matter to the sanitizer; the fields of an object stand in the order
of their keys, each key once. -/
inductive Value (ν : Type) where
  | null
  | bool (value : Bool)
  | number (value : ν)
  | text (value : String)
  | array (items : List (Value ν))
  | object (fields : List (String × Value ν))

def redacted : String := "[redacted]"

def maxRawLineBytes : Nat := 65536

def sensitiveKeys : List String :=
  ["advisor", "anthropic_model", "api_key", "account_id", "credential", "fallback_model", "model", "model_name",
    "organization_id", "password", "prompt", "secret", "token", "user_id"]

/-- `to_ascii_lowercase`. -/
def lowercase (text : String) : List Char := text.toList.map Char.toLower

def isModelKey (key : String) : Bool :=
  ["model", "model_name", "fallback_model", "advisor", "anthropic_model"].any fun name => lowercase key = name.toList

def isSensitiveKey (key : String) : Bool :=
  let lower := lowercase key
  (sensitiveKeys.any fun sensitive => lower = sensitive.toList || decide ('_' :: sensitive.toList <:+ lower)) ||
    isModelKey key || decide ("model".toList <:+: lower) || decide ("api_key".toList <:+: lower) ||
    decide ("apikey".toList <:+: lower) || decide ("configoption".toList <:+: lower)

/-- `contains_drive_path`: a letter, a colon and a backslash in a row. -/
def containsDrivePath : Bytes → Bool
  | first :: second :: third :: rest =>
    ((0x61 ≤ first && first ≤ 0x7a || 0x41 ≤ first && first ≤ 0x5a) && second == 0x3a && third == 0x5c) ||
      containsDrivePath (second :: third :: rest)
  | _ => false

/-- The markers `sanitize_text` looks for. -/
def marked (text : String) : Bool :=
  let lower := lowercase text
  ([":\\users\\", "/users/", "/home/", "sk-", "-----begin "].any fun marker => decide (marker.toList <:+: lower)) ||
    containsDrivePath (utf8 text)

def sanitizeText (text : String) : String := if marked text then redacted else text

section

variable {ν : Type}

theorem Value.induction {holds : Value ν → Prop} (null : holds null) (bool : ∀ value, holds (bool value))
    (number : ∀ value, holds (number value)) (text : ∀ value, holds (text value))
    (array : ∀ items, (∀ item ∈ items, holds item) → holds (array items))
    (object : ∀ fields, (∀ field ∈ fields, holds field.2) → holds (object fields)) (value : Value ν) : holds value :=
  Value.rec null bool number text array object (fun _ member => absurd member not_mem_nil)
    (fun _ _ first others => forall_mem_cons.mpr ⟨first, others⟩)
    (fun _ member => absurd member not_mem_nil)
    (fun _ _ first others => forall_mem_cons.mpr ⟨first, others⟩) (fun _ _ second => second) value

mutual

def sanitizeValue : Value ν → Value ν
  | .object fields => .object (sanitizeFields fields)
  | .array items => .array (sanitizeItems items)
  | .text text => .text (sanitizeText text)
  | other => other

def sanitizeItems : List (Value ν) → List (Value ν)
  | [] => []
  | item :: items => sanitizeValue item :: sanitizeItems items

def sanitizeFields : List (String × Value ν) → List (String × Value ν)
  | [] => []
  | (key, nested) :: fields =>
    (key, if isSensitiveKey key then .text redacted else sanitizeValue nested) :: sanitizeFields fields

end

theorem sanitizeItems_eq (items : List (Value ν)) : sanitizeItems items = items.map sanitizeValue := by
  induction items with
  | nil => rfl
  | cons item items ih => simp only [sanitizeItems, map_cons, ih]

theorem sanitizeFields_eq (fields : List (String × Value ν)) : sanitizeFields fields = fields.map fun field =>
    (field.1, if isSensitiveKey field.1 then .text redacted else sanitizeValue field.2) := by
  induction fields with
  | nil => rfl
  | cons field fields ih => simp only [sanitizeFields, map_cons, ih]

theorem marked_sanitizeText (text : String) : marked (sanitizeText text) = false := by
  unfold sanitizeText
  split
  case isTrue => decide
  case isFalse plain => simpa using plain

theorem sanitizeText_of_unmarked {text : String} (plain : marked text = false) : sanitizeText text = text := by
  simp [sanitizeText, plain]

mutual

/-- The two values agree, except in texts that are marked in both and below sensitive keys. -/
inductive Alike : Value ν → Value ν → Prop where
  | same (value : Value ν) : Alike value value
  | hidden {text other : String} (first : marked text = true) (second : marked other = true) :
    Alike (.text text) (.text other)
  | array {items others : List (Value ν)} (each : List.Forall₂ Alike items others) :
    Alike (.array items) (.array others)
  | object {fields others : List (String × Value ν)} (each : List.Forall₂ AlikeField fields others) :
    Alike (.object fields) (.object others)

inductive AlikeField : String × Value ν → String × Value ν → Prop where
  | hidden {key : String} (value other : Value ν) (sensitive : isSensitiveKey key = true) :
    AlikeField (key, value) (key, other)
  | shown (key : String) {value other : Value ν} (alike : Alike value other) : AlikeField (key, value) (key, other)

end

theorem sanitizeValue_of_alike (value : Value ν) :
    ∀ {other}, Alike value other → sanitizeValue value = sanitizeValue other := by
  induction value using Value.induction with
  | null | bool | number => intro other alike; cases alike; rfl
  | text text =>
    intro other alike
    cases alike with
    | same => rfl
    | hidden first second => simp only [sanitizeValue, sanitizeText, first, second, if_true]
  | array items ih =>
    intro other alike
    cases alike with
    | same => rfl
    | array each =>
      simp only [sanitizeValue, sanitizeItems_eq, Value.array.injEq]
      induction each with
      | nil => rfl
      | cons first _ tail =>
        rw [map_cons, map_cons, ih _ mem_cons_self first, tail fun item member => ih item (mem_cons_of_mem _ member)]
  | object fields ih =>
    intro other alike
    cases alike with
    | same => rfl
    | object each =>
      simp only [sanitizeValue, sanitizeFields_eq, Value.object.injEq]
      induction each with
      | nil => rfl
      | cons first _ tail =>
        rw [map_cons, map_cons, tail fun item member => ih item (mem_cons_of_mem _ member)]
        cases first with
        | hidden value other sensitive => simp only [sensitive, if_true]
        | shown key alike => rw [ih _ mem_cons_self alike]

theorem sanitizeValue_idem (value : Value ν) : sanitizeValue (sanitizeValue value) = sanitizeValue value := by
  induction value using Value.induction with
  | null | bool | number => rfl
  | text text => simp only [sanitizeValue, sanitizeText_of_unmarked (marked_sanitizeText text)]
  | array items ih =>
    simp only [sanitizeValue, sanitizeItems_eq, map_map]
    exact congrArg _ (map_congr_left ih)
  | object fields ih =>
    simp only [sanitizeValue, sanitizeFields_eq, map_map]
    refine congrArg _ (map_congr_left fun field member => ?_)
    simp only [Function.comp_apply]
    split
    · rfl
    · rw [ih field member]

/-- The text is a value or an object key somewhere in the value. -/
inductive Occurs (text : String) : Value ν → Prop where
  | text : Occurs text (.text text)
  | item {items : List (Value ν)} {item : Value ν} (member : item ∈ items) (inside : Occurs text item) :
    Occurs text (.array items)
  | key {fields : List (String × Value ν)} {value : Value ν} (member : (text, value) ∈ fields) :
    Occurs text (.object fields)
  | field {fields : List (String × Value ν)} {field : String × Value ν} (member : field ∈ fields)
    (inside : Occurs text field.2) : Occurs text (.object fields)

/-- The text is an object key that stands below no sensitive key. -/
inductive Keyed (text : String) : Value ν → Prop where
  | item {items : List (Value ν)} {item : Value ν} (member : item ∈ items) (inside : Keyed text item) :
    Keyed text (.array items)
  | key {fields : List (String × Value ν)} {value : Value ν} (member : (text, value) ∈ fields) :
    Keyed text (.object fields)
  | field {fields : List (String × Value ν)} {field : String × Value ν} (member : field ∈ fields)
    (plain : isSensitiveKey field.1 = false) (inside : Keyed text field.2) : Keyed text (.object fields)

theorem occurs_of_keyed {key : String} {value : Value ν} (keyed : Keyed key value) :
    Occurs key (sanitizeValue value) := by
  induction keyed with
  | item member _ ih =>
    rw [sanitizeValue, sanitizeItems_eq]
    exact .item (mem_map_of_mem member) ih
  | key member =>
    rw [sanitizeValue, sanitizeFields_eq]
    exact .key (mem_map_of_mem member)
  | field member plain _ ih =>
    rw [sanitizeValue, sanitizeFields_eq]
    refine .field (mem_map_of_mem member) ?_
    rwa [if_neg (by simp [plain])]

theorem keyed_of_occurs {text : String} (value : Value ν) (occurs : Occurs text (sanitizeValue value)) :
    marked text = false ∨ Keyed text value := by
  induction value using Value.induction with
  | null | bool | number => cases occurs
  | text value =>
    cases occurs
    exact .inl (marked_sanitizeText value)
  | array items ih =>
    rw [sanitizeValue, sanitizeItems_eq] at occurs
    cases occurs with
    | item member inside =>
      obtain ⟨item, listed, rfl⟩ := mem_map.mp member
      exact (ih item listed inside).imp_right (.item listed)
  | object fields ih =>
    rw [sanitizeValue, sanitizeFields_eq] at occurs
    cases occurs with
    | key member =>
      obtain ⟨field, listed, same⟩ := mem_map.mp member
      obtain rfl := congrArg Prod.fst same
      exact .inr (.key listed)
    | field member inside =>
      obtain ⟨field, listed, rfl⟩ := mem_map.mp member
      cases sensitive : isSensitiveKey field.1 with
      | true =>
        simp only [sensitive, if_true] at inside
        cases inside
        exact .inl (by decide)
      | false =>
        simp only [sensitive, Bool.false_eq_true, if_false] at inside
        exact (ih field listed inside).imp_right (.field listed sensitive)

theorem unmarked_iff (value : Value ν) : (∀ text, Occurs text (sanitizeValue value) → marked text = false) ↔
    ∀ key, Keyed key value → marked key = false := by
  constructor
  · intro clean key keyed
    exact clean key (occurs_of_keyed keyed)
  · intro clean text occurs
    exact (keyed_of_occurs value occurs).elim id (clean text)

/-- What the sanitizer uses: the writer and the strict reader of JSON, numbers made of naturals, and SHA-256 in hex. -/
structure Services (ν : Type) where
  toText : Value ν → String
  parseStrictJson : String → Option (Value ν)
  ofNat : Nat → ν
  sha256Hex : Bytes → String

namespace Services

variable (services : Services ν)

def sanitizeRaw (value : Value ν) : Value ν × String :=
  let sanitized := sanitizeValue value
  (sanitized, services.sha256Hex (utf8 (services.toText sanitized)))

def sanitizeRawLine (line : String) : Value ν × String :=
  let trimmed := trim line
  if trimmed.utf8ByteSize > maxRawLineBytes then
    services.sanitizeRaw (.object [("bytes", .number (services.ofNat trimmed.utf8ByteSize)), ("kind", .text "truncated")])
  else
    match services.parseStrictJson trimmed with
    | some parsed => services.sanitizeRaw parsed
    | none => services.sanitizeRaw (.object [("kind", .text "non_json"),
        ("preview", .text (sanitizeText (String.ofList (trimmed.toList.take 128))))])

end Services

/-- What the sanitizer gives does not depend on values under sensitive keys or on marked texts, and sanitizing again
changes nothing. -/
theorem sanitizeRaw_hides (services : Services ν) :
    (∀ value other, Alike value other → services.sanitizeRaw value = services.sanitizeRaw other) ∧
      ∀ value, services.sanitizeRaw (services.sanitizeRaw value).1 = services.sanitizeRaw value := by
  constructor
  · intro value other alike
    simp only [Services.sanitizeRaw, sanitizeValue_of_alike value alike]
  · intro value
    simp only [Services.sanitizeRaw, sanitizeValue_idem]

/-- Two values that differ under a sensitive key and in a marked text. -/
theorem sanitizeRaw_hides_key :
    let services : Services Nat := ⟨fun _ => "", fun _ => none, id, fun _ => ""⟩
    services.sanitizeRaw (.object [("api_key", .text "first"), ("note", .text "/home/first")]) =
      services.sanitizeRaw (.object [("api_key", .text "second"), ("note", .text "/home/second")]) :=
  (sanitizeRaw_hides _).1 _ _ (.object (.cons (.hidden _ _ (by decide +kernel))
    (.cons (.shown _ (.hidden (by decide +kernel) (by decide +kernel))) .nil)))

theorem unmarked_of_flat {fields : List (String × Value ν)}
    (flat : ∀ field ∈ fields, marked field.1 = false ∧ ∀ key, ¬Keyed key field.2) (key : String)
    (keyed : Keyed key (.object fields)) : marked key = false := by
  cases keyed with
  | key member => exact (flat _ member).1
  | field member _ inside => exact absurd inside ((flat _ member).2 key)

theorem not_keyed_text (key text : String) : ¬Keyed key (.text text : Value ν) := fun keyed => by cases keyed

/-- No marker is left exactly if none stands in an object key outside the values that are replaced. -/
theorem sanitized_unmarked_iff (services : Services ν) :
    (∀ value, (∀ text, Occurs text (services.sanitizeRaw value).1 → marked text = false) ↔
      ∀ key, Keyed key value → marked key = false) ∧
    ∀ line, (∀ text, Occurs text (services.sanitizeRawLine line).1 → marked text = false) ↔
      ∀ value, (trim line).utf8ByteSize ≤ maxRawLineBytes → services.parseStrictJson (trim line) = some value →
        ∀ key, Keyed key value → marked key = false := by
  refine ⟨unmarked_iff, fun line => ?_⟩
  unfold Services.sanitizeRawLine
  by_cases long : (trim line).utf8ByteSize > maxRawLineBytes
  · simp only [if_pos long, Services.sanitizeRaw, unmarked_iff]
    refine ⟨fun _ _ short => absurd long (by omega), fun _ key keyed => unmarked_of_flat ?_ key keyed⟩
    simp only [forall_mem_cons]
    refine ⟨⟨by decide, fun key keyed => by cases keyed⟩, ⟨by decide, (not_keyed_text · _)⟩, by simp⟩
  · have short : (trim line).utf8ByteSize ≤ maxRawLineBytes := by omega
    rw [if_neg long]
    cases parsed : services.parseStrictJson (trim line) with
    | some value => simp [Services.sanitizeRaw, unmarked_iff, short]
    | none =>
      simp only [Services.sanitizeRaw, unmarked_iff, reduceCtorEq, false_imp_iff, implies_true, iff_true]
      refine fun key keyed => unmarked_of_flat ?_ key keyed
      simp only [forall_mem_cons]
      refine ⟨⟨by decide, (not_keyed_text · _)⟩, ⟨by decide, (not_keyed_text · _)⟩, by simp⟩

/-- Services that write and digest everything as the empty text and parse no line. -/
def blind : Services Int where
  toText _ := ""
  parseStrictJson _ := none
  ofNat := Int.ofNat
  sha256Hex _ := ""

/-- A home directory that is an object key is kept. -/
theorem marked_key_kept :
    Occurs "/home/alice/notes.txt" (blind.sanitizeRaw (.object [("/home/alice/notes.txt", .null)])).1 ∧
      marked "/home/alice/notes.txt" = true :=
  ⟨.key (mem_singleton.mpr rfl), by decide⟩

end

end AgentMesh.Providers
