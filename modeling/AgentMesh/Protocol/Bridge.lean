import AgentMesh.Daemon.Writer
import AgentMesh.Protocol.Canonical
import AgentMesh.Protocol.Serde

/-! The canonical text of the TypeScript bridge. Objects of its language list their properties with array indices
first, so the text that it writes is the daemon's only for objects in which the indices come first anyway. -/
namespace AgentMesh.Bridge
open Library Library.Literal Library.Unicode List
open Daemon (Json Codec)

/-- A number of the language: an integer, or one whose text is not an integer's (minus zero among them). -/
inductive JsNumber where
  | integer (value : Int)
  | other (text : Units)

/-- A value without functions; the properties of an object in the order of their creation. -/
inductive JsValue where
  | null
  | boolean (value : Bool)
  | number (value : JsNumber)
  | string (value : Units)
  | array (items : List JsValue)
  | object (properties : List (Units × JsValue))

mutual

/-- `assertRestrictedJson` does not throw. -/
def assertRestrictedJson : JsValue → Bool
  | .null => true
  | .boolean _ => true
  | .number (.integer value) => Json.safeInteger value
  | .number (.other _) => false
  | .string value => !hasLoneSurrogate value
  | .array items => assertRestrictedItems items
  | .object properties => assertRestrictedProperties properties

def assertRestrictedItems : List JsValue → Bool
  | [] => true
  | item :: items => assertRestrictedJson item && assertRestrictedItems items

def assertRestrictedProperties : List (Units × JsValue) → Bool
  | [] => true
  | (key, value) :: properties =>
    !hasLoneSurrogate key && assertRestrictedJson value && assertRestrictedProperties properties

end

/-- The number of a property key that is an array index: decimal digits without leading zeros, below `2 ^ 32 - 1`. -/
def arrayIndex (key : Units) : Option Nat :=
  let index := key.foldl (fun number unit => number * 10 + (unit.toNat - 48)) 0
  if key ≠ [] ∧ (key.all fun unit => decide (48 ≤ unit.toNat ∧ unit.toNat ≤ 57)) = true ∧
      (key.head? ≠ some 48 ∨ key = [48]) ∧ index < 4294967295 then some index
  else none

section Order

variable {α β : Type}

/-- `Object.keys(…).sort(compareUtf8)`: entries by the bytes of their keys. -/
def sortUtf8 (key : α → Units) (entries : List α) : List α :=
  entries.insertionSort fun left right => ¬encodeUnits (key right) < encodeUnits (key left)

/-- How an object lists properties created in the given order: the array indices by number, then the other keys. -/
def ownOrder (key : α → Units) (entries : List α) : List α :=
  ((entries.filter fun entry => (arrayIndex (key entry)).isSome).insertionSort fun left right =>
    (arrayIndex (key left)).getD 0 ≤ (arrayIndex (key right)).getD 0) ++
  entries.filter fun entry => (arrayIndex (key entry)).isNone

/-- A key with the first index may stand before a key with the second. -/
def precedes : Option Nat → Option Nat → Bool
  | _, none => true
  | none, some _ => false
  | some number, some other => number ≤ other

theorem ownOrder_map (key : β → Units) (change : α → β) (entries : List α) :
    ownOrder key (entries.map change) = (ownOrder (fun entry => key (change entry)) entries).map change := by
  have sorted := map_insertionSort change (entries.filter fun entry => (arrayIndex (key (change entry))).isSome)
    (r := fun left right => (arrayIndex (key (change left))).getD 0 ≤ (arrayIndex (key (change right))).getD 0)
    (s := fun left right => (arrayIndex (key left)).getD 0 ≤ (arrayIndex (key right)).getD 0)
    (fun _ _ _ _ => Iff.rfl)
  unfold ownOrder
  rw [map_append, filter_map, filter_map, sorted]
  rfl

/-- The order of creation is kept exactly when every key may stand before the later ones. -/
theorem ownOrder_eq_self_iff (key : α → Units) (entries : List α) : ownOrder key entries = entries ↔
    entries.Pairwise fun left right => precedes (arrayIndex (key left)) (arrayIndex (key right)) = true := by
  constructor
  · intro same
    rw [← same, ownOrder, pairwise_append]
    refine ⟨?_, ?_, ?_⟩
    · have sorted := pairwise_insertionSort
        (fun left right => (arrayIndex (key left)).getD 0 ≤ (arrayIndex (key right)).getD 0)
        (entries.filter fun entry => (arrayIndex (key entry)).isSome)
      refine sorted.imp_of_mem fun {left right} leftMember rightMember le => ?_
      rw [mem_insertionSort, mem_filter] at leftMember rightMember
      obtain ⟨number, found⟩ := Option.isSome_iff_exists.mp leftMember.2
      obtain ⟨other, foundOther⟩ := Option.isSome_iff_exists.mp rightMember.2
      simpa [precedes, found, foundOther] using le
    · refine pairwise_of_forall_mem_list fun left _ right member => ?_
      rw [mem_filter, Option.isNone_iff_eq_none] at member
      rw [member.2, precedes]
    · intro left _ right member
      rw [mem_filter, Option.isNone_iff_eq_none] at member
      rw [member.2, precedes]
  · intro ordered
    have indexed : (entries.filter fun entry => (arrayIndex (key entry)).isSome).Pairwise fun left right =>
        (arrayIndex (key left)).getD 0 ≤ (arrayIndex (key right)).getD 0 := by
      refine (ordered.filter _).imp_of_mem fun {left right} leftMember rightMember before => ?_
      obtain ⟨number, found⟩ := Option.isSome_iff_exists.mp (mem_filter.mp leftMember).2
      obtain ⟨other, foundOther⟩ := Option.isSome_iff_exists.mp (mem_filter.mp rightMember).2
      simpa [precedes, found, foundOther] using before
    rw [ownOrder, indexed.insertionSort_eq]
    induction entries with
    | nil => rfl
    | cons entry entries ih =>
      obtain ⟨first, rest⟩ := pairwise_cons.mp ordered
      cases found : arrayIndex (key entry) with
      | some number =>
        have later := ih rest (indexed.sublist ((sublist_cons_self _ _).filter _))
        simp [found, later]
      | none =>
        -- After a key that is no index there is none, so the indexed part is empty.
        have none_later : ∀ other ∈ entries, arrayIndex (key other) = none := by
          intro other member
          have before := first other member
          rw [found] at before
          cases index : arrayIndex (key other) with
          | none => rfl
          | some number => simp [index, precedes] at before
        have empty : (entries.filter fun entry => (arrayIndex (key entry)).isSome) = [] := by
          rw [filter_eq_nil_iff]
          intro other member
          simp [none_later other member]
        have whole : (entries.filter fun entry => (arrayIndex (key entry)).isNone) = entries := by
          rw [filter_eq_self]
          intro other member
          simp [none_later other member]
        simp [found, empty, whole]

end Order

mutual

/-- `canonical`, without the check that `canonicalize` makes first; a nested call repeats a part of it. The object is
made from its entries in the order of the bytes of their keys. -/
def canonical : JsValue → JsValue
  | .array items => .array (canonicalItems items)
  | .object properties => .object (sortUtf8 Prod.fst (canonicalProperties properties))
  | primitive => primitive

def canonicalItems : List JsValue → List JsValue
  | [] => []
  | item :: items => canonical item :: canonicalItems items

def canonicalProperties : List (Units × JsValue) → List (Units × JsValue)
  | [] => []
  | (key, value) :: properties => (key, canonical value) :: canonicalProperties properties

end

def hexUnit (value : Nat) : UInt16 := if value < 10 then UInt16.ofNat (48 + value) else UInt16.ofNat (87 + value)

/-- How `JSON.stringify` writes a code unit of a text without lone surrogates. -/
def quoteUnit (unit : UInt16) : Units :=
  if unit = 8 then [92, 98]
  else if unit = 9 then [92, 116]
  else if unit = 10 then [92, 110]
  else if unit = 12 then [92, 102]
  else if unit = 13 then [92, 114]
  else if unit = 34 then [92, 34]
  else if unit = 92 then [92, 92]
  else if unit < 32 then [92, 117, 48, 48, hexUnit (unit.toNat / 16), hexUnit (unit.toNat % 16)]
  else [unit]

def quoteUnits (text : Units) : Units := 34 :: (text.flatMap quoteUnit ++ [34])

def bracketed (first last : UInt16) (texts : List Units) : Units := first :: ([44].intercalate texts ++ [last])

mutual

/-- `JSON.stringify`. -/
def stringify : JsValue → Units
  | .null => utf16 "null".toList
  | .boolean true => utf16 "true".toList
  | .boolean false => utf16 "false".toList
  | .number (.integer value) => utf16 (decimal value)
  | .number (.other text) => text
  | .string value => quoteUnits value
  | .array items => bracketed 91 93 (stringifyItems items)
  | .object properties =>
    bracketed 123 125 ((ownOrder Prod.fst (stringifyProperties properties)).map fun property =>
      quoteUnits property.1 ++ 58 :: property.2)

def stringifyItems : List JsValue → List Units
  | [] => []
  | item :: items => stringify item :: stringifyItems items

def stringifyProperties : List (Units × JsValue) → List (Units × Units)
  | [] => []
  | (key, value) :: properties => (key, stringify value) :: stringifyProperties properties

end

/-- `canonicalize` of the bridge. -/
def canonicalize (value : JsValue) : Option Units :=
  if assertRestrictedJson value then some (stringify (canonical value)) else none

mutual

/-- A JSON value in the bridge's language. An integer beyond the safe range is rounded to a number that is no safe
integer. -/
def represent : Json → JsValue
  | .null => .null
  | .bool value => .boolean value
  | .number value => .number (if Json.safeInteger value then .integer value else .other [])
  | .string value => .string (utf16 value.toList)
  | .array items => .array (representItems items)
  | .object fields => .object (representFields fields)

def representItems : List Json → List JsValue
  | [] => []
  | item :: items => represent item :: representItems items

def representFields : List (String × Json) → List (Units × JsValue)
  | [] => []
  | (key, value) :: fields => (utf16 key.toList, represent value) :: representFields fields

end

section Members

variable (items : List Json) (fields : List (String × Json))

theorem representItems_eq : representItems items = items.map represent := by
  induction items with
  | nil => rfl
  | cons item items ih => rw [representItems, ih, map_cons]

theorem representFields_eq :
    representFields fields = fields.map fun field => (utf16 field.1.toList, represent field.2) := by
  induction fields with
  | nil => rfl
  | cons field fields ih => rw [representFields, ih, map_cons]

theorem canonicalItems_eq (items : List JsValue) : canonicalItems items = items.map canonical := by
  induction items with
  | nil => rfl
  | cons item items ih => rw [canonicalItems, ih, map_cons]

theorem canonicalProperties_eq (properties : List (Units × JsValue)) :
    canonicalProperties properties = properties.map fun property => (property.1, canonical property.2) := by
  induction properties with
  | nil => rfl
  | cons property properties ih => rw [canonicalProperties, ih, map_cons]

theorem stringifyItems_eq (items : List JsValue) : stringifyItems items = items.map stringify := by
  induction items with
  | nil => rfl
  | cons item items ih => rw [stringifyItems, ih, map_cons]

theorem stringifyProperties_eq (properties : List (Units × JsValue)) :
    stringifyProperties properties = properties.map fun property => (property.1, stringify property.2) := by
  induction properties with
  | nil => rfl
  | cons property properties ih => rw [stringifyProperties, ih, map_cons]

theorem writeItems_eq : Json.writeItems items = items.map Json.write := by
  induction items with
  | nil => rfl
  | cons item items ih => rw [Json.writeItems, ih, map_cons]

theorem writeFields_eq :
    Json.writeFields fields = fields.map fun field => quote field.1 ++ ':' :: Json.write field.2 := by
  induction fields with
  | nil => rfl
  | cons field fields ih => rw [Json.writeFields, ih, map_cons]

end Members

section Accepted

theorem assertRestricted_represent (value : Json) (safe : value.validateNumbers = true) :
    assertRestrictedJson (represent value) = true := by
  induction value using Json.induction with
  | null => rfl
  | bool => rfl
  | number value =>
    rw [Json.validateNumbers] at safe
    simp [represent, assertRestrictedJson, safe]
  | string value => simp [represent, assertRestrictedJson]
  | array items ih =>
    rw [Json.validateNumbers, Json.validateItems_iff] at safe
    rw [represent, assertRestrictedJson]
    induction items with
    | nil => rfl
    | cons item items rest =>
      rw [forall_mem_cons] at ih safe
      simp [representItems, assertRestrictedItems, ih.1 safe.1, rest ih.2 safe.2]
  | object fields ih =>
    rw [Json.validateNumbers, Json.validateFields_iff] at safe
    rw [represent, assertRestrictedJson]
    induction fields with
    | nil => rfl
    | cons field fields rest =>
      rw [forall_mem_cons] at ih safe
      simp [representFields, assertRestrictedProperties, ih.1 safe.1, rest ih.2 safe.2]

end Accepted

section Sorted

theorem lt_iff_utf8_lt (text other : String) : text < other ↔ Daemon.utf8 text < Daemon.utf8 other := by
  rw [Daemon.utf8_eq, Daemon.utf8_eq, encodeUtf8_lt_iff, String.lt_iff]

theorem encodeUnits_key (text : String) : encodeUnits (utf16 text.toList) = Daemon.utf8 text := by
  rw [encodeUnits_utf16, Daemon.utf8_eq]

theorem orderedInsert_represent {key : String} (value : Json) {fields : List (String × Json)}
    (absent : key ∉ fields.map Prod.fst) :
    (representFields fields).orderedInsert
        (fun left right => ¬encodeUnits right.1 < encodeUnits left.1) (utf16 key.toList, represent value) =
      representFields (Json.insertField key value fields) := by
  induction fields with
  | nil => rfl
  | cons field fields ih =>
    obtain ⟨other, stored⟩ := field
    simp only [map_cons, mem_cons, not_or] at absent
    simp only [representFields, orderedInsert_cons, encodeUnits_key, ← lt_iff_utf8_lt, Json.insertField]
    by_cases before : key < other
    · rw [if_pos (lt_asymm before), if_pos before]
      rfl
    · have after : other < key := lt_of_le_of_ne (not_lt.mp before) (.symm absent.1)
      rw [if_neg (not_not.mpr after), if_neg before, if_neg absent.1, ih absent.2]
      rfl

theorem sortUtf8_representFields {fields : List (String × Json)} (distinct : (fields.map Prod.fst).Nodup) :
    sortUtf8 Prod.fst (representFields (fields.map fun field => (field.1, field.2.canonicalValue))) =
      representFields (Json.canonicalFields fields) := by
  induction fields with
  | nil => rfl
  | cons field fields ih =>
    obtain ⟨key, value⟩ := field
    obtain ⟨absent, rest⟩ := nodup_cons.mp distinct
    have unused : key ∉ (Json.canonicalFields fields).map Prod.fst := by
      intro member
      obtain ⟨field, found, rfl⟩ := mem_map.mp member
      obtain ⟨value, stored, _⟩ := Json.mem_canonicalFields found
      exact absent (mem_map.mpr ⟨_, stored, rfl⟩)
    have sorted := ih rest
    unfold sortUtf8 at sorted ⊢
    rw [map_cons, representFields, insertionSort_cons, sorted, orderedInsert_represent _ unused]
    rfl

theorem canonical_represent (value : Json) (distinct : value.distinctKeys = true) :
    canonical (represent value) = represent value.canonicalValue := by
  induction value using Json.induction with
  | array items ih =>
    rw [Json.distinctKeys, Json.distinctItems_iff] at distinct
    simp only [represent, canonical, Json.canonicalValue, representItems_eq, canonicalItems_eq, Json.canonicalItems_eq,
      map_map, JsValue.array.injEq]
    exact map_congr_left fun item member => ih item member (distinct item member)
  | object fields ih =>
    rw [Json.distinct_object] at distinct
    have each : canonicalProperties (representFields fields) =
        representFields (fields.map fun field => (field.1, field.2.canonicalValue)) := by
      simp only [canonicalProperties_eq, representFields_eq, map_map]
      refine map_congr_left fun field member => ?_
      simp only [Function.comp_apply, ih field member (distinct.2 field member)]
    rw [represent, canonical, each, sortUtf8_representFields distinct.1]
    rfl
  | _ => rfl

end Sorted

mutual

/-- A value with the fields of every object in the order in which the bridge's language lists them. -/
def ownValue : Json → Json
  | .array items => .array (ownItems items)
  | .object fields => .object (ownOrder (fun field => utf16 field.1.toList) (ownFields fields))
  | primitive => primitive

def ownItems : List Json → List Json
  | [] => []
  | item :: items => ownValue item :: ownItems items

def ownFields : List (String × Json) → List (String × Json)
  | [] => []
  | (key, value) :: fields => (key, ownValue value) :: ownFields fields

end

section Text

theorem ownItems_eq (items : List Json) : ownItems items = items.map ownValue := by
  induction items with
  | nil => rfl
  | cons item items ih => rw [ownItems, ih, map_cons]

theorem ownFields_eq (fields : List (String × Json)) :
    ownFields fields = fields.map fun field => (field.1, ownValue field.2) := by
  induction fields with
  | nil => rfl
  | cons field fields ih => rw [ownFields, ih, map_cons]

theorem quoteUnit_control : ∀ code < 32, quoteUnit (.ofNat code) = utf16 (escape (.ofNat code)) := by decide

theorem quoteUnit_of_le {unit : UInt16} (visible : 32 ≤ unit.toNat) (mark : unit.toNat ≠ 34)
    (slash : unit.toNat ≠ 92) : quoteUnit unit = [unit] := by
  have other : ∀ escaped : UInt16, escaped.toNat < 32 ∨ escaped.toNat = 34 ∨ escaped.toNat = 92 → unit ≠ escaped := by
    rintro escaped special rfl
    omega
  have printed : ¬unit < 32 := by
    rw [UInt16.lt_iff_toNat_lt]
    exact Nat.not_lt.mpr visible
  simp only [quoteUnit, other 8 (by decide), other 9 (by decide), other 10 (by decide), other 12 (by decide),
    other 13 (by decide), other 34 (by decide), other 92 (by decide), printed, if_false]

theorem escape_of_le {char : Char} (visible : 32 ≤ char.toNat) (mark : char ≠ '"') (slash : char ≠ '\\') :
    escape char = [char] := by
  unfold escape
  split
  case h_8 => exact if_neg (Nat.not_lt.mpr visible)
  all_goals contradiction

theorem quoteUnit_char (char : Char) : (utf16Char char).flatMap quoteUnit = utf16 (escape char) := by
  by_cases control : char.toNat < 32
  · have unit : utf16Char char = [UInt16.ofNat char.toNat] := if_pos (by omega)
    rw [unit, flatMap_singleton, quoteUnit_control _ control, Char.ofNat_toNat]
  by_cases mark : char = '"'
  · rw [mark]
    decide
  by_cases slash : char = '\\'
  · rw [slash]
    decide
  rw [escape_of_le (Nat.le_of_not_lt control) mark slash, utf16_cons, utf16_nil, append_nil]
  obtain ⟨unit, same, code, _⟩ | ⟨leading, trailing, same, first, second, _⟩ := utf16Char_cases char
  · have different : ∀ other : Char, char ≠ other → char.toNat ≠ other.toNat := fun _ other code =>
      other (Char.toNat_inj.mp code)
    rw [same, flatMap_singleton]
    exact quoteUnit_of_le (by omega) (code ▸ different _ mark) (code ▸ different _ slash)
  · unfold leadingSurrogate at first
    unfold trailingSurrogate at second
    rw [Bool.and_eq_true, decide_eq_true_eq, decide_eq_true_eq] at first second
    rw [same, flatMap_cons, flatMap_singleton, quoteUnit_of_le (by omega) (by omega) (by omega),
      quoteUnit_of_le (by omega) (by omega) (by omega)]
    rfl

theorem quoteUnits_utf16 (text : String) : quoteUnits (utf16 text.toList) = utf16 (quote text) := by
  have escaped : ∀ chars : List Char, (utf16 chars).flatMap quoteUnit = utf16 (chars.flatMap escape) := by
    intro chars
    induction chars with
    | nil => rfl
    | cons char chars ih =>
      rw [utf16_cons, flatMap_append, quoteUnit_char, ih, flatMap_cons, utf16_append]
  have mark : utf16Char '"' = [34] := by decide
  rw [quoteUnits, quote, escaped, utf16_cons, utf16_append, utf16_cons, utf16_nil, mark]
  rfl

theorem utf16_separatedTail (closes : Char) (text : List Char) (texts : List (List Char)) :
    utf16 (text ++ separatedTail closes texts) = [44].intercalate ((text :: texts).map utf16) ++ utf16Char closes := by
  induction texts generalizing text with
  | nil => simp [separatedTail]
  | cons next texts ih =>
    have comma : utf16Char ',' = [44] := by decide
    have rest := ih next
    rw [map_cons] at rest ⊢
    rw [separatedTail, utf16_append, utf16_cons, rest, comma, map_cons, intercalate_cons_cons]
    simp

theorem bracketed_utf16 (first last : UInt16) (opens closes : Char) (texts : List (List Char))
    (start : utf16Char opens = [first]) (finish : utf16Char closes = [last]) :
    bracketed first last (texts.map utf16) = utf16 (opens :: separated closes texts) := by
  rw [bracketed, utf16_cons, start]
  cases texts with
  | nil => simp [separated, finish]
  | cons text texts =>
    rw [separated, utf16_separatedTail, finish]
    rfl

/-- The bridge writes the text that the daemon's writer gives to the reordered value. -/
theorem stringify_represent (value : Json) (safe : value.validateNumbers = true) :
    stringify (represent value) = utf16 (ownValue value).write := by
  induction value using Json.induction with
  | null => rfl
  | bool value => cases value <;> rfl
  | number value =>
    rw [Json.validateNumbers] at safe
    simp [represent, safe, stringify, ownValue, Json.write]
  | string value =>
    rw [represent, stringify, quoteUnits_utf16]
    rfl
  | array items ih =>
    rw [Json.validateNumbers, Json.validateItems_iff] at safe
    have texts : stringifyItems (representItems items) = (Json.writeItems (ownItems items)).map utf16 := by
      simp only [stringifyItems_eq, representItems_eq, writeItems_eq, ownItems_eq, map_map]
      exact map_congr_left fun item member => ih item member (safe item member)
    rw [represent, stringify, texts, ownValue, Json.write]
    exact bracketed_utf16 _ _ _ _ _ (by decide) (by decide)
  | object fields ih =>
    rw [Json.validateNumbers, Json.validateFields_iff] at safe
    have texts : stringifyProperties (representFields fields) =
        fields.map fun field => (utf16 field.1.toList, utf16 (ownValue field.2).write) := by
      simp only [stringifyProperties_eq, representFields_eq, map_map]
      refine map_congr_left fun field member => ?_
      simp only [Function.comp_apply, ih field member (safe field member)]
    have listed : (ownOrder Prod.fst (stringifyProperties (representFields fields))).map (fun property =>
          quoteUnits property.1 ++ 58 :: property.2) =
        (Json.writeFields (ownOrder (fun field => utf16 field.1.toList) (ownFields fields))).map utf16 := by
      rw [texts, ownOrder_map, ownFields_eq, ownOrder_map, writeFields_eq, map_map, map_map, map_map]
      refine map_congr_left fun field _ => ?_
      have colon : utf16Char ':' = [58] := by decide
      simp only [Function.comp_apply, quoteUnits_utf16, utf16_append, utf16_cons, colon]
      rfl
    rw [represent, stringify, listed, ownValue, Json.write]
    exact bracketed_utf16 _ _ _ _ _ (by decide) (by decide)

end Text

mutual

/-- In every object the keys that are array indices come before the others, and by number, in the order of bytes. -/
def indicesFirst : Json → Bool
  | .array items => indicesFirstItems items
  | .object fields =>
    (fields.all fun field => fields.all fun other => decide (field.1 < other.1 →
      precedes (arrayIndex (utf16 field.1.toList)) (arrayIndex (utf16 other.1.toList)) = true)) &&
    indicesFirstFields fields
  | _ => true

def indicesFirstItems : List Json → Bool
  | [] => true
  | item :: items => indicesFirst item && indicesFirstItems items

def indicesFirstFields : List (String × Json) → Bool
  | [] => true
  | (_, value) :: fields => indicesFirst value && indicesFirstFields fields

end

section Agreement

theorem indicesFirstItems_iff (items : List Json) :
    indicesFirstItems items = true ↔ ∀ item ∈ items, indicesFirst item = true := by
  induction items with
  | nil => simp [indicesFirstItems]
  | cons item items ih => simp [indicesFirstItems, ih]

theorem indicesFirstFields_iff (fields : List (String × Json)) :
    indicesFirstFields fields = true ↔ ∀ field ∈ fields, indicesFirst field.2 = true := by
  induction fields with
  | nil => simp [indicesFirstFields]
  | cons field fields ih => rw [indicesFirstFields, Bool.and_eq_true, ih, forall_mem_cons]

/-- A relation between the keys of a sorted map is one between the keys that it was sorted from. -/
theorem pairwise_canonicalFields {fields : List (String × Json)} (distinct : (fields.map Prod.fst).Nodup)
    (holds : String → String → Prop) : (Json.canonicalFields fields).Pairwise (fun left right => holds left.1 right.1) ↔
      ∀ field ∈ fields, ∀ other ∈ fields, field.1 < other.1 → holds field.1 other.1 := by
  have ordered := Json.canonicalFields_ordered fields
  have perm := Json.canonicalFields_perm distinct
  constructor
  · intro each field member other otherMember less
    have forward : (Json.canonicalFields fields).Pairwise fun left right =>
        left.1 < right.1 → holds left.1 right.1 := by
      refine each.imp fun pair _ => ?_
      exact pair
    have backward : (Json.canonicalFields fields).Pairwise fun left right =>
        right.1 < left.1 → holds right.1 left.1 := ordered.imp fun before after => absurd before (lt_asymm after)
    have image := fun field member => perm.mem_iff.mpr (mem_map.mpr ⟨field, member, rfl⟩)
    have all := List.Pairwise.forall_of_forall_of_flip (fun _ _ same => absurd same (lt_irrefl _)) forward backward
    have between := all (image field member) (image other otherMember)
    exact between less
  · intro each
    refine ordered.imp_of_mem fun {left right} leftMember rightMember less => ?_
    obtain ⟨value, stored, _⟩ := Json.mem_canonicalFields leftMember
    obtain ⟨other, storedOther, _⟩ := Json.mem_canonicalFields rightMember
    exact each (left.1, value) stored (right.1, other) storedOther less

theorem ownFields_eq_self_iff (fields : List (String × Json)) :
    ownOrder (fun field => utf16 field.1.toList) (ownFields fields) = fields ↔ (fields.Pairwise fun left right =>
        precedes (arrayIndex (utf16 left.1.toList)) (arrayIndex (utf16 right.1.toList)) = true) ∧
      ∀ field ∈ fields, ownValue field.2 = field.2 := by
  rw [← ownOrder_eq_self_iff (fun field : String × Json => utf16 field.1.toList), ownFields_eq, ownOrder_map]
  constructor
  · intro same
    have keys := congrArg (map Prod.fst) same
    rw [map_map] at keys
    have kept : ownOrder (fun key => utf16 key.toList) (fields.map Prod.fst) = fields.map Prod.fst := by
      rw [ownOrder_map]
      exact keys
    rw [ownOrder_eq_self_iff, pairwise_map,
      ← ownOrder_eq_self_iff (fun field : String × Json => utf16 field.1.toList)] at kept
    rw [kept] at same
    refine ⟨kept, fun field member => ?_⟩
    have fixed := map_inj_left.mp (same.trans (map_id fields).symm) field member
    exact congrArg Prod.snd fixed
  · rintro ⟨kept, each⟩
    rw [kept]
    refine (map_congr_left fun field member => ?_).trans (map_id fields)
    rw [each field member]
    rfl

theorem ownValue_canonicalValue_iff (value : Json) (distinct : value.distinctKeys = true) :
    ownValue value.canonicalValue = value.canonicalValue ↔ indicesFirst value = true := by
  induction value using Json.induction with
  | array items ih =>
    rw [Json.distinctKeys, Json.distinctItems_iff] at distinct
    rw [Json.canonicalValue, ownValue, Json.array.injEq, ownItems_eq, Json.canonicalItems_eq, map_map,
      map_inj_left, indicesFirst, indicesFirstItems_iff]
    exact forall₂_congr fun item member => ih item member (distinct item member)
  | object fields ih =>
    rw [Json.distinct_object] at distinct
    have perm := Json.canonicalFields_perm distinct.1
    have values : (∀ field ∈ Json.canonicalFields fields, ownValue field.2 = field.2) ↔
        ∀ field ∈ fields, indicesFirst field.2 = true := by
      simp only [perm.mem_iff, forall_mem_map]
      exact forall₂_congr fun field member => ih field member (distinct.2 field member)
    rw [Json.canonicalValue, ownValue, Json.object.injEq, ownFields_eq_self_iff, values,
      pairwise_canonicalFields distinct.1 fun left right =>
        precedes (arrayIndex (utf16 left.toList)) (arrayIndex (utf16 right.toList)) = true,
      indicesFirst, Bool.and_eq_true, indicesFirstFields_iff]
    simp only [all_eq_true, decide_eq_true_eq]
  | _ => exact iff_of_true rfl rfl

/-- The daemon and the bridge write the same bytes for a value that both accept exactly when in each of its objects the
array indices come first and by number in the order of bytes. -/
theorem canonicalizers_agree_iff (codec : Codec) (value : Json) (distinct : value.distinctKeys = true)
    (safe : value.validateNumbers = true) :
    (∃ bytes text, Daemon.canonicalize codec.serde value = some bytes ∧ canonicalize (represent value) = some text ∧
      encodeUnits text = bytes) ↔ indicesFirst value = true := by
  have daemon : Daemon.canonicalize codec.serde value = some (encodeUtf8 value.canonicalValue.write) := by
    refine Daemon.canonicalize_eq_some.mpr ⟨safe, ?_⟩
    change Daemon.utf8 value.canonicalValue.toText = _
    rw [Daemon.utf8_eq, Json.toText, String.toList_ofList]
  have bridge : canonicalize (represent value) = some (utf16 (ownValue value.canonicalValue).write) := by
    rw [canonicalize, if_pos (assertRestricted_represent value safe), canonical_represent value distinct,
      stringify_represent _ (value.validate_canonicalValue safe)]
  rw [daemon, bridge, ← ownValue_canonicalValue_iff value distinct]
  constructor
  · rintro ⟨_, _, ⟨⟩, ⟨⟩, same⟩
    rw [encodeUnits_utf16] at same
    exact Json.write_injective (encodeUtf8_injective same)
  · intro same
    exact ⟨_, _, rfl, rfl, by rw [encodeUnits_utf16, same]⟩

/-- Keys that are no array indices. -/
theorem canonicalizers_agree_named : ∃ bytes text,
    Daemon.canonicalize (Daemon.Script.codec []).serde (.object [("b", .number 1), ("a", .string "x")]) = some bytes ∧
      canonicalize (represent (.object [("b", .number 1), ("a", .string "x")])) = some text ∧
      encodeUnits text = bytes :=
  (canonicalizers_agree_iff _ _ (by decide) (by decide)).mpr (by decide)

/-- The key `10` is before `9` by bytes and after it by number. -/
theorem canonicalizers_differ :
    (Daemon.canonicalize (Daemon.Script.codec []).serde (.object [("9", .null), ("10", .null)])).isSome = true ∧
    (canonicalize (represent (.object [("9", .null), ("10", .null)]))).isSome = true ∧
      Daemon.canonicalize (Daemon.Script.codec []).serde (.object [("9", .null), ("10", .null)]) ≠
        (canonicalize (represent (.object [("9", .null), ("10", .null)]))).map encodeUnits := by
  decide +kernel

end Agreement

end AgentMesh.Bridge
