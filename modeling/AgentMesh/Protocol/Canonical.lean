import AgentMesh.Protocol.JsonText

/-! Canonical text is a normal form: one text for all orders of an object's fields, read back to the same value, and
the only text from which the daemon accepts that value. -/
namespace AgentMesh.Daemon
open Library List Json

namespace Json

mutual

def distinctKeys : Json → Bool
  | array items => distinctItems items
  | object fields => decide (fields.map Prod.fst).Nodup && distinctFields fields
  | _ => true

def distinctItems : List Json → Bool
  | [] => true
  | item :: items => distinctKeys item && distinctItems items

def distinctFields : List (String × Json) → Bool
  | [] => true
  | (_, value) :: fields => distinctKeys value && distinctFields fields

end

mutual

/-- Equal up to the order of fields: two objects without repeated keys are the same when they have equally many fields
and each field of the first has its counterpart in the second. -/
def Same : Json → Json → Prop
  | null, null => True
  | bool value, bool other => value = other
  | number value, number other => value = other
  | string value, string other => value = other
  | array items, array others => SameItems items others
  | object fields, object others => fields.length = others.length ∧ SameFields fields others
  | _, _ => False

def SameItems : List Json → List Json → Prop
  | [], [] => True
  | item :: items, other :: others => Same item other ∧ SameItems items others
  | _, _ => False

def SameFields : List (String × Json) → List (String × Json) → Prop
  | [], _ => True
  | (key, value) :: fields, others => (∃ other, (key, other) ∈ others ∧ Same value other) ∧ SameFields fields others

end

section Members

variable (items : List Json) (fields : List (String × Json))

theorem canonicalItems_eq : canonicalItems items = items.map canonicalValue := by
  induction items with
  | nil => rfl
  | cons item items ih => rw [canonicalItems, ih, map_cons]

theorem validateItems_iff : validateItems items = true ↔ ∀ item ∈ items, validateNumbers item = true := by
  induction items with
  | nil => simp [validateItems]
  | cons item items ih => simp [validateItems, ih]

theorem validateFields_iff : validateFields fields = true ↔ ∀ field ∈ fields, validateNumbers field.2 = true := by
  induction fields with
  | nil => simp [validateFields]
  | cons field fields ih => rw [validateFields, Bool.and_eq_true, ih, forall_mem_cons]

theorem distinctItems_iff : distinctItems items = true ↔ ∀ item ∈ items, distinctKeys item = true := by
  induction items with
  | nil => simp [distinctItems]
  | cons item items ih => simp [distinctItems, ih]

theorem distinctFields_iff : distinctFields fields = true ↔ ∀ field ∈ fields, distinctKeys field.2 = true := by
  induction fields with
  | nil => simp [distinctFields]
  | cons field fields ih => rw [distinctFields, Bool.and_eq_true, ih, forall_mem_cons]

theorem distinct_object : distinctKeys (object fields) = true ↔
    (fields.map Prod.fst).Nodup ∧ ∀ field ∈ fields, distinctKeys field.2 = true := by
  rw [distinctKeys, Bool.and_eq_true, decide_eq_true_eq, distinctFields_iff]

theorem sameFields_iff (others : List (String × Json)) : SameFields fields others ↔
    ∀ field ∈ fields, ∃ other, (field.1, other) ∈ others ∧ Same field.2 other := by
  induction fields with
  | nil => simp [SameFields]
  | cons field fields ih => rw [SameFields, ih, forall_mem_cons]

end Members

section Order

variable {key : String} {value : Json} {fields : List (String × Json)}

def Ordered (fields : List (String × Json)) : Prop := fields.Pairwise fun field other => field.1 < other.1

theorem mem_insertField {field : String × Json} (member : field ∈ insertField key value fields) :
    field = (key, value) ∨ field ∈ fields := by
  induction fields with
  | nil => simpa [insertField] using member
  | cons first fields ih =>
    obtain ⟨other, stored⟩ := first
    rw [insertField] at member
    split_ifs at member with before same
    · simpa using member
    · subst same
      exact .inr member
    · obtain rfl | member := mem_cons.mp member
      · exact .inr mem_cons_self
      · exact (ih member).imp_right (mem_cons_of_mem _)

theorem insertField_ordered (ordered : Ordered fields) : Ordered (insertField key value fields) := by
  induction fields with
  | nil => simp [insertField, Ordered]
  | cons first fields ih =>
    obtain ⟨other, stored⟩ := first
    obtain ⟨after, rest⟩ := pairwise_cons.mp ordered
    rw [insertField]
    split_ifs with before same
    · refine pairwise_cons.mpr ⟨fun field member => ?_, ordered⟩
      obtain rfl | member := mem_cons.mp member
      · exact before
      · exact lt_trans before (after field member)
    · subst same
      exact ordered
    · refine pairwise_cons.mpr ⟨fun field member => ?_, ih rest⟩
      obtain rfl | member := mem_insertField member
      · exact lt_of_le_of_ne (not_lt.mp before) (Ne.symm same)
      · exact after field member

theorem insertField_perm (absent : key ∉ fields.map Prod.fst) :
    (insertField key value fields).Perm ((key, value) :: fields) := by
  induction fields with
  | nil => exact .refl _
  | cons first fields ih =>
    obtain ⟨other, stored⟩ := first
    simp only [map_cons, mem_cons, not_or] at absent
    rw [insertField, if_neg absent.1]
    split_ifs
    · exact .refl _
    · exact ((ih absent.2).cons _).trans (.swap ..)

theorem canonicalFields_ordered (fields : List (String × Json)) : Ordered (canonicalFields fields) := by
  induction fields with
  | nil => exact .nil
  | cons field fields ih => exact insertField_ordered ih

theorem mem_canonicalFields {field : String × Json} (member : field ∈ canonicalFields fields) :
    ∃ value, (field.1, value) ∈ fields ∧ field.2 = canonicalValue value := by
  induction fields with
  | nil => cases member
  | cons first fields ih =>
    obtain ⟨key, value⟩ := first
    rw [canonicalFields] at member
    obtain rfl | member := mem_insertField member
    · exact ⟨value, mem_cons_self, rfl⟩
    · obtain ⟨value, member, same⟩ := ih member
      exact ⟨value, mem_cons_of_mem _ member, same⟩

theorem canonicalFields_perm (distinct : (fields.map Prod.fst).Nodup) :
    (canonicalFields fields).Perm (fields.map fun field => (field.1, canonicalValue field.2)) := by
  induction fields with
  | nil => exact .refl _
  | cons first fields ih =>
    obtain ⟨key, value⟩ := first
    obtain ⟨absent, distinct⟩ := nodup_cons.mp distinct
    have rest := ih distinct
    have keys : ((canonicalFields fields).map Prod.fst).Perm (fields.map Prod.fst) := by
      simpa [map_map, Function.comp_def] using rest.map Prod.fst
    rw [canonicalFields, map_cons]
    exact (insertField_perm fun member => absent (keys.mem_iff.mp member)).trans (rest.cons _)

theorem Ordered.distinct (ordered : Ordered fields) : (fields.map Prod.fst).Nodup :=
  pairwise_map.mpr (ordered.imp ne_of_lt)

theorem Ordered.eq_of_perm {others : List (String × Json)} (ordered : Ordered fields) (other : Ordered others)
    (perm : fields.Perm others) : fields = others :=
  perm.eq_of_pairwise (fun _ _ _ _ before after => absurd (lt_trans before after) (lt_irrefl _)) ordered other

end Order

theorem distinct_canonicalValue (value : Json) : distinctKeys (canonicalValue value) = true := by
  induction value using induction with
  | array items ih =>
    rw [canonicalValue, distinctKeys, distinctItems_iff, canonicalItems_eq]
    simpa using ih
  | object fields ih =>
    rw [canonicalValue, distinct_object]
    refine ⟨(canonicalFields_ordered fields).distinct, fun field member => ?_⟩
    obtain ⟨value, member, same⟩ := mem_canonicalFields member
    rw [same]
    exact ih _ member
  | _ => rfl

theorem validate_canonicalValue (value : Json) (safe : validateNumbers value = true) :
    validateNumbers (canonicalValue value) = true := by
  induction value using induction with
  | array items ih =>
    rw [validateNumbers, validateItems_iff] at safe
    rw [canonicalValue, validateNumbers, validateItems_iff, canonicalItems_eq]
    simpa using fun item member => ih item member (safe item member)
  | object fields ih =>
    rw [validateNumbers, validateFields_iff] at safe
    rw [canonicalValue, validateNumbers, validateFields_iff]
    intro field member
    obtain ⟨value, member, same⟩ := mem_canonicalFields member
    rw [same]
    exact ih _ member (safe _ member)
  | _ => exact safe

theorem nesting_canonicalValue (value : Json) : ∀ levels, nesting value ≤ levels →
    nesting (canonicalValue value) ≤ levels := by
  induction value using induction with
  | array items ih =>
    intro levels shallow
    rw [nesting_array_le] at shallow
    obtain ⟨inner, rfl, each⟩ := shallow
    rw [canonicalValue, nesting_array_le, canonicalItems_eq]
    exact ⟨inner, rfl, by simpa using fun item member => ih item member inner (each item member)⟩
  | object fields ih =>
    intro levels shallow
    rw [nesting_object_le] at shallow
    obtain ⟨inner, rfl, each⟩ := shallow
    rw [canonicalValue, nesting_object_le]
    refine ⟨inner, rfl, fun field member => ?_⟩
    obtain ⟨value, member, same⟩ := mem_canonicalFields member
    rw [same]
    exact ih _ member inner (each _ member)
  | _ => exact fun _ => id

theorem canonicalValue_idempotent (value : Json) : canonicalValue (canonicalValue value) = canonicalValue value := by
  induction value using induction with
  | array items ih =>
    simp only [canonicalValue, canonicalItems_eq, map_map, array.injEq]
    exact map_congr_left ih
  | object fields ih =>
    have ordered := canonicalFields_ordered fields
    have settled : (canonicalFields fields).map (fun field => (field.1, canonicalValue field.2)) =
        canonicalFields fields := by
      refine (map_congr_left fun field member => ?_).trans (map_id _)
      obtain ⟨value, member, same⟩ := mem_canonicalFields member
      rw [same, ih _ member, ← same]
      rfl
    have perm := canonicalFields_perm ordered.distinct
    rw [settled] at perm
    simp only [canonicalValue]
    rw [(canonicalFields_ordered _).eq_of_perm ordered perm]
  | _ => rfl

theorem sameItems_iff {items : List Json} (each : ∀ item ∈ items, ∀ other, distinctKeys item = true →
      distinctKeys other = true → (Same item other ↔ canonicalValue item = canonicalValue other)) :
    ∀ others, (∀ item ∈ items, distinctKeys item = true) → (∀ other ∈ others, distinctKeys other = true) →
      (SameItems items others ↔ items.map canonicalValue = others.map canonicalValue) := by
  induction items with
  | nil =>
    intro others _ _
    cases others <;> simp [SameItems]
  | cons item items ih =>
    intro others distinct distinctOthers
    cases others with
    | nil => simp [SameItems]
    | cons other others =>
      rw [forall_mem_cons] at each distinct distinctOthers
      rw [SameItems, each.1 other distinct.1 distinctOthers.1, ih each.2 others distinct.2 distinctOthers.2,
        map_cons, map_cons, cons.injEq]

theorem canonicalFields_eq_iff {fields others : List (String × Json)} (distinct : (fields.map Prod.fst).Nodup)
    (distinctOthers : (others.map Prod.fst).Nodup) : canonicalFields fields = canonicalFields others ↔
      fields.length = others.length ∧
        ∀ field ∈ fields, ∃ other, (field.1, other) ∈ others ∧ canonicalValue field.2 = canonicalValue other := by
  have perm := canonicalFields_perm distinct
  have permOthers := canonicalFields_perm distinctOthers
  constructor
  · intro same
    rw [same] at perm
    have both := perm.symm.trans permOthers
    refine ⟨by simpa using both.length_eq, fun field member => ?_⟩
    have image := both.mem_iff.mp (mem_map.mpr ⟨field, member, rfl⟩)
    obtain ⟨other, member, equal⟩ := mem_map.mp image
    rw [Prod.mk.injEq] at equal
    exact ⟨other.2, equal.1 ▸ member, equal.2.symm⟩
  · rintro ⟨length, each⟩
    have nodup := (canonicalFields_ordered fields).distinct.of_map
    refine (canonicalFields_ordered fields).eq_of_perm (canonicalFields_ordered others)
      ((subperm_of_subset nodup fun field member => ?_).perm_of_length_le ?_)
    · obtain ⟨value, member, same⟩ := mem_canonicalFields member
      obtain ⟨other, member, equal⟩ := each _ member
      refine permOthers.mem_iff.mpr (mem_map.mpr ⟨_, member, ?_⟩)
      rw [← equal, ← same]
    · rw [perm.length_eq, permOthers.length_eq, length_map, length_map, length]

/-- Values without repeated keys are equal up to the order of fields exactly when their canonical values are equal. -/
theorem same_iff (value : Json) : ∀ other, distinctKeys value = true → distinctKeys other = true →
    (Same value other ↔ canonicalValue value = canonicalValue other) := by
  induction value using induction with
  | array items ih =>
    intro other distinct distinctOther
    cases other with
    | array others =>
      rw [distinctKeys, distinctItems_iff] at distinct distinctOther
      rw [Same, sameItems_iff ih others distinct distinctOther]
      simp [canonicalValue, canonicalItems_eq]
    | _ => simp [Same, canonicalValue]
  | object fields ih =>
    intro other distinct distinctOther
    cases other with
    | object others =>
      rw [distinct_object] at distinct distinctOther
      rw [Same, sameFields_iff, canonicalValue, canonicalValue, object.injEq,
        canonicalFields_eq_iff distinct.1 distinctOther.1]
      refine and_congr_right fun _ => forall₂_congr fun field member => exists_congr fun other => ?_
      exact and_congr_right fun found => ih field member other (distinct.2 field member) (distinctOther.2 _ found)
    | _ => simp [Same, canonicalValue]
  | _ =>
    intro other _ _
    cases other <;> simp [Same, canonicalValue]

end Json

/-- A JSON value that has a canonical text which the daemon can read: keys without repetition, as every map has them,
safe integers, and no more nesting than the reader allows. -/
structure RestrictedJson where
  value : Json
  distinct : value.distinctKeys = true
  safe : value.validateNumbers = true
  shallow : value.nesting ≤ Json.maxNesting

/-- What canonical text takes for granted of the writer and the reader of JSON. -/
structure Codec.Faithful (codec : Codec) : Prop where
  injective : Function.Injective codec.toText
  written : ∀ value, codec.toText value ≠ ""
  reads : ∀ value, value.nesting ≤ maxNesting →
    codec.fromSlice (utf8 (codec.toText value)) = some value.canonicalValue
  accepts : ∀ bytes value, codec.fromSlice bytes = some value →
    value.canonicalValue = value ∧ value.nesting ≤ maxNesting

theorem Codec.faithful_serde (codec : Codec) : codec.serde.Faithful where
  injective := toText_injective
  written value empty := by
    obtain ⟨char, rest, same, _⟩ := write_head value
    have text : String.ofList (write value) = String.ofList [] := empty
    rw [same] at text
    exact cons_ne_nil _ _ (String.ofList_injective text)
  reads := fromSlice_toText
  accepts bytes value read := by
    simp only [serde, Json.fromSlice, readDocument, Option.bind_eq_bind, Option.bind_eq_some_iff, Option.pure_def,
      Option.some.injEq, Prod.exists, Option.ite_none_right_eq_some] at read
    obtain ⟨_, _, document, ⟨_, _, read, _, rfl⟩, rfl⟩ := read
    exact ⟨canonicalValue_idempotent _, nesting_canonicalValue _ _ (nesting_of_readValue _ _ _ _ read)⟩

section Canonical

variable {codec : Codec}

theorem canonicalize_eq_some {value : Json} {bytes : Bytes} : canonicalize codec value = some bytes ↔
    value.validateNumbers = true ∧ utf8 (codec.toText value.canonicalValue) = bytes := by
  unfold canonicalize
  split_ifs with safe
  · simp [safe]
  · simp [safe]

theorem RestrictedJson.canonicalize_eq (restricted : RestrictedJson) :
    canonicalize codec restricted.value = some (utf8 (codec.toText restricted.value.canonicalValue)) :=
  canonicalize_eq_some.mpr ⟨restricted.safe, rfl⟩

theorem RestrictedJson.canonicalize_canonicalValue (restricted : RestrictedJson) :
    canonicalize codec restricted.value.canonicalValue =
      some (utf8 (codec.toText restricted.value.canonicalValue)) := by
  rw [canonicalize_eq_some, canonicalValue_idempotent]
  exact ⟨restricted.value.validate_canonicalValue restricted.safe, rfl⟩

variable (faithful : codec.Faithful)

include faithful

theorem RestrictedJson.fromSlice_eq (restricted : RestrictedJson) :
    codec.fromSlice (utf8 (codec.toText restricted.value.canonicalValue)) = some restricted.value.canonicalValue := by
  rw [faithful.reads _ (restricted.value.nesting_canonicalValue _ restricted.shallow), canonicalValue_idempotent]

/-- The daemon accepts exactly the canonical texts of restricted values, and from each the canonical value. -/
theorem parseCanonicalJson_eq_ok {bytes : Bytes} {maximum : Nat} {value : Json} :
    parseCanonicalJson codec bytes maximum = .ok value ↔
      ∃ restricted : RestrictedJson, canonicalize codec restricted.value = some bytes ∧
        bytes.length ≤ maximum ∧ value = restricted.value.canonicalValue := by
  simp only [parseCanonicalJson, eq_ok_iff]
  constructor
  · rintro ⟨_, ⟨_, bounded⟩, read, parsed, _, same, rfl⟩
    obtain ⟨canonical, shallow⟩ := faithful.accepts _ _ parsed
    have safe := (canonicalize_eq_some.mp same).1
    have distinct := read.distinct_canonicalValue
    rw [canonical] at distinct
    exact ⟨⟨_, distinct, safe, shallow⟩, same, bounded, canonical.symm⟩
  · rintro ⟨restricted, same, bounded, rfl⟩
    obtain ⟨_, rfl⟩ := canonicalize_eq_some.mp same
    have blank : utf8 "" = [] := by decide
    have written : utf8 (codec.toText restricted.value.canonicalValue) ≠ [] := fun empty =>
      faithful.written _ (utf8_injective (empty.trans blank.symm))
    exact ⟨(), ⟨written, bounded⟩, _, restricted.fromSlice_eq faithful, (), restricted.canonicalize_canonicalValue, rfl⟩

theorem RestrictedJson.same_iff_canonicalize (restricted other : RestrictedJson) :
    canonicalize codec restricted.value = canonicalize codec other.value ↔ restricted.value.Same other.value := by
  rw [restricted.canonicalize_eq, other.canonicalize_eq, Option.some.injEq,
    same_iff _ _ restricted.distinct other.distinct]
  exact ⟨fun same => faithful.injective (utf8_injective same), fun same => by rw [same]⟩

end Canonical

/-- Canonical text is a normal form: it is read back to the same value, whose canonical text it is again; two values
have one canonical text exactly when they are equal up to the order of fields; the daemon accepts a byte string exactly
when it is the canonical text of a restricted value within the size bound, and no two byte strings for one value. -/
theorem canonical_form_unique (codec : Codec) (restricted other : RestrictedJson) :
    (∃ bytes, canonicalize codec.serde restricted.value = some bytes ∧ ∃ value,
      codec.serde.fromSlice bytes = some value ∧ value.Same restricted.value ∧
        canonicalize codec.serde value = some bytes) ∧
    (canonicalize codec.serde restricted.value = canonicalize codec.serde other.value ↔
      restricted.value.Same other.value) ∧
    (∀ bytes maximum, (∃ value, parseCanonicalJson codec.serde bytes maximum = .ok value) ↔
      ∃ accepted : RestrictedJson, canonicalize codec.serde accepted.value = some bytes ∧ bytes.length ≤ maximum) ∧
    ∀ first second maximum bound value denoted, parseCanonicalJson codec.serde first maximum = .ok value →
      parseCanonicalJson codec.serde second bound = .ok denoted → value.Same denoted → first = second := by
  have faithful := codec.faithful_serde
  refine ⟨⟨_, restricted.canonicalize_eq, restricted.value.canonicalValue, restricted.fromSlice_eq faithful, ?_,
    restricted.canonicalize_canonicalValue⟩, restricted.same_iff_canonicalize faithful other, fun bytes maximum => ?_,
    ?_⟩
  · rw [Json.same_iff _ _ restricted.value.distinct_canonicalValue restricted.distinct, Json.canonicalValue_idempotent]
  · simp only [parseCanonicalJson_eq_ok faithful]
    exact ⟨fun ⟨_, accepted, text, bounded, _⟩ => ⟨accepted, text, bounded⟩,
      fun ⟨accepted, text, bounded⟩ => ⟨_, accepted, text, bounded, rfl⟩⟩
  · intro first second maximum bound value denoted readFirst readSecond same
    obtain ⟨accepted, text, _, rfl⟩ := (parseCanonicalJson_eq_ok faithful).mp readFirst
    obtain ⟨found, textFound, _, rfl⟩ := (parseCanonicalJson_eq_ok faithful).mp readSecond
    rw [Json.same_iff _ _ accepted.value.distinct_canonicalValue found.value.distinct_canonicalValue,
      Json.canonicalValue_idempotent, Json.canonicalValue_idempotent] at same
    rw [accepted.canonicalize_eq, same, Option.some.injEq] at text
    rw [found.canonicalize_eq, text, Option.some.injEq] at textFound
    exact textFound

end AgentMesh.Daemon
