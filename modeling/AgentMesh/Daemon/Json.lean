import Mathlib

/-! JSON values as the daemon stores and compares them. Numbers are integers: event payloads written by the
daemon hold no other numbers, and canonical text admits safe integers only. -/
namespace AgentMesh.Daemon

abbrev Bytes := List UInt8

def utf8 (text : String) : Bytes := text.toByteArray.data.toList

inductive Json where
  | null
  | bool (value : Bool)
  | number (value : Int)
  | string (value : String)
  | array (items : List Json)
  | object (fields : List (String × Json))
  deriving Repr

namespace Json

/-- `value[key]` on an object; anything else has no fields. -/
def get? (value : Json) (key : String) : Option Json :=
  match value with
  | object fields => (fields.find? fun field => field.1 == key).map Prod.snd
  | _ => none

def asStr? : Json → Option String
  | string value => some value
  | _ => none

def asI64? : Json → Option Int
  | number value => some value
  | _ => none

def isObject : Json → Bool
  | object _ => true
  | _ => false

def len : Json → Nat
  | object fields => fields.length
  | _ => 0

def str? (value : Json) (key : String) : Option String := (value.get? key).bind asStr?

def i64? (value : Json) (key : String) : Option Int := (value.get? key).bind asI64?

def safeInteger (value : Int) : Bool := -9007199254740991 ≤ value && value ≤ 9007199254740991

mutual

/-- `validate_numbers`: canonical JSON requires safe integers only. -/
def validateNumbers : Json → Bool
  | number value => safeInteger value
  | array items => validateItems items
  | object fields => validateFields fields
  | _ => true

def validateItems : List Json → Bool
  | [] => true
  | item :: items => validateNumbers item && validateItems items

def validateFields : List (String × Json) → Bool
  | [] => true
  | (_, value) :: fields => validateNumbers value && validateFields fields

end

/-- Insert a field into fields sorted by key; a repeated key keeps the last value. -/
def insertField (key : String) (value : Json) : List (String × Json) → List (String × Json)
  | [] => [(key, value)]
  | (other, stored) :: fields =>
    if key < other then (key, value) :: (other, stored) :: fields
    else if key = other then (key, stored) :: fields
    else (other, stored) :: insertField key value fields

mutual

/-- `canonical_value`: every object's fields in key order. -/
def canonicalValue : Json → Json
  | array items => array (canonicalItems items)
  | object fields => object (canonicalFields fields)
  | other => other

def canonicalItems : List Json → List Json
  | [] => []
  | item :: items => canonicalValue item :: canonicalItems items

def canonicalFields : List (String × Json) → List (String × Json)
  | [] => []
  | (key, value) :: fields => insertField key (canonicalValue value) (canonicalFields fields)

end

end Json

/-- Third-party functions the store calls: SHA-256 in lower-case hex, the JSON reader and writer, and the
validator of the wire schema. -/
structure Codec where
  sha256Hex : Bytes → String
  fromSlice : Bytes → Option Json
  toText : Json → String
  decodeV1 : Json → Bool

def hashBytes (codec : Codec) (bytes : Bytes) : String := codec.sha256Hex bytes

def isLowerSha256 (value : String) : Bool :=
  value.utf8ByteSize == 64 && value.toList.all fun char => char.isDigit || ('a' ≤ char && char ≤ 'f')

end AgentMesh.Daemon
