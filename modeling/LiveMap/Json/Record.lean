import LiveMap.Geo
import LiveMap.Json.Printer
import LiveMap.Text.Quoted

/-!
# Reading records from JSON values

A record is described by its name and its fields, each with a type. It is read from an object, whose
unknown members are ignored, or from an array that lists the fields in order. A description fixes
the type of what is read, so a value that was read is a tuple of the right shape.

In an object the members are examined in the order of the value, and the first one of a wrong type
is the fault; missing fields are noticed after that, in the order of the description. In an array
the elements are examined in order.
-/

namespace LiveMap.Json

/-- Why a value is not the record that was asked for. -/
inductive RecordFault where
  /-- A required field is absent. -/
  | missingField (name : String)
  /-- A value is of a wrong type. -/
  | wrongType (found : Json) (expected : String)
  /-- An array lists only `count` of the fields of a record. -/
  | tooFewFields (count : Nat) (record : String) (fields : Nat)
  /-- An array of `count` elements was to be a pair. -/
  | notPair (count : Nat)
  /-- An array of `count` elements has more than are wanted. -/
  | tooManyElements (count : Nat)

/-- What a value is, in the words of an error message. -/
def describe : Json → String
  | null => "null"
  | bool b => "boolean \x60" ++ toString b ++ "\x60"
  | num (.int n) => "integer \x60" ++ String.ofList (intText n) ++ "\x60"
  | num (.float x) => "floating point \x60" ++ String.ofList (floatText x) ++ "\x60"
  | str s => "string " ++ Text.quoted s
  | arr _ => "sequence"
  | obj _ => "map"

/-- The wording of a fault. -/
def RecordFault.message : RecordFault → String
  | missingField name => "missing field \x60" ++ name ++ "\x60"
  | wrongType found expected => "invalid type: " ++ found.describe ++ ", expected " ++ expected
  | tooFewFields count record fields =>
    "invalid length " ++ toString count ++ ", expected struct " ++ record ++ " with " ++
      toString fields ++ (if fields = 1 then " element" else " elements")
  | notPair count => "invalid length " ++ toString count ++ ", expected an array of length 2"
  | tooManyElements count =>
    "invalid length " ++ toString count ++ ", expected fewer elements in array"

/-- The type of a field. -/
inductive FieldType where
  /-- A text. -/
  | text
  /-- A number, as a double. -/
  | number
  /-- An array of two numbers: a latitude and a longitude. -/
  | pair
  /-- Any value, absent or not; an absent one reads as null. -/
  | anyOrNull
  /-- Any value, absent or not; null is a value of its own. -/
  | anyIfPresent
  /-- Any value but null, or absent; null reads as absent. -/
  | anyOptional
  /-- A text, or absent; null reads as absent. -/
  | textOptional

namespace FieldType

/-- What a field of this type is read as. -/
abbrev Value : FieldType → Type
  | text => String
  | number => Float
  | pair => LatLng Float
  | anyOrNull => Json
  | anyIfPresent => Option Json
  | anyOptional => Option Json
  | textOptional => Option String

/-- What an absent field of this type is read as, if it may be absent. -/
def absent? : (t : FieldType) → Option t.Value
  | text => none
  | number => none
  | pair => none
  | anyOrNull => some .null
  | anyIfPresent => some none
  | anyOptional => some none
  | textOptional => some none

/-- Reads a text. -/
def readText : Json → Except RecordFault String
  | .str s => .ok s
  | v => .error (.wrongType v "a string")

/-- Reads a number. -/
def readNumber : Json → Except RecordFault Float
  | .num n => .ok n.toFloat
  | v => .error (.wrongType v "f64")

/-- Reads a pair of numbers. -/
def readPair : Json → Except RecordFault (LatLng Float)
  | .arr [] => .error (.notPair 0)
  | .arr [a] => do
    let _ ← readNumber a
    .error (.notPair 1)
  | .arr (a :: b :: more) => do
    let lat ← readNumber a
    let lng ← readNumber b
    if more.isEmpty then .ok ⟨lat, lng⟩ else .error (.tooManyElements (more.length + 2))
  | v => .error (.wrongType v "an array of length 2")

/-- Reads a field of this type. -/
def read : (t : FieldType) → Json → Except RecordFault t.Value
  | text, v => readText v
  | number, v => readNumber v
  | pair, v => readPair v
  | anyOrNull, v => .ok v
  | anyIfPresent, v => .ok (some v)
  | anyOptional, .null => .ok none
  | anyOptional, v => .ok (some v)
  | textOptional, .null => .ok none
  | textOptional, v => (readText v).map some

end FieldType

/-- A named and typed field. -/
structure Field where
  /-- The key in an object. -/
  name : String
  /-- The type. -/
  type : FieldType

/-- The values of some fields, in order. -/
abbrev FieldValues : List Field → Type
  | [] => Unit
  | f :: rest => f.type.Value × FieldValues rest

/-- The description of a record. -/
structure Record where
  /-- What the record is called in error messages. -/
  name : String
  /-- The fields, in order. -/
  fields : List Field

namespace Record

/-- The fault of a member that belongs to one of the fields and has a wrong type. -/
def memberFault? (fields : List Field) (key : String) (v : Json) : Option RecordFault :=
  match fields.find? (·.name == key) with
  | none => none
  | some f =>
    match f.type.read v with
    | .ok _ => none
    | .error fault => some fault

/-- Reads a field that may be absent. -/
def readField (f : Field) : Option Json → Except RecordFault f.type.Value
  | some v => f.type.read v
  | none =>
    match f.type.absent? with
    | some v => .ok v
    | none => .error (.missingField f.name)

/-- Reads the fields from members by their names. -/
def readMembers (members : List (String × Json)) :
    (fields : List Field) → Except RecordFault (FieldValues fields)
  | [] => .ok ()
  | f :: rest => do
    let v ← readField f (Keyed.find? f.name members)
    let vs ← readMembers members rest
    return (v, vs)

/-- Reads the fields from elements in order, after `count` elements that were read before. -/
def readElements (record : Record) :
    (fields : List Field) → (count : Nat) → List Json → Except RecordFault (FieldValues fields)
  | [], _, [] => .ok ()
  | [], count, more => .error (.tooManyElements (count + more.length))
  | f :: rest, count, [] =>
    match f.type.absent? with
    | some v => do return (v, ← readElements record rest count [])
    | none => .error (.tooFewFields count record.name record.fields.length)
  | f :: rest, count, v :: more => do
    let v ← f.type.read v
    let vs ← readElements record rest (count + 1) more
    return (v, vs)

/-- Reads a record. -/
def read (record : Record) : Json → Except RecordFault (FieldValues record.fields)
  | .obj members =>
    match members.findSome? fun (key, v) => memberFault? record.fields key v with
    | some fault => .error fault
    | none => readMembers members record.fields
  | .arr items => readElements record record.fields 0 items
  | v => .error (.wrongType v ("struct " ++ record.name))

end Record

end LiveMap.Json
