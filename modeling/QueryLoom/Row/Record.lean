import QueryLoom.Calendar.Reading
import QueryLoom.Error
import QueryLoom.Json.Printer
import QueryLoom.Row.Basic

/-!
# Records

A row read as a record: fields found by their names in the row's JSON object.

* `FieldType.read` : reads one member, or says in words what it is and what it should be;
* `Record.read` : reads all fields of a record; of several faults the one of the least name wins.
-/

namespace QueryLoom

/-! ## Types -/

/-- The types of a record's fields. -/
inductive FieldType where
  | int64
  | uint8
  | uint32
  | float64
  | bool
  | text
  | bytes
  | dateTime
  | json
  /-- Data that may be missing. -/
  | optional (t : FieldType)
  deriving DecidableEq, Repr

/-- The data of a type. -/
@[reducible] def FieldType.Carrier : FieldType → Type
  | .int64 => Int64
  | .uint8 => UInt8
  | .uint32 => UInt32
  | .float64 => Binary64
  | .bool => Bool
  | .text => String
  | .bytes => List UInt8
  | .dateTime => DateTime
  | .json => Json
  | .optional t => Option t.Carrier

/-! ## Reading one field -/

namespace Json

/-- What a value is, in words. -/
def describe : Json → String
  | .null => "null"
  | .bool b => "boolean `" ++ (if b then "true" else "false") ++ "`"
  | .number (.int n) => "integer `" ++ String.ofList (Text.decimalInt n) ++ "`"
  | .number (.float x) => "floating point `" ++ String.ofList (renderFloat .json x) ++ "`"
  | .text s => "string " ++ String.ofList (Text.quote s.toList)
  | .array _ => "sequence"
  | .object _ => "map"

/-- A value of the wrong kind. -/
def wrongType (j : Json) (expected : String) : String :=
  "invalid type: " ++ j.describe ++ ", expected " ++ expected

/-- A value of the right kind that is not allowed. -/
def wrongValue (j : Json) (expected : String) : String :=
  "invalid value: " ++ j.describe ++ ", expected " ++ expected

/-- An integer of a range. -/
def readInteger (r : Text.IntRange) (typeName : String) (j : Json) : Except String Int :=
  match j with
  | .number (.int n) => if r.Contains n then .ok n else .error (j.wrongValue typeName)
  | j => .error (j.wrongType typeName)

/-- Bytes: an array of small integers. -/
def readOctets : List Json → Except String (List UInt8)
  | [] => .ok []
  | j :: js =>
    match readInteger .uint8 "u8" j with
    | .error e => .error e
    | .ok n => (readOctets js).map fun bs => n.toNat.toUInt8 :: bs

end Json

/-- Reads one field. -/
def FieldType.read : (t : FieldType) → Json → Except String t.Carrier
  | .int64, j => (j.readInteger .int64 "i64").map Int64.ofInt
  | .uint8, j => (j.readInteger .uint8 "u8").map fun n => n.toNat.toUInt8
  | .uint32, j => (j.readInteger .uint32 "u32").map fun n => UInt32.ofNat n.toNat
  | .float64, j =>
    match j with
    | .number (.int n) => .ok (Binary.ofInt .double n)
    | .number (.float x) => .ok x
    | j => .error (j.wrongType "f64")
  | .bool, j =>
    match j with
    | .bool b => .ok b
    | j => .error (j.wrongType "a boolean")
  | .text, j =>
    match j with
    | .text s => .ok s
    | j => .error (j.wrongType "a string")
  | .bytes, j =>
    match j with
    | .array items => Json.readOctets items
    | j => .error (j.wrongType "a sequence")
  | .dateTime, j =>
    match j with
    | .text s =>
      match DateTime.readStandard s.toList with
      | .ok t => .ok t
      | .error fault => .error fault.message
    | j => .error (j.wrongType "a formatted date and time string")
  | .json, j => .ok j
  | .optional t, j =>
    match j with
    | .null => .ok none
    | j => (t.read j).map some

/-! ## Records -/

/-- A field of a record. -/
structure Record.Field where
  name : String
  type : FieldType
  /-- What stands for a field that the row does not have. -/
  absent : Option type.Carrier

/-- A field that a row must have, unless its data may be missing. -/
def Record.Field.required (name : String) (type : FieldType) : Record.Field where
  name := name
  type := type
  absent :=
    match type with
    | .optional _ => some none
    | _ => none

namespace Record

/-- The data of a record with the given fields. -/
@[reducible] def Data : List Field → Type
  | [] => Unit
  | f :: fs => f.type.Carrier × Data fs

/-- The fault of the first member that cannot be read as its field. -/
def firstFault (fields : List Field) : List (String × Json) → Option String
  | [] => none
  | (name, j) :: members =>
    match fields.find? fun f => f.name == name with
    | none => firstFault fields members
    | some f =>
      match f.type.read j with
      | .error e => some e
      | .ok _ => firstFault fields members

/-- The fields in order, each from its member or, without one, from what stands for it. -/
def assemble : (fields : List Field) → List (String × Json) → Except String (Data fields)
  | [], _ => .ok ()
  | f :: fs, members =>
    let here : Except String f.type.Carrier :=
      match NameMap.find? f.name members with
      | some j => f.type.read j
      | none =>
        match f.absent with
        | some x => .ok x
        | none => .error ("missing field `" ++ f.name ++ "`")
    match here with
    | .error e => .error e
    | .ok x => (assemble fs members).map fun xs => (x, xs)

/-- Reads a record from the members of an object. A member that cannot be read is reported before a
field that is missing. -/
def ofMembers (fields : List Field) (members : List (String × Json)) :
    Except String (Data fields) :=
  match firstFault fields members with
  | some e => .error e
  | none => assemble fields members

/-- Reads a record from a row. -/
def read (fields : List Field) (r : Row) : Except Error (Data fields) :=
  match ofMembers fields r.members with
  | .ok x => .ok x
  | .error e => .error (.serialization e)

end Record

end QueryLoom
