import QueryLoom.Calendar.Reading
import QueryLoom.Json.Printer
import QueryLoom.Json.Reader
import QueryLoom.Value.Basic

/-!
# Values as tagged JSON text

The text form that keeps the kind of a value: the tag alone for NULL, else an object whose only
member has the tag for its name.

* `Value.tagged` : the text of a value;
* `Value.parseTagged` : the value of a text.
-/

namespace QueryLoom.Value

/-! ## Writing -/

/-- The tag of a value's kind. -/
def tag : Value → String
  | .null => "Null"
  | .bool _ => "Bool"
  | .int32 _ => "I32"
  | .int64 _ => "I64"
  | .uint64 _ => "U64"
  | .float32 _ => "F32"
  | .float64 _ => "F64"
  | .text _ => "String"
  | .bytes _ => "Bytes"
  | .json _ => "Json"
  | .dateTime _ => "DateTime"

/-- The text of what the tag announces. -/
def payload : Value → List Char
  | .null => "null".toList
  | .bool b => if b then "true".toList else "false".toList
  | .int32 n => Text.decimalInt n.toInt
  | .int64 n => Text.decimalInt n.toInt
  | .uint64 n => Text.decimal n.toNat
  | .float32 x => Json.renderFloat .jsonSingle x
  | .float64 x => Json.renderFloat .json x
  | .text s => Json.renderText s
  | .bytes bs => '[' :: Json.commaSeparated (bs.map fun b => Text.decimal b.toNat) ++ [']']
  | .json j => j.render
  | .dateTime t => Json.renderText (String.ofList t.text)

/-- The tagged text of a value. -/
def tagged (v : Value) : List Char :=
  match v with
  | .null => Json.renderText v.tag
  | _ => '\x7b' :: Json.renderText v.tag ++ ':' :: v.payload ++ ['\x7d']

/-! ## Reading -/

/-- A date and time in a string. -/
def readDateTimeText : Json.Reader DateTime := fun cs => do
  let (s, cs) ← Json.readString cs
  match DateTime.readStandard s.toList with
  | .ok t => .ok (t, cs)
  | .error _ => .error .mismatched

/-- The reader of what a tag announces, inside the object of the tag; none for a text that is no
tag. -/
def payloadReader (tag : String) : Option (Json.Reader Value) :=
  let reads {α : Type} (read : Json.Reader α) (make : α → Value) : Option (Json.Reader Value) :=
    some fun cs => (read cs).map fun r => (make r.1, r.2)
  match tag with
  | "Null" => reads Json.readNull fun _ => .null
  | "Bool" => reads Json.readBool .bool
  | "I32" => reads (Json.readInt .int32) fun n => .int32 (Int32.ofInt n)
  | "I64" => reads (Json.readInt .int64) fun n => .int64 (Int64.ofInt n)
  | "U64" => reads (Json.readInt .uint64) fun n => .uint64 (UInt64.ofNat n.toNat)
  | "F32" => reads (Json.readFloat .single) .float32
  | "F64" => reads (Json.readFloat .double) .float64
  | "String" => reads Json.readString .text
  | "Bytes" =>
    reads (Json.readArray (Json.readInt .uint8)) fun ns => .bytes (ns.map fun n => n.toNat.toUInt8)
  | "Json" => reads (Json.readValue (Json.maxLevels - 1)) .json
  | "DateTime" => reads readDateTimeText .dateTime
  | _ => none

/-- An object with the tag for its only name. -/
def readTaggedObject : Json.Reader Value := fun cs => do
  let (tag, cs) ← Json.readString cs
  match payloadReader tag with
  | none => .error .mismatched
  | some read =>
    let cs ← Json.readColon cs
    let (v, cs) ← read cs
    match Json.skipSpace cs with
    | [] => Json.fail .endInObject []
    | c :: rest => if c = '\x7d' then .ok (v, rest) else Json.fail .noValue (c :: rest)

/-- A tag alone, from the text after its opening quote: only NULL has nothing to announce. -/
def readTagAlone : Json.Reader Value := fun cs => do
  let (tag, cs) ← Json.readText cs
  if tag = "Null" then .ok (.null, cs) else .error .mismatched

/-- A value in tagged form. -/
def readTagged : Json.Reader Value := Json.atValue fun c rest =>
  if c = '\x7b' then readTaggedObject rest
  else if c = '"' then readTagAlone rest
  else Json.failNext .noValue (c :: rest)

/-- A whole text as a value in tagged form. -/
def parseTagged (s : String) : Except Json.Fault Value := Json.readWhole readTagged s.toList

end QueryLoom.Value
