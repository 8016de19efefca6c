import QueryLoom.Binary.Reading
import QueryLoom.Binary.Shortest
import QueryLoom.Calendar.Reading
import QueryLoom.Error
import QueryLoom.Json.Printer
import QueryLoom.Row.Basic
import QueryLoom.Text.Blank
import QueryLoom.Text.Utf8

/-!
# Reading columns

A value read as data of a wanted type. NULL reads as the zero of the type, and numbers are read
from numbers and from their text.

* `ColumnType` : the types that a column can be read as; `ColumnType.Carrier` is their data;
* `Value.read` : reads a value;
* `Row.get`, `Row.getByName`, `Row.readTuple` : read the columns of a row.
-/

namespace QueryLoom

/-! ## Types -/

/-- The types that a column can be read as. -/
inductive ColumnType where
  | int32
  | int64
  | uint32
  | uint64
  | float32
  | float64
  | bool
  | text
  | bytes
  | dateTime
  | json
  | value
  /-- Data that may be missing. -/
  | optional (t : ColumnType)
  deriving DecidableEq, Repr

namespace ColumnType

/-- The data of a type. -/
@[reducible] def Carrier : ColumnType → Type
  | .int32 => Int32
  | .int64 => Int64
  | .uint32 => UInt32
  | .uint64 => UInt64
  | .float32 => Binary32
  | .float64 => Binary64
  | .bool => Bool
  | .text => String
  | .bytes => List UInt8
  | .dateTime => DateTime
  | .json => Json
  | .value => Value
  | .optional t => Option t.Carrier

/-- The zero of a type. -/
def zero : (t : ColumnType) → t.Carrier
  | .int32 => (0 : Int32)
  | .int64 => (0 : Int64)
  | .uint32 => (0 : UInt32)
  | .uint64 => (0 : UInt64)
  | .float32 => Binary.zero .single false
  | .float64 => Binary.zero .double false
  | .bool => false
  | .text => ""
  | .bytes => ([] : List UInt8)
  | .dateTime => DateTime.epoch
  | .json => Json.null
  | .value => Value.null
  | .optional _ => none

end ColumnType

/-! ## Faults -/

/-- Why a value cannot be read as a type. -/
inductive ReadFault where
  /-- Nothing of the type is read from values of this kind. -/
  | mismatch (found wanted : String)
  /-- Digits that spell no number of the type's range, or a number outside of it. -/
  | numeral (fault : Text.NumeralFault)
  | float (fault : Binary.ReadFault)
  | utf8 (fault : Text.Utf8.Fault)
  | dateTime (fault : DateTime.ReadFault)
  deriving DecidableEq, Repr

/-- The wording of a fault. -/
def ReadFault.message : ReadFault → String
  | .mismatch found wanted => "cannot read " ++ found ++ " as " ++ wanted
  | .numeral fault => fault.message
  | .float fault => fault.message
  | .utf8 fault => fault.message
  | .dateTime fault => fault.message

namespace Value

/-! ## Reading one value -/

/-- An integer that must lie in a range. -/
def within (r : Text.IntRange) (n : Int) : Except ReadFault Int :=
  if n < r.lo then .error (.numeral .tooSmall)
  else if r.hi < n then .error (.numeral .tooLarge)
  else .ok n

/-- An integer of a range. -/
def readInt (r : Text.IntRange) (typeName : String) (v : Value) : Except ReadFault Int :=
  match v with
  | .null => .ok 0
  | .bool b => .ok (if b then 1 else 0)
  | .int32 n => within r n.toInt
  | .int64 n => within r n.toInt
  | .uint64 n => within r n.toNat
  | .text s =>
    match r.read (Text.trim s.toList) with
    | .ok n => .ok n
    | .error fault => .error (.numeral fault)
  | v => .error (.mismatch v.typeName typeName)

/-- A 64-bit floating-point number. -/
def readFloat64 (v : Value) : Except ReadFault Binary64 :=
  match v with
  | .null => .ok (Binary.zero .double false)
  | .int32 n => .ok (Binary.ofInt .double n.toInt)
  | .int64 n => .ok (Binary.ofInt .double n.toInt)
  | .uint64 n => .ok (Binary.ofInt .double n.toNat)
  | .float32 x => .ok (x.convert .double)
  | .float64 x => .ok x
  | .text s =>
    match Binary.read .double (Text.trim s.toList) with
    | .ok x => .ok x
    | .error fault => .error (.float fault)
  | v => .error (.mismatch v.typeName "f64")

/-- A 32-bit floating-point number: of another kind, the 64-bit number rounded. -/
def readFloat32 (v : Value) : Except ReadFault Binary32 :=
  match v with
  | .float32 x => .ok x
  | v => (readFloat64 v).map fun x => x.convert .single

/-- A boolean: of numbers, zero is false. -/
def readBool (v : Value) : Except ReadFault Bool :=
  match v with
  | .null => .ok false
  | .bool b => .ok b
  | .int32 n => .ok (n != 0)
  | .int64 n => .ok (n != 0)
  | .uint64 n => .ok (n != 0)
  | v => .error (.mismatch v.typeName "bool")

/-- A text: everything has one but bytes that are not well formed. -/
def readText (v : Value) : Except ReadFault String :=
  match v with
  | .null => .ok ""
  | .text s => .ok s
  | .bool b => .ok (if b then "true" else "false")
  | .int32 n => .ok (String.ofList (Text.decimalInt n.toInt))
  | .int64 n => .ok (String.ofList (Text.decimalInt n.toInt))
  | .uint64 n => .ok (String.ofList (Text.decimal n.toNat))
  | .float32 x => .ok (String.ofList (x.text .plain))
  | .float64 x => .ok (String.ofList (x.text .plain))
  | .bytes bs =>
    match Text.Utf8.decode bs with
    | .ok cs => .ok (String.ofList cs)
    | .error fault => .error (.utf8 fault)
  | .json j => .ok j.compact
  | .dateTime t => .ok (String.ofList (t.textToSecond ' '))

/-- Bytes: of a text, its UTF-8 form. -/
def readBytes (v : Value) : Except ReadFault (List UInt8) :=
  match v with
  | .null => .ok []
  | .bytes bs => .ok bs
  | .text s => .ok (Text.Utf8.encode s.toList)
  | v => .error (.mismatch v.typeName "bytes")

/-- A date and time. -/
def readDateTime (v : Value) : Except ReadFault DateTime :=
  match v with
  | .null => .ok .epoch
  | .dateTime t => .ok t
  | .text s =>
    match DateTime.readSpaced s.toList with
    | .ok t => .ok t
    | .error fault => .error (.dateTime fault)
  | v => .error (.mismatch v.typeName "datetime")

/-- Reads a value as data of a type; missing data is told from zeros where the type allows. -/
def read : (t : ColumnType) → Value → Except ReadFault t.Carrier
  | .int32, v => (readInt .int32 "i32" v).map Int32.ofInt
  | .int64, v => (readInt .int64 "i64" v).map Int64.ofInt
  | .uint32, v => (readInt .uint32 "u32" v).map fun n => UInt32.ofNat n.toNat
  | .uint64, v => (readInt .uint64 "u64" v).map fun n => UInt64.ofNat n.toNat
  | .float32, v => readFloat32 v
  | .float64, v => readFloat64 v
  | .bool, v => readBool v
  | .text, v => readText v
  | .bytes, v => readBytes v
  | .dateTime, v => readDateTime v
  | .json, v => .ok v.toJson
  | .value, v => .ok v
  | .optional t, v => if v.isNull then .ok none else (read t v).map some

end Value

namespace Row

/-! ## Reading rows -/

/-- Reads the column at a place. -/
def get (r : Row) (index : Nat) (t : ColumnType) : Except Error t.Carrier :=
  let column := r.columns[index]?.getD "?"
  match r.values[index]? with
  | none => .error (.decode column ("no column at index " ++ String.ofList (Text.decimal index)))
  | some v =>
    match v.read t with
    | .ok x => .ok x
    | .error fault => .error (.decode column fault.message)

/-- Reads the first column of a name. -/
def getByName (r : Row) (name : String) (t : ColumnType) : Except Error t.Carrier :=
  match r.position? name with
  | none => .error (.decode name "no such column")
  | some index => r.get index t

/-- A column as a caller names it. -/
inductive ColumnRef where
  | index (i : Nat)
  | name (s : String)
  deriving DecidableEq, Repr

/-- Reads the column that a caller names. -/
def getRef (r : Row) (column : ColumnRef) (t : ColumnType) : Except Error t.Carrier :=
  match column with
  | .index i => r.get i t
  | .name s => r.getByName s t

end Row

/-! ## Tuples -/

/-- Data of several types. -/
@[reducible] def ColumnType.Tuple : List ColumnType → Type
  | [] => Unit
  | t :: ts => t.Carrier × ColumnType.Tuple ts

/-- The zeros of several types. -/
def ColumnType.zeros : (ts : List ColumnType) → ColumnType.Tuple ts
  | [] => ()
  | t :: ts => (t.zero, ColumnType.zeros ts)

/-- Reads columns from a place on, one of each type; the first that fails decides. -/
def Row.readFrom (r : Row) (index : Nat) :
    (ts : List ColumnType) → Except Error (ColumnType.Tuple ts)
  | [] => .ok ()
  | t :: ts =>
    match r.get index t with
    | .error e => .error e
    | .ok x => (r.readFrom (index + 1) ts).map fun xs => (x, xs)

/-- Reads the first columns of a row, one of each type. -/
def Row.readTuple (r : Row) (ts : List ColumnType) : Except Error (ColumnType.Tuple ts) :=
  r.readFrom 0 ts

end QueryLoom
