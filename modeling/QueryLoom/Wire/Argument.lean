import QueryLoom.Json.Printer
import QueryLoom.Text.Utf8
import QueryLoom.Value.Basic
import QueryLoom.Wire.Column
import QueryLoom.Wire.LittleEndian

/-!
# Arguments on the wire

The form in which the arguments of a statement are sent.

* `Wire.bind` : the form of one value, whatever stands beside it;
* `Wire.Argument.column`, `Wire.Argument.typeName` : the description of a column that would hold the
  argument, and the name of its type.

The bytes are those of binary protocol values in the MySQL client/server protocol: numbers with the
least significant byte first, floating point numbers as IEEE 754 words, texts and byte strings as
they are. The type that each value is sent with is the one that sqlx documents for it.
-/

namespace QueryLoom.Wire

/-- The character set `binary`. -/
def binaryCharset : Nat := 63

/-- The character set `utf8mb4`. -/
def textCharset : Nat := 45

/-- An argument as it is sent. -/
structure Argument where
  /-- The number of its type. -/
  code : Nat
  isUnsigned : Bool
  charset : Nat
  /-- The greatest width of its type, if it has one. -/
  length : Nat
  /-- Its bytes; a NULL has none. -/
  bytes : Option (List UInt8)
  deriving DecidableEq, Repr

/-- The description of a column that would hold an argument. -/
def Argument.column (a : Argument) (name : String) : Column where
  name := name
  code := a.code
  flags := if a.isUnsigned then 32 else 0
  charset := a.charset
  length := a.length

def Argument.typeName (a : Argument) : String := (a.column "").typeName

/-! ## Dates -/

/-- A `MYSQL_TYPE_DATETIME` value: a byte for the length, the date, the time unless it is the start
of the day, and the microseconds unless the second is full. In a leap second there are more of them
than a second has. -/
def dateTimeBytes (t : DateTime) : List UInt8 :=
  let date := LittleEndian.toBytes 2 t.year.toNat ++ [t.month.toUInt8, t.day.toUInt8]
  let time := [t.hour.toUInt8, t.minute.toUInt8, t.second.toUInt8]
  if t.nano = 0 then
    if t.hour = 0 ∧ t.minute = 0 ∧ t.second = 0 then 4 :: date
    else 7 :: date ++ time
  else 11 :: date ++ time ++ LittleEndian.toBytes 4 (t.nano / 1000)

/-! ## Values -/

def numberArgument (code : Nat) (isUnsigned : Bool) (width n : Nat) : Argument :=
  ⟨code, isUnsigned, binaryCharset, 0, some (LittleEndian.toBytes width n)⟩

/-- The argument of a value. JSON has no type of its own here: its text is sent as the bytes of a
character type. -/
def bind : Value → Argument
  -- A NULL is one of 32-bit integers, and a truth value a `TINYINT(1)` without a sign.
  | .null => ⟨3, false, binaryCharset, 0, none⟩
  | .bool b => ⟨1, true, binaryCharset, 1, some [if b then 1 else 0]⟩
  | .int32 n => numberArgument 3 false 4 n.toUInt32.toNat
  | .int64 n => numberArgument 8 false 8 n.toUInt64.toNat
  | .uint64 n => numberArgument 8 true 8 n.toNat
  | .float32 x => numberArgument 4 false 4 x.bits.toNat
  | .float64 x => numberArgument 5 false 8 x.bits.toNat
  | .text s => ⟨253, false, textCharset, 0, some (Text.Utf8.encode s.toList)⟩
  | .bytes bs => ⟨252, false, binaryCharset, 0, some bs⟩
  | .json j => ⟨254, false, binaryCharset, 0, some (Text.Utf8.encode j.render)⟩
  | .dateTime t => ⟨12, false, binaryCharset, 0, some (dateTimeBytes t)⟩

end QueryLoom.Wire
