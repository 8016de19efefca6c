import QueryLoom.Calendar.DateTime
import QueryLoom.Error
import QueryLoom.Json.Reader
import QueryLoom.Row.Basic
import QueryLoom.Text.Utf8
import QueryLoom.Wire.Column
import QueryLoom.Wire.Decimal
import QueryLoom.Wire.LittleEndian

/-!
# Cells of results

The values of result columns, read from their bytes.

* `Wire.CellFault` : why bytes are no value; `Wire.Form.read` : reads the bytes of a form;
* `Wire.readRow` : reads a row; the first column that cannot be read decides.

The bytes are those of binary protocol values in the MySQL client/server protocol, as sqlx 0.7
reads them: a moment without a time zone is read from `DATETIME` and from no other type; of a `TIME`
the sign and the days are passed over, and what is left must be a time of day; a `DECIMAL` goes
through a number of 96 bits. Dates and times are checked as chrono checks them.
-/

namespace QueryLoom.Wire

/-- The bytes of a value; a NULL has none. -/
abbrev Cell := Option (List UInt8)

/-! ## Faults -/

/-- Why bytes are no value. -/
inductive CellFault where
  | date (year month day : Nat)
  | time (hour minute second micros : Nat)
  /-- Moments with a time zone are not read. -/
  | timestamp
  | decimal (fault : DecimalFault)
  | utf8 (fault : Text.Utf8.Fault)
  /-- The text is no JSON value. -/
  | json (text : List Char) (fault : Json.Fault)
  deriving DecidableEq, Repr

def numeral (n : Nat) : String := String.ofList (Text.decimal n)

def CellFault.message : CellFault → String
  | .date year month day =>
    "server returned invalid date: " ++ numeral year ++ "/" ++ numeral month ++ "/" ++ numeral day
  | .time hour minute second micros =>
    "server returned invalid time: " ++ String.ofList (DateTime.timeText hour minute second) ++
      "; micros: " ++ numeral micros
  | .timestamp =>
    "mismatched types; Rust type `core::option::Option<chrono::naive::datetime::NaiveDateTime>` " ++
      "(as SQL type `DATETIME`) is not compatible with SQL type `TIMESTAMP`"
  | .decimal fault => fault.message
  | .utf8 fault => fault.message
  | .json text fault => fault.message text

/-! ## Dates and times -/

/-- One byte. None beyond the end counts as zero. -/
def byteAt (bs : List UInt8) (i : Nat) : Nat := (bs[i]?.getD 0).toNat

def wordAt (bs : List UInt8) (i width : Nat) : Nat := LittleEndian.ofBytes ((bs.drop i).take width)

/-- A time of day as it is sent, which need not be one. -/
structure SentTime where
  hour : Nat
  minute : Nat
  second : Nat
  micros : Nat
  deriving DecidableEq, Repr

/-- The time that starts at a place, if the value is long enough to have one; the microseconds may
be missing too. -/
def timeAt (bs : List UInt8) (i : Nat) : SentTime where
  hour := byteAt bs i
  minute := byteAt bs (i + 1)
  second := byteAt bs (i + 2)
  micros := wordAt bs (i + 3) 4

/-- The date at the start of a value, after the byte for the length, with a time of day. -/
def dateWith (bs : List UInt8) (t : SentTime) : Except CellFault DateTime :=
  let year := wordAt bs 1 2
  let month := byteAt bs 3
  let day := byteAt bs 4
  if Calendar.IsDate year month day then
    match DateTime.ofFields? year month day t.hour t.minute t.second (t.micros * 1000) with
    | some moment => .ok moment
    | none => .error (.time t.hour t.minute t.second t.micros)
  else .error (.date year month day)

/-- The text of a time of day, if it is one. -/
def timeOfDay (t : SentTime) : Option (List Char) :=
  let nano := t.micros * 1000
  if Calendar.IsTime t.hour t.minute t.second nano ∧ Calendar.LeapsAtEnd t.second nano then
    some (DateTime.timeText t.hour t.minute (Calendar.writtenSecond t.second nano) ++
      DateTime.fractionText (Calendar.writtenNano nano))
  else none

/-! ## Forms -/

/-- The number of bytes of which the first is the most significant; what does not fit in 64 bits is
lost. -/
def bitsToWord (bs : List UInt8) : UInt64 := bs.foldl (fun n b => (n <<< 8) ||| b.toUInt64) 0

/-- Bytes as text; what is not well formed is replaced. -/
def lossyText (bs : List UInt8) : Value := .text (String.ofList (Text.Utf8.decodeLossy bs))

/-- Bytes as text that must be well formed. -/
def strictText (bs : List UInt8) : Except CellFault (List Char) :=
  match Text.Utf8.decode bs with
  | .ok cs => .ok cs
  | .error fault => .error (.utf8 fault)

def readDecimalCell (bs : List UInt8) : Except CellFault Value :=
  match strictText bs with
  | .error fault => .error fault
  | .ok cs =>
    match readDecimal cs with
    | .ok x => .ok (.float64 x)
    | .error fault => .error (.decimal fault)

def readJsonCell (bs : List UInt8) : Except CellFault Value :=
  match strictText bs with
  | .error fault => .error fault
  | .ok cs =>
    match Json.parse (String.ofList cs) with
    | .ok j => .ok (.json j)
    | .error fault => .error (.json cs fault)

/-- The bytes of a value in a form. Dates and moments of length zero are NULL. A time of length
zero is the start of the day; one that is no time of day is shown as the bytes it is. -/
def Form.readBytes (bs : List UInt8) : Form → Except CellFault Value
  | .null => .ok .null
  | .boolean => .ok (.bool (LittleEndian.ofBytes bs != 0))
  | .signed => .ok (.int64 (Int64.ofInt (LittleEndian.ofBytesSigned bs)))
  | .unsigned => .ok (.uint64 (UInt64.ofNat (LittleEndian.ofBytes bs)))
  | .float => .ok (.float32 ⟨BitVec.ofNat _ (LittleEndian.ofBytes bs)⟩)
  | .double => .ok (.float64 ⟨BitVec.ofNat _ (LittleEndian.ofBytes bs)⟩)
  | .decimal => readDecimalCell bs
  | .dateTime =>
    if byteAt bs 0 = 0 then .ok .null
    else
      let time := if byteAt bs 0 ≤ 4 then ⟨0, 0, 0, 0⟩ else timeAt bs 5
      (dateWith bs time).map .dateTime
  | .timestamp => if byteAt bs 0 = 0 then .ok .null else .error .timestamp
  | .date =>
    if byteAt bs 0 = 0 then .ok .null else (dateWith bs ⟨0, 0, 0, 0⟩).map .dateTime
  | .json => readJsonCell bs
  | .time =>
    -- Behind the length there are a byte for the sign and four for the days.
    let time := if byteAt bs 0 = 0 then ⟨0, 0, 0, 0⟩ else timeAt bs 6
    match timeOfDay time with
    | some cs => .ok (.text (String.ofList cs))
    | none => .ok (lossyText bs)
  | .year => .ok (.int64 (Int64.ofInt (wordAt bs 0 2)))
  | .bits => .ok (.uint64 (bitsToWord bs))
  | .bytes => .ok (.bytes bs)
  | .text => .ok (lossyText bs)

def Form.read (form : Form) (cell : Cell) : Except CellFault Value :=
  match cell with
  | none => .ok .null
  | some bs => form.readBytes bs

/-! ## Rows -/

structure SentRow where
  columns : List Column
  cells : List Cell
  deriving DecidableEq, Repr

def SentRow.names (r : SentRow) : List String := r.columns.map Column.name

/-- The values of columns from a place on; the first that cannot be read decides. -/
def readCells : (index : Nat) → List Column → List Cell → Except Error (List Value)
  | index, c :: cs, cell :: cells =>
    match (Form.ofTypeName c.typeName).read cell with
    | .error fault => .error (.database (.column index fault.message))
    | .ok v => (readCells (index + 1) cs cells).map fun vs => v :: vs
  | _, _, _ => .ok []

def readRow (names : List String) (r : SentRow) : Except Error Row :=
  (readCells 0 r.columns r.cells).map fun vs => ⟨names, vs⟩

end QueryLoom.Wire
