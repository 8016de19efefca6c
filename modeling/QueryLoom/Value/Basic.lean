import QueryLoom.Calendar.DateTime
import QueryLoom.Json.Basic

/-!
# Values

What a statement binds to a placeholder and what a row holds in a column.

* `Value` : the kinds of values; `Value.typeName` names them as SQL does;
* `Value.same` : equality, in which floating-point numbers are compared as numbers;
* `ToValue` : the data that can be given where a value is wanted.
-/

namespace QueryLoom

/-- An SQL value. -/
inductive Value where
  | null
  | bool (b : Bool)
  | int32 (n : Int32)
  | int64 (n : Int64)
  | uint64 (n : UInt64)
  | float32 (x : Binary32)
  | float64 (x : Binary64)
  | text (s : String)
  | bytes (bs : List UInt8)
  | json (j : Json)
  | dateTime (t : DateTime)
  deriving DecidableEq, Repr

namespace Value

instance : Inhabited Value := ⟨.null⟩

/-! ## Classes of values -/

/-- Whether the value is NULL. -/
def isNull : Value → Bool
  | .null => true
  | _ => false

/-- Whether the value is the zero of its kind: only integers, floating-point numbers and texts have
one. -/
def isZero : Value → Bool
  | .int32 n => n == 0
  | .int64 n => n == 0
  | .uint64 n => n == 0
  | .float32 x => x.isZero
  | .float64 x => x.isZero
  | .text s => s.isEmpty
  | _ => false

/-- Whether the value may stand in the list of an `IN` condition. -/
def isListElement : Value → Bool
  | .int32 _ | .int64 _ | .uint64 _ | .text _ => true
  | _ => false

/-- The SQL name of the value's kind. -/
def typeName : Value → String
  | .null => "NULL"
  | .bool _ => "BOOLEAN"
  | .int32 _ => "INT"
  | .int64 _ => "BIGINT"
  | .uint64 _ => "BIGINT UNSIGNED"
  | .float32 _ => "FLOAT"
  | .float64 _ => "DOUBLE"
  | .text _ => "VARCHAR"
  | .bytes _ => "BLOB"
  | .json _ => "JSON"
  | .dateTime _ => "DATETIME"

/-- Equality of values of one kind; floating-point numbers are compared as numbers. -/
def same : Value → Value → Bool
  | .null, .null => true
  | .bool a, .bool b => a == b
  | .int32 a, .int32 b => a == b
  | .int64 a, .int64 b => a == b
  | .uint64 a, .uint64 b => a == b
  | .float32 a, .float32 b => Binary.same a b
  | .float64 a, .float64 b => Binary.same a b
  | .text a, .text b => a == b
  | .bytes a, .bytes b => a == b
  | .json a, .json b => a.same b
  | .dateTime a, .dateTime b => a == b
  | _, _ => false

/-! ## Leap seconds -/

/-- No leap second inside a minute. -/
def IsRegular : Value → Prop
  | .dateTime t => t.IsRegular
  | _ => True

/-- The value with a leap second inside a minute taken for the second behind it. -/
def regular : Value → Value
  | .dateTime t => .dateTime t.regular
  | v => v

theorem regular_of_isRegular {v : Value} (h : v.IsRegular) : v.regular = v := by
  cases v with
  | dateTime t => exact congrArg Value.dateTime (DateTime.regular_of_isRegular h)
  | _ => rfl

end Value

/-! ## Data given as values -/

/-- Data that can be given where a value is wanted. -/
class ToValue (α : Type) where
  toValue : α → Value

export ToValue (toValue)

instance : ToValue Value := ⟨id⟩
instance : ToValue Unit := ⟨fun _ => .null⟩
instance : ToValue Bool := ⟨.bool⟩
instance : ToValue Int32 := ⟨.int32⟩
instance : ToValue Int64 := ⟨.int64⟩
instance : ToValue UInt32 := ⟨fun n => .int64 (Int64.ofNat n.toNat)⟩
instance : ToValue UInt64 := ⟨.uint64⟩
instance : ToValue Binary32 := ⟨.float32⟩
instance : ToValue Binary64 := ⟨.float64⟩
instance : ToValue String := ⟨.text⟩
instance : ToValue (List UInt8) := ⟨.bytes⟩
instance : ToValue Json := ⟨.json⟩
instance : ToValue DateTime := ⟨.dateTime⟩

/-- Missing data is NULL. -/
instance {α : Type} [ToValue α] : ToValue (Option α) where
  toValue
    | none => .null
    | some x => toValue x

end QueryLoom
