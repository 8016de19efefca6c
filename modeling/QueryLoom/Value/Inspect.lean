import QueryLoom.Json.Printer
import QueryLoom.Value.Tagged

/-!
# Values in log lines

* `Value.inspect` : a value with its tag, every text quoted;
* `Value.inspectAll` : a list of values between brackets.
-/

namespace QueryLoom.Value

/-- What log lines show of a value after its tag. -/
def inspectPayload : Value → List Char
  | .null => []
  | .bool b => if b then "true".toList else "false".toList
  | .int32 n => Text.decimalInt n.toInt
  | .int64 n => Text.decimalInt n.toInt
  | .uint64 n => Text.decimal n.toNat
  | .float32 x => x.text .log
  | .float64 x => x.text .log
  | .text s => Text.quote s.toList
  | .bytes bs => '[' :: Json.spaced (bs.map fun b => Text.decimal b.toNat) ++ [']']
  | .json j => j.inspect
  | .dateTime t => t.text

/-- The form of a value in log lines. -/
def inspect (v : Value) : List Char :=
  match v with
  | .null => v.tag.toList
  | _ => v.tag.toList ++ '(' :: v.inspectPayload ++ [')']

/-- The form of a list of values in log lines. -/
def inspectAll (vs : List Value) : List Char := '[' :: Json.spaced (vs.map inspect) ++ [']']

end QueryLoom.Value
