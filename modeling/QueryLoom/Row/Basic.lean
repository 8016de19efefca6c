import QueryLoom.NameMap
import QueryLoom.Value.Plain

/-!
# Rows

* `Row` : a result row, the names of its columns apart from its values;
* `Row.position?` : the first column of a name;
* `Row.toObject` : the row as a JSON object.
-/

namespace QueryLoom

/-- A result row. Nothing forces the two lists to be equally long. -/
structure Row where
  columns : List String
  values : List Value
  deriving DecidableEq, Repr

namespace Row

instance : Inhabited Row := ⟨⟨[], []⟩⟩

/-- The number of values. -/
def size (r : Row) : Nat := r.values.length

/-- The place of the first column of a name. -/
def position? (r : Row) (name : String) : Option Nat := r.columns.findIdx? (· == name)

/-- The members of the row as an object: each column with its value, the last of a name. -/
def members (r : Row) : List (String × Json) :=
  NameMap.insertAll (r.columns.zip (r.values.map Value.toJson))

/-- The row as a JSON object. -/
def toObject (r : Row) : Json := .object r.members

end Row

end QueryLoom
