import QueryLoom.Row.Column
import QueryLoom.Row.Record

/-!
# Forms of rows

What a whole row can be read as.

* `RowForm` : the forms; `RowForm.Carrier` is their data;
* `Row.readForm` : reads a row.
-/

namespace QueryLoom

/-- What a whole row can be read as. -/
inductive RowForm where
  /-- The row itself. -/
  | row
  /-- The row as a JSON object. -/
  | object
  /-- The first columns, each as a type. -/
  | tuple (ts : List ColumnType)
  /-- A record. -/
  | record (fields : List Record.Field)

/-- The data of a form. -/
@[reducible] def RowForm.Carrier : RowForm → Type
  | .row => Row
  | .object => Json
  | .tuple ts => ColumnType.Tuple ts
  | .record fields => Record.Data fields

/-- Reads a row in a form. -/
def Row.readForm (r : Row) : (form : RowForm) → Except Error form.Carrier
  | .row => .ok r
  | .object => .ok r.toObject
  | .tuple ts => r.readTuple ts
  | .record fields => Record.read fields r

end QueryLoom
