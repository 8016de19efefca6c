import QueryLoom.Text.Blank

/-!
# Clauses

Joins, sort keys and aggregates, with the SQL text of each.
-/

namespace QueryLoom

/-! ## Joins -/

/-- The directions of a join. -/
inductive JoinKind where
  | inner
  | left
  | right
  deriving DecidableEq, Repr

/-- The SQL text of a join's direction. -/
def JoinKind.text : JoinKind → String
  | .inner => "INNER JOIN"
  | .left => "LEFT JOIN"
  | .right => "RIGHT JOIN"

/-- A join with another table. -/
structure Join where
  kind : JoinKind
  table : String
  on : String
  deriving DecidableEq, Repr

/-- The SQL text of a join. -/
def Join.text (j : Join) : String := j.kind.text ++ " " ++ j.table ++ " ON " ++ j.on

/-! ## Order -/

/-- The directions of a sort. -/
inductive Direction where
  | ascending
  | descending
  deriving DecidableEq, Repr

/-- The SQL text of a direction. -/
def Direction.text : Direction → String
  | .ascending => "ASC"
  | .descending => "DESC"

/-- The direction that a text names: descending for `desc` in any case between white space,
ascending for anything else. -/
def Direction.ofText (s : String) : Direction :=
  if (Text.trim s.toList).map Char.toLower = ['d', 'e', 's', 'c'] then .descending else .ascending

/-- A column to sort by. -/
structure SortKey where
  column : String
  direction : Direction
  deriving DecidableEq, Repr

/-- The SQL text of a sort key. -/
def SortKey.text (k : SortKey) : String := k.column ++ " " ++ k.direction.text

/-! ## Aggregates -/

/-- What a statement selects in the place of its fields. -/
inductive Aggregate where
  | count
  | sum (column : String)
  | max (column : String)
  | min (column : String)
  deriving DecidableEq, Repr

/-- The SQL text of an aggregate. -/
def Aggregate.text : Aggregate → String
  | .count => "COUNT(*) AS count"
  | .sum column => "SUM(" ++ column ++ ") AS sum"
  | .max column => "MAX(" ++ column ++ ") AS max"
  | .min column => "MIN(" ++ column ++ ") AS min"

end QueryLoom
