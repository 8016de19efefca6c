/-!
# Columns of results

How a server describes the columns of a result, and how the type of a column says in what form its
values are sent.

* `Wire.Column` : a description; `Wire.Column.typeName` : the name of its type;
* `Wire.Form.ofTypeName` : the form that a type name stands for.

A description has the fields of a column definition in the MySQL client/server protocol: the number
of the type (`MYSQL_TYPE_TINY` is 1, `MYSQL_TYPE_STRING` is 254), the column flags, the number of
the character set and the column length. The names are those under which sqlx documents the types.
-/

namespace QueryLoom.Wire

structure Column where
  name : String
  /-- The number of the type. -/
  code : Nat
  flags : Nat
  charset : Nat
  /-- The greatest width of the column when it is shown. -/
  length : Nat
  deriving DecidableEq, Repr

namespace Column

/-- The flag `UNSIGNED_FLAG`, which is 32. -/
def isUnsigned (c : Column) : Bool := c.flags.testBit 5

/-- The flag `ENUM_FLAG`, which is 256. -/
def isEnumerated (c : Column) : Bool := c.flags.testBit 8

/-- The character set `binary` tells bytes from texts of the same type. -/
def isBinary (c : Column) : Bool := c.charset == 63

def integerName (c : Column) (name : String) : String :=
  if c.isUnsigned then name ++ " UNSIGNED" else name

def longName (c : Column) (size : String) : String :=
  size ++ if c.isBinary then "BLOB" else "TEXT"

def typeName (c : Column) : String :=
  match c.code with
  | 0 | 246 => "DECIMAL"
  -- `TINYINT(1)` is how the server writes `BOOLEAN`, with or without a sign.
  | 1 => if c.length = 1 then "BOOLEAN" else c.integerName "TINYINT"
  | 2 => c.integerName "SMALLINT"
  | 3 => c.integerName "INT"
  | 4 => "FLOAT"
  | 5 => "DOUBLE"
  | 6 => "NULL"
  | 7 => "TIMESTAMP"
  | 8 => c.integerName "BIGINT"
  | 9 => c.integerName "MEDIUMINT"
  | 10 => "DATE"
  | 11 => "TIME"
  | 12 => "DATETIME"
  | 13 => "YEAR"
  | 15 | 253 => if c.isBinary then "VARBINARY" else "VARCHAR"
  | 16 => "BIT"
  | 245 => "JSON"
  | 247 => "ENUM"
  | 248 => "SET"
  | 249 => c.longName "TINY"
  | 250 => c.longName "MEDIUM"
  | 251 => c.longName "LONG"
  | 252 => c.longName ""
  | 254 => if c.isBinary then "BINARY" else if c.isEnumerated then "ENUM" else "CHAR"
  | _ => "GEOMETRY"

end Column

/-! ## Forms -/

/-- The forms in which values are sent. -/
inductive Form where
  | null
  | boolean
  | signed
  | unsigned
  | float
  | double
  | decimal
  | dateTime
  | timestamp
  | date
  | json
  | time
  | year
  | bits
  | bytes
  | text
  deriving DecidableEq, Repr

def occursIn (part : List Char) : List Char → Bool
  | [] => part.isEmpty
  | c :: cs => part.isPrefixOf (c :: cs) || occursIn part cs

/-- The form that a type name stands for. A name that ends in `UNSIGNED` stands for numbers without
sign, one with `BLOB` or `BINARY` in it for bytes, and one that is not known for text. -/
def Form.ofTypeName (name : String) : Form :=
  if name = "NULL" then .null
  else if name = "BOOLEAN" then .boolean
  else if name ∈ ["TINYINT", "SMALLINT", "MEDIUMINT", "INT", "BIGINT"] then .signed
  else if "UNSIGNED".toList.isSuffixOf name.toList then .unsigned
  else if name = "FLOAT" then .float
  else if name = "DOUBLE" then .double
  else if name = "DECIMAL" then .decimal
  else if name = "DATETIME" then .dateTime
  else if name = "TIMESTAMP" then .timestamp
  else if name = "DATE" then .date
  else if name = "JSON" then .json
  else if name = "TIME" then .time
  else if name = "YEAR" then .year
  else if name = "BIT" then .bits
  else if occursIn "BLOB".toList name.toList || occursIn "BINARY".toList name.toList then .bytes
  else .text

end QueryLoom.Wire
