import QueryLoom.Operator
import QueryLoom.Text.Numeral

/-!
# Errors

* `BuildError` : what is wrong with a statement before anything is sent;
* `DatabaseError` : what a database, or the way to it, reports;
* `Error` : everything that an operation can fail with.

Each type has one function for its wording.
-/

namespace QueryLoom

/-- The statements that a draft can be compiled into. -/
inductive Statement.Kind where
  | select
  | insert
  | update
  | delete
  deriving DecidableEq, Repr

/-- The keyword that opens a statement of a kind. -/
def Statement.Kind.keyword : Statement.Kind → String
  | .select => "SELECT"
  | .insert => "INSERT"
  | .update => "UPDATE"
  | .delete => "DELETE"

/-! ## Errors of construction -/

/-- What is wrong with a statement before anything is sent. -/
inductive BuildError where
  /-- No table was chosen. -/
  | missingTable
  /-- A text that should be a number is none. -/
  | coercion (field input reason : String)
  /-- A value that may not stand in a list. -/
  | invalidListElement (field : String) (op : Operator) (typeName : String)
  /-- A text that spells no operator. -/
  | unknownOperator (text : String)
  /-- An operand of another shape than the operator takes. -/
  | shapeMismatch (field : String) (op : Operator)
  /-- Paging that cannot be done. -/
  | pagination (reason : String)
  /-- An `INSERT` or `UPDATE` without columns. -/
  | emptyPayload (kind : Statement.Kind)
  /-- A `DELETE` that would delete everything. -/
  | unguardedDelete
  deriving DecidableEq, Repr

/-- The wording of a construction error. -/
def BuildError.message : BuildError → String
  | .missingTable => "no table selected"
  | .coercion field input reason =>
    "cannot coerce '" ++ input ++ "' for field '" ++ field ++ "' to an integer: " ++ reason
  | .invalidListElement field op typeName =>
    "invalid " ++ op.spelling ++ " element for field '" ++ field ++ "': " ++ typeName
  | .unknownOperator text => "unknown operator '" ++ text ++ "'"
  | .shapeMismatch field op =>
    "operator " ++ op.spelling ++ " on field '" ++ field ++ "' expects " ++ op.kind.expectation
  | .pagination reason => "invalid pagination: " ++ reason
  | .emptyPayload kind => kind.keyword ++ " requires at least one column"
  | .unguardedDelete => "DELETE requires at least one WHERE predicate"

/-! ## Errors of the database -/

/-- What a database, or the way to it, reports. -/
inductive DatabaseError where
  | rowNotFound
  | poolTimedOut
  | poolClosed
  | columnNotFound (name : String)
  | protocol (reason : String)
  /-- The address of the database cannot be used. -/
  | configuration (reason : String)
  /-- The database cannot be reached, or was lost. -/
  | communication (reason : String)
  /-- The database refused a statement. -/
  | refused (code : Nat) (state text : String)
  /-- A column of a row that the database sent cannot be decoded. -/
  | column (index : Nat) (reason : String)
  deriving DecidableEq, Repr

/-- The wording of a database error. -/
def DatabaseError.message : DatabaseError → String
  | .rowNotFound => "no rows returned by a query that expected to return at least one row"
  | .poolTimedOut => "pool timed out while waiting for an open connection"
  | .poolClosed => "attempted to acquire a connection on a closed pool"
  | .columnNotFound name => "no column found for name: " ++ name
  | .protocol reason => "encountered unexpected or invalid data: " ++ reason
  | .configuration reason => "error with configuration: " ++ reason
  | .communication reason => "error communicating with database: " ++ reason
  | .refused code state text =>
    "error returned from database: " ++ String.ofList (Text.decimal code) ++ " (" ++ state ++
      "): " ++ text
  | .column index reason =>
    "error occurred while decoding column " ++ String.ofList (Text.decimal index) ++ ": " ++ reason

/-! ## All errors -/

/-- Everything that an operation can fail with. -/
inductive Error where
  | database (e : DatabaseError)
  /-- A connection that is no database reports a failure. -/
  | driver (reason : String)
  | build (e : BuildError)
  /-- A column cannot be read as the wanted type. -/
  | decode (column reason : String)
  /-- A row cannot be read as the wanted record. -/
  | serialization (reason : String)
  /-- The caller refuses to go on. -/
  | invalidQuery (reason : String)
  deriving DecidableEq, Repr

namespace Error

/-- The wording of an error. -/
def message : Error → String
  | .database e => "Database error: " ++ e.message
  | .driver reason => "Driver error: " ++ reason
  | .build e => "Build error: " ++ e.message
  | .decode column reason => "Decode error on column '" ++ column ++ "': " ++ reason
  | .serialization reason => "Serialization error: " ++ reason
  | .invalidQuery reason => "Invalid query: " ++ reason

/-- Whether the error arose before anything was sent. -/
def isBuild : Error → Bool
  | .build _ => true
  | _ => false

end Error

end QueryLoom
