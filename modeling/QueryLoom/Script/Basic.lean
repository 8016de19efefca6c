import QueryLoom.Recorder
import QueryLoom.Session.Terminal

/-!
# Scripts

Sequences of steps on one session whose database is a recorder.

* `Script.Step` : the steps; a transaction holds the steps of its work;
* `Script.Task` : what is done with one builder, from its making to its end;
* `Script.Visit` : a visitor that is given as data.
-/

namespace QueryLoom.Script

/-! ## Visits -/

/-- A column that was read. -/
structure Reading where
  type : ColumnType
  data : type.Carrier

/-- What a visit remembers of a row. -/
inductive Seen where
  | row (r : Row)
  | readings (rs : List Reading)

/-- Reads columns one after the other; the first that cannot be read decides. -/
def readEach (row : Row) : List (Row.ColumnRef × ColumnType) → Except Error (List Reading)
  | [] => .ok []
  | (column, t) :: rest =>
    match row.getRef column t with
    | .error e => .error e
    | .ok x => (readEach row rest).map fun rs => ⟨t, x⟩ :: rs

/-- How rows are visited. -/
structure Visit where
  /-- The columns that are read of a row; without them the row itself is remembered. -/
  reads : Option (List (Row.ColumnRef × ColumnType)) := none
  /-- The row, counted from 1, at which the visit refuses to go on, and its reason. -/
  stop : Option (Nat × String) := none
  deriving DecidableEq, Repr

/-- The reason to refuse a row, given how many were seen before it. -/
def Visit.refusal (v : Visit) (seen : Nat) : Option String :=
  match v.stop with
  | none => none
  | some (k, reason) => if k = seen + 1 then some reason else none

/-- The visitor of a visit. It refuses a row before it looks at it. -/
def Visit.visitor (v : Visit) : Visitor (List Seen) := fun row seen =>
  match v.refusal seen.length with
  | some reason => (.error (.invalidQuery reason), seen)
  | none =>
    match v.reads with
    | none => (.ok (), seen ++ [.row row])
    | some reads =>
      match readEach row reads with
      | .error e => (.error e, seen)
      | .ok rs => (.ok (), seen ++ [.readings rs])

/-! ## Tasks -/

/-- Where a builder comes from. -/
inductive Source where
  /-- A new one on the base connection. -/
  | base (table : Option String)
  /-- A new one in the transaction whose work this is. -/
  | scope (table : String)
  /-- A new one with the target of one that was kept. -/
  | beside (slot table : String)
  /-- One that was kept. -/
  | kept (slot : String)
  deriving DecidableEq, Repr

/-- A question about a builder that does not end it. -/
inductive Peek where
  /-- The text of its query. -/
  | sql
  /-- Its statement of a kind. -/
  | statement (kind : Statement.Kind)
  /-- What its draft compiles into, whatever errors it holds. -/
  | compiled (kind : Statement.Kind)
  /-- Its draft. -/
  | draft
  /-- The arguments of its conditions and of its payload. -/
  | arguments
  | inTransaction
  /-- How its draft compares with a copy, and what is left of it when it is cleared. -/
  | cleared
  deriving DecidableEq, Repr

/-- What becomes of a builder. -/
inductive Ending where
  | keep (slot : String)
  | drop
  | finish (t : Terminal (List Seen))

/-- What is done with one builder. -/
structure Task where
  source : Source
  calls : List Call
  peeks : List Peek
  ending : Ending
  /-- Whether an error ends the steps that this one is among. -/
  propagate : Bool

/-! ## Steps -/

/-- A question that passes by every builder. -/
inductive DirectCall where
  | queryOne
  /-- At most so many rows, if a number is given. -/
  | queryMany (take : Option Nat)
  | execute
  deriving DecidableEq, Repr

/-- A step of a script. -/
inductive Step where
  | push (reply : Reply)
  | pushScalar (column : String) (v : Value)
  | failNext (reason : String)
  | run (task : Task)
  /-- Work in a transaction of its own; `failure` is what the work ends with if none of its steps
  ended it before. -/
  | transaction (work : List Step) (failure : Option String) (propagate : Bool)
  /-- Questions about the builder that stands for the transaction whose work this is. -/
  | peekScope (peeks : List Peek)
  /-- Opens a transaction that is ended by a later step. -/
  | start (slot : String)
  | commit (slot : String)
  | rollback (slot : String)
  | direct (call : DirectCall) (statement : Statement) (slot : Option String)

end QueryLoom.Script
