import QueryLoom.Error
import QueryLoom.Row.Basic
import QueryLoom.Statement

/-!
# Databases

What a database answers to statements, on its base connection and in transactions.

* `Target` : where a statement goes;
* `Outcome` : what a statement that changes rows reports;
* `Database` : the states of a database, and how statements and transactions change them;
* `visitAll` : shows rows to a visitor until it has enough.
-/

namespace QueryLoom

/-- Where a statement goes. -/
inductive Target where
  | connection
  /-- The transaction that was opened under a number. -/
  | transaction (id : Nat)
  deriving DecidableEq, Repr

/-- Whether statements of a target are part of a transaction. -/
def Target.inTransaction : Target → Bool
  | .connection => false
  | .transaction _ => true

/-- What a statement that changes rows reports. -/
structure Outcome where
  /-- The number of rows that it affected. -/
  affected : Nat
  /-- The number that the database gave to a new row. -/
  insertId : Option Nat
  deriving DecidableEq, Repr

/-- A type whose values are the states of a database. -/
class Database (σ : Type) where
  /-- The first row of a query. -/
  queryOne : Target → Statement → σ → Except Error (Option Row) × σ
  /-- The rows of a query, each of which may have failed on its own. -/
  queryMany : Target → Statement → σ → Except Error (List (Except Error Row)) × σ
  /-- The outcome of a statement that changes rows. -/
  execute : Target → Statement → σ → Except Error Outcome × σ
  /-- Opens a transaction and numbers it. -/
  start : σ → Except Error Nat × σ
  /-- Makes what a transaction did last. -/
  commit : Nat → σ → Except Error Unit × σ
  /-- Takes back what a transaction did. -/
  rollback : Nat → σ → Except Error Unit × σ

/-! ## Visiting rows -/

/-- Looks at one row after the other and may refuse to go on; `β` is what it remembers. It has no
session at hand: where rows are looked at with statements in between, these are steps of the
session. -/
abbrev Visitor (β : Type) := Row → β → Except Error Unit × β

/-- Shows rows to a visitor, in order, until a row has failed or the visitor refuses to go on. -/
def visitAll {β : Type} (visit : Visitor β) :
    List (Except Error Row) → β → Except Error Unit × β
  | [], memory => (.ok (), memory)
  | .error e :: _, memory => (.error e, memory)
  | .ok row :: rows, memory =>
    match visit row memory with
    | (.error e, memory) => (.error e, memory)
    | (.ok (), memory) => visitAll visit rows memory

/-- Reads rows one after the other; the first that cannot be read decides. -/
def readAll {α : Type} (read : Row → Except Error α) :
    List (Except Error Row) → Except Error (List α)
  | [] => .ok []
  | .error e :: _ => .error e
  | .ok row :: rows =>
    match read row with
    | .error e => .error e
    | .ok x => (readAll read rows).map fun xs => x :: xs

end QueryLoom
