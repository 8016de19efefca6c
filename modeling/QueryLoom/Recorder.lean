import QueryLoom.Database

/-!
# Recorders

A database that stores no rows: it remembers every statement, answers with prepared replies, and
fails when it was told to.

* `Recorder` : what it remembers and what was prepared;
* `Recorder.receive` : every statement passes through here;
* `Recorder.answerRows`, `Recorder.answerOutcome` : a prepared reply is used if it is of the right
  kind, and stays where it is otherwise;
* the instance of `Database` : what transactions make last.
-/

namespace QueryLoom

/-- A statement as it was received. -/
structure Sent extends Statement where
  inTransaction : Bool
  deriving DecidableEq, Repr

/-- A prepared reply. -/
inductive Reply where
  | rows (columns : List String) (rows : List (List Value))
  | outcome (o : Outcome)
  deriving DecidableEq, Repr

/-- A database that remembers and answers as it was told. -/
structure Recorder where
  /-- Every statement received, in order, those that failed included. -/
  sent : List Sent := []
  /-- The prepared replies that were not used yet. -/
  replies : List Reply := []
  /-- What the next statement, or the next step of a transaction, fails with. -/
  failure : Option String := none
  /-- The changes that last. -/
  durable : List Sent := []
  starts : Nat := 0
  commits : Nat := 0
  rollbacks : Nat := 0
  /-- The last number that was given to a new row. -/
  lastInsertId : Nat := 0
  /-- The open transactions with the changes that each has made. -/
  pending : List (Nat × List Sent) := []
  deriving DecidableEq, Repr

namespace Recorder

instance : Inhabited Recorder := ⟨{}⟩

/-! ## Preparing -/

/-- Prepares one more reply. -/
def push (r : Recorder) (reply : Reply) : Recorder := { r with replies := r.replies ++ [reply] }

/-- Prepares a result of one column and one row. -/
def pushScalar (r : Recorder) (column : String) (v : Value) : Recorder :=
  r.push (.rows [column] [[v]])

/-- Prepares a failure. -/
def failNext (r : Recorder) (reason : String) : Recorder := { r with failure := some reason }

/-! ## Receiving -/

/-- Uses up the prepared failure. -/
def takeFailure (r : Recorder) : Except Error Unit × Recorder :=
  match r.failure with
  | none => (.ok (), r)
  | some reason => (.error (.driver reason), { r with failure := none })

/-- A statement of a target as it is remembered. -/
def sentOn (target : Target) (s : Statement) : Sent :=
  { s with inTransaction := target.inTransaction }

/-- Remembers a statement, then fails if a failure was prepared. -/
def receive (target : Target) (s : Statement) (r : Recorder) : Except Error Unit × Recorder :=
  { r with sent := r.sent ++ [sentOn target s] }.takeFailure

theorem receive_of_none {r : Recorder} (h : r.failure = none) (target : Target) (s : Statement) :
    receive target s r = (.ok (), { r with sent := r.sent ++ [sentOn target s] }) := by
  simp [receive, takeFailure, h]

theorem receive_of_some {r : Recorder} {reason : String} (h : r.failure = some reason)
    (target : Target) (s : Statement) :
    receive target s r =
      (.error (.driver reason),
        { r with sent := r.sent ++ [sentOn target s], failure := none }) := by
  simp [receive, takeFailure, h]

/-- The rows of the next reply: none unless rows were prepared. -/
def answerRows (r : Recorder) : List Row × Recorder :=
  match r.replies with
  | .rows columns rows :: rest =>
    (rows.map fun values => ⟨columns, values⟩, { r with replies := rest })
  | _ => ([], r)

/-- The outcome of the next reply: one row with a new number unless an outcome was prepared. -/
def answerOutcome (r : Recorder) : Outcome × Recorder :=
  match r.replies with
  | .outcome o :: rest => (o, { r with replies := rest })
  | _ => (⟨1, some (r.lastInsertId + 1)⟩, { r with lastInsertId := r.lastInsertId + 1 })

/-- Keeps a change: it lasts on the base connection, and waits for the end of its transaction
otherwise. -/
def keep (target : Target) (change : Sent) (r : Recorder) : Recorder :=
  match target with
  | .connection => { r with durable := r.durable ++ [change] }
  | .transaction id =>
    { r with
      pending := r.pending.map fun p => if p.1 = id then (p.1, p.2 ++ [change]) else p }

/-! ## Statements -/

/-- Receives a query and answers it. -/
def query (target : Target) (s : Statement) (r : Recorder) : Except Error (List Row) × Recorder :=
  match receive target s r with
  | (.error e, r) => (.error e, r)
  | (.ok (), r) => (.ok r.answerRows.1, r.answerRows.2)

/-- Receives a change, keeps it and answers it. -/
def change (target : Target) (s : Statement) (r : Recorder) : Except Error Outcome × Recorder :=
  match receive target s r with
  | (.error e, r) => (.error e, r)
  | (.ok (), r) =>
    let answered := (keep target (sentOn target s) r).answerOutcome
    (.ok answered.1, answered.2)

/-! ## Transactions -/

/-- The changes of an open transaction. -/
def changesOf (r : Recorder) (id : Nat) : List Sent :=
  ((r.pending.find? fun p => p.1 == id).map (·.2)).getD []

/-- Forgets an open transaction. -/
def forget (r : Recorder) (id : Nat) : Recorder :=
  { r with pending := r.pending.filter fun p => p.1 != id }

/-- Opens a transaction. -/
def start (r : Recorder) : Except Error Nat × Recorder :=
  match r.takeFailure with
  | (.error e, r) => (.error e, r)
  | (.ok (), r) =>
    (.ok (r.starts + 1),
      { r with starts := r.starts + 1, pending := r.pending ++ [(r.starts + 1, [])] })

/-- Ends a transaction and makes its changes last. -/
def commit (id : Nat) (r : Recorder) : Except Error Unit × Recorder :=
  let changes := r.changesOf id
  match (r.forget id).takeFailure with
  | (.error e, r) => (.error e, r)
  | (.ok (), r) => (.ok (), { r with commits := r.commits + 1, durable := r.durable ++ changes })

/-- Ends a transaction without its changes. -/
def rollback (id : Nat) (r : Recorder) : Except Error Unit × Recorder :=
  match (r.forget id).takeFailure with
  | (.error e, r) => (.error e, r)
  | (.ok (), r) => (.ok (), { r with rollbacks := r.rollbacks + 1 })

instance : Database Recorder where
  queryOne target s r := let answered := query target s r; (answered.1.map List.head?, answered.2)
  queryMany target s r :=
    let answered := query target s r
    (answered.1.map fun rows => rows.map .ok, answered.2)
  execute := change
  start := start
  commit := commit
  rollback := rollback

end Recorder

end QueryLoom
