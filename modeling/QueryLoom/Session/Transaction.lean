import QueryLoom.Session.Basic

/-!
# Transactions

Work whose changes last together or not at all.

* `FromError` : the types of errors that work in a transaction may end with;
* `Session.openScope` : opens a transaction with a builder for its statements;
* `Session.closeScope` : commits it if the work succeeded, and rolls it back otherwise;
* `Session.transaction` : both, around some work.
-/

namespace QueryLoom

/-- A type of errors that has room for those of sessions. -/
class FromError (ε : Type) where
  fromError : Error → ε

export FromError (fromError)

instance : FromError Error := ⟨id⟩

@[simp] theorem fromError_self (e : Error) : fromError e = e := rfl

namespace Session

variable {σ : Type} [Database σ] {ε : Type} [FromError ε]

/-- Opens a transaction. The builder that comes with it has no table; other builders get their
target from it. -/
def openScope (s : Session σ) : Except Error (Nat × Builder) × Session σ :=
  let started := Database.start s.database
  let s := { s with database := started.2 }
  match started.1 with
  | .error e => (.error e, s)
  | .ok id =>
    let scope := (s.log .transactionStarted).builder (.transaction id)
    (.ok (id, scope.1), scope.2)

def commitScope {α : Type} (s : Session σ) (id : Nat) (x : α) : Except ε α × Session σ :=
  let ended := Database.commit id s.database
  let s := { s with database := ended.2 }
  match ended.1 with
  | .error e => (.error (fromError e), s)
  | .ok () => (.ok x, s.log .transactionCommitted)

/-- Rolls a transaction back. Whether that succeeds is only reported: the error of the work stays
the error of the whole. -/
def rollbackScope (s : Session σ) (id : Nat) : Session σ :=
  let ended := Database.rollback id s.database
  let s := { s with database := ended.2 }
  match ended.1 with
  | .error e => s.log (.rollbackFailed e)
  | .ok () => s.log .transactionRolledBack

/-- Ends a transaction as its work has ended. -/
def closeScope {α : Type} (s : Session σ) (id : Nat) (scope : Builder) (worked : Except ε α) :
    Except ε α × Session σ :=
  let s := s.close scope
  match worked with
  | .ok x => s.commitScope id x
  | .error e => (.error e, s.rollbackScope id)

/-- Does some work in a transaction of its own. -/
def transaction {α : Type} (s : Session σ)
    (work : Builder → Session σ → Except ε α × Session σ) : Except ε α × Session σ :=
  match s.openScope with
  | (.error e, s) => (.error (fromError e), s)
  | (.ok (id, scope), s) =>
    let worked := work scope s
    worked.2.closeScope id scope worked.1

end Session

end QueryLoom
