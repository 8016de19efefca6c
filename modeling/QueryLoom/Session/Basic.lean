import QueryLoom.Draft.Call
import QueryLoom.Event
import QueryLoom.Pool.Basic

/-!
# Sessions

A database together with the pool of drafts and the log of what happened.

* `Session` : all of it; `Builder` : a draft with the target of its statement;
* `Session.query`, `Session.table`, `Session.beside` : new builders; `Session.close` gives back the
  draft of a builder;
* `Session.prepare` : the statement of a builder, unless its draft holds an error;
* `Session.queryOne`, `Session.queryMany`, `Session.execute` : statements on their way to the
  database.
-/

namespace QueryLoom

structure Session (σ : Type) where
  database : σ
  pool : Pool
  /-- Whether the log may show the arguments of statements. -/
  logArguments : Bool
  /-- What happened, the oldest first. -/
  events : List Event := []

/-- A draft with the target of its statement. -/
structure Builder where
  target : Target
  draft : Draft
  deriving DecidableEq, Repr

def Builder.applyAll (b : Builder) (calls : List Call) : Builder :=
  { b with draft := b.draft.applyAll calls }

namespace Session

variable {σ : Type}

/-! ## Log and pool -/

def log (s : Session σ) (e : Event) : Session σ := { s with events := s.events ++ [e] }

def acquire (s : Session σ) : Draft × Session σ :=
  let taken := s.pool.acquire
  (taken.1, { s with pool := taken.2 }.log (.acquired s.pool.reuses))

/-- Gives a draft back to the pool; the log hears of it if the draft is kept there. -/
def release (s : Session σ) (d : Draft) : Session σ :=
  let pool := s.pool.release d
  let released := { s with pool := pool }
  if s.pool.hasRoom then released.log (.released pool.idleCount) else released

@[simp] theorem database_log (s : Session σ) (e : Event) : (s.log e).database = s.database := rfl

@[simp] theorem pool_log (s : Session σ) (e : Event) : (s.log e).pool = s.pool := rfl

@[simp] theorem database_acquire (s : Session σ) : s.acquire.2.database = s.database := rfl

@[simp] theorem pool_acquire (s : Session σ) : s.acquire.2.pool = s.pool.acquire.2 := rfl

@[simp] theorem database_release (s : Session σ) (d : Draft) :
    (s.release d).database = s.database := by
  unfold release
  split <;> rfl

@[simp] theorem pool_release (s : Session σ) (d : Draft) :
    (s.release d).pool = s.pool.release d := by
  unfold release
  split <;> rfl

/-! ## Builders -/

/-- A builder for a target, in which nothing has been gathered. -/
def builder (s : Session σ) (target : Target) : Builder × Session σ :=
  let taken := s.acquire
  (⟨target, taken.1⟩, taken.2)

def tableOn (s : Session σ) (target : Target) (table : String) : Builder × Session σ :=
  let made := s.builder target
  ({ made.1 with draft := { made.1.draft with table := some table } }, made.2)

/-- A builder on the base connection, without a table. -/
def query (s : Session σ) : Builder × Session σ := s.builder .connection

def table (s : Session σ) (table : String) : Builder × Session σ := s.tableOn .connection table

/-- A builder for a table that shares nothing with another builder but its target. -/
def beside (s : Session σ) (b : Builder) (table : String) : Builder × Session σ :=
  s.tableOn b.target table

/-- A builder that holds the same as another one. -/
def fork (s : Session σ) (b : Builder) : Builder × Session σ := (b, s.acquire.2)

/-- Gives back the draft of a builder. -/
def close (s : Session σ) (b : Builder) : Session σ := s.release b.draft

/-! ## Statements -/

/-- Fails with the first error that the draft holds. -/
def check (s : Session σ) (b : Builder) : Except Error Unit × Session σ :=
  match b.draft.firstError with
  | none => (.ok (), s)
  | some e =>
    (.error (.build e), s.log (.refused (b.draft.table.getD "") b.draft.errors.length e))

/-- The statement of a kind, unless the draft holds an error or lacks something for it. -/
def prepare (s : Session σ) (b : Builder) (kind : Statement.Kind) :
    Except Error Statement × Session σ :=
  match s.check b with
  | (.error e, s) => (.error e, s)
  | (.ok (), s) =>
    match b.draft.compile kind with
    | .error e => (.error (.build e), s)
    | .ok statement => (.ok statement, s)

/-- Preparing a statement touches neither the database nor the pool. -/
theorem database_prepare (s : Session σ) (b : Builder) (kind : Statement.Kind) :
    (s.prepare b kind).2.database = s.database ∧ (s.prepare b kind).2.pool = s.pool := by
  unfold prepare check
  cases b.draft.firstError with
  | some e => exact ⟨rfl, rfl⟩
  | none => cases b.draft.compile kind <;> exact ⟨rfl, rfl⟩

/-- A statement is prepared exactly when the draft holds no error and lacks nothing. -/
theorem prepare_eq_ok_iff (s : Session σ) (b : Builder) (kind : Statement.Kind)
    (statement : Statement) :
    (s.prepare b kind).1 = .ok statement ↔
      b.draft.firstError = none ∧ b.draft.compile kind = .ok statement := by
  unfold prepare check
  cases b.draft.firstError with
  | some e => simp
  | none => cases b.draft.compile kind <;> simp

/-- Reports that a statement is about to be sent. -/
def dispatch (s : Session σ) (target : Target) (shape : Shape) (statement : Statement) :
    Session σ :=
  s.log (.dispatching target shape statement.sql (.of s.logArguments statement.params))

variable [Database σ]

def queryOne (s : Session σ) (target : Target) (statement : Statement) :
    Except Error (Option Row) × Session σ :=
  let s := s.dispatch target .one statement
  let answered := Database.queryOne target statement s.database
  (answered.1, { s with database := answered.2 })

def queryMany (s : Session σ) (target : Target) (statement : Statement) :
    Except Error (List (Except Error Row)) × Session σ :=
  let s := s.dispatch target .many statement
  let answered := Database.queryMany target statement s.database
  (answered.1, { s with database := answered.2 })

def execute (s : Session σ) (target : Target) (statement : Statement) :
    Except Error Outcome × Session σ :=
  let s := s.dispatch target .execute statement
  let answered := Database.execute target statement s.database
  (answered.1, { s with database := answered.2 })

end Session

end QueryLoom
