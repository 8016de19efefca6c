import QueryLoom.Recorder
import QueryLoom.Session.Terminal
import QueryLoom.Session.Transaction

/-!
# Programs

Everything that callers can do with one session whose database is a recorder, one operation after
the other: several builders may be alive at a time, and several transactions may be open.

* `Operation` : what can be done;
* `Seen` : what the caller sees of it;
* `State.step`, `State.run` : an operation, and a whole program.

Every front part of a program is a program, so what holds after every program holds at every moment.
-/

namespace QueryLoom

/-! ## Operations -/

/-- Where a builder is held. -/
inductive Place where
  /-- Among the builders that are alive, by its position. -/
  | live (n : Nat)
  /-- The builder that stands for an open transaction, by the number of the transaction. -/
  | scope (id : Nat)
  deriving DecidableEq, Repr

/-- What can be done. An operation on a builder or a transaction that is not there does nothing. -/
inductive Operation (β : Type) where
  /-- Prepares a reply of the recorder. -/
  | push (reply : Reply)
  /-- Prepares a failure of the recorder. -/
  | failNext (reason : String)
  /-- A builder on the base connection, without a table. -/
  | query
  /-- A builder for a table on the base connection. -/
  | table (name : String)
  /-- A builder for a table with the target of another one. -/
  | beside (parent : Place) (name : String)
  | gather (n : Nat) (call : Call)
  /-- Asks for the statement of a builder without sending it. -/
  | preview (place : Place) (kind : Statement.Kind)
  | finish (n : Nat) (t : Terminal β) (memory : β)
  | drop (n : Nat)
  /-- Opens a transaction. -/
  | start
  /-- Ends a transaction as its work has ended. -/
  | stop (id : Nat) (worked : Except Error Unit)

/-! ## What is seen -/

/-- A builder with the transaction that it derives from, if it derives from one. -/
structure Held where
  builder : Builder
  origin : Option Nat

/-- What is seen of an operation. -/
inductive Seen (β : Type) where
  | previewed (answer : Except Error Statement)
  /-- A builder was ended: the transaction that it derives from, the operation, what it gave, what
  its visitor remembers, and the statements that the recorder received meanwhile. -/
  | finished (origin : Option Nat) (t : Terminal β) (answer : Except Error t.Answer) (memory : β)
    (received : List Sent)
  | started (answer : Except Error Nat)
  | stopped (id : Nat) (worked answer : Except Error Unit)

/-! ## States -/

/-- A session, the builders that callers hold, and what was seen so far. -/
structure State (β : Type) where
  session : Session Recorder
  /-- The builders that are alive. -/
  live : List Held := []
  /-- The open transactions with the builders that stand for them. -/
  scopes : List (Nat × Builder) := []
  /-- What was seen, the oldest first. -/
  seen : List (Seen β) := []

namespace State

variable {β : Type}

/-- The state before anything is done. -/
def initial (maxIdle : Nat) (logArguments : Bool) : State β where
  session := { database := {}, pool := { maxIdle := maxIdle }, logArguments := logArguments }

/-- Changes the recorder behind the session's back. -/
def onRecorder (s : State β) (f : Recorder → Recorder) : State β :=
  { s with session := { s.session with database := f s.session.database } }

/-- The builder that stands for a transaction. -/
def scope? (s : State β) (id : Nat) : Option Builder :=
  (s.scopes.find? fun p => p.1 == id).map (·.2)

/-- The builder at a place. -/
def at? (s : State β) : Place → Option Held
  | .live n => s.live[n]?
  | .scope id => (s.scope? id).map fun b => ⟨b, some id⟩

/-- Holds a new builder. -/
def hold (s : State β) (made : Builder × Session Recorder) (origin : Option Nat) : State β :=
  { s with session := made.2, live := s.live ++ [⟨made.1, origin⟩] }

/-- Remembers what was seen. -/
def note (s : State β) (e : Seen β) : State β := { s with seen := s.seen ++ [e] }

/-- Gathers one more clause in a live builder. -/
def gather (s : State β) (n : Nat) (h : Held) (call : Call) : State β :=
  { s with live := s.live.set n { h with builder := h.builder.applyAll [call] } }

/-- Asks for the statement of a builder. -/
def preview (s : State β) (h : Held) (kind : Statement.Kind) : State β :=
  let prepared := s.session.prepare h.builder kind
  { s with session := prepared.2 }.note (.previewed prepared.1)

/-- Gives up a live builder. -/
def drop (s : State β) (n : Nat) (h : Held) : State β :=
  { s with session := s.session.close h.builder, live := s.live.eraseIdx n }

/-- Ends a live builder. -/
def finish (s : State β) (n : Nat) (h : Held) (t : Terminal β) (memory : β) : State β :=
  let ended := s.session.finish h.builder t memory
  let received := ended.2.database.sent.drop s.session.database.sent.length
  { s with session := ended.2, live := s.live.eraseIdx n }.note
    (.finished h.origin t ended.1.1 ended.1.2 received)

/-- Opens a transaction. -/
def start (s : State β) : State β :=
  let opened := s.session.openScope
  let scopes :=
    match opened.1 with
    | .error _ => s.scopes
    | .ok scope => s.scopes ++ [scope]
  { s with session := opened.2, scopes := scopes }.note
    (.started (opened.1.map fun (scope : Nat × Builder) => scope.1))

/-- Ends an open transaction. -/
def stop (s : State β) (id : Nat) (scope : Builder) (worked : Except Error Unit) : State β :=
  let closed := s.session.closeScope id scope worked
  { s with session := closed.2, scopes := s.scopes.filter fun p => p.1 != id }.note
    (.stopped id worked closed.1)

/-- Does an operation. -/
def step (s : State β) : Operation β → State β
  | .push reply => s.onRecorder fun r => r.push reply
  | .failNext reason => s.onRecorder fun r => r.failNext reason
  | .query => s.hold s.session.query none
  | .table name => s.hold (s.session.table name) none
  | .beside parent name =>
    (s.at? parent).elim s fun h => s.hold (s.session.beside h.builder name) h.origin
  | .gather n call => s.live[n]?.elim s fun h => s.gather n h call
  | .preview place kind => (s.at? place).elim s fun h => s.preview h kind
  | .finish n t memory => s.live[n]?.elim s fun h => s.finish n h t memory
  | .drop n => s.live[n]?.elim s fun h => s.drop n h
  | .start => s.start
  | .stop id worked => (s.scope? id).elim s fun scope => s.stop id scope worked

/-- Does operations one after the other. -/
def stepAll (s : State β) (ops : List (Operation β)) : State β := ops.foldl step s

/-- Runs a program with a recorder that remembers nothing yet. -/
def run (maxIdle : Nat) (logArguments : Bool) (ops : List (Operation β)) : State β :=
  (initial maxIdle logArguments).stepAll ops

theorem stepAll_append (s : State β) (ops more : List (Operation β)) :
    s.stepAll (ops ++ more) = (s.stepAll ops).stepAll more := List.foldl_append

end State

end QueryLoom
