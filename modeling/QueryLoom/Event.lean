import QueryLoom.Database
import QueryLoom.Json.Basic
import QueryLoom.Value.Inspect

/-!
# Events

What is reported to a log while statements are gathered and sent.

* `Event` : the events; `Event.dispatching` is the only one that may show values, and only when
  the arguments are to be shown;
* `Event.level`, `Event.message`, `Event.fields` : the form of an event in a log.
-/

namespace QueryLoom

/-- What a statement is expected to give. -/
inductive Shape where
  /-- At most one row. -/
  | one
  /-- Any number of rows. -/
  | many
  /-- No rows. -/
  | execute
  deriving DecidableEq, Repr

/-- The name of a shape in a log. -/
def Shape.name : Shape → String
  | .one => "one"
  | .many => "many"
  | .execute => "execute"

/-- The name of a target in a log. -/
def Target.name : Target → String
  | .connection => "connection"
  | .transaction _ => "transaction"

/-- What a log shows of the arguments of a statement. -/
inductive Arguments where
  | counted (n : Nat)
  | shown (text : String)
  deriving DecidableEq, Repr

/-- What a log shows of some arguments, according to whether it may show them. -/
def Arguments.of (mayShow : Bool) (params : List Value) : Arguments :=
  if mayShow then .shown (String.ofList (Value.inspectAll params)) else .counted params.length

/-- Something that is reported. -/
inductive Event where
  /-- A draft was taken from the pool. -/
  | acquired (reused : Bool)
  /-- A draft was given back and waits with others. -/
  | released (idle : Nat)
  /-- A statement is about to be sent. -/
  | dispatching (target : Target) (shape : Shape) (sql : String) (arguments : Arguments)
  /-- A statement is not sent because of an error in its draft. -/
  | refused (table : String) (recorded : Nat) (error : BuildError)
  | transactionStarted
  | transactionCommitted
  | transactionRolledBack
  | rollbackFailed (error : Error)
  deriving DecidableEq, Repr

namespace Event

/-- The weights of events. -/
inductive Level where
  | trace
  | debug
  | warn
  deriving DecidableEq, Repr

/-- The name of a weight in a log. -/
def Level.name : Level → String
  | .trace => "TRACE"
  | .debug => "DEBUG"
  | .warn => "WARN"

/-- The weight of an event. -/
def level : Event → Level
  | .acquired _ | .released _ => .trace
  | .rollbackFailed _ => .warn
  | _ => .debug

/-- What an event says. -/
def message : Event → String
  | .acquired _ => "builder state acquired"
  | .released _ => "builder state released"
  | .dispatching .. => "dispatching statement"
  | .refused .. => "builder has a recorded error, nothing dispatched"
  | .transactionStarted => "transaction started"
  | .transactionCommitted => "transaction committed"
  | .transactionRolledBack => "transaction rolled back"
  | .rollbackFailed _ => "transaction rollback failed"

/-- A number in a log. -/
def count (n : Nat) : Json := .number (.int n)

/-- The form of arguments in a log. -/
def argumentField : Arguments → Json
  | .counted n => count n
  | .shown text => .text text

/-- What an event says in particular. -/
def fields : Event → List (String × Json)
  | .acquired reused => [("reused", .bool reused)]
  | .released idle => [("idle", count idle)]
  | .dispatching target shape sql arguments =>
    [("target_kind", .text target.name), ("shape", .text shape.name), ("sql", .text sql),
      ("args", argumentField arguments)]
  | .refused table recorded error =>
    [("table", .text table), ("recorded", count recorded), ("error", .text error.message)]
  | .rollbackFailed error => [("error", .text error.message)]
  | .transactionStarted | .transactionCommitted | .transactionRolledBack => []

/-- The form of an event in a log. -/
def toJson (e : Event) : Json :=
  .object (NameMap.insertAll
    (("level", .text e.level.name) :: ("message", .text e.message) :: e.fields))

end Event

end QueryLoom
