import QueryLoom.Wire.Server

/-!
# Conversations

Sequences of calls on one server, with at most one open transaction.

* `Wire.Call` : the calls; `Wire.Answer` : what each gives;
* `Wire.converse` : makes calls one after the other.
-/

namespace QueryLoom.Wire

/-- A call. Statements run in the open transaction unless they are told to stay outside. -/
inductive Call where
  | queryOne (statement : Statement) (outside : Bool)
  | queryMany (statement : Statement) (outside : Bool)
  | execute (statement : Statement) (outside : Bool)
  | start
  | commit
  | rollback
  deriving DecidableEq, Repr

inductive Answer where
  | row (r : Except Error (Option Row))
  | rows (r : Except Error (List (Except Error Row)))
  | outcome (r : Except Error Outcome)
  | done (r : Except Error Unit)

/-- A call with what reached the server meanwhile. -/
structure Exchanged where
  answer : Answer
  received : List Received

def targetOf (current : Option Nat) (outside : Bool) : Target :=
  match current with
  | some id => if outside then .connection else .transaction id
  | none => .connection

/-- Makes a call. A transaction can only be ended while one is open. -/
def Call.make (s : Server) (current : Option Nat) :
    Call → Option (Answer × Option Nat × Server)
  | .queryOne statement outside =>
    let answered := Database.queryOne (targetOf current outside) statement s
    some (.row answered.1, current, answered.2)
  | .queryMany statement outside =>
    let answered := Database.queryMany (targetOf current outside) statement s
    some (.rows answered.1, current, answered.2)
  | .execute statement outside =>
    let answered := Database.execute (targetOf current outside) statement s
    some (.outcome answered.1, current, answered.2)
  | .start =>
    match Database.start s with
    | (.error e, s) => some (.done (.error e), current, s)
    | (.ok id, s) => some (.done (.ok ()), some id, s)
  | .commit =>
    current.map fun id =>
      let ended := Database.commit id s
      (.done ended.1, none, ended.2)
  | .rollback =>
    current.map fun id =>
      let ended := Database.rollback id s
      (.done ended.1, none, ended.2)

/-- Makes calls one after the other, each with the reply that the server has ready for it. -/
def converse (s : Server) (current : Option Nat) : List (Call × Reply) → Option (List Exchanged)
  | [] => some []
  | (call, reply) :: rest =>
    match call.make { s with replies := [reply] } current with
    | none => none
    | some (answer, current, after) =>
      (converse after current rest).map fun others =>
        ⟨answer, after.received.drop s.received.length⟩ :: others

/-- Reaches a server before the first call. -/
def connect (s : Server) : Except Error Unit :=
  if s.isReachable then .ok () else .error Server.unreachable

end QueryLoom.Wire
