import QueryLoom.Database
import QueryLoom.Wire.Argument
import QueryLoom.Wire.Cell

/-!
# Servers

A database behind a network: statements and their arguments are sent, and results come back as
bytes.

* `Wire.Server` : what the server will answer and what reached it;
* `Wire.streamed`, `Wire.buffered` : the rows of a result, read as they arrive or after all of them
  have arrived;
* `Wire.streamed_eq_buffered` : when every row describes its columns alike, both are the same.
-/

namespace QueryLoom.Wire

/-! ## Results -/

/-- The rows of a result as they arrive; the names of the columns are those of the first row that
has arrived. -/
def streamed : (names : Option (List String)) → List SentRow → List (Except Error Row)
  | _, [] => []
  | names, r :: rs =>
    let known := names.getD r.names
    readRow known r :: streamed (some known) rs

/-- The rows of a result that has arrived in full. -/
def buffered : List SentRow → List (Except Error Row)
  | [] => []
  | r :: rs => (r :: rs).map (readRow r.names)

theorem streamed_some (names : List String) (rs : List SentRow) :
    streamed (some names) rs = rs.map (readRow names) := by
  induction rs with
  | nil => rfl
  | cons r rs ih => simp [streamed, ih]

/-- Reading rows as they arrive and after all of them have arrived is the same. -/
theorem streamed_eq_buffered (rs : List SentRow) : streamed none rs = buffered rs := by
  cases rs with
  | nil => rfl
  | cons r rs => simp [streamed, buffered, streamed_some]

/-! ## Servers -/

inductive Reply where
  /-- Rows were changed: how many, and the number of the last new one. -/
  | changed (affected insertId : Nat)
  | refused (code : Nat) (state text : String)
  | rows (rows : List SentRow)
  deriving DecidableEq, Repr

inductive Received where
  /-- A statement with its arguments. -/
  | statement (sql : String) (bound : List Argument)
  | command (text : String)
  deriving DecidableEq, Repr

/-- A server at the other end of a network. -/
structure Server where
  isReachable : Bool
  /-- The next replies; without one, nothing was changed. -/
  replies : List Reply := []
  /-- What reached the server, in order. -/
  received : List Received := []
  opened : Nat := 0
  deriving DecidableEq, Repr

namespace Server

/-- What is reported when the network does not lead to the server. -/
def unreachable : Error :=
  .database (.communication "Network is unreachable (os error 101)")

/-- Sends something and waits for the reply. -/
def exchange (message : Received) (s : Server) : Except Error Reply × Server :=
  if s.isReachable then
    let after := { s with replies := s.replies.tail, received := s.received ++ [message] }
    match s.replies.headD (.changed 0 0) with
    | .refused code state text => (.error (.database (.refused code state text)), after)
    | reply => (.ok reply, after)
  else (.error unreachable, s)

def send (statement : Statement) (s : Server) : Except Error Reply × Server :=
  s.exchange (.statement statement.sql (statement.params.map bind))

def command (text : String) (s : Server) : Except Error Unit × Server :=
  let answered := s.exchange (.command text)
  (answered.1.map fun _ => (), answered.2)

def rowsOf : Reply → List SentRow
  | .rows rows => rows
  | _ => []

def firstOf (reply : Reply) : Except Error (Option Row) :=
  match rowsOf reply with
  | [] => .ok none
  | r :: _ => (readRow r.names r).map some

/-- The outcome of a reply; a result with rows has changed nothing. -/
def outcomeOf : Reply → Outcome
  | .changed affected insertId => ⟨affected, some insertId⟩
  | _ => ⟨0, some 0⟩

def queryOne (statement : Statement) (s : Server) : Except Error (Option Row) × Server :=
  match s.send statement with
  | (.error e, s) => (.error e, s)
  | (.ok reply, s) => (firstOf reply, s)

/-- The rows of a query. On the base connection they arrive one by one, and an error of the
statement arrives in their place; in a transaction all of them arrive first. -/
def queryMany (target : Target) (statement : Statement) (s : Server) :
    Except Error (List (Except Error Row)) × Server :=
  match target, s.send statement with
  | .connection, (.error e, s) => (.ok [.error e], s)
  | .connection, (.ok reply, s) => (.ok (streamed none (rowsOf reply)), s)
  | .transaction _, (.error e, s) => (.error e, s)
  | .transaction _, (.ok reply, s) => (.ok (buffered (rowsOf reply)), s)

def execute (statement : Statement) (s : Server) : Except Error Outcome × Server :=
  let answered := s.send statement
  (answered.1.map outcomeOf, answered.2)

def start (s : Server) : Except Error Nat × Server :=
  match s.command "BEGIN" with
  | (.error e, s) => (.error e, s)
  | (.ok (), s) => (.ok (s.opened + 1), { s with opened := s.opened + 1 })

instance : Database Server where
  queryOne _ := queryOne
  queryMany := queryMany
  execute _ := execute
  start := start
  commit _ := command "COMMIT"
  rollback _ := command "ROLLBACK"

end Server

end QueryLoom.Wire
