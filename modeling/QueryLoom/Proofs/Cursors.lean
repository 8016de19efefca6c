import QueryLoom.Proofs.Ending
import QueryLoom.Wire.Server

/-!
# Rows as they arrive and rows that have all arrived

On the base connection of a server the rows of a result are read one by one; in a transaction all of
them arrive first. No visitor and no reader of rows can tell.

* `Wire.Server.make_queryMany` : one query, whatever is made of its rows;
* `Session.Alike` : answers that are the same and leave the same database and pool;
* `Session.send_alike` : a builder's query;
* `cursors_agree` : both ways to go through all rows, and what they come upon.
-/

namespace QueryLoom

open Wire (Server SentRow)

/-! ## One query -/

namespace Wire

/-- The names that the rows of a result share: those of the first row. -/
def sharedNames : List SentRow → List String
  | [] => []
  | r :: _ => r.names

/-- The rows of a result, each read on its own. -/
def decoded (rs : List SentRow) : List (Except Error Row) := rs.map (readRow (sharedNames rs))

theorem buffered_eq_decoded (rs : List SentRow) : buffered rs = decoded rs := by
  cases rs <;> rfl

theorem streamed_eq_decoded (rs : List SentRow) : streamed none rs = decoded rs := by
  rw [streamed_eq_buffered, buffered_eq_decoded]

namespace Server

variable {s s' : Server} {st : Statement}

theorem queryMany_of_ok {reply : Reply} (h : s.send st = (.ok reply, s')) (target : Target) :
    s.queryMany target st = (.ok (decoded (rowsOf reply)), s') := by
  cases target with
  | connection => simp only [queryMany, h, streamed_eq_decoded]
  | transaction id => simp only [queryMany, h, buffered_eq_decoded]

/-- Where a statement goes changes nothing at the server. -/
theorem state_queryMany (s : Server) (st : Statement) (target : Target) :
    (s.queryMany target st).2 = (s.send st).2 := by
  rcases sent : s.send st with ⟨failed | reply, after⟩
  · cases target <;> simp only [queryMany, sent]
  · rw [queryMany_of_ok sent]

/-- A refused statement is a row that failed on the base connection, and a query that failed in a
transaction. Where that is no difference, there is none. -/
theorem make_queryMany {α : Type} (make : Except Error (List (Except Error Row)) → α)
    (refused : ∀ e, make (.ok [.error e]) = make (.error e)) (s : Server) (st : Statement)
    (id : Nat) :
    make (s.queryMany .connection st).1 = make (s.queryMany (.transaction id) st).1 := by
  rcases sent : s.send st with ⟨failed | reply, after⟩
  · simp only [queryMany, sent, refused]
  · rw [queryMany_of_ok sent, queryMany_of_ok sent]

end Server

end Wire

/-! ## A builder's query -/

namespace Session

variable {α β : Type}

/-- The same answer, the same database and the same pool: only the log may differ, which names the
target of every statement. -/
structure Alike (x y : α × Session Server) : Prop where
  answer : x.1 = y.1
  database : x.2.database = y.2.database
  pool : x.2.pool = y.2.pool

/-- A builder's query on the base connection and in a transaction, whatever is made of the rows. -/
theorem send_alike (s : Session Server) (d : Draft) (id : Nat) (refuse : Error → α)
    (make : Except Error (List (Except Error Row)) → α)
    (refused : ∀ e, make (.ok [.error e]) = make (.error e)) :
    Alike
      (s.send ⟨.connection, d⟩ .select refuse fun s st =>
        (make (s.queryMany .connection st).1, (s.queryMany .connection st).2))
      (s.send ⟨.transaction id, d⟩ .select refuse fun s st =>
        (make (s.queryMany (.transaction id) st).1, (s.queryMany (.transaction id) st).2)) := by
  -- the target takes no part in preparing the statement
  have prepared : s.prepare ⟨.transaction id, d⟩ .select = s.prepare ⟨.connection, d⟩ .select := rfl
  obtain ⟨e, s', h, -⟩ | ⟨st, h⟩ := s.prepare_cases ⟨.connection, d⟩ .select
  · rw [send_of_error h, send_of_error (prepared.trans h)]
    exact ⟨rfl, rfl, rfl⟩
  · rw [send_of_ok h, send_of_ok (prepared.trans h)]
    refine ⟨Server.make_queryMany make refused s.database st id, ?_, ?_⟩
    · rw [database_close, database_close]
      show (s.database.queryMany .connection st).2 = (s.database.queryMany (.transaction id) st).2
      rw [Server.state_queryMany, Server.state_queryMany]
    · rw [close, close, pool_release, pool_release]
      rfl

theorem sendMany_alike (s : Session Server) (d : Draft) (id : Nat) (visit : Visitor β)
    (memory : β) :
    Alike (s.sendMany ⟨.connection, d⟩ visit memory)
      (s.sendMany ⟨.transaction id, d⟩ visit memory) := by
  rw [sendMany_eq, sendMany_eq]
  exact send_alike s d id _ (visited visit memory) fun _ => rfl

theorem sendAll_alike (s : Session Server) (d : Draft) (id : Nat) (read : Row → Except Error α) :
    Alike (s.sendAll ⟨.connection, d⟩ read) (s.sendAll ⟨.transaction id, d⟩ read) := by
  rw [sendAll_eq, sendAll_eq]
  exact send_alike s d id _ (fun rows => rows.bind (readAll read)) fun _ => rfl

/-! ## What is read -/

section

variable {s : Session Server} {b : Builder} {st : Statement} {rs : List SentRow}
  {rest : List Wire.Reply}

/-- The rows of a statement are those of the reply that the server has ready, each on its own. -/
theorem queryMany_of_rows (reachable : s.database.isReachable = true)
    (next : s.database.replies = .rows rs :: rest) (target : Target) :
    (s.queryMany target st).1 = .ok (Wire.decoded rs) := by
  have sent : s.database.send st = (.ok (.rows rs), (s.database.send st).2) := by
    simp only [Server.send, Server.exchange, reachable, next, if_true, List.headD_cons]
  show (s.database.queryMany target st).1 = _
  rw [Server.queryMany_of_ok sent]
  rfl

theorem sendMany_of_rows (clean : b.draft.firstError = none)
    (compiles : b.draft.compile .select = .ok st) (reachable : s.database.isReachable = true)
    (next : s.database.replies = .rows rs :: rest) (visit : Visitor β) (memory : β) :
    (s.sendMany b visit memory).1 = visitAll visit (Wire.decoded rs) memory := by
  rw [sendMany_eq, send_of_ok (prepare_of_compile_ok clean compiles)]
  show visited visit memory (s.queryMany b.target st).1 = _
  rw [queryMany_of_rows reachable next]
  rfl

theorem sendAll_of_rows (clean : b.draft.firstError = none)
    (compiles : b.draft.compile .select = .ok st) (reachable : s.database.isReachable = true)
    (next : s.database.replies = .rows rs :: rest) (read : Row → Except Error α) :
    (s.sendAll b read).1 = readAll read (Wire.decoded rs) := by
  rw [sendAll_eq, send_of_ok (prepare_of_compile_ok clean compiles)]
  show (s.queryMany b.target st).1.bind (readAll read) = _
  rw [queryMany_of_rows reachable next]
  rfl

end

end Session

/-! ## Main statement -/

/-- Showing all rows to a visitor and reading all rows come out alike on the base connection and in
a transaction, whatever the server answers. If it answers with rows, both take these in order, each
decoded with the names of the first, up to the first that cannot be decoded, that the visitor
refuses or that cannot be read. -/
theorem cursors_agree (s : Session Server) (d : Draft) (id : Nat) :
    (∀ (β : Type) (memory : β),
      (∀ visit, Session.Alike (s.finish ⟨.connection, d⟩ (.get visit) memory)
        (s.finish ⟨.transaction id, d⟩ (.get visit) memory)) ∧
      ∀ form, Session.Alike (s.finish ⟨.connection, d⟩ (.fetchAll form) memory)
        (s.finish ⟨.transaction id, d⟩ (.fetchAll form) memory)) ∧
    (∀ (α : Type) (read : Row → Except Error α),
      Session.Alike (s.sendAll ⟨.connection, d⟩ read) (s.sendAll ⟨.transaction id, d⟩ read)) ∧
    ∀ st rs rest, d.firstError = none → d.compile .select = .ok st →
      s.database.isReachable = true → s.database.replies = .rows rs :: rest → ∀ target : Target,
        (∀ (β : Type) (visit : Visitor β) (memory : β),
          (s.finish ⟨target, d⟩ (.get visit) memory).1 =
            visitAll visit (Wire.decoded rs) memory) ∧
        ∀ (α : Type) (read : Row → Except Error α),
          (s.sendAll ⟨target, d⟩ read).1 = readAll read (Wire.decoded rs) := by
  refine ⟨fun β memory => ⟨fun visit => ?_, fun form => ?_⟩, fun α read => ?_, ?_⟩
  · exact s.sendMany_alike d id visit memory
  · obtain ⟨answer, database, pool⟩ := s.sendAll_alike d id fun row => row.readForm form
    exact ⟨congrArg (·, memory) answer, database, pool⟩
  · exact s.sendAll_alike d id read
  · intro st rs rest clean compiles reachable next target
    exact ⟨fun _ visit memory =>
        Session.sendMany_of_rows clean compiles reachable next visit memory,
      fun _ read => Session.sendAll_of_rows clean compiles reachable next read⟩

/-- Rows of one column: a number, a NULL, and a moment that cannot be read. -/
def listedRows : List SentRow :=
  [⟨[⟨"id", 8, 0, 63, 20⟩], [some [7, 0, 0, 0, 0, 0, 0, 0]]⟩, ⟨[⟨"id", 8, 0, 63, 20⟩], [none]⟩,
    ⟨[⟨"at", 7, 0, 63, 19⟩], [some [4, 230, 7, 1, 1]]⟩, ⟨[⟨"id", 8, 0, 63, 20⟩], [none]⟩]

/-- A session with a server that answers with these rows. -/
def listingSession : Session Server where
  database := { isReachable := true, replies := [.rows listedRows] }
  pool := { maxIdle := 1 }
  logArguments := false

/-- A draft for all rows of a table. -/
def listing : Draft := { table := some "orders" }

/-- A visitor that remembers the rows. -/
def collect : Visitor (List Row) := fun row rows => (.ok (), rows ++ [row])

theorem cursors_agree_listing :
    Session.Alike (listingSession.finish ⟨.connection, listing⟩ (.get collect) [])
      (listingSession.finish ⟨.transaction 1, listing⟩ (.get collect) []) ∧
    (listingSession.finish ⟨.transaction 1, listing⟩ (.get collect) []).1 =
      (.error (.database (.column 0 Wire.CellFault.timestamp.message)),
        [⟨["id"], [.int64 7]⟩, ⟨["id"], [.null]⟩]) := by
  obtain ⟨alike, -, rows⟩ := cursors_agree listingSession listing 1
  have shown := (rows _ listedRows [] rfl rfl rfl rfl (.transaction 1)).1 _ collect []
  exact ⟨(alike _ []).1 collect, shown.trans rfl⟩

end QueryLoom
