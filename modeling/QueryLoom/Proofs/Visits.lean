import QueryLoom.Proofs.Fetching

/-!
# Visiting rows

A visitor is called on the rows of a result in order, and the first error it gives ends the visit;
rows that are collected are read in order, and the first that cannot be read decides.

* `Visitor.Passes`, `Visitor.Ends` : the two ways in which a visit of rows ends, with the rows that
  the visitor was called on;
* `Visitor.noting` : a visitor that remembers what it was called on;
* `Shown`, `Collected` : what becomes of the answer to a query;
* `Session.shown_get`, `Session.shown_getPage`, `Session.collected_sendAll` : the operations that
  go through all rows, on any database;
* `rows_visited` : all of it, and how a recorder uses up its replies.
-/

namespace QueryLoom

variable {σ α β : Type}

/-! ## Visits -/

namespace Visitor

/-- The visitor is called on rows one after the other, and refuses none of them. -/
inductive Passes (visit : Visitor β) : List Row → β → β → Prop
  | nil (memory : β) : Passes visit [] memory memory
  | cons {row : Row} {rows : List Row} {memory between after : β}
      (accepts : visit row memory = (.ok (), between)) (rest : Passes visit rows between after) :
      Passes visit (row :: rows) memory after

/-- How a visit of rows ends, after the rows that the visitor was called on: all of them when it
refuses none, and otherwise those up to the first that it refuses. -/
inductive Ends (visit : Visitor β) (memory : β) :
    List Row → List Row → Except Error Unit × β → Prop
  | all {rows : List Row} {after : β} (passes : Passes visit rows memory after) :
      Ends visit memory rows rows (.ok (), after)
  | refused {front : List Row} {row : Row} {between after : β} {e : Error}
      (passes : Passes visit front memory between)
      (refuses : visit row between = (.error e, after)) (back : List Row) :
      Ends visit memory (front ++ row :: back) (front ++ [row]) (.error e, after)

/-- The visitor together with a list of the rows that it was called on. -/
def noting (visit : Visitor β) : Visitor (β × List Row) := fun row memory =>
  let answered := visit row memory.1
  (answered.1, (answered.2, memory.2 ++ [row]))

variable {visit : Visitor β} {row : Row} {rows shown : List Row} {memory between : β}
  {ended : Except Error Unit × β}

/-- A visit goes on behind a row that is accepted. -/
theorem Ends.cons (accepts : visit row memory = (.ok (), between))
    (rest : Ends visit between rows shown ended) :
    Ends visit memory (row :: rows) (row :: shown) ended := by
  cases rest with
  | all passes => exact .all (.cons accepts passes)
  | refused passes refuses back => exact .refused (.cons accepts passes) refuses back

/-- Going through rows that were all read is such a visit, and the visitor was called on the rows
that it tells. -/
theorem ends_visitAll (visit : Visitor β) (rows : List Row) (memory : β) :
    ∃ shown, Ends visit memory rows shown (visitAll visit (rows.map .ok) memory) ∧
      ∀ seen, visitAll visit.noting (rows.map .ok) (memory, seen) =
        ((visitAll visit (rows.map .ok) memory).1,
          (visitAll visit (rows.map .ok) memory).2, seen ++ shown) := by
  induction rows generalizing memory with
  | nil => exact ⟨[], .all (.nil memory), fun seen => by simp [visitAll]⟩
  | cons row rows ih =>
    rcases answered : visit row memory with ⟨answer, after⟩
    cases answer with
    | error e =>
      refine ⟨[row], ?_, fun seen => ?_⟩
      · simp only [List.map_cons, visitAll, answered]
        have stopped := Ends.refused (.nil memory) answered rows
        exact stopped
      · simp only [List.map_cons, visitAll, noting, answered]
    | ok accepted =>
      obtain ⟨shown, ends, also⟩ := ih after
      refine ⟨row :: shown, ?_, fun seen => ?_⟩
      · simp only [List.map_cons, visitAll, answered]
        exact ends.cons answered
      · simp only [List.map_cons, visitAll, noting, answered, also, List.append_assoc,
          List.singleton_append]

end Visitor

/-! ## Collected rows -/

theorem readAll_eq_ok_iff {read : Row → Except Error α} {rows : List Row} {xs : List α} :
    readAll read (rows.map .ok) = .ok xs ↔
      List.Forall₂ (fun row x => read row = .ok x) rows xs := by
  induction rows generalizing xs with
  | nil => simp [readAll, eq_comm]
  | cons row rows ih =>
    rw [List.map_cons, readAll]
    constructor
    · intro collected
      cases first : read row with
      | error e => simp [first] at collected
      | ok x =>
        cases others : readAll read (rows.map .ok) with
        | error e => simp [first, others, Except.map] at collected
        | ok ys =>
          obtain rfl : x :: ys = xs := by simpa [first, others, Except.map] using collected
          exact .cons first (ih.1 others)
    · rintro (_ | ⟨first, others⟩)
      rw [first, ih.2 others]
      rfl

theorem readAll_eq_error_iff {read : Row → Except Error α} {rows : List Row} {e : Error} :
    readAll read (rows.map .ok) = .error e ↔
      ∃ front row back, rows = front ++ row :: back ∧ (∀ r ∈ front, ∃ x, read r = .ok x) ∧
        read row = .error e := by
  induction rows with
  | nil => simp [readAll]
  | cons row rows ih =>
    rw [List.map_cons, readAll]
    cases first : read row with
    | error e' =>
      constructor
      · rintro ⟨⟩
        exact ⟨[], row, rows, rfl, by simp, first⟩
      · rintro ⟨front, bad, back, split, before, failed⟩
        cases front with
        | nil =>
          cases split
          simpa [first] using failed
        | cons r front =>
          cases split
          obtain ⟨x, fine⟩ := before _ List.mem_cons_self
          simp [first] at fine
    | ok x =>
      have later : (readAll read (rows.map .ok)).map (x :: ·) = .error e ↔
          readAll read (rows.map .ok) = .error e := by
        cases readAll read (rows.map .ok) <;> simp [Except.map]
      rw [later, ih]
      constructor
      · rintro ⟨front, bad, back, rfl, before, failed⟩
        exact ⟨row :: front, bad, back, rfl, List.forall_mem_cons.2 ⟨⟨x, first⟩, before⟩, failed⟩
      · rintro ⟨front, bad, back, split, before, failed⟩
        cases front with
        | nil =>
          cases split
          simp [first] at failed
        | cons r front =>
          cases split
          exact ⟨front, bad, back, rfl, (List.forall_mem_cons.1 before).2, failed⟩

/-! ## Answers -/

/-- What becomes of the answer to a query whose rows are shown, where `run` is the operation with
each visitor and `gives` what it gives at the end. A failed query is returned and the visitor is
called on nothing; rows are visited. -/
def Shown (answer : Except Error (List (Except Error Row))) (gives : α)
    (run : ∀ β : Type, Visitor β → β → Except Error α × β) : Prop :=
  ∀ (β : Type) (visit : Visitor β) (memory : β),
    (∀ e, answer = .error e →
      run β visit memory = (.error e, memory) ∧
        run _ visit.noting (memory, []) = (.error e, memory, [])) ∧
    ∀ rows, answer = .ok (rows.map .ok) →
      ∃ shown ended, visit.Ends memory rows shown ended ∧
        run β visit memory = (ended.1.map fun _ => gives, ended.2) ∧
        run _ visit.noting (memory, []) = (ended.1.map fun _ => gives, ended.2, shown)

/-- What becomes of the answer to a query whose rows are collected. A failed query is returned; the
values of the rows are listed if every row has one, and otherwise the first row without one
decides. -/
def Collected (answer : Except Error (List (Except Error Row))) (read : Row → Except Error α)
    (result : Except Error (List α)) : Prop :=
  (∀ e, answer = .error e → result = .error e) ∧
    ∀ rows, answer = .ok (rows.map .ok) →
      (∀ xs, result = .ok xs ↔ List.Forall₂ (fun row x => read row = .ok x) rows xs) ∧
      ∀ e, result = .error e ↔
        ∃ front row back, rows = front ++ row :: back ∧ (∀ r ∈ front, ∃ x, read r = .ok x) ∧
          read row = .error e

namespace Session

theorem shown_visited (answer : Except Error (List (Except Error Row))) (gives : α) :
    Shown answer gives fun _ visit memory =>
      ((visited visit memory answer).1.map fun _ => gives, (visited visit memory answer).2) := by
  refine fun β visit memory => ⟨?_, ?_⟩
  · rintro e rfl
    exact ⟨rfl, rfl⟩
  · rintro rows rfl
    obtain ⟨shown, ends, noted⟩ := visit.ends_visitAll rows memory
    refine ⟨shown, _, ends, rfl, ?_⟩
    simp only [visited, noted, List.nil_append]

theorem collected_readAll (answer : Except Error (List (Except Error Row)))
    (read : Row → Except Error α) : Collected answer read (answer.bind (readAll read)) := by
  refine ⟨?_, ?_⟩
  · rintro e rfl
    rfl
  · rintro rows rfl
    exact ⟨fun xs => readAll_eq_ok_iff, fun e => readAll_eq_error_iff⟩

/-! ## Operations -/

variable [Database σ] {b : Builder} {st : Statement} (clean : b.draft.firstError = none)
include clean

section

variable (compiled : b.draft.compile .select = .ok st) (s : Session σ)
include compiled

/-- The rows of a builder's query are shown, and the query is all that the database receives. -/
theorem shown_get :
    Shown (Database.queryMany b.target st s.database).1 ()
        (fun _ visit memory => (s.finish b (.get visit) memory).1) ∧
      ∀ (β : Type) (visit : Visitor β) (memory : β),
        (s.finish b (.get visit) memory).2.database =
          (Database.queryMany b.target st s.database).2 := by
  have ready : s.prepare b .select = (.ok st, s) := prepare_of_compile_ok clean compiled
  have same (result : Except Error Unit) : (result.map fun _ => ()) = result := by
    cases result <;> rfl
  have answered : (fun (β : Type) (visit : Visitor β) (memory : β) =>
      (s.finish b (.get visit) memory).1) = fun _ visit memory =>
        ((visited visit memory (Database.queryMany b.target st s.database).1).1.map fun _ => (),
          (visited visit memory (Database.queryMany b.target st s.database).1).2) := by
    funext β visit memory
    rw [same]
    simp only [finish, sendMany_eq, send_of_ok ready]
    rfl
  refine ⟨answered ▸ shown_visited _ (), fun β visit memory => ?_⟩
  simp only [finish, sendMany_eq, send_of_ok ready, database_close]
  rfl

/-- The rows of a builder's query are collected, and the query is all that the database receives. -/
theorem collected_sendAll (read : Row → Except Error α) :
    Collected (Database.queryMany b.target st s.database).1 read (s.sendAll b read).1 ∧
      (s.sendAll b read).2.database = (Database.queryMany b.target st s.database).2 := by
  have ready : s.prepare b .select = (.ok st, s) := prepare_of_compile_ok clean compiled
  simp only [sendAll_eq, send_of_ok ready, database_close]
  exact ⟨collected_readAll _ read, rfl⟩

end

/-- The rows of a page are shown like those of any other query, once they were counted. -/
theorem shown_getPage {table : String} {count : Statement} {page size total : UInt64}
    (chosen : b.draft.table = some table)
    (counts : (b.draft.aggregating .count).compile .select = .ok count) (room : size ≠ 0)
    (s : Session σ)
    (told : totalOf (Database.queryOne b.target count s.database).1 = .ok total)
    (within : max page.toNat 1 ≤ (Page.of total size).totalPages.toNat) :
    ∃ offset fetch, offset.toNat = (max page.toNat 1 - 1) * size.toNat ∧
      (b.draft.window offset size).compile .select = .ok fetch ∧
      let asked := Database.queryMany b.target fetch
        (Database.after .one b.target count s.database)
      Shown asked.1 (Page.of total size)
          (fun _ visit memory => (s.finish b (.getPage page size visit) memory).1) ∧
        ∀ (β : Type) (visit : Visitor β) (memory : β),
          (s.finish b (.getPage page size visit) memory).2.database = asked.2 := by
  have fetched (β : Type) (visit : Visitor β) (memory : β) :=
    getPage_of_within clean counts room chosen told within visit memory
  obtain ⟨-, offset, fetch, first, compiled, -⟩ :=
    fetched Unit (fun _ memory => (.ok (), memory)) ()
  -- whatever the visitor, the same rows are asked for
  have ended (β : Type) (visit : Visitor β) (memory : β) :
      let asked := Database.queryMany b.target fetch
        (Database.after .one b.target count s.database)
      (s.getPage b page size visit memory).1 =
          ((visited visit memory asked.1).1.map fun _ => Page.of total size,
            (visited visit memory asked.1).2) ∧
        (s.getPage b page size visit memory).2.database = asked.2 := by
    obtain ⟨-, offset', fetch', first', compiled', shown⟩ := fetched β visit memory
    obtain rfl : offset' = offset := UInt64.toNat_inj.1 (first'.trans first.symm)
    obtain rfl : fetch' = fetch := Except.ok.inj (compiled'.symm.trans compiled)
    exact shown
  refine ⟨offset, fetch, first, compiled, ?_, fun β visit memory => (ended β visit memory).2⟩
  have answered := funext fun β => funext fun visit => funext fun memory =>
    (ended β visit memory).1
  simp only [finish, answered]
  exact shown_visited _ _

end Session

/-! ## Recorders -/

namespace Recorder

variable {r : Recorder}

/-- A query for rows, of which the first is taken or all are, uses up the reply with the rows. -/
theorem query_of_rows {columns : List String} {values : List (List Value)} {rest : List Reply}
    (ready : r.failure = none) (next : r.replies = .rows columns values :: rest) (target : Target)
    (st : Statement) :
    query target st r = (.ok (values.map fun v => ⟨columns, v⟩),
      { r with sent := r.sent ++ [sentOn target st], replies := rest }) := by
  simp only [query, receive_of_none ready, answerRows, next]

/-- A prepared failure is used up, and no reply. -/
theorem query_of_some {reason : String} (failing : r.failure = some reason) (target : Target)
    (st : Statement) :
    query target st r = (.error (.driver reason),
      { r with sent := r.sent ++ [sentOn target st], failure := none }) := by
  simp only [query, receive_of_some failing]

end Recorder

/-! ## Main statement -/

/-- On any database, a builder whose query can be prepared calls a visitor on the rows of the answer
in order, once for each, up to and including the first that the visitor refuses. It gives the error
of that one as it is, and succeeds when the visitor refuses none. So does the fetch of a page, after
the count. Collecting gives what is read of all rows, in order, or the error of the first row that
cannot be read. When the query itself fails its error is given, and no visitor is called. In every
case the database receives that query and nothing behind it.

A recorder answers the query with the rows of its next reply and uses up that reply alone, so that
the next query is answered by the one behind it, wherever the visit stopped; a prepared failure is
used up in place of a reply. -/
theorem rows_visited {b : Builder} {st : Statement} (clean : b.draft.firstError = none)
    (compiled : b.draft.compile .select = .ok st) :
    (∀ {σ : Type} [Database σ] (s : Session σ),
      let asked := Database.queryMany b.target st s.database
      Shown asked.1 () (fun _ visit memory => (s.finish b (.get visit) memory).1) ∧
      (∀ (β : Type) (visit : Visitor β) (memory : β),
        (s.finish b (.get visit) memory).2.database = asked.2) ∧
      (∀ (α : Type) (read : Row → Except Error α),
        Collected asked.1 read (s.sendAll b read).1 ∧ (s.sendAll b read).2.database = asked.2) ∧
      ∀ (β : Type) (form : RowForm) (memory : β),
        s.finish b (.fetchAll form) memory =
          (((s.sendAll b fun row => row.readForm form).1, memory),
            (s.sendAll b fun row => row.readForm form).2)) ∧
    (∃ count : Statement, (b.draft.aggregating .count).compile .select = .ok count ∧
      ∀ {σ : Type} [Database σ] (s : Session σ) (page size total : UInt64), size ≠ 0 →
        Session.totalOf (Database.queryOne b.target count s.database).1 = .ok total →
        max page.toNat 1 ≤ (Page.of total size).totalPages.toNat →
          ∃ offset fetch, offset.toNat = (max page.toNat 1 - 1) * size.toNat ∧
            (b.draft.window offset size).compile .select = .ok fetch ∧
            let asked := Database.queryMany b.target fetch
              (Database.after .one b.target count s.database)
            Shown asked.1 (Page.of total size)
                (fun _ visit memory => (s.finish b (.getPage page size visit) memory).1) ∧
              ∀ (β : Type) (visit : Visitor β) (memory : β),
                (s.finish b (.getPage page size visit) memory).2.database = asked.2) ∧
    ∀ (r : Recorder) (target : Target) (st : Statement),
      (Database.queryOne target st r).2 = (Database.queryMany target st r).2 ∧
      (∀ columns values rest, r.failure = none → r.replies = .rows columns values :: rest →
        Database.queryMany target st r = (.ok ((values.map fun v => ⟨columns, v⟩).map .ok),
          { r with sent := r.sent ++ [Recorder.sentOn target st], replies := rest })) ∧
      ∀ reason, r.failure = some reason →
        Database.queryMany target st r = (.error (.driver reason),
          { r with sent := r.sent ++ [Recorder.sentOn target st], failure := none }) := by
  obtain ⟨table, chosen, -⟩ := Draft.made_of_compile compiled
  refine ⟨fun s => ?_, ⟨_, Draft.compile_select chosen, ?_⟩, fun r target st => ⟨rfl, ?_, ?_⟩⟩
  · obtain ⟨shown, asked⟩ := Session.shown_get clean compiled s
    exact ⟨shown, asked, fun α read => Session.collected_sendAll clean compiled s read,
      fun β form memory => rfl⟩
  · intro σ _ s page size total room told within
    exact Session.shown_getPage clean chosen (Draft.compile_select chosen) room s told within
  · intro columns values rest ready next
    simp only [Database.queryMany, Recorder.query_of_rows ready next, Except.map]
  · intro reason failing
    simp only [Database.queryMany, Recorder.query_of_some failing, Except.map]

/-- A builder for all rows of a table. -/
def allOrders : Builder := ⟨.connection, { table := some "orders" }⟩

/-- A session with two results: three rows, and one more for the next query. -/
def twoResults : Session Recorder where
  database := { replies := [.rows ["id"] [[.int64 1], [.int64 2], [.int64 3]],
    .rows ["id"] [[.int64 4]]] }
  pool := { maxIdle := 1 }
  logArguments := false

/-- A visitor that counts rows and has enough of them at the second. -/
def refuseSecond : Visitor Nat := fun _ n =>
  (if n = 1 then .error (.driver "enough") else .ok (), n + 1)

/-- The visit stops at the second of three rows, and the next query has the other result. -/
theorem rows_visited_stopped :
    allOrders.draft.firstError = none ∧
      allOrders.draft.compile .select = .ok ⟨"SELECT * FROM orders", []⟩ ∧
      let stopped := twoResults.finish allOrders (.get refuseSecond.noting) (0, [])
      stopped.1 = (.error (.driver "enough"), 2, [⟨["id"], [.int64 1]⟩, ⟨["id"], [.int64 2]⟩]) ∧
        stopped.2.database.replies = [.rows ["id"] [[.int64 4]]] ∧
        (stopped.2.finish allOrders (.get refuseSecond.noting) (0, [])).1 =
          (.ok (), 1, [⟨["id"], [.int64 4]⟩]) := by
  have clean : allOrders.draft.firstError = none := rfl
  have compiled : allOrders.draft.compile .select = .ok ⟨"SELECT * FROM orders", []⟩ := rfl
  obtain ⟨visits, -, -⟩ := rows_visited clean compiled
  refine ⟨clean, compiled, rfl, ?_, rfl⟩
  rw [(visits twoResults).2.1]
  rfl

end QueryLoom
