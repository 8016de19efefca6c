import QueryLoom.Recorder
import QueryLoom.Session.Terminal

/-!
# Ending a builder

What each operation that ends a builder compiles first, and what becomes of the session when that
statement is refused, cannot be made, or is sent.

* `Terminal.draft`, `Terminal.kind` : the draft and the kind of the statement that is sent first;
* `Session.finish_of_firstError`, `Session.finish_of_compile_error` : the two ways to end without a
  statement;
* `Database.Queried` : a database that received some queries and nothing else;
* `Session.asked_finish`, `Session.finish_of_change`, `Session.finish_cases` : what a database
  receives from an ending.
-/

namespace QueryLoom

/-! ## The first statement -/

namespace Terminal

variable {β : Type}

/-- The kind of the statements that an operation sends. -/
def kind : Terminal β → Statement.Kind
  | .insert _ => .insert
  | .update _ => .update
  | .delete => .delete
  | _ => .select

/-- The draft of the statement that an operation sends first. -/
def draft : Terminal β → Draft → Draft
  | .firstRow, d | .first _, d => d.firstRow
  | .value field _, d => (d.only field).firstRow
  | .getPage _ size _, d => (d.paged size).aggregating .count
  | .count, d | .exists, d => d.aggregating .count
  | .sum field, d => d.aggregating (.sum field)
  | .max field _, d => d.aggregating (.max field)
  | .min field _, d => d.aggregating (.min field)
  | .insert payload, d | .update payload, d => d.carrying payload
  | .get _, d | .fetchAll _, d | .delete, d => d

/-- The builder of the statement that an operation sends first. -/
def builder (t : Terminal β) (b : Builder) : Builder := { b with draft := t.draft b.draft }

/-- No operation touches the table. -/
theorem table_draft (t : Terminal β) (d : Draft) : (t.draft d).table = d.table := by
  cases t with
  | getPage page size visit =>
    simp only [draft, Draft.aggregating, Draft.paged]
    split <;> rfl
  | _ => rfl

end Terminal

/-! ## Queries -/

/-- A database that received some queries of a target, one after the other, and nothing else. -/
inductive Database.Queried {σ : Type} [Database σ] (target : Target) :
    List Statement → σ → σ → Prop where
  | none (r : σ) : Queried target [] r r
  | one {st : Statement} {sts : List Statement} {r r' : σ}
      (rest : Queried target sts (Database.queryOne target st r).2 r') :
      Queried target (st :: sts) r r'
  | many {st : Statement} {sts : List Statement} {r r' : σ}
      (rest : Queried target sts (Database.queryMany target st r).2 r') :
      Queried target (st :: sts) r r'

theorem Database.Queried.append {σ : Type} [Database σ] {target : Target}
    {sts sts' : List Statement} {r r' r'' : σ} (h : Queried target sts r r')
    (k : Queried target sts' r' r'') : Queried target (sts ++ sts') r r'' := by
  induction h with
  | none => exact k
  | one _ ih => exact .one (ih k)
  | many _ ih => exact .many (ih k)

namespace Session

open Database (Queried)

/-! ## Preparing -/

section Preparing

variable {σ : Type} {s : Session σ} {b : Builder} {kind : Statement.Kind}

theorem prepare_of_firstError {e : BuildError} (h : b.draft.firstError = some e) :
    s.prepare b kind = (.error (.build e),
      s.log (.refused (b.draft.table.getD "") b.draft.errors.length e)) := by
  simp [prepare, check, h]

theorem prepare_of_compile_error {e : BuildError} (clean : b.draft.firstError = none)
    (h : b.draft.compile kind = .error e) : s.prepare b kind = (.error (.build e), s) := by
  simp [prepare, check, clean, h]

theorem prepare_of_compile_ok {st : Statement} (clean : b.draft.firstError = none)
    (h : b.draft.compile kind = .ok st) : s.prepare b kind = (.ok st, s) := by
  simp [prepare, check, clean, h]

/-- Preparing either fails or gives a statement and leaves the session as it was. -/
theorem prepare_cases (s : Session σ) (b : Builder) (kind : Statement.Kind) :
    (∃ e s', s.prepare b kind = (.error (.build e), s') ∧ s'.database = s.database) ∨
      ∃ st, s.prepare b kind = (.ok st, s) := by
  cases clean : b.draft.firstError with
  | some e => exact .inl ⟨e, _, prepare_of_firstError clean, rfl⟩
  | none =>
    cases h : b.draft.compile kind with
    | error e => exact .inl ⟨e, s, prepare_of_compile_error clean h, rfl⟩
    | ok st => exact .inr ⟨st, prepare_of_compile_ok clean h⟩

@[simp] theorem database_close (s : Session σ) (b : Builder) :
    (s.close b).database = s.database := database_release s b.draft

end Preparing

/-! ## Sending -/

section Sending

variable {σ α : Type} {s s' : Session σ} {b : Builder} {kind : Statement.Kind}

theorem send_of_error {e : Error} (h : s.prepare b kind = (.error e, s'))
    (refuse : Error → α) (answer : Session σ → Statement → α × Session σ) :
    s.send b kind refuse answer = (refuse e, s'.close b) := by
  rw [send, h]

theorem send_of_ok {st : Statement} (h : s.prepare b kind = (.ok st, s'))
    (refuse : Error → α) (answer : Session σ → Statement → α × Session σ) :
    s.send b kind refuse answer = ((answer s' st).1, (answer s' st).2.close b) := by
  rw [send, h]

end Sending

section

variable {σ : Type} [Database σ] {β : Type} {s s' : Session σ} {b : Builder}

/-! ## Rows -/

/-- What a visitor makes of the answer to a query for rows. -/
def visited (visit : Visitor β) (memory : β) :
    Except Error (List (Except Error Row)) → Except Error Unit × β
  | .error e => (.error e, memory)
  | .ok rows => visitAll visit rows memory

theorem sendMany_eq (s : Session σ) (b : Builder) (visit : Visitor β) (memory : β) :
    s.sendMany b visit memory = s.send b .select (fun e => (.error e, memory)) fun s st =>
      (visited visit memory (s.queryMany b.target st).1, (s.queryMany b.target st).2) := by
  refine congrArg (s.send b .select _) (funext fun s => funext fun st => ?_)
  generalize s.queryMany b.target st = x
  obtain ⟨failed | rows, s'⟩ := x <;> rfl

theorem sendAll_eq {α : Type} (s : Session σ) (b : Builder) (read : Row → Except Error α) :
    s.sendAll b read = s.send b .select .error fun s st =>
      ((s.queryMany b.target st).1.bind (readAll read), (s.queryMany b.target st).2) := by
  refine congrArg (s.send b .select _) (funext fun s => funext fun st => ?_)
  generalize s.queryMany b.target st = x
  obtain ⟨failed | rows, s'⟩ := x <;> rfl

/-! ## Endings without a statement -/

/-- An operation other than paging whose statement cannot be prepared sends nothing. -/
theorem finish_of_prepare_error {t : Terminal β} {e : Error}
    (single : ∀ page size visit, t ≠ .getPage page size visit)
    (h : s.prepare (t.builder b) t.kind = (.error e, s')) (memory : β) :
    s.finish b t memory = ((.error e, memory), s'.close b) := by
  cases t with
  | getPage page size visit => exact absurd rfl (single page size visit)
  | firstRow | first _ | value _ _ | count | sum _ | max _ _ | min _ _ | «exists» =>
    simp only [Terminal.builder, Terminal.draft, Terminal.kind] at h
    simp only [finish, aggregate, column, sendOne, send_of_error h]
    rfl
  | get _ | fetchAll _ =>
    simp only [Terminal.builder, Terminal.draft, Terminal.kind] at h
    simp only [finish, sendMany, sendAll, send_of_error h]
  | insert _ | update _ | delete =>
    simp only [Terminal.builder, Terminal.draft, Terminal.kind] at h
    simp only [finish, sendChange, send_of_error h]
    rfl

/-- A recorded error, or a page without room, ends an operation: the log hears of it, and the draft
is given back. -/
theorem finish_of_firstError {t : Terminal β} {e : BuildError}
    (h : (t.draft b.draft).firstError = some e) (memory : β) :
    s.finish b t memory = ((.error (.build e), memory),
      (s.log (.refused (b.draft.table.getD "") (t.draft b.draft).errors.length e)).close b) := by
  have prepared : s.prepare (t.builder b) t.kind = (.error (.build e),
      s.log (.refused (b.draft.table.getD "") (t.draft b.draft).errors.length e)) := by
    rw [← t.table_draft b.draft]
    exact prepare_of_firstError h
  cases t with
  | getPage page size visit =>
    have checked : ({ b with draft := b.draft.paged size } : Builder).draft.firstError = some e := h
    simp only [finish, getPage, check, checked]
    rw [← (Terminal.getPage page size visit).table_draft b.draft]
    rfl
  | _ => exact finish_of_prepare_error (by simp) prepared memory

/-- A draft that lacks something for its statement ends an operation in silence. -/
theorem finish_of_compile_error {t : Terminal β} {e : BuildError}
    (clean : (t.draft b.draft).firstError = none)
    (h : (t.draft b.draft).compile t.kind = .error e) (memory : β) :
    (s.finish b t memory).1 = (.error (.build e), memory) ∧
      (s.finish b t memory).2.database = s.database := by
  have prepared : ∀ s : Session σ, s.prepare (t.builder b) t.kind = (.error (.build e), s) :=
    fun s => prepare_of_compile_error clean h
  cases t with
  | getPage page size visit =>
    have checked : ({ b with draft := b.draft.paged size } : Builder).draft.firstError = none :=
      clean
    have counted : ∀ s : Session σ, (s.aggregate { b with draft := b.draft.paged size } .count
        .uint64) = (.error (.build e), s.close b) := by
      intro s
      have lacking := prepared s
      simp only [Terminal.builder, Terminal.draft, Terminal.kind] at lacking
      simp only [aggregate, column, sendOne, send_of_error lacking]
      rfl
    simp only [finish, getPage, check, checked, fork, counted]
    exact ⟨trivial, by simp⟩
  | _ =>
    rw [finish_of_prepare_error (by simp) (prepared s)]
    exact ⟨rfl, database_close s b⟩

/-! ## Paging -/

/-- With room for a row and no recorded error, paging counts first; it ends there, or goes on with a
window of the rows. -/
theorem getPage_session {page size : UInt64} {visit : Visitor β} {memory : β}
    (clean : (b.draft.paged size).firstError = none) :
    let counted := (s.acquire.2.sendOne ((Terminal.getPage page size visit).builder b)).2
    (s.getPage b page size visit memory).2 = counted.close b ∨
      ∃ offset, (s.getPage b page size visit memory).2 =
        (counted.sendMany { b with draft := (b.draft.paged size).window offset size }
          visit memory).2 := by
  let paged : Builder := { b with draft := b.draft.paged size }
  have checked : paged.draft.firstError = none := clean
  have same : (s.acquire.2.sendOne ((Terminal.getPage page size visit).builder b)).2 =
      ((s.fork paged).2.aggregate (s.fork paged).1 .count .uint64).2 := rfl
  rw [same]
  simp only [getPage, check]
  rw [checked]
  dsimp only
  -- From here on only the answer to the count matters.
  generalize (s.fork paged).2.aggregate (s.fork paged).1 .count .uint64 = reply
  obtain ⟨failed | total, s'⟩ := reply
  · exact .inl rfl
  · dsimp only
    generalize (if page = 0 then 1 else page) = number
    split
    · exact .inl rfl
    · exact .inr ⟨(number - 1) * size, rfl⟩

/-! ## What a query asks -/

/-- The database received some queries of the builder's target, and at least one if the builder's
query can be prepared. -/
def Asked (s : Session σ) (b : Builder) (r : σ) : Prop :=
  ∃ sts, Queried b.target sts s.database r ∧
    ((∃ st, s.prepare b .select = (.ok st, s)) → sts ≠ [])

theorem asked_of_error {e : Error} (h : s.prepare b .select = (.error e, s')) :
    s.Asked b s.database := by
  refine ⟨[], .none _, ?_⟩
  rintro ⟨st, prepared⟩
  rw [h] at prepared
  cases prepared

theorem asked_sendOne (s : Session σ) (b : Builder) : s.Asked b (s.sendOne b).2.database := by
  obtain ⟨e, s', h, same⟩ | ⟨st, h⟩ := s.prepare_cases b .select
  · rw [sendOne, send_of_error h, database_close, same]
    exact asked_of_error h
  · rw [sendOne, send_of_ok h, database_close]
    exact ⟨[st], .one (.none _), fun _ => by simp⟩

/-- A query for rows is received, whatever is done with the rows. -/
theorem asked_send_many {α : Type} (refuse : Error → α)
    (answer : Session σ → Statement → α × Session σ)
    (h : ∀ s st, (answer s st).2 = (s.queryMany b.target st).2) :
    s.Asked b (s.send b .select refuse answer).2.database := by
  obtain ⟨e, s', prepared, same⟩ | ⟨st, prepared⟩ := s.prepare_cases b .select
  · rw [send_of_error prepared, database_close, same]
    exact asked_of_error prepared
  · rw [send_of_ok prepared, database_close, h]
    exact ⟨[st], .many (.none _), fun _ => by simp⟩

theorem asked_sendMany (s : Session σ) (b : Builder) (visit : Visitor β) (memory : β) :
    s.Asked b (s.sendMany b visit memory).2.database := by
  rw [sendMany_eq]
  exact asked_send_many _ _ fun _ _ => rfl

theorem asked_sendAll {α : Type} (s : Session σ) (b : Builder) (read : Row → Except Error α) :
    s.Asked b (s.sendAll b read).2.database := by
  rw [sendAll_eq]
  exact asked_send_many _ _ fun _ _ => rfl

/-- Paging asks for the count, and then it may ask for the rows of the page. -/
theorem asked_getPage (s : Session σ) (b : Builder) (page size : UInt64) (visit : Visitor β)
    (memory : β) :
    s.Asked ((Terminal.getPage page size visit).builder b)
      (s.getPage b page size visit memory).2.database := by
  let counting := (Terminal.getPage page size visit).builder b
  cases clean : (b.draft.paged size).firstError with
  | some e =>
    have ended := finish_of_firstError (s := s) (t := .getPage page size visit) clean memory
    rw [finish] at ended
    rw [ended, database_close]
    exact asked_of_error (prepare_of_firstError (b := counting) clean)
  | none =>
    obtain ⟨sts, counted, some⟩ := asked_sendOne s.acquire.2 counting
    -- A draft is taken for the count in between, but whether it can be prepared stays the same.
    have ready : (∃ st, s.prepare counting .select = (.ok st, s)) → sts ≠ [] := by
      rintro ⟨st, prepared⟩
      refine some ⟨st, prepare_of_compile_ok clean ?_⟩
      exact ((prepare_eq_ok_iff s counting .select st).1 (by rw [prepared])).2
    rcases getPage_session (s := s) clean with ended | ⟨offset, ended⟩
    · rw [ended, database_close]
      exact ⟨sts, counted, ready⟩
    · obtain ⟨more, shown, _⟩ := asked_sendMany (s.acquire.2.sendOne counting).2
        { b with draft := (b.draft.paged size).window offset size } visit memory
      rw [ended]
      refine ⟨sts ++ more, counted.append shown, fun h => ?_⟩
      exact List.append_ne_nil_of_left_ne_nil (ready h) more

/-- What the database receives from an operation that changes nothing. -/
theorem asked_finish (s : Session σ) (b : Builder) {t : Terminal β} (h : t.kind = .select)
    (memory : β) : s.Asked (t.builder b) (s.finish b t memory).2.database := by
  cases t with
  | firstRow | first _ | value _ _ | count | sum _ | max _ _ | min _ _ | «exists» =>
    exact asked_sendOne s _
  | get visit => exact asked_sendMany s b visit memory
  | fetchAll form => exact asked_sendAll s b _
  | getPage page size visit => exact asked_getPage s b page size visit memory
  | insert _ | update _ | delete => cases h

/-! ## What a change does -/

/-- A change that can be prepared is executed once, and the operation succeeds when it does. -/
theorem finish_of_change {t : Terminal β} {st : Statement} (change : t.kind ≠ .select)
    (h : s.prepare (t.builder b) t.kind = (.ok st, s)) (memory : β) :
    (s.finish b t memory).2.database = (Database.execute b.target st s.database).2 ∧
      (s.finish b t memory).1.1.isOk = (Database.execute b.target st s.database).1.isOk := by
  cases t with
  | insert _ | update _ | delete =>
    simp only [Terminal.builder, Terminal.draft, Terminal.kind] at h
    simp only [finish, sendChange, send_of_ok h, database_close]
    refine ⟨rfl, ?_⟩
    have answered : (s.execute b.target st).1 = (Database.execute b.target st s.database).1 := rfl
    rw [answered]
    cases (Database.execute b.target st s.database).1 <;> rfl
  | _ => exact absurd rfl change

/-- The database receives some queries from an operation, or nothing when it is refused, or the one
change that its draft compiles into. -/
theorem finish_cases (s : Session σ) (b : Builder) (t : Terminal β) (memory : β) :
    (t.kind = .select ∧
        ∃ sts, Queried b.target sts s.database (s.finish b t memory).2.database) ∨
      ((s.finish b t memory).1.1.isOk = false ∧
        (s.finish b t memory).2.database = s.database) ∨
      t.kind ≠ .select ∧ ∃ st, (t.draft b.draft).compile t.kind = .ok st ∧
        (s.finish b t memory).2.database = (Database.execute b.target st s.database).2 ∧
        (s.finish b t memory).1.1.isOk = (Database.execute b.target st s.database).1.isOk := by
  by_cases select : t.kind = .select
  · obtain ⟨sts, queried, -⟩ := s.asked_finish b select memory
    exact .inl ⟨select, sts, queried⟩
  · right
    obtain ⟨e, s', refused, same⟩ | ⟨st, ready⟩ := s.prepare_cases (t.builder b) t.kind
    · have single : ∀ page size visit, t ≠ .getPage page size visit := by
        rintro page size visit rfl
        exact select rfl
      rw [finish_of_prepare_error single refused, database_close, same]
      exact .inl ⟨rfl, rfl⟩
    · have compiled := ((s.prepare_eq_ok_iff _ _ _).1 (congrArg Prod.fst ready)).2
      exact .inr ⟨select, st, compiled, finish_of_change select ready memory⟩

end

end Session

/-! ## Recorders -/

namespace Recorder

open Database (Queried)

/-- A query leaves its trace in what was received, and otherwise at most uses up a reply or the
failure. -/
theorem query_frame (target : Target) (st : Statement) (r : Recorder) :
    ∃ replies failure, (query target st r).2 =
      { r with sent := r.sent ++ [sentOn target st], replies := replies, failure := failure } := by
  unfold query
  cases failing : r.failure with
  | some reason =>
    rw [receive_of_some failing]
    exact ⟨r.replies, none, rfl⟩
  | none =>
    rw [receive_of_none failing]
    simp only [answerRows]
    split
    · rename_i columns rows rest _
      exact ⟨rest, r.failure, rfl⟩
    · exact ⟨r.replies, r.failure, rfl⟩

/-- A query is received once, whether it fails or not. -/
theorem sent_query (target : Target) (st : Statement) (r : Recorder) :
    (query target st r).2.sent = r.sent ++ [sentOn target st] := by
  obtain ⟨replies, failure, frame⟩ := query_frame target st r
  rw [frame]

/-- Some queries leave their traces in the order in which they were sent. -/
theorem Queried.frame {target : Target} {sts : List Statement} {r r' : Recorder}
    (h : Queried target sts r r') :
    ∃ replies failure, r' =
      { r with
        sent := r.sent ++ sts.map (sentOn target), replies := replies, failure := failure } := by
  induction h with
  | none r => exact ⟨r.replies, r.failure, by simp⟩
  | one _ ih | many _ ih =>
    rename_i st sts r r' _
    obtain ⟨replies, failure, step⟩ := query_frame target st r
    obtain ⟨replies', failure', rest⟩ := ih
    refine ⟨replies', failure', rest.trans ?_⟩
    simp only [Database.queryOne, Database.queryMany, step]
    simp

/-- A change fails with the prepared failure, and is not kept then. -/
theorem change_of_some {r : Recorder} {reason : String} (h : r.failure = some reason)
    (target : Target) (st : Statement) :
    change target st r = (.error (.driver reason),
      { r with sent := r.sent ++ [sentOn target st], failure := none }) := by
  rw [change, receive_of_some h]

/-- Without a prepared failure a change is kept, and otherwise at most uses up a reply or gives a
number to a row. -/
theorem change_of_none {r : Recorder} (h : r.failure = none) (target : Target) (st : Statement) :
    ∃ o replies lastInsertId, change target st r = (.ok o,
      { keep target (sentOn target st) r with
        sent := r.sent ++ [sentOn target st], replies := replies,
        lastInsertId := lastInsertId }) := by
  rw [change, receive_of_none h]
  cases target <;> (simp only [keep, answerOutcome]; split) <;> exact ⟨_, _, _, rfl⟩

/-- A change is received once, whether it fails or not. -/
theorem sent_change (target : Target) (st : Statement) (r : Recorder) :
    (change target st r).2.sent = r.sent ++ [sentOn target st] := by
  cases h : r.failure with
  | some reason => rw [change_of_some h]
  | none =>
    obtain ⟨o, replies, lastInsertId, changed⟩ := change_of_none h target st
    rw [changed]

end Recorder

end QueryLoom
