import QueryLoom.Proofs.Ending
import QueryLoom.Proofs.Program

/-!
# Previews

Asking a builder for a statement, and ending the builder, agree: every operation edits the draft in
its own way before it compiles it, and a preview of the draft edited by hand is what is sent.

* `Database.after` : a database that received a single statement;
* `Foretold` : what an operation sends, or fails with, is what a preview has said;
* `Session.foretold_finish` : so it is for every operation but paging, with its own edit;
* `preview_foretells` : the edits of all of them, and that previews change nothing.
-/

namespace QueryLoom

variable {β : Type}

/-! ## One statement -/

/-- A database that received a statement, and nothing else, whatever it answered. -/
def Database.after {σ : Type} [Database σ] (shape : Shape) (target : Target) (st : Statement)
    (r : σ) : σ :=
  match shape with
  | .one => (Database.queryOne target st r).2
  | .many => (Database.queryMany target st r).2
  | .execute => (Database.execute target st r).2

/-- A recorder that received a statement has one more than before, even if it had to fail. -/
theorem Recorder.sent_after (shape : Shape) (target : Target) (st : Statement) (r : Recorder) :
    (Database.after shape target st r).sent = r.sent ++ [sentOn target st] := by
  cases shape with
  | one | many => exact sent_query target st r
  | execute => exact sent_change target st r

/-- What an operation expects of the statement that it sends first. -/
def Terminal.shape : Terminal β → Shape
  | .get _ | .fetchAll _ => .many
  | .insert _ | .update _ | .delete => .execute
  | _ => .one

/-! ## What was previewed -/

/-- A preview of the builder `shown` tells what an operation does to the builder `b`. If it gives a
statement, the database receives that one from the operation, on the target of `b`, and no other,
whether it answers or fails. If it fails, the operation fails with the same error and the database
receives nothing. It does not matter in which session the preview was asked for. -/
def Foretold (σ : Type) [Database σ] (shown : Builder) (kind : Statement.Kind) (b : Builder)
    (t : Terminal β) : Prop :=
  ∀ (asked s : Session σ) (memory : β),
    match (asked.prepare shown kind).1 with
    | .ok st => (s.finish b t memory).2.database = Database.after t.shape b.target st s.database
    | .error e =>
      (s.finish b t memory).1 = (.error e, memory) ∧
        (s.finish b t memory).2.database = s.database

namespace Session

variable {σ : Type}

/-- What a preview gives depends on the builder alone. -/
theorem prepare_congr (asked s : Session σ) (b : Builder) (kind : Statement.Kind) :
    (asked.prepare b kind).1 = (s.prepare b kind).1 := by
  unfold prepare check
  cases b.draft.firstError with
  | some e => rfl
  | none => cases b.draft.compile kind <;> rfl

variable [Database σ] {s : Session σ} {b : Builder} {t : Terminal β}

/-- An operation other than paging sends the statement that it could prepare, and no other. -/
theorem finish_of_prepare_ok {st : Statement}
    (single : ∀ page size visit, t ≠ .getPage page size visit)
    (h : s.prepare (t.builder b) t.kind = (.ok st, s)) (memory : β) :
    (s.finish b t memory).2.database = Database.after t.shape b.target st s.database := by
  cases t with
  | getPage page size visit => exact absurd rfl (single page size visit)
  | firstRow | first _ | value _ _ | count | sum _ | max _ _ | min _ _ | «exists» =>
    simp only [Terminal.builder, Terminal.draft, Terminal.kind] at h
    simp only [finish, aggregate, column, sendOne, send_of_ok h, database_close]
    rfl
  | get _ | fetchAll _ =>
    simp only [Terminal.builder, Terminal.draft, Terminal.kind] at h
    simp only [finish, sendMany_eq, sendAll_eq, send_of_ok h, database_close]
    rfl
  | insert _ | update _ | delete => exact (finish_of_change (by simp [Terminal.kind]) h memory).1

/-- An operation other than paging does what a preview of the draft with its edit has said. -/
theorem foretold_finish (b : Builder) {t : Terminal β}
    (single : ∀ page size visit, t ≠ .getPage page size visit) :
    Foretold σ (t.builder b) t.kind b t := by
  intro asked s memory
  rw [prepare_congr asked s]
  obtain ⟨e, s', refused, same⟩ | ⟨st, ready⟩ := s.prepare_cases (t.builder b) t.kind
  · rw [refused, finish_of_prepare_error single refused]
    exact ⟨rfl, by rw [database_close, same]⟩
  · rw [ready]
    exact finish_of_prepare_ok single ready memory

end Session

/-- A preview is seen, and everything else stays: the builders and the transactions that are open,
the database, and the pool. -/
theorem State.preview_frame (s : State β) (place : Place) (kind : Statement.Kind) :
    let previewed := s.step (.preview place kind)
    previewed.live = s.live ∧ previewed.scopes = s.scopes ∧
      previewed.session.database = s.session.database ∧
      previewed.session.pool = s.session.pool := by
  simp only [step]
  cases s.at? place with
  | none => exact ⟨rfl, rfl, rfl, rfl⟩
  | some h => exact ⟨rfl, rfl, s.session.database_prepare h.builder kind⟩

/-! ## Main statement -/

/-- Whatever was gathered in a builder, each operation but paging sends the one statement that a
preview shows, or fails as that preview does and sends nothing: rows are asked for as previewed; the
first row is previewed with a limit of 1, and a single value with its field alone besides; a change
is previewed with its columns, and an aggregate with nothing but itself added. One statement is one
entry of a recorder. No preview changes anything. -/
theorem preview_foretells (q : Builder) :
    (∀ (σ : Type) [Database σ],
      (∀ visit : Visitor β, Foretold σ q .select q (.get visit)) ∧
      (∀ form, Foretold σ q .select q (.fetchAll form : Terminal β)) ∧
      Foretold σ (q.applyAll [.limit 1]) .select q (.firstRow : Terminal β) ∧
      (∀ ts, Foretold σ (q.applyAll [.limit 1]) .select q (.first ts : Terminal β)) ∧
      (∀ f t, Foretold σ
        (Builder.applyAll { q with draft := { q.draft with fields := [f] } } [.limit 1]) .select
        q (.value f t : Terminal β)) ∧
      Foretold σ { q with draft := { q.draft with aggregate := some .count } } .select
        q (.count : Terminal β) ∧
      Foretold σ { q with draft := { q.draft with aggregate := some .count } } .select
        q (.exists : Terminal β) ∧
      (∀ f, Foretold σ { q with draft := { q.draft with aggregate := some (.sum f) } } .select
        q (.sum f : Terminal β)) ∧
      (∀ f t, Foretold σ { q with draft := { q.draft with aggregate := some (.max f) } } .select
        q (.max f t : Terminal β)) ∧
      (∀ f t, Foretold σ { q with draft := { q.draft with aggregate := some (.min f) } } .select
        q (.min f t : Terminal β)) ∧
      (∀ p, Foretold σ { q with draft := { q.draft with payload := p.columns } } .insert
        q (.insert p : Terminal β)) ∧
      (∀ p, Foretold σ { q with draft := { q.draft with payload := p.columns } } .update
        q (.update p : Terminal β)) ∧
      Foretold σ q .delete q (.delete : Terminal β)) ∧
    (∀ shape target st (r : Recorder),
      (Database.after shape target st r).sent = r.sent ++ [Recorder.sentOn target st]) ∧
    ∀ (s : State β) place kind,
      let previewed := s.step (.preview place kind)
      previewed.live = s.live ∧ previewed.scopes = s.scopes ∧
        previewed.session.database = s.session.database ∧
        previewed.session.pool = s.session.pool := by
  refine ⟨fun σ _ => ?_, Recorder.sent_after, State.preview_frame⟩
  have agrees (t : Terminal β) (single : ∀ page size visit, t ≠ .getPage page size visit) :
      Foretold σ (t.builder q) t.kind q t := Session.foretold_finish q single
  exact ⟨fun visit => agrees (.get visit) (by simp), fun form => agrees (.fetchAll form) (by simp),
    agrees .firstRow (by simp), fun ts => agrees (.first ts) (by simp),
    fun f t => agrees (.value f t) (by simp), agrees .count (by simp), agrees .exists (by simp),
    fun f => agrees (.sum f) (by simp), fun f t => agrees (.max f t) (by simp),
    fun f t => agrees (.min f t) (by simp), fun p => agrees (.insert p) (by simp),
    fun p => agrees (.update p) (by simp), agrees .delete (by simp)⟩

end QueryLoom
