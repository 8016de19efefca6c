import Mathlib.Data.List.Forall2
import Mathlib.Logic.Relation
import QueryLoom.Proofs.Bracketing

/-!
# The log as an audit trail

What a log says about statements and transactions, told from what the recorder received.

* `Session.Step` : the least that can happen to a session; every operation is some of these steps,
  one after the other;
* `Session.steps_finish`, `Work.steps_moments` : so is the end of a builder, and a callback up to
  any of its moments;
* `Event.Tells` : an event that says which statement is sent, and how;
* `Audited` : statement for statement and transaction for transaction the log says what was
  received, which every step keeps;
* `audit_trail` : so it is after every run.
-/

namespace QueryLoom

open Relation (ReflTransGen)

variable {β : Type}

/-! ## Steps of a session -/

/-- The least that can happen to a session. -/
inductive Session.Step : Session Watched → Session Watched → Prop where
  | push (s : Session Watched) (reply : Reply) : Step s (Work.onRecorder s fun r => r.push reply)
  | failNext (s : Session Watched) (reason : String) :
      Step s (Work.onRecorder s fun r => r.failNext reason)
  | acquire (s : Session Watched) : Step s s.acquire.2
  | release (s : Session Watched) (d : Draft) : Step s (s.release d)
  | refuse (s : Session Watched) (table : String) (recorded : Nat) (e : BuildError) :
      Step s (s.log (.refused table recorded e))
  | queryOne (s : Session Watched) (target : Target) (st : Statement) :
      Step s (s.queryOne target st).2
  | queryMany (s : Session Watched) (target : Target) (st : Statement) :
      Step s (s.queryMany target st).2
  | execute (s : Session Watched) (target : Target) (st : Statement) :
      Step s (s.execute target st).2
  | start (s : Session Watched) : Step s s.openScope.2
  | commit {ε α : Type} [FromError ε] (s : Session Watched) (id : Nat) (x : α) :
      Step s (s.commitScope (ε := ε) id x).2
  | rollback (s : Session Watched) (id : Nat) : Step s (s.rollbackScope id)

namespace Session

/-- So many steps, one after the other. -/
abbrev Steps : Session Watched → Session Watched → Prop := ReflTransGen Step

variable {s s' : Session Watched} {b : Builder}

/-! ### Ending a builder -/

theorem steps_close (h : Steps s s') (b : Builder) : Steps s (s'.close b) :=
  h.tail (.release s' b.draft)

theorem steps_prepare (s : Session Watched) (b : Builder) (kind : Statement.Kind) :
    Steps s (s.prepare b kind).2 := by
  cases first : b.draft.firstError with
  | some e =>
    rw [prepare_of_firstError first]
    exact .single (.refuse s _ _ e)
  | none =>
    cases made : b.draft.compile kind with
    | error e => rw [prepare_of_compile_error first made]
    | ok st => rw [prepare_of_compile_ok first made]

/-- A builder's statement is sent in steps if its answer takes one. -/
theorem steps_send {α : Type} (s : Session Watched) (b : Builder) (kind : Statement.Kind)
    (refuse : Error → α) {answer : Session Watched → Statement → α × Session Watched}
    (h : ∀ s st, Step s (answer s st).2) : Steps s (s.send b kind refuse answer).2 := by
  have prepared := s.steps_prepare b kind
  unfold send
  generalize s.prepare b kind = x at prepared
  obtain ⟨e | st, s'⟩ := x
  · exact steps_close prepared b
  · exact steps_close (prepared.tail (h s' st)) b

theorem steps_sendOne (s : Session Watched) (b : Builder) : Steps s (s.sendOne b).2 :=
  steps_send _ _ _ _ fun s st => .queryOne s b.target st

theorem steps_sendMany (s : Session Watched) (b : Builder) (visit : Visitor β) (memory : β) :
    Steps s (s.sendMany b visit memory).2 := by
  rw [sendMany_eq]
  exact steps_send _ _ _ _ fun s st => .queryMany s b.target st

theorem steps_sendAll {α : Type} (s : Session Watched) (b : Builder) (read : Row → Except Error α) :
    Steps s (s.sendAll b read).2 := by
  rw [sendAll_eq]
  exact steps_send _ _ _ _ fun s st => .queryMany s b.target st

theorem steps_sendChange (s : Session Watched) (b : Builder) (kind : Statement.Kind) :
    Steps s (s.sendChange b kind).2 :=
  steps_send _ _ _ _ fun s st => .execute s b.target st

/-- Paging takes a draft for the count, and asks for the rows of the page if there is one. -/
theorem steps_getPage (s : Session Watched) (b : Builder) (page size : UInt64) (visit : Visitor β)
    (memory : β) : Steps s (s.getPage b page size visit memory).2 := by
  cases clean : (b.draft.paged size).firstError with
  | some e =>
    have ended := finish_of_firstError (s := s) (t := .getPage page size visit) clean memory
    rw [finish] at ended
    rw [ended]
    exact steps_close (.single (.refuse s _ _ e)) b
  | none =>
    have counted := (ReflTransGen.single (Step.acquire s)).trans
      (s.acquire.2.steps_sendOne ((Terminal.getPage page size visit).builder b))
    rcases getPage_session (s := s) clean with ended | ⟨offset, ended⟩
    · rw [ended]
      exact steps_close counted b
    · rw [ended]
      exact counted.trans (steps_sendMany _ _ visit memory)

/-- Whatever ends a builder, it does so in steps. -/
theorem steps_finish (s : Session Watched) (b : Builder) (t : Terminal β) (memory : β) :
    Steps s (s.finish b t memory).2 := by
  cases t with
  | firstRow | first _ | value _ _ | count | sum _ | max _ _ | min _ _ | «exists» =>
    exact s.steps_sendOne _
  | get visit => exact s.steps_sendMany b visit memory
  | fetchAll form => exact s.steps_sendAll b _
  | getPage page size visit => exact s.steps_getPage b page size visit memory
  | insert _ | update _ | delete => exact s.steps_sendChange _ _

/-! ### Transactions -/

theorem steps_closeScope {ε α : Type} [FromError ε] (s : Session Watched) (id : Nat)
    (scope : Builder) (worked : Except ε α) : Steps s (s.closeScope id scope worked).2 := by
  have closed := steps_close (.refl (a := s)) scope
  cases worked with
  | ok x => exact closed.tail (.commit _ id x)
  | error e => exact closed.tail (.rollback _ id)

/-- A transaction takes steps if its work does. -/
theorem steps_transaction {ε α : Type} [FromError ε] (s : Session Watched)
    {work : Builder → Session Watched → Except ε α × Session Watched}
    (h : ∀ scope s, Steps s (work scope s).2) : Steps s (s.transaction work).2 := by
  have opened : Steps s s.openScope.2 := .single (.start s)
  unfold transaction
  generalize s.openScope = x at opened
  obtain ⟨e | ⟨id, scope⟩, s'⟩ := x
  · exact opened
  · exact (opened.trans (h scope s')).trans (steps_closeScope _ id scope _)

end Session

/-! ### Callbacks -/

namespace Work

open Session (Steps)

/-- A callback goes on in steps: by induction on the callback, those inside included. -/
theorem steps_run {ε α : Type} (work : Work β ε α) (s : Session Watched) :
    Steps s (work.run s).2 := by
  induction work generalizing s with
  | done r => exact .refl
  | push reply next ih => exact .head (.push s reply) (ih _)
  | failNext reason next ih => exact .head (.failNext s reason) (ih _)
  | query next ih | table name next ih | beside parent name next ih =>
    exact .head (.acquire s) (ih _ _)
  | preview b kind next ih => exact (s.steps_prepare b kind).trans (ih _ _)
  | finish b t memory next ih => exact (s.steps_finish b t memory).trans (ih _ _)
  | drop b next ih => exact .head (.release s b.draft) (ih _)
  | transaction work next inside ih => exact (s.steps_transaction inside).trans (ih _ _)

/-- Every moment of a callback is reached in steps. -/
theorem steps_moments {ε α : Type} (work : Work β ε α) {depth : Nat} {s₀ s : Session Watched}
    (h : Steps s₀ s) : ∀ m ∈ work.moments depth s, Steps s₀ m.2 := by
  induction work generalizing s depth with
  | done r => simpa [moments] using h
  | push reply next ih =>
    simp only [moments, List.forall_mem_cons]
    exact ⟨h, ih (h.tail (.push s reply))⟩
  | failNext reason next ih =>
    simp only [moments, List.forall_mem_cons]
    exact ⟨h, ih (h.tail (.failNext s reason))⟩
  | query next ih | table name next ih | beside parent name next ih =>
    simp only [moments, List.forall_mem_cons]
    exact ⟨h, ih _ (h.tail (.acquire s))⟩
  | preview b kind next ih =>
    simp only [moments, List.forall_mem_cons]
    exact ⟨h, ih _ (h.trans (s.steps_prepare b kind))⟩
  | finish b t memory next ih =>
    simp only [moments, List.forall_mem_cons]
    exact ⟨h, ih _ (h.trans (s.steps_finish b t memory))⟩
  | drop b next ih =>
    simp only [moments, List.forall_mem_cons]
    exact ⟨h, ih (h.tail (.release s b.draft))⟩
  | transaction work next inside ih =>
    simp only [moments, List.cons_append, List.forall_mem_cons, List.forall_mem_append]
    refine ⟨h, ?_, ih _ (h.trans (s.steps_transaction fun scope s => (work scope).steps_run s))⟩
    have opened : Steps s₀ s.openScope.2 := h.tail (.start s)
    generalize s.openScope = x at opened
    obtain ⟨e | ⟨id, scope⟩, s'⟩ := x
    · simp
    · exact inside scope opened

end Work

/-! ## What a log says -/

namespace Event

/-- The events of a log with a message. -/
def saying (message : String) (events : List Event) : List Event :=
  events.filter fun e => e.message == message

theorem saying_append (message : String) (events more : List Event) :
    saying message (events ++ more) = saying message events ++ saying message more :=
  List.filter_append events more

/-- An event that says how a statement was sent: to which kind of target, with which text, and with
which arguments, or with how many if a log may not show them. -/
def Tells (mayShow : Bool) (e : Event) (x : Sent) : Prop :=
  ∃ shape : Shape, e.fields =
    [("target_kind", .text (if x.inTransaction then "transaction" else "connection")),
      ("shape", .text shape.name), ("sql", .text x.sql),
      ("args", if mayShow then .text (String.ofList (Value.inspectAll x.params))
        else .number (.int x.params.length))]

theorem tells_dispatching (mayShow : Bool) (target : Target) (shape : Shape) (st : Statement) :
    Tells mayShow (.dispatching target shape st.sql (.of mayShow st.params))
      (Recorder.sentOn target st) := by
  refine ⟨shape, ?_⟩
  cases target <;> cases mayShow <;> rfl

end Event

/-- A change has nothing to do with the number of transactions, even one of a transaction. -/
theorem Recorder.change_counts_nothing (target : Target) (st : Statement) (r : Recorder) :
    (change target st r).2.starts = r.starts ∧ (change target st r).2.commits = r.commits ∧
      (change target st r).2.rollbacks = r.rollbacks := by
  cases failing : r.failure with
  | some reason =>
    rw [change_of_some failing]
    exact ⟨rfl, rfl, rfl⟩
  | none =>
    obtain ⟨o, replies, lastInsertId, changed⟩ := change_of_none failing target st
    rw [changed]
    cases target <;> exact ⟨rfl, rfl, rfl⟩

/-- The log of a session says which statements were received, one event for one statement and in the
same order, and how often a transaction was started, committed and rolled back, and how often that
last failed. -/
structure Audited (mayShow : Bool) (s : Session Watched) : Prop where
  shows : s.logArguments = mayShow
  dispatched : List.Forall₂ (Event.Tells mayShow)
    (Event.saying "dispatching statement" s.events) s.database.recorder.sent
  started : (Event.saying "transaction started" s.events).length = s.database.recorder.starts
  committed : (Event.saying "transaction committed" s.events).length = s.database.recorder.commits
  rolledBack :
    (Event.saying "transaction rolled back" s.events).length = s.database.recorder.rollbacks
  failed : (Event.saying "transaction rollback failed" s.events).length =
    s.database.attempts.countP Attempt.isFailedRollback

namespace Audited

variable {mayShow : Bool} {s s' : Session Watched}

/-- What is said, what is received and what is asked may grow together. -/
theorem grow (h : Audited mayShow s) (said : List Event) (received : List Sent)
    (asked : List Attempt) (shows : s'.logArguments = s.logArguments)
    (events : s'.events = s.events ++ said)
    (sent : s'.database.recorder.sent = s.database.recorder.sent ++ received)
    (attempts : s'.database.attempts = s.database.attempts ++ asked)
    (tells : List.Forall₂ (Event.Tells mayShow) (Event.saying "dispatching statement" said)
      received)
    (starts : s'.database.recorder.starts =
      s.database.recorder.starts + (Event.saying "transaction started" said).length)
    (commits : s'.database.recorder.commits =
      s.database.recorder.commits + (Event.saying "transaction committed" said).length)
    (rollbacks : s'.database.recorder.rollbacks =
      s.database.recorder.rollbacks + (Event.saying "transaction rolled back" said).length)
    (failures : asked.countP Attempt.isFailedRollback =
      (Event.saying "transaction rollback failed" said).length) : Audited mayShow s' where
  shows := shows.trans h.shows
  dispatched := by
    rw [events, Event.saying_append, sent]
    exact List.rel_append h.dispatched tells
  started := by rw [events, Event.saying_append, List.length_append, h.started, starts]
  committed := by rw [events, Event.saying_append, List.length_append, h.committed, commits]
  rolledBack := by rw [events, Event.saying_append, List.length_append, h.rolledBack, rollbacks]
  failed := by
    rw [events, Event.saying_append, List.length_append, h.failed, attempts, List.countP_append,
      failures]

/-- A statement is announced and received. -/
theorem send (h : Audited mayShow s) (target : Target) (shape : Shape) (st : Statement)
    (shows : s'.logArguments = s.logArguments)
    (events : s'.events =
      s.events ++ [.dispatching target shape st.sql (.of s.logArguments st.params)])
    (sent : s'.database.recorder.sent = s.database.recorder.sent ++ [Recorder.sentOn target st])
    (attempts : s'.database.attempts = s.database.attempts)
    (starts : s'.database.recorder.starts = s.database.recorder.starts)
    (commits : s'.database.recorder.commits = s.database.recorder.commits)
    (rollbacks : s'.database.recorder.rollbacks = s.database.recorder.rollbacks) :
    Audited mayShow s' := by
  rw [h.shows] at events
  exact h.grow _ _ [] shows events sent (attempts.trans (List.append_nil _).symm)
    (.cons (Event.tells_dispatching mayShow target shape st) .nil) starts commits rollbacks rfl

theorem query (h : Audited mayShow s) (target : Target) (shape : Shape) (st : Statement)
    (shows : s'.logArguments = s.logArguments)
    (events : s'.events =
      s.events ++ [.dispatching target shape st.sql (.of s.logArguments st.params)])
    (database : s'.database = s.database.become (Recorder.query target st s.database.recorder).2) :
    Audited mayShow s' := by
  obtain ⟨replies, failure, frame⟩ := Recorder.query_frame target st s.database.recorder
  rw [frame] at database
  refine h.send target shape st shows events ?_ ?_ ?_ ?_ ?_
  all_goals rw [database]; rfl

theorem execute (h : Audited mayShow s) (target : Target) (st : Statement) :
    Audited mayShow (s.execute target st).2 := by
  obtain ⟨starts, commits, rollbacks⟩ :=
    Recorder.change_counts_nothing target st s.database.recorder
  exact h.send target .execute st rfl rfl (Recorder.sent_change target st _) rfl starts commits
    rollbacks

theorem openScope (h : Audited mayShow s) : Audited mayShow s.openScope.2 := by
  obtain ⟨e, started⟩ | ⟨pending, started⟩ := s.database.recorder.start_cases
  · simp only [Session.openScope, Database.start, started]
    exact h.grow [] [] [_] rfl (List.append_nil _).symm (List.append_nil _).symm rfl .nil rfl rfl
      rfl rfl
  · simp only [Session.openScope, Database.start, started]
    exact h.grow [.transactionStarted, .acquired _] [] [_] rfl (List.append_assoc _ _ _)
      (List.append_nil _).symm rfl .nil rfl rfl rfl rfl

/-- Only a commit that succeeds is reported. -/
theorem commitScope {ε α : Type} [FromError ε] (h : Audited mayShow s) (id : Nat) (x : α) :
    Audited mayShow (s.commitScope (ε := ε) id x).2 := by
  obtain ⟨e, ended⟩ | ⟨durable, ended⟩ := s.database.recorder.commit_cases id
  · simp only [Session.commitScope, Database.commit, ended]
    exact h.grow [] [] [_] rfl (List.append_nil _).symm (List.append_nil _).symm rfl .nil rfl rfl
      rfl rfl
  · simp only [Session.commitScope, Database.commit, ended]
    exact h.grow [.transactionCommitted] [] [_] rfl rfl (List.append_nil _).symm rfl .nil rfl rfl
      rfl rfl

/-- A rollback is reported in any case. -/
theorem rollbackScope (h : Audited mayShow s) (id : Nat) :
    Audited mayShow (s.rollbackScope id) := by
  obtain ⟨e, ended⟩ | ended := s.database.recorder.rollback_cases id
  · simp only [Session.rollbackScope, Database.rollback, ended]
    exact h.grow [.rollbackFailed e] [] [_] rfl rfl (List.append_nil _).symm rfl .nil rfl rfl rfl
      rfl
  · simp only [Session.rollbackScope, Database.rollback, ended]
    exact h.grow [.transactionRolledBack] [] [_] rfl rfl (List.append_nil _).symm rfl .nil rfl rfl
      rfl rfl

/-- Every step keeps the log and the recorder together. -/
theorem step (h : Audited mayShow s) (k : Session.Step s s') : Audited mayShow s' := by
  cases k with
  | push reply | failNext reason =>
    exact ⟨h.shows, h.dispatched, h.started, h.committed, h.rolledBack, h.failed⟩
  | acquire =>
    exact h.grow [.acquired s.pool.reuses] [] [] rfl rfl (List.append_nil _).symm
      (List.append_nil _).symm .nil rfl rfl rfl rfl
  | release d =>
    unfold Session.release
    split
    · exact h.grow [.released _] [] [] rfl rfl (List.append_nil _).symm
        (List.append_nil _).symm .nil rfl rfl rfl rfl
    · exact ⟨h.shows, h.dispatched, h.started, h.committed, h.rolledBack, h.failed⟩
  | refuse _ table recorded e =>
    exact h.grow [.refused table recorded e] [] [] rfl rfl (List.append_nil _).symm
      (List.append_nil _).symm .nil rfl rfl rfl rfl
  | queryOne _ target st => exact h.query target .one st rfl rfl rfl
  | queryMany _ target st => exact h.query target .many st rfl rfl rfl
  | execute _ target st => exact h.execute target st
  | start => exact h.openScope
  | commit _ id x => exact h.commitScope id x
  | rollback _ id => exact h.rollbackScope id

/-- Steps keep the log and the recorder together. -/
theorem steps (h : Audited mayShow s) (k : Session.Steps s s') : Audited mayShow s' := by
  induction k with
  | refl => exact h
  | tail _ last ih => exact ih.step last

/-- Nothing was said and nothing was received. -/
theorem fresh (maxIdle : Nat) (mayShow : Bool) : Audited mayShow (.fresh maxIdle mayShow) where
  shows := rfl
  dispatched := .nil
  started := rfl
  committed := rfl
  rolledBack := rfl
  failed := rfl

end Audited

/-! ## Main statement -/

/-- At every moment of a program, and at its end, the log is a faithful account of what the recorder
received: one event for each statement, in the same order, with its text, its kind of target and its
arguments or their number; and one event for each transaction that was started, committed or rolled
back, and for each that could not be rolled back. The steps of operations may even be mixed, as they
are when a visitor of rows uses the session itself. -/
theorem audit_trail (maxIdle : Nat) (logArguments : Bool) :
    (∀ {ε α : Type} (work : Work β ε α),
      (∀ m ∈ work.moments 0 (.fresh maxIdle logArguments), Audited logArguments m.2) ∧
        Audited logArguments (work.run (.fresh maxIdle logArguments)).2) ∧
    ∀ s, Session.Steps (.fresh maxIdle logArguments) s → Audited logArguments s := by
  have start : Audited logArguments (.fresh maxIdle logArguments) := .fresh maxIdle logArguments
  exact ⟨fun work => ⟨fun m member => start.steps (work.steps_moments .refl m member),
    start.steps (work.steps_run _)⟩, fun s reached => start.steps reached⟩

end QueryLoom
