import QueryLoom.Proofs.Ending
import QueryLoom.Session.Transaction

/-!
# Transactions are ended once

What is asked of a database about transactions while a callback works in one of them: callbacks may
open others inside, go on after errors, and meet a failure of the database at any point.

* `Attempt`, `Watched` : a recorder that also notes every attempt to open or end a transaction;
* `Work` : what a callback does; each of its operations may depend on what the earlier ones gave;
* `Settles` : whatever was opened in between was ended;
* `transaction_protocol` : how a transaction ends, and how many are open at every moment.
-/

namespace QueryLoom

variable {β : Type}

/-! ## Attempts -/

/-- What is asked of a database about transactions, with its answer. -/
inductive Attempt where
  | start (answer : Except Error Nat)
  | commit (id : Nat) (answer : Except Error Unit)
  | rollback (id : Nat) (answer : Except Error Unit)

namespace Attempt

/-- The transaction that an attempt is about; one that could not be opened has no number. -/
def id? : Attempt → Option Nat
  | .start (.ok id) => some id
  | .start (.error _) => none
  | .commit id _ | .rollback id _ => some id

/-- The transaction that an attempt is to end. -/
def ended? : Attempt → Option Nat
  | .start _ => none
  | .commit id _ | .rollback id _ => some id

def isFailedCommit : Attempt → Bool
  | .commit _ (.error _) => true
  | _ => false

def isFailedRollback : Attempt → Bool
  | .rollback _ (.error _) => true
  | _ => false

end Attempt

structure Watched where
  recorder : Recorder := {}
  /-- What it was asked about transactions, the oldest first. -/
  attempts : List Attempt := []

namespace Watched

/-- The recorder changes and is asked nothing. -/
def become (w : Watched) (r : Recorder) : Watched := { w with recorder := r }

/-- The recorder was asked something. -/
def asked (w : Watched) (r : Recorder) (a : Attempt) : Watched := ⟨r, w.attempts ++ [a]⟩

instance : Database Watched where
  queryOne target st w :=
    let answered := Database.queryOne target st w.recorder
    (answered.1, w.become answered.2)
  queryMany target st w :=
    let answered := Database.queryMany target st w.recorder
    (answered.1, w.become answered.2)
  execute target st w :=
    let answered := Database.execute target st w.recorder
    (answered.1, w.become answered.2)
  start w :=
    let answered := Database.start w.recorder
    (answered.1, w.asked answered.2 (.start answered.1))
  commit id w :=
    let answered := Database.commit id w.recorder
    (answered.1, w.asked answered.2 (.commit id answered.1))
  rollback id w :=
    let answered := Database.rollback id w.recorder
    (answered.1, w.asked answered.2 (.rollback id answered.1))

end Watched

/-! ## Callbacks -/

/-- What a callback does until it returns. The operation that comes next may depend on what the
operations before it gave, so a callback may go on after an error or give up. -/
inductive Work (β : Type) : Type → Type → Type 1 where
  | done {ε α : Type} (r : Except ε α) : Work β ε α
  | push {ε α : Type} (reply : Reply) (next : Work β ε α) : Work β ε α
  | failNext {ε α : Type} (reason : String) (next : Work β ε α) : Work β ε α
  /-- Makes a builder on the base connection, without a table. -/
  | query {ε α : Type} (next : Builder → Work β ε α) : Work β ε α
  /-- Makes a builder for a table on the base connection. -/
  | table {ε α : Type} (name : String) (next : Builder → Work β ε α) : Work β ε α
  /-- Makes a builder for a table with the target of another one. -/
  | beside {ε α : Type} (parent : Builder) (name : String) (next : Builder → Work β ε α) :
      Work β ε α
  | preview {ε α : Type} (b : Builder) (kind : Statement.Kind)
      (next : Except Error Statement → Work β ε α) : Work β ε α
  | finish {ε α : Type} (b : Builder) (t : Terminal β) (memory : β)
      (next : Except Error t.Answer × β → Work β ε α) : Work β ε α
  | drop {ε α : Type} (b : Builder) (next : Work β ε α) : Work β ε α
  /-- Works in a transaction inside. -/
  | transaction {δ γ ε α : Type} [FromError δ] (work : Builder → Work β δ γ)
      (next : Except δ γ → Work β ε α) : Work β ε α

namespace Work

def onRecorder (s : Session Watched) (f : Recorder → Recorder) : Session Watched :=
  { s with database := s.database.become (f s.database.recorder) }

def run {ε α : Type} : Work β ε α → Session Watched → Except ε α × Session Watched
  | .done r, s => (r, s)
  | .push reply next, s => next.run (onRecorder s fun r => r.push reply)
  | .failNext reason next, s => next.run (onRecorder s fun r => r.failNext reason)
  | .query next, s => (next s.query.1).run s.query.2
  | .table name next, s => (next (s.table name).1).run (s.table name).2
  | .beside parent name next, s => (next (s.beside parent name).1).run (s.beside parent name).2
  | .preview b kind next, s => (next (s.prepare b kind).1).run (s.prepare b kind).2
  | .finish b t memory next, s => (next (s.finish b t memory).1).run (s.finish b t memory).2
  | .drop b next, s => next.run (s.close b)
  | @transaction _ δ γ _ _ _ work next, s =>
    let ended : Except δ γ × Session Watched := s.transaction fun scope s => (work scope).run s
    (next ended.1).run ended.2

/-- The sessions that the work goes through, one for each moment between two operations, those
inside a transaction included, each with the number of transactions that are open then; `depth` of
them are open at first. -/
def moments {ε α : Type} : Work β ε α → Nat → Session Watched → List (Nat × Session Watched)
  | .done _, depth, s => [(depth, s)]
  | .push reply next, depth, s =>
    (depth, s) :: next.moments depth (onRecorder s fun r => r.push reply)
  | .failNext reason next, depth, s =>
    (depth, s) :: next.moments depth (onRecorder s fun r => r.failNext reason)
  | .query next, depth, s => (depth, s) :: (next s.query.1).moments depth s.query.2
  | .table name next, depth, s =>
    (depth, s) :: (next (s.table name).1).moments depth (s.table name).2
  | .beside parent name next, depth, s =>
    (depth, s) :: (next (s.beside parent name).1).moments depth (s.beside parent name).2
  | .preview b kind next, depth, s =>
    (depth, s) :: (next (s.prepare b kind).1).moments depth (s.prepare b kind).2
  | .finish b t memory next, depth, s =>
    (depth, s) :: (next (s.finish b t memory).1).moments depth (s.finish b t memory).2
  | .drop b next, depth, s => (depth, s) :: next.moments depth (s.close b)
  | @transaction _ δ γ _ _ _ work next, depth, s =>
    let inside :=
      match s.openScope with
      | (.error _, _) => []
      | (.ok (_, scope), opened) => (work scope).moments (depth + 1) opened
    let ended : Except δ γ × Session Watched := s.transaction fun scope s => (work scope).run s
    (depth, s) :: inside ++ (next ended.1).moments depth ended.2

end Work

/-! ## One attempt -/

namespace Recorder

/-- A transaction that cannot be opened leaves no trace but the failure used up; one that is opened
gets the next number. -/
theorem start_cases (r : Recorder) :
    (∃ e, start r = (.error e, { r with failure := none })) ∨
      ∃ pending, start r =
        (.ok (r.starts + 1), { r with starts := r.starts + 1, pending := pending }) := by
  obtain ⟨sent, replies, failure, durable, starts, commits, rollbacks, lastInsertId, pending⟩ := r
  cases failure with
  | some reason => exact .inl ⟨_, rfl⟩
  | none => exact .inr ⟨_, rfl⟩

/-- A commit is counted exactly when it succeeds. -/
theorem commit_cases (id : Nat) (r : Recorder) :
    (∃ e, commit id r = (.error e, { r.forget id with failure := none })) ∨
      ∃ durable, commit id r =
        (.ok (), { r.forget id with commits := r.commits + 1, durable := durable }) := by
  obtain ⟨sent, replies, failure, durable, starts, commits, rollbacks, lastInsertId, pending⟩ := r
  cases failure with
  | some reason => exact .inl ⟨_, rfl⟩
  | none => exact .inr ⟨_, rfl⟩

/-- A rollback is counted exactly when it succeeds. -/
theorem rollback_cases (id : Nat) (r : Recorder) :
    (∃ e, rollback id r = (.error e, { r.forget id with failure := none })) ∨
      rollback id r = (.ok (), { r.forget id with rollbacks := r.rollbacks + 1 }) := by
  obtain ⟨sent, replies, failure, durable, starts, commits, rollbacks, lastInsertId, pending⟩ := r
  cases failure with
  | some reason => exact .inl ⟨_, rfl⟩
  | none => exact .inr rfl

end Recorder

namespace Watched

/-- The transactions that were opened are those that were committed or rolled back, those for which
that failed, and so many that are open. -/
def Balanced (w : Watched) (opened : Nat) : Prop :=
  w.recorder.starts = w.recorder.commits + w.recorder.rollbacks +
    w.attempts.countP Attempt.isFailedCommit + w.attempts.countP Attempt.isFailedRollback + opened

/-- What one more attempt changes in the count. -/
theorem balanced_asked {w : Watched} {r : Recorder} {a : Attempt} {n n' : Nat} (h : w.Balanced n)
    (k : r.starts + w.recorder.commits + w.recorder.rollbacks + n =
      w.recorder.starts + r.commits + r.rollbacks + a.isFailedCommit.toNat +
        a.isFailedRollback.toNat + n') : (w.asked r a).Balanced n' := by
  unfold Balanced at h ⊢
  have commits : (w.attempts ++ [a]).countP Attempt.isFailedCommit =
      w.attempts.countP Attempt.isFailedCommit + a.isFailedCommit.toNat := by
    cases failed : a.isFailedCommit <;> simp [failed]
  have rollbacks : (w.attempts ++ [a]).countP Attempt.isFailedRollback =
      w.attempts.countP Attempt.isFailedRollback + a.isFailedRollback.toNat := by
    cases failed : a.isFailedRollback <;> simp [failed]
  simp only [asked, commits, rollbacks]
  omega

/-- Between two states a transaction was ended, successfully or not, and nothing else happened. -/
structure Ends (id : Nat) (w w' : Watched) : Prop where
  starts : w'.recorder.starts = w.recorder.starts
  attempts : ∃ a, w'.attempts = w.attempts ++ [a] ∧ a.id? = some id ∧ a.ended? = some id
  balanced : ∀ n, w.Balanced (n + 1) → w'.Balanced n

theorem ends_commit (id : Nat) (w : Watched) : Ends id w (Database.commit id w).2 := by
  obtain ⟨e, ended⟩ | ⟨durable, ended⟩ := w.recorder.commit_cases id
  all_goals
    simp only [Database.commit, ended]
    refine ⟨rfl, ⟨_, rfl, rfl, rfl⟩, fun n h => balanced_asked h ?_⟩
    simp only [Recorder.forget, Attempt.isFailedCommit, Attempt.isFailedRollback, Bool.toNat_true,
      Bool.toNat_false]
    omega

theorem ends_rollback (id : Nat) (w : Watched) : Ends id w (Database.rollback id w).2 := by
  obtain ⟨e, ended⟩ | ended := w.recorder.rollback_cases id
  all_goals
    simp only [Database.rollback, ended]
    refine ⟨rfl, ⟨_, rfl, rfl, rfl⟩, fun n h => balanced_asked h ?_⟩
    simp only [Recorder.forget, Attempt.isFailedCommit, Attempt.isFailedRollback, Bool.toNat_true,
      Bool.toNat_false]
    omega

/-- Opening a transaction fails, or gives it the next number. -/
theorem start_cases (w : Watched) :
    (∃ e r, Database.start w = (.error e, w.asked r (.start (.error e))) ∧
        r.starts = w.recorder.starts ∧
        ∀ n, w.Balanced n → (w.asked r (.start (.error e))).Balanced n) ∨
      ∃ r, Database.start w = (.ok r.starts, w.asked r (.start (.ok r.starts))) ∧
        r.starts = w.recorder.starts + 1 ∧
        ∀ n, w.Balanced n → (w.asked r (.start (.ok r.starts))).Balanced (n + 1) := by
  obtain ⟨e, started⟩ | ⟨pending, started⟩ := w.recorder.start_cases
  · refine .inl ⟨e, { w.recorder with failure := none }, by simp only [Database.start, started],
      rfl, fun n h => ?_⟩
    refine balanced_asked h ?_
    simp only [Attempt.isFailedCommit, Attempt.isFailedRollback, Bool.toNat_false]
    omega
  · refine .inr ⟨{ w.recorder with starts := w.recorder.starts + 1, pending := pending },
      by simp only [Database.start, started], rfl, fun n h => ?_⟩
    refine balanced_asked h ?_
    simp only [Attempt.isFailedCommit, Attempt.isFailedRollback, Bool.toNat_false]
    omega

/-! ## Stretches of work -/

/-- Between two states whatever was opened was ended, once each, and nothing older was touched. -/
structure Settles (w w' : Watched) : Prop where
  starts : w.recorder.starts ≤ w'.recorder.starts
  attempts : ∃ inner, w'.attempts = w.attempts ++ inner ∧
    (∀ a ∈ inner, ∀ id ∈ a.id?, w.recorder.starts < id) ∧
    (inner.filterMap Attempt.ended?).Perm
      (List.range' (w.recorder.starts + 1) (w'.recorder.starts - w.recorder.starts))
  balanced : ∀ n, w.Balanced n → w'.Balanced n

namespace Settles

variable {w w' w'' : Watched}

/-- Nothing was asked about transactions, and none was counted. -/
theorem of_quiet (attempts : w'.attempts = w.attempts)
    (starts : w'.recorder.starts = w.recorder.starts)
    (commits : w'.recorder.commits = w.recorder.commits)
    (rollbacks : w'.recorder.rollbacks = w.recorder.rollbacks) : Settles w w' where
  starts := Nat.le_of_eq starts.symm
  attempts := ⟨[], by simp [attempts], by simp, by simp [starts]⟩
  balanced n h := by rwa [Balanced, attempts, starts, commits, rollbacks]

theorem refl (w : Watched) : Settles w w := of_quiet rfl rfl rfl rfl

theorem trans (h : Settles w w') (k : Settles w' w'') : Settles w w'' where
  starts := Nat.le_trans h.starts k.starts
  attempts := by
    obtain ⟨inner, attempts, fresh, once⟩ := h.attempts
    obtain ⟨more, attempts', fresh', once'⟩ := k.attempts
    have le := h.starts
    have le' := k.starts
    refine ⟨inner ++ more, by simp [attempts', attempts], fun a member id numbered => ?_, ?_⟩
    · rcases List.mem_append.1 member with member | member
      · exact fresh a member id numbered
      · exact Nat.lt_of_le_of_lt h.starts (fresh' a member id numbered)
    · have ranges : List.range' (w.recorder.starts + 1) (w''.recorder.starts - w.recorder.starts) =
          List.range' (w.recorder.starts + 1) (w'.recorder.starts - w.recorder.starts) ++
            List.range' (w'.recorder.starts + 1)
              (w''.recorder.starts - w'.recorder.starts) := by
        rw [show w'.recorder.starts + 1 =
          w.recorder.starts + 1 + (w'.recorder.starts - w.recorder.starts) by omega,
          List.range'_append_1]
        congr 1
        omega
      rw [List.filterMap_append, ranges]
      exact once.append once'
  balanced n h' := k.balanced n (h.balanced n h')

theorem query (target : Target) (st : Statement) (w : Watched) :
    Settles w (w.become (Recorder.query target st w.recorder).2) := by
  obtain ⟨replies, failure, frame⟩ := Recorder.query_frame target st w.recorder
  rw [frame]
  exact of_quiet rfl rfl rfl rfl

theorem execute (target : Target) (st : Statement) (w : Watched) :
    Settles w (Database.execute target st w).2 := by
  show Settles w (w.become (Recorder.change target st w.recorder).2)
  cases failing : w.recorder.failure with
  | some reason =>
    rw [Recorder.change_of_some failing]
    exact of_quiet rfl rfl rfl rfl
  | none =>
    obtain ⟨o, replies, lastInsertId, changed⟩ := Recorder.change_of_none failing target st
    rw [changed]
    cases target <;> exact of_quiet rfl rfl rfl rfl

theorem queried {target : Target} {sts : List Statement} (h : Database.Queried target sts w w') :
    Settles w w' := by
  induction h with
  | none => exact refl _
  | one _ ih | many _ ih => exact (query _ _ _).trans ih

theorem around {r : Recorder} (started : r.starts = w.recorder.starts + 1)
    (opened : ∀ n, w.Balanced n → (w.asked r (.start (.ok r.starts))).Balanced (n + 1))
    (worked : Settles (w.asked r (.start (.ok r.starts))) w') (ended : Ends r.starts w' w'') :
    Settles w w'' where
  starts := by
    have le := worked.starts
    simp only [asked] at le
    rw [ended.starts]
    omega
  attempts := by
    obtain ⟨inner, attempts, fresh, once⟩ := worked.attempts
    obtain ⟨a, attempts', numbered, ends⟩ := ended.attempts
    have le := worked.starts
    simp only [asked] at attempts fresh once le
    refine ⟨.start (.ok r.starts) :: (inner ++ [a]), by simp [attempts', attempts], ?_, ?_⟩
    · intro b member id belongs
      simp only [List.mem_cons, List.mem_append, List.not_mem_nil, or_false] at member
      obtain rfl | member | rfl := member
      · cases belongs
        omega
      · have later := fresh b member id belongs
        omega
      · rw [numbered] at belongs
        cases belongs
        omega
    · have range : List.range' (w.recorder.starts + 1) (w''.recorder.starts - w.recorder.starts) =
          r.starts :: List.range' (r.starts + 1) (w'.recorder.starts - r.starts) := by
        rw [ended.starts, started, ← List.range'_succ]
        congr 1
        omega
      have endings : (Attempt.start (.ok r.starts) :: (inner ++ [a])).filterMap Attempt.ended? =
          inner.filterMap Attempt.ended? ++ [r.starts] := by
        rw [List.filterMap_cons_none rfl, List.filterMap_append, List.filterMap_cons_some ends,
          List.filterMap_nil]
      rw [range, endings]
      exact (once.append_right _).trans (List.perm_append_singleton _ _)
  balanced n h := ended.balanced n (worked.balanced _ (opened n h))

end Settles

end Watched

/-! ## Opening and ending -/

namespace Session

section

variable {σ : Type} [Database σ] {ε α : Type} [FromError ε] {s opened : Session σ} {id : Nat}
  {scope : Builder}

theorem openScope_of_start_error {e : Error} (h : (Database.start s.database).1 = .error e) :
    s.openScope = (.error e, { s with database := (Database.start s.database).2 }) := by
  simp only [openScope, h]

theorem openScope_of_start_ok (h : (Database.start s.database).1 = .ok id) :
    ∃ scope opened, s.openScope = (.ok (id, scope), opened) ∧ scope.target = .transaction id ∧
      opened.database = (Database.start s.database).2 := by
  simp only [openScope, h]
  exact ⟨_, _, rfl, rfl, rfl⟩

/-- A transaction that cannot be opened is the end of it: the work does not matter. -/
theorem transaction_of_start_error {e : Error} (h : (Database.start s.database).1 = .error e)
    (work : Builder → Session σ → Except ε α × Session σ) :
    s.transaction work =
      (.error (fromError e), { s with database := (Database.start s.database).2 }) := by
  rw [transaction, openScope_of_start_error h]

theorem transaction_of_openScope (h : s.openScope = (.ok (id, scope), opened))
    (work : Builder → Session σ → Except ε α × Session σ) :
    s.transaction work =
      (work scope opened).2.closeScope id scope (work scope opened).1 := by
  rw [transaction, h]

/-- Work that succeeded is committed, and the commit decides what the whole gives. -/
theorem closeScope_of_ok (s : Session σ) (id : Nat) (scope : Builder) (x : α) :
    let closed := s.closeScope id scope (.ok x : Except ε α)
    closed.1 = ((Database.commit id s.database).1.mapError fromError).map (fun _ => x) ∧
      closed.2.database = (Database.commit id s.database).2 := by
  simp only [closeScope, commitScope, database_close]
  cases (Database.commit id s.database).1 <;> exact ⟨rfl, rfl⟩

/-- Work that failed is rolled back, and its error is what the whole gives. -/
theorem closeScope_of_error (s : Session σ) (id : Nat) (scope : Builder) (e : ε) :
    let closed := s.closeScope id scope (.error e : Except ε α)
    closed.1 = .error e ∧ closed.2.database = (Database.rollback id s.database).2 := by
  simp only [closeScope, rollbackScope, database_close]
  cases (Database.rollback id s.database).1 <;> exact ⟨trivial, rfl⟩

end

open Watched (Settles Ends)

section

variable {ε α : Type} [FromError ε]

theorem ends_closeScope (s : Session Watched) (id : Nat) (scope : Builder)
    (worked : Except ε α) :
    Ends id s.database (s.closeScope id scope worked).2.database := by
  cases worked with
  | ok x =>
    rw [(closeScope_of_ok s id scope x).2]
    exact Watched.ends_commit id s.database
  | error e =>
    rw [(closeScope_of_error s id scope e).2]
    exact Watched.ends_rollback id s.database

/-- A transaction is ended by a single attempt: a commit that decides what the whole gives, or a
rollback after which the error of the work stays. -/
theorem attempt_closeScope (s : Session Watched) (id : Nat) (scope : Builder)
    (worked : Except ε α) :
    ∃ last, (s.closeScope id scope worked).2.database.attempts = s.database.attempts ++ [last] ∧
      (∀ x, worked = .ok x → ∃ answer, last = .commit id answer ∧
        (s.closeScope id scope worked).1 = (answer.mapError fromError).map fun _ => x) ∧
      ∀ e, worked = .error e → ∃ answer, last = .rollback id answer ∧
        (s.closeScope id scope worked).1 = .error e := by
  cases worked with
  | ok x =>
    obtain ⟨gives, same⟩ := closeScope_of_ok (ε := ε) s id scope x
    refine ⟨.commit id (Database.commit id s.database).1, by rw [same]; rfl, ?_, ?_⟩
    · rintro y ⟨⟩
      exact ⟨_, rfl, gives⟩
    · rintro e ⟨⟩
  | error e =>
    obtain ⟨gives, same⟩ := closeScope_of_error (α := α) s id scope e
    refine ⟨.rollback id (Database.rollback id s.database).1, by rw [same]; rfl, ?_, ?_⟩
    · rintro x ⟨⟩
    · rintro e' ⟨⟩
      exact ⟨_, rfl, gives⟩

end

/-- No operation that ends a builder has to do with transactions. -/
theorem settles_finish (s : Session Watched) (b : Builder) (t : Terminal β) (memory : β) :
    Settles s.database (s.finish b t memory).2.database := by
  obtain ⟨-, sts, queried⟩ | ⟨-, same⟩ | ⟨-, st, -, executed, -⟩ := s.finish_cases b t memory
  · exact .queried queried
  · rw [same]
    exact .refl _
  · rw [executed]
    exact .execute _ _ _

/-- A transaction whose work settles does so too. -/
theorem settles_transaction {ε α : Type} [FromError ε] (s : Session Watched)
    {work : Builder → Session Watched → Except ε α × Session Watched}
    (h : ∀ scope s, Settles s.database (work scope s).2.database) :
    Settles s.database (s.transaction work).2.database := by
  obtain ⟨e, r, started, starts, balanced⟩ | ⟨r, started, starts, balanced⟩ :=
    s.database.start_cases
  · rw [transaction_of_start_error (by rw [started])]
    refine ⟨Nat.le_of_eq (by rw [started]; exact starts.symm), ⟨[.start (.error e)], ?_⟩, ?_⟩
    · simp [started, Watched.asked, starts, Attempt.id?, Attempt.ended?]
    · rw [started]
      exact balanced
  · obtain ⟨scope, opened, ready, -, same⟩ := openScope_of_start_ok (s := s) (by rw [started])
    rw [transaction_of_openScope ready]
    refine Settles.around starts balanced ?_ (ends_closeScope _ _ _ _)
    have worked := h scope opened
    rwa [same, started] at worked

end Session

/-! ## Whole callbacks -/

namespace Work

open Watched (Settles)

theorem settles_onRecorder (s : Session Watched) {f : Recorder → Recorder}
    (starts : (f s.database.recorder).starts = s.database.recorder.starts)
    (commits : (f s.database.recorder).commits = s.database.recorder.commits)
    (rollbacks : (f s.database.recorder).rollbacks = s.database.recorder.rollbacks) :
    Settles s.database (onRecorder s f).database := .of_quiet rfl starts commits rollbacks

/-- Whatever a callback does, it settles: by induction on the callback, those inside included. -/
theorem settles_run {ε α : Type} (work : Work β ε α) (s : Session Watched) :
    Settles s.database (work.run s).2.database := by
  induction work generalizing s with
  | done r => exact .refl _
  | push reply next ih | failNext reason next ih =>
    exact (settles_onRecorder s rfl rfl rfl).trans (ih _)
  | query next ih => exact ih s.query.1 s.query.2
  | table name next ih => exact ih (s.table name).1 (s.table name).2
  | beside parent name next ih => exact ih (s.beside parent name).1 (s.beside parent name).2
  | preview b kind next ih =>
    have rest := ih (s.prepare b kind).1 (s.prepare b kind).2
    rwa [(s.database_prepare b kind).1] at rest
  | finish b t memory next ih => exact (s.settles_finish b t memory).trans (ih _ _)
  | drop b next ih =>
    have rest := ih (s.close b)
    rwa [Session.database_close] at rest
  | transaction work next inside ih =>
    exact (s.settles_transaction inside).trans (ih _ _)

/-- At every moment of a callback the count agrees with the transactions that are open. -/
theorem balanced_moments {ε α : Type} (work : Work β ε α) {depth : Nat} {s : Session Watched}
    (h : s.database.Balanced depth) :
    ∀ m ∈ work.moments depth s, m.2.database.Balanced m.1 := by
  induction work generalizing s depth with
  | done r => simpa [moments] using h
  | push reply next ih | failNext reason next ih =>
    simp only [moments, List.forall_mem_cons]
    exact ⟨h, ih ((settles_onRecorder s rfl rfl rfl).balanced depth h)⟩
  | query next ih | table name next ih | beside parent name next ih =>
    simp only [moments, List.forall_mem_cons]
    exact ⟨h, ih _ h⟩
  | preview b kind next ih =>
    simp only [moments, List.forall_mem_cons]
    refine ⟨h, ih _ ?_⟩
    rwa [(s.database_prepare b kind).1]
  | finish b t memory next ih =>
    simp only [moments, List.forall_mem_cons]
    exact ⟨h, ih _ ((s.settles_finish b t memory).balanced depth h)⟩
  | drop b next ih =>
    simp only [moments, List.forall_mem_cons]
    refine ⟨h, ih ?_⟩
    rwa [Session.database_close]
  | transaction work next inside ih =>
    simp only [moments, List.cons_append, List.forall_mem_cons, List.forall_mem_append]
    refine ⟨h, ?_, ih _ ((s.settles_transaction fun scope s => (work scope).settles_run s).balanced
      depth h)⟩
    obtain ⟨e, r, started, _, _⟩ | ⟨r, started, _, balanced⟩ := s.database.start_cases
    · rw [Session.openScope_of_start_error (by rw [started])]
      simp
    · obtain ⟨scope, opened, ready, -, same⟩ :=
        Session.openScope_of_start_ok (s := s) (by rw [started])
      rw [ready]
      refine inside scope ?_
      rw [same, started]
      exact balanced depth h

end Work

/-! ## Main statement -/

/-- A session whose recorder remembers nothing yet. -/
def Session.fresh (maxIdle : Nat) (logArguments : Bool) : Session Watched where
  database := {}
  pool := { maxIdle := maxIdle }
  logArguments := logArguments

/-- A transaction that cannot be opened gives the database's error, turned into one of the work, and
no work is done.

One that is opened is ended by a single attempt, after the work: a commit if the work succeeded, and
then the commit decides; a rollback if the work failed, and then the error of the work stays,
however the rollback ends. Nothing else that is asked of the database meanwhile is about this
transaction.

So at every moment of a program the transactions that were opened are those that were committed or
rolled back, those for which that failed, and those that are open; and at its end each of them was
ended exactly once. -/
theorem transaction_protocol :
    (∀ (s : Session Watched) (e : Error), (Database.start s.database).1 = .error e →
      ∀ {ε α : Type} [FromError ε]
        (work : Builder → Session Watched → Except ε α × Session Watched),
        s.transaction work =
          (.error (fromError e), { s with database := (Database.start s.database).2 })) ∧
    (∀ (s : Session Watched) (id : Nat), (Database.start s.database).1 = .ok id →
      ∃ scope opened, s.openScope = (.ok (id, scope), opened) ∧
        ∀ {ε α : Type} [FromError ε] (work : Builder → Work β ε α),
          let worked := (work scope).run opened
          let ended := s.transaction fun scope s => (work scope).run s
          ∃ inner last,
            worked.2.database.attempts = s.database.attempts ++ .start (.ok id) :: inner ∧
            ended.2.database.attempts = worked.2.database.attempts ++ [last] ∧
            (∀ a ∈ inner, a.id? ≠ some id) ∧
            (∀ x, worked.1 = .ok x → ∃ answer, last = .commit id answer ∧
              ended.1 = (answer.mapError fromError).map fun _ => x) ∧
            ∀ e, worked.1 = .error e → ∃ answer, last = .rollback id answer ∧
              ended.1 = .error e) ∧
    ∀ (maxIdle : Nat) (logArguments : Bool) {ε α : Type} (work : Work β ε α),
      let s := Session.fresh maxIdle logArguments
      (∀ m ∈ work.moments 0 s,
        let r := m.2.database.recorder
        let attempts := m.2.database.attempts
        r.starts = r.commits + r.rollbacks + attempts.countP Attempt.isFailedCommit +
          attempts.countP Attempt.isFailedRollback + m.1) ∧
      ((work.run s).2.database.attempts.filterMap Attempt.ended?).Perm
        (List.range' 1 (work.run s).2.database.recorder.starts) := by
  refine ⟨fun s e h ε α _ work => Session.transaction_of_start_error h work, ?_, ?_⟩
  · intro s id h
    obtain ⟨e, r, started, -, -⟩ | ⟨r, started, starts, -⟩ := s.database.start_cases
    · rw [started] at h
      cases h
    have number : r.starts = id := by
      rw [started] at h
      cases h
      rfl
    obtain ⟨scope, opened, ready, -, same⟩ := Session.openScope_of_start_ok h
    refine ⟨scope, opened, ready, fun {ε α} _ work => ?_⟩
    intro worked ended
    have whole : ended = worked.2.closeScope id scope worked.1 :=
      Session.transaction_of_openScope ready _
    obtain ⟨inner, attempts, later, -⟩ := ((work scope).settles_run opened).attempts
    rw [same, started, number] at attempts later
    have fresh : ∀ a ∈ inner, a.id? ≠ some id := by
      intro a member numbered
      have lt := later a member id numbered
      simp only [Watched.asked] at lt
      omega
    have before : worked.2.database.attempts = s.database.attempts ++ .start (.ok id) :: inner := by
      rw [attempts]
      simp [Watched.asked]
    obtain ⟨last, after, succeeded, failed⟩ := worked.2.attempt_closeScope id scope worked.1
    rw [← whole] at after succeeded failed
    exact ⟨inner, last, before, after, fresh, succeeded, failed⟩
  · intro maxIdle logArguments ε α work s
    refine ⟨work.balanced_moments rfl, ?_⟩
    obtain ⟨inner, attempts, -, once⟩ := (work.settles_run s).attempts
    rw [attempts]
    simpa [s, Session.fresh] using once

end QueryLoom
