import QueryLoom.Event
import QueryLoom.Recorder

/-!
# Prepared replies

How a recorder uses what was prepared, in every run of requests on its base connection and in
transactions.

* `Recorder.Request`, `Recorder.moments` : a run, one moment for each request;
* `Recorder.TakenOut`, `Recorder.Stored` : what becomes of the changes of open transactions;
* `Recorder.Served` : what a moment may be, one rule for each way to be answered;
* `Recorder.served_perform` : every request is served by one of the rules;
* `Recorder.Served.queue`, `Recorder.Served.numbers` : what a moment does to the queue of replies
  and to the numbers of new rows;
* `Recorder.replies_in_order` : the whole run.
-/

namespace QueryLoom

namespace Recorder

/-! ## Runs -/

/-- What can be asked of a recorder. -/
inductive Request where
  | push (reply : Reply)
  | pushScalar (column : String) (v : Value)
  | failNext (reason : String)
  | statement (shape : Shape) (target : Target) (st : Statement)
  | start
  | commit (id : Nat)
  | rollback (id : Nat)
  deriving DecidableEq, Repr

inductive Answer where
  | done
  | failed (e : Error)
  | row (row : Option Row)
  | rows (rows : List (Except Error Row))
  | outcome (o : Outcome)
  | started (id : Nat)

/-- The answer to a request that may have failed. -/
def Answer.of {α : Type} (make : α → Answer) : Except Error α → Answer
  | .error e => .failed e
  | .ok x => make x

/-- The answer to a query: its first row, or all of them. -/
def Answer.ofRows (shape : Shape) (rows : List Row) : Answer :=
  match shape with
  | .one => .row rows.head?
  | _ => .rows (rows.map .ok)

def Request.perform (r : Recorder) : Request → Answer × Recorder
  | .push reply => (.done, r.push reply)
  | .pushScalar column v => (.done, r.pushScalar column v)
  | .failNext reason => (.done, r.failNext reason)
  | .statement .one target st =>
    let answered := Database.queryOne target st r
    (.of .row answered.1, answered.2)
  | .statement .many target st =>
    let answered := Database.queryMany target st r
    (.of .rows answered.1, answered.2)
  | .statement .execute target st =>
    let answered := Database.execute target st r
    (.of .outcome answered.1, answered.2)
  | .start =>
    let answered := Database.start r
    (.of .started answered.1, answered.2)
  | .commit id =>
    let answered := Database.commit id r
    (.of (fun _ => .done) answered.1, answered.2)
  | .rollback id =>
    let answered := Database.rollback id r
    (.of (fun _ => .done) answered.1, answered.2)

def performAll (r : Recorder) (qs : List Request) : Recorder :=
  qs.foldl (fun r q => (q.perform r).2) r

/-- A request with its answer and the recorder before and after it. -/
structure Moment where
  before : Recorder
  request : Request
  answer : Answer
  after : Recorder

def moments (r : Recorder) : List Request → List Moment
  | [] => []
  | q :: qs => ⟨r, q, (q.perform r).1, (q.perform r).2⟩ :: moments (q.perform r).2 qs

/-! ## What is read off a run -/

def Request.pushed : Request → List Reply
  | .push reply => [reply]
  | .pushScalar column v => [.rows [column] [[v]]]
  | _ => []

namespace Moment

/-- The replies that have left the queue. -/
def taken (m : Moment) : List Reply :=
  m.before.replies.take (m.before.replies.length - m.after.replies.length)

/-- The numbers given to new rows by changes for which no outcome was prepared. -/
def numbered (m : Moment) : List Nat :=
  match m.answer with
  | .outcome o => if m.taken.isEmpty then o.insertId.toList else []
  | _ => []

theorem taken_of_same {m : Moment} (h : m.after.replies = m.before.replies) : m.taken = [] := by
  rw [taken, h, Nat.sub_self, List.take_zero]

theorem taken_of_tail {m : Moment} {reply : Reply}
    (h : m.before.replies = reply :: m.after.replies) : m.taken = [reply] := by
  rw [taken, h, List.length_cons, Nat.add_sub_cancel_left]
  rfl

theorem numbered_of_untaken {m : Moment} {affected n : Nat}
    (answer : m.answer = .outcome ⟨affected, some n⟩) (h : m.taken = []) : m.numbered = [n] := by
  rw [numbered, answer, h]
  rfl

end Moment

/-! ## Open transactions -/

/-- A transaction leaves those that are open, with the changes that it has made; the others stay as
they are. A transaction that is not open has made none. -/
inductive TakenOut (id : Nat) :
    List (Nat × List Sent) → List Sent → List (Nat × List Sent) → Prop where
  | opened {earlier later : List (Nat × List Sent)} {changes : List Sent}
      (alone : ∀ p ∈ earlier ++ later, p.1 ≠ id) :
      TakenOut id (earlier ++ (id, changes) :: later) changes (earlier ++ later)
  | unknown {others : List (Nat × List Sent)} (closed : ∀ p ∈ others, p.1 ≠ id) :
      TakenOut id others [] others

/-- A change is stored: on the base connection it lasts, in a transaction it waits behind the other
changes of this transaction, and of a transaction that is not open nothing is stored. -/
inductive Stored (change : Sent) : Target → Recorder → Recorder → Prop where
  | lasting (r : Recorder) :
      Stored change .connection r { r with durable := r.durable ++ [change] }
  | waiting {r : Recorder} {id : Nat} {earlier later : List (Nat × List Sent)}
      {changes : List Sent} (opened : r.pending = earlier ++ (id, changes) :: later)
      (alone : ∀ p ∈ earlier ++ later, p.1 ≠ id) :
      Stored change (.transaction id) r
        { r with pending := earlier ++ (id, changes ++ [change]) :: later }
  | unknown {r : Recorder} {id : Nat} (closed : ∀ p ∈ r.pending, p.1 ≠ id) :
      Stored change (.transaction id) r r

/-- The open transactions have different numbers, and they were given to them. -/
structure Numbered (r : Recorder) : Prop where
  distinct : (r.pending.map (·.1)).Nodup
  given : ∀ id ∈ r.pending.map (·.1), id ≤ r.starts

theorem numbered_new : Numbered {} := ⟨List.nodup_nil, by simp⟩

/-- Fewer transactions are open, or the same ones. -/
theorem Numbered.mono {r r' : Recorder} (h : r.Numbered)
    (fewer : (r'.pending.map (·.1)).Sublist (r.pending.map (·.1))) (starts : r'.starts = r.starts) :
    r'.Numbered where
  distinct := h.distinct.sublist fewer
  given := fun id member => starts ▸ h.given id (fewer.subset member)

/-- A transaction is open once, or not at all. -/
theorem Numbered.cases {r : Recorder} (h : r.Numbered) (id : Nat) :
    (∀ p ∈ r.pending, p.1 ≠ id) ∨ ∃ earlier changes later,
      r.pending = earlier ++ (id, changes) :: later ∧ ∀ p ∈ earlier ++ later, p.1 ≠ id := by
  by_cases opened : ∃ p ∈ r.pending, p.1 = id
  · obtain ⟨⟨_, changes⟩, member, rfl⟩ := opened
    obtain ⟨earlier, later, split⟩ := List.append_of_mem member
    refine .inr ⟨earlier, changes, later, split, fun p other same => ?_⟩
    have distinct := h.distinct
    rw [split, List.map_append, List.map_cons] at distinct
    have first := (List.perm_middle.nodup_iff.1 distinct)
    rw [List.nodup_cons, ← List.map_append] at first
    exact first.1 (same ▸ List.mem_map_of_mem other)
  · exact .inl fun p member same => opened ⟨p, member, same⟩

/-- Without its own entry, the entries of a list are those of other transactions. -/
theorem filter_others {id : Nat} {ps : List (Nat × List Sent)} (h : ∀ p ∈ ps, p.1 ≠ id) :
    ps.filter (fun p => p.1 != id) = ps :=
  List.filter_eq_self.2 fun p member => bne_iff_ne.2 (h p member)

theorem takenOut_forget {r : Recorder} (h : r.Numbered) (id : Nat) :
    TakenOut id r.pending (r.changesOf id) (r.forget id).pending := by
  unfold changesOf forget
  obtain closed | ⟨earlier, changes, later, split, alone⟩ := h.cases id
  · have unfound : (r.pending.find? fun p => p.1 == id) = none := by
      simpa using fun p changes member => closed (p, changes) member
    simp only [unfound, filter_others closed]
    exact .unknown closed
  · obtain ⟨before, behind⟩ := List.forall_mem_append.1 alone
    have unfound : (earlier.find? fun p => p.1 == id) = none := by
      simpa using fun p changes member => before (p, changes) member
    have found : (r.pending.find? fun p => p.1 == id) = some (id, changes) := by
      simp [split, unfound]
    have left : (r.pending.filter fun p => p.1 != id) = earlier ++ later := by
      simp [split, List.filter_append, filter_others before, filter_others behind]
    simp only [found, left]
    rw [split]
    exact .opened alone

theorem stored_keep {r : Recorder} (h : r.Numbered) (target : Target) (change : Sent) :
    Stored change target r (keep target change r) := by
  have others {id : Nat} {ps : List (Nat × List Sent)} (k : ∀ p ∈ ps, p.1 ≠ id) :
      (ps.map fun p => if p.1 = id then (p.1, p.2 ++ [change]) else p) = ps :=
    (List.map_congr_left fun p member => if_neg (k p member)).trans (List.map_id ps)
  cases target with
  | connection => exact .lasting r
  | transaction id =>
    unfold keep
    obtain closed | ⟨earlier, changes, later, split, alone⟩ := h.cases id
    · simp only [others closed]
      exact .unknown closed
    · obtain ⟨before, behind⟩ := List.forall_mem_append.1 alone
      have waits : (r.pending.map fun p => if p.1 = id then (p.1, p.2 ++ [change]) else p) =
          earlier ++ (id, changes ++ [change]) :: later := by
        simp [split, others before, others behind]
      simp only [waits]
      exact .waiting split alone

/-- Storing a change touches nothing else, and opens and ends no transaction. -/
theorem Stored.frame {change : Sent} {target : Target} {r r' : Recorder}
    (h : Stored change target r r') :
    ∃ durable pending, r' = { r with durable := durable, pending := pending } ∧
      pending.map (·.1) = r.pending.map (·.1) := by
  cases h with
  | lasting => exact ⟨_, r.pending, rfl, rfl⟩
  | waiting opened alone => exact ⟨r.durable, _, rfl, by simp [opened]⟩
  | unknown closed => exact ⟨r.durable, r.pending, rfl, rfl⟩

theorem TakenOut.sublist {id : Nat} {before left : List (Nat × List Sent)} {changes : List Sent}
    (h : TakenOut id before changes left) : left.Sublist before := by
  cases h with
  | opened alone => exact (List.sublist_cons_self _ _).append_left _
  | unknown closed => exact .refl _

/-! ## Rules -/

/-- What a moment may be. Nothing but what a rule names is touched. -/
inductive Served : Moment → Prop where
  /-- A prepared reply waits behind the others. -/
  | pushed {r : Recorder} {q : Request} {reply : Reply} (h : q.pushed = [reply]) :
      Served ⟨r, q, .done, { r with replies := r.replies ++ [reply] }⟩
  | armed {r : Recorder} {reason : String} :
      Served ⟨r, .failNext reason, .done, { r with failure := some reason }⟩
  /-- A statement that fails is remembered and uses up the failure. -/
  | failed {r : Recorder} {reason : String} {shape : Shape} {target : Target} {st : Statement}
      (failing : r.failure = some reason) :
      Served ⟨r, .statement shape target st, .failed (.driver reason),
        { r with sent := r.sent ++ [sentOn target st], failure := none }⟩
  /-- A query takes the next reply if that is a result. -/
  | rowsTaken {r : Recorder} {shape : Shape} {target : Target} {st : Statement}
      {columns : List String} {rows : List (List Value)} {rest : List Reply}
      (calm : r.failure = none) (query : shape ≠ .execute)
      (head : r.replies = .rows columns rows :: rest) :
      Served ⟨r, .statement shape target st,
        .ofRows shape (rows.map fun values => ⟨columns, values⟩),
        { r with sent := r.sent ++ [sentOn target st], replies := rest }⟩
  /-- Otherwise it sees no rows, and the next reply stays. -/
  | noRows {r : Recorder} {shape : Shape} {target : Target} {st : Statement}
      (calm : r.failure = none) (query : shape ≠ .execute)
      (head : ∀ columns rows, r.replies.head? ≠ some (.rows columns rows)) :
      Served ⟨r, .statement shape target st, .ofRows shape [],
        { r with sent := r.sent ++ [sentOn target st] }⟩
  /-- A change takes the next reply if that is an outcome. -/
  | outcomeTaken {r stored : Recorder} {target : Target} {st : Statement} {o : Outcome}
      {rest : List Reply} (calm : r.failure = none) (head : r.replies = .outcome o :: rest)
      (kept : Stored (sentOn target st) target r stored) :
      Served ⟨r, .statement .execute target st, .outcome o,
        { stored with sent := r.sent ++ [sentOn target st], replies := rest }⟩
  /-- Otherwise it affects one row, which gets the next number, and the next reply stays. -/
  | numbered {r stored : Recorder} {target : Target} {st : Statement} (calm : r.failure = none)
      (head : ∀ o, r.replies.head? ≠ some (.outcome o))
      (kept : Stored (sentOn target st) target r stored) :
      Served ⟨r, .statement .execute target st, .outcome ⟨1, some (r.lastInsertId + 1)⟩,
        { stored with
          sent := r.sent ++ [sentOn target st], lastInsertId := r.lastInsertId + 1 }⟩
  | started {r : Recorder} (calm : r.failure = none) :
      Served ⟨r, .start, .started (r.starts + 1),
        { r with starts := r.starts + 1, pending := r.pending ++ [(r.starts + 1, [])] }⟩
  | startFailed {r : Recorder} {reason : String} (failing : r.failure = some reason) :
      Served ⟨r, .start, .failed (.driver reason), { r with failure := none }⟩
  /-- A transaction that is committed is not open any longer, and its changes last. -/
  | committed {r : Recorder} {id : Nat} {changes : List Sent} {left : List (Nat × List Sent)}
      (calm : r.failure = none) (ended : TakenOut id r.pending changes left) :
      Served ⟨r, .commit id, .done,
        { r with
          commits := r.commits + 1, durable := r.durable ++ changes, pending := left }⟩
  /-- A transaction whose commit fails is gone without its changes. -/
  | commitFailed {r : Recorder} {id : Nat} {changes : List Sent}
      {left : List (Nat × List Sent)} {reason : String} (failing : r.failure = some reason)
      (ended : TakenOut id r.pending changes left) :
      Served ⟨r, .commit id, .failed (.driver reason), { r with failure := none, pending := left }⟩
  | rolledBack {r : Recorder} {id : Nat} {changes : List Sent} {left : List (Nat × List Sent)}
      (calm : r.failure = none) (ended : TakenOut id r.pending changes left) :
      Served ⟨r, .rollback id, .done, { r with rollbacks := r.rollbacks + 1, pending := left }⟩
  | rollbackFailed {r : Recorder} {id : Nat} {changes : List Sent}
      {left : List (Nat × List Sent)} {reason : String} (failing : r.failure = some reason)
      (ended : TakenOut id r.pending changes left) :
      Served ⟨r, .rollback id, .failed (.driver reason),
        { r with failure := none, pending := left }⟩

/-! ## Every request is served -/

section

variable {r : Recorder}

theorem answerRows_cases (r : Recorder) :
    (∃ columns rows rest, r.replies = .rows columns rows :: rest ∧
      r.answerRows = (rows.map fun values => ⟨columns, values⟩, { r with replies := rest })) ∨
    (∀ columns rows, r.replies.head? ≠ some (.rows columns rows)) ∧ r.answerRows = ([], r) := by
  unfold answerRows
  split
  · rename_i columns rows rest head
    exact .inl ⟨columns, rows, rest, head, rfl⟩
  · rename_i other
    refine .inr ⟨fun columns rows head => ?_, rfl⟩
    obtain ⟨rest, replies⟩ := List.head?_eq_some_iff.1 head
    exact other columns rows rest replies

theorem answerOutcome_cases (r : Recorder) :
    (∃ o rest, r.replies = .outcome o :: rest ∧
      r.answerOutcome = (o, { r with replies := rest })) ∨
    (∀ o, r.replies.head? ≠ some (.outcome o)) ∧
      r.answerOutcome =
        (⟨1, some (r.lastInsertId + 1)⟩, { r with lastInsertId := r.lastInsertId + 1 }) := by
  unfold answerOutcome
  split
  · rename_i o rest head
    exact .inl ⟨o, rest, head, rfl⟩
  · rename_i other
    refine .inr ⟨fun o head => ?_, rfl⟩
    obtain ⟨rest, replies⟩ := List.head?_eq_some_iff.1 head
    exact other o rest replies

/-- Queries for one row and for all rows receive and use the same. -/
theorem perform_query {shape : Shape} (h : shape ≠ .execute) (target : Target) (st : Statement) :
    (Request.statement shape target st).perform r =
      (.of (.ofRows shape) (r.query target st).1, (r.query target st).2) := by
  cases shape with
  | execute => exact absurd rfl h
  | one =>
    simp only [Request.perform, Database.queryOne]
    cases (r.query target st).1 <;> rfl
  | many =>
    simp only [Request.perform, Database.queryMany]
    cases (r.query target st).1 <;> rfl

theorem served_query {shape : Shape} (h : shape ≠ .execute) (target : Target) (st : Statement) :
    Served ⟨r, .statement shape target st, ((Request.statement shape target st).perform r).1,
      ((Request.statement shape target st).perform r).2⟩ := by
  rw [perform_query h, query]
  cases failing : r.failure with
  | some reason =>
    rw [receive_of_some failing]
    exact .failed failing
  | none =>
    rw [receive_of_none failing]
    obtain ⟨columns, rows, rest, head, answered⟩ | ⟨head, answered⟩ :=
      answerRows_cases { r with sent := r.sent ++ [sentOn target st] }
    · simp only [answered, Answer.of]
      exact .rowsTaken failing h head
    · simp only [answered, Answer.of]
      exact .noRows failing h head

theorem served_change (h : r.Numbered) (target : Target) (st : Statement) :
    Served ⟨r, .statement .execute target st, .of .outcome (r.change target st).1,
      (r.change target st).2⟩ := by
  have stored := stored_keep h target (sentOn target st)
  rw [change]
  cases failing : r.failure with
  | some reason =>
    rw [receive_of_some failing]
    exact .failed failing
  | none =>
    rw [receive_of_none failing]
    -- keeping the change and remembering the statement do not get in each other's way
    have kept : keep target (sentOn target st) { r with sent := r.sent ++ [sentOn target st] } =
        { keep target (sentOn target st) r with sent := r.sent ++ [sentOn target st] } := by
      cases target <;> rfl
    simp only [kept]
    generalize keep target (sentOn target st) r = r' at stored
    obtain ⟨durable, pending, rfl, -⟩ := stored.frame
    obtain ⟨o, rest, head, answered⟩ | ⟨head, answered⟩ :=
      answerOutcome_cases
        { r with
          durable := durable, pending := pending, sent := r.sent ++ [sentOn target st] }
    · have taken := Served.outcomeTaken failing head stored
      rw [answered]
      exact taken
    · have numbered := Served.numbered failing head stored
      rw [answered]
      exact numbered

/-- Every request is served by one of the rules. -/
theorem served_perform (h : r.Numbered) (q : Request) :
    Served ⟨r, q, (q.perform r).1, (q.perform r).2⟩ := by
  cases q with
  | push reply => exact .pushed rfl
  | pushScalar column v => exact .pushed rfl
  | failNext reason => exact .armed
  | statement shape target st =>
    cases shape with
    | one => exact served_query (by decide) target st
    | many => exact served_query (by decide) target st
    | execute => exact served_change h target st
  | start =>
    simp only [Request.perform, Database.start, start, takeFailure]
    cases failing : r.failure with
    | some reason => exact .startFailed failing
    | none => exact .started failing
  | commit id =>
    have same : (r.forget id).failure = r.failure := rfl
    simp only [Request.perform, Database.commit, commit, takeFailure, same]
    cases failing : r.failure with
    | some reason => exact .commitFailed failing (takenOut_forget h id)
    | none => exact .committed failing (takenOut_forget h id)
  | rollback id =>
    have same : (r.forget id).failure = r.failure := rfl
    simp only [Request.perform, Database.rollback, rollback, takeFailure, same]
    cases failing : r.failure with
    | some reason => exact .rollbackFailed failing (takenOut_forget h id)
    | none => exact .rolledBack failing (takenOut_forget h id)

end

/-! ## What a moment changes -/

namespace Served

variable {m : Moment}

/-- What is taken and what still waits are what waited and what was prepared. -/
theorem queue (h : Served m) :
    m.before.replies ++ m.request.pushed = m.taken ++ m.after.replies := by
  have same (unpushed : m.request.pushed = []) (kept : m.after.replies = m.before.replies) :
      m.before.replies ++ m.request.pushed = m.taken ++ m.after.replies := by
    rw [unpushed, Moment.taken_of_same kept, kept, List.append_nil, List.nil_append]
  have first {reply : Reply} (unpushed : m.request.pushed = [])
      (head : m.before.replies = reply :: m.after.replies) :
      m.before.replies ++ m.request.pushed = m.taken ++ m.after.replies := by
    rw [unpushed, Moment.taken_of_tail head, head, List.append_nil, List.singleton_append]
  cases h with
  | @pushed r _ reply pushed =>
    have longer : r.replies.length - (r.replies ++ [reply]).length = 0 := by simp
    simp only [Moment.taken, longer, List.take_zero, List.nil_append, pushed]
  | rowsTaken _ _ head | outcomeTaken _ head _ => exact first rfl head
  | numbered _ _ kept =>
    obtain ⟨_, _, rfl, -⟩ := kept.frame
    exact same rfl rfl
  | armed | failed | noRows | started | startFailed | committed | commitFailed | rolledBack
  | rollbackFailed => exact same rfl rfl

/-- The numbers given so far stay without gaps and repetitions. -/
theorem numbers (h : Served m) :
    List.range' 1 m.before.lastInsertId ++ m.numbered = List.range' 1 m.after.lastInsertId := by
  have same (unnumbered : m.numbered = []) (kept : m.after.lastInsertId = m.before.lastInsertId) :
      List.range' 1 m.before.lastInsertId ++ m.numbered =
        List.range' 1 m.after.lastInsertId := by
    rw [unnumbered, kept, List.append_nil]
  have next (one : m.numbered = [m.before.lastInsertId + 1])
      (more : m.after.lastInsertId = m.before.lastInsertId + 1) :
      List.range' 1 m.before.lastInsertId ++ m.numbered =
        List.range' 1 m.after.lastInsertId := by
    rw [one, more, List.range'_1_concat, Nat.add_comm 1]
  cases h with
  | @rowsTaken _ shape | @noRows _ shape => exact same (by cases shape <;> rfl) rfl
  | outcomeTaken _ head kept =>
    obtain ⟨_, _, rfl, -⟩ := kept.frame
    refine same ?_ rfl
    rw [Moment.numbered, Moment.taken_of_tail head]
    rfl
  | numbered _ _ kept =>
    obtain ⟨_, _, rfl, -⟩ := kept.frame
    exact next (Moment.numbered_of_untaken rfl (Moment.taken_of_same rfl)) rfl
  | pushed | armed | failed | started | startFailed | committed | commitFailed | rolledBack
  | rollbackFailed => exact same rfl rfl

/-- The open transactions keep different numbers. -/
theorem numbered_after (h : Served m) (k : m.before.Numbered) : m.after.Numbered := by
  cases h with
  | pushed | armed | failed | rowsTaken | noRows | startFailed => exact k.mono (.refl _) rfl
  | outcomeTaken _ _ kept | numbered _ _ kept =>
    obtain ⟨durable, pending, rfl, same⟩ := kept.frame
    exact k.mono (same ▸ .refl _) rfl
  | @started r =>
    have fresh : r.starts + 1 ∉ r.pending.map (·.1) := fun member =>
      absurd (k.given _ member) (Nat.not_succ_le_self r.starts)
    refine ⟨?_, fun id member => ?_⟩
    · simp only [List.map_append, List.map_cons, List.map_nil]
      refine List.nodup_append.2 ⟨k.distinct, by simp, fun id old other new => ?_⟩
      rw [List.mem_singleton.1 new]
      rintro rfl
      exact fresh old
    · rw [List.map_append, List.mem_append] at member
      rcases member with old | new
      · exact Nat.le_succ_of_le (k.given id old)
      · exact Nat.le_of_eq (List.mem_singleton.1 new)
  | committed _ ended | commitFailed _ ended | rolledBack _ ended | rollbackFailed _ ended =>
    exact k.mono (ended.sublist.map _) rfl

end Served

/-! ## Whole runs -/

section Runs

variable {r : Recorder}

theorem numbered_perform (h : r.Numbered) (q : Request) : (q.perform r).2.Numbered :=
  (served_perform h q).numbered_after h

theorem served_of_mem (h : r.Numbered) {qs : List Request} {m : Moment} (k : m ∈ moments r qs) :
    Served m := by
  induction qs generalizing r with
  | nil => cases k
  | cons q qs ih =>
    rcases List.mem_cons.1 k with rfl | later
    · exact served_perform h q
    · exact ih (numbered_perform h q) later

/-- In every run what is taken and what waits at the end are what waited and what was prepared. -/
theorem queue_moments (h : r.Numbered) (qs : List Request) :
    r.replies ++ qs.flatMap Request.pushed =
      (moments r qs).flatMap Moment.taken ++ (performAll r qs).replies := by
  induction qs generalizing r with
  | nil => simp [moments, performAll]
  | cons q qs ih =>
    have step := (served_perform h q).queue
    have rest := ih (numbered_perform h q)
    rw [List.flatMap_cons, ← List.append_assoc, step, List.append_assoc, rest, moments,
      List.flatMap_cons, List.append_assoc]
    rfl

/-- In every run the numbers are given one after the other. -/
theorem numbers_moments (h : r.Numbered) (qs : List Request) :
    List.range' 1 r.lastInsertId ++ (moments r qs).flatMap Moment.numbered =
      List.range' 1 (performAll r qs).lastInsertId := by
  induction qs generalizing r with
  | nil => simp [moments, performAll]
  | cons q qs ih =>
    have step := (served_perform h q).numbers
    have rest := ih (numbered_perform h q)
    rw [moments, List.flatMap_cons, ← List.append_assoc, step, rest]
    rfl

end Runs

/-- In every run with a new recorder the replies that were taken and those that still wait are the
prepared ones in their order, the numbers given without a prepared outcome are 1, 2, 3 and so on,
and each request is served by one of the rules. -/
theorem replies_in_order (qs : List Request) :
    (moments {} qs).flatMap Moment.taken ++ (performAll {} qs).replies =
        qs.flatMap Request.pushed ∧
      (moments {} qs).flatMap Moment.numbered = List.range' 1 (performAll {} qs).lastInsertId ∧
      ∀ m ∈ moments {} qs, Served m :=
  ⟨(queue_moments numbered_new qs).symm, numbers_moments numbered_new qs,
    fun _ member => served_of_mem numbered_new member⟩

end Recorder

end QueryLoom
