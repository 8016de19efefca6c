import QueryLoom.Proofs.Ending

/-!
# Refusals

Which builders end without a statement, for which of their errors, and what is left behind.

* `Call.offence`, `Terminal.offence` : the error that a call, or the operation itself, records;
* `Terminal.lack` : what is missing at the end although nothing was recorded;
* `cause` : the error that decides;
* `refused_iff_cause` : an operation fails before anything is sent exactly when there is a cause,
  and then it leaves everything as it was but for one event.
-/

namespace QueryLoom

variable {β : Type}

/-! ## Causes -/

/-- The error that a call records: that of a condition which is neither left out nor can be
followed. -/
def Call.offence : Call → Option BuildError
  | .require skipZero c =>
    match c.outcome skipZero with
    | .rejected e => some e
    | _ => none
  | _ => none

/-- Whether a call restricts the rows. -/
def Call.restricts : Call → Bool
  | .require skipZero c =>
    match c.outcome skipZero with
    | .accepted _ => true
    | _ => false
  | .fragment _ => true
  | _ => false

/-- The columns of a payload as the caller listed them. -/
def Payload.entries : Payload → List (String × Value)
  | .listed entries | .ordered entries | .unordered entries => entries

namespace Terminal

/-- The error that an operation records on its own: a page must have room for a row. -/
def offence : Terminal β → Option BuildError
  | .getPage _ size _ =>
    if size = 0 then some (.pagination "page size must be at least 1") else none
  | _ => none

/-- What an operation misses at the end of a chain in which nothing was recorded. -/
def lack (t : Terminal β) (table : Option String) (calls : List Call) : Option BuildError :=
  if table = none then some .missingTable
  else
    match t with
    | .insert payload => if payload.entries = [] then some (.emptyPayload .insert) else none
    | .update payload => if payload.entries = [] then some (.emptyPayload .update) else none
    | .delete => if calls.any Call.restricts then none else some .unguardedDelete
    | _ => none

end Terminal

/-- The errors that a chain and the operation at its end record, the oldest first. -/
def recorded (calls : List Call) (t : Terminal β) : List BuildError :=
  calls.filterMap Call.offence ++ t.offence.toList

/-- The error for which an operation at the end of a chain sends nothing, if there is one. -/
def cause (table : Option String) (calls : List Call) (t : Terminal β) : Option BuildError :=
  (recorded calls t).head?.or (t.lack table calls)

/-! ## Drafts -/

namespace Draft

theorem errors_apply (d : Draft) (c : Call) :
    (d.apply c).errors = d.errors ++ c.offence.toList := by
  cases c with
  | require skipZero c =>
    simp only [apply, Call.offence]
    cases c.outcome skipZero <;> simp [follow, addError]
  | _ => simp [apply, Call.offence]

/-- A chain records the errors of its calls in their order, and forgets none. -/
theorem errors_applyAll (d : Draft) (calls : List Call) :
    (d.applyAll calls).errors = d.errors ++ calls.filterMap Call.offence :=
  applyAll_appends errors Call.offence errors_apply d calls

theorem table_applyAll (d : Draft) (calls : List Call) : (d.applyAll calls).table = d.table :=
  applyAll_induction (P := fun e => e.table = d.table)
    (fun e c same => (table_apply e c).trans same) rfl calls

theorem hasWhere_apply (d : Draft) (c : Call) :
    (d.apply c).hasWhere = (d.hasWhere || c.restricts) := by
  cases c with
  | require skipZero c =>
    simp only [apply, Call.restricts]
    cases c.outcome skipZero <;> simp [follow, addError, hasWhere]
  | _ => simp [apply, Call.restricts, hasWhere]

theorem hasWhere_applyAll (d : Draft) (calls : List Call) :
    (d.applyAll calls).hasWhere = (d.hasWhere || calls.any Call.restricts) := by
  induction calls generalizing d with
  | nil => simp
  | cons c cs ih => rw [applyAll_cons, ih, hasWhere_apply, List.any_cons, Bool.or_assoc]

end Draft

namespace Payload

theorem insert_ne_nil {α : Type} (name : String) (value : α) (entries : List (String × α)) :
    NameMap.insert name value entries ≠ [] := by
  cases entries with
  | nil => simp [NameMap.insert]
  | cons e rest =>
    rw [NameMap.insert]
    split
    · simp
    · split <;> simp

/-- A payload has no columns exactly when the caller listed none. -/
theorem columns_eq_nil_iff (p : Payload) : p.columns = [] ↔ p.entries = [] := by
  cases p with
  | listed entries => rfl
  | ordered entries =>
    rcases List.eq_nil_or_concat entries with rfl | ⟨es, e, rfl⟩
    · simp [columns, Payload.entries, NameMap.insertAll]
    · simp [columns, Payload.entries, NameMap.insertAll, insert_ne_nil]
  | unordered entries =>
    have same := (perm_unordered entries).length_eq
    rw [← List.length_eq_zero_iff, ← List.length_eq_zero_iff, same]
    rfl

end Payload

namespace Terminal

variable {table : Option String} {calls : List Call} {t : Terminal β}

/-- The draft at the end of a chain, as an operation compiles it. -/
abbrev ending (t : Terminal β) (table : Option String) (calls : List Call) : Draft :=
  t.draft (({ table := table } : Draft).applyAll calls)

theorem errors_ending : (t.ending table calls).errors = recorded calls t := by
  have chain : (({ table := table } : Draft).applyAll calls).errors =
      calls.filterMap Call.offence := by
    rw [Draft.errors_applyAll, List.nil_append]
  cases t with
  | getPage page size visit =>
    simp only [ending, draft, Draft.aggregating, Draft.paged, recorded, offence]
    split <;> simp [Draft.addError, chain]
  | _ => simp [ending, draft, recorded, offence, Draft.firstRow, Draft.only, Draft.aggregating,
      Draft.carrying, chain]

theorem firstError_ending : (t.ending table calls).firstError = (recorded calls t).head? := by
  rw [Draft.firstError, errors_ending]

/-- A chain has a condition exactly when one of its calls restricts the rows. -/
theorem hasWhere_chain :
    (({ table := table } : Draft).applyAll calls).hasWhere = calls.any Call.restricts := by
  rw [Draft.hasWhere_applyAll]
  rfl

/-- What is missing is what the compiler reports. -/
theorem compile_of_lack {e : BuildError} (h : t.lack table calls = some e) :
    (t.ending table calls).compile t.kind = .error e := by
  have chosen : (t.ending table calls).table = table := by
    rw [table_draft, Draft.table_applyAll]
  cases table with
  | none =>
    cases h
    simp only [Draft.compile, chosen]
  | some name =>
    simp only [Draft.compile, chosen]
    cases t with
    | insert payload | update payload =>
      simp only [lack, reduceCtorEq, if_false] at h
      split at h
      · rename_i empty
        cases h
        simp [kind, ending, draft, Draft.carrying, (payload.columns_eq_nil_iff).2 empty]
      · cases h
    | delete =>
      simp only [lack, reduceCtorEq, if_false] at h
      split at h
      · cases h
      · rename_i unrestricted
        cases h
        exact if_neg (by rwa [ending, draft, hasWhere_chain])
    | _ => simp [lack] at h

/-- When nothing is missing there is a statement. -/
theorem compile_of_no_lack (h : t.lack table calls = none) :
    ∃ st, (t.ending table calls).compile t.kind = .ok st := by
  have chosen : (t.ending table calls).table = table := by
    rw [table_draft, Draft.table_applyAll]
  cases table with
  | none => cases h
  | some name =>
    simp only [Draft.compile, chosen]
    cases t with
    | insert payload | update payload =>
      simp only [lack, reduceCtorEq, if_false] at h
      split at h
      · cases h
      · rename_i some
        refine ⟨_, if_neg ?_⟩
        rw [List.isEmpty_iff]
        exact mt (payload.columns_eq_nil_iff).1 some
    | delete =>
      simp only [lack, reduceCtorEq, if_false] at h
      split at h
      · rename_i some
        exact ⟨_, if_pos (by rwa [ending, draft, hasWhere_chain])⟩
      · cases h
    | _ => exact ⟨_, rfl⟩

end Terminal

/-! ## Refusals in the log -/

/-- Whether an event reports that nothing is sent. -/
def Event.isRefusal : Event → Bool
  | .refused .. => true
  | _ => false

namespace Session

variable {σ : Type}

/-- The reports that nothing is sent. -/
def refusals (s : Session σ) : List Event := s.events.filter Event.isRefusal

theorem refusals_log (s : Session σ) (e : Event) :
    (s.log e).refusals = s.refusals ++ [e].filter Event.isRefusal := by
  simp [refusals, log]

@[simp] theorem refusals_acquire (s : Session σ) : s.acquire.2.refusals = s.refusals := by
  simp [acquire, refusals, log, Event.isRefusal]

@[simp] theorem refusals_release (s : Session σ) (d : Draft) :
    (s.release d).refusals = s.refusals := by
  unfold release
  split <;> simp [refusals, log, Event.isRefusal]

@[simp] theorem refusals_close (s : Session σ) (b : Builder) :
    (s.close b).refusals = s.refusals := refusals_release s b.draft

/-- Sending a builder in which nothing was recorded reports no refusal. -/
theorem refusals_send {α : Type} {s : Session σ} {b : Builder} {kind : Statement.Kind}
    {refuse : Error → α} {answer : Session σ → Statement → α × Session σ}
    (clean : b.draft.firstError = none)
    (h : ∀ s st, (answer s st).2.refusals = s.refusals) :
    (s.send b kind refuse answer).2.refusals = s.refusals := by
  cases compiled : b.draft.compile kind with
  | error e => rw [send_of_error (prepare_of_compile_error clean compiled), refusals_close]
  | ok st => rw [send_of_ok (prepare_of_compile_ok clean compiled), refusals_close, h]

variable [Database σ] {s : Session σ} {b : Builder}

@[simp] theorem refusals_queryOne (s : Session σ) (target : Target) (st : Statement) :
    (s.queryOne target st).2.refusals = s.refusals := by
  simp [queryOne, dispatch, refusals, log, Event.isRefusal]

@[simp] theorem refusals_queryMany (s : Session σ) (target : Target) (st : Statement) :
    (s.queryMany target st).2.refusals = s.refusals := by
  simp [queryMany, dispatch, refusals, log, Event.isRefusal]

@[simp] theorem refusals_execute (s : Session σ) (target : Target) (st : Statement) :
    (s.execute target st).2.refusals = s.refusals := by
  simp [execute, dispatch, refusals, log, Event.isRefusal]

theorem refusals_sendOne (clean : b.draft.firstError = none) :
    (s.sendOne b).2.refusals = s.refusals :=
  refusals_send clean fun s st => refusals_queryOne s b.target st

theorem refusals_sendMany {visit : Visitor β} {memory : β} (clean : b.draft.firstError = none) :
    (s.sendMany b visit memory).2.refusals = s.refusals := by
  rw [sendMany_eq]
  exact refusals_send clean fun s st => refusals_queryMany s b.target st

theorem refusals_sendAll {α : Type} {read : Row → Except Error α}
    (clean : b.draft.firstError = none) : (s.sendAll b read).2.refusals = s.refusals := by
  rw [sendAll_eq]
  exact refusals_send clean fun s st => refusals_queryMany s b.target st

theorem refusals_sendChange {kind : Statement.Kind} (clean : b.draft.firstError = none) :
    (s.sendChange b kind).2.refusals = s.refusals :=
  refusals_send clean fun s st => refusals_execute s b.target st

theorem refusals_getPage {page size : UInt64} {visit : Visitor β} {memory : β}
    (clean : (b.draft.paged size).firstError = none) :
    (s.getPage b page size visit memory).2.refusals = s.refusals := by
  let counting := (Terminal.getPage page size visit).builder b
  have counted : (s.acquire.2.sendOne counting).2.refusals = s.refusals := by
    rw [refusals_sendOne (b := counting) clean, refusals_acquire]
  rcases getPage_session (s := s) clean with ended | ⟨offset, ended⟩
  · rw [ended, refusals_close, counted]
  · have windowed : ((b.draft.paged size).window offset size).firstError = none := clean
    rw [ended, refusals_sendMany windowed, counted]

/-- An operation reports no refusal when nothing was recorded. -/
theorem refusals_finish {t : Terminal β} {memory : β}
    (clean : (t.draft b.draft).firstError = none) :
    (s.finish b t memory).2.refusals = s.refusals := by
  cases t with
  | firstRow | first _ | value _ _ | count | sum _ | max _ _ | min _ _ | «exists» =>
    exact refusals_sendOne clean
  | get visit => exact refusals_sendMany clean
  | fetchAll form => exact refusals_sendAll clean
  | getPage page size visit => exact refusals_getPage clean
  | insert _ | update _ | delete => exact refusals_sendChange clean

end Session

/-! ## Endings of chains -/

/-- A builder whose chain starts with nothing but a table, or without one. -/
abbrev Builder.chained (target : Target) (table : Option String) (calls : List Call) : Builder :=
  ⟨target, ({ table := table } : Draft).applyAll calls⟩

namespace Session

section

variable {σ : Type} {s : Session σ} {target : Target} {table : Option String} {calls : List Call}
  {t : Terminal β}

/-- Without a cause there is a statement. -/
theorem prepare_of_no_cause (h : cause table calls t = none) :
    ∃ st, s.prepare (t.builder (.chained target table calls)) t.kind = (.ok st, s) := by
  obtain ⟨nothing, complete⟩ := Option.or_eq_none_iff.1 h
  have clean : (t.ending table calls).firstError = none := by
    rw [Terminal.firstError_ending, nothing]
  obtain ⟨st, compiled⟩ := Terminal.compile_of_no_lack complete
  exact ⟨st, prepare_of_compile_ok clean compiled⟩

variable [Database σ]

/-- A cause is the error of the operation, and nothing reaches the database or a visitor. -/
theorem finish_of_cause {e : BuildError} (h : cause table calls t = some e) (memory : β) :
    (s.finish (.chained target table calls) t memory).1 = (.error (.build e), memory) ∧
      (s.finish (.chained target table calls) t memory).2.database = s.database := by
  cases known : recorded calls t with
  | cons e' rest =>
    have same : e' = e := by simpa [cause, known] using h
    subst same
    have first : (t.ending table calls).firstError = some e' := by
      rw [Terminal.firstError_ending, known]
      rfl
    rw [finish_of_firstError first]
    exact ⟨rfl, database_close _ _⟩
  | nil =>
    have clean : (t.ending table calls).firstError = none := by
      rw [Terminal.firstError_ending, known]
      rfl
    have lacking : t.lack table calls = some e := by simpa [cause, known] using h
    exact finish_of_compile_error clean (Terminal.compile_of_lack lacking) memory

/-- The log gets one report when something was recorded, which names the first error, and none
otherwise. -/
theorem refusals_finish_chained (memory : β) :
    (s.finish (.chained target table calls) t memory).2.refusals = s.refusals ++
      match recorded calls t with
      | [] => []
      | e :: rest => [.refused (table.getD "") (e :: rest).length e] := by
  cases known : recorded calls t with
  | cons e rest =>
    have first : (t.ending table calls).firstError = some e := by
      rw [Terminal.firstError_ending, known]
      rfl
    rw [finish_of_firstError first, refusals_close, refusals_log, Draft.table_applyAll,
      Terminal.errors_ending, known]
    rfl
  | nil =>
    have clean : (t.ending table calls).firstError = none := by
      rw [Terminal.firstError_ending, known]
      rfl
    rw [List.append_nil, refusals_finish clean]

end

/-- A recorder that gets a statement has received more than before. -/
theorem sent_finish_ne {s : Session Recorder} {b : Builder} {t : Terminal β} {st : Statement}
    (h : s.prepare (t.builder b) t.kind = (.ok st, s)) (memory : β) :
    (s.finish b t memory).2.database.sent ≠ s.database.sent := by
  by_cases change : t.kind = .select
  · obtain ⟨sts, queried, some⟩ := s.asked_finish b change memory
    obtain ⟨replies, failure, frame⟩ := Recorder.Queried.frame queried
    have asked : sts ≠ [] := some ⟨st, change ▸ h⟩
    rw [frame]
    simpa using asked
  · rw [(finish_of_change change h memory).1]
    simp [Database.execute, Recorder.sent_change]

end Session

/-! ## Main statement -/

/-- An operation at the end of a chain fails with a construction error before anything is sent
exactly when there is a cause, and with that error. Then the database is what it was and no row was
shown to a visitor. The log gets one report of a refusal when something was recorded, and none
otherwise. -/
theorem refused_iff_cause (s : Session Recorder) (target : Target) (table : Option String)
    (calls : List Call) (t : Terminal β) (memory : β) :
    let ended := s.finish (.chained target table calls) t memory
    (∀ e, ended.1.1 = .error (.build e) ∧ ended.2.database.sent = s.database.sent ↔
        cause table calls t = some e) ∧
      (∀ e, cause table calls t = some e →
        ended.2.database = s.database ∧ ended.1.2 = memory) ∧
      ended.2.refusals = s.refusals ++
        match recorded calls t with
        | [] => []
        | e :: rest => [.refused (table.getD "") (e :: rest).length e] := by
  intro ended
  have ends : ∀ e, cause table calls t = some e →
      ended.1 = (.error (.build e), memory) ∧ ended.2.database = s.database :=
    fun e decided => Session.finish_of_cause decided memory
  refine ⟨fun e => ⟨fun ⟨failed, unsent⟩ => ?_, fun decided => ?_⟩, fun e decided => ?_,
    Session.refusals_finish_chained memory⟩
  · cases decided : cause table calls t with
    | none =>
      -- Without a cause there is a statement, so something was sent after all.
      obtain ⟨st, prepared⟩ :
          ∃ st, s.prepare (t.builder (.chained target table calls)) t.kind = (.ok st, s) :=
        Session.prepare_of_no_cause decided
      exact absurd unsent (Session.sent_finish_ne prepared memory)
    | some e' =>
      rw [(ends e' decided).1] at failed
      cases failed
      rfl
  · obtain ⟨failed, unchanged⟩ := ends e decided
    exact ⟨congrArg Prod.fst failed, congrArg Recorder.sent unchanged⟩
  · obtain ⟨failed, unchanged⟩ := ends e decided
    exact ⟨unchanged, congrArg Prod.snd failed⟩

/-- What a call recorded comes before the page without room and before the missing table. -/
example (s : Session Recorder) (visit : Visitor Unit) :
    let calls := [.limit 3, .require true (.compare "age" (.spelled "~") (.int32 1)), .offset 1]
    (s.finish ⟨.connection, ({} : Draft).applyAll calls⟩ (.getPage 1 0 visit) ()).1.1 =
      .error (.build (.unknownOperator "~")) := by rfl

end QueryLoom
