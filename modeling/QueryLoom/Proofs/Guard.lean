import QueryLoom.Proofs.Outcomes
import QueryLoom.Proofs.Paging

/-!
# Guarded deletes

Which chains may end in a `DELETE`, and the part that restricts its rows, which the `SELECT` and the
`UPDATE` of the same chain have in common with it.

* `HasRejected`, `HasAccepted` : whether a condition of the chain was rejected, and whether there is
  one that restricts the rows;
* `restrictionOf`, `restrictionArguments` : the part of a statement that restricts the rows, and
  its arguments, as they follow from the calls;
* `cause_delete_eq_none_iff` : the guard;
* `Draft.whereText_chain`, `Draft.whereArguments_chain` : every statement of a chain restricts the
  rows in the same way;
* `delete_guarded` : what becomes of a `DELETE`, and what the three statements share.
-/

namespace QueryLoom

/-! ## Conditions of a chain -/

namespace Call

/-- The predicate that a call adds. -/
def predicate? : Call → Option Predicate
  | .require skipZero c =>
    match c.outcome skipZero with
    | .accepted p => some p
    | _ => none
  | _ => none

/-- The fragment that a call adds. -/
def fragment? : Call → Option String
  | .fragment text => some text
  | _ => none

variable {c : Call}

theorem predicate?_eq_some_iff {p : Predicate} :
    c.predicate? = some p ↔
      ∃ skipZero condition, c = .require skipZero condition ∧
        condition.Settled skipZero (.accepted p) := by
  simp only [Condition.settled_iff_outcome]
  cases c with
  | require skipZero condition =>
    cases found : condition.outcome skipZero <;> simp [predicate?, found]
  | _ => simp [predicate?]

theorem fragment?_eq_some_iff {text : String} : c.fragment? = some text ↔ c = .fragment text := by
  cases c with
  | fragment text' => simp [fragment?]
  | _ =>
    constructor
    · rintro ⟨⟩
    · rintro ⟨⟩

/-- A call restricts the rows when it adds a predicate or a fragment. -/
theorem restricts_eq_false_iff :
    c.restricts = false ↔ c.predicate? = none ∧ c.fragment? = none := by
  cases c with
  | require skipZero condition =>
    simp only [restricts, predicate?, fragment?]
    cases condition.outcome skipZero <;> simp
  | _ => simp [restricts, predicate?, fragment?]

end Call

/-- The conditions of a chain as they are written: those that were accepted, then the fragments. -/
def conditionsOf (calls : List Call) : List String :=
  (calls.filterMap Call.predicate?).map Predicate.text ++ calls.filterMap Call.fragment?

/-- The part of a statement that restricts the rows: nothing without conditions. -/
def restrictionOf (calls : List Call) : String :=
  if conditionsOf calls = [] then "" else " WHERE " ++ " AND ".intercalate (conditionsOf calls)

/-- The arguments of the part that restricts the rows. Fragments have none. -/
def restrictionArguments (calls : List Call) : List Value :=
  (calls.filterMap Call.predicate?).flatMap Predicate.values

/-- The `DELETE` that a chain stands for. -/
def deleteOf (table : String) (calls : List Call) : Statement :=
  ⟨"DELETE FROM " ++ table ++ restrictionOf calls, restrictionArguments calls⟩

/-- A condition of the chain was rejected. -/
def HasRejected (calls : List Call) : Prop :=
  ∃ skipZero c e, Call.require skipZero c ∈ calls ∧ c.Settled skipZero (.rejected e)

/-- Something restricts the rows: a condition that was neither left out nor rejected, or a
fragment. -/
def HasAccepted (calls : List Call) : Prop :=
  (∃ skipZero c p, Call.require skipZero c ∈ calls ∧ c.Settled skipZero (.accepted p)) ∨
    ∃ text, Call.fragment text ∈ calls

section

variable {calls : List Call}

/-- The rejected conditions of a chain are the calls that record an error. -/
theorem not_hasRejected_iff : ¬ HasRejected calls ↔ calls.filterMap Call.offence = [] := by
  simp only [List.filterMap_eq_nil_iff, Option.eq_none_iff_forall_ne_some]
  constructor
  · intro clean c member e recorded
    obtain ⟨skipZero, condition, rfl, rejected⟩ := Call.offence_eq_some_iff.1 recorded
    exact clean ⟨skipZero, condition, e, member, rejected⟩
  · rintro clean ⟨skipZero, condition, e, member, rejected⟩
    exact clean _ member e (Call.offence_eq_some_iff.2 ⟨skipZero, condition, rfl, rejected⟩)

/-- Without an accepted condition nothing is written. -/
theorem conditionsOf_eq_nil_iff : conditionsOf calls = [] ↔ ¬ HasAccepted calls := by
  simp only [conditionsOf, List.append_eq_nil_iff, List.map_eq_nil_iff, List.filterMap_eq_nil_iff,
    Option.eq_none_iff_forall_ne_some]
  constructor
  · rintro ⟨structured, raw⟩ (⟨skipZero, condition, p, member, accepted⟩ | ⟨text, member⟩)
    · have added := Call.predicate?_eq_some_iff.2 ⟨skipZero, condition, rfl, accepted⟩
      exact structured _ member p added
    · exact raw _ member text rfl
  · refine fun unrestricted => ⟨fun c member p added => ?_, fun c member text added => ?_⟩
    · obtain ⟨skipZero, condition, rfl, accepted⟩ := Call.predicate?_eq_some_iff.1 added
      exact unrestricted (.inl ⟨skipZero, condition, p, member, accepted⟩)
    · obtain rfl := Call.fragment?_eq_some_iff.1 added
      exact unrestricted (.inr ⟨text, member⟩)

/-- Without an accepted condition no rows are left out, and only then. -/
theorem restrictionOf_eq_empty_iff : restrictionOf calls = "" ↔ ¬ HasAccepted calls := by
  rw [← conditionsOf_eq_nil_iff]
  by_cases none : conditionsOf calls = []
  · simp [restrictionOf, none]
  · simp [restrictionOf, none]

/-- A chain has an accepted condition exactly when one of its calls restricts the rows. -/
theorem hasAccepted_iff : HasAccepted calls ↔ calls.any Call.restricts = true := by
  rw [← not_iff_not, ← conditionsOf_eq_nil_iff, conditionsOf, List.append_eq_nil_iff,
    List.map_eq_nil_iff, List.filterMap_eq_nil_iff, List.filterMap_eq_nil_iff, Bool.not_eq_true,
    List.any_eq_false, ← forall₂_and]
  simp only [Bool.not_eq_true, Call.restricts_eq_false_iff]

end

namespace Draft

theorem predicates_applyAll (d : Draft) (calls : List Call) :
    (d.applyAll calls).predicates = d.predicates ++ calls.filterMap Call.predicate? := by
  refine applyAll_appends predicates Call.predicate? (fun d c => ?_) d calls
  cases c with
  | require skipZero condition =>
    simp only [apply, Call.predicate?]
    cases condition.outcome skipZero <;> simp [follow, addError]
  | _ => simp [apply, Call.predicate?]

theorem fragments_applyAll (d : Draft) (calls : List Call) :
    (d.applyAll calls).fragments = d.fragments ++ calls.filterMap Call.fragment? := by
  refine applyAll_appends fragments Call.fragment? (fun d c => ?_) d calls
  cases c with
  | require skipZero condition =>
    simp only [apply, Call.fragment?]
    cases condition.outcome skipZero <;> simp [follow, addError]
  | _ => simp [apply, Call.fragment?]

/-- The part that restricts the rows follows from the calls. -/
theorem whereText_chain (table : Option String) (calls : List Call) :
    (({ table := table } : Draft).applyAll calls).whereText = restrictionOf calls := by
  have written : (({ table := table } : Draft).applyAll calls).conditionTexts =
      conditionsOf calls := by
    rw [conditionTexts, predicates_applyAll, fragments_applyAll]
    rfl
  rw [whereText, written, Terminal.hasWhere_chain]
  by_cases some : HasAccepted calls
  · have conditions := conditionsOf_eq_nil_iff.not.2 (not_not.2 some)
    rw [if_pos (hasAccepted_iff.1 some), restrictionOf, if_neg conditions]
  · rw [if_neg (mt hasAccepted_iff.2 some), restrictionOf_eq_empty_iff.2 some]

theorem whereArguments_chain (table : Option String) (calls : List Call) :
    (({ table := table } : Draft).applyAll calls).whereArguments = restrictionArguments calls := by
  rw [whereArguments, predicates_applyAll]
  rfl

variable (table : String) (calls : List Call)

theorem compile_select_chain :
    let d := ({ table := some table } : Draft).applyAll calls
    d.compile .select =
      .ok ⟨"SELECT " ++ d.fieldText ++ " FROM " ++ table ++ d.joinText ++ restrictionOf calls ++
        d.groupText ++ d.orderText ++ d.pagingText, restrictionArguments calls⟩ := by
  simp only [compile, table_applyAll, selectText, aggregate_applyAll, sourceText, whereText_chain,
    whereArguments_chain, String.append_assoc]

theorem compile_update_chain (payload : Payload) :
    ((({ table := some table } : Draft).applyAll calls).carrying payload).compile .update =
      if payload.entries = [] then .error (.emptyPayload .update)
      else
        .ok ⟨"UPDATE " ++ table ++ " SET " ++
            ",".intercalate (payload.columns.map fun c => c.1 ++ "=?") ++ restrictionOf calls,
          payload.columns.map (·.2) ++ restrictionArguments calls⟩ := by
  let d := (({ table := some table } : Draft).applyAll calls).carrying payload
  have chosen : d.table = some table := table_applyAll _ calls
  have written : d.whereText = restrictionOf calls := whereText_chain _ calls
  have bound : d.whereArguments = restrictionArguments calls := whereArguments_chain _ calls
  have carried : d.payload = payload.columns := rfl
  show d.compile .update = _
  simp only [compile, chosen, carried, List.isEmpty_iff, payload.columns_eq_nil_iff, updateText,
    payloadArguments, written, bound]

theorem compile_delete_chain (allowed : HasAccepted calls) :
    (({ table := some table } : Draft).applyAll calls).compile .delete =
      .ok (deleteOf table calls) := by
  simp only [compile, table_applyAll, Terminal.hasWhere_chain, hasAccepted_iff.1 allowed, if_true,
    deleteText, whereText_chain, whereArguments_chain, deleteOf]

end Draft

/-! ## Deletes -/

variable {β : Type} {table : String} {calls : List Call}

/-- Nothing stands in the way of a `DELETE` when no condition was rejected and one was accepted. -/
theorem cause_delete_eq_none_iff :
    cause (some table) calls (.delete : Terminal β) = none ↔
      ¬ HasRejected calls ∧ HasAccepted calls := by
  rw [not_hasRejected_iff, hasAccepted_iff, cause, Option.or_eq_none_iff, List.head?_eq_none_iff]
  simp [recorded, Terminal.offence, Terminal.lack]

/-- Without a rejected condition it is an accepted one that is missing. -/
theorem cause_delete_eq_unguarded (clean : ¬ HasRejected calls) (none : ¬ HasAccepted calls) :
    cause (some table) calls (.delete : Terminal β) = some .unguardedDelete := by
  rw [not_hasRejected_iff] at clean
  rw [hasAccepted_iff, Bool.not_eq_true] at none
  simp [cause, recorded, Terminal.offence, Terminal.lack, clean, none]

namespace Session

variable {σ : Type} [Database σ]

/-- A chain that satisfies the guard ends in the `DELETE` that it stands for, and gives the number
of its rows. -/
theorem finish_delete_of_allowed (s : Session σ) (target : Target) (memory : β)
    (clean : ¬ HasRejected calls) (accepted : HasAccepted calls) :
    let ended := s.finish (.chained target (some table) calls) (.delete : Terminal β) memory
    ended.2.database = (Database.execute target (deleteOf table calls) s.database).2 ∧
      ended.1.1 =
        (Database.execute target (deleteOf table calls) s.database).1.map Outcome.affected := by
  have nothing : (({ table := some table } : Draft).applyAll calls).firstError = none := by
    rw [Draft.firstError, Draft.errors_applyAll, not_hasRejected_iff.1 clean]
    rfl
  have ready : s.prepare (.chained target (some table) calls) .delete =
      (.ok (deleteOf table calls), s) :=
    prepare_of_compile_ok nothing (Draft.compile_delete_chain table calls accepted)
  simp only [finish, sendChange, send_of_ok ready, database_close]
  exact ⟨rfl, rfl⟩

/-- A chain that does not satisfy the guard ends without a statement. -/
theorem finish_delete_of_refused (s : Session σ) (target : Target) (memory : β)
    (h : ¬ (¬ HasRejected calls ∧ HasAccepted calls)) :
    let ended := s.finish (.chained target (some table) calls) (.delete : Terminal β) memory
    ended.2.database = s.database ∧ ∃ e, ended.1.1 = .error (.build e) := by
  obtain ⟨e, caused⟩ := Option.ne_none_iff_exists'.1 (mt cause_delete_eq_none_iff.1 h)
  intro ended
  have failed : ended.1 = (.error (.build e), memory) := (finish_of_cause caused memory).1
  exact ⟨(finish_of_cause caused memory).2, e, congrArg Prod.fst failed⟩

end Session

/-- A recorder reports no fault of a builder. -/
theorem Recorder.change_ne_build (target : Target) (st : Statement) (r : Recorder)
    (e : BuildError) :
    (change target st r).1.map Outcome.affected ≠ .error (.build e) := by
  cases h : r.failure with
  | some reason => simp [change_of_some h, Except.map]
  | none =>
    obtain ⟨o, replies, lastInsertId, changed⟩ := change_of_none h target st
    simp [changed, Except.map]

/-! ## Main statement -/

/-- A `DELETE` at the end of a chain is executed exactly when no condition of the chain was rejected
and one was accepted; otherwise it fails without anything being sent. The part of it that restricts
the rows is written in the `SELECT` and in the `UPDATE` of the same chain as well, with the same
arguments. In a chain without a rejected condition these restrict nothing exactly when the `DELETE`
is refused for that. -/
theorem delete_guarded (table : String) (calls : List Call) :
    let d := ({ table := some table } : Draft).applyAll calls
    let delete : Statement :=
      ⟨"DELETE FROM " ++ table ++ restrictionOf calls, restrictionArguments calls⟩
    (∀ {σ : Type} [Database σ] (s : Session σ) (target : Target) (memory : β),
      let ended := s.finish ⟨target, d⟩ (.delete : Terminal β) memory
      (¬ HasRejected calls ∧ HasAccepted calls →
        ended.2.database = (Database.execute target delete s.database).2 ∧
          ended.1.1 = (Database.execute target delete s.database).1.map Outcome.affected) ∧
      (¬ (¬ HasRejected calls ∧ HasAccepted calls) →
        ended.2.database = s.database ∧ ∃ e, ended.1.1 = .error (.build e))) ∧
    (∀ (s : Session Recorder) (target : Target) (memory : β),
      let ended := s.finish ⟨target, d⟩ (.delete : Terminal β) memory
      (ended.2.database.sent = s.database.sent ++ [Recorder.sentOn target delete] ↔
        ¬ HasRejected calls ∧ HasAccepted calls) ∧
      (¬ HasRejected calls →
        (ended.1.1 = .error (.build .unguardedDelete) ↔ restrictionOf calls = ""))) ∧
    d.compile .select =
      .ok ⟨"SELECT " ++ d.fieldText ++ " FROM " ++ table ++ d.joinText ++ restrictionOf calls ++
        d.groupText ++ d.orderText ++ d.pagingText, restrictionArguments calls⟩ ∧
    ∀ payload : Payload,
      (d.carrying payload).compile .update =
        if payload.entries = [] then .error (.emptyPayload .update)
        else
          .ok ⟨"UPDATE " ++ table ++ " SET " ++
              ",".intercalate (payload.columns.map fun c => c.1 ++ "=?") ++ restrictionOf calls,
            payload.columns.map (·.2) ++ restrictionArguments calls⟩ := by
  refine ⟨fun s target memory => ⟨fun h => s.finish_delete_of_allowed target memory h.1 h.2,
      s.finish_delete_of_refused target memory⟩,
    fun s target memory => ⟨⟨fun received => ?_, fun h => ?_⟩, fun clean => ?_⟩,
    Draft.compile_select_chain table calls, Draft.compile_update_chain table calls⟩
  · by_contra h
    rw [(s.finish_delete_of_refused target memory h).1] at received
    simp at received
  · rw [(s.finish_delete_of_allowed target memory h.1 h.2).1]
    exact Recorder.sent_change target _ s.database
  · rw [restrictionOf_eq_empty_iff]
    constructor
    · intro failed accepted
      rw [(s.finish_delete_of_allowed target memory clean accepted).2] at failed
      exact Recorder.change_ne_build _ _ _ _ failed
    · intro unrestricted
      have caused : cause (some table) calls (.delete : Terminal β) = some .unguardedDelete :=
        cause_delete_eq_unguarded clean unrestricted
      exact congrArg Prod.fst (Session.finish_of_cause caused memory).1

/-- A condition about a zero and a list without elements restrict nothing, and a `DELETE` after them
is refused. -/
example :
    (({ table := some "orders" } : Draft).applyAll
        [.require true (.equals "id" (.int32 0)), .require false (.among "state" false [])]).compile
      .delete = .error .unguardedDelete := by rfl

end QueryLoom
