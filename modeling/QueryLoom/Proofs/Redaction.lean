import QueryLoom.Proofs.Likeness

/-!
# Redaction

What is left of statements, and of everything that they are made from, when the bound values are
taken away.

* `Draft.redact`, `Statement.redact`, `Recorder.redact` : every value becomes NULL;
* `Value.Alike`, `Condition.Alike`, `Payload.Alike` : what may be told of values all the same;
* `Draft.redact_apply` : like calls leave drafts in which only values differ;
* `Draft.compile_redact` : the values do not go into the text;
* `Recorder.query_redact`, `Recorder.change_redact` : nor do they go into an answer.
-/

namespace QueryLoom

/-! ## Without values -/

/-- Nothing is left of a value. -/
def Value.redact (_ : Value) : Value := .null

/-- What is left of a predicate: its field, its operator and the number of its values. -/
def Predicate.redact : Predicate → Predicate
  | .scalar field op v => .scalar field op v.redact
  | .list field negated vs => .list field negated (vs.map Value.redact)
  | .between field lo hi => .between field lo.redact hi.redact

/-- What is left of columns with their values. -/
def redactColumns (columns : List (String × Value)) : List (String × Value) :=
  columns.map fun c => (c.1, c.2.redact)

/-- What is left of a draft. -/
def Draft.redact (d : Draft) : Draft :=
  { d with predicates := d.predicates.map Predicate.redact, payload := redactColumns d.payload }

/-- What is left of a statement: its text and the number of its arguments. -/
def Statement.redact (s : Statement) : Statement := { s with params := s.params.map Value.redact }

/-- What is left of a statement as it was received. -/
def Sent.redact (s : Sent) : Sent := { s with params := s.params.map Value.redact }

/-- What is left of what a recorder remembers. Replies are not values of statements, and stay. -/
def Recorder.redact (r : Recorder) : Recorder :=
  { r with
    sent := r.sent.map Sent.redact
    durable := r.durable.map Sent.redact
    pending := r.pending.map fun p => (p.1, p.2.map Sent.redact) }

theorem Statement.sql_redact (s : Statement) : s.redact.sql = s.sql := rfl

theorem map_redact (vs : List Value) : vs.map Value.redact = List.replicate vs.length .null :=
  List.map_const'

/-! ## What may be told of values -/

/-- Values of one kind, both zero or both not. -/
def Value.Alike (v w : Value) : Prop := v.typeName = w.typeName ∧ v.isZero = w.isZero

/-- Columns of one name with values that are alike. -/
def AlikeColumns (a b : String × Value) : Prop := a.1 = b.1 ∧ a.2.Alike b.2

/-- Conditions that differ in their values only. A text that is to be a number may be another one
only if both are numbers, and a text in a pattern must be empty in both or in none. -/
inductive Condition.Alike : Condition → Condition → Prop where
  | compare (field : String) (op : Operator.Given) {v w : Value} (h : v.Alike w) :
      Alike (.compare field op v) (.compare field op w)
  | number (field : String) (op : Operator.Given) {a b : String}
      (h : a = b ∨ (∃ m, Text.IntRange.int64.read a.toList = .ok m) ∧
        ∃ n, Text.IntRange.int64.read b.toList = .ok n) :
      Alike (.number field op a) (.number field op b)
  | numeral (field : String) (op : Operator.Given) {m n : Int64} (h : m = 0 ↔ n = 0) :
      Alike (.numeral field op m) (.numeral field op n)
  | among (field : String) (negated : Bool) {vs ws : List Value}
      (h : List.Forall₂ Value.Alike vs ws) :
      Alike (.among field negated vs) (.among field negated ws)
  | like (field : String) (matching : Matching) {a b : String} (h : a = "" ↔ b = "") :
      Alike (.like field matching a) (.like field matching b)
  | between (field : String) {lo lo' hi hi' : Value} (low : lo.Alike lo') (high : hi.Alike hi') :
      Alike (.between field lo hi) (.between field lo' hi')

/-- Calls that differ in values only. -/
inductive Call.Alike : Call → Call → Prop where
  | same (c : Call) : Alike c c
  | require (skipZero : Bool) {c c' : Condition} (h : c.Alike c') :
      Alike (.require skipZero c) (.require skipZero c')

/-- Payloads that differ in values only. A map without an order of its own may list its entries in
another order. -/
inductive Payload.Alike : Payload → Payload → Prop where
  | listed {es es' : List (String × Value)} (h : List.Forall₂ AlikeColumns es es') :
      Alike (.listed es) (.listed es')
  | ordered {es es' : List (String × Value)} (h : List.Forall₂ AlikeColumns es es') :
      Alike (.ordered es) (.ordered es')
  | unordered {es fs es' : List (String × Value)} (order : es.Perm fs)
      (h : List.Forall₂ AlikeColumns fs es') : Alike (.unordered es) (.unordered es')

theorem Value.Alike.refl (v : Value) : v.Alike v := ⟨rfl, rfl⟩

theorem Payload.Alike.refl (p : Payload) : p.Alike p := by
  have same : ∀ es : List (String × Value), List.Forall₂ AlikeColumns es es := fun es =>
    List.forall₂_same.2 fun c _ => ⟨rfl, Value.Alike.refl c.2⟩
  cases p with
  | listed es => exact .listed (same es)
  | ordered es => exact .ordered (same es)
  | unordered es => exact .unordered (.refl es) (same es)

/-! ## Conditions -/

namespace Condition

/-- What is left of the outcome of a condition. -/
def Outcome.redact : Outcome → Outcome
  | .skipped => .skipped
  | .accepted p => .accepted p.redact
  | .rejected e => .rejected e

theorem redact_ofExcept (x : Except BuildError Predicate) :
    (Outcome.ofExcept x).redact = .ofExcept (x.map Predicate.redact) := by
  cases x <;> rfl

theorem not_isEmpty_of_read {text : String} {n : Int}
    (h : Text.IntRange.int64.read text.toList = .ok n) : text.isEmpty = false := by
  cases empty : text.isEmpty with
  | false => rfl
  | true =>
    rw [String.isEmpty_iff] at empty
    subst empty
    cases h

variable {c c' : Condition}

theorem isZero_of_alike (h : c.Alike c') : c.isZero = c'.isZero := by
  cases h with
  | compare field op h => exact h.2
  | number field op h =>
    rcases h with rfl | ⟨⟨m, read⟩, ⟨n, read'⟩⟩
    · rfl
    · rw [isZero, isZero, not_isEmpty_of_read read, not_isEmpty_of_read read']
  | numeral field op h =>
    rw [Bool.eq_iff_iff]
    simp [isZero, h]
  | like field matching h =>
    rw [Bool.eq_iff_iff]
    simp [isZero, String.isEmpty_iff, h]
  | among | between => rfl

/-- A value alone is never looked at. -/
theorem redact_build (field : String) (op : Operator.Given) (v w : Value) :
    (build field op (.single v)).map Predicate.redact =
      (build field op (.single w)).map Predicate.redact := by
  unfold build
  cases op.resolve with
  | error e => rfl
  | ok op => cases op <;> rfl

/-- Whether a value may stand in a list is told by its kind. -/
theorem isListElement_of_alike {v w : Value} (h : v.Alike w) :
    v.isListElement = w.isListElement := by
  -- Every kind has a name of its own, so the name tells the kind.
  have kind : ∀ v : Value, v.isListElement =
      decide (v.typeName ∈ ["INT", "BIGINT", "BIGINT UNSIGNED", "VARCHAR"]) := by
    intro v
    cases v <;> rfl
  rw [kind, kind, h.1]

/-- Of a list only the kinds of its elements are looked at. -/
theorem redact_makeList (field : String) (negated : Bool) {vs ws : List Value}
    (h : List.Forall₂ Value.Alike vs ws) :
    (Predicate.makeList field negated vs).map Predicate.redact =
      (Predicate.makeList field negated ws).map Predicate.redact := by
  have found : Option.Rel Value.Alike (vs.find? fun v => !v.isListElement)
      (ws.find? fun v => !v.isListElement) :=
    forall₂_find? h fun v w like => by rw [isListElement_of_alike like]
  unfold Predicate.makeList
  generalize vs.find? (fun v => !v.isListElement) = x at found
  generalize ws.find? (fun v => !v.isListElement) = x' at found
  cases found with
  | some like => simp only [like.1]
  | none =>
    have lengths : vs.map Value.redact = ws.map Value.redact := by
      rw [map_redact, map_redact, h.length_eq]
    simp only [Except.map, Predicate.redact, lengths]

/-- Alike conditions have outcomes that differ in values only. -/
theorem redact_outcome (h : c.Alike c') (skipZero : Bool) :
    (c.outcome skipZero).redact = (c'.outcome skipZero).redact := by
  have attempts : c.attempt.redact = c'.attempt.redact := by
    cases h with
    | compare field op h =>
      rw [attempt, attempt, redact_ofExcept, redact_ofExcept, redact_build]
    | number field op h =>
      rcases h with rfl | ⟨⟨m, read⟩, ⟨n, read'⟩⟩
      · rfl
      · simp only [attempt, read, read']
        rw [redact_ofExcept, redact_ofExcept, redact_build]
    | numeral field op h =>
      rw [attempt, attempt, redact_ofExcept, redact_ofExcept, redact_build]
    | among field negated h =>
      have lists := redact_makeList field negated h
      cases h with
      | nil => rfl
      | cons here rest =>
        rw [attempt, attempt, if_neg (by simp), if_neg (by simp), redact_ofExcept, redact_ofExcept,
          lists]
    | like | between => rfl
  rw [outcome, outcome, isZero_of_alike h]
  split
  · rfl
  · exact attempts

end Condition

/-! ## Drafts -/

namespace Draft

variable {d d' : Draft}

theorem redact_follow (d : Draft) (o : Condition.Outcome) :
    (d.follow o).redact = d.redact.follow o.redact := by
  cases o with
  | accepted p => simp [follow, redact, Condition.Outcome.redact]
  | skipped | rejected e => rfl

/-- A call that requires nothing works on what is left as on the whole. -/
theorem redact_apply_same (h : d.redact = d'.redact) (c : Call) :
    (d.apply c).redact = (d'.apply c).redact := by
  cases c with
  | require skipZero c => rw [apply, apply, redact_follow, redact_follow, h]
  | select columns => exact congrArg (·.apply (.select columns)) h
  | selectText text => exact congrArg (·.apply (.selectText text)) h
  | fragment text => exact congrArg (·.apply (.fragment text)) h
  | join j => exact congrArg (·.apply (.join j)) h
  | orderBy k => exact congrArg (·.apply (.orderBy k)) h
  | groupBy columns => exact congrArg (·.apply (.groupBy columns)) h
  | limit n => exact congrArg (·.apply (.limit n)) h
  | offset n => exact congrArg (·.apply (.offset n)) h

/-- Alike calls leave drafts in which only values differ. -/
theorem redact_apply (h : d.redact = d'.redact) {c c' : Call} (k : c.Alike c') :
    (d.apply c).redact = (d'.apply c').redact := by
  cases k with
  | same => exact redact_apply_same h c
  | require skipZero k =>
    rw [apply, apply, redact_follow, redact_follow, h, Condition.redact_outcome k]

end Draft

/-! ## Payloads -/

theorem redactColumns_of_alike {es es' : List (String × Value)}
    (h : List.Forall₂ AlikeColumns es es') : redactColumns es = redactColumns es' := by
  induction h with
  | nil => rfl
  | @cons a b as bs here _ ih =>
    have first : (a.1, a.2.redact) = (b.1, b.2.redact) := by rw [here.1]; rfl
    rw [redactColumns, List.map_cons, first]
    exact congrArg _ ih

theorem map_insert {α γ : Type} (f : α → γ) (name : String) (value : α)
    (entries : List (String × α)) :
    (NameMap.insert name value entries).map (fun e => (e.1, f e.2)) =
      NameMap.insert name (f value) (entries.map fun e => (e.1, f e.2)) := by
  induction entries with
  | nil => rfl
  | cons e rest ih =>
    obtain ⟨k, v⟩ := e
    simp only [NameMap.insert, List.map_cons]
    split
    · rfl
    · split
      · rfl
      · rw [List.map_cons, ih]

/-- The order of an ordered map is that of its names. -/
theorem redact_insertAll (entries : List (String × Value)) :
    redactColumns (NameMap.insertAll entries) = NameMap.insertAll (redactColumns entries) := by
  have step : ∀ acc : List (String × Value),
      redactColumns (entries.foldl (fun acc e => NameMap.insert e.1 e.2 acc) acc) =
        (redactColumns entries).foldl (fun acc e => NameMap.insert e.1 e.2 acc)
          (redactColumns acc) := by
    induction entries with
    | nil => intro acc; rfl
    | cons e es ih =>
      intro acc
      rw [List.foldl_cons, ih, redactColumns, map_insert]
      rfl
  exact step []

/-- The order of sorted columns is that of their names. -/
theorem redact_sortByColumn (entries : List (String × Value)) :
    redactColumns (Payload.sortByColumn entries) =
      Payload.sortByColumn (redactColumns entries) :=
  List.map_mergeSort fun _ _ _ _ => rfl

/-- Without values, sorted columns do not depend on the order in which they were listed. -/
theorem sortByColumn_of_perm {es es' : List (String × Value)} (h : es.Perm es') :
    Payload.sortByColumn (redactColumns es) = Payload.sortByColumn (redactColumns es') := by
  -- Columns of one name are equal when their values are gone, so sorting leaves no choice.
  have empty : ∀ fs : List (String × Value), ∀ c ∈ Payload.sortByColumn (redactColumns fs),
      c.2 = .null := by
    intro fs c hc
    obtain ⟨c', _, rfl⟩ := List.mem_map.1 ((List.mergeSort_perm _ _).subset hc)
    rfl
  have perm : (Payload.sortByColumn (redactColumns es)).Perm
      (Payload.sortByColumn (redactColumns es')) :=
    (List.mergeSort_perm _ _).trans ((h.map _).trans (List.mergeSort_perm _ _).symm)
  refine perm.eq_of_pairwise (fun a b ha hb ab ba => ?_) (Payload.pairwise_sortByColumn _)
    (Payload.pairwise_sortByColumn _)
  exact Prod.ext (String.le_antisymm ab ba) ((empty es a ha).trans (empty es' b hb).symm)

/-- Payloads that are alike have columns that differ in values only. -/
theorem redact_columns {p p' : Payload} (h : p.Alike p') :
    redactColumns p.columns = redactColumns p'.columns := by
  cases h with
  | listed h => exact redactColumns_of_alike h
  | ordered h =>
    rw [Payload.columns, Payload.columns, redact_insertAll, redact_insertAll,
      redactColumns_of_alike h]
  | unordered order h =>
    rw [Payload.columns, Payload.columns, redact_sortByColumn, redact_sortByColumn,
      sortByColumn_of_perm order, redactColumns_of_alike h]

/-! ## Statements -/

theorem Predicate.text_redact (p : Predicate) : p.redact.text = p.text := by
  cases p <;> simp [redact, text]

theorem Predicate.values_redact (p : Predicate) : p.redact.values = p.values.map Value.redact := by
  cases p <;> rfl

namespace Draft

theorem whereText_redact (d : Draft) : d.redact.whereText = d.whereText := by
  have texts : d.redact.conditionTexts = d.conditionTexts := by
    simp [conditionTexts, redact, Function.comp_def, Predicate.text_redact]
  have guarded : d.redact.hasWhere = d.hasWhere := by simp [hasWhere, redact]
  rw [whereText, whereText, texts, guarded]

theorem whereArguments_redact (d : Draft) :
    d.redact.whereArguments = d.whereArguments.map Value.redact := by
  simp [whereArguments, redact, List.flatMap_map, List.map_flatMap, Predicate.values_redact]

theorem payloadArguments_redact (d : Draft) :
    d.redact.payloadArguments = d.payloadArguments.map Value.redact := by
  simp [payloadArguments, redact, redactColumns, Function.comp_def]

theorem selectText_redact (d : Draft) (table : String) :
    d.redact.selectText table = d.selectText table := by
  have source : d.redact.sourceText table = d.sourceText table := by
    rw [sourceText, sourceText, whereText_redact]
    rfl
  unfold selectText
  rw [source]
  rfl

theorem insertText_redact (d : Draft) (table : String) :
    d.redact.insertText table = d.insertText table := by
  have columns : d.redact.payload.map (·.1) = d.payload.map (·.1) := by
    simp [redact, redactColumns, Function.comp_def]
  have count : d.redact.payload.length = d.payload.length := by simp [redact, redactColumns]
  unfold insertText
  rw [columns, count]

theorem updateText_redact (d : Draft) (table : String) :
    d.redact.updateText table = d.updateText table := by
  rw [updateText, updateText, whereText_redact]
  simp [redact, redactColumns, Function.comp_def]

theorem deleteText_redact (d : Draft) (table : String) :
    d.redact.deleteText table = d.deleteText table := by
  rw [deleteText, deleteText, whereText_redact]

/-- Values go into the arguments of a statement and nowhere else. -/
theorem compile_redact (d : Draft) (kind : Statement.Kind) :
    d.redact.compile kind = (d.compile kind).map Statement.redact := by
  have chosen : d.redact.table = d.table := rfl
  have payload : d.redact.payload.isEmpty = d.payload.isEmpty := by simp [redact, redactColumns]
  have guarded : d.redact.hasWhere = d.hasWhere := by simp [hasWhere, redact]
  unfold compile
  rw [chosen]
  cases d.table with
  | none => rfl
  | some table =>
    cases kind with
    | select => simp only [selectText_redact, whereArguments_redact]; rfl
    | insert =>
      simp only [payload, insertText_redact, payloadArguments_redact]
      split <;> rfl
    | update =>
      simp only [payload, updateText_redact, payloadArguments_redact, whereArguments_redact]
      split
      · rfl
      · simp [Except.map, Statement.redact]
    | delete =>
      simp only [guarded, deleteText_redact, whereArguments_redact]
      split <;> rfl

end Draft

/-! ## Recorders -/

namespace Recorder

theorem redact_sentOn (target : Target) (st : Statement) :
    sentOn target st.redact = (sentOn target st).redact := rfl

theorem receive_redact (target : Target) (st : Statement) (r : Recorder) :
    receive target st.redact r.redact =
      ((receive target st r).1, (receive target st r).2.redact) := by
  have failure : r.redact.failure = r.failure := rfl
  cases h : r.failure with
  | none =>
    rw [receive_of_none (failure.trans h), receive_of_none h]
    simp [redact, redact_sentOn]
  | some reason =>
    rw [receive_of_some (failure.trans h), receive_of_some h]
    simp [redact, redact_sentOn]

/-- The answer to a query does not depend on its arguments. -/
theorem query_redact (target : Target) (st : Statement) (r : Recorder) :
    query target st.redact r.redact = ((query target st r).1, (query target st r).2.redact) := by
  rw [query, query, receive_redact]
  generalize receive target st r = x
  obtain ⟨e | ⟨⟩, r'⟩ := x
  · rfl
  · have replies : r'.redact.replies = r'.replies := rfl
    simp only [answerRows, replies]
    split <;> rfl

theorem keep_redact (target : Target) (c : Sent) (r : Recorder) :
    keep target c.redact r.redact = (keep target c r).redact := by
  cases target with
  | connection => simp [keep, redact]
  | transaction id =>
    simp only [keep, redact, List.map_map]
    congr 1
    refine List.map_congr_left fun p _ => ?_
    by_cases same : p.1 = id <;> simp [same]

/-- Nor does the outcome of a change. -/
theorem change_redact (target : Target) (st : Statement) (r : Recorder) :
    change target st.redact r.redact =
      ((change target st r).1, (change target st r).2.redact) := by
  rw [change, change, receive_redact]
  generalize receive target st r = x
  obtain ⟨e | ⟨⟩, r'⟩ := x
  · rfl
  · dsimp only
    rw [redact_sentOn, keep_redact]
    generalize keep target (sentOn target st) r' = r''
    have replies : r''.redact.replies = r''.replies := rfl
    simp only [answerOutcome, replies]
    split <;> rfl

theorem takeFailure_redact (r : Recorder) :
    r.redact.takeFailure = (r.takeFailure.1, r.takeFailure.2.redact) := by
  have failure : r.redact.failure = r.failure := rfl
  unfold takeFailure
  rw [failure]
  cases r.failure <;> rfl

theorem start_redact (r : Recorder) : r.redact.start = (r.start.1, r.start.2.redact) := by
  rw [start, start, takeFailure_redact]
  generalize r.takeFailure = x
  obtain ⟨e | ⟨⟩, r'⟩ := x
  · rfl
  · simp [redact]

theorem forget_redact (r : Recorder) (id : Nat) : r.redact.forget id = (r.forget id).redact := by
  simp only [forget, redact, List.filter_map]
  rfl

theorem changesOf_redact (r : Recorder) (id : Nat) :
    r.redact.changesOf id = (r.changesOf id).map Sent.redact := by
  have found : r.redact.pending.find? (fun p => p.1 == id) =
      (r.pending.find? fun p => p.1 == id).map fun p => (p.1, p.2.map Sent.redact) := by
    rw [redact, List.find?_map]
    rfl
  rw [changesOf, changesOf, found]
  cases r.pending.find? (fun p => p.1 == id) <;> rfl

theorem commit_redact (id : Nat) (r : Recorder) :
    r.redact.commit id = ((r.commit id).1, (r.commit id).2.redact) := by
  rw [commit, commit, forget_redact, takeFailure_redact, changesOf_redact]
  generalize (r.forget id).takeFailure = x
  obtain ⟨e | ⟨⟩, r'⟩ := x
  · rfl
  · simp [redact]

theorem rollback_redact (id : Nat) (r : Recorder) :
    r.redact.rollback id = ((r.rollback id).1, (r.rollback id).2.redact) := by
  rw [rollback, rollback, forget_redact, takeFailure_redact]
  generalize (r.forget id).takeFailure = x
  obtain ⟨e | ⟨⟩, r'⟩ := x <;> rfl

end Recorder

end QueryLoom
