import QueryLoom.Proofs.Shapes

/-!
# Stray marks

Every value of a statement has a mark in its text, and a text of the caller that is written into the
statement may bring marks of its own. The marks of a statement are those of its values and those of
the caller's texts, so there are never fewer of them than values, and exactly as many as values when
no text that is written has a mark.

* `marksIn`, `marksOf` : the marks of a text, and of several texts;
* `Draft.Writes` : the texts of the caller that a statement of a kind shows;
* `Draft.writtenTexts` : all of them, as often as they are written;
* `stray_marks` : the marks of a statement, and when they are as many as its values.
-/

namespace QueryLoom

/-! ## Marks of texts -/

/-- The number of marks in a text. -/
def marksIn (s : String) : Nat := s.toList.count '?'

/-- The number of marks in several texts. -/
def marksOf (ts : List String) : Nat := marksIn (String.join ts)

@[simp] theorem marksIn_append (s t : String) : marksIn (s ++ t) = marksIn s + marksIn t := by
  rw [marksIn, String.toList_append, List.count_append, marksIn, marksIn]

theorem marksIn_eq_zero_iff {s : String} : marksIn s = 0 ↔ Unmarked s := List.count_eq_zero

theorem marksIn_of_unmarked {s : String} (h : Unmarked s) : marksIn s = 0 :=
  marksIn_eq_zero_iff.2 h

@[simp] theorem marksIn_marks (n : Nat) : marksIn (marks n) = n := count_marks n

@[simp] theorem marksOf_nil : marksOf [] = 0 := rfl

@[simp] theorem marksOf_cons (t : String) (ts : List String) :
    marksOf (t :: ts) = marksIn t + marksOf ts := by
  rw [marksOf, String.join_cons, marksIn_append, marksOf]

@[simp] theorem marksOf_append (ts us : List String) :
    marksOf (ts ++ us) = marksOf ts + marksOf us := by
  induction ts with
  | nil => simp
  | cons t ts ih => rw [List.cons_append, marksOf_cons, ih, marksOf_cons, Nat.add_assoc]

theorem marksOf_eq_zero_iff {ts : List String} : marksOf ts = 0 ↔ ∀ t ∈ ts, Unmarked t := by
  induction ts with
  | nil => simp
  | cons t ts ih =>
    rw [marksOf_cons, Nat.add_eq_zero_iff, ih, marksIn_eq_zero_iff, List.forall_mem_cons]

/-- A separator without marks adds none. -/
theorem marksIn_intercalate {sep : String} (hs : Unmarked sep) (ts : List String) :
    marksIn (sep.intercalate ts) = marksOf ts := by
  induction ts with
  | nil => simp [marksIn]
  | cons t ts ih =>
    cases ts with
    | nil => simp
    | cons u us =>
      rw [String.intercalate_cons_cons, marksIn_append, marksIn_append, ih, marksIn_of_unmarked hs,
        Nat.add_zero, marksOf_cons t]

/-- A clause that is left out when it has no texts. -/
theorem marksIn_clause {c : Prop} [Decidable c] {lead sep : String} {ts : List String}
    (hl : Unmarked lead) (hs : Unmarked sep) (absent : c → ts = []) :
    marksIn (if c then "" else lead ++ sep.intercalate ts) = marksOf ts := by
  split
  · rename_i omitted
    rw [absent omitted]
    rfl
  · rw [marksIn_append, marksIn_of_unmarked hl, marksIn_intercalate hs, Nat.zero_add]

/-- Texts made of the names of things, with a mark for each of their values. -/
theorem marksOf_flatMap {α : Type} {text : α → String} {names : α → List String}
    {values : α → List Value} {xs : List α}
    (h : ∀ x ∈ xs, marksIn (text x) = marksOf (names x) + (values x).length) :
    marksOf (xs.map text) = marksOf (xs.flatMap names) + (xs.flatMap values).length := by
  induction xs with
  | nil => rfl
  | cons x xs ih =>
    obtain ⟨here, others⟩ := List.forall_mem_cons.1 h
    simp only [List.map_cons, List.flatMap_cons, marksOf_cons, marksOf_append, List.length_append,
      here, ih others]
    omega

/-- Texts made of one name each. -/
theorem marksOf_map {α : Type} {text name : α → String} {values : α → List Value} {xs : List α}
    (h : ∀ x ∈ xs, marksIn (text x) = marksIn (name x) + (values x).length) :
    marksOf (xs.map text) = marksOf (xs.map name) + (xs.flatMap values).length := by
  rw [List.map_eq_flatMap (f := name)]
  exact marksOf_flatMap fun x member => by simpa using h x member

/-! ### Predicates, joins and sort keys -/

/-- A predicate has the marks of its field, and one for each of its values. -/
theorem Predicate.marksIn_text (p : Predicate) :
    marksIn p.text = marksIn p.field + p.values.length := by
  rw [p.text_eq, marksIn_append, ← p.count_operation, marksIn, marksIn]

theorem Join.marksIn_text (j : Join) : marksIn j.text = marksIn j.table + marksIn j.on := by
  have kind : marksIn j.kind.text = 0 := by cases j.kind <;> decide
  simp (disch := decide) only [Join.text, marksIn_append, marksIn_of_unmarked, kind]
  omega

theorem SortKey.marksIn_text (k : SortKey) : marksIn k.text = marksIn k.column := by
  have direction : marksIn k.direction.text = 0 := by cases k.direction <;> decide
  simp (disch := decide) only [SortKey.text, marksIn_append, marksIn_of_unmarked, direction,
    Nat.add_zero]

theorem Aggregate.marksIn_text (a : Aggregate) : marksIn a.text = marksOf a.column?.toList := by
  have closing : ∀ lead ∈ ["SUM(", ") AS sum", "MAX(", ") AS max", "MIN(", ") AS min"],
      marksIn lead = 0 := by decide
  cases a with
  | count => decide
  | sum column | max column | min column =>
    simp [Aggregate.text, Aggregate.column?, closing]

/-! ## Texts that are written -/

namespace Draft

/-- The texts of the caller that the statement of a kind shows. A `SELECT` shows its fields unless
an aggregate is in their place, but a count of groups has them in its derived table; it is sorted
only when it shows rows. -/
inductive Writes (d : Draft) : Statement.Kind → String → Prop
  | table {kind : Statement.Kind} {t : String} (given : d.table = some t) : d.Writes kind t
  | field {t : String}
      (shown : d.aggregate = none ∨ d.aggregate = some .count ∧ d.groups ≠ [])
      (member : t ∈ d.fields) : d.Writes .select t
  | sortKey {k : SortKey} (rows : d.aggregate = none) (member : k ∈ d.sortKeys) :
      d.Writes .select k.column
  | aggregate {a : Aggregate} {t : String} (given : d.aggregate = some a)
      (column : a.column? = some t) : d.Writes .select t
  | joinTable {j : Join} (member : j ∈ d.joins) : d.Writes .select j.table
  | joinCondition {j : Join} (member : j ∈ d.joins) : d.Writes .select j.on
  | group {t : String} (member : t ∈ d.groups) : d.Writes .select t
  | column {kind : Statement.Kind} {c : String × Value} (stored : kind = .insert ∨ kind = .update)
      (member : c ∈ d.payload) : d.Writes kind c.1
  | predicate {kind : Statement.Kind} {p : Predicate} (restricted : kind ≠ .insert)
      (member : p ∈ d.predicates) : d.Writes kind p.field
  | fragment {kind : Statement.Kind} {t : String} (restricted : kind ≠ .insert)
      (member : t ∈ d.fragments) : d.Writes kind t

/-- The texts in the conditions. -/
def restrictionTexts (d : Draft) : List String := d.predicates.map Predicate.field ++ d.fragments

/-- The texts in the joins. -/
def joinedTexts (d : Draft) : List String := d.joins.flatMap fun j => [j.table, j.on]

/-- The texts that say what a `SELECT` shows. A count of groups without fields has the columns
grouped by in their place, which are written once more behind `GROUP BY`. -/
def shownTexts (d : Draft) : List String :=
  match d.aggregate with
  | none => d.fields ++ d.sortKeys.map SortKey.column
  | some a =>
    a.column?.toList ++
      if a = .count ∧ ¬ d.groups.isEmpty then (if d.fields.isEmpty then d.groups else d.fields)
      else []

/-- The texts in the clauses of a statement, which are all but the table. -/
def clauseTexts (d : Draft) : Statement.Kind → List String
  | .select => d.shownTexts ++ d.joinedTexts ++ d.restrictionTexts ++ d.groups
  | .insert => d.payload.map (·.1)
  | .update => d.payload.map (·.1) ++ d.restrictionTexts
  | .delete => d.restrictionTexts

/-- The texts of the caller in the statement of a kind, as often as they are written. -/
def writtenTexts (d : Draft) (kind : Statement.Kind) : List String :=
  d.table.toList ++ d.clauseTexts kind

section Membership

variable {d : Draft} {kind : Statement.Kind} {t : String}

theorem writes_restriction (restricted : kind ≠ .insert) (h : t ∈ d.restrictionTexts) :
    d.Writes kind t := by
  rcases List.mem_append.1 h with field | member
  · obtain ⟨p, member, rfl⟩ := List.mem_map.1 field
    exact .predicate restricted member
  · exact .fragment restricted member

theorem writes_column (stored : kind = .insert ∨ kind = .update)
    (h : t ∈ d.payload.map (·.1)) : d.Writes kind t := by
  obtain ⟨c, member, rfl⟩ := List.mem_map.1 h
  exact .column stored member

theorem writes_joined (h : t ∈ d.joinedTexts) : d.Writes .select t := by
  obtain ⟨j, member, side⟩ := List.mem_flatMap.1 h
  rcases List.mem_pair.1 side with rfl | rfl
  · exact .joinTable member
  · exact .joinCondition member

theorem writes_shown (h : t ∈ d.shownTexts) : d.Writes .select t := by
  unfold shownTexts at h
  split at h
  · rename_i rows
    rcases List.mem_append.1 h with member | key
    · exact .field (.inl rows) member
    · obtain ⟨k, member, rfl⟩ := List.mem_map.1 key
      exact .sortKey rows member
  · rename_i a given
    rcases List.mem_append.1 h with column | inner
    · exact .aggregate given (Option.mem_toList.1 column)
    · by_cases groups : a = .count ∧ ¬ d.groups.isEmpty
      · rw [if_pos groups] at inner
        obtain ⟨rfl, grouped⟩ := groups
        -- Without fields the derived table shows the columns grouped by.
        split at inner
        · exact .group inner
        · exact .field (.inr ⟨given, by simpa using grouped⟩) inner
      · rw [if_neg groups] at inner
        cases inner

theorem writes_clause (h : t ∈ d.clauseTexts kind) : d.Writes kind t := by
  cases kind with
  | select =>
    simp only [clauseTexts, List.mem_append] at h
    rcases h with ((shown | joined) | restriction) | group
    · exact writes_shown shown
    · exact writes_joined joined
    · exact writes_restriction (by decide) restriction
    · exact .group group
  | insert => exact writes_column (.inl rfl) h
  | update =>
    rcases List.mem_append.1 h with column | restriction
    · exact writes_column (.inr rfl) column
    · exact writes_restriction (by decide) restriction
  | delete => exact writes_restriction (by decide) h

theorem Writes.mem (h : d.Writes kind t) : t ∈ d.writtenTexts kind := by
  cases h with
  | table given => simp [writtenTexts, given]
  | field shown member =>
    rcases shown with rows | ⟨count, grouped⟩
    · simp [writtenTexts, clauseTexts, shownTexts, rows, member]
    · have some : d.fields ≠ [] := List.ne_nil_of_mem member
      simp [writtenTexts, clauseTexts, shownTexts, count, grouped, some, member]
  | sortKey rows member =>
    simp only [writtenTexts, clauseTexts, shownTexts, rows, List.mem_append, List.mem_map]
    grind
  | aggregate given column => simp [writtenTexts, clauseTexts, shownTexts, given, column]
  | joinTable member | joinCondition member =>
    simp only [writtenTexts, clauseTexts, joinedTexts, List.mem_append, List.mem_flatMap,
      List.mem_pair]
    grind
  | group member => simp [writtenTexts, clauseTexts, member]
  | column stored member =>
    rcases stored with rfl | rfl <;>
      (simp only [writtenTexts, clauseTexts, List.mem_append, List.mem_map]; grind)
  | predicate restricted member | fragment restricted member =>
    cases kind with
    | insert => exact absurd rfl restricted
    | select | update | delete =>
      simp only [writtenTexts, clauseTexts, restrictionTexts, List.mem_append, List.mem_map]
      grind

/-- The texts that are written are those that the statement shows. -/
theorem mem_writtenTexts_iff : t ∈ d.writtenTexts kind ↔ d.Writes kind t := by
  constructor
  · intro member
    rcases List.mem_append.1 member with table | clause
    · exact .table (Option.mem_toList.1 table)
    · exact writes_clause clause
  · exact Writes.mem

end Membership

/-! ## Marks of clauses -/

section Clauses

variable (d : Draft)

theorem marksOf_conditionTexts :
    marksOf d.conditionTexts = marksOf d.restrictionTexts + d.whereArguments.length := by
  have predicates : marksOf (d.predicates.map Predicate.text) =
      marksOf (d.predicates.map Predicate.field) + d.whereArguments.length :=
    marksOf_map fun p _ => p.marksIn_text
  rw [conditionTexts, restrictionTexts, marksOf_append, marksOf_append, predicates]
  omega

theorem marksIn_whereText :
    marksIn d.whereText = marksOf d.restrictionTexts + d.whereArguments.length := by
  rw [← marksOf_conditionTexts, whereText, ← ite_not]
  exact marksIn_clause (by decide) (by decide) (by simp [hasWhere_iff])

theorem marksIn_joinText : marksIn d.joinText = marksOf d.joinedTexts := by
  have each : ∀ j ∈ d.joins, marksIn (" " ++ j.text) =
      marksOf [j.table, j.on] + ([] : List Value).length := by
    intro j _
    have space : marksIn " " = 0 := by decide
    simp [space, j.marksIn_text]
  have joins : marksIn d.joinText =
      marksOf d.joinedTexts + (d.joins.flatMap fun _ => ([] : List Value)).length :=
    marksOf_flatMap each
  rw [joins]
  simp

theorem marksIn_groupText : marksIn d.groupText = marksOf d.groups :=
  marksIn_clause (by decide) (by decide) List.isEmpty_iff.1

theorem marksIn_orderText : marksIn d.orderText = marksOf (d.sortKeys.map SortKey.column) := by
  have keys : marksOf (d.sortKeys.map SortKey.text) =
      marksOf (d.sortKeys.map SortKey.column) + (d.sortKeys.flatMap fun _ => []).length :=
    marksOf_map fun k _ => k.marksIn_text
  have clause : marksIn d.orderText = marksOf (d.sortKeys.map SortKey.text) :=
    marksIn_clause (by decide) (by decide) (by simp)
  rw [clause, keys]
  simp

theorem marksIn_fieldText : marksIn d.fieldText = marksOf d.fields := by
  unfold fieldText
  split
  · rename_i none
    rw [List.isEmpty_iff.1 none]
    rfl
  · exact marksIn_intercalate (by decide) d.fields

theorem marksIn_sourceText (table : String) :
    marksIn (d.sourceText table) =
      marksIn table + marksOf (d.joinedTexts ++ d.restrictionTexts ++ d.groups) +
        d.whereArguments.length := by
  unfold sourceText
  simp (disch := decide) only [marksIn_append, marksIn_of_unmarked, marksIn_joinText,
    marksIn_whereText, marksIn_groupText, marksOf_append]
  omega

/-! ### Statements -/

theorem marksIn_selectText (table : String) :
    marksIn (d.selectText table) =
      marksIn table +
        marksOf (d.shownTexts ++ d.joinedTexts ++ d.restrictionTexts ++ d.groups) +
          d.whereArguments.length := by
  unfold selectText shownTexts
  cases d.aggregate with
  | none =>
    have paging : marksIn d.pagingText = 0 :=
      marksIn_of_unmarked (unmarked_compositional.plain d.plain_pagingText)
    simp (disch := decide) only [marksIn_append, marksIn_of_unmarked, marksIn_fieldText,
      marksIn_sourceText, marksIn_orderText, paging, marksOf_append]
    omega
  | some a =>
    by_cases groups : a = .count ∧ ¬ d.groups.isEmpty
    · have inner : marksIn d.groupedFieldText =
          marksOf (if d.fields.isEmpty then d.groups else d.fields) :=
        marksIn_intercalate (by decide) _
      simp (disch := decide) only [if_pos groups, marksIn_append, marksIn_of_unmarked,
        a.marksIn_text, inner, marksIn_sourceText, marksOf_append]
      omega
    · simp (disch := decide) only [if_neg groups, marksIn_append, marksIn_of_unmarked,
        a.marksIn_text, marksIn_sourceText, marksOf_append, marksOf_nil]
      omega

theorem marksIn_insertText (table : String) :
    marksIn (d.insertText table) =
      marksIn table + marksOf (d.payload.map (·.1)) + d.payloadArguments.length := by
  -- The equation of a long join of texts takes seconds to generate, so it is unfolded instead.
  unfold insertText
  simp (disch := decide) only [marksIn_append, marksIn_of_unmarked, marksIn_intercalate,
    marksIn_marks, payloadArguments, List.length_map]
  omega

theorem marksIn_updateText (table : String) :
    marksIn (d.updateText table) =
      marksIn table + marksOf (d.payload.map (·.1) ++ d.restrictionTexts) +
        (d.payloadArguments ++ d.whereArguments).length := by
  have columns : marksOf (d.payload.map fun c => c.1 ++ "=?") =
      marksOf (d.payload.map (·.1)) + d.payloadArguments.length := by
    rw [payloadArguments, List.map_eq_flatMap (f := fun c : String × Value => c.2)]
    exact marksOf_map fun c _ => marksIn_append c.1 "=?"
  unfold updateText
  simp (disch := decide) only [marksIn_append, marksIn_of_unmarked, marksIn_intercalate, columns,
    marksIn_whereText, marksOf_append, List.length_append]
  omega

theorem marksIn_deleteText (table : String) :
    marksIn (d.deleteText table) =
      marksIn table + marksOf d.restrictionTexts + d.whereArguments.length := by
  unfold deleteText
  simp (disch := decide) only [marksIn_append, marksIn_of_unmarked, marksIn_whereText]
  omega

end Clauses

/-- The marks of a statement are those of its values and those of the texts that are written. -/
theorem markCount_of_compile {d : Draft} {kind : Statement.Kind} {s : Statement}
    (h : d.compile kind = .ok s) :
    s.markCount = s.params.length + marksOf (d.writtenTexts kind) := by
  obtain ⟨table, found, made⟩ := made_of_compile h
  have counted :
      marksIn s.sql = marksIn table + marksOf (d.clauseTexts kind) + s.params.length := by
    cases kind with
    | select =>
      cases made
      exact d.marksIn_selectText table
    | insert =>
      obtain ⟨-, rfl⟩ := made
      exact d.marksIn_insertText table
    | update =>
      obtain ⟨-, rfl⟩ := made
      exact d.marksIn_updateText table
    | delete =>
      obtain ⟨-, rfl⟩ := made
      exact d.marksIn_deleteText table
  have written : marksOf (d.writtenTexts kind) = marksIn table + marksOf (d.clauseTexts kind) := by
    rw [writtenTexts, found, Option.toList_some, List.singleton_append, marksOf_cons]
  calc
    s.markCount = marksIn s.sql := rfl
    _ = s.params.length + marksOf (d.writtenTexts kind) := by omega

end Draft

/-! ## Main statement -/

/-- A statement has a mark for each of its values, and besides these the marks in the texts of the
caller that it shows, as often as it shows them. So there are never fewer marks than values, and as
many marks as values exactly when no text that is shown has a mark. -/
theorem stray_marks (d : Draft) (kind : Statement.Kind) (s : Statement)
    (h : d.compile kind = .ok s) :
    s.markCount = s.params.length + marksOf (d.writtenTexts kind) ∧
      (∀ t, t ∈ d.writtenTexts kind ↔ d.Writes kind t) ∧
      s.params.length ≤ s.markCount ∧
      (s.markCount = s.params.length ↔ ∀ t, d.Writes kind t → '?' ∉ t.toList) := by
  have counted := Draft.markCount_of_compile h
  refine ⟨counted, fun t => Draft.mem_writtenTexts_iff, by omega, ?_⟩
  calc
    s.markCount = s.params.length ↔ marksOf (d.writtenTexts kind) = 0 := by omega
    _ ↔ ∀ t ∈ d.writtenTexts kind, Unmarked t := marksOf_eq_zero_iff
    _ ↔ ∀ t, d.Writes kind t → '?' ∉ t.toList :=
      forall_congr' fun t => imp_congr Draft.mem_writtenTexts_iff Iff.rfl

/-- Two notes, sorted by a text with a mark of its own. -/
def rankedNotes : Draft :=
  ({ table := some "notes" } : Draft).applyAll
    [.require false (.among "id" false [.int32 1, .int32 2]), .orderBy ⟨"rank = ?", .descending⟩]

/-- The statement that shows these notes. -/
def rankedNotesStatement : Statement where
  sql := "SELECT * FROM notes WHERE id IN (?,?) ORDER BY rank = ? DESC"
  params := [.int32 1, .int32 2]

/-- The statement that adds up their sizes. -/
def notesSizeStatement : Statement where
  sql := "SELECT SUM(size) AS sum FROM notes WHERE id IN (?,?)"
  params := [.int32 1, .int32 2]

/-- The mark is one too many when the notes are shown, and does no harm when their sizes are added
up, which needs no order. -/
theorem stray_marks_rankedNotes :
    rankedNotes.compile .select = .ok rankedNotesStatement ∧
      rankedNotesStatement.markCount = rankedNotesStatement.params.length + 1 ∧
      ({ rankedNotes with aggregate := some (.sum "size") } : Draft).compile .select =
        .ok notesSizeStatement ∧
      notesSizeStatement.markCount = notesSizeStatement.params.length := by
  have shown : rankedNotes.compile .select = .ok rankedNotesStatement := rfl
  have added : ({ rankedNotes with aggregate := some (.sum "size") } : Draft).compile .select =
      .ok notesSizeStatement := rfl
  obtain ⟨counted, -, -, -⟩ := stray_marks _ _ _ shown
  obtain ⟨-, listed, -, reliable⟩ := stray_marks _ _ _ added
  have stray : marksOf (rankedNotes.writtenTexts .select) = 1 := by decide
  have free : ∀ t ∈ ({ rankedNotes with aggregate := some (.sum "size") } : Draft).writtenTexts
      .select, '?' ∉ t.toList := by decide
  rw [stray] at counted
  exact ⟨shown, counted, added, reliable.2 fun t writes => free t ((listed t).2 writes)⟩

end QueryLoom
