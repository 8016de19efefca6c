import QueryLoom.Draft.Call
import QueryLoom.Proofs.InPlace

/-!
# Marks and arguments

The text of a statement and its arguments are made apart. They belong together when each mark of the
text, taken from the left, stands where the argument of the same place would be written.

* `Statement.filled` : the text of a statement with every mark replaced by its argument;
* `Aligned` : a text with marks, the values that they stand for, and the text with the values;
* `Draft.callerTexts` : the texts that come from the caller;
* `filled_of_compile` : filling the marks of a compiled statement gives the text with the values in
  place, as long as no text of the caller has a mark of its own.
-/

namespace QueryLoom

/-! ## Filling marks -/

/-- The text in which each mark is replaced by the token in its place. What was put in is not looked
at again, so a token may have marks itself. -/
def fillMarks : List Char → List String → List Char
  | [], _ => []
  | c :: cs, [] => c :: cs
  | c :: cs, t :: ts =>
    if c = '?' then t.toList ++ fillMarks cs ts else c :: fillMarks cs (t :: ts)

/-- The text of a statement in which each mark is replaced by the token of its argument. -/
def Statement.filled (token : Value → String) (s : Statement) : String :=
  String.ofList (fillMarks s.sql.toList (s.params.map token))

@[simp] theorem fillMarks_nil_right (cs : List Char) : fillMarks cs [] = cs := by
  cases cs <;> rfl

/-- The marks of a front part take as many tokens as there are, and the rest takes the others. -/
theorem fillMarks_append {a : List Char} {ts : List String} (h : a.count '?' = ts.length)
    (b : List Char) (us : List String) :
    fillMarks (a ++ b) (ts ++ us) = fillMarks a ts ++ fillMarks b us := by
  induction a generalizing ts with
  | nil =>
    have none : ts = [] := List.eq_nil_of_length_eq_zero (by simpa using h.symm)
    subst none
    rfl
  | cons c cs ih =>
    by_cases mark : c = '?'
    · subst mark
      cases ts with
      | nil => simp at h
      | cons t ts =>
        have rest : cs.count '?' = ts.length := by simpa using h
        simp [fillMarks, ih rest]
    · have rest : cs.count '?' = ts.length := by simpa [List.count_cons, mark] using h
      cases ts with
      | nil =>
        cases us with
        | nil => simp
        | cons u us =>
          have step := @ih [] rest
          rw [List.nil_append, fillMarks_nil_right] at step
          simp [fillMarks, mark, step]
      | cons t ts =>
        have step := ih rest
        rw [List.cons_append] at step
        simp [fillMarks, mark, step]

/-! ## Texts without marks -/

def Unmarked (s : String) : Prop := '?' ∉ s.toList

instance (s : String) : Decidable (Unmarked s) := inferInstanceAs (Decidable (¬ _))

theorem unmarked_append {s t : String} : Unmarked (s ++ t) ↔ Unmarked s ∧ Unmarked t := by
  simp [Unmarked]

/-- A text without marks and brackets. -/
def Plain (s : String) : Prop := ∀ c ∈ s.toList, c ≠ '?' ∧ c ≠ '(' ∧ c ≠ ')'

instance (s : String) : Decidable (Plain s) := List.decidableBAll _ s.toList

theorem plain_decimal (n : Nat) : Plain (String.ofList (Text.decimal n)) := by
  intro c h
  rw [String.toList_ofList] at h
  have digit := Text.isDigit_of_mem_decimal h
  refine ⟨?_, ?_, ?_⟩ <;> (rintro rfl; exact absurd digit (by decide))

/-- A property that plain texts have and that is kept when texts are joined. -/
structure Compositional (P : String → Prop) : Prop where
  plain : ∀ {s}, Plain s → P s
  append : ∀ {s t}, P s → P t → P (s ++ t)

namespace Compositional

variable {P : String → Prop}

theorem intercalate (law : Compositional P) {sep : String} (hs : P sep) {ts : List String}
    (h : ∀ t ∈ ts, P t) : P (sep.intercalate ts) := by
  induction ts with
  | nil =>
    have empty : P "" := law.plain (by decide)
    simpa using empty
  | cons t ts ih =>
    have rest := ih fun u hu => h u (List.mem_cons_of_mem _ hu)
    cases ts with
    | nil => simpa using h t (by simp)
    | cons u us =>
      rw [String.intercalate_cons_cons]
      exact law.append (law.append (h t (by simp)) hs) rest

theorem join (law : Compositional P) {ts : List String} (h : ∀ t ∈ ts, P t) :
    P (String.join ts) := by
  induction ts with
  | nil => exact law.plain (by decide)
  | cons t ts ih =>
    rw [String.join_cons]
    exact law.append (h t (by simp)) (ih fun u hu => h u (List.mem_cons_of_mem _ hu))

end Compositional

theorem unmarked_compositional : Compositional Unmarked where
  plain h mark := (h '?' mark).1 rfl
  append hs ht := unmarked_append.2 ⟨hs, ht⟩

/-! ## Alignment -/

/-- A text whose marks stand for the values, and the text that it becomes when they are filled. -/
structure Aligned (token : Value → String) (text : String) (values : List Value)
    (written : String) : Prop where
  count : text.toList.count '?' = values.length
  filled : fillMarks text.toList (values.map token) = written.toList

section Alignment

variable {token : Value → String}

/-- A text without marks stands for itself. -/
theorem Aligned.of_unmarked {s : String} (h : Unmarked s) : Aligned token s [] s where
  count := List.count_eq_zero.2 h
  filled := by simp

theorem Aligned.mark (v : Value) : Aligned token "?" [v] (token v) where
  count := rfl
  filled := by simp [fillMarks]

theorem Aligned.append {s t u w : String} {vs ws : List Value} (h : Aligned token s vs t)
    (k : Aligned token u ws w) : Aligned token (s ++ u) (vs ++ ws) (t ++ w) where
  count := by simp [h.count, k.count]
  filled := by
    have fits : s.toList.count '?' = (vs.map token).length := by simp [h.count]
    rw [String.toList_append, String.toList_append, List.map_append, fillMarks_append fits,
      h.filled, k.filled]

/-- A text without marks in front changes nothing about the values. -/
theorem Aligned.after {s u w : String} {vs : List Value} (k : Aligned token u vs w)
    (h : Unmarked s) : Aligned token (s ++ u) vs (s ++ w) :=
  (Aligned.of_unmarked h).append k

/-- A text without marks behind changes nothing about the values. -/
theorem Aligned.before {s u w : String} {vs : List Value} (k : Aligned token u vs w)
    (h : Unmarked s) : Aligned token (u ++ s) vs (w ++ s) := by
  simpa using k.append (Aligned.of_unmarked h)

/-- Aligned items with a separator between them. -/
theorem Aligned.intercalate {α : Type} {sep : String} (hs : Unmarked sep) {text : α → String}
    {values : α → List Value} {written : α → String} {xs : List α}
    (h : ∀ x ∈ xs, Aligned token (text x) (values x) (written x)) :
    Aligned token (sep.intercalate (xs.map text)) (xs.flatMap values)
      (sep.intercalate (xs.map written)) := by
  induction xs with
  | nil => exact .of_unmarked (s := "") (by decide)
  | cons x xs ih =>
    have here := h x (by simp)
    have rest := ih fun y hy => h y (List.mem_cons_of_mem _ hy)
    cases xs with
    | nil => simpa using here
    | cons y ys =>
      simp only [List.map_cons, String.intercalate_cons_cons, List.flatMap_cons] at rest ⊢
      exact (here.before hs).append rest

end Alignment

/-! ## The texts of the caller -/

/-- The column that an aggregate is over; a count is over none. -/
def Aggregate.column? : Aggregate → Option String
  | .count => none
  | .sum column | .max column | .min column => some column

namespace Draft

/-- Every text of a draft that comes from the caller. -/
def callerTexts (d : Draft) : List String :=
  d.table.toList ++ d.fields ++ d.joins.flatMap (fun j => [j.table, j.on]) ++
    d.predicates.map Predicate.field ++ d.fragments ++ d.groups ++ d.sortKeys.map (·.column) ++
    d.payload.map (·.1) ++ (d.aggregate.bind Aggregate.column?).toList

structure EachText (P : String → Prop) (d : Draft) : Prop where
  table : ∀ t, d.table = some t → P t
  fields : ∀ t ∈ d.fields, P t
  joins : ∀ j ∈ d.joins, P j.table ∧ P j.on
  predicates : ∀ p ∈ d.predicates, P p.field
  fragments : ∀ t ∈ d.fragments, P t
  groups : ∀ t ∈ d.groups, P t
  sortKeys : ∀ k ∈ d.sortKeys, P k.column
  payload : ∀ c ∈ d.payload, P c.1
  aggregate : ∀ a, d.aggregate = some a → ∀ t, a.column? = some t → P t

theorem eachText_of_callerTexts {P : String → Prop} {d : Draft} (h : ∀ t ∈ d.callerTexts, P t) :
    d.EachText P := by
  simp only [callerTexts, List.mem_append, List.mem_flatMap, List.mem_map, Option.mem_toList,
    Option.bind_eq_some_iff, List.mem_cons, List.not_mem_nil, or_false] at h
  refine ⟨?_, ?_, ?_, ?_, ?_, ?_, ?_, ?_, ?_⟩
  · intro t ht
    exact h t (by simp [ht])
  · intro t ht
    exact h t (by simp [ht])
  · intro j hj
    exact ⟨h j.table (by grind), h j.on (by grind)⟩
  · intro p hp
    exact h p.field (by grind)
  · intro t ht
    exact h t (by simp [ht])
  · intro t ht
    exact h t (by simp [ht])
  · intro k hk
    exact h k.column (by grind)
  · intro c hc
    exact h c.1 (by grind)
  · intro a ha t ht
    exact h t (by grind)

/-! ### The parts made of them -/

namespace EachText

variable {P : String → Prop} {d : Draft}

theorem joinText (each : d.EachText P) (law : Compositional P) : P d.joinText := by
  refine law.join fun t ht => ?_
  obtain ⟨j, hj, rfl⟩ := List.mem_map.1 ht
  have lead : P (" " ++ (j.kind.text ++ " ")) := by cases j.kind <;> exact law.plain (by decide)
  have on : P " ON " := law.plain (by decide)
  obtain ⟨table, condition⟩ := each.joins j hj
  simpa only [Join.text, String.append_assoc] using
    law.append lead (law.append table (law.append on condition))

theorem groupText (each : d.EachText P) (law : Compositional P) : P d.groupText := by
  unfold Draft.groupText
  split
  · exact law.plain (by decide)
  · exact law.append (law.plain (by decide)) (law.intercalate (law.plain (by decide)) each.groups)

theorem orderText (each : d.EachText P) (law : Compositional P) : P d.orderText := by
  unfold Draft.orderText
  split
  · exact law.plain (by decide)
  · refine law.append (law.plain (by decide))
      (law.intercalate (law.plain (by decide)) fun t ht => ?_)
    obtain ⟨k, hk, rfl⟩ := List.mem_map.1 ht
    have space : P " " := law.plain (by decide)
    have direction : P k.direction.text := by cases k.direction <;> exact law.plain (by decide)
    exact law.append (law.append (each.sortKeys k hk) space) direction

theorem fieldText (each : d.EachText P) (law : Compositional P) : P d.fieldText := by
  unfold Draft.fieldText
  split
  · exact law.plain (by decide)
  · exact law.intercalate (law.plain (by decide)) each.fields

theorem groupedFieldText (each : d.EachText P) (law : Compositional P) :
    P d.groupedFieldText := by
  unfold Draft.groupedFieldText
  split
  · exact law.intercalate (law.plain (by decide)) each.groups
  · exact law.intercalate (law.plain (by decide)) each.fields

end EachText

theorem plain_pagingText (d : Draft) : Plain d.pagingText := by
  have joined {s t : String} (hs : Plain s) (ht : Plain t) : Plain (s ++ t) := by
    intro c hc
    rw [String.toList_append, List.mem_append] at hc
    exact hc.elim (hs c) (ht c)
  unfold pagingText
  split
  · decide
  · split
    · decide
    · refine joined (joined (by decide) (plain_decimal _)) ?_
      split
      · decide
      · split
        · decide
        · exact joined (by decide) (plain_decimal _)

theorem EachText.aggregateText {d : Draft} (free : d.EachText Unmarked) {a : Aggregate}
    (h : d.aggregate = some a) : Unmarked a.text := by
  cases a with
  | count => decide
  | sum column | max column | min column =>
    have column := free.aggregate _ h column rfl
    simp only [Aggregate.text, unmarked_append]
    exact ⟨⟨by decide, column⟩, by decide⟩

end Draft

/-! ## Clauses -/

section Clauses

variable {token : Value → String}

theorem unmarked_spelling (op : Operator) : Unmarked op.spelling := by
  cases op with
  | scalar op => cases op <;> decide +kernel
  | isIn | notIn | between => decide +kernel

/-- The marks of a list stand for its elements. -/
theorem aligned_marks (vs : List Value) :
    Aligned token (marks vs.length) vs (",".intercalate (vs.map token)) := by
  have comma : Unmarked "," := by decide
  have each : ∀ v ∈ vs, Aligned token ((fun _ => "?") v) ((fun v => [v]) v) (token v) :=
    fun v _ => Aligned.mark v
  have all := Aligned.intercalate comma each
  rwa [List.map_const', List.flatMap_singleton'] at all

/-- So many marks are as many marks. -/
theorem count_marks (n : Nat) : (marks n).toList.count '?' = n := by
  have aligned : Aligned (fun _ => "") _ _ _ := aligned_marks (List.replicate n Value.null)
  simpa using aligned.count

/-- A mark behind two texts that have none. -/
theorem Aligned.marked {s lead : String} (hs : Unmarked s) (hl : Unmarked lead) (v : Value) :
    Aligned token (s ++ (lead ++ "?")) [v] (s ++ lead ++ token v) := by
  rw [← String.append_assoc]
  exact (Aligned.mark v).after (unmarked_append.2 ⟨hs, hl⟩)

/-- The marks of a predicate stand for its values. -/
theorem Predicate.aligned {p : Predicate} (free : Unmarked p.field) :
    Aligned token p.text p.values (p.inPlace token) := by
  have space : Unmarked " " := by decide
  cases p with
  | scalar field op v =>
    have head : Unmarked (field ++ " " ++ (Operator.scalar op).spelling) :=
      unmarked_append.2 ⟨unmarked_append.2 ⟨free, space⟩, unmarked_spelling _⟩
    exact Aligned.marked head space v
  | list field negated vs =>
    have head : Unmarked (field ++ " " ++
        (if negated then Operator.notIn else Operator.isIn).spelling ++ " (") :=
      unmarked_append.2 ⟨unmarked_append.2 ⟨unmarked_append.2 ⟨free, space⟩,
        unmarked_spelling _⟩, by decide⟩
    have closing : Unmarked ")" := by decide
    rw [inPlace, clause_empty]
    exact ((aligned_marks vs).after head).before closing
  | between field lo hi =>
    have head : Unmarked (field ++ " " ++ Operator.between.spelling) :=
      unmarked_append.2 ⟨unmarked_append.2 ⟨free, space⟩, unmarked_spelling _⟩
    have both : Unmarked " AND " := by decide
    have low : Aligned token (field ++ " " ++ Operator.between.spelling ++ " ?") [lo] _ :=
      Aligned.marked head space lo
    have high : Aligned token " AND ?" [hi] _ := (Aligned.mark hi).after both
    have split : " ? AND ?" = " ?" ++ " AND ?" := rfl
    simpa only [text, values, inPlace, split, String.append_assoc, List.cons_append,
      List.nil_append] using low.append high

namespace Draft

variable {d : Draft} {table : String}

/-- The conditions, with their texts, their values and their texts in place. -/
def conditions (token : Value → String) (d : Draft) : List (String × List Value × String) :=
  d.predicates.map (fun p => (p.text, p.values, p.inPlace token)) ++
    d.fragments.map fun t => (t, [], t)

theorem aligned_conditions (free : d.EachText Unmarked) :
    ∀ c ∈ d.conditions token, Aligned token c.1 c.2.1 c.2.2 := by
  intro c hc
  rcases List.mem_append.1 hc with hc | hc
  · obtain ⟨p, hp, rfl⟩ := List.mem_map.1 hc
    exact Predicate.aligned (free.predicates p hp)
  · obtain ⟨t, ht, rfl⟩ := List.mem_map.1 hc
    exact .of_unmarked (free.fragments t ht)

theorem aligned_whereText (free : d.EachText Unmarked) :
    Aligned token d.whereText d.whereArguments (d.whereInPlace token) := by
  have texts : (d.conditions token).map (·.1) = d.conditionTexts := by
    simp [conditions, conditionTexts, Function.comp_def]
  have values : (d.conditions token).flatMap (·.2.1) = d.whereArguments := by
    simp [conditions, whereArguments, List.flatMap_map]
  have written : (d.conditions token).map (·.2.2) =
      d.predicates.map (Predicate.inPlace token) ++ d.fragments := by
    simp [conditions, Function.comp_def]
  rw [whereText, whereInPlace_eq]
  by_cases some : d.hasWhere
  · rw [if_pos some, if_pos some, ← texts, ← values, ← written]
    exact (Aligned.intercalate (by decide) (aligned_conditions free)).after (by decide)
  · have none : d.whereArguments = [] := by
      have empty : d.predicates = [] := by
        simp only [hasWhere, Bool.or_eq_true, Bool.not_eq_eq_eq_not, Bool.not_true,
          List.isEmpty_eq_false_iff, not_or, ne_eq, Decidable.not_not] at some
        exact some.1
      rw [whereArguments, empty]
      rfl
    rw [if_neg some, if_neg some, none]
    exact .of_unmarked (by decide)

theorem aligned_sourceText (free : d.EachText Unmarked) (h : d.table = some table) :
    Aligned token (d.sourceText table) d.whereArguments (d.sourceInPlace token table) := by
  have front : Unmarked (" FROM " ++ table ++ d.joinText) :=
    unmarked_append.2 ⟨unmarked_append.2 ⟨by decide, free.table table h⟩,
      free.joinText unmarked_compositional⟩
  rw [sourceInPlace_eq]
  exact ((aligned_whereText free).after front).before (free.groupText unmarked_compositional)

theorem aligned_selectText (free : d.EachText Unmarked) (h : d.table = some table) :
    Aligned token (d.selectText table) d.whereArguments (d.selectInPlace token table) := by
  have source : Aligned token _ _ _ := aligned_sourceText free h
  have select : Unmarked "SELECT " := by decide
  rw [selectText, selectInPlace_eq]
  cases ha : d.aggregate with
  | none =>
    have front := source.after
      (unmarked_append.2 ⟨select, free.fieldText unmarked_compositional⟩)
    exact (front.before (free.orderText unmarked_compositional)).before
      (unmarked_compositional.plain d.plain_pagingText)
  | some a =>
    have front : Unmarked ("SELECT " ++ a.text) :=
      unmarked_append.2 ⟨select, free.aggregateText ha⟩
    by_cases groups : a = .count ∧ ¬ d.groups.isEmpty
    · have inner : Unmarked ("SELECT " ++ a.text ++ " FROM (SELECT " ++ d.groupedFieldText) :=
        unmarked_append.2 ⟨unmarked_append.2 ⟨front, by decide⟩,
          free.groupedFieldText unmarked_compositional⟩
      have closing : Unmarked ") AS grouped" := by decide
      simp only [if_pos groups]
      exact (source.after inner).before closing
    · simp only [if_neg groups]
      exact source.after front

theorem aligned_insertText (free : d.EachText Unmarked) (h : d.table = some table) :
    Aligned token (d.insertText table) d.payloadArguments (d.insertInPlace token table) := by
  have columns : Unmarked (",".intercalate (d.payload.map (·.1))) := by
    refine unmarked_compositional.intercalate (by decide) fun t ht => ?_
    obtain ⟨c, hc, rfl⟩ := List.mem_map.1 ht
    exact free.payload c hc
  have front : Unmarked
      ("INSERT INTO " ++ table ++ "(" ++ ",".intercalate (d.payload.map (·.1)) ++ ") VALUES(") :=
    unmarked_append.2 ⟨unmarked_append.2 ⟨unmarked_append.2 ⟨unmarked_append.2
      ⟨by decide, free.table table h⟩, by decide⟩, columns⟩, by decide⟩
  have values : Aligned token _ _ _ := aligned_marks d.payloadArguments
  rw [payloadArguments, List.length_map, List.map_map] at values
  unfold insertInPlace
  rw [clause_empty, clause_empty]
  exact (values.after front).before (by decide)

theorem aligned_updateText (free : d.EachText Unmarked) (h : d.table = some table) :
    Aligned token (d.updateText table) (d.payloadArguments ++ d.whereArguments)
      (d.updateInPlace token table) := by
  have front : Unmarked ("UPDATE " ++ table ++ " SET ") :=
    unmarked_append.2 ⟨unmarked_append.2 ⟨by decide, free.table table h⟩, by decide⟩
  have each : ∀ c ∈ d.payload, Aligned token (c.1 ++ "=?") [c.2] (c.1 ++ "=" ++ token c.2) := by
    intro c hc
    have equals : Unmarked "=" := by decide
    exact Aligned.marked (free.payload c hc) equals c.2
  have comma : Unmarked "," := by decide
  have settings := Aligned.intercalate comma each
  rw [← List.map_eq_flatMap] at settings
  rw [updateInPlace, clause_empty]
  exact (settings.after front).append (aligned_whereText free)

theorem aligned_deleteText (free : d.EachText Unmarked) (h : d.table = some table) :
    Aligned token (d.deleteText table) d.whereArguments (d.inPlace token table .delete) :=
  (aligned_whereText free).after (unmarked_append.2 ⟨by decide, free.table table h⟩)

theorem aligned_compile (free : d.EachText Unmarked) {kind : Statement.Kind} {s : Statement}
    (h : d.compile kind = .ok s) :
    ∃ table, d.table = some table ∧
      Aligned token s.sql s.params (d.inPlace token table kind) := by
  obtain ⟨table, found, made⟩ := made_of_compile h
  refine ⟨table, found, ?_⟩
  cases kind with
  | select =>
    cases made
    exact aligned_selectText free found
  | insert =>
    obtain ⟨-, rfl⟩ := made
    exact aligned_insertText free found
  | update =>
    obtain ⟨-, rfl⟩ := made
    exact aligned_updateText free found
  | delete =>
    obtain ⟨-, rfl⟩ := made
    exact aligned_deleteText free found

end Draft

end Clauses

/-! ## Main statement -/

/-- When no text of the caller has a mark, the text of a compiled statement has exactly one mark for
each argument, and writing each argument in the place of its mark gives the text in which every
value was written at its own clause. -/
theorem filled_of_compile (token : Value → String) (d : Draft) (kind : Statement.Kind)
    (s : Statement) (free : ∀ t ∈ d.callerTexts, '?' ∉ t.toList)
    (h : d.compile kind = .ok s) :
    s.markCount = s.params.length ∧
      ∃ table, d.table = some table ∧ s.filled token = d.inPlace token table kind := by
  obtain ⟨table, ht, aligned⟩ :=
    @Draft.aligned_compile token d (Draft.eachText_of_callerTexts free) kind s h
  refine ⟨aligned.count, table, ht, ?_⟩
  rw [Statement.filled, aligned.filled, String.ofList_toList]

/-- A count of groups, over a range and a list. -/
def largeOrders : Draft :=
  { ({ table := some "orders" } : Draft).applyAll
      [.groupBy ["user"],
        .require false (.between "total" (.int32 5) (.float64 (Binary.zero .double false))),
        .fragment "paid", .require false (.among "state" true [.text "new", .uint64 7])] with
    aggregate := some .count }

def largeOrdersStatement : Statement where
  sql := "SELECT COUNT(*) AS count FROM (SELECT user FROM orders WHERE total BETWEEN ? AND ? " ++
    "AND state NOT IN (?,?) AND paid GROUP BY user) AS grouped"
  params := [.int32 5, .float64 (Binary.zero .double false), .text "new", .uint64 7]

/-- The values of a count of groups stand in its derived table. -/
theorem filled_largeOrders :
    (∀ t ∈ largeOrders.callerTexts, '?' ∉ t.toList) ∧
      largeOrders.compile .select = .ok largeOrdersStatement ∧
      largeOrdersStatement.markCount = largeOrdersStatement.params.length ∧
      ∃ table, largeOrders.table = some table ∧
        largeOrdersStatement.filled Value.typeName =
          largeOrders.inPlace Value.typeName table .select ∧
        largeOrders.inPlace Value.typeName table .select =
          "SELECT COUNT(*) AS count FROM (SELECT user FROM orders WHERE " ++
            "total BETWEEN INT AND DOUBLE AND state NOT IN (VARCHAR,BIGINT UNSIGNED) AND paid " ++
            "GROUP BY user) AS grouped" := by
  have free : ∀ t ∈ largeOrders.callerTexts, '?' ∉ t.toList := by decide
  have compiled : largeOrders.compile .select = .ok largeOrdersStatement := by rfl
  obtain ⟨count, table, ht, filled⟩ :=
    filled_of_compile Value.typeName largeOrders .select largeOrdersStatement free compiled
  refine ⟨free, compiled, count, table, ht, filled, ?_⟩
  cases ht
  rfl

end QueryLoom
