import QueryLoom.Pointwise
import QueryLoom.Proofs.Clauses

/-!
# Unique readability

When the texts of the caller are words, a statement determines what was gathered for it.

* `Rendering`, `Draft.rendering` : what a draft shows in the statements of a kind;
* `legible_selectText`, `legible_insertText`, `legible_updateText`, `legible_deleteText` : what can
  be told from the texts, which is everything but the values;
* `readable_of_compile` : equal statements show the same.
-/

namespace QueryLoom

/-! ## What a statement shows -/

/-- What is shown in a statement. -/
structure Rendering where
  table : Option String := none
  fields : List String := []
  joins : List Join := []
  predicates : List Predicate := []
  fragments : List String := []
  groups : List String := []
  sortKeys : List SortKey := []
  limit : Option UInt64 := none
  offset : Option UInt64 := none
  payload : List (String × Value) := []
  deriving DecidableEq

namespace Draft

/-- What a draft shows in the statements of a kind. -/
def rendering (d : Draft) : Statement.Kind → Rendering
  | .select =>
    { table := d.table, fields := d.fields, joins := d.joins, predicates := d.predicates,
      fragments := d.fragments, groups := d.groups, sortKeys := d.sortKeys,
      limit := counting d.limit, offset := d.shownOffset }
  | .insert => { table := d.table, payload := d.payload }
  | .update =>
    { table := d.table, payload := d.payload, predicates := d.predicates,
      fragments := d.fragments }
  | .delete => { table := d.table, predicates := d.predicates, fragments := d.fragments }

/-! ## Statements -/

/-- The table of a statement. -/
def tableText (d : Draft) : String := d.table.getD ""

theorem legible_tableText {leads : List String} (stops : StopWords leads) :
    Legible tableText tableText Worded leads :=
  (legible_word tableText stops).weaken fun _ hd => hd.table

theorem legible_sourceText :
    Legible (fun d => d.sourceText d.tableText)
      (fun d => (((d.tableText, d.joins), d.predicates.map Predicate.outline, d.fragments),
        d.groups)) Worded [" ORDER BY ", " LIMIT "] := by
  have table : Legible (fun d => " FROM " ++ d.tableText) tableText Worded
      (joinLeads ++ " WHERE " :: afterWhere) := (legible_tableText (by decide)).after " FROM "
  have joined := table.append legible_joinText fun d _ => d.behind_joinText
  have restricted : Legible (fun d => " FROM " ++ d.tableText ++ d.joinText ++ d.whereText) _
      Worded ([" GROUP BY "] ++ [" ORDER BY ", " LIMIT "]) :=
    Legible.append (joined : Legible _ _ _ ([" WHERE "] ++ afterWhere)) legible_whereText
      fun d _ => behind_optional _ " WHERE " _
  exact restricted.append legible_groupText fun d _ => d.behind_groupText

/-- A `SELECT` without an aggregate tells everything but the values. -/
theorem legible_selectText :
    Legible (fun d : Draft => d.selectText d.tableText)
      (fun d : Draft => (((d.fields, ((d.tableText, d.joins), d.predicates.map Predicate.outline,
        d.fragments), d.groups), d.sortKeys), counting d.limit, d.shownOffset))
      (fun d : Draft => d.aggregate = none ∧ d.Worded) [] := by
  have source (d : Draft) : Behind [" FROM "] (d.sourceText d.tableText).toList :=
    .inr ⟨" FROM ", List.mem_singleton_self _, by simp [sourceText, String.append_assoc]⟩
  have fields : Legible (fun d : Draft => "SELECT " ++ d.fieldText) Draft.fields Worded
      ([" FROM "] ++ [" ORDER BY ", " LIMIT "]) := legible_fieldText.after "SELECT "
  have listed := fields.append legible_sourceText fun d _ => source d
  have ordered : Legible
      (fun d => "SELECT " ++ d.fieldText ++ d.sourceText d.tableText ++ d.orderText) _ Worded
      ([" LIMIT "] ++ []) :=
    Legible.append (listed : Legible _ _ _ ([" ORDER BY "] ++ [" LIMIT "])) legible_orderText
      fun d _ => d.behind_orderText
  have whole := ordered.append legible_pagingText fun d _ => d.behind_pagingText
  refine (whole.weaken fun d hd => hd.2).congr fun d hd => ?_
  rw [selectText, hd.1]

/-- The columns of an `INSERT` can be told. -/
theorem legible_insertText :
    Legible (fun d : Draft => d.insertText d.tableText)
      (fun d : Draft => (d.tableText, d.payload.map (·.1)))
      (fun d : Draft => d.payload ≠ [] ∧ d.Worded) [] := by
  have columns : Legible (fun d : Draft => ",".intercalate (d.payload.map (·.1)))
      (fun d : Draft => d.payload.map (·.1)) (fun d : Draft => d.payload ≠ [] ∧ d.Worded)
      ([") VALUES("] ++ []) := by
    have names : Legible (fun ws : List String => ",".intercalate ws) id
        (fun ws => ws ≠ [] ∧ ∀ w ∈ ws, IsWord w) [") VALUES("] :=
      legible_words (by decide) (by decide)
    have listed := names.comap fun d : Draft => d.payload.map (·.1)
    refine listed.weaken fun d hd => ⟨by simpa using hd.1, fun t ht => ?_⟩
    obtain ⟨c, hc, rfl⟩ := List.mem_map.1 ht
    exact hd.2.each.payload c hc
  have values : Legible (fun d : Draft => ") VALUES(" ++ (marks d.payload.length ++ ")"))
      (fun d => d.payload.length) (fun d => d.payload ≠ [] ∧ d.Worded) [] :=
    ((legible_marks.comap fun d : Draft => d.payload.length).after _).weaken fun _ _ => trivial
  have row := (columns.append values fun d _ => behind_optional true ") VALUES(" _).after "("
  have table : Legible (fun d => "INSERT INTO " ++ d.tableText) tableText
      (fun d : Draft => d.payload ≠ [] ∧ d.Worded) (["("] ++ []) :=
    ((legible_tableText (by decide)).after _).weaken fun _ hd => hd.2
  have whole := table.append row fun d _ => behind_optional true "(" _
  refine (whole.congr fun d _ => ?_).rekey fun d e _ _ same => ?_
  · unfold insertText
    simp only [String.append_assoc]
  · simp only [Prod.mk.injEq] at same ⊢
    exact ⟨same.1, same.2.1⟩

/-- An `UPDATE` tells everything but the values. -/
theorem legible_updateText :
    Legible (fun d : Draft => d.updateText d.tableText)
      (fun d : Draft => (d.tableText, d.payload.map (·.1), d.predicates.map Predicate.outline,
        d.fragments)) (fun d : Draft => d.payload ≠ [] ∧ d.Worded) [] := by
  have setting : Legible (fun c : String × Value => c.1 ++ "=?") Prod.fst (fun c => IsWord c.1)
      ["," , " WHERE "] := (legible_word Prod.fst (by decide)).before
  have settings : Legible (fun d : Draft => ",".intercalate (d.payload.map fun c => c.1 ++ "=?"))
      (fun d : Draft => d.payload.map (·.1)) (fun d : Draft => d.payload ≠ [] ∧ d.Worded)
      ([" WHERE "] ++ []) :=
    ((setting.separated (by decide) (by decide)).comap fun d : Draft => d.payload).weaken
      fun d hd => ⟨hd.1, hd.2.each.payload⟩
  have conditions := (legible_whereText.mono (List.nil_subset _)).weaken
    fun d (hd : d.payload ≠ [] ∧ d.Worded) => hd.2
  have body := (settings.append conditions fun d _ => behind_optional _ " WHERE " _).after " SET "
  have table : Legible (fun d => "UPDATE " ++ d.tableText) tableText
      (fun d : Draft => d.payload ≠ [] ∧ d.Worded) ([" SET "] ++ []) :=
    ((legible_tableText (by decide)).after _).weaken fun _ hd => hd.2
  refine (table.append body fun d _ => behind_optional true " SET " _).congr fun d _ => ?_
  unfold updateText
  simp only [String.append_assoc]

/-- A `DELETE` tells everything but the values. -/
theorem legible_deleteText :
    Legible (fun d : Draft => d.deleteText d.tableText)
      (fun d : Draft => (d.tableText, d.predicates.map Predicate.outline, d.fragments))
      Worded [] := by
  have table : Legible (fun d => "DELETE FROM " ++ d.tableText) tableText Worded
      ([" WHERE "] ++ []) := (legible_tableText (by decide)).after _
  exact table.append (legible_whereText.mono (List.nil_subset _))
    fun d _ => behind_optional _ " WHERE " _

end Draft

/-! ## Values -/

section Values

variable {R : Value → Value → Prop}

/-- Predicates that differ in their values only, and in those no more than `R` allows. -/
structure Predicate.Agree (R : Value → Value → Prop) (p q : Predicate) : Prop where
  field : p.field = q.field
  operator : p.operator = q.operator
  values : List.Forall₂ R p.values q.values

/-- What is shown differs in values only, and in those no more than `R` allows. -/
structure Rendering.Agree (R : Value → Value → Prop) (x y : Rendering) : Prop where
  others : { x with predicates := [], payload := [] } = { y with predicates := [], payload := [] }
  predicates : List.Forall₂ (Predicate.Agree R) x.predicates y.predicates
  payload : List.Forall₂ (fun c c' => c.1 = c'.1 ∧ R c.2 c'.2) x.payload y.payload

/-- The arguments of conditions are shared out among the predicates by their outlines. -/
theorem agree_of_outlines {ps qs : List Predicate}
    (h : ps.map Predicate.outline = qs.map Predicate.outline)
    (values : List.Forall₂ R (ps.flatMap Predicate.values) (qs.flatMap Predicate.values)) :
    List.Forall₂ (Predicate.Agree R) ps qs := by
  induction ps generalizing qs with
  | nil =>
    rw [List.map_nil, eq_comm, List.map_eq_nil_iff] at h
    rw [h]
    exact .nil
  | cons p ps ih =>
    cases qs with
    | nil => cases h
    | cons q qs =>
      simp only [List.map_cons, List.cons.injEq, Predicate.outline, Prod.mk.injEq] at h
      obtain ⟨⟨field, operator, arity⟩, rest⟩ := h
      obtain ⟨here, there⟩ := forall₂_append_inv arity values
      exact .cons ⟨field, operator, here⟩ (ih rest there)

theorem agree_of_columns {cs ds : List (String × Value)} (h : cs.map (·.1) = ds.map (·.1))
    (values : List.Forall₂ R (cs.map (·.2)) (ds.map (·.2))) :
    List.Forall₂ (fun c c' => c.1 = c'.1 ∧ R c.2 c'.2) cs ds := by
  induction cs generalizing ds with
  | nil =>
    rw [List.map_nil, eq_comm, List.map_eq_nil_iff] at h
    rw [h]
    exact .nil
  | cons c cs ih =>
    cases ds with
    | nil => cases h
    | cons d ds =>
      obtain ⟨column, columns⟩ := List.cons.inj h
      cases values with
      | cons here there => exact .cons ⟨column, here⟩ (ih columns there)

/-- A predicate is determined by its parts. -/
theorem Predicate.eq_of_agree {p q : Predicate} (h : p.Agree Eq q) : p = q := by
  obtain ⟨fields, operators, values⟩ := h
  rw [List.forall₂_eq_eq_eq] at values
  cases p with
  | scalar f op v =>
    cases q with
    | scalar g op' w =>
      cases fields
      cases operators
      cases values
      rfl
    | list g negated ws => cases negated <;> cases operators
    | between g lo hi => cases operators
  | list f negated vs =>
    cases q with
    | scalar g op' w => cases negated <;> cases operators
    | list g negated' ws =>
      cases fields
      cases values
      cases negated <;> cases negated' <;> first | rfl | cases operators
    | between g lo hi => cases negated <;> cases operators
  | between f lo hi =>
    cases q with
    | scalar g op' w => cases operators
    | list g negated ws => cases negated <;> cases operators
    | between g lo' hi' =>
      cases fields
      cases values
      rfl

theorem Rendering.eq_of_agree {x y : Rendering} (h : x.Agree Eq y) : x = y := by
  obtain ⟨others, predicates, payload⟩ := h
  have conditions := predicates.imp fun _ _ => Predicate.eq_of_agree
  have columns := payload.imp fun c c' same => Prod.ext same.1 same.2
  rw [List.forall₂_eq_eq_eq] at conditions columns
  cases x
  cases y
  simp only [Rendering.mk.injEq] at others ⊢
  exact ⟨others.1, others.2.1, others.2.2.1, conditions, others.2.2.2.2.1, others.2.2.2.2.2.1,
    others.2.2.2.2.2.2.1, others.2.2.2.2.2.2.2.1, others.2.2.2.2.2.2.2.2.1, columns⟩

/-! ### Equality of what is meant -/

/-- Equality of statements, their arguments compared as values. -/
def Statement.same (s t : Statement) : Bool :=
  s.sql == t.sql && Predicate.sameValues s.params t.params

/-- Equality of what is shown, its values compared as values. -/
def Rendering.same (x y : Rendering) : Bool :=
  { x with predicates := [], payload := [] } == { y with predicates := [], payload := [] } &&
    Draft.samePredicates x.predicates y.predicates && Draft.samePayload x.payload y.payload

theorem sameValues_iff {vs ws : List Value} :
    Predicate.sameValues vs ws = true ↔ List.Forall₂ (fun v w => v.same w = true) vs ws := by
  induction vs generalizing ws with
  | nil => cases ws <;> simp [Predicate.sameValues]
  | cons v vs ih => cases ws <;> simp [Predicate.sameValues, ih]

theorem samePredicates_of_agree {ps qs : List Predicate}
    (h : List.Forall₂ (Predicate.Agree fun v w => v.same w = true) ps qs) :
    Draft.samePredicates ps qs = true := by
  induction h with
  | nil => rfl
  | cons agree _ ih =>
    simp [Draft.samePredicates, Predicate.same, agree.field, agree.operator,
      sameValues_iff.2 agree.values, ih]

theorem samePayload_of_agree {cs ds : List (String × Value)}
    (h : List.Forall₂ (fun c c' => c.1 = c'.1 ∧ c.2.same c'.2 = true) cs ds) :
    Draft.samePayload cs ds = true := by
  induction h with
  | nil => rfl
  | cons agree _ ih => simp [Draft.samePayload, agree.1, agree.2, ih]

theorem Rendering.same_of_agree {x y : Rendering} (h : x.Agree (fun v w => v.same w = true) y) :
    x.same y = true := by
  simp only [Rendering.same, h.others, samePredicates_of_agree h.predicates,
    samePayload_of_agree h.payload, beq_self_eq_true, Bool.and_self]

end Values

/-! ## Main statement -/

namespace Draft

variable {d e : Draft} {kind : Statement.Kind} {s t : Statement}

/-- The text of the statement of a kind. -/
def textOf (d : Draft) : Statement.Kind → String
  | .select => d.selectText d.tableText
  | .insert => d.insertText d.tableText
  | .update => d.updateText d.tableText
  | .delete => d.deleteText d.tableText

/-- The arguments of the statement of a kind. -/
def argumentsOf (d : Draft) : Statement.Kind → List Value
  | .select | .delete => d.whereArguments
  | .insert => d.payloadArguments
  | .update => d.payloadArguments ++ d.whereArguments

/-- The kinds of statements that have columns. -/
def hasColumns (kind : Statement.Kind) : Prop := kind = .insert ∨ kind = .update

/-- What a compiled statement consists of. -/
theorem parts_of_compile (h : d.compile kind = .ok s) :
    d.table = some d.tableText ∧ (hasColumns kind → d.payload ≠ []) ∧
      s = ⟨d.textOf kind, d.argumentsOf kind⟩ := by
  obtain ⟨table, found, made⟩ := made_of_compile h
  have same : d.tableText = table := by simp [tableText, found]
  refine ⟨by rw [same, found], ?_⟩
  cases kind with
  | select =>
    cases made
    exact ⟨by simp [hasColumns], by rw [textOf, same]; rfl⟩
  | insert | update =>
    obtain ⟨columns, rfl⟩ := made
    exact ⟨fun _ => columns, by rw [textOf, same]; rfl⟩
  | delete =>
    obtain ⟨-, rfl⟩ := made
    exact ⟨by simp [hasColumns], by rw [textOf, same]; rfl⟩

end Draft

/-- Statements with the same text and related arguments show the same up to related values. -/
theorem agree_of_compile {R : Value → Value → Prop} {d e : Draft} {kind : Statement.Kind}
    {s t : Statement} (words : d.Worded) (words' : e.Worded) (plain : d.aggregate = none)
    (plain' : e.aggregate = none) (h : d.compile kind = .ok s) (k : e.compile kind = .ok t)
    (text : s.sql = t.sql) (params : List.Forall₂ R s.params t.params) :
    (d.rendering kind).Agree R (e.rendering kind) := by
  obtain ⟨table, columns, rfl⟩ := Draft.parts_of_compile h
  obtain ⟨table', columns', rfl⟩ := Draft.parts_of_compile k
  have same : d.textOf kind = e.textOf kind := text
  have texts : (d.textOf kind).toList ++ [] = (e.textOf kind).toList ++ [] := by rw [same]
  cases kind with
  | select =>
    have keys := (Draft.legible_selectText d e ⟨plain, words⟩ ⟨plain', words'⟩ [] [] .nil .nil
      texts).1
    simp only [Prod.mk.injEq] at keys
    obtain ⟨⟨⟨fields, ⟨⟨tables, joins⟩, outlines, fragments⟩, groups⟩, sortKeys⟩, limit, offset⟩ :=
      keys
    refine ⟨?_, agree_of_outlines outlines params, .nil⟩
    simp only [Draft.rendering, table, table', fields, tables, joins, fragments, groups, sortKeys,
      limit, offset]
  | insert =>
    have some := columns (.inl rfl)
    have some' := columns' (.inl rfl)
    have keys := (Draft.legible_insertText d e ⟨some, words⟩ ⟨some', words'⟩ [] [] .nil .nil
      texts).1
    simp only [Prod.mk.injEq] at keys
    refine ⟨?_, .nil, agree_of_columns keys.2 params⟩
    simp only [Draft.rendering, table, table', keys.1]
  | update =>
    have some := columns (.inr rfl)
    have some' := columns' (.inr rfl)
    have keys := (Draft.legible_updateText d e ⟨some, words⟩ ⟨some', words'⟩ [] [] .nil .nil
      texts).1
    simp only [Prod.mk.injEq] at keys
    obtain ⟨tables, names, outlines, fragments⟩ := keys
    have length : d.payloadArguments.length = e.payloadArguments.length := by
      simpa [Draft.payloadArguments] using congrArg List.length names
    obtain ⟨settings, conditions⟩ := forall₂_append_inv length params
    refine ⟨?_, agree_of_outlines outlines conditions, agree_of_columns names settings⟩
    simp only [Draft.rendering, table, table', tables, fragments]
  | delete =>
    have keys := (Draft.legible_deleteText d e words words' [] [] .nil .nil texts).1
    simp only [Prod.mk.injEq] at keys
    obtain ⟨tables, outlines, fragments⟩ := keys
    refine ⟨?_, agree_of_outlines outlines params, .nil⟩
    simp only [Draft.rendering, table, table', tables, fragments]

/-- When the texts of the caller are words and nothing is aggregated, two drafts with the same
statement show the same in it: whether sameness is equality, or equality of what is meant, in which
floating-point numbers are compared as numbers. -/
theorem readable_of_compile (d e : Draft) (kind : Statement.Kind) (s t : Statement)
    (words : ∀ w ∈ d.callerTexts, IsWord w) (words' : ∀ w ∈ e.callerTexts, IsWord w)
    (plain : d.aggregate = none) (plain' : e.aggregate = none)
    (h : d.compile kind = .ok s) (k : e.compile kind = .ok t) :
    (s = t → d.rendering kind = e.rendering kind) ∧
      (s.same t = true → (d.rendering kind).same (e.rendering kind) = true) := by
  constructor
  · rintro rfl
    have params : List.Forall₂ Eq s.params s.params := List.forall₂_refl _
    exact Rendering.eq_of_agree (agree_of_compile words words' plain plain' h k rfl params)
  · intro same
    simp only [Statement.same, Bool.and_eq_true, beq_iff_eq] at same
    exact Rendering.same_of_agree (agree_of_compile words words' plain plain' h k same.1
      (sameValues_iff.1 same.2))

/-- Orders in a range and out of a list, gathered call by call. -/
def listedOrders : Draft :=
  ({ table := some "orders" } : Draft).applyAll
    [.select ["id", "total"], .join ⟨.left, "users", "linked"⟩,
      .require false (.between "total" (.int32 1) (.int32 5)),
      .require false (.among "state" true [.text "new", .uint64 7]), .fragment "paid",
      .orderBy ⟨"total", .descending⟩, .limit 10, .offset 0]

/-- The same, gathered in another order and with an offset never given. -/
def relistedOrders : Draft :=
  ({ table := some "orders" } : Draft).applyAll
    [.limit 3, .fragment "paid", .orderBy ⟨"total", .ofText " desc "⟩,
      .join ⟨.left, "users", "linked"⟩, .selectText "id, total",
      .require false (.between "total" (.int32 1) (.int32 5)),
      .require true (.among "state" true [.text "new", .uint64 7]), .limit 10]

/-- The statement of both. -/
def listedOrdersStatement : Statement where
  sql := "SELECT id,total FROM orders LEFT JOIN users ON linked WHERE total BETWEEN ? AND ? AND " ++
    "state NOT IN (?,?) AND paid ORDER BY total DESC LIMIT 10"
  params := [.int32 1, .int32 5, .text "new", .uint64 7]

/-- The two drafts are not equal, but they show the same. -/
theorem readable_listedOrders :
    listedOrders ≠ relistedOrders ∧ (∀ w ∈ listedOrders.callerTexts, IsWord w) ∧
      (∀ w ∈ relistedOrders.callerTexts, IsWord w) ∧ listedOrders.aggregate = none ∧
      relistedOrders.aggregate = none ∧
      listedOrders.compile .select = .ok listedOrdersStatement ∧
      relistedOrders.compile .select = .ok listedOrdersStatement ∧
      listedOrders.rendering .select = relistedOrders.rendering .select ∧
      (listedOrders.rendering .select).same (relistedOrders.rendering .select) = true := by
  have words : ∀ w ∈ listedOrders.callerTexts, IsWord w := by decide
  have words' : ∀ w ∈ relistedOrders.callerTexts, IsWord w := by decide
  have compiled : listedOrders.compile .select = .ok listedOrdersStatement := by rfl
  have compiled' : relistedOrders.compile .select = .ok listedOrdersStatement := by rfl
  have shown := readable_of_compile listedOrders relistedOrders .select listedOrdersStatement
    listedOrdersStatement words words' rfl rfl compiled compiled'
  exact ⟨by decide, words, words', rfl, rfl, compiled, compiled', shown.1 rfl, shown.2 (by decide)⟩

end QueryLoom
