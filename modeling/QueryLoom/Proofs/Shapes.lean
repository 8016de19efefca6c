import QueryLoom.Proofs.Clauses
import QueryLoom.Proofs.Conjunction

/-!
# Shapes of predicates

However a draft was gathered, its structured conditions have operands of the shapes that their
operators take, and no list among them is empty or has an element that may not stand in a list.

* `Predicate.make_eq_ok_iff` : the parts from which a predicate is made;
* `Predicate.Shaped` : a predicate that is made of its parts, with something in its list;
* `Draft.shaped_applyAll` : every chain of calls keeps the predicates shaped;
* `Predicate.Shaped.solid_operation` : what a shaped predicate adds to its field has no list without
  elements;
* `Draft.solid_of_compile` : neither has a statement, unless a text of the caller brings one along;
* `shaped_chain` : the shapes, the marks and the lists of every draft that calls can reach.
-/

namespace QueryLoom

/-! ## What predicates are made of -/

/-- The values that may stand in a list. -/
inductive Value.Listable : Value → Prop where
  | int32 (n : Int32) : Listable (.int32 n)
  | int64 (n : Int64) : Listable (.int64 n)
  | uint64 (n : UInt64) : Listable (.uint64 n)
  | text (s : String) : Listable (.text s)

theorem Value.isListElement_iff {v : Value} : v.isListElement = true ↔ v.Listable := by
  constructor
  · intro h
    cases v with
    | int32 n => exact .int32 n
    | int64 n => exact .int64 n
    | uint64 n => exact .uint64 n
    | text s => exact .text s
    | null | bool _ | float32 _ | float64 _ | bytes _ | json _ | dateTime _ => cases h
  · rintro (_ | _ | _ | _) <;> rfl

namespace Predicate

variable {field : String} {p : Predicate}

theorem makeList_eq_ok_iff {negated : Bool} {vs : List Value} :
    makeList field negated vs = .ok p ↔
      (∀ v ∈ vs, v.Listable) ∧ p = .list field negated vs := by
  unfold makeList
  cases found : vs.find? fun v => !v.isListElement with
  | some bad =>
    have member := List.mem_of_find?_eq_some found
    have other : ¬ bad.Listable := by
      rw [← Value.isListElement_iff]
      simpa using List.find?_some found
    simp only [reduceCtorEq, false_iff, not_and]
    exact fun all => absurd (all bad member) other
  | none =>
    have all : ∀ v ∈ vs, v.Listable := by
      intro v member
      rw [← Value.isListElement_iff]
      simpa using List.find?_eq_none.1 found v member
    rw [and_iff_right all, Except.ok.injEq, eq_comm]

/-- A predicate is made when its operand has the shape that the operator takes and every element of
a list may stand there; it then has the parts of which it was made. -/
theorem make_eq_ok_iff {op : Operator} {x : Operand} :
    make field op x = .ok p ↔
      (x.fits op.kind = true ∧ ∀ vs, x = .list vs → ∀ v ∈ vs, v.Listable) ∧
        p.field = field ∧ p.operator = op ∧ p.operand = x := by
  constructor
  · intro h
    cases op with
    | scalar op =>
      cases x with
      | single v =>
        cases h
        exact ⟨⟨by cases op <;> rfl, by simp⟩, rfl, rfl, rfl⟩
      | range _ _ | list _ => cases h
    | between =>
      cases x with
      | range lo hi =>
        cases h
        exact ⟨⟨rfl, by simp⟩, rfl, rfl, rfl⟩
      | single _ | list _ => cases h
    | isIn | notIn =>
      cases x with
      | list vs =>
        obtain ⟨all, rfl⟩ := makeList_eq_ok_iff.1 h
        exact ⟨⟨rfl, by simpa using all⟩, rfl, rfl, rfl⟩
      | single _ | range _ _ => cases h
  · rintro ⟨⟨-, listable⟩, rfl, rfl, rfl⟩
    refine p.make_operator_operand fun f negated vs same v member => ?_
    subst same
    exact Value.isListElement_iff.2 (listable vs rfl v member)

/-- Whatever a predicate was made of, it is made again of its own parts. -/
theorem make_of_make {op : Operator} {x : Operand} (h : make field op x = .ok p) :
    make p.field p.operator p.operand = .ok p := by
  obtain ⟨-, rfl, rfl, rfl⟩ := make_eq_ok_iff.1 h
  exact h

/-- A predicate that is made of its own parts, with something in its list. -/
structure Shaped (p : Predicate) : Prop where
  made : make p.field p.operator p.operand = .ok p
  nonempty : ∀ vs, p.operand = .list vs → vs ≠ []

/-- A predicate on a single value is shaped. -/
theorem shaped_of_make_single {op : Operator} {v : Value}
    (h : make field op (.single v) = .ok p) : p.Shaped where
  made := make_of_make h
  nonempty vs list := by
    rw [(make_eq_ok_iff.1 h).2.2.2] at list
    cases list

end Predicate

/-! ## Shapes along calls -/

namespace Condition

theorem ofExcept_eq_accepted {x : Except BuildError Predicate} {p : Predicate} :
    Outcome.ofExcept x = .accepted p ↔ x = .ok p := by
  cases x <;> simp [Outcome.ofExcept]

theorem shaped_of_build {field : String} {op : Operator.Given} {v : Value} {p : Predicate}
    (h : Outcome.ofExcept (build field op (.single v)) = .accepted p) : p.Shaped := by
  rw [ofExcept_eq_accepted, build] at h
  split at h
  · exact Predicate.shaped_of_make_single h
  · cases h

/-- Whichever way a condition was asked for, the predicate that comes of it is shaped. -/
theorem shaped_of_attempt {c : Condition} {p : Predicate} (h : c.attempt = .accepted p) :
    p.Shaped := by
  cases c with
  | compare field op v => exact shaped_of_build h
  | number field op text =>
    rw [attempt] at h
    split at h
    · exact shaped_of_build h
    · cases h
  | numeral field op n => exact shaped_of_build h
  | among field negated vs =>
    rw [attempt] at h
    split at h
    · cases h
    · rename_i some
      rw [ofExcept_eq_accepted] at h
      obtain ⟨-, rfl⟩ := Predicate.makeList_eq_ok_iff.1 h
      refine ⟨?_, ?_⟩
      · cases negated <;> exact h
      · rintro _ ⟨⟩ rfl
        exact some rfl
  | like field matching text =>
    cases h
    exact ⟨rfl, fun _ list => by cases list⟩
  | between field lo hi =>
    cases h
    exact ⟨rfl, fun _ list => by cases list⟩

theorem shaped_of_outcome {skipZero : Bool} {c : Condition} {p : Predicate}
    (h : c.outcome skipZero = .accepted p) : p.Shaped := by
  rw [outcome] at h
  split at h
  · cases h
  · exact shaped_of_attempt h

end Condition

namespace Draft

/-- Every predicate of the draft is shaped. -/
def Shaped (d : Draft) : Prop := ∀ p ∈ d.predicates, p.Shaped

theorem shaped_apply (d : Draft) (c : Call) (h : d.Shaped) : (d.apply c).Shaped := by
  cases c with
  | require skipZero c =>
    rw [apply]
    cases found : c.outcome skipZero with
    | skipped => exact h
    | rejected e => exact h
    | accepted p =>
      intro q member
      rcases List.mem_append.1 member with old | new
      · exact h q old
      · rw [List.mem_singleton.1 new]
        exact Condition.shaped_of_outcome found
  | select _ | selectText _ | fragment _ | join _ | orderBy _ | groupBy _ | limit _ | offset _ =>
    exact h

/-- Every chain of calls keeps the predicates shaped. -/
theorem shaped_applyAll {d : Draft} (h : d.Shaped) (calls : List Call) :
    (d.applyAll calls).Shaped :=
  applyAll_induction shaped_apply h calls

end Draft

/-! ## Marks of a predicate -/

theorem Operator.plain_opening (op : Operator) : Plain op.opening := by
  have all : ∀ op ∈ Operator.all, Plain op.opening := by decide +kernel
  exact all op (mem_all op)

namespace Predicate

/-- A predicate has a slot for each of its values. -/
theorem count_slots (p : Predicate) : p.slots.toList.count '?' = p.values.length := by
  cases p with
  | scalar _ _ _ => simp [slots, values]
  | between _ _ _ => simp [slots, values]
  | list _ _ vs => simp [slots, values, count_marks]

/-- What stands behind the field of a predicate has a mark for each of its values. -/
theorem count_operation (p : Predicate) :
    (p.operator.opening ++ p.slots).toList.count '?' = p.values.length := by
  rw [String.toList_append, List.count_append, p.count_slots,
    List.count_eq_zero.2 (unmarked_compositional.plain p.operator.plain_opening), Nat.zero_add]

end Predicate

/-! ## Empty lists -/

/-- The end of a condition on a list without elements. -/
def emptyList : List Char := ['I', 'N', ' ', '(', ')']

/-- The text has no list without elements, and none comes about when it stands between others of its
kind: it does not begin with what may complete one, or end with an open bracket. -/
structure Solid (s : String) : Prop where
  inner : ¬ emptyList <:+: s.toList
  front : ∀ rest ∈ emptyList.tails, rest ≠ [] → ¬ rest <+: s.toList
  back : s.toList.getLast? ≠ some '('

instance (s : String) : Decidable (Solid s) :=
  decidable_of_iff (¬ emptyList <:+: s.toList ∧
    (∀ rest ∈ emptyList.tails, rest ≠ [] → ¬ rest <+: s.toList) ∧
    s.toList.getLast? ≠ some '(') ⟨fun h => ⟨h.1, h.2.1, h.2.2⟩, fun h => ⟨h.1, h.2, h.3⟩⟩

namespace Solid

variable {s t : String}

theorem append (hs : Solid s) (ht : Solid t) : Solid (s ++ t) where
  inner list := by
    rw [String.toList_append] at list
    rcases List.infix_append_iff.1 list with left | right | ⟨begun, rest, split, behind, before⟩
    · exact hs.inner left
    · exact ht.inner right
    · by_cases none : rest = []
      · rw [none, List.append_nil] at split
        exact hs.inner (split ▸ behind.isInfix)
      · exact ht.front rest ((List.mem_tails _ _).2 ⟨begun, split.symm⟩) none before
  front rest member some begins := by
    rw [String.toList_append] at begins
    obtain ⟨u, same⟩ := begins
    rcases List.append_eq_append_iff.1 same with ⟨v, text, -⟩ | ⟨v, split, text⟩
    · exact hs.front rest member some ⟨v, text.symm⟩
    · by_cases none : v = []
      · rw [none, List.append_nil] at split
        exact hs.front rest member some (by rw [split])
      · have completes : v <:+ emptyList :=
          List.IsSuffix.trans ⟨s.toList, split.symm⟩ ((List.mem_tails _ _).1 member)
        exact ht.front v ((List.mem_tails _ _).2 completes) none ⟨u, text.symm⟩
  back last := by
    rw [String.toList_append, List.getLast?_append, Option.or_eq_some_iff] at last
    rcases last with last | ⟨-, last⟩
    · exact ht.back last
    · exact hs.back last

/-- Brackets around something. -/
theorem bracketed (hs : Solid s) (content : s ≠ "") : Solid ("(" ++ s ++ ")") := by
  have chars : ("(" ++ s ++ ")").toList = '(' :: s.toList ++ [')'] := by simp
  have inside : s.toList ≠ [] := fun none => content (String.toList_eq_nil_iff.1 none)
  refine ⟨fun list => ?_, fun rest member some begins => ?_, ?_⟩
  · rw [chars, List.infix_concat_iff, List.infix_cons_iff] at list
    rcases list with ⟨u, same⟩ | ⟨u, same⟩ | within
    · -- A list that ends with the last bracket has an open one right before it.
      have split : emptyList = ['I', 'N', ' ', '('] ++ [')'] := rfl
      rw [split, ← List.append_assoc] at same
      have front : u ++ ['I', 'N', ' ', '('] = ['('] ++ s.toList := (List.append_inj' same rfl).1
      have last := congrArg List.getLast? front
      rw [List.getLast?_append_of_ne_nil _ inside,
        List.getLast?_append_of_ne_nil _ (by simp)] at last
      exact hs.back last.symm
    · exact absurd (List.head_eq_of_cons_eq same) (by decide)
    · exact hs.inner within
  · have opens : ∀ rest ∈ emptyList.tails, rest.head? = Option.some '(' → rest = ['(', ')'] := by
      decide
    obtain ⟨c, cs, rfl⟩ := List.exists_cons_of_ne_nil some
    obtain ⟨d, ds, text⟩ := List.exists_cons_of_ne_nil inside
    obtain ⟨u, same⟩ := begins
    rw [chars, text] at same
    obtain rfl : c = '(' := List.head_eq_of_cons_eq same
    obtain rfl : cs = [')'] := List.tail_eq_of_cons_eq (opens _ member rfl)
    obtain rfl : ')' = d := List.head_eq_of_cons_eq (List.tail_eq_of_cons_eq same)
    exact hs.front [')'] (by decide) (by decide) ⟨ds, text.symm⟩
  · have closing : (")".toList).getLast? = some ')' := rfl
    rw [String.toList_append, List.getLast?_append, closing, Option.some_or]
    decide

/-- Brackets around something, within a text. -/
theorem enclosed (lead tail : String) {opening closing : String} (hl : Solid lead)
    (ht : Solid tail) (hs : Solid s) (content : s ≠ "") (opens : opening = lead ++ "(")
    (closes : closing = ")" ++ tail) : Solid (opening ++ s ++ closing) := by
  have whole := (hl.append (hs.bracketed content)).append ht
  simpa only [opens, closes, String.append_assoc] using whole

end Solid

theorem solid_compositional : Compositional Solid where
  plain {s} h := by
    have closing : ')' ∉ s.toList := fun member => (h _ member).2.2 rfl
    refine ⟨fun list => ?_, fun rest member some begins => ?_, fun last => ?_⟩
    · exact closing (list.subset (by decide))
    · have closes : ∀ rest ∈ emptyList.tails, rest ≠ [] → ')' ∈ rest := by decide
      exact closing (begins.subset (closes rest member some))
    · exact (h '(' (List.mem_of_getLast? last)).2.1 rfl
  append := Solid.append

theorem marks_ne_empty {n : Nat} (some : n ≠ 0) : marks n ≠ "" := by
  intro empty
  have none := count_marks n
  rw [empty] at none
  exact some none.symm

theorem intercalate_ne_empty {sep t : String} (some : t ≠ "") (ts : List String) :
    sep.intercalate (t :: ts) ≠ "" := by
  cases ts with
  | nil => simpa using some
  | cons u us => simp [String.intercalate_cons_cons, some]

theorem solid_marks (n : Nat) : Solid (marks n) :=
  solid_compositional.intercalate (by decide) fun t member => by
    rw [List.eq_of_mem_replicate member]
    decide

/-- What a shaped predicate adds to its field has no list without elements. -/
theorem Predicate.Shaped.solid_operation {p : Predicate} (h : p.Shaped) :
    Solid (p.operator.opening ++ p.slots) := by
  refine (solid_compositional.plain p.operator.plain_opening).append ?_
  cases p with
  | scalar _ _ _ => exact (by decide : Solid "?")
  | between _ _ _ => exact (by decide : Solid "? AND ?")
  | list _ _ vs =>
    have some : vs.length ≠ 0 := by simpa using h.nonempty vs rfl
    exact (solid_marks _).bracketed (marks_ne_empty some)

/-! ### Statements without empty lists -/

namespace Draft

/-- The columns that stand alone between brackets have names. -/
structure Named (d : Draft) : Prop where
  payload : ∀ c ∈ d.payload, c.1 ≠ ""
  aggregate : ∀ a, d.aggregate = some a → ∀ t, a.column? = some t → t ≠ ""

variable {d : Draft}

theorem solid_whereText (each : d.EachText Solid) (shaped : d.Shaped) : Solid d.whereText := by
  have conditions : ∀ t ∈ d.conditionTexts, Solid t := by
    intro t member
    rcases List.mem_append.1 member with structured | fragment
    · obtain ⟨p, held, rfl⟩ := List.mem_map.1 structured
      rw [p.text_eq]
      exact (each.predicates p held).append (shaped p held).solid_operation
    · exact each.fragments t fragment
  unfold whereText
  split
  · exact Solid.append (by decide) (solid_compositional.intercalate (by decide) conditions)
  · decide

theorem solid_sourceText (each : d.EachText Solid) (shaped : d.Shaped) {table : String}
    (h : d.table = some table) : Solid (d.sourceText table) := by
  have lead : Solid (" FROM " ++ table) := Solid.append (by decide) (each.table table h)
  exact ((lead.append (each.joinText solid_compositional)).append
    (solid_whereText each shaped)).append (each.groupText solid_compositional)

theorem solid_aggregateText (each : d.EachText Solid) (named : d.Named) {a : Aggregate}
    (h : d.aggregate = some a) : Solid a.text := by
  cases a with
  | count => decide
  | sum column =>
    exact .enclosed "SUM" " AS sum" (by decide) (by decide) (each.aggregate _ h column rfl)
      (named.aggregate _ h column rfl) rfl rfl
  | max column =>
    exact .enclosed "MAX" " AS max" (by decide) (by decide) (each.aggregate _ h column rfl)
      (named.aggregate _ h column rfl) rfl rfl
  | min column =>
    exact .enclosed "MIN" " AS min" (by decide) (by decide) (each.aggregate _ h column rfl)
      (named.aggregate _ h column rfl) rfl rfl

theorem solid_selectText (each : d.EachText Solid) (shaped : d.Shaped) (named : d.Named)
    {table : String} (h : d.table = some table) : Solid (d.selectText table) := by
  have source := solid_sourceText each shaped h
  have select : Solid "SELECT " := by decide
  unfold selectText
  cases ha : d.aggregate with
  | none =>
    have front := (select.append (each.fieldText solid_compositional)).append source
    exact (front.append (each.orderText solid_compositional)).append
      (solid_compositional.plain d.plain_pagingText)
  | some a =>
    have front : Solid ("SELECT " ++ a.text) := select.append (solid_aggregateText each named ha)
    by_cases groups : a = .count ∧ ¬ d.groups.isEmpty
    · have inner := (select.append (each.groupedFieldText solid_compositional)).append source
      have lead : Solid ("SELECT " ++ a.text ++ " FROM ") := front.append (by decide)
      have derived : Solid ("SELECT " ++ a.text ++ " FROM " ++ "(" ++
          ("SELECT " ++ d.groupedFieldText ++ d.sourceText table) ++ ") AS grouped") :=
        .enclosed _ " AS grouped" lead (by decide) inner (by simp) rfl rfl
      have split : " FROM (SELECT " = " FROM " ++ ("(" ++ "SELECT ") := rfl
      simpa only [if_pos groups, split, String.append_assoc] using derived
    · simp only [if_neg groups]
      exact front.append source

theorem solid_insertText (each : d.EachText Solid) (named : d.Named) (columns : d.payload ≠ [])
    {table : String} (h : d.table = some table) : Solid (d.insertText table) := by
  have solid : Solid (",".intercalate (d.payload.map (·.1))) := by
    refine solid_compositional.intercalate (by decide) fun t member => ?_
    obtain ⟨c, given, rfl⟩ := List.mem_map.1 member
    exact each.payload c given
  have names : ",".intercalate (d.payload.map (·.1)) ≠ "" := by
    obtain ⟨c, cs, payload⟩ := List.exists_cons_of_ne_nil columns
    rw [payload]
    exact intercalate_ne_empty (named.payload c (by simp [payload])) _
  have values : marks d.payload.length ≠ "" := marks_ne_empty (by simpa using columns)
  have lead : Solid ("INSERT INTO " ++ table) := Solid.append (by decide) (each.table table h)
  have target : Solid ("INSERT INTO " ++ table ++ "(" ++ ",".intercalate (d.payload.map (·.1)) ++
      ") VALUES") := .enclosed _ " VALUES" lead (by decide) solid names rfl rfl
  have whole := Solid.append target ((solid_marks d.payload.length).bracketed values)
  have split : ") VALUES(" = ") VALUES" ++ "(" := rfl
  show Solid ("INSERT INTO " ++ table ++ "(" ++ ",".intercalate (d.payload.map (·.1)) ++
    ") VALUES(" ++ marks d.payload.length ++ ")")
  simpa only [split, String.append_assoc] using whole

theorem solid_updateText (each : d.EachText Solid) (shaped : d.Shaped) {table : String}
    (h : d.table = some table) : Solid (d.updateText table) := by
  have front : Solid ("UPDATE " ++ table ++ " SET ") :=
    (Solid.append (by decide) (each.table table h)).append (by decide)
  have settings : Solid (",".intercalate (d.payload.map fun c => c.1 ++ "=?")) := by
    refine solid_compositional.intercalate (by decide) fun t member => ?_
    obtain ⟨c, given, rfl⟩ := List.mem_map.1 member
    exact (each.payload c given).append (by decide)
  exact (front.append settings).append (solid_whereText each shaped)

theorem solid_deleteText (each : d.EachText Solid) (shaped : d.Shaped) {table : String}
    (h : d.table = some table) : Solid (d.deleteText table) :=
  (Solid.append (by decide) (each.table table h)).append (solid_whereText each shaped)

/-- No compiled statement has a list without elements. -/
theorem solid_of_compile (each : d.EachText Solid) (shaped : d.Shaped) (named : d.Named)
    {kind : Statement.Kind} {s : Statement} (h : d.compile kind = .ok s) : Solid s.sql := by
  obtain ⟨table, found, made⟩ := made_of_compile h
  cases kind with
  | select =>
    cases made
    exact solid_selectText each shaped named found
  | insert =>
    obtain ⟨columns, rfl⟩ := made
    exact solid_insertText each named columns found
  | update =>
    obtain ⟨-, rfl⟩ := made
    exact solid_updateText each shaped found
  | delete =>
    obtain ⟨-, rfl⟩ := made
    exact solid_deleteText each shaped found

end Draft

/-! ## Main statement -/

/-- Every predicate that a chain of calls can reach has an operand of the shape that its operator
takes; a list has at least one element and only elements that may stand there. Behind its field such
a predicate writes one mark for each value that it binds, and no list without elements.

The same then goes for every statement about these predicates, whatever else it is about: an
`INSERT` does not depend on them, every other statement has the conditions as written, and there is
no list without elements in the text as long as no text of the caller has one or a part of one at
its ends, and the columns that stand alone between brackets have names. -/
theorem shaped_chain (table : Option String) (calls : List Call) :
    (∀ p ∈ (({ table := table } : Draft).applyAll calls).predicates,
      p.operand.fits p.operator.kind = true ∧
        (∀ vs, p.operand = .list vs → vs ≠ [] ∧ ∀ v ∈ vs, v.Listable) ∧
        ∃ operation, p.text = p.field ++ operation ∧
          operation.toList.count '?' = p.values.length ∧ ¬ emptyList <:+: operation.toList) ∧
      ∀ d : Draft, d.predicates = (({ table := table } : Draft).applyAll calls).predicates →
        ∀ kind s, d.compile kind = .ok s →
          (kind = .insert → ∀ ps, { d with predicates := ps }.compile .insert = .ok s) ∧
            (kind ≠ .insert → d.HasWhereText s.sql) ∧
            ((∀ t ∈ d.callerTexts, Solid t) → d.Named → ¬ emptyList <:+: s.sql.toList) := by
  have empty : ({ table := table } : Draft).Shaped := by
    intro p member
    cases member
  have reached := Draft.shaped_applyAll empty calls
  refine ⟨fun p member => ?_, fun d same kind s compiled => ⟨?_, ?_, ?_⟩⟩
  · have shaped := reached p member
    obtain ⟨⟨fits, listable⟩, -⟩ := Predicate.make_eq_ok_iff.1 shaped.made
    exact ⟨fits, fun vs list => ⟨shaped.nonempty vs list, listable vs list⟩,
      p.operator.opening ++ p.slots, p.text_eq, p.count_operation, shaped.solid_operation.inner⟩
  · rintro rfl ps
    exact compiled
  · exact Draft.hasWhereText_of_compile compiled
  · intro texts named
    have shaped : d.Shaped := by rwa [Draft.Shaped, same]
    exact (Draft.solid_of_compile (Draft.eachText_of_callerTexts texts) shaped named compiled).inner

/-- Orders in one of two states, the owner being left open. -/
def openOrders : Draft :=
  ({ table := some "orders" } : Draft).applyAll
    [.require false (.among "state" false [.text "new", .uint64 7]),
      .require false (.among "owner" true []),
      .require false (.compare "total" (.spelled " >= ") (.int32 5)), .fragment "due < NOW()"]

/-- Their statement. -/
def openOrdersStatement : Statement where
  sql := "SELECT * FROM orders WHERE state IN (?,?) AND total >= ? AND due < NOW()"
  params := [.text "new", .uint64 7, .int32 5]

/-- The list without elements is left out of the statement; other brackets may well be empty. -/
theorem shaped_openOrders :
    openOrders.compile .select = .ok openOrdersStatement ∧
      (∀ t ∈ openOrders.callerTexts, Solid t) ∧ openOrders.Named ∧
      ¬ emptyList <:+: openOrdersStatement.sql.toList := by
  have compiled : openOrders.compile .select = .ok openOrdersStatement := by rfl
  have texts : ∀ t ∈ openOrders.callerTexts, Solid t := by decide
  have named : openOrders.Named := by
    refine ⟨fun c member => ?_, fun a given => ?_⟩
    · cases member
    · cases given
  exact ⟨compiled, texts, named,
    ((shaped_chain (some "orders") _).2 openOrders rfl .select _ compiled).2.2 texts named⟩

end QueryLoom
