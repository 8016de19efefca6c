import QueryLoom.Proofs.Legible
import QueryLoom.Proofs.Marks

/-!
# Legible clauses

What can be told from the clauses of a statement when the texts of the caller are words.

* `IsWord` : letters, digits, underscores and dots;
* `legible_operation` : the part of a predicate behind its field shows the operator and the number
  of marks;
* `AnyCondition.legible_condition`, `Draft.legible_whereText` : the conditions, where a fragment is
  told from a predicate by what stands behind the word;
* `Draft.legible_joinText`, `Draft.legible_groupText`, `Draft.legible_orderText`,
  `Draft.legible_pagingText`, `Draft.legible_fieldText` : the other clauses.
-/

namespace QueryLoom

/-! ## Words -/

/-- The characters of words. -/
def isWordChar (c : Char) : Bool := c.isAlphanum || c == '_' || c == '.'

/-- A text of ASCII letters, digits, underscores and dots. It may be empty or a keyword: neither
does harm. -/
def IsWord (s : String) : Prop := ∀ c ∈ s.toList, isWordChar c = true

instance (s : String) : Decidable (IsWord s) := List.decidableBAll _ s.toList

/-! ### Drafts of words -/

namespace Draft

/-- Every text of the caller is a word. -/
def Worded (d : Draft) : Prop := ∀ t ∈ d.callerTexts, IsWord t

namespace Worded

variable {d : Draft}

theorem each (h : d.Worded) : d.EachText IsWord := eachText_of_callerTexts h

theorem table (h : d.Worded) : IsWord (d.table.getD "") := by
  cases found : d.table with
  | none => simp [IsWord]
  | some t => exact h.each.table t found

end Worded

end Draft

/-! ## Words and numbers -/

/-- The leads begin with characters that words do not have. -/
def StopWords (leads : List String) : Prop :=
  ∀ l ∈ leads, (l.toList.head?.any fun c => !isWordChar c) = true

instance (leads : List String) : Decidable (StopWords leads) := List.decidableBAll _ leads

section Words

variable {α : Type} {leads : List String}

theorem legible_word (f : α → String) (stops : StopWords leads) :
    Legible f f (fun a => IsWord (f a)) leads :=
  .of_span (fun _ ha => ha) stops fun _ _ _ _ same => same

/-- Words with commas between them, at least one. -/
theorem legible_words (stops : StopWords ("," :: leads)) (apart : ∀ l ∈ leads, Apart "," l) :
    Legible (fun ws : List String => ",".intercalate ws) id
      (fun ws => ws ≠ [] ∧ ∀ w ∈ ws, IsWord w) leads := by
  have each := (legible_word id stops).separated (by decide) apart
  simpa [Function.comp_def] using each

/-- A number that counts: zero counts as none. -/
def counting (n : Option UInt64) : Option UInt64 := n.filter fun n => n != 0

/-- A number in decimal digits; none counts as zero here. -/
def numberText (n : Option UInt64) : String := String.ofList (Text.decimal (n.getD 0).toNat)

theorem legible_number : Legible numberText (fun n => n.getD 0) (fun _ => True) [" OFFSET "] := by
  refine .of_span (p := Char.isDigit) (fun n _ c hc => ?_) (by decide) fun n m _ _ same => ?_
  · rw [numberText, String.toList_ofList] at hc
    exact Text.isDigit_of_mem_decimal hc
  · have digits := String.ofList_injective same
    have numbers : (n.getD 0).toNat = (m.getD 0).toNat := by
      have read := congrArg (fun cs => Nat.ofDigitChars 10 cs 0) digits
      simpa [Text.decimal] using read
    exact UInt64.toNat_inj.1 numbers

end Words

/-! ## Predicates -/

/-- What a predicate shows of itself in a text. -/
def Predicate.outline (p : Predicate) : String × Operator × Nat :=
  (p.field, p.operator, p.values.length)

/-- The text between a field and the marks of its operator. -/
def Operator.opening (op : Operator) : String := " " ++ op.spelling ++ " "

/-- The marks of a predicate. -/
def Predicate.slots : Predicate → String
  | .scalar .. => "?"
  | .list _ _ vs => "(" ++ marks vs.length ++ ")"
  | .between .. => "? AND ?"

theorem Predicate.text_eq (p : Predicate) :
    p.text = p.field ++ (p.operator.opening ++ p.slots) := by
  cases p with
  | scalar field op v =>
    have mark : " ?" = " " ++ "?" := rfl
    simp only [text, Predicate.field, operator, slots, Operator.opening, mark, String.append_assoc]
  | list field negated vs =>
    have bracket : " (" = " " ++ "(" := rfl
    cases negated
    all_goals
      simp only [text, Predicate.field, operator, slots, Operator.opening, bracket,
        String.append_assoc]
      rfl
  | between field lo hi =>
    have both : " ? AND ?" = " " ++ "? AND ?" := rfl
    simp only [text, Predicate.field, operator, slots, Operator.opening, both, String.append_assoc]

theorem Operator.apart_opening (a b : Operator) (different : a ≠ b) :
    Apart a.opening b.opening := by
  have all : ∀ a ∈ Operator.all, ∀ b ∈ Operator.all, a ≠ b → Apart a.opening b.opening := by
    decide +kernel
  exact all a (mem_all a) b (mem_all b) different

theorem mem_intercalate {sep : String} {ts : List String} {c : Char}
    (h : c ∈ (sep.intercalate ts).toList) : c ∈ sep.toList ∨ ∃ t ∈ ts, c ∈ t.toList := by
  induction ts with
  | nil => simp at h
  | cons t ts ih =>
    cases ts with
    | nil => exact .inr ⟨t, by simp, by simpa using h⟩
    | cons u us =>
      simp only [String.intercalate_cons_cons, String.toList_append, List.mem_append] at h
      obtain (first | separating) | others := h
      · exact .inr ⟨t, by simp, first⟩
      · exact .inl separating
      · obtain separating | ⟨v, member, there⟩ := ih others
        · exact .inl separating
        · exact .inr ⟨v, List.mem_cons_of_mem _ member, there⟩

/-- The text of marks says how many there are. -/
theorem marks_injective {n m : Nat} (h : marks n = marks m) : n = m := by
  rw [← count_marks n, h, count_marks m]

theorem mem_marks {n : Nat} {c : Char} (h : c ∈ (marks n).toList) : c = '?' ∨ c = ',' := by
  obtain comma | ⟨t, member, mark⟩ := mem_intercalate h
  · exact .inr (by simpa using comma)
  · rw [List.eq_of_mem_replicate member] at mark
    exact .inl (by simpa using mark)

/-- So many marks up to a closing bracket. -/
theorem legible_marks {leads : List String} :
    Legible (fun n => marks n ++ ")") id (fun _ => True) leads := by
  refine .before (.of_span (p := fun c => c == '?' || c == ',') ?_ ?_ ?_)
  · intro n _ c hc
    simpa using mem_marks hc
  · decide
  · intro n m _ _ same
    exact marks_injective same

/-- The marks of an operator say how many values it takes. -/
theorem Operator.legible_slots (op : Operator) {leads : List String} :
    Legible Predicate.slots (fun p => p.values.length) (fun p => p.operator = op) leads := by
  have fixed {s : String} {n : Nat}
      (h : ∀ p : Predicate, p.operator = op → p.slots = s ∧ p.values.length = n) :
      Legible Predicate.slots (fun p => p.values.length) (fun p => p.operator = op) leads := by
    intro a b ha hb r r' _ _ same
    rw [(h a ha).1, (h b hb).1] at same
    exact ⟨(h a ha).2.trans (h b hb).2.symm, List.append_cancel_left same⟩
  have listed
      (h : ∀ p : Predicate, p.operator = op → p.slots = "(" ++ marks p.values.length ++ ")") :
      Legible Predicate.slots (fun p => p.values.length) (fun p => p.operator = op) leads := by
    intro a b ha hb r r' behind behind' same
    rw [h a ha, h b hb, String.append_assoc, String.append_assoc] at same
    exact legible_marks.after "(" _ _ trivial trivial r r' behind behind' same
  cases op with
  | scalar op =>
    refine fixed (s := "?") (n := 1) fun p hp => ?_
    cases p with
    | scalar _ _ _ => exact ⟨rfl, rfl⟩
    | list _ negated _ => cases negated <;> cases hp
    | between _ _ _ => cases hp
  | isIn | notIn =>
    refine listed fun p hp => ?_
    cases p with
    | scalar _ _ _ => cases hp
    | list _ _ _ => rfl
    | between _ _ _ => cases hp
  | between =>
    refine fixed (s := "? AND ?") (n := 2) fun p hp => ?_
    cases p with
    | scalar _ _ _ => cases hp
    | list _ negated _ => cases negated <;> cases hp
    | between _ _ _ => exact ⟨rfl, rfl⟩

/-- What stands behind the field of a predicate tells the operator and the number of its values. -/
theorem legible_operation {leads : List String} :
    Legible (fun p : Predicate => p.operator.opening ++ p.slots)
      (fun p => (p.operator, p.values.length)) (fun _ => True) leads :=
  Legible.tagged Predicate.operator Operator.opening Operator.apart_opening
    fun op => op.legible_slots.weaken fun _ hp => hp.1

/-! ## Conditions -/

/-- A condition: a structured one, or one given as text. -/
abbrev AnyCondition := Predicate ⊕ String

namespace AnyCondition

/-- What stands first in a condition. -/
def word : AnyCondition → String
  | .inl p => p.field
  | .inr t => t

/-- What stands behind the word of a condition. -/
def rest : AnyCondition → String
  | .inl p => p.operator.opening ++ p.slots
  | .inr _ => ""

/-- What a condition shows of itself in a text. -/
def outline : AnyCondition → (String × Operator × Nat) ⊕ String
  | .inl p => .inl p.outline
  | .inr t => .inr t

/-- What may stand behind a condition does not look like an operator. -/
def Stops (leads : List String) : Prop :=
  ∀ op ∈ Operator.all, ∀ l ∈ leads, Apart op.opening l

instance (leads : List String) : Decidable (Stops leads) :=
  inferInstanceAs (Decidable (∀ op ∈ Operator.all, ∀ l ∈ leads, _))

variable {leads : List String}

theorem legible_rest (stops : Stops leads) :
    Legible rest (fun c => (outline c).map Prod.snd fun _ => ()) (fun _ => True) leads := by
  have opened (p : Predicate) {r r' : List Char} (behind : Behind leads r') :
      (rest (.inl p)).toList ++ r ≠ r' := by
    rw [rest, String.toList_append, List.append_assoc]
    refine behind.append_ne (fun empty => ?_) (stops p.operator (Operator.mem_all _)) _
    simp [Operator.opening] at empty
  intro a b _ _ r r' behind behind' same
  cases a with
  | inl p =>
    cases b with
    | inl q =>
      obtain ⟨keys, ends⟩ := legible_operation p q trivial trivial r r' behind behind' same
      exact ⟨congrArg Sum.inl keys, ends⟩
    | inr t => exact absurd same (opened p behind')
  | inr t =>
    cases b with
    | inl q => exact absurd same.symm (opened q behind)
    | inr u => exact ⟨rfl, same⟩

/-- The openings of all operators. -/
def openings : List String := Operator.all.map Operator.opening

theorem legible_condition (leads : List String) (stops : Stops leads) (words : StopWords leads) :
    Legible (fun c => word c ++ rest c) outline (fun c => IsWord (word c)) leads := by
  have first : Legible word word (fun c => IsWord (word c)) (openings ++ leads) := by
    refine legible_word word fun l member => ?_
    rcases List.mem_append.1 member with opening | behind
    · exact (by decide +kernel : StopWords openings) l opening
    · exact words l behind
  refine (first.append ((legible_rest stops).weaken fun _ _ => trivial) fun c _ => ?_).rekey ?_
  · cases c with
    | inl p =>
      refine .inr ⟨p.operator.opening, List.mem_map_of_mem (Operator.mem_all _), ?_⟩
      simp [rest]
    | inr t => exact .nil
  · intro a b _ _ keys
    obtain ⟨same, rests⟩ := Prod.mk.inj keys
    cases a with
    | inl p =>
      cases b with
      | inl q => exact congrArg Sum.inl (Prod.ext same (Sum.inl.inj rests))
      | inr u => cases rests
    | inr t =>
      cases b with
      | inl q => cases rests
      | inr u => exact congrArg Sum.inr same

end AnyCondition

/-! ## Parts of a statement -/

namespace Draft

/-- What may stand behind the conditions of a `SELECT`. -/
def afterWhere : List String := [" GROUP BY ", " ORDER BY ", " LIMIT "]

/-- The conditions, the structured ones first. -/
def anyConditions (d : Draft) : List AnyCondition :=
  d.predicates.map .inl ++ d.fragments.map .inr

theorem conditionTexts_eq (d : Draft) :
    d.conditionTexts = d.anyConditions.map fun c => c.word ++ c.rest := by
  simp [conditionTexts, anyConditions, AnyCondition.word, AnyCondition.rest, Function.comp_def,
    ← Predicate.text_eq]

/-- The outlines of the conditions say which are structured. -/
theorem parts_of_outlines {d e : Draft}
    (h : d.anyConditions.map AnyCondition.outline = e.anyConditions.map AnyCondition.outline) :
    (d.predicates.map Predicate.outline, d.fragments) =
      (e.predicates.map Predicate.outline, e.fragments) := by
  have left := congrArg (List.filterMap Sum.getLeft?) h
  have right := congrArg (List.filterMap Sum.getRight?) h
  simp only [anyConditions, List.map_append, List.map_map, List.filterMap_append,
    List.filterMap_map, Function.comp_def, AnyCondition.outline, Sum.getLeft?_inl,
    Sum.getLeft?_inr, Sum.getRight?_inl, Sum.getRight?_inr, List.filterMap_some,
    List.filterMap_none, List.append_nil, List.nil_append] at left right
  rw [right]
  simpa using left

/-- A part that may be missing begins with its lead. -/
theorem behind_optional (present : Bool) (lead t : String) :
    Behind [lead] (if present then lead ++ t else "").toList := by
  cases present with
  | true => exact .inr ⟨lead, List.mem_singleton_self _, by simp⟩
  | false => exact .nil

theorem legible_whereText :
    Legible whereText (fun d => (d.predicates.map Predicate.outline, d.fragments)) Worded
      afterWhere := by
  have conditions := (AnyCondition.legible_condition (" AND " :: afterWhere)
    (by decide +kernel) (by decide)).separated (by decide) (by decide)
  have some : Legible (fun d : Draft => " AND ".intercalate d.conditionTexts)
      (fun d => (d.predicates.map Predicate.outline, d.fragments))
      (fun d => d.hasWhere = true ∧ d.Worded) afterWhere := by
    refine (((conditions.comap anyConditions).congr fun d _ => by rw [conditionTexts_eq]).weaken
      fun d hd => ?_).rekey fun _ _ _ _ => parts_of_outlines
    refine ⟨fun none => ?_, fun c hc => ?_⟩
    · have present := hd.1
      simp only [anyConditions, List.append_eq_nil_iff, List.map_eq_nil_iff] at none
      simp [hasWhere, none.1, none.2] at present
    · rcases List.mem_append.1 hc with structured | raw
      · obtain ⟨p, member, rfl⟩ := List.mem_map.1 structured
        exact hd.2.each.predicates p member
      · obtain ⟨t, member, rfl⟩ := List.mem_map.1 raw
        exact hd.2.each.fragments t member
  refine some.optional " WHERE " ([], []) (by decide) (by decide) fun d _ absent => ?_
  simp only [hasWhere, Bool.or_eq_false_iff, Bool.not_eq_false', List.isEmpty_iff] at absent
  rw [absent.1, absent.2, List.map_nil]

/-! ### Joins -/

/-- The text in front of the table of a join. -/
def joinLead (kind : JoinKind) : String := " " ++ kind.text ++ " "

/-- The texts in front of the tables of joins. -/
def joinLeads : List String := [joinLead .inner, joinLead .left, joinLead .right]

theorem joinLead_mem (kind : JoinKind) : joinLead kind ∈ joinLeads := by
  cases kind <;> simp [joinLeads]

theorem apart_joinLead (a b : JoinKind) (different : a ≠ b) : Apart (joinLead a) (joinLead b) := by
  cases a <;> cases b <;> first | exact absurd rfl different | decide

theorem legible_join : Legible (fun j : Join => " " ++ j.text) id
    (fun j => IsWord j.table ∧ IsWord j.on) (joinLeads ++ " WHERE " :: afterWhere) := by
  have table : Legible Join.table Join.table (fun j => IsWord j.table ∧ IsWord j.on)
      ([" ON "] ++ (joinLeads ++ " WHERE " :: afterWhere)) :=
    (legible_word Join.table (by decide)).weaken fun _ hj => hj.1
  have on : Legible (fun j : Join => " ON " ++ j.on) Join.on
      (fun j => IsWord j.table ∧ IsWord j.on) (joinLeads ++ " WHERE " :: afterWhere) :=
    ((legible_word Join.on (by decide)).after " ON ").weaken fun _ hj => hj.2
  have both := table.append on fun j _ => behind_optional true " ON " j.on
  have whole := Legible.tagged Join.kind joinLead apart_joinLead
    fun kind => both.weaken fun j hj => hj.2
  refine (whole.congr fun j _ => ?_).rekey fun a b _ _ keys => ?_
  · simp only [Join.text, joinLead, String.append_assoc]
  · obtain ⟨kind, table, on⟩ := a
    obtain ⟨kind', table', on'⟩ := b
    simp only [Prod.mk.injEq] at keys
    obtain ⟨rfl, rfl, rfl⟩ := keys
    rfl

theorem legible_joinText : Legible joinText joins Worded (" WHERE " :: afterWhere) := by
  have all := legible_join.repeated (by decide) (fun j _ => ⟨joinLead j.kind, joinLead_mem _, ?_⟩)
    (by decide)
  · refine ((all.comap joins).weaken fun d hd => hd.each.joins).rekey fun d e _ _ same => ?_
    simpa using same
  · simp [joinLead, Join.text, String.append_assoc]

theorem behind_joinText (d : Draft) : Behind joinLeads d.joinText.toList := by
  unfold joinText
  cases d.joins with
  | nil => exact .nil
  | cons j js =>
    refine .inr ⟨joinLead j.kind, joinLead_mem _, ?_⟩
    simp [joinLead, Join.text, String.append_assoc]

/-! ### Groups, order and paging -/

/-- A list of words that may be missing. -/
theorem legible_groupText : Legible groupText groups Worded [" ORDER BY ", " LIMIT "] := by
  have columns : Legible (fun d : Draft => ",".intercalate d.groups) groups
      (fun d => (!d.groups.isEmpty) = true ∧ d.Worded) [" ORDER BY ", " LIMIT "] := by
    refine ((legible_words (by decide) (by decide)).comap groups).weaken fun d hd => ?_
    exact ⟨by simpa using hd.1, hd.2.each.groups⟩
  refine (columns.optional " GROUP BY " [] (by decide) (by decide)
    fun d _ absent => by simpa using absent).congr fun d _ => ?_
  unfold groupText
  cases d.groups.isEmpty <;> rfl

theorem behind_groupText (d : Draft) : Behind [" GROUP BY "] d.groupText.toList := by
  unfold groupText
  cases d.groups.isEmpty with
  | true => exact .nil
  | false => exact behind_optional true " GROUP BY " _

theorem legible_sortKey : Legible SortKey.text id (fun k => IsWord k.column) [",", " LIMIT "] := by
  have direction : Legible (fun k : SortKey => " " ++ k.direction.text) SortKey.direction
      (fun k => IsWord k.column) [",", " LIMIT "] := by
    have apart : ∀ a b : Direction, a ≠ b → Apart (" " ++ a.text) (" " ++ b.text) := by
      intro a b different
      cases a <;> cases b <;> first | exact absurd rfl different | decide
    have whole : Legible (fun k : SortKey => " " ++ k.direction.text ++ "")
        (fun k => (k.direction, ())) (fun k => IsWord k.column) [",", " LIMIT "] :=
      Legible.tagged SortKey.direction (fun d => " " ++ d.text) apart fun _ => .const "" _ _
    exact (whole.congr fun k _ => String.append_empty.symm).rekey fun _ _ _ _ keys =>
      (Prod.mk.inj keys).1
  have column : Legible SortKey.column SortKey.column (fun k => IsWord k.column)
      ([" "] ++ [",", " LIMIT "]) := legible_word SortKey.column (by decide)
  refine ((column.append direction fun k _ => behind_optional true " " _).congr fun k _ => ?_).rekey
    fun a b _ _ keys => ?_
  · rw [SortKey.text, String.append_assoc]
  · obtain ⟨column, direction⟩ := a
    obtain ⟨column', direction'⟩ := b
    simp only [Prod.mk.injEq] at keys
    obtain ⟨rfl, rfl⟩ := keys
    rfl

theorem legible_orderText : Legible orderText sortKeys Worded [" LIMIT "] := by
  have keys : Legible (fun d : Draft => ",".intercalate (d.sortKeys.map SortKey.text)) sortKeys
      (fun d => (!d.sortKeys.isEmpty) = true ∧ d.Worded) [" LIMIT "] := by
    refine (((legible_sortKey.separated (by decide) (by decide)).comap sortKeys).weaken
      fun d hd => ?_).rekey fun d e _ _ same => by simpa using same
    exact ⟨by simpa using hd.1, hd.2.each.sortKeys⟩
  refine (keys.optional " ORDER BY " [] (by decide) (by decide)
    fun d _ absent => by simpa using absent).congr fun d _ => ?_
  unfold orderText
  cases d.sortKeys.isEmpty <;> rfl

theorem behind_orderText (d : Draft) : Behind [" ORDER BY "] d.orderText.toList := by
  unfold orderText
  cases d.sortKeys.isEmpty with
  | true => exact .nil
  | false => exact behind_optional true " ORDER BY " _

/-- The offset counts only with a limit. -/
def shownOffset (d : Draft) : Option UInt64 :=
  if (counting d.limit).isSome then counting d.offset else none

/-- An offset that counts. -/
def offsetText (d : Draft) : String :=
  if (counting d.offset).isSome then " OFFSET " ++ numberText (counting d.offset) else ""

theorem pagingText_eq (d : Draft) :
    d.pagingText = if (counting d.limit).isSome then
      " LIMIT " ++ (numberText (counting d.limit) ++ d.offsetText) else "" := by
  have number (n : UInt64) : counting (some n) = if n = 0 then none else some n := by
    by_cases zero : n = 0 <;> simp [counting, zero]
  unfold pagingText offsetText
  cases d.limit with
  | none => rfl
  | some n =>
    by_cases zero : n = 0
    · simp [number, zero]
    · cases d.offset with
      | none =>
        have missing : counting none = none := rfl
        simp [number, zero, missing, numberText]
      | some m =>
        by_cases start : m = 0
        · simp [number, zero, start, numberText]
        · simp [number, zero, start, numberText, String.append_assoc]

/-- A number that counts is known from its value. -/
theorem counting_inj {n m : Option UInt64} (hn : (counting n).isSome) (hm : (counting m).isSome)
    (h : (counting n).getD 0 = (counting m).getD 0) : counting n = counting m := by
  obtain ⟨x, hx⟩ := Option.isSome_iff_exists.1 hn
  obtain ⟨y, hy⟩ := Option.isSome_iff_exists.1 hm
  rw [hx, hy] at h ⊢
  exact congrArg some h

theorem legible_offsetText (valid : Draft → Prop) :
    Legible offsetText (fun d => counting d.offset) valid [] := by
  have digits : Legible (fun d : Draft => numberText (counting d.offset))
      (fun d => counting d.offset) (fun d => (counting d.offset).isSome = true ∧ valid d) [] := by
    refine (((legible_number.mono (by simp)).comap fun d : Draft => counting d.offset).weaken
      fun _ _ => trivial).rekey fun d e hd he same => ?_
    exact counting_inj hd.1 he.1 same
  exact digits.optional " OFFSET " none (by decide) (by simp) fun d _ absent => by
    simpa using absent

theorem legible_pagingText :
    Legible pagingText (fun d => (counting d.limit, d.shownOffset)) Worded [] := by
  have digits : Legible (fun d : Draft => numberText (counting d.limit))
      (fun d => counting d.limit) (fun d => (counting d.limit).isSome = true ∧ d.Worded)
      ([" OFFSET "] ++ []) := by
    refine ((legible_number.comap fun d : Draft => counting d.limit).weaken
      fun _ _ => trivial).rekey fun d e hd he same => ?_
    exact counting_inj hd.1 he.1 same
  have window := digits.append (legible_offsetText _) fun d _ => behind_optional _ " OFFSET " _
  have shown : Legible (fun d : Draft => numberText (counting d.limit) ++ d.offsetText)
      (fun d => (counting d.limit, d.shownOffset))
      (fun d => (counting d.limit).isSome = true ∧ d.Worded) [] := by
    refine window.rekey fun d e _ he same => ?_
    obtain ⟨limits, offsets⟩ := Prod.mk.inj same
    simp only [shownOffset, he.1, limits, offsets]
  refine (shown.optional " LIMIT " (none, none) (by decide) (by simp)
    fun d _ absent => ?_).congr fun d _ => d.pagingText_eq
  have none : counting d.limit = none := by simpa using absent
  simp [shownOffset, none]

theorem behind_pagingText (d : Draft) : Behind [" LIMIT "] d.pagingText.toList := by
  rw [pagingText_eq]
  exact behind_optional _ " LIMIT " _

/-! ### Fields -/

/-- All fields are told from a list of fields, which begins with another character. -/
theorem fieldText_ne {d e : Draft} (hd : d.fields = []) (he : e.fields ≠ []) (words : e.Worded) :
    d.fieldText ≠ e.fieldText := by
  intro same
  have star : '*' ∈ e.fieldText.toList := by
    rw [← same]
    simp [fieldText, hd]
  simp only [fieldText, List.isEmpty_iff, he, if_false] at star
  obtain comma | ⟨t, member, inside⟩ := mem_intercalate star
  · simp at comma
  · exact absurd (words.each.fields t member '*' inside) (by decide)

theorem mem_fieldText {d : Draft} (words : d.Worded) {c : Char} (h : c ∈ d.fieldText.toList) :
    (isWordChar c || c == ',' || c == '*') = true := by
  by_cases none : d.fields = []
  · have star : c = '*' := by simpa [fieldText, none] using h
    simp [star]
  · simp only [fieldText, List.isEmpty_iff, none, if_false] at h
    obtain comma | ⟨t, member, inside⟩ := mem_intercalate h
    · have same : c = ',' := by simpa using comma
      simp [same]
    · simp [words.each.fields t member c inside]

theorem legible_fieldText :
    Legible fieldText fields Worded [" FROM ", " ORDER BY ", " LIMIT "] := by
  refine .of_span (p := fun c => isWordChar c || c == ',' || c == '*')
    (fun d hd c hc => mem_fieldText hd hc) (by decide) fun d e hd he same => ?_
  by_cases left : d.fields = []
  · by_cases right : e.fields = []
    · rw [left, right]
    · exact absurd same (fieldText_ne left right he)
  · by_cases right : e.fields = []
    · exact absurd same.symm (fieldText_ne right left hd)
    · have texts : ",".intercalate d.fields = ",".intercalate e.fields := by
        simpa [fieldText, left, right] using same
      have lists : Legible (fun ws : List String => ",".intercalate ws) id
          (fun ws => ws ≠ [] ∧ ∀ w ∈ ws, IsWord w) [] := legible_words (by decide) (by simp)
      exact (lists d.fields e.fields ⟨left, hd.each.fields⟩ ⟨right, he.each.fields⟩ [] [] .nil .nil
        (by simp only [texts])).1

end Draft

end QueryLoom
