import QueryLoom.Statement

/-!
# Statements with their values in place

The text of a statement as one writes it by hand: every clause is given by its keyword and its
items, and every value stands where it is meant. It is no part of how statements are compiled.

* `clause` : a keyword in front of items;
* `Draft.sourceInPlace` : where rows come from;
* `Draft.inPlace` : the whole statement of a kind;
* `Draft.sourceInPlace_eq`, `Draft.selectInPlace_eq` : the same by the parts of compiled statements,
  all of which but the conditions have no values;
* `Draft.sourceInPlace_marks` : with a mark for every value, the source is the compiled one.
-/

namespace QueryLoom

/-! ## Clauses -/

/-- A keyword in front of items that a separator keeps apart. Without items there is no keyword. -/
def clause (keyword separator : String) : List String → String
  | [] => ""
  | item :: items => keyword ++ item ++ clause separator separator items

/-- Items without a keyword are joined by their separator. -/
theorem clause_eq (keyword separator : String) (items : List String) :
    clause keyword separator items =
      if items = [] then "" else keyword ++ separator.intercalate items := by
  induction items generalizing keyword with
  | nil => rfl
  | cons item items ih =>
    rw [clause, ih, if_neg (List.cons_ne_nil _ _)]
    cases items with
    | nil => simp
    | cons next items =>
      rw [if_neg (List.cons_ne_nil _ _), String.intercalate_cons_cons]
      simp only [String.append_assoc]

theorem clause_empty (separator : String) (items : List String) :
    clause "" separator items = separator.intercalate items := by
  rw [clause_eq]
  split
  · rename_i none
    simp [none]
  · exact String.empty_append

/-- A predicate with its values written where their marks would be. -/
def Predicate.inPlace (token : Value → String) : Predicate → String
  | .scalar field op v => field ++ " " ++ (Operator.scalar op).spelling ++ " " ++ token v
  | .list field negated vs =>
    field ++ " " ++ (if negated then Operator.notIn else Operator.isIn).spelling ++ " (" ++
      clause "" "," (vs.map token) ++ ")"
  | .between field lo hi =>
    field ++ " " ++ Operator.between.spelling ++ " " ++ token lo ++ " AND " ++ token hi

def Join.inPlace : Join → String
  | ⟨.inner, table, on⟩ => " INNER JOIN " ++ table ++ " ON " ++ on
  | ⟨.left, table, on⟩ => " LEFT JOIN " ++ table ++ " ON " ++ on
  | ⟨.right, table, on⟩ => " RIGHT JOIN " ++ table ++ " ON " ++ on

def SortKey.inPlace : SortKey → String
  | ⟨column, .ascending⟩ => column ++ " ASC"
  | ⟨column, .descending⟩ => column ++ " DESC"

/-- So many rows, after leaving out some. Zero stands for no bound, and for none to leave out. -/
def windowInPlace : (limit offset : Nat) → String
  | 0, _ => ""
  | n + 1, 0 => " LIMIT " ++ toString (n + 1)
  | n + 1, m + 1 => " LIMIT " ++ toString (n + 1) ++ " OFFSET " ++ toString (m + 1)

theorem windowInPlace_eq (n m : Nat) :
    windowInPlace n m =
      if n = 0 then ""
      else
        " LIMIT " ++ String.ofList (Text.decimal n) ++
          if m = 0 then "" else " OFFSET " ++ String.ofList (Text.decimal m) := by
  have number (k : Nat) : toString k = String.ofList (Text.decimal k) := rfl
  cases n with
  | zero => rfl
  | succ n =>
    cases m with
    | zero => simp [windowInPlace, ← number]
    | succ m => simp [windowInPlace, ← number, String.append_assoc]

namespace Draft

/-! ## Statements -/

section InPlace

variable (token : Value → String)

/-- The `WHERE` part with its values in place. A fragment binds nothing. -/
def whereInPlace (d : Draft) : String :=
  clause " WHERE " " AND " (d.predicates.map (Predicate.inPlace token) ++ d.fragments)

/-- Where rows come from, with the values in place. -/
def sourceInPlace (d : Draft) (table : String) : String :=
  " FROM " ++ table ++ String.join (d.joins.map Join.inPlace) ++ d.whereInPlace token ++
    clause " GROUP BY " "," d.groups

/-- A `SELECT` with its values in place, in its derived table as well. -/
def selectInPlace (d : Draft) (table : String) : String :=
  match d.aggregate, d.groups with
  | none, _ =>
    "SELECT " ++ clause "" "," (if d.fields = [] then ["*"] else d.fields) ++
      d.sourceInPlace token table ++ clause " ORDER BY " "," (d.sortKeys.map SortKey.inPlace) ++
      windowInPlace (d.limit.elim 0 UInt64.toNat) (d.offset.elim 0 UInt64.toNat)
  | some .count, _ :: _ =>
    "SELECT COUNT(*) AS count FROM (SELECT " ++
      clause "" "," (if d.fields = [] then d.groups else d.fields) ++
      d.sourceInPlace token table ++ ") AS grouped"
  | some a, _ => "SELECT " ++ a.text ++ d.sourceInPlace token table

/-- An `INSERT` with the values at their columns. -/
def insertInPlace (d : Draft) (table : String) : String :=
  "INSERT INTO " ++ table ++ "(" ++ clause "" "," (d.payload.map (·.1)) ++ ") VALUES(" ++
    clause "" "," (d.payload.map fun c => token c.2) ++ ")"

/-- An `UPDATE` with the values at their columns, then those of the conditions. -/
def updateInPlace (d : Draft) (table : String) : String :=
  "UPDATE " ++ table ++ " SET " ++
    clause "" "," (d.payload.map fun c => c.1 ++ "=" ++ token c.2) ++ d.whereInPlace token

/-- The text of a statement with every value written at its own clause. -/
def inPlace (d : Draft) (table : String) : Statement.Kind → String
  | .select => d.selectInPlace token table
  | .insert => d.insertInPlace token table
  | .update => d.updateInPlace token table
  | .delete => "DELETE FROM " ++ table ++ d.whereInPlace token

end InPlace

/-! ## The parts of compiled statements -/

variable {token : Value → String}

theorem inPlace_joins (d : Draft) : String.join (d.joins.map Join.inPlace) = d.joinText := by
  refine congrArg String.join (List.map_congr_left fun j _ => ?_)
  obtain ⟨kind, table, on⟩ := j
  cases kind <;>
    (simp only [Join.inPlace, Join.text, JoinKind.text, ← String.append_assoc]; rfl)

theorem inPlace_groups (d : Draft) : clause " GROUP BY " "," d.groups = d.groupText := by
  simp only [clause_eq, groupText, List.isEmpty_iff]

theorem inPlace_sortKeys (d : Draft) :
    clause " ORDER BY " "," (d.sortKeys.map SortKey.inPlace) = d.orderText := by
  have keys : d.sortKeys.map SortKey.inPlace = d.sortKeys.map SortKey.text := by
    refine List.map_congr_left fun k _ => ?_
    obtain ⟨column, direction⟩ := k
    cases direction <;>
      (simp only [SortKey.inPlace, SortKey.text, Direction.text, String.append_assoc]; rfl)
  simp only [clause_eq, orderText, keys, List.isEmpty_iff, List.map_eq_nil_iff]

theorem inPlace_fields (d : Draft) :
    clause "" "," (if d.fields = [] then ["*"] else d.fields) = d.fieldText := by
  rw [clause_empty, fieldText]
  by_cases none : d.fields = [] <;> simp [none]

theorem inPlace_groupedFields (d : Draft) :
    clause "" "," (if d.fields = [] then d.groups else d.fields) = d.groupedFieldText := by
  simp only [clause_empty, groupedFieldText, List.isEmpty_iff]

theorem inPlace_window (d : Draft) :
    windowInPlace (d.limit.elim 0 UInt64.toNat) (d.offset.elim 0 UInt64.toNat) = d.pagingText := by
  have zero (n : UInt64) : n = 0 ↔ n.toNat = 0 := UInt64.toNat_inj.symm
  unfold pagingText
  cases d.limit with
  | none => rfl
  | some n =>
    cases d.offset with
    | none => simp only [Option.elim_some, Option.elim_none, windowInPlace_eq, zero, if_true]
    | some m => simp only [Option.elim_some, windowInPlace_eq, zero]

/-- A source has values in its conditions only. -/
theorem sourceInPlace_eq (d : Draft) (table : String) :
    d.sourceInPlace token table =
      " FROM " ++ table ++ d.joinText ++ d.whereInPlace token ++ d.groupText := by
  rw [sourceInPlace, inPlace_joins, inPlace_groups]

/-- A `SELECT` has values in its source only. -/
theorem selectInPlace_eq (d : Draft) (table : String) :
    d.selectInPlace token table =
      match d.aggregate with
      | none =>
        "SELECT " ++ d.fieldText ++ d.sourceInPlace token table ++ d.orderText ++ d.pagingText
      | some aggregate =>
        if aggregate = .count ∧ ¬ d.groups.isEmpty then
          "SELECT " ++ aggregate.text ++ " FROM (SELECT " ++ d.groupedFieldText ++
            d.sourceInPlace token table ++ ") AS grouped"
        else "SELECT " ++ aggregate.text ++ d.sourceInPlace token table := by
  rw [selectInPlace, inPlace_fields, inPlace_groupedFields, inPlace_sortKeys, inPlace_window]
  cases d.aggregate with
  | none => rfl
  | some a =>
    cases a <;> cases d.groups <;> rfl

theorem whereInPlace_eq (d : Draft) :
    d.whereInPlace token =
      if d.hasWhere then
        " WHERE " ++ " AND ".intercalate (d.predicates.map (Predicate.inPlace token) ++ d.fragments)
      else "" := by
  rw [whereInPlace, clause_eq, hasWhere]
  cases d.predicates <;> cases d.fragments <;> rfl

end Draft

/-! ## Marks in the place of values -/

theorem Predicate.inPlace_marks (p : Predicate) : p.inPlace (fun _ => "?") = p.text := by
  cases p with
  | scalar field op v =>
    simp only [inPlace, text, String.append_assoc]
    rfl
  | list field negated vs => simp only [inPlace, text, clause_empty, List.map_const', marks]
  | between field lo hi =>
    simp only [inPlace, text, String.append_assoc]
    rfl

/-- With a mark for every value, the source is the one of compiled statements. -/
theorem Draft.sourceInPlace_marks (d : Draft) (table : String) :
    d.sourceInPlace (fun _ => "?") table = d.sourceText table := by
  have predicates : d.predicates.map (Predicate.inPlace fun _ => "?") =
      d.predicates.map Predicate.text :=
    List.map_congr_left fun p _ => p.inPlace_marks
  rw [sourceInPlace_eq, whereInPlace_eq, predicates]
  rfl

end QueryLoom
