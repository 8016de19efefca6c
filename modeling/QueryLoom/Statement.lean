import QueryLoom.Draft.Basic
import QueryLoom.Text.Numeral

/-!
# Statements

SQL text with a mark for every argument, and the arguments in the order of their marks.

* `Draft.whereText`, `Draft.sourceText`, `Draft.pagingText` : the parts of the text;
* `Draft.whereArguments`, `Draft.payloadArguments` : the arguments of the parts;
* `Draft.compile` : the statement of a kind, or what the draft lacks for it;
* `Draft.made_of_compile` : what there is when there is a statement.
-/

namespace QueryLoom

/-- A statement as it is sent. -/
structure Statement where
  sql : String
  params : List Value
  deriving DecidableEq, Repr

/-- The number of marks in the text. -/
def Statement.markCount (s : Statement) : Nat := s.sql.toList.count '?'

/-- So many marks with commas between them. -/
def marks (n : Nat) : String := ",".intercalate (List.replicate n "?")

/-- The SQL text of a predicate, with a mark for every value. -/
def Predicate.text (p : Predicate) : String :=
  match p with
  | .scalar field op _ => field ++ " " ++ (Operator.scalar op).spelling ++ " ?"
  | .list field negated vs =>
    field ++ " " ++ (if negated then Operator.notIn else Operator.isIn).spelling ++ " (" ++
      marks vs.length ++ ")"
  | .between field _ _ => field ++ " " ++ Operator.between.spelling ++ " ? AND ?"

namespace Draft

/-! ## Parts of the text -/

/-- The conditions: the structured ones, then those given as text. -/
def conditionTexts (d : Draft) : List String := d.predicates.map Predicate.text ++ d.fragments

/-- The `WHERE` part: nothing without conditions. -/
def whereText (d : Draft) : String :=
  if d.hasWhere then " WHERE " ++ " AND ".intercalate d.conditionTexts else ""

/-- The joins, in the order they were given. -/
def joinText (d : Draft) : String := String.join (d.joins.map fun j => " " ++ j.text)

/-- The `GROUP BY` part. -/
def groupText (d : Draft) : String :=
  if d.groups.isEmpty then "" else " GROUP BY " ++ ",".intercalate d.groups

/-- Where rows come from: the table, its joins, the conditions and the groups. -/
def sourceText (d : Draft) (table : String) : String :=
  " FROM " ++ table ++ d.joinText ++ d.whereText ++ d.groupText

/-- The `ORDER BY` part. -/
def orderText (d : Draft) : String :=
  if d.sortKeys.isEmpty then "" else " ORDER BY " ++ ",".intercalate (d.sortKeys.map SortKey.text)

/-- The window of rows: an offset counts only with a limit, and a zero of either counts as none. -/
def pagingText (d : Draft) : String :=
  match d.limit with
  | none => ""
  | some n =>
    if n = 0 then ""
    else
      " LIMIT " ++ String.ofList (Text.decimal n.toNat) ++
        match d.offset with
        | none => ""
        | some m => if m = 0 then "" else " OFFSET " ++ String.ofList (Text.decimal m.toNat)

/-- The selected fields: all of them when none was chosen. -/
def fieldText (d : Draft) : String :=
  if d.fields.isEmpty then "*" else ",".intercalate d.fields

/-- What a count of groups selects inside: the chosen fields, else the columns grouped by. -/
def groupedFieldText (d : Draft) : String :=
  ",".intercalate (if d.fields.isEmpty then d.groups else d.fields)

/-! ## Arguments -/

/-- The arguments of the conditions. -/
def whereArguments (d : Draft) : List Value := d.predicates.flatMap Predicate.values

/-- The arguments of the payload. -/
def payloadArguments (d : Draft) : List Value := d.payload.map (·.2)

/-! ## Statements -/

/-- A `SELECT`. An aggregate is over everything that the conditions and groups describe, so order
and paging play no part in it; a count over groups counts the groups. -/
def selectText (d : Draft) (table : String) : String :=
  match d.aggregate with
  | none => "SELECT " ++ d.fieldText ++ d.sourceText table ++ d.orderText ++ d.pagingText
  | some aggregate =>
    if aggregate = .count ∧ ¬ d.groups.isEmpty then
      "SELECT " ++ aggregate.text ++ " FROM (SELECT " ++ d.groupedFieldText ++
        d.sourceText table ++ ") AS grouped"
    else "SELECT " ++ aggregate.text ++ d.sourceText table

/-- An `INSERT` of one row. -/
def insertText (d : Draft) (table : String) : String :=
  "INSERT INTO " ++ table ++ "(" ++ ",".intercalate (d.payload.map (·.1)) ++ ") VALUES(" ++
    marks d.payload.length ++ ")"

/-- An `UPDATE`. -/
def updateText (d : Draft) (table : String) : String :=
  "UPDATE " ++ table ++ " SET " ++ ",".intercalate (d.payload.map fun c => c.1 ++ "=?") ++
    d.whereText

/-- A `DELETE`. -/
def deleteText (d : Draft) (table : String) : String := "DELETE FROM " ++ table ++ d.whereText

/-- The statement of a kind. Every kind wants a table; an `INSERT` and an `UPDATE` want columns, and
a `DELETE` wants a condition. -/
def compile (d : Draft) (kind : Statement.Kind) : Except BuildError Statement :=
  match d.table with
  | none => .error .missingTable
  | some table =>
    match kind with
    | .select => .ok ⟨d.selectText table, d.whereArguments⟩
    | .insert =>
      if d.payload.isEmpty then .error (.emptyPayload .insert)
      else .ok ⟨d.insertText table, d.payloadArguments⟩
    | .update =>
      if d.payload.isEmpty then .error (.emptyPayload .update)
      else .ok ⟨d.updateText table, d.payloadArguments ++ d.whereArguments⟩
    | .delete =>
      if d.hasWhere then .ok ⟨d.deleteText table, d.whereArguments⟩
      else .error .unguardedDelete

/-- What a draft has when there is a statement of a kind, and which statement it is. -/
theorem made_of_compile {d : Draft} {kind : Statement.Kind} {s : Statement}
    (h : d.compile kind = .ok s) :
    ∃ table, d.table = some table ∧
      match kind with
      | .select => s = ⟨d.selectText table, d.whereArguments⟩
      | .insert => d.payload ≠ [] ∧ s = ⟨d.insertText table, d.payloadArguments⟩
      | .update =>
        d.payload ≠ [] ∧ s = ⟨d.updateText table, d.payloadArguments ++ d.whereArguments⟩
      | .delete => d.hasWhere = true ∧ s = ⟨d.deleteText table, d.whereArguments⟩ := by
  unfold compile at h
  split at h
  · cases h
  · rename_i table found
    refine ⟨table, found, ?_⟩
    cases kind with
    | select =>
      cases h
      rfl
    | insert | update =>
      simp only at h
      split at h
      · cases h
      · rename_i columns
        cases h
        exact ⟨by simpa using columns, rfl⟩
    | delete =>
      simp only at h
      split at h
      · rename_i conditions
        cases h
        exact ⟨conditions, rfl⟩
      · cases h

end Draft

end QueryLoom
