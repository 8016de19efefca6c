import QueryLoom.Text.Blank

/-!
# Operators

The operators of structured conditions, their spellings and how they are looked up.

* `Operator.parse?` : reads a spelling in any case, with any white space between its words;
* `Operator.parse?_spelling` : every operator is found under its own spelling.
-/

namespace QueryLoom

/-- How an operator takes its operand. -/
inductive Operator.Kind where
  /-- `field op ?` -/
  | comparison
  /-- `field op (?,?,...)` -/
  | list
  /-- `field op ?`, the operand carrying its wildcards -/
  | pattern
  /-- `field BETWEEN ? AND ?` -/
  | range
  deriving DecidableEq, Repr

/-- An operator with one operand. -/
inductive Operator.Scalar where
  | eq
  | ne
  /-- The second spelling of `ne`, kept apart because it is rendered as it was given. -/
  | bangEq
  | gt
  | lt
  | ge
  | le
  | like
  | notLike
  deriving DecidableEq, Repr

/-- An operator of a structured condition. -/
inductive Operator where
  | scalar (op : Operator.Scalar)
  | isIn
  | notIn
  | between
  deriving DecidableEq, Repr

namespace Operator

/-! ## Spellings -/

/-- The words of an operator with one operand. -/
def Scalar.words : Scalar → List String
  | .eq => ["="]
  | .ne => ["<>"]
  | .bangEq => ["!="]
  | .gt => [">"]
  | .lt => ["<"]
  | .ge => [">="]
  | .le => ["<="]
  | .like => ["LIKE"]
  | .notLike => ["NOT", "LIKE"]

/-- The words of an operator. -/
def words : Operator → List String
  | .scalar op => op.words
  | .isIn => ["IN"]
  | .notIn => ["NOT", "IN"]
  | .between => ["BETWEEN"]

/-- The SQL spelling of an operator: its words with a space between them. -/
def spelling (op : Operator) : String := " ".intercalate op.words

/-- Every operator. -/
def all : List Operator :=
  [.scalar .eq, .scalar .ne, .scalar .bangEq, .scalar .gt, .scalar .lt, .scalar .ge, .scalar .le,
    .scalar .like, .scalar .notLike, .isIn, .notIn, .between]

theorem mem_all (op : Operator) : op ∈ all := by
  cases op with
  | scalar op => cases op <;> simp [all]
  | isIn | notIn | between => simp [all]

/-! ## Kinds -/

/-- How an operator with one operand takes it. -/
def Scalar.kind : Scalar → Kind
  | .like | .notLike => .pattern
  | _ => .comparison

/-- How an operator takes its operand. -/
def kind : Operator → Kind
  | .scalar op => op.kind
  | .isIn | .notIn => .list
  | .between => .range

/-- What an operand must be, in words. -/
def Kind.expectation : Kind → String
  | .comparison | .pattern => "a single value"
  | .list => "a list of values"
  | .range => "exactly two values"

/-! ## Lookup -/

/-- The words of a text in upper case; only ASCII letters have one. -/
def upperWords (text : String) : List String :=
  (Text.words (text.toList.map Char.toUpper)).map String.ofList

/-- The operator with the given words. -/
def ofWords? (ws : List String) : Option Operator := all.find? fun op => op.words == ws

/-- The operator that a text spells. -/
def parse? (text : String) : Option Operator := ofWords? (upperWords text)

theorem words_injective {a b : Operator} (h : a.words = b.words) : a = b := by
  revert h
  cases a with
  | scalar a => cases b with
    | scalar b => cases a <;> cases b <;> decide
    | isIn | notIn | between => cases a <;> decide
  | isIn | notIn | between => cases b with
    | scalar b => cases b <;> decide
    | isIn | notIn | between => decide

/-- The operator with given words is the one that has them. -/
theorem ofWords?_eq_some_iff {ws : List String} {op : Operator} :
    ofWords? ws = some op ↔ op.words = ws := by
  constructor
  · intro h
    simpa using List.find?_some h
  · rintro rfl
    unfold ofWords?
    cases h : all.find? (fun o => o.words == op.words) with
    | none => exact absurd (List.find?_eq_none.1 h op (mem_all op)) (by simp)
    | some found =>
      have same : found.words = op.words := by simpa using List.find?_some h
      rw [words_injective same]

/-- Every operator is found under its own spelling. -/
theorem parse?_spelling (op : Operator) : parse? op.spelling = some op := by
  have same : upperWords op.spelling = op.words := by
    cases op with
    | scalar op => cases op <;> decide +kernel
    | isIn | notIn | between => decide +kernel
  rw [parse?, same, ofWords?_eq_some_iff]

end Operator

end QueryLoom
