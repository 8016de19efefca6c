import QueryLoom.Clause
import QueryLoom.Predicate

/-!
# Drafts

Everything that has been gathered for one statement.

* `Draft` : the gathered clauses; `{}` is the draft in which nothing has been gathered;
* `Draft.clear_eq` : a cleared draft is as good as a new one.
-/

namespace QueryLoom

/-- Everything that has been gathered for one statement. -/
structure Draft where
  table : Option String := none
  fields : List String := []
  predicates : List Predicate := []
  /-- Conditions given as SQL text, which bind nothing. -/
  fragments : List String := []
  joins : List Join := []
  sortKeys : List SortKey := []
  groups : List String := []
  limit : Option UInt64 := none
  offset : Option UInt64 := none
  aggregate : Option Aggregate := none
  /-- The columns of an `INSERT` or `UPDATE` with their values. -/
  payload : List (String × Value) := []
  /-- What went wrong while gathering, the oldest first. -/
  errors : List BuildError := []
  deriving DecidableEq, Repr

namespace Draft

instance : Inhabited Draft := ⟨{}⟩

def clear (d : Draft) : Draft :=
  { d with
    table := none, fields := [], predicates := [], fragments := [], joins := [], sortKeys := [],
    groups := [], limit := none, offset := none, aggregate := none, payload := [], errors := [] }

def isClear (d : Draft) : Bool := d == {}

/-- The error that stops the statement. -/
def firstError (d : Draft) : Option BuildError := d.errors.head?

def addError (d : Draft) (e : BuildError) : Draft := { d with errors := d.errors ++ [e] }

/-- Whether the statement has a condition. -/
def hasWhere (d : Draft) : Bool := !d.predicates.isEmpty || !d.fragments.isEmpty

/-- A cleared draft is as good as a new one. -/
theorem clear_eq (d : Draft) : d.clear = {} := rfl

theorem isClear_iff (d : Draft) : d.isClear = true ↔ d = {} := by simp [isClear]

/-! ## Equality of what is meant -/

def samePredicates : List Predicate → List Predicate → Bool
  | [], [] => true
  | p :: ps, q :: qs => p.same q && samePredicates ps qs
  | _, _ => false

def samePayload : List (String × Value) → List (String × Value) → Bool
  | [], [] => true
  | (c, v) :: ps, (d, w) :: qs => c == d && v.same w && samePayload ps qs
  | _, _ => false

/-- Equality of drafts, their values compared as values. -/
def same (a b : Draft) : Bool :=
  { a with predicates := [], payload := [] } == { b with predicates := [], payload := [] } &&
    samePredicates a.predicates b.predicates && samePayload a.payload b.payload

end Draft

end QueryLoom
