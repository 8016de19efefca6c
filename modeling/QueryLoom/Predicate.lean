import QueryLoom.Error
import QueryLoom.Operator
import QueryLoom.Value.Basic

/-!
# Predicates

The structured conditions of a statement. The shape of a predicate's operand is the one that its
operator takes, by construction.

* `Predicate.make` : a predicate from its parts, or why they do not fit;
* `Predicate.make_operator_operand` : a predicate is made again from its own parts.
-/

namespace QueryLoom

/-- What a caller gives an operator to work on. -/
inductive Operand where
  | single (v : Value)
  | range (lo hi : Value)
  | list (vs : List Value)
  deriving DecidableEq, Repr

/-- Whether an operand has the shape that a kind of operator takes. -/
def Operand.fits : Operand → Operator.Kind → Bool
  | .single _, .comparison | .single _, .pattern => true
  | .range _ _, .range => true
  | .list _, .list => true
  | _, _ => false

/-- A structured condition on a field. -/
inductive Predicate where
  /-- A comparison or a pattern. -/
  | scalar (field : String) (op : Operator.Scalar) (v : Value)
  /-- Membership in a list, or its opposite. -/
  | list (field : String) (negated : Bool) (vs : List Value)
  /-- A range, ends included. -/
  | between (field : String) (lo hi : Value)
  deriving DecidableEq, Repr

namespace Predicate

/-! ## Parts -/

/-- The field that is restricted. -/
def field : Predicate → String
  | .scalar f _ _ | .list f _ _ | .between f _ _ => f

/-- The operator. -/
def operator : Predicate → Operator
  | .scalar _ op _ => .scalar op
  | .list _ false _ => .isIn
  | .list _ true _ => .notIn
  | .between .. => .between

/-- The operand. -/
def operand : Predicate → Operand
  | .scalar _ _ v => .single v
  | .list _ _ vs => .list vs
  | .between _ lo hi => .range lo hi

/-- The values that a predicate binds, in the order of its placeholders. -/
def values : Predicate → List Value
  | .scalar _ _ v => [v]
  | .list _ _ vs => vs
  | .between _ lo hi => [lo, hi]

/-! ## Construction -/

/-- The list condition, unless an element may not stand in a list; the first such element is
reported. -/
def makeList (field : String) (negated : Bool) (vs : List Value) : Except BuildError Predicate :=
  match vs.find? fun v => !v.isListElement with
  | some bad =>
    .error (.invalidListElement field (if negated then .notIn else .isIn) bad.typeName)
  | none => .ok (.list field negated vs)

/-- A predicate from its parts. -/
def make (field : String) (op : Operator) (operand : Operand) : Except BuildError Predicate :=
  match op, operand with
  | .scalar op, .single v => .ok (.scalar field op v)
  | .between, .range lo hi => .ok (.between field lo hi)
  | .isIn, .list vs => makeList field false vs
  | .notIn, .list vs => makeList field true vs
  | op, _ => .error (.shapeMismatch field op)

/-- The operand of a predicate has the shape that its operator takes. -/
theorem operand_fits (p : Predicate) : p.operand.fits p.operator.kind = true := by
  cases p with
  | scalar f op v => cases op <;> rfl
  | list f negated vs => cases negated <;> rfl
  | between f lo hi => rfl

/-- A predicate whose list elements are allowed is made again from its own parts. -/
theorem make_operator_operand (p : Predicate)
    (h : ∀ f negated vs, p = .list f negated vs → ∀ v ∈ vs, v.isListElement = true) :
    make p.field p.operator p.operand = .ok p := by
  cases p with
  | scalar f op v => rfl
  | between f lo hi => rfl
  | list f negated vs =>
    have none : vs.find? (fun v => !v.isListElement) = none := by
      rw [List.find?_eq_none]
      intro v hv
      simp [h f negated vs rfl v hv]
    cases negated <;> simp [make, makeList, field, operator, operand, none]

/-! ## Equality of what is meant -/

/-- Equality of value lists. -/
def sameValues : List Value → List Value → Bool
  | [], [] => true
  | a :: as, b :: bs => a.same b && sameValues as bs
  | _, _ => false

/-- Equality of predicates, their values compared as values. -/
def same (p q : Predicate) : Bool :=
  p.field == q.field && p.operator == q.operator && sameValues p.values q.values

end Predicate

end QueryLoom
