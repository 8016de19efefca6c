import QueryLoom.Draft.Basic

/-!
# Calls

The calls that gather the clauses of a draft. None of them fails: a call that cannot be followed
leaves its error in the draft and nothing else.

* `Condition.outcome` : a structured condition is skipped, accepted or rejected, and never more
  than one of these;
* `Draft.apply` : what a call does to a draft.
-/

namespace QueryLoom

/-! ## Operators as given -/

/-- An operator as a caller gives it: as such, or by its spelling. -/
inductive Operator.Given where
  | known (op : Operator)
  | spelled (text : String)
  deriving DecidableEq, Repr

def Operator.Given.resolve : Operator.Given → Except BuildError Operator
  | .known op => .ok op
  | .spelled text =>
    match Operator.parse? text with
    | some op => .ok op
    | none => .error (.unknownOperator text)

/-! ## Conditions -/

/-- The ways to match a text with a pattern. -/
inductive Matching where
  | contains
  | startsWith
  | excludes
  deriving DecidableEq, Repr

def Matching.operator : Matching → Operator.Scalar
  | .contains | .startsWith => .like
  | .excludes => .notLike

/-- The pattern of a text: the wildcard stands for what may surround it. -/
def Matching.pattern (m : Matching) (text : String) : String :=
  match m with
  | .contains | .excludes => "%" ++ text ++ "%"
  | .startsWith => text ++ "%"

/-- What a caller asks of a field. -/
inductive Condition where
  | compare (field : String) (op : Operator.Given) (v : Value)
  /-- The field compares with the number that a text spells. -/
  | number (field : String) (op : Operator.Given) (text : String)
  /-- The field compares with the decimal text of a number. -/
  | numeral (field : String) (op : Operator.Given) (n : Int64)
  /-- The field is in a list, or is not. -/
  | among (field : String) (negated : Bool) (vs : List Value)
  | like (field : String) (matching : Matching) (text : String)
  | between (field : String) (lo hi : Value)
  deriving DecidableEq, Repr

namespace Condition

def equals (field : String) (v : Value) : Condition := .compare field (.known (.scalar .eq)) v

/-- Whether the condition is about the zero of its kind. -/
def isZero : Condition → Bool
  | .compare _ _ v => v.isZero
  | .number _ _ text => text.isEmpty
  | .numeral _ _ n => n == 0
  | .like _ _ text => text.isEmpty
  | .among .. | .between .. => false

inductive Outcome where
  | skipped
  | accepted (p : Predicate)
  | rejected (e : BuildError)
  deriving DecidableEq, Repr

/-- The outcome of an attempt to make a predicate. -/
def Outcome.ofExcept : Except BuildError Predicate → Outcome
  | .ok p => .accepted p
  | .error e => .rejected e

/-- A predicate of a field, an operator as given, and an operand. -/
def build (field : String) (op : Operator.Given) (operand : Operand) :
    Except BuildError Predicate :=
  match op.resolve with
  | .ok op => Predicate.make field op operand
  | .error e => .error e

/-- What becomes of a condition that is to be followed. The text of a number is read before the
operator is looked at, and a list without elements restricts nothing. -/
def attempt : Condition → Outcome
  | .compare field op v => .ofExcept (build field op (.single v))
  | .number field op text =>
    match Text.IntRange.int64.read text.toList with
    | .ok n => .ofExcept (build field op (.single (.int64 (Int64.ofInt n))))
    | .error fault => .rejected (.coercion field text fault.message)
  | .numeral field op n =>
    .ofExcept (build field op (.single (.text (String.ofList (Text.decimalInt n.toInt)))))
  | .among field negated vs =>
    if vs.isEmpty then .skipped else .ofExcept (Predicate.makeList field negated vs)
  | .like field matching text =>
    .accepted (.scalar field matching.operator (.text (matching.pattern text)))
  | .between field lo hi => .accepted (.between field lo hi)

/-- What becomes of a condition; one about a zero is left out if the caller wants that. -/
def outcome (skipZero : Bool) (c : Condition) : Outcome :=
  if skipZero && c.isZero then .skipped else c.attempt

end Condition

/-! ## Calls -/

/-- A call that gathers one clause. -/
inductive Call where
  | select (columns : List String)
  /-- A list of fields as text, with commas between them. -/
  | selectText (text : String)
  /-- A structured condition, left out when it is about a zero and `skipZero` is set. -/
  | require (skipZero : Bool) (c : Condition)
  /-- A condition as SQL text, which is neither checked nor escaped. -/
  | fragment (text : String)
  | join (j : Join)
  | orderBy (k : SortKey)
  | groupBy (columns : List String)
  | limit (n : UInt64)
  | offset (n : UInt64)
  deriving DecidableEq, Repr

def fieldsOfText (text : String) : List String := (Text.items text.toList).map String.ofList

namespace Draft

def follow (d : Draft) : Condition.Outcome → Draft
  | .skipped => d
  | .accepted p => { d with predicates := d.predicates ++ [p] }
  | .rejected e => d.addError e

def apply (d : Draft) : Call → Draft
  | .select columns => { d with fields := d.fields ++ columns }
  | .selectText text => { d with fields := d.fields ++ fieldsOfText text }
  | .require skipZero c => d.follow (c.outcome skipZero)
  | .fragment text => { d with fragments := d.fragments ++ [text] }
  | .join j => { d with joins := d.joins ++ [j] }
  | .orderBy k => { d with sortKeys := d.sortKeys ++ [k] }
  | .groupBy columns => { d with groups := d.groups ++ columns }
  | .limit n => { d with limit := some n }
  | .offset n => { d with offset := some n }

def applyAll (d : Draft) (calls : List Call) : Draft := calls.foldl apply d

@[simp] theorem applyAll_nil (d : Draft) : d.applyAll [] = d := rfl

@[simp] theorem applyAll_cons (d : Draft) (c : Call) (cs : List Call) :
    d.applyAll (c :: cs) = (d.apply c).applyAll cs := rfl

theorem applyAll_append (d : Draft) (cs ds : List Call) :
    d.applyAll (cs ++ ds) = (d.applyAll cs).applyAll ds := List.foldl_append

/-- What every call keeps is kept by a chain. -/
theorem applyAll_induction {P : Draft → Prop} (step : ∀ d c, P d → P (d.apply c)) {d : Draft}
    (h : P d) (calls : List Call) : P (d.applyAll calls) := by
  induction calls generalizing d with
  | nil => exact h
  | cons c cs ih => exact ih (step d c h)

/-- A list to which each call appends what it adds holds at the end what the calls added, in their
order. -/
theorem applyAll_appends {α : Type} (list : Draft → List α) (added : Call → Option α)
    (step : ∀ d c, list (d.apply c) = list d ++ (added c).toList) (d : Draft)
    (calls : List Call) : list (d.applyAll calls) = list d ++ calls.filterMap added := by
  induction calls generalizing d with
  | nil => simp
  | cons c cs ih =>
    rw [applyAll_cons, ih, step, List.append_assoc, List.filterMap_cons]
    cases added c <;> rfl

/-- No call touches the table. -/
theorem table_apply (d : Draft) (c : Call) : (d.apply c).table = d.table := by
  cases c with
  | require skipZero c => simp only [apply]; cases c.outcome skipZero <;> rfl
  | _ => rfl

end Draft

end QueryLoom
