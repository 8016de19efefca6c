import QueryLoom.Proofs.Refusal
import QueryLoom.Proofs.Shapes

/-!
# Outcomes of conditions

What becomes of each condition in a chain, told by rules on what it asks for: it is left out, it
becomes a predicate, or it is rejected with one error. The rules say which of several reasons to
reject a condition counts.

* `Condition.Asks` : the field, the operator and the operand that a condition asks for;
* `Predicate.Misfit` : why no predicate is made of an operator and an operand;
* `Value.Zero`, `Condition.AboutZero` : the zeros, and the conditions about them;
* `Condition.Skipped`, `Condition.Accepted`, `Condition.Rejected` : the rules;
* `Condition.settled_iff_outcome` : a condition is settled by these rules;
* `Draft.applyAll_followed` : a chain does what it does without the calls that were not followed,
  apart from the errors;
* `conditions_settled` : all of it, for every chain.
-/

namespace QueryLoom

/-! ## Operators as given -/

namespace Operator.Given

/-- An operator that is given names an operator: itself, or the one that is spelled. -/
inductive Names : Operator.Given → Operator → Prop
  | known (op : Operator) : Names (.known op) op
  | spelled {text : String} {op : Operator} (found : Operator.parse? text = some op) :
      Names (.spelled text) op

variable {given : Operator.Given} {op : Operator} {e : BuildError}

theorem resolve_eq_ok_iff : given.resolve = .ok op ↔ given.Names op := by
  cases given with
  | known op' =>
    constructor
    · rintro ⟨⟩
      exact .known op
    · rintro ⟨⟩
      rfl
  | spelled text =>
    constructor
    · intro resolved
      cases found : Operator.parse? text with
      | none => simp [resolve, found] at resolved
      | some op' =>
        obtain rfl : op' = op := by simpa [resolve, found] using resolved
        exact .spelled found
    · rintro (_ | found)
      simp only [resolve, found]

theorem resolve_eq_error_iff :
    given.resolve = .error e ↔
      ∃ text, given = .spelled text ∧ Operator.parse? text = none ∧ e = .unknownOperator text := by
  cases given with
  | known op => simp [resolve]
  | spelled text =>
    cases found : Operator.parse? text with
    | none => simp [resolve, found, eq_comm]
    | some op => simp [resolve, found]

end Operator.Given

/-! ## Operators and operands -/

namespace Predicate

/-- Why no predicate is made of an operator and an operand: the operator takes operands of another
shape, or else an element may not stand in the list, of which the first one is named. -/
inductive Misfit (field : String) (op : Operator) : Operand → BuildError → Prop
  | shape {x : Operand} (other : x.fits op.kind = false) :
      Misfit field op x (.shapeMismatch field op)
  | element {front back : List Value} {v : Value} (list : op.kind = .list)
      (before : ∀ u ∈ front, u.Listable) (bad : ¬ v.Listable) :
      Misfit field op (.list (front ++ v :: back)) (.invalidListElement field op v.typeName)

variable {field : String} {op : Operator} {x : Operand} {e : BuildError}

theorem makeList_eq_error_iff {negated : Bool} {vs : List Value} :
    makeList field negated vs = .error e ↔
      ∃ front v back, vs = front ++ v :: back ∧ (∀ u ∈ front, u.Listable) ∧ ¬ v.Listable ∧
        e = .invalidListElement field (if negated then .notIn else .isIn) v.typeName := by
  have refuses (v : Value) : (!v.isListElement) = true ↔ ¬ v.Listable := by
    rw [← Value.isListElement_iff, Bool.not_eq_true', Bool.not_eq_true]
  unfold makeList
  constructor
  · intro failed
    split at failed
    · rename_i v found
      obtain ⟨bad, front, back, split, before⟩ := List.find?_eq_some_iff_append.1 found
      cases failed
      refine ⟨front, v, back, split, fun u member => ?_, (refuses v).1 bad, rfl⟩
      simpa [← Value.isListElement_iff] using before u member
    · cases failed
  · rintro ⟨front, v, back, rfl, before, bad, rfl⟩
    have found : (front ++ v :: back).find? (fun v => !v.isListElement) = some v := by
      refine List.find?_eq_some_iff_append.2
        ⟨(refuses v).2 bad, front, back, rfl, fun u member => ?_⟩
      simpa [← Value.isListElement_iff] using before u member
    rw [found]

/-- An operator that takes operands of another shape is told before the elements of a list are
looked at. -/
theorem make_of_not_fits (h : x.fits op.kind = false) :
    make field op x = .error (.shapeMismatch field op) := by
  cases op with
  | scalar op =>
    cases x with
    | single v => cases op <;> cases h
    | range _ _ | list _ => rfl
  | isIn | notIn =>
    cases x with
    | list vs => cases h
    | single _ | range _ _ => rfl
  | between =>
    cases x with
    | range lo hi => cases h
    | single _ | list _ => rfl

/-- An operator on lists makes what the list condition makes. -/
theorem make_list (list : op.kind = .list) (vs : List Value) :
    ∃ negated, op = (if negated then .notIn else .isIn) ∧
      make field op (.list vs) = makeList field negated vs := by
  cases op with
  | scalar op => cases op <;> cases list
  | isIn => exact ⟨false, rfl, rfl⟩
  | notIn => exact ⟨true, rfl, rfl⟩
  | between => cases list

theorem make_eq_error_iff : make field op x = .error e ↔ Misfit field op x e := by
  constructor
  · intro failed
    by_cases fits : x.fits op.kind = true
    · -- only a list can be of the right shape and still be rejected
      cases x with
      | list vs =>
        have list : op.kind = .list := by
          cases kind : op.kind with
          | list => rfl
          | comparison | pattern | range => simp [kind, Operand.fits] at fits
        obtain ⟨negated, rfl, made⟩ := make_list list vs
        rw [made] at failed
        obtain ⟨front, v, back, rfl, before, bad, rfl⟩ := makeList_eq_error_iff.1 failed
        exact .element list before bad
      | single v =>
        cases op with
        | scalar op => cases failed
        | isIn | notIn | between => cases fits
      | range lo hi =>
        cases op with
        | between => cases failed
        | scalar op => cases op <;> cases fits
        | isIn | notIn => cases fits
    · rw [Bool.not_eq_true] at fits
      rw [make_of_not_fits fits] at failed
      cases failed
      exact .shape fits
  · rintro (other | ⟨list, before, bad⟩)
    · exact make_of_not_fits other
    · obtain ⟨negated, rfl, made⟩ := make_list list _
      rw [made, makeList_eq_error_iff]
      exact ⟨_, _, _, rfl, before, bad, rfl⟩

end Predicate

/-! ## Zeros -/

/-- A zero pattern stands for zero, and no other does. -/
theorem Binary.isZero_iff {f : Format} (finite : f.topField ≠ 0) {x : Binary f} :
    x.isZero = true ↔ ∃ negative e, x.number = .finite negative 0 e := by
  have hidden : Nat.pow 2 f.fractionBits ≠ 0 := (Nat.two_pow_pos _).ne'
  rw [isZero, Bool.and_eq_true, beq_iff_eq, beq_iff_eq, number]
  by_cases least : x.field = 0
  · rw [if_neg (least ▸ finite.symm), if_pos least]
    simp [least]
  · -- an infinity, a NaN, or a number with a hidden digit
    constructor
    · exact fun zero => absurd zero.1 least
    · rintro ⟨negative, e, same⟩
      rw [if_neg least] at same
      split at same
      · split at same <;> cases same
      · have digits := (Number.finite.inj same).2.1
        omega

/-- The zeros of the kinds of values that have one: numbers of either sign that are zero, and the
text without characters. -/
inductive Value.Zero : Value → Prop
  | int32 : Zero (.int32 0)
  | int64 : Zero (.int64 0)
  | uint64 : Zero (.uint64 0)
  | float32 {x : Binary32} {negative : Bool} {e : Int} (h : x.number = .finite negative 0 e) :
      Zero (.float32 x)
  | float64 {x : Binary64} {negative : Bool} {e : Int} (h : x.number = .finite negative 0 e) :
      Zero (.float64 x)
  | text : Zero (.text "")

theorem Value.isZero_iff {v : Value} : v.isZero = true ↔ v.Zero := by
  have single : Binary.Format.single.topField ≠ 0 := by decide
  have double : Binary.Format.double.topField ≠ 0 := by decide
  constructor
  · intro zero
    cases v with
    | int32 n =>
      obtain rfl : n = 0 := eq_of_beq zero
      exact .int32
    | int64 n =>
      obtain rfl : n = 0 := eq_of_beq zero
      exact .int64
    | uint64 n =>
      obtain rfl : n = 0 := eq_of_beq zero
      exact .uint64
    | float32 x =>
      obtain ⟨negative, e, same⟩ := (Binary.isZero_iff single).1 zero
      exact .float32 same
    | float64 x =>
      obtain ⟨negative, e, same⟩ := (Binary.isZero_iff double).1 zero
      exact .float64 same
    | text s =>
      obtain rfl : s = "" := String.isEmpty_iff.1 zero
      exact .text
    | null | bool _ | bytes _ | json _ | dateTime _ => cases zero
  · intro zero
    cases zero with
    | float32 same => exact (Binary.isZero_iff single).2 ⟨_, _, same⟩
    | float64 same => exact (Binary.isZero_iff double).2 ⟨_, _, same⟩
    | int32 | int64 | uint64 | text => rfl

/-! ## Conditions -/

namespace Condition

/-- The field, the operator as given and the operand that a condition asks for. A text that has to
be a number asks for nothing unless it is one. -/
inductive Asks : Condition → String → Operator.Given → Operand → Prop
  | compare (field : String) (op : Operator.Given) (v : Value) :
      Asks (.compare field op v) field op (.single v)
  | number {field : String} {op : Operator.Given} {text : String} {n : Int}
      (read : Text.IntRange.int64.read text.toList = .ok n) :
      Asks (.number field op text) field op (.single (.int64 (Int64.ofInt n)))
  | numeral (field : String) (op : Operator.Given) (n : Int64) :
      Asks (.numeral field op n) field op
        (.single (.text (String.ofList (Text.decimalInt n.toInt))))
  | among (field : String) (negated : Bool) (vs : List Value) :
      Asks (.among field negated vs) field (.known (if negated then .notIn else .isIn)) (.list vs)
  | like (field : String) (matching : Matching) (text : String) :
      Asks (.like field matching text) field (.known (.scalar matching.operator))
        (.single (.text (matching.pattern text)))
  | between (field : String) (lo hi : Value) :
      Asks (.between field lo hi) field (.known .between) (.range lo hi)

/-- The conditions about the zero of a kind. -/
inductive AboutZero : Condition → Prop
  | compare {field : String} {op : Operator.Given} {v : Value} (zero : v.Zero) :
      AboutZero (.compare field op v)
  | number (field : String) (op : Operator.Given) : AboutZero (.number field op "")
  | numeral (field : String) (op : Operator.Given) : AboutZero (.numeral field op 0)
  | like (field : String) (matching : Matching) : AboutZero (.like field matching "")

/-- A condition is left out when it is about a list without elements, or about a zero and the caller
does not want those. -/
inductive Skipped : Bool → Condition → Prop
  | empty (skipZero : Bool) (field : String) (negated : Bool) :
      Skipped skipZero (.among field negated [])
  | zero {c : Condition} (h : c.AboutZero) : Skipped true c

/-- A condition becomes a predicate that has just what it asks for. -/
structure Accepted (c : Condition) (p : Predicate) : Prop where
  asks : ∃ given, c.Asks p.field given p.operand ∧ given.Names p.operator
  listable : ∀ vs, p.operand = .list vs → ∀ v ∈ vs, v.Listable

/-- Why a condition cannot be followed. A text that is no number comes before everything else, and
an operator that there is not before one that does not fit. -/
inductive Rejected : Condition → BuildError → Prop
  | coercion {field : String} {op : Operator.Given} {text : String} {fault : Text.NumeralFault}
      (read : Text.IntRange.int64.read text.toList = .error fault) :
      Rejected (.number field op text) (.coercion field text fault.message)
  | unknown {c : Condition} {field text : String} {x : Operand}
      (asks : c.Asks field (.spelled text) x) (none : Operator.parse? text = none) :
      Rejected c (.unknownOperator text)
  | misfit {c : Condition} {field : String} {given : Operator.Given} {op : Operator} {x : Operand}
      {e : BuildError} (asks : c.Asks field given x) (names : given.Names op)
      (h : Predicate.Misfit field op x e) : Rejected c e

/-- What becomes of a condition, by the rules. -/
inductive Settled (skipZero : Bool) (c : Condition) : Outcome → Prop
  | skipped (h : Skipped skipZero c) : Settled skipZero c .skipped
  | accepted {p : Predicate} (kept : ¬ Skipped skipZero c) (h : c.Accepted p) :
      Settled skipZero c (.accepted p)
  | rejected {e : BuildError} (kept : ¬ Skipped skipZero c) (h : c.Rejected e) :
      Settled skipZero c (.rejected e)

variable {c : Condition} {field : String} {given : Operator.Given} {x : Operand} {p : Predicate}
  {e : BuildError} {skipZero : Bool}

/-! ### Making the predicate -/

theorem build_eq_ok_iff :
    build field given x = .ok p ↔
      p.field = field ∧ given.Names p.operator ∧ p.operand = x ∧
        ∀ vs, p.operand = .list vs → ∀ v ∈ vs, v.Listable := by
  constructor
  · intro built
    rw [build] at built
    split at built
    · rename_i op resolved
      obtain ⟨⟨-, listable⟩, rfl, rfl, rfl⟩ := Predicate.make_eq_ok_iff.1 built
      exact ⟨rfl, Operator.Given.resolve_eq_ok_iff.1 resolved, rfl, listable⟩
    · cases built
  · rintro ⟨rfl, names, rfl, listable⟩
    rw [build, Operator.Given.resolve_eq_ok_iff.2 names]
    exact Predicate.make_eq_ok_iff.2 ⟨⟨p.operand_fits, listable⟩, rfl, rfl, rfl⟩

theorem build_eq_error_iff :
    build field given x = .error e ↔
      (∃ text, given = .spelled text ∧ Operator.parse? text = none ∧ e = .unknownOperator text) ∨
        ∃ op, given.Names op ∧ Predicate.Misfit field op x e := by
  constructor
  · intro failed
    rw [build] at failed
    split at failed
    · rename_i op resolved
      exact .inr ⟨op, Operator.Given.resolve_eq_ok_iff.1 resolved,
        Predicate.make_eq_error_iff.1 failed⟩
    · rename_i e' unresolved
      cases failed
      exact .inl (Operator.Given.resolve_eq_error_iff.1 unresolved)
  · rintro (unknown | ⟨op, names, misfit⟩)
    · rw [build, Operator.Given.resolve_eq_error_iff.2 unknown]
    · rw [build, Operator.Given.resolve_eq_ok_iff.2 names]
      exact Predicate.make_eq_error_iff.2 misfit

/-- A condition asks for one thing at most. -/
theorem Asks.unique {field' : String} {given' : Operator.Given} {x' : Operand}
    (h : c.Asks field given x) (k : c.Asks field' given' x') :
    field' = field ∧ given' = given ∧ x' = x := by
  cases h with
  | number read =>
    cases k with
    | number read' =>
      cases read.symm.trans read'
      exact ⟨rfl, rfl, rfl⟩
  | compare | numeral | among | like | between =>
    cases k
    exact ⟨rfl, rfl, rfl⟩

/-- A condition asks for something, or is about a text that is no number. -/
theorem asks_or_unread (c : Condition) :
    (∃ field given x, c.Asks field given x) ∨
      ∃ field op text fault,
        c = .number field op text ∧ Text.IntRange.int64.read text.toList = .error fault := by
  cases c with
  | number field op text =>
    cases read : Text.IntRange.int64.read text.toList with
    | ok n => exact .inl ⟨_, _, _, .number read⟩
    | error fault => exact .inr ⟨_, _, _, _, rfl, read⟩
  | compare field op v => exact .inl ⟨_, _, _, .compare field op v⟩
  | numeral field op n => exact .inl ⟨_, _, _, .numeral field op n⟩
  | among field negated vs => exact .inl ⟨_, _, _, .among field negated vs⟩
  | like field matching text => exact .inl ⟨_, _, _, .like field matching text⟩
  | between field lo hi => exact .inl ⟨_, _, _, .between field lo hi⟩

/-- Every condition that is followed tries to make a predicate of what it asks for. -/
theorem attempt_of_asks (kept : ¬ Skipped skipZero c) (asks : c.Asks field given x) :
    c.attempt = .ofExcept (build field given x) := by
  cases asks with
  | compare | numeral | between => rfl
  | number read => simp only [attempt, read]
  | like field matching text => cases matching <;> rfl
  | among field negated vs =>
    have some : vs.isEmpty = false := by
      rw [List.isEmpty_eq_false_iff]
      rintro rfl
      exact kept (.empty skipZero field negated)
    cases negated <;> simp [attempt, some, build, Operator.Given.resolve, Predicate.make]

theorem attempt_of_unread {op : Operator.Given} {text : String} {fault : Text.NumeralFault}
    (read : Text.IntRange.int64.read text.toList = .error fault) :
    (number field op text).attempt = .rejected (.coercion field text fault.message) := by
  simp only [attempt, read]

theorem not_asks_of_unread {field' text : String} {op : Operator.Given} {fault : Text.NumeralFault}
    (read : Text.IntRange.int64.read text.toList = .error fault) :
    ¬ (number field' op text).Asks field given x := by
  rintro (_ | read')
  cases read.symm.trans read'

/-! ### Settling -/

theorem ofExcept_eq_rejected {y : Except BuildError Predicate} :
    Outcome.ofExcept y = .rejected e ↔ y = .error e := by
  cases y <;> simp [Outcome.ofExcept]

theorem ofExcept_ne_skipped (y : Except BuildError Predicate) : Outcome.ofExcept y ≠ .skipped := by
  cases y <;> simp [Outcome.ofExcept]

theorem attempt_eq_accepted_iff (kept : ¬ Skipped skipZero c) :
    c.attempt = .accepted p ↔ c.Accepted p := by
  obtain ⟨field, given, x, asks⟩ | ⟨field, op, text, fault, rfl, read⟩ := c.asks_or_unread
  · rw [attempt_of_asks kept asks, ofExcept_eq_accepted, build_eq_ok_iff]
    constructor
    · rintro ⟨rfl, names, rfl, listable⟩
      exact ⟨⟨given, asks, names⟩, listable⟩
    · rintro ⟨⟨given', asks', names⟩, listable⟩
      obtain ⟨same, rfl, operand⟩ := asks.unique asks'
      exact ⟨same, names, operand, listable⟩
  · rw [attempt_of_unread read]
    constructor
    · rintro ⟨⟩
    · rintro ⟨⟨given, asks, -⟩, -⟩
      exact absurd asks (not_asks_of_unread read)

theorem attempt_eq_rejected_iff (kept : ¬ Skipped skipZero c) :
    c.attempt = .rejected e ↔ c.Rejected e := by
  obtain ⟨field, given, x, asks⟩ | ⟨field, op, text, fault, rfl, read⟩ := c.asks_or_unread
  · rw [attempt_of_asks kept asks, ofExcept_eq_rejected, build_eq_error_iff]
    constructor
    · rintro (⟨text, rfl, none, rfl⟩ | ⟨op, names, misfit⟩)
      · exact .unknown asks none
      · exact .misfit asks names misfit
    · rintro (read | ⟨asks', none⟩ | ⟨asks', names, misfit⟩)
      · exact absurd asks (not_asks_of_unread read)
      · obtain ⟨rfl, rfl, rfl⟩ := asks.unique asks'
        exact .inl ⟨_, rfl, none, rfl⟩
      · obtain ⟨rfl, rfl, rfl⟩ := asks.unique asks'
        exact .inr ⟨_, names, misfit⟩
  · rw [attempt_of_unread read]
    constructor
    · rintro ⟨⟩
      exact .coercion read
    · rintro (read' | ⟨asks, -⟩ | ⟨asks, -, -⟩)
      · cases read.symm.trans read'
        rfl
      · exact absurd asks (not_asks_of_unread read)
      · exact absurd asks (not_asks_of_unread read)

theorem attempt_ne_skipped (kept : ¬ Skipped skipZero c) : c.attempt ≠ .skipped := by
  obtain ⟨field, given, x, asks⟩ | ⟨field, op, text, fault, rfl, read⟩ := c.asks_or_unread
  · rw [attempt_of_asks kept asks]
    exact ofExcept_ne_skipped _
  · rw [attempt_of_unread read]
    exact Outcome.noConfusion

theorem isZero_iff : c.isZero = true ↔ c.AboutZero := by
  constructor
  · intro zero
    cases c with
    | compare field op v => exact .compare (Value.isZero_iff.1 zero)
    | number field op text =>
      obtain rfl : text = "" := String.isEmpty_iff.1 zero
      exact .number field op
    | numeral field op n =>
      obtain rfl : n = 0 := eq_of_beq zero
      exact .numeral field op
    | like field matching text =>
      obtain rfl : text = "" := String.isEmpty_iff.1 zero
      exact .like field matching
    | among _ _ _ | between _ _ _ => cases zero
  · intro zero
    cases zero with
    | compare zero => exact Value.isZero_iff.2 zero
    | number | numeral | like => rfl

theorem outcome_of_skipped (h : Skipped skipZero c) : c.outcome skipZero = .skipped := by
  cases h with
  | empty skipZero field negated => cases skipZero <;> rfl
  | zero zero =>
    rw [outcome, isZero_iff.2 zero]
    rfl

theorem outcome_of_not_skipped (h : ¬ Skipped skipZero c) : c.outcome skipZero = c.attempt := by
  refine if_neg fun zero => ?_
  obtain ⟨rfl, zero⟩ := (Bool.and_eq_true _ _).mp zero
  exact h (.zero (isZero_iff.1 zero))

/-- What becomes of a condition is what the rules say. -/
theorem settled_iff_outcome {o : Outcome} : c.Settled skipZero o ↔ c.outcome skipZero = o := by
  by_cases skipped : Skipped skipZero c
  · rw [outcome_of_skipped skipped]
    constructor
    · rintro (_ | ⟨kept, _⟩ | ⟨kept, _⟩)
      · rfl
      · exact absurd skipped kept
      · exact absurd skipped kept
    · rintro rfl
      exact .skipped skipped
  · rw [outcome_of_not_skipped skipped]
    constructor
    · rintro (h | ⟨kept, accepted⟩ | ⟨kept, rejected⟩)
      · exact absurd h skipped
      · exact (attempt_eq_accepted_iff kept).2 accepted
      · exact (attempt_eq_rejected_iff kept).2 rejected
    · intro same
      cases o with
      | skipped => exact absurd same (attempt_ne_skipped skipped)
      | accepted p => exact .accepted skipped ((attempt_eq_accepted_iff skipped).1 same)
      | rejected e => exact .rejected skipped ((attempt_eq_rejected_iff skipped).1 same)

end Condition

/-! ## Calls -/

namespace Call

/-- Whether a call is followed: every call is but for the conditions that are left out or
rejected. -/
def followed : Call → Bool
  | .require skipZero c =>
    match c.outcome skipZero with
    | .accepted _ => true
    | _ => false
  | _ => true

variable {c : Call}

/-- The calls that record an error are the rejected conditions. -/
theorem offence_eq_some_iff {e : BuildError} :
    c.offence = some e ↔
      ∃ skipZero condition, c = .require skipZero condition ∧
        condition.Settled skipZero (.rejected e) := by
  simp only [Condition.settled_iff_outcome]
  cases c with
  | require skipZero condition =>
    cases found : condition.outcome skipZero <;> simp [offence, found]
  | _ => simp [offence]

theorem followed_eq_false_iff :
    c.followed = false ↔
      ∃ skipZero condition, c = .require skipZero condition ∧
        (condition.Settled skipZero .skipped ∨ ∃ e, condition.Settled skipZero (.rejected e)) := by
  simp only [Condition.settled_iff_outcome]
  cases c with
  | require skipZero condition =>
    cases found : condition.outcome skipZero <;> simp [followed, found]
  | _ => simp [followed]

theorem offence_of_followed (h : c.followed = true) : c.offence = none := by
  cases c with
  | require skipZero condition =>
    rw [followed] at h
    rw [offence]
    cases found : condition.outcome skipZero with
    | accepted p => rfl
    | skipped | rejected e => simp [found] at h
  | _ => rfl

end Call

/-! ## Chains -/

namespace Draft

/-- A call that is not followed leaves its error, if it has one, and nothing else. -/
theorem apply_of_not_followed {c : Call} (h : c.followed = false) (d : Draft) :
    d.apply c = { d with errors := d.errors ++ c.offence.toList } := by
  cases c with
  | require skipZero condition =>
    rw [Call.followed] at h
    rw [apply, Call.offence]
    cases found : condition.outcome skipZero with
    | accepted p => simp [found] at h
    | skipped => simp [follow]
    | rejected e => rfl
  | _ => cases h

/-- No call looks at the errors of earlier ones. -/
theorem apply_withErrors (d : Draft) (es : List BuildError) (c : Call) :
    ({ d with errors := es } : Draft).apply c =
      { d.apply c with errors := es ++ c.offence.toList } := by
  cases c with
  | require skipZero condition =>
    simp only [apply, Call.offence]
    cases condition.outcome skipZero <;> simp [follow, addError]
  | _ => simp [apply, Call.offence]

theorem applyAll_withErrors (d : Draft) (es : List BuildError) (calls : List Call) :
    ({ d with errors := es } : Draft).applyAll calls =
      { d.applyAll calls with errors := es ++ calls.filterMap Call.offence } := by
  induction calls generalizing d es with
  | nil => simp
  | cons c calls ih =>
    rw [applyAll_cons, apply_withErrors, ih, List.append_assoc, List.filterMap_cons, applyAll_cons]
    cases c.offence <;> rfl

/-- A chain does what its followed calls do, and records the errors of the others. -/
theorem applyAll_followed (d : Draft) (calls : List Call) :
    d.applyAll calls =
      { d.applyAll (calls.filter Call.followed) with
        errors := d.errors ++ calls.filterMap Call.offence } := by
  induction calls generalizing d with
  | nil => simp
  | cons c calls ih =>
    cases followed : c.followed with
    | false =>
      rw [applyAll_cons, apply_of_not_followed followed, applyAll_withErrors, ih,
        List.filter_cons_of_neg (by simp [followed]), List.append_assoc, List.filterMap_cons]
      cases c.offence <;> rfl
    | true =>
      have clean := Call.offence_of_followed followed
      rw [applyAll_cons, ih, errors_apply, List.filter_cons_of_pos followed, applyAll_cons,
        List.filterMap_cons, clean, Option.toList_none, List.append_nil]

end Draft

/-! ## Main statement -/

/-- By the rules each condition has one outcome. A condition that is left out changes nothing, an
accepted one appends its predicate and a rejected one its error, and neither changes anything else.
So a chain records the errors of its rejected conditions in the order of the calls, and is in all
else what it is without the conditions that were left out or rejected. The rules about shapes and
elements hold whatever operator and operand come together. -/
theorem conditions_settled (d : Draft) :
    (∀ (skipZero : Bool) (c : Condition), ∃ o,
      (∀ o', c.Settled skipZero o' ↔ o' = o) ∧
        d.apply (.require skipZero c) =
          match o with
          | .skipped => d
          | .accepted p => { d with predicates := d.predicates ++ [p] }
          | .rejected e => { d with errors := d.errors ++ [e] }) ∧
    (∀ calls : List Call,
      (d.applyAll calls).errors = d.errors ++ calls.filterMap Call.offence ∧
        (d.applyAll (calls.filter Call.followed)).errors = d.errors ∧
        d.applyAll calls =
          { d.applyAll (calls.filter Call.followed) with errors := (d.applyAll calls).errors }) ∧
    (∀ (c : Call) (e : BuildError), c.offence = some e ↔
      ∃ skipZero condition, c = .require skipZero condition ∧
        condition.Settled skipZero (.rejected e)) ∧
    (∀ c : Call, c.followed = false ↔
      ∃ skipZero condition, c = .require skipZero condition ∧
        (condition.Settled skipZero .skipped ∨ ∃ e, condition.Settled skipZero (.rejected e))) ∧
    ∀ (field : String) (op : Operator) (x : Operand) (e : BuildError),
      Predicate.make field op x = .error e ↔ Predicate.Misfit field op x e := by
  refine ⟨fun skipZero c => ⟨c.outcome skipZero, fun o => ?_, ?_⟩, fun calls => ⟨?_, ?_, ?_⟩,
    fun c e => Call.offence_eq_some_iff, fun c => Call.followed_eq_false_iff,
    fun field op x e => Predicate.make_eq_error_iff⟩
  · rw [Condition.settled_iff_outcome, eq_comm]
  · rw [Draft.apply]
    cases c.outcome skipZero <;> rfl
  · exact d.errors_applyAll calls
  · have none : (calls.filter Call.followed).filterMap Call.offence = [] := by
      rw [List.filterMap_eq_nil_iff]
      exact fun c member => Call.offence_of_followed (List.mem_filter.1 member).2
    rw [Draft.errors_applyAll, none, List.append_nil]
  · rw [d.errors_applyAll calls]
    exact d.applyAll_followed calls

/-- A text that is no number is told before the operator, and a list of the wrong operator before
its elements; a zero is left out before either is looked at. -/
example :
    (({} : Draft).applyAll
        [.require false (.number "age" (.spelled "~") "x"),
          .require true (.equals "age" (.int32 0)),
          .require true (.compare "age" (.spelled "~") (.text "")), .limit 3,
          .require false (.compare "age" (.spelled "in") (.int32 1))]) =
      { limit := some 3,
        errors :=
          [.coercion "age" "x" "invalid digit found in string", .shapeMismatch "age" .isIn] } := by
  rfl

end QueryLoom
