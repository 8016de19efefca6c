import QueryLoom.Proofs.Integers
import QueryLoom.Proofs.Outcomes

/-!
# Numbers given as text

A condition may be given its number as text. The text is not trimmed: either it is a numeral of a
64-bit integer as it stands, or it is refused for the first of its faults.

* `Text.IntRange.Opens` : the sign of a text and what follows it;
* `Text.IntRange.Misspells` : why a text spells no integer of a range;
* `Text.IntRange.read_eq_error_iff` : the reason that is given is the one that holds;
* `number_conditions_exact` : the condition on a text, and the condition on the number itself.
-/

namespace QueryLoom

namespace Text

/-! ## Digits that are not read -/

section

variable {bound acc : Nat} {excess fault : NumeralFault} {ds cs : List Char}

/-- Digits within the bound are read over. -/
theorem magnitude_append (digits : ∀ c ∈ ds, c.isDigit = true)
    (fits : Nat.ofDigitChars 10 ds acc ≤ bound) (back : List Char) :
    magnitude bound excess acc (ds ++ back) =
      magnitude bound excess (Nat.ofDigitChars 10 ds acc) back := by
  induction ds generalizing acc with
  | nil => rfl
  | cons d ds ih =>
    obtain ⟨here, rest⟩ := List.forall_mem_cons.1 digits
    rw [Nat.ofDigitChars_cons] at fits ⊢
    have within : 10 * acc + digitValue d ≤ bound := Nat.le_trans (ofDigitChars_le _ ds) fits
    rw [List.cons_append, magnitude, if_pos here, if_pos within]
    exact ih rest fits

/-- Digits past the bound are refused, whatever follows them. -/
theorem magnitude_of_lt (start : acc ≤ bound) (digits : ∀ c ∈ ds, c.isDigit = true)
    (beyond : bound < Nat.ofDigitChars 10 ds acc) (back : List Char) :
    magnitude bound excess acc (ds ++ back) = .error excess := by
  induction ds generalizing acc with
  | nil => exact absurd start (Nat.not_le.2 beyond)
  | cons d ds ih =>
    obtain ⟨here, rest⟩ := List.forall_mem_cons.1 digits
    rw [Nat.ofDigitChars_cons] at beyond
    rw [List.cons_append, magnitude, if_pos here]
    by_cases within : 10 * acc + digitValue d ≤ bound
    · rw [if_pos within]
      exact ih within rest beyond
    · rw [if_neg within]

/-- Where the reading of digits stops: at a character that is none, with what was read so far still
within the bound, or where the digits pass the bound. -/
theorem exists_of_magnitude_eq_error (start : acc ≤ bound)
    (failed : magnitude bound excess acc cs = .error fault) :
    ∃ ds back, cs = ds ++ back ∧ (∀ c ∈ ds, c.isDigit = true) ∧
      ((fault = .invalidDigit ∧ Nat.ofDigitChars 10 ds acc ≤ bound ∧
          ∃ c rest, back = c :: rest ∧ c.isDigit = false) ∨
        (fault = excess ∧ bound < Nat.ofDigitChars 10 ds acc)) := by
  induction cs generalizing acc with
  | nil => cases failed
  | cons c cs ih =>
    rw [magnitude] at failed
    split at failed
    · rename_i digit
      split at failed
      · rename_i within
        obtain ⟨ds, back, rfl, digits, stops⟩ := ih within failed
        exact ⟨c :: ds, back, rfl, List.forall_mem_cons.2 ⟨digit, digits⟩, stops⟩
      · rename_i beyond
        cases failed
        refine ⟨[c], cs, rfl, by simpa using digit, .inr ⟨rfl, ?_⟩⟩
        exact Nat.not_le.1 beyond
    · rename_i bad
      cases failed
      exact ⟨[], c :: cs, rfl, by simp, .inl ⟨rfl, start, c, cs, rfl, by simpa using bad⟩⟩

end

/-! ## Reasons -/

/-- The integer of a number behind a sign. -/
def signed (negative : Bool) (n : Nat) : Int := if negative then -n else n

/-- The fault of digits that leave a range: behind a minus they pass its lower end, else its upper
end. -/
def NumeralFault.excess (negative : Bool) : NumeralFault :=
  if negative then .tooSmall else .tooLarge

namespace IntRange

/-- Whether a text opens with a minus, and what follows its sign. A minus is a sign only in a range
that has negative numbers. -/
inductive Opens (r : IntRange) : List Char → (negative : Bool) → List Char → Prop
  | plus (body : List Char) : Opens r ('+' :: body) false body
  | minus (negative : r.lo < 0) (body : List Char) : Opens r ('-' :: body) true body
  | bare {c : Char} (plus : c ≠ '+') (minus : c = '-' → ¬ r.lo < 0) (body : List Char) :
      Opens r (c :: body) false (c :: body)

/-- Why a text spells no integer of a range: there is nothing, nothing behind the sign, a character
that is no digit while the digits before it are still within the range, or digits that are not,
whatever follows them. -/
inductive Misspells (r : IntRange) : List Char → NumeralFault → Prop
  | empty : Misspells r [] .empty
  | signAlone {cs : List Char} {negative : Bool} (opens : r.Opens cs negative []) :
      Misspells r cs .invalidDigit
  | badDigit {cs ds back : List Char} {negative : Bool} {c : Char}
      (opens : r.Opens cs negative (ds ++ c :: back)) (digits : ∀ d ∈ ds, d.isDigit = true)
      (within : r.Contains (signed negative (Nat.ofDigitChars 10 ds 0))) (bad : c.isDigit = false) :
      Misspells r cs .invalidDigit
  | excess {cs ds back : List Char} {negative : Bool} (opens : r.Opens cs negative (ds ++ back))
      (digits : ∀ d ∈ ds, d.isDigit = true)
      (beyond : ¬ r.Contains (signed negative (Nat.ofDigitChars 10 ds 0))) :
      Misspells r cs (.excess negative)

/-- How far a range reaches from zero in a direction. -/
def reach (r : IntRange) (negative : Bool) : Nat := if negative then r.lo.natAbs else r.hi.toNat

variable {r : IntRange} {cs ds body : List Char} {negative : Bool} {fault : NumeralFault}

theorem contains_signed_iff {n : Nat} : r.Contains (signed negative n) ↔ n ≤ r.reach negative := by
  have low := r.lo_le
  have high := r.le_hi
  cases negative with
  | false =>
    simp only [Contains, signed, reach, Bool.false_eq_true, if_false]
    omega
  | true =>
    simp only [Contains, signed, reach, if_true]
    omega

/-- Every text opens in one of these ways, unless there is nothing of it. -/
theorem exists_opens (r : IntRange) (c : Char) (cs : List Char) :
    ∃ negative body, r.Opens (c :: cs) negative body := by
  by_cases plus : c = '+'
  · exact ⟨false, cs, plus ▸ .plus cs⟩
  · by_cases minus : c = '-' ∧ r.lo < 0
    · exact ⟨true, cs, minus.1 ▸ .minus minus.2 cs⟩
    · exact ⟨false, c :: cs, .bare plus (fun same low => minus ⟨same, low⟩) cs⟩

/-- Behind the sign the digits are read in its direction. -/
theorem read_of_opens (opens : r.Opens cs negative body) (some : body ≠ []) :
    r.read cs =
      (magnitude (r.reach negative) (.excess negative) 0 body).map (signed negative) := by
  cases opens with
  | plus body =>
    simp only [read, if_true, List.isEmpty_iff, some, if_false]
    rfl
  | minus low body =>
    have negatives : ¬ 0 ≤ r.lo := Int.not_le.2 low
    simp only [read, Char.reduceEq, if_false, if_true, List.isEmpty_iff, some, negatives,
      Bool.or_eq_true, decide_eq_true_eq, or_self]
    rfl
  | bare plus minus body =>
    rw [read, if_neg plus]
    split
    · -- where a minus is no sign, it is no digit either
      rename_i same
      subst same
      simp [Int.not_lt.1 (minus rfl), magnitude, Except.map]
    · rfl

theorem read_of_opens_nil (opens : r.Opens cs negative []) : r.read cs = .error .invalidDigit := by
  cases opens with
  | plus => rfl
  | minus => rfl

/-- A text is refused for the reason for which it misspells, and for no other. -/
theorem read_eq_error_iff : r.read cs = .error fault ↔ r.Misspells cs fault := by
  constructor
  · intro failed
    cases cs with
    | nil =>
      cases failed
      exact .empty
    | cons c cs =>
      obtain ⟨negative, body, opens⟩ := r.exists_opens c cs
      by_cases some : body = []
      · subst some
        rw [read_of_opens_nil opens] at failed
        cases failed
        exact .signAlone opens
      · rw [read_of_opens opens some] at failed
        cases read : magnitude (r.reach negative) (.excess negative) 0 body with
        | ok n =>
          rw [read] at failed
          cases failed
        | error stop =>
          rw [read] at failed
          cases failed
          obtain ⟨ds, back, rfl, digits, stops⟩ :=
            exists_of_magnitude_eq_error (Nat.zero_le _) read
          rcases stops with ⟨rfl, fits, d, rest, rfl, bad⟩ | ⟨rfl, past⟩
          · exact .badDigit opens digits (contains_signed_iff.2 fits) bad
          · exact .excess opens digits (mt contains_signed_iff.1 (Nat.not_le.2 past))
  · intro misspells
    cases misspells with
    | empty => rfl
    | signAlone opens => exact read_of_opens_nil opens
    | badDigit opens digits within bad =>
      rw [read_of_opens opens (by simp), magnitude_append digits (contains_signed_iff.1 within)]
      simp [magnitude, bad, Except.map]
    | @excess _ ds back negative opens digits beyond =>
      have past : r.reach negative < Nat.ofDigitChars 10 ds 0 :=
        Nat.not_le.1 (mt contains_signed_iff.2 beyond)
      have some : ds ++ back ≠ [] := by
        intro nothing
        obtain ⟨rfl, -⟩ := List.append_eq_nil_iff.1 nothing
        exact absurd past (Nat.not_lt_zero _)
      rw [read_of_opens opens some, magnitude_of_lt (Nat.zero_le _) digits past]
      rfl

end IntRange

/-- The reasons are told apart by their wording. -/
theorem NumeralFault.message_injective {a b : NumeralFault} (h : a.message = b.message) :
    a = b := by
  revert h
  cases a <;> cases b <;> decide

end Text

/-! ## Conditions on numbers -/

namespace Draft

variable {d : Draft} {field text : String} {given : Operator.Given}

/-- A comparison or a pattern is always possible with a single value. -/
theorem apply_compare_of_names {op : Operator.Scalar} (names : given.Names (.scalar op))
    (v : Value) :
    d.apply (.require false (.compare field given v)) =
      { d with predicates := d.predicates ++ [.scalar field op v] } := by
  have built : Condition.build field given (.single v) = .ok (.scalar field op v) := by
    rw [Condition.build, Operator.Given.resolve_eq_ok_iff.2 names]
    rfl
  show d.follow (.ofExcept (Condition.build field given (.single v))) = _
  rw [built]
  rfl

/-- A text that is a number is as good as the number, whatever the operator. -/
theorem apply_number_of_read {m : Int} (read : Text.IntRange.int64.read text.toList = .ok m) :
    d.apply (.require false (.number field given text)) =
      d.apply (.require false (.compare field given (.int64 (Int64.ofInt m)))) := by
  show d.follow (Condition.attempt (.number field given text)) = _
  rw [Condition.attempt, read]
  rfl

/-- A text that is no number leaves its error and nothing else. -/
theorem apply_number_of_unread {fault : Text.NumeralFault}
    (read : Text.IntRange.int64.read text.toList = .error fault) :
    d.apply (.require false (.number field given text)) =
      { d with errors := d.errors ++ [.coercion field text fault.message] } := by
  show d.follow (Condition.attempt (.number field given text)) = _
  rw [Condition.attempt_of_unread read]
  rfl

/-- A predicate more is not an error more. -/
theorem predicates_ne_errors (p : Predicate) (e : BuildError) :
    ({ d with predicates := d.predicates ++ [p] } : Draft) ≠
      { d with errors := d.errors ++ [e] } := by
  intro same
  have errors : d.errors = d.errors ++ [e] := congrArg Draft.errors same
  simp at errors

end Draft

/-! ## Main statement -/

/-- With an operator that takes a single value, a condition on a number given as text appends the
predicate on that number when the text, as it stands, spells an integer of 64 bits, and then it does
nothing else. Any other text leaves one error with the text and the reason for which it misspells.
The text that stands for a number in a condition on its decimal text gives the condition on the
number itself. -/
theorem number_conditions_exact (d : Draft) (field : String) {given : Operator.Given}
    {op : Operator.Scalar} (names : given.Names (.scalar op)) (text : String) :
    (∀ v, (Predicate.scalar field op v).text =
        field ++ " " ++ (Operator.scalar op).spelling ++ " ?" ∧
      (Predicate.scalar field op v).values = [v]) ∧
    (∀ m : Int, (∃ n : Int64, n.toInt = m ∧
        d.apply (.require false (.number field given text)) =
          { d with predicates := d.predicates ++ [.scalar field op (.int64 n)] }) ↔
      Text.Spells true text.toList m ∧ Text.IntRange.int64.Contains m) ∧
    (∀ fault : Text.NumeralFault, d.apply (.require false (.number field given text)) =
        { d with errors := d.errors ++ [.coercion field text fault.message] } ↔
      Text.IntRange.int64.Misspells text.toList fault) ∧
    ((∃ fault, Text.IntRange.int64.Misspells text.toList fault) ↔
      ¬ ∃ m, Text.Spells true text.toList m ∧ Text.IntRange.int64.Contains m) ∧
    ∀ n : Int64, ∃ decimal : String,
      d.apply (.require false (.numeral field given n)) =
        { d with predicates := d.predicates ++ [.scalar field op (.text decimal)] } ∧
      d.apply (.require false (.number field given decimal)) =
        d.apply (.require false (.compare field given (.int64 n))) := by
  have exactly (m : Int) : Text.IntRange.int64.read text.toList = .ok m ↔
      Text.Spells true text.toList m ∧ Text.IntRange.int64.Contains m := by
    rw [Text.IntRange.read_eq_ok_iff]
    rfl
  have decimals (n : Int64) :
      Text.IntRange.int64.read (String.ofList (Text.decimalInt n.toInt)).toList = .ok n.toInt := by
    rw [String.toList_ofList]
    exact Text.IntRange.int64.read_decimalInt (Text.IntRange.int64_contains n)
  refine ⟨fun v => ⟨rfl, rfl⟩, fun m => ?_, fun fault => ?_, ?_, fun n => ?_⟩
  · rw [← exactly]
    cases read : Text.IntRange.int64.read text.toList with
    | ok k =>
      obtain ⟨-, low, high⟩ := (exactly k).1 read
      have value : (Int64.ofInt k).toInt = k :=
        Int64.toInt_ofInt_of_le low (Int.lt_add_one_of_le high)
      rw [Draft.apply_number_of_read read, Draft.apply_compare_of_names names]
      constructor
      · rintro ⟨n, rfl, same⟩
        have last := congrArg Draft.predicates same
        obtain rfl : Int64.ofInt k = n := by simpa using last
        rw [value]
      · rintro ⟨⟩
        exact ⟨_, value, rfl⟩
    | error told =>
      rw [Draft.apply_number_of_unread read]
      constructor
      · rintro ⟨n, -, same⟩
        exact absurd same.symm (Draft.predicates_ne_errors _ _)
      · rintro ⟨⟩
  · rw [← Text.IntRange.read_eq_error_iff]
    cases read : Text.IntRange.int64.read text.toList with
    | ok k =>
      rw [Draft.apply_number_of_read read, Draft.apply_compare_of_names names]
      constructor
      · exact fun same => absurd same (Draft.predicates_ne_errors _ _)
      · rintro ⟨⟩
    | error told =>
      rw [Draft.apply_number_of_unread read]
      constructor
      · intro same
        have last := congrArg Draft.errors same
        have wording : told.message = fault.message := by simpa using last
        rw [Text.NumeralFault.message_injective wording]
      · rintro ⟨⟩
        rfl
  · simp only [← Text.IntRange.read_eq_error_iff, ← exactly]
    cases Text.IntRange.int64.read text.toList <;> simp
  · refine ⟨_, Draft.apply_compare_of_names names _, ?_⟩
    rw [Draft.apply_number_of_read (decimals n), Int64.ofInt_toInt]

/-- The least number behind a zero, and digits that leave the range before a letter ends them. -/
theorem number_conditions_exact_leastBalance :
    (Operator.Given.spelled " Not  like ").Names (.scalar .notLike) ∧
    ({} : Draft).apply (.require false
        (.number "balance" (.spelled " Not  like ") "-09223372036854775808")) =
      { predicates := [.scalar "balance" .notLike (.int64 (-9223372036854775808))] } ∧
    ({} : Draft).apply (.require false
        (.number "balance" (.spelled " Not  like ") "-9223372036854775809x")) =
      { errors := [.coercion "balance" "-9223372036854775809x"
          "number too small to fit in target type"] } := by
  have names : (Operator.Given.spelled " Not  like ").Names (.scalar .notLike) :=
    .spelled (by decide +kernel)
  have digits : Text.IsDigits "09223372036854775808".toList :=
    ⟨by decide, List.all_eq_true.1 (by decide)⟩
  have spelled : Text.Spells true "-09223372036854775808".toList (-9223372036854775808) :=
    .minus rfl digits
  obtain ⟨n, value, accepted⟩ :=
    ((number_conditions_exact {} "balance" names "-09223372036854775808").2.1 _).2
      ⟨spelled, by decide, by decide⟩
  obtain rfl : n = -9223372036854775808 := Int64.toInt_inj.1 value
  have opens : Text.IntRange.int64.Opens "-9223372036854775809x".toList true
      ("9223372036854775809".toList ++ ['x']) := .minus (by decide) _
  have below : Text.IntRange.int64.Misspells "-9223372036854775809x".toList .tooSmall :=
    .excess opens (List.all_eq_true.1 (by decide)) (by decide)
  exact ⟨names, accepted,
    ((number_conditions_exact {} "balance" names "-9223372036854775809x").2.2.1 .tooSmall).2 below⟩

end QueryLoom
