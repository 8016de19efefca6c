import QueryLoom.Row.Column

/-!
# Integers in columns

Which integer a value stands for, said without reading it, and the four types of integers that a
column can be read as. A value is read as the integer that it stands for when the type has it, and
not at all otherwise.

* `Text.Spells` : the texts that spell integers, and the integers that they spell;
* `Text.IntRange.read_eq_ok_iff` : numerals are read as what they spell, within bounds;
* `Text.trim_padded`, `Text.exists_around_trim` : what trimming takes away;
* `Value.Denotes` : the integers that values stand for;
* `IntType` : the types of integers;
* `integers_read_exactly` : reading a value as an integer, from every kind and for every type.
-/

namespace QueryLoom

namespace Text

/-! ## Numerals -/

/-- A text of decimal digits, at least one of them. -/
structure IsDigits (cs : List Char) : Prop where
  nonempty : cs ≠ []
  digits : ∀ c ∈ cs, c.isDigit = true

/-- The integers that texts spell: digits behind an optional plus or, where negative numbers have a
place, behind a minus. -/
inductive Spells (signed : Bool) : List Char → Int → Prop
  | bare {ds : List Char} (h : IsDigits ds) : Spells signed ds (Nat.ofDigitChars 10 ds 0)
  | plus {ds : List Char} (h : IsDigits ds) : Spells signed ('+' :: ds) (Nat.ofDigitChars 10 ds 0)
  | minus {ds : List Char} (negative : signed = true) (h : IsDigits ds) :
      Spells signed ('-' :: ds) (-Nat.ofDigitChars 10 ds 0)

/-- Digits are read as the number that they spell as long as it is in bounds, and nothing else is
read. -/
theorem magnitude_eq_ok_iff {bound : Nat} {excess : NumeralFault} {cs : List Char} {acc n : Nat}
    (h : acc ≤ bound) :
    magnitude bound excess acc cs = .ok n ↔
      (∀ c ∈ cs, c.isDigit = true) ∧ Nat.ofDigitChars 10 cs acc = n ∧ n ≤ bound := by
  constructor
  · intro read
    induction cs generalizing acc with
    | nil =>
      cases read
      exact ⟨by simp, rfl, h⟩
    | cons c cs ih =>
      rw [magnitude] at read
      split at read
      · rename_i digit
        split at read
        · rename_i fits
          obtain ⟨digits, value, within⟩ := ih fits read
          exact ⟨List.forall_mem_cons.2 ⟨digit, digits⟩, value, within⟩
        · cases read
      · cases read
  · rintro ⟨digits, rfl, within⟩
    exact magnitude_digits digits within

/-- No sign is a digit. -/
theorem IsDigits.head_ne {c : Char} {cs : List Char} (h : IsDigits (c :: cs)) :
    c ≠ '+' ∧ c ≠ '-' := by
  have digit := h.digits c List.mem_cons_self
  constructor
  all_goals
    rintro rfl
    exact absurd digit (by decide)

section

variable {signed : Bool} {c : Char} {cs : List Char} {n : Int}

theorem spells_plus_iff :
    Spells signed ('+' :: cs) n ↔ IsDigits cs ∧ n = Nat.ofDigitChars 10 cs 0 := by
  constructor
  · intro spelled
    cases spelled with
    | bare h => exact absurd rfl h.head_ne.1
    | plus h => exact ⟨h, rfl⟩
  · rintro ⟨h, rfl⟩
    exact .plus h

theorem spells_minus_iff :
    Spells signed ('-' :: cs) n ↔
      signed = true ∧ IsDigits cs ∧ n = -Nat.ofDigitChars 10 cs 0 := by
  constructor
  · intro spelled
    cases spelled with
    | bare h => exact absurd rfl h.head_ne.2
    | minus negative h => exact ⟨negative, h, rfl⟩
  · rintro ⟨negative, h, rfl⟩
    exact .minus negative h

theorem spells_bare_iff (plus : c ≠ '+') (minus : c ≠ '-') :
    Spells signed (c :: cs) n ↔ IsDigits (c :: cs) ∧ n = Nat.ofDigitChars 10 (c :: cs) 0 := by
  constructor
  · intro spelled
    cases spelled with
    | bare h => exact ⟨h, rfl⟩
    | plus h => exact absurd rfl plus
    | minus negative h => exact absurd rfl minus
  · rintro ⟨h, rfl⟩
    exact .bare h

/-- A text spells one integer at most. -/
theorem Spells.unique {m : Int} (h : Spells signed cs n) (k : Spells signed cs m) : n = m := by
  cases h with
  | bare digits =>
    obtain ⟨c, cs, rfl⟩ := List.exists_cons_of_ne_nil digits.nonempty
    exact ((spells_bare_iff digits.head_ne.1 digits.head_ne.2).1 k).2.symm
  | plus digits => exact (spells_plus_iff.1 k).2.symm
  | minus negative digits => exact (spells_minus_iff.1 k).2.2.symm

end

namespace IntRange

variable {r : IntRange} {cs : List Char} {n : Int}

/-- Digits are read up to a bound that stands for an end of a range. -/
theorem map_magnitude_eq_ok_iff {bound : Nat} {excess : NumeralFault} {toInt : Nat → Int}
    (bounds : ∀ k, k ≤ bound ↔ r.Contains (toInt k)) (some : cs ≠ []) :
    (magnitude bound excess 0 cs).map toInt = .ok n ↔
      (IsDigits cs ∧ n = toInt (Nat.ofDigitChars 10 cs 0)) ∧ r.Contains n := by
  constructor
  · intro read
    cases digits : magnitude bound excess 0 cs with
    | error fault =>
      rw [digits] at read
      cases read
    | ok k =>
      rw [digits] at read
      cases read
      obtain ⟨all, rfl, within⟩ := (magnitude_eq_ok_iff (Nat.zero_le _)).1 digits
      exact ⟨⟨⟨some, all⟩, rfl⟩, (bounds _).1 within⟩
  · rintro ⟨⟨spelled, rfl⟩, within⟩
    rw [magnitude_digits spelled.digits ((bounds _).2 within)]
    rfl

theorem readUp_eq_ok_iff (some : cs ≠ []) :
    r.readUp cs = .ok n ↔ (IsDigits cs ∧ n = Nat.ofDigitChars 10 cs 0) ∧ r.Contains n := by
  have low := r.lo_le
  have high := r.le_hi
  refine map_magnitude_eq_ok_iff (fun k => ?_) some
  rw [Contains, Int.ofNat_eq_natCast]
  omega

theorem readDown_eq_ok_iff (some : cs ≠ []) :
    r.readDown cs = .ok n ↔ (IsDigits cs ∧ n = -Nat.ofDigitChars 10 cs 0) ∧ r.Contains n := by
  have low := r.lo_le
  have high := r.le_hi
  refine map_magnitude_eq_ok_iff (fun k => ?_) some
  rw [Contains, Int.ofNat_eq_natCast]
  omega

/-- A text is read as an integer exactly when it spells one of the range. -/
theorem read_eq_ok_iff : r.read cs = .ok n ↔ Spells (decide (r.lo < 0)) cs n ∧ r.Contains n := by
  have no_digits : ¬ IsDigits [] := fun h => h.nonempty rfl
  cases cs with
  | nil =>
    constructor
    · intro read
      cases read
    · rintro ⟨spelled, -⟩
      cases spelled with
      | bare h => exact absurd h no_digits
  | cons c cs =>
    rw [read]
    by_cases plus : c = '+'
    · rw [if_pos plus, plus, spells_plus_iff]
      cases cs with
      | nil => simp [no_digits]
      | cons d ds => exact readUp_eq_ok_iff (List.cons_ne_nil _ _)
    · rw [if_neg plus]
      by_cases minus : c = '-'
      · rw [if_pos minus, minus, spells_minus_iff]
        by_cases negative : r.lo < 0
        · cases cs with
          | nil => simp [no_digits]
          | cons d ds =>
            simpa [negative, Int.not_le.2 negative] using
              @readDown_eq_ok_iff r (d :: ds) n (List.cons_ne_nil d ds)
        · simp [negative, Int.not_lt.1 negative]
      · rw [if_neg minus, spells_bare_iff plus minus]
        exact readUp_eq_ok_iff (List.cons_ne_nil _ _)

end IntRange

/-! ## Trimming -/

/-- White space in front of a text is skipped, and nothing more if the text does not start with
any. -/
theorem skipBlank_append {front cs : List Char} (blank : ∀ c ∈ front, isBlank c = true)
    (solid : ∀ c ∈ cs.head?, isBlank c = false) : skipBlank (front ++ cs) = cs := by
  rw [skipBlank, List.dropWhile_append_of_pos blank]
  cases cs with
  | nil => rfl
  | cons c cs => exact skipBlank_cons_of_not cs (solid c rfl)

/-- White space around a text that has none at its ends is trimmed away. -/
theorem trim_padded {front cs back : List Char} (blank : ∀ c ∈ front ++ back, isBlank c = true)
    (first : ∀ c ∈ cs.head?, isBlank c = false) (last : ∀ c ∈ cs.getLast?, isBlank c = false) :
    trim (front ++ cs ++ back) = cs := by
  cases cs with
  | nil =>
    have all : skipBlank (front ++ back ++ []) = [] := skipBlank_append blank (by simp)
    rw [List.append_nil] at all
    rw [List.append_nil, trim, all]
    rfl
  | cons c cs =>
    have head : skipBlank (front ++ (c :: cs ++ back)) = c :: cs ++ back := by
      refine skipBlank_append (fun d member => blank d (List.mem_append_left _ member)) ?_
      simpa using first
    have tail : skipBlank (back.reverse ++ (c :: cs).reverse) = (c :: cs).reverse := by
      refine skipBlank_append (fun d member => ?_) fun d ends => ?_
      · exact blank d (List.mem_append_right _ (List.mem_reverse.1 member))
      · rw [List.head?_reverse] at ends
        exact last d ends
    rw [trim, List.append_assoc, head, List.reverse_append, tail, List.reverse_reverse]

/-- White space around a text without any is trimmed away. -/
theorem trim_around {front cs back : List Char} (blank : ∀ c ∈ front ++ back, isBlank c = true)
    (solid : ∀ c ∈ cs, isBlank c = false) : trim (front ++ cs ++ back) = cs :=
  trim_padded blank (fun c first => solid c (List.mem_of_head? first))
    fun c last => solid c (List.mem_of_getLast? last)

/-- What trimming takes away is white space at either end. -/
theorem exists_around_trim (cs : List Char) :
    ∃ front back, (∀ c ∈ front ++ back, isBlank c = true) ∧ cs = front ++ trim cs ++ back := by
  have blank (ds : List Char) : ∀ c ∈ ds.takeWhile isBlank, isBlank c = true :=
    List.all_eq_true.1 List.all_takeWhile
  have split (ds : List Char) : ds.takeWhile isBlank ++ skipBlank ds = ds :=
    List.takeWhile_append_dropWhile
  let front := cs.takeWhile isBlank
  let back := ((skipBlank cs).reverse.takeWhile isBlank).reverse
  have rest : trim cs ++ back = skipBlank cs := by
    rw [trim, ← List.reverse_append, split, List.reverse_reverse]
  refine ⟨front, back, fun c member => ?_, ?_⟩
  · rcases List.mem_append.1 member with before | behind
    · exact blank cs c before
    · exact blank _ c (List.mem_reverse.1 behind)
  · rw [List.append_assoc, rest, split]

/-- There is no white space in a numeral. -/
theorem Spells.solid {signed : Bool} {cs : List Char} {n : Int} (h : Spells signed cs n) :
    ∀ c ∈ cs, isBlank c = false := by
  cases h with
  | bare digits => exact fun c member => isBlank_of_isDigit (digits.digits c member)
  | plus digits | minus _ digits =>
    exact List.forall_mem_cons.2
      ⟨by decide, fun c member => isBlank_of_isDigit (digits.digits c member)⟩

end Text

/-! ## Values -/

namespace Value

/-- The integers that values stand for. A text stands for one if it spells it, whatever white space
is around; a minus is understood only if `signed` is set. -/
inductive Denotes (signed : Bool) : Value → Int → Prop
  | null : Denotes signed .null 0
  | no : Denotes signed (.bool false) 0
  | yes : Denotes signed (.bool true) 1
  | int32 (n : Int32) : Denotes signed (.int32 n) n.toInt
  | int64 (n : Int64) : Denotes signed (.int64 n) n.toInt
  | uint64 (n : UInt64) : Denotes signed (.uint64 n) n.toNat
  | text {front numeral back : List Char} {n : Int}
      (blank : ∀ c ∈ front ++ back, Text.isBlank c = true)
      (spelled : Text.Spells signed numeral n) :
      Denotes signed (.text (String.ofList (front ++ numeral ++ back))) n

variable {signed : Bool} {v : Value} {m n : Int}

/-- A text stands for what it spells when it is trimmed. -/
theorem denotes_text_iff {s : String} :
    Denotes signed (.text s) n ↔ Text.Spells signed (Text.trim s.toList) n := by
  constructor
  · intro denotes
    cases denotes with
    | text blank spelled => rwa [String.toList_ofList, Text.trim_around blank spelled.solid]
  · intro spelled
    obtain ⟨front, back, blank, around⟩ := Text.exists_around_trim s.toList
    have denotes : Denotes signed (.text (String.ofList _)) n := .text blank spelled
    rwa [← around, String.ofList_toList] at denotes

/-- A value stands for one integer at most. -/
theorem Denotes.unique (h : v.Denotes signed n) (k : v.Denotes signed m) : n = m := by
  cases v with
  | text s => exact (denotes_text_iff.1 h).unique (denotes_text_iff.1 k)
  | _ => cases h <;> cases k <;> rfl

theorem Denotes.iff_eq (h : v.Denotes signed m) : v.Denotes signed n ↔ n = m := by
  constructor
  · exact fun k => k.unique h
  · rintro rfl
    exact h

theorem within_eq_ok_iff {r : Text.IntRange} :
    within r m = .ok n ↔ n = m ∧ r.Contains n := by
  unfold within Text.IntRange.Contains
  split
  · simp
    omega
  · split
    · simp
      omega
    · simp
      omega

/-- A value is read as an integer exactly when it stands for one of the range. -/
theorem readInt_eq_ok_iff {r : Text.IntRange} (one : r.Contains 1) {typeName : String} :
    v.readInt r typeName = .ok n ↔ v.Denotes (decide (r.lo < 0)) n ∧ r.Contains n := by
  have zero : r.Contains 0 := ⟨r.lo_le, r.le_hi⟩
  cases v with
  | null =>
    constructor
    · intro read
      cases read
      exact ⟨.null, zero⟩
    · rintro ⟨denotes, -⟩
      cases denotes
      rfl
  | bool b =>
    constructor
    · intro read
      cases read
      cases b with
      | false => exact ⟨.no, zero⟩
      | true => exact ⟨.yes, one⟩
    · rintro ⟨denotes, -⟩
      cases denotes <;> rfl
  | int32 k => rw [readInt, within_eq_ok_iff, (Denotes.int32 k).iff_eq]
  | int64 k => rw [readInt, within_eq_ok_iff, (Denotes.int64 k).iff_eq]
  | uint64 k => rw [readInt, within_eq_ok_iff, (Denotes.uint64 k).iff_eq]
  | text s =>
    rw [denotes_text_iff, ← Text.IntRange.read_eq_ok_iff, readInt]
    cases r.read (Text.trim s.toList) <;> simp
  | float32 _ | float64 _ | bytes _ | json _ | dateTime _ =>
    constructor
    · intro read
      cases read
    · rintro ⟨denotes, -⟩
      cases denotes

end Value

/-! ## Types of integers -/

/-- The types of integers that a column can be read as. -/
inductive IntType where
  | int32
  | int64
  | uint32
  | uint64
  deriving DecidableEq, Repr

namespace IntType

/-- The type as one of a column. -/
@[reducible] def column : IntType → ColumnType
  | .int32 => .int32
  | .int64 => .int64
  | .uint32 => .uint32
  | .uint64 => .uint64

/-- The integers of a type. -/
def range : IntType → Text.IntRange
  | .int32 => .int32
  | .int64 => .int64
  | .uint32 => .uint32
  | .uint64 => .uint64

/-- Whether negative numbers have a place in a type. -/
def signed : IntType → Bool
  | .int32 | .int64 => true
  | .uint32 | .uint64 => false

/-- Data of a type as an integer. -/
def toInt : (t : IntType) → t.column.Carrier → Int
  | .int32, n => n.toInt
  | .int64, n => n.toInt
  | .uint32, n => n.toNat
  | .uint64, n => n.toNat

/-- The data of a type for an integer, reduced to the range if it is outside. -/
def ofInt : (t : IntType) → Int → t.column.Carrier
  | .int32, n => Int32.ofInt n
  | .int64, n => Int64.ofInt n
  | .uint32, n => UInt32.ofNat n.toNat
  | .uint64, n => UInt64.ofNat n.toNat

variable {t : IntType} {v : Value}

/-- The data of a type for one of its integers stands for that integer. -/
theorem toInt_ofInt {n : Int} (h : t.range.Contains n) : t.toInt (t.ofInt n) = n := by
  obtain ⟨low, high⟩ := h
  cases t with
  | int32 => exact Int32.toInt_ofInt_of_le low (Int.lt_add_one_of_le high)
  | int64 => exact Int64.toInt_ofInt_of_le low (Int.lt_add_one_of_le high)
  | uint32 =>
    have small : n.toNat < UInt32.size := by
      have : n ≤ 4294967295 := high
      have : UInt32.size = 4294967296 := rfl
      omega
    rw [toInt, ofInt, UInt32.toNat_ofNat_of_lt' small]
    exact Int.toNat_of_nonneg low
  | uint64 =>
    have small : n.toNat < UInt64.size := by
      have : n ≤ 18446744073709551615 := high
      have : UInt64.size = 18446744073709551616 := rfl
      omega
    rw [toInt, ofInt, UInt64.toNat_ofNat_of_lt' small]
    exact Int.toNat_of_nonneg low

/-- Reading a column as a type of integers is reading an integer of its range. -/
theorem exists_read_eq (t : IntType) (v : Value) :
    ∃ name, v.read t.column = (v.readInt t.range name).map t.ofInt := by
  cases t with
  | int32 | int64 | uint32 | uint64 => exact ⟨_, rfl⟩

/-- An integer of a type is read exactly from the values that stand for it. -/
theorem readInt_eq_ok_iff {name : String} {m : Int} :
    v.readInt t.range name = .ok m ↔ v.Denotes t.signed m ∧ t.range.Contains m := by
  have signs : decide (t.range.lo < 0) = t.signed := by cases t <;> rfl
  have one : t.range.Contains 1 := by cases t <;> decide
  rw [Value.readInt_eq_ok_iff one, signs]

end IntType

/-! ## Main statement -/

/-- A value is read as a type of integers exactly when it stands for an integer that the type has,
and then as that integer, neither wrapped nor cut nor rounded. Every other value is refused. A value
stands for one integer at most. -/
theorem integers_read_exactly (v : Value) (t : IntType) :
    (∀ m : Int, (∃ x, v.read t.column = .ok x ∧ t.toInt x = m) ↔
      v.Denotes t.signed m ∧ t.range.Contains m) ∧
    ((∃ fault, v.read t.column = .error fault) ↔
      ¬ ∃ m, v.Denotes t.signed m ∧ t.range.Contains m) ∧
    ∀ m n, v.Denotes t.signed m → v.Denotes t.signed n → m = n := by
  obtain ⟨name, read⟩ := t.exists_read_eq v
  have exactly (m : Int) : v.readInt t.range name = .ok m ↔
      v.Denotes t.signed m ∧ t.range.Contains m := IntType.readInt_eq_ok_iff
  refine ⟨fun m => ?_, ?_, fun m n => Value.Denotes.unique⟩
  · rw [read, ← exactly m]
    cases found : v.readInt t.range name with
    | error fault => simp [Except.map]
    | ok k =>
      have back : t.toInt (t.ofInt k) = k := IntType.toInt_ofInt ((exactly k).1 found).2
      simp [Except.map, back]
  · simp only [← exactly, read]
    cases v.readInt t.range name <;> simp [Except.map]

/-- The least number of a type is read from its text, and the number below it from none. -/
example :
    Value.read .int32 (.text "\t-2147483648 ") = .ok (-2147483648) ∧
      Value.read .int32 (.int64 (-2147483649)) = .error (.numeral .tooSmall) ∧
      Value.read .uint32 (.text "-0") = .error (.numeral .invalidDigit) := ⟨rfl, rfl, rfl⟩

end QueryLoom
