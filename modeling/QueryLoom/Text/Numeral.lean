/-!
# Decimal numerals

Whole numbers as decimal text, and the reading of text as a number of a bounded range.

* `magnitude_digits` : a run of digits reads as the number it spells, while that is in bounds;
* `IntRange.read_decimalInt` : every number of a range reads back from its own decimal text;
* `spanDigits_append` : digits in front of something else are found again.
-/

namespace QueryLoom.Text

/-! ## Writing -/

/-- The decimal digits of a number, the most significant first. -/
def decimal (n : Nat) : List Char := Nat.toDigits 10 n

/-- The decimal text of an integer: a sign only when it is negative. -/
def decimalInt (n : Int) : List Char :=
  if n < 0 then '-' :: decimal n.natAbs else decimal n.natAbs

/-- The decimal digits of a number, filled up with zeros to a least width. -/
def padded (width n : Nat) : List Char :=
  List.replicate (width - (decimal n).length) '0' ++ decimal n

/-- The value of an ASCII digit. -/
def digitValue (c : Char) : Nat := c.toNat - '0'.toNat

/-! ## Reading -/

/-- The digits at the front of a text, and what follows them. -/
def spanDigits (cs : List Char) : List Char × List Char :=
  (cs.takeWhile Char.isDigit, cs.dropWhile Char.isDigit)

/-- Why a text is no number of the wanted range. -/
inductive NumeralFault where
  | empty
  | invalidDigit
  | tooLarge
  | tooSmall
  deriving DecidableEq, Repr

/-- The wording of a fault. -/
def NumeralFault.message : NumeralFault → String
  | .empty => "cannot parse integer from empty string"
  | .invalidDigit => "invalid digit found in string"
  | .tooLarge => "number too large to fit in target type"
  | .tooSmall => "number too small to fit in target type"

/-- Reads digits onto a number already read. The first offending character decides: one that is
no digit is `invalidDigit`, a digit that carries the number past the bound is `excess`. -/
def magnitude (bound : Nat) (excess : NumeralFault) : Nat → List Char → Except NumeralFault Nat
  | acc, [] => .ok acc
  | acc, c :: cs =>
    if c.isDigit then
      if 10 * acc + digitValue c ≤ bound then magnitude bound excess (10 * acc + digitValue c) cs
      else .error excess
    else .error .invalidDigit

/-- A range of integers that contains zero. -/
structure IntRange where
  lo : Int
  hi : Int
  lo_le : lo ≤ 0 := by decide
  le_hi : 0 ≤ hi := by decide

namespace IntRange

/-- The signed 32-bit integers. -/
def int32 : IntRange := { lo := -2147483648, hi := 2147483647 }
/-- The signed 64-bit integers. -/
def int64 : IntRange := { lo := -9223372036854775808, hi := 9223372036854775807 }
/-- The unsigned 8-bit integers. -/
def uint8 : IntRange := { lo := 0, hi := 255 }
/-- The unsigned 32-bit integers. -/
def uint32 : IntRange := { lo := 0, hi := 4294967295 }
/-- The unsigned 64-bit integers. -/
def uint64 : IntRange := { lo := 0, hi := 18446744073709551615 }

/-- Membership. -/
def Contains (r : IntRange) (n : Int) : Prop := r.lo ≤ n ∧ n ≤ r.hi

instance (r : IntRange) (n : Int) : Decidable (r.Contains n) :=
  inferInstanceAs (Decidable (_ ∧ _))

/-- Digits read upwards from zero. -/
def readUp (r : IntRange) (cs : List Char) : Except NumeralFault Int :=
  (magnitude r.hi.toNat .tooLarge 0 cs).map Int.ofNat

/-- Digits read downwards from zero. -/
def readDown (r : IntRange) (cs : List Char) : Except NumeralFault Int :=
  (magnitude r.lo.natAbs .tooSmall 0 cs).map fun n => -Int.ofNat n

/-- Reads an optional sign and digits. A minus is a sign only in a range that has negative
numbers, and a sign alone is no number. -/
def read (r : IntRange) : List Char → Except NumeralFault Int
  | [] => .error .empty
  | c :: cs =>
    if c = '+' then if cs.isEmpty then .error .invalidDigit else r.readUp cs
    else if c = '-' then
      if cs.isEmpty || decide (0 ≤ r.lo) then .error .invalidDigit else r.readDown cs
    else r.readUp (c :: cs)

end IntRange

/-! ## Reading back what was written -/

theorem ofDigitChars_le (acc : Nat) (cs : List Char) : acc ≤ Nat.ofDigitChars 10 cs acc := by
  induction cs generalizing acc with
  | nil => simp
  | cons c cs ih =>
    rw [Nat.ofDigitChars_cons]
    have := ih (10 * acc + (c.toNat - '0'.toNat))
    omega

/-- A run of digits whose value is in bounds reads as that value. -/
theorem magnitude_digits {bound : Nat} {excess : NumeralFault} {cs : List Char} {acc : Nat}
    (digits : ∀ c ∈ cs, c.isDigit = true) (fits : Nat.ofDigitChars 10 cs acc ≤ bound) :
    magnitude bound excess acc cs = .ok (Nat.ofDigitChars 10 cs acc) := by
  induction cs generalizing acc with
  | nil => simp [magnitude]
  | cons c cs ih =>
    have here : c.isDigit = true := digits c (by simp)
    rw [Nat.ofDigitChars_cons] at fits ⊢
    have within : 10 * acc + digitValue c ≤ bound :=
      Nat.le_trans (ofDigitChars_le _ cs) fits
    rw [magnitude, if_pos here, if_pos within]
    exact ih (fun d hd => digits d (List.mem_cons_of_mem _ hd)) fits

theorem isDigit_of_mem_decimal {n : Nat} {c : Char} (h : c ∈ decimal n) : c.isDigit = true :=
  Nat.isDigit_of_mem_toDigits (by decide) (by decide) h

theorem magnitude_decimal {bound n : Nat} (excess : NumeralFault) (h : n ≤ bound) :
    magnitude bound excess 0 (decimal n) = .ok n := by
  have value : Nat.ofDigitChars 10 (decimal n) 0 = n := Nat.ofDigitChars_ten_toDigits
  rw [magnitude_digits (fun _ hc => isDigit_of_mem_decimal hc) (by rw [value]; exact h), value]

/-- Digits are read as they stand: neither sign is a digit. -/
theorem IntRange.read_decimal (r : IntRange) (n : Nat) :
    r.read (decimal n) = r.readUp (decimal n) := by
  have nonempty : decimal n ≠ [] := Nat.toDigits_ne_nil
  cases h : decimal n with
  | nil => exact absurd h nonempty
  | cons c cs =>
    have hc : c.isDigit = true := isDigit_of_mem_decimal (n := n) (by simp [h])
    have plus : c ≠ '+' := by rintro rfl; exact absurd hc (by decide)
    have minus : c ≠ '-' := by rintro rfl; exact absurd hc (by decide)
    simp [IntRange.read, plus, minus]

/-- Every number of a range reads back from its own text. -/
theorem IntRange.read_decimalInt (r : IntRange) {n : Int} (h : r.Contains n) :
    r.read (decimalInt n) = .ok n := by
  obtain ⟨low, high⟩ := h
  unfold decimalInt
  split
  · have nonempty : decimal n.natAbs ≠ [] := Nat.toDigits_ne_nil
    have negatives : ¬ 0 ≤ r.lo := by omega
    rw [IntRange.read, if_neg (by decide), if_pos rfl]
    simp only [List.isEmpty_iff, nonempty, negatives, Bool.or_eq_true, decide_eq_true_eq, or_self,
      if_false, IntRange.readDown]
    rw [magnitude_decimal _ (by omega)]
    simp only [Except.map, Int.ofNat_eq_natCast]
    congr 1
    omega
  · have := r.le_hi
    rw [IntRange.read_decimal, IntRange.readUp, magnitude_decimal _ (by omega)]
    simp only [Except.map, Int.ofNat_eq_natCast]
    congr 1
    omega

/-! ## Machine integers -/

namespace IntRange

theorem int32_contains (n : Int32) : int32.Contains n.toInt := by
  have low := n.le_toInt
  have high := n.toInt_lt
  exact ⟨low, Int.le_of_lt_add_one high⟩

theorem int64_contains (n : Int64) : int64.Contains n.toInt := by
  have low := n.le_toInt
  have high := n.toInt_lt
  exact ⟨low, Int.le_of_lt_add_one high⟩

theorem uint8_contains (n : UInt8) : uint8.Contains n.toNat := by
  have high := n.toNat_lt
  exact ⟨Int.natCast_nonneg _, Int.le_of_lt_add_one (Int.ofNat_lt.2 high)⟩

theorem uint32_contains (n : UInt32) : uint32.Contains n.toNat := by
  have high := n.toNat_lt
  exact ⟨Int.natCast_nonneg _, Int.le_of_lt_add_one (Int.ofNat_lt.2 high)⟩

theorem uint64_contains (n : UInt64) : uint64.Contains n.toNat := by
  have high := n.toNat_lt
  exact ⟨Int.natCast_nonneg _, Int.le_of_lt_add_one (Int.ofNat_lt.2 high)⟩

end IntRange

/-! ## Digits in a longer text -/

/-- A text that ends the digits in front of it. -/
def StopsDigits (rest : List Char) : Prop := ∀ c ∈ rest.head?, c.isDigit = false

theorem stopsDigits_nil : StopsDigits [] := by
  intro c h
  cases h

theorem stopsDigits_cons {c : Char} (h : c.isDigit = false) (rest : List Char) :
    StopsDigits (c :: rest) := by
  intro d hd
  cases hd
  exact h

theorem spanDigits_append {digits rest : List Char} (all : ∀ c ∈ digits, c.isDigit = true)
    (stops : StopsDigits rest) : spanDigits (digits ++ rest) = (digits, rest) := by
  have none : rest.takeWhile Char.isDigit = [] ∧ rest.dropWhile Char.isDigit = rest := by
    cases rest with
    | nil => exact ⟨rfl, rfl⟩
    | cons c rest => simp [stops c rfl]
  rw [spanDigits, List.takeWhile_append_of_pos all, List.dropWhile_append_of_pos all, none.1,
    none.2, List.append_nil]

theorem decimalInt_natCast (n : Nat) : decimalInt n = decimal n := by
  rw [decimalInt, if_neg (by omega), Int.natAbs_natCast]

/-- A number starts with a digit, which is a zero only where it stands alone. -/
theorem decimal_eq_cons (n : Nat) :
    ∃ c cs, decimal n = c :: cs ∧ c.isDigit = true ∧ (c = '0' → cs = []) := by
  induction n using Nat.strongRecOn with
  | _ n ih =>
    by_cases small : n < 10
    · have one : decimal n = [n.digitChar] := Nat.toDigits_of_lt_base small
      exact ⟨n.digitChar, [], one, isDigit_of_mem_decimal (n := n) (by simp [one]), fun _ => rfl⟩
    · obtain ⟨c, cs, front, digit, leading⟩ := ih (n / 10) (by omega)
      have split : decimal n = decimal (n / 10) ++ [(n % 10).digitChar] :=
        Nat.toDigits_of_base_le (by decide) (by omega)
      refine ⟨c, cs ++ [(n % 10).digitChar], by rw [split, front]; rfl, digit, fun zero => ?_⟩
      -- a zero in front would be all of the number without its last digit
      have value : Nat.ofDigitChars 10 (decimal (n / 10)) 0 = n / 10 :=
        Nat.ofDigitChars_ten_toDigits
      rw [front, zero, leading zero] at value
      have nothing : n / 10 = 0 := value.symm
      omega

theorem isDigit_of_mem_padded {width n : Nat} {c : Char} (h : c ∈ padded width n) :
    c.isDigit = true := by
  rcases List.mem_append.1 h with zero | digit
  · rw [(List.mem_replicate.1 zero).2]
    rfl
  · exact isDigit_of_mem_decimal digit

theorem padded_ne_nil (width n : Nat) : padded width n ≠ [] := by
  intro h
  exact Nat.toDigits_ne_nil (List.append_eq_nil_iff.1 h).2

/-- Zeros in front do not change the number. -/
theorem ofDigitChars_padded (width n : Nat) : Nat.ofDigitChars 10 (padded width n) 0 = n := by
  rw [padded, Nat.ofDigitChars_append, Nat.ofDigitChars_replicate_zero, Nat.mul_zero]
  exact Nat.ofDigitChars_ten_toDigits

theorem length_padded {width n : Nat} (positive : 0 < width) (h : n < Nat.pow 10 width) :
    (padded width n).length = width := by
  have short : (decimal n).length ≤ width := (Nat.length_toDigits_le_iff (by decide) positive).2 h
  rw [padded, List.length_append, List.length_replicate]
  omega

end QueryLoom.Text
