import QueryLoom.Calendar.Reading

/-!
# Written dates and times

Whatever is written down of a date and time is read back: years with a sign, leap seconds, and
parts of a second to the nanosecond.

* `DateTime.number_padded`, `DateTime.field_padded` : a field of digits;
* `DateTime.signedYear_yearText` : a year;
* `DateTime.fraction_fractionText` : a part of a second;
* `DateTime.readStandard_text`, `DateTime.readSpaced_textToSecond` : the whole.
-/

namespace QueryLoom.DateTime

open Text (StopsDigits)

/-! ## Numbers -/

/-- A run of digits is read as the number that it spells. -/
theorem number_digits {width : Option Nat} {digits rest : List Char} (nonempty : digits ≠ [])
    (all : ∀ c ∈ digits, c.isDigit = true) (fits : ∀ w ∈ width, digits.length ≤ w)
    (small : Nat.ofDigitChars 10 digits 0 < 9223372036854775808) (stops : StopsDigits rest) :
    number width (digits ++ rest) = .ok (Nat.ofDigitChars 10 digits 0, rest) := by
  have run : (digits ++ rest).takeWhile Char.isDigit = digits :=
    congrArg Prod.fst (Text.spanDigits_append all stops)
  cases digits with
  | nil => exact absurd rfl nonempty
  | cons d ds =>
    have digit : d.isDigit = true := all d (by simp)
    rw [List.cons_append] at run ⊢
    cases width with
    | none => simp [number, digit, run, small]
    | some w => simp [number, digit, run, small, List.take_of_length_le (fits w rfl)]

theorem number_padded {width : Option Nat} {k n : Nat} {rest : List Char}
    (small : n < 9223372036854775808) (fits : ∀ w ∈ width, (Text.padded k n).length ≤ w)
    (stops : StopsDigits rest) : number width (Text.padded k n ++ rest) = .ok (n, rest) := by
  have read : number width (Text.padded k n ++ rest) =
      .ok (Nat.ofDigitChars 10 (Text.padded k n) 0, rest) :=
    number_digits (Text.padded_ne_nil k n) (fun _ => Text.isDigit_of_mem_padded) fits
      (by rwa [Text.ofDigitChars_padded]) stops
  rwa [Text.ofDigitChars_padded] at read

/-- Digits filled up to a width are read under that width. -/
theorem number_padded_self {k n : Nat} {rest : List Char} (positive : 0 < k)
    (h : n < Nat.pow 10 k) (small : n < 9223372036854775808) (stops : StopsDigits rest) :
    number (some k) (Text.padded k n ++ rest) = .ok (n, rest) := by
  refine number_padded small (fun w same => ?_) stops
  exact Nat.le_of_eq ((Text.length_padded positive h).trans (Option.some.inj same))

/-- Padded digits start with a digit. -/
theorem padded_append_eq_cons (width n : Nat) (rest : List Char) :
    ∃ c cs, Text.padded width n ++ rest = c :: cs ∧ c.isDigit = true := by
  cases h : Text.padded width n with
  | nil => exact absurd h (Text.padded_ne_nil width n)
  | cons c cs => exact ⟨c, cs ++ rest, rfl, Text.isDigit_of_mem_padded (by rw [h]; simp)⟩

theorem skipBlank_padded (width n : Nat) (rest : List Char) :
    Text.skipBlank (Text.padded width n ++ rest) = Text.padded width n ++ rest := by
  obtain ⟨c, cs, text, digit⟩ := padded_append_eq_cons width n rest
  rw [text]
  exact Text.skipBlank_cons_of_not cs (Text.isBlank_of_isDigit digit)

/-! ## Fields -/

/-- A field of two digits. -/
theorem field_padded {lo hi n : Nat} {rest : List Char} (low : lo ≤ n) (high : n ≤ hi)
    (two : hi < 100) (stops : StopsDigits rest) :
    field lo hi (Text.padded 2 n ++ rest) = .ok (n, rest) := by
  have read : number (some 2) (Text.padded 2 n ++ rest) = .ok (n, rest) :=
    number_padded_self (by decide) (show n < 100 by omega) (by omega) stops
  rw [field, skipBlank_padded, read]
  exact if_pos ⟨low, high⟩

theorem literal_skipBlank {c : Char} (h : Text.isBlank c = false) (rest : List Char) :
    literal c (Text.skipBlank (c :: rest)) = .ok rest := by
  rw [Text.skipBlank_cons_of_not rest h, literal, if_pos rfl]

/-- A year of four digits needs no sign. -/
theorem signedYear_unsigned {n : Nat} {rest : List Char} (four : n < 10000)
    (stops : StopsDigits rest) : signedYear (Text.padded 4 n ++ rest) = .ok ((n : Int), rest) := by
  have read : number (some 4) (Text.padded 4 n ++ rest) = .ok (n, rest) :=
    number_padded_self (by decide) four (by omega) stops
  obtain ⟨c, cs, text, digit⟩ := padded_append_eq_cons 4 n rest
  have minus : c ≠ '-' := by rintro rfl; exact absurd digit (by decide)
  have plus : c ≠ '+' := by rintro rfl; exact absurd digit (by decide)
  rw [signedYear, skipBlank_padded, text]
  rw [text] at read
  simp only [List.head?_cons, Option.some.injEq, minus, plus, decide_false, Bool.or_self,
    Bool.false_eq_true, if_false, read]
  exact if_pos (by omega)

/-- Behind a sign a year may have any number of digits. -/
theorem signedYear_signed {sign : Char} (isSign : sign = '-' ∨ sign = '+') {n : Nat}
    {rest : List Char} (small : n < 2147483648) (stops : StopsDigits rest) :
    signedYear (sign :: (Text.padded 4 n ++ rest)) =
      .ok (if sign = '-' then -(n : Int) else n, rest) := by
  have read : number none (Text.padded 4 n ++ rest) = .ok (n, rest) :=
    number_padded (by omega) (by simp) stops
  rcases isSign with rfl | rfl
  · rw [signedYear, Text.skipBlank_cons_of_not _ (by decide)]
    simp only [List.head?_cons, decide_true, Bool.true_or, if_true, List.tail_cons, read]
    exact if_pos (by omega)
  · rw [signedYear, Text.skipBlank_cons_of_not _ (by decide)]
    simp only [List.head?_cons, Option.some.injEq, Char.reduceEq, decide_false, decide_true,
      Bool.or_true, Bool.false_eq_true, if_false, if_true, List.tail_cons, read]
    exact if_pos (by omega)

theorem signedYear_yearText {y : Int} {rest : List Char} (low : Calendar.firstYear ≤ y)
    (high : y ≤ Calendar.lastYear) (stops : StopsDigits rest) :
    signedYear (yearText y ++ rest) = .ok (y, rest) := by
  simp only [Calendar.firstYear, Calendar.lastYear] at low high
  unfold yearText
  split
  · rw [signedYear_unsigned (by omega) stops]
    congr
    omega
  · split
    · rw [List.cons_append, signedYear_signed (.inl rfl) (by omega) stops, if_pos rfl]
      congr
      omega
    · rw [List.cons_append, signedYear_signed (.inr rfl) (by omega) stops, if_neg (by decide)]
      congr
      omega

/-! ## Parts of a second -/

theorem stopsDigits_fractionText (nano : Nat) : StopsDigits (fractionText nano) := by
  unfold fractionText
  split
  · exact Text.stopsDigits_nil
  · split
    · exact Text.stopsDigits_cons (by decide) _
    · split
      · exact Text.stopsDigits_cons (by decide) _
      · exact Text.stopsDigits_cons (by decide) _

/-- Of nine digits those that are not written are zeros. -/
theorem fraction_padded {k n nano : Nat} (positive : 0 < k) (nine : k ≤ 9)
    (h : n < Nat.pow 10 k) (scaled : n * Nat.pow 10 (9 - k) = nano) :
    fraction ('.' :: Text.padded k n) = .ok (nano, []) := by
  have small : n < Nat.pow 10 9 := Nat.lt_of_lt_of_le h (Nat.pow_le_pow_right (by decide) nine)
  have read : number (some 9) (Text.padded k n ++ []) = .ok (n, []) := by
    refine number_padded (Nat.lt_trans small (by decide)) (fun w same => ?_) Text.stopsDigits_nil
    rw [Text.length_padded positive h, ← Option.some.inj same]
    exact nine
  rw [List.append_nil] at read
  rw [fraction, if_pos rfl, read]
  show Except.ok (n * Nat.pow 10 (9 - ((Text.padded k n).length - 0)), []) = _
  rw [Text.length_padded positive h, Nat.sub_zero, scaled]

/-- As many digits are written as the part of a second needs. -/
theorem fraction_fractionText {nano : Nat} (h : nano < 1000000000) :
    fraction (fractionText nano) = .ok (nano, []) := by
  unfold fractionText
  split
  · rename_i zero
    rw [zero, fraction]
  · split
    · have few : nano / 1000000 < 1000 := by omega
      have all : nano / 1000000 * 1000000 = nano := by omega
      exact fraction_padded (by decide) (by decide) few all
    · split
      · have few : nano / 1000 < 1000000 := by omega
        have all : nano / 1000 * 1000 = nano := by omega
        exact fraction_padded (by decide) (by decide) few all
      · exact fraction_padded (by decide) (by decide) h (Nat.mul_one nano)

/-! ## Fields of a moment -/

section

variable (t : DateTime) {rest : List Char} (stops : StopsDigits rest)
include stops

theorem year_padded : signedYear (yearText t.year ++ rest) = .ok (t.year, rest) :=
  signedYear_yearText t.isDate.1 t.isDate.2.1 stops

theorem month_padded : field 1 12 (Text.padded 2 t.month ++ rest) = .ok (t.month, rest) := by
  obtain ⟨-, -, day1, last⟩ := t.isDate
  obtain ⟨month1, month12⟩ := Calendar.month_of_daysIn_pos (Nat.lt_of_lt_of_le day1 last)
  exact field_padded month1 month12 (by decide) stops

theorem day_padded : field 1 31 (Text.padded 2 t.day ++ rest) = .ok (t.day, rest) := by
  obtain ⟨-, -, day1, last⟩ := t.isDate
  exact field_padded day1 (Nat.le_trans last (Calendar.daysIn_le t.year t.month)) (by decide) stops

theorem hour_padded : field 0 23 (Text.padded 2 t.hour ++ rest) = .ok (t.hour, rest) :=
  field_padded (Nat.zero_le _) (Nat.le_of_lt_succ t.isTime.1) (by decide) stops

theorem minute_padded : field 0 59 (Text.padded 2 t.minute ++ rest) = .ok (t.minute, rest) :=
  field_padded (Nat.zero_le _) (Nat.le_of_lt_succ t.isTime.2.1) (by decide) stops

theorem second_padded :
    field 0 60 (Text.padded 2 (Calendar.writtenSecond t.second t.nano) ++ rest) =
      .ok (Calendar.writtenSecond t.second t.nano, rest) :=
  field_padded (Nat.zero_le _) (Calendar.writtenSecond_le t.isTime) (by decide) stops

end

/-! ## Main statements -/

/-- A date and time reads back from its written form, but for a leap second inside a minute, which
has the written form of the second behind it. -/
theorem readStandard_text (t : DateTime) : readStandard t.text = .ok t.regular := by
  have stops (c : Char) (h : c.isDigit = false) (rest : List Char) : StopsDigits (c :: rest) :=
    Text.stopsDigits_cons h rest
  -- One reading for each field, whatever follows its mark.
  have year (rest : List Char) := t.year_padded (stops '-' rfl rest)
  have month (rest : List Char) := t.month_padded (stops '-' rfl rest)
  have day (rest : List Char) := t.day_padded (stops 'T' rfl rest)
  have hour (rest : List Char) := t.hour_padded (stops ':' rfl rest)
  have minute (rest : List Char) := t.minute_padded (stops ':' rfl rest)
  have second := t.second_padded (stopsDigits_fractionText (Calendar.writtenNano t.nano))
  have dash (rest : List Char) := literal_skipBlank (c := '-') (by decide) rest
  have tee (rest : List Char) := literal_skipBlank (c := 'T') (by decide) rest
  have colon (rest : List Char) := literal_skipBlank (c := ':') (by decide) rest
  simp only [readStandard, text, textToSecond, dateText, timeText, List.append_assoc,
    List.cons_append, bind, Except.bind, year, month, day, hour, minute, second, dash, tee, colon,
    fraction_fractionText (Calendar.writtenNano_lt t.nano), ofWritten?_written]
  rfl

/-- Written to the second with a blank between them, date and time are read back without the part
of a second. -/
theorem readSpaced_textToSecond (t : DateTime) :
    readSpaced (t.textToSecond ' ') = .ok t.dropFraction.regular := by
  have stops (c : Char) (h : c.isDigit = false) (rest : List Char) : StopsDigits (c :: rest) :=
    Text.stopsDigits_cons h rest
  have year (rest : List Char) := t.year_padded (stops '-' rfl rest)
  have month (rest : List Char) := t.month_padded (stops '-' rfl rest)
  have day (rest : List Char) := t.day_padded (stops ' ' rfl rest)
  have hour (rest : List Char) := t.hour_padded (stops ':' rfl rest)
  have minute (rest : List Char) := t.minute_padded (stops ':' rfl rest)
  have second := t.second_padded Text.stopsDigits_nil
  have mark (c : Char) (rest : List Char) : literal c (c :: rest) = .ok rest := if_pos rfl
  have blank (rest : List Char) : Text.skipBlank (' ' :: (Text.padded 2 t.hour ++ rest)) =
      Text.padded 2 t.hour ++ rest := skipBlank_padded 2 t.hour rest
  -- What is written to the second is what is written of the whole second.
  have whole := t.dropFraction.ofWritten?_written
  rw [t.writtenSecond_dropFraction, t.writtenNano_dropFraction] at whole
  have whole : ofWritten? t.year t.month t.day t.hour t.minute
      (Calendar.writtenSecond t.second t.nano) 0 = some t.dropFraction.regular := whole
  rw [List.append_nil] at second
  simp only [readSpaced, textToSecond, dateText, timeText, List.append_assoc, List.cons_append,
    bind, Except.bind, year, month, day, blank, hour, minute, second, mark, fraction, whole]
  rfl

end QueryLoom.DateTime
