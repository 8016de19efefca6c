import QueryLoom.Text.Numeral

/-!
# Dates with a time of day

The proleptic Gregorian calendar without time zone, to the nanosecond. Nanoseconds beyond the second
stand for a leap second behind it, which is written as one second more: as the second 60 at the end
of a minute, and elsewhere like any other second.

* `DateTime` : the valid combinations of fields; `DateTime.ofFields?` builds one;
* `DateTime.IsRegular` : leap seconds end their minutes; `DateTime.regular` takes those that do not
  for the second that they are written as;
* `DateTime.text` : the written form, with one of two separators and with or without fraction.
-/

namespace QueryLoom

/-! ## Calendar -/

namespace Calendar

/-- The Gregorian rule. -/
def isLeap (year : Int) : Bool := year % 4 == 0 && (year % 100 != 0 || year % 400 == 0)

/-- The days of a month; none for a number that is no month. -/
def daysIn (year : Int) (month : Nat) : Nat :=
  match month with
  | 2 => if isLeap year then 29 else 28
  | 4 | 6 | 9 | 11 => 30
  | 1 | 3 | 5 | 7 | 8 | 10 | 12 => 31
  | _ => 0

theorem daysIn_le (year : Int) (month : Nat) : daysIn year month ≤ 31 := by
  unfold daysIn
  split <;> grind

theorem month_of_daysIn_pos {year : Int} {month : Nat} (h : 0 < daysIn year month) :
    1 ≤ month ∧ month ≤ 12 := by
  unfold daysIn at h
  split at h <;> omega

/-- The first year that a date may have. -/
def firstYear : Int := -262143

/-- The last year that a date may have. -/
def lastYear : Int := 262142

/-- A day of the calendar within the years covered. -/
def IsDate (year : Int) (month day : Nat) : Prop :=
  firstYear ≤ year ∧ year ≤ lastYear ∧ 1 ≤ day ∧ day ≤ daysIn year month

/-- A time of day. Behind any of its seconds there may be a leap second. -/
def IsTime (hour minute second nano : Nat) : Prop :=
  hour < 24 ∧ minute < 60 ∧ second < 60 ∧ nano < 2000000000

/-- Whether nanoseconds go beyond the second at the end of a minute alone. -/
def LeapsAtEnd (second nano : Nat) : Prop := nano < 1000000000 ∨ second = 59

instance (year : Int) (month day : Nat) : Decidable (IsDate year month day) :=
  inferInstanceAs (Decidable (_ ∧ _))

instance (hour minute second nano : Nat) : Decidable (IsTime hour minute second nano) :=
  inferInstanceAs (Decidable (_ ∧ _))

instance (second nano : Nat) : Decidable (LeapsAtEnd second nano) :=
  inferInstanceAs (Decidable (_ ∨ _))

/-- The second that is written. -/
def writtenSecond (second nano : Nat) : Nat := second + nano / 1000000000

/-- The part of the second that is written. -/
def writtenNano (nano : Nat) : Nat := nano % 1000000000

theorem writtenSecond_le {hour minute second nano : Nat} (h : IsTime hour minute second nano) :
    writtenSecond second nano ≤ 60 := by
  obtain ⟨-, -, low, short⟩ := h
  unfold writtenSecond
  omega

theorem writtenNano_lt (nano : Nat) : writtenNano nano < 1000000000 := Nat.mod_lt _ (by decide)

end Calendar

/-- A date with a time of day. -/
structure DateTime where
  year : Int
  month : Nat
  day : Nat
  hour : Nat
  minute : Nat
  second : Nat
  nano : Nat
  isDate : Calendar.IsDate year month day
  isTime : Calendar.IsTime hour minute second nano
  deriving DecidableEq, Repr

namespace DateTime

/-- Leap seconds end their minutes. -/
def IsRegular (t : DateTime) : Prop := Calendar.LeapsAtEnd t.second t.nano

instance (t : DateTime) : Decidable t.IsRegular :=
  inferInstanceAs (Decidable (Calendar.LeapsAtEnd _ _))

/-- The date and time of some fields, if they are valid together. No leap second is made of them but
at the end of a minute. -/
def ofFields? (year : Int) (month day hour minute second nano : Nat) : Option DateTime :=
  if isDate : Calendar.IsDate year month day then
    if isTime : Calendar.IsTime hour minute second nano then
      if Calendar.LeapsAtEnd second nano then
        some { year, month, day, hour, minute, second, nano, isDate, isTime }
      else none
    else none
  else none

theorem ofFields?_of_regular {t : DateTime} (h : t.IsRegular) :
    ofFields? t.year t.month t.day t.hour t.minute t.second t.nano = some t := by
  rw [ofFields?, dif_pos t.isDate, dif_pos t.isTime]
  exact if_pos h

theorem ofFields?_of_not_regular {t : DateTime} (h : ¬ t.IsRegular) :
    ofFields? t.year t.month t.day t.hour t.minute t.second t.nano = none := by
  rw [ofFields?, dif_pos t.isDate, dif_pos t.isTime]
  exact if_neg h

/-- The first moment of 1970. -/
def epoch : DateTime where
  year := 1970
  month := 1
  day := 1
  hour := 0
  minute := 0
  second := 0
  nano := 0
  isDate := by decide
  isTime := by decide

instance : Inhabited DateTime := ⟨epoch⟩

/-- The same moment without the part of a second, or of the leap second. -/
def dropFraction (t : DateTime) : DateTime :=
  { t with
    nano := t.nano / 1000000000 * 1000000000
    isTime := ⟨t.isTime.1, t.isTime.2.1, t.isTime.2.2.1, by
      have := t.isTime.2.2.2; omega⟩ }

theorem writtenSecond_dropFraction (t : DateTime) :
    Calendar.writtenSecond t.dropFraction.second t.dropFraction.nano =
      Calendar.writtenSecond t.second t.nano := by
  simp only [Calendar.writtenSecond, dropFraction]
  omega

theorem writtenNano_dropFraction (t : DateTime) : Calendar.writtenNano t.dropFraction.nano = 0 :=
  Nat.mul_mod_left ..

/-- The same moment to the microsecond below. -/
def toMicros (t : DateTime) : DateTime :=
  { t with
    nano := t.nano / 1000 * 1000
    isTime := ⟨t.isTime.1, t.isTime.2.1, t.isTime.2.2.1, by
      have := t.isTime.2.2.2; omega⟩ }

theorem isRegular_dropFraction {t : DateTime} : t.dropFraction.IsRegular ↔ t.IsRegular := by
  simp only [IsRegular, Calendar.LeapsAtEnd, dropFraction]
  omega

theorem isRegular_toMicros {t : DateTime} : t.toMicros.IsRegular ↔ t.IsRegular := by
  simp only [IsRegular, Calendar.LeapsAtEnd, toMicros]
  omega

/-- The same moment; a leap second inside a minute is taken for the second behind it, which has the
same written form. -/
def regular (t : DateTime) : DateTime :=
  if h : t.IsRegular then t
  else
    { t with
      second := t.second + 1
      nano := t.nano - 1000000000
      isTime := ⟨t.isTime.1, t.isTime.2.1, by
        have := t.isTime
        simp only [IsRegular, Calendar.LeapsAtEnd, Calendar.IsTime] at h this
        omega⟩ }

theorem regular_of_isRegular {t : DateTime} (h : t.IsRegular) : t.regular = t := dif_pos h

theorem regular_eq_self_iff {t : DateTime} : t.regular = t ↔ t.IsRegular := by
  refine ⟨fun same => Decidable.byContradiction fun h => ?_, regular_of_isRegular⟩
  have second := congrArg DateTime.second same
  rw [regular, dif_neg h] at second
  exact absurd second (Nat.succ_ne_self _)

/-- A third of a second into a leap second behind the fourth second of a minute. -/
def hiddenLeapSecond : DateTime where
  year := 2024
  month := 3
  day := 1
  hour := 23
  minute := 56
  second := 4
  nano := 1333333333
  isDate := by decide
  isTime := by decide

theorem regular_hiddenLeapSecond : hiddenLeapSecond.regular ≠ hiddenLeapSecond :=
  fun same => absurd (regular_eq_self_iff.1 same) (by decide)

/-! ## Written form -/

/-- A year: four digits from 0 to 9999, else a sign and at least four digits. -/
def yearText (year : Int) : List Char :=
  if 0 ≤ year ∧ year ≤ 9999 then Text.padded 4 year.toNat
  else (if year < 0 then '-' else '+') :: Text.padded 4 year.natAbs

/-- The part of a second: nothing when it is zero, else the fewest of three, six or nine digits
that are exact. -/
def fractionText (nano : Nat) : List Char :=
  if nano = 0 then []
  else if nano % 1000000 = 0 then '.' :: Text.padded 3 (nano / 1000000)
  else if nano % 1000 = 0 then '.' :: Text.padded 6 (nano / 1000)
  else '.' :: Text.padded 9 nano

/-- The date. -/
def dateText (t : DateTime) : List Char :=
  yearText t.year ++ '-' :: Text.padded 2 t.month ++ '-' :: Text.padded 2 t.day

/-- The time of day to the second. -/
def timeText (hour minute second : Nat) : List Char :=
  Text.padded 2 hour ++ ':' :: Text.padded 2 minute ++ ':' :: Text.padded 2 second

/-- Date and time around a separator, without the part of a second. -/
def textToSecond (separator : Char) (t : DateTime) : List Char :=
  t.dateText ++
    separator :: timeText t.hour t.minute (Calendar.writtenSecond t.second t.nano)

/-- The full written form, with a `T` between date and time. -/
def text (t : DateTime) : List Char :=
  t.textToSecond 'T' ++ fractionText (Calendar.writtenNano t.nano)

/-- The date and time of fields that are written, if they are valid together: 60 is the leap second
behind the second 59. -/
def ofWritten? (year : Int) (month day hour minute second nano : Nat) : Option DateTime :=
  if second = 60 then ofFields? year month day hour minute 59 (nano + 1000000000)
  else ofFields? year month day hour minute second nano

/-- Leap seconds inside a minute are not told from the second behind them. -/
theorem ofWritten?_written (t : DateTime) :
    ofWritten? t.year t.month t.day t.hour t.minute (Calendar.writtenSecond t.second t.nano)
      (Calendar.writtenNano t.nano) = some t.regular := by
  obtain ⟨-, -, second, nano⟩ := t.isTime
  unfold ofWritten?
  by_cases short : t.nano < 1000000000
  · have regular : t.IsRegular := .inl short
    have same : Calendar.writtenSecond t.second t.nano = t.second := by
      simp only [Calendar.writtenSecond]
      omega
    rw [same, if_neg (Nat.ne_of_lt second), Calendar.writtenNano, Nat.mod_eq_of_lt short,
      ofFields?_of_regular regular, regular_of_isRegular regular]
  · have next : Calendar.writtenSecond t.second t.nano = t.second + 1 := by
      simp only [Calendar.writtenSecond]
      omega
    have beyond : Calendar.writtenNano t.nano = t.nano - 1000000000 := by
      simp only [Calendar.writtenNano]
      omega
    rw [next, beyond]
    by_cases last : t.second = 59
    · have regular : t.IsRegular := .inr last
      rw [last, if_pos rfl, Nat.sub_add_cancel (Nat.le_of_not_lt short), ← last,
        ofFields?_of_regular regular, regular_of_isRegular regular]
    · have irregular : ¬ t.IsRegular := fun h => h.elim short last
      have settled : t.regular.IsRegular := by
        rw [regular, dif_neg irregular]
        exact .inl (by simp only; omega)
      have fields := ofFields?_of_regular settled
      rw [if_neg (by omega)]
      rw [regular, dif_neg irregular] at fields ⊢
      exact fields

end DateTime

end QueryLoom
