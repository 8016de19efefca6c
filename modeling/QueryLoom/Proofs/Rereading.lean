import QueryLoom.Proofs.ByteTexts
import QueryLoom.Proofs.Dates
import QueryLoom.Proofs.Integers

/-!
# Columns read as text

A column can be read as text whatever its kind, and the text can be read as data of the kind again.
Numbers, dates and bytes come back as they were, but for the part of a second, which the text of a
date does not show, and for leap seconds inside a minute, which have the text of the second behind
them; bytes have a text exactly when they are the bytes of a string.

* `Value.Rereads` : what the text of a value is read as;
* `IntType.rereads` : integers, one proof for all their types;
* `text_keeps_data` : every kind of data;
* `leap_second_reread` : a moment that comes back as another one.
-/

namespace QueryLoom

/-- The value can be read as text, and the text is read as the given data of a type. -/
def Value.Rereads (v : Value) (t : ColumnType) (x : t.Carrier) : Prop :=
  ∃ s : String, v.read .text = .ok s ∧ Value.read t (.text s) = .ok x

/-! ## Integers -/

namespace IntType

/-- The value that stands for data of a type of integers. -/
def toValue : (t : IntType) → t.column.Carrier → Value
  | .int32, n => ToValue.toValue n
  | .int64, n => ToValue.toValue n
  | .uint32, n => ToValue.toValue n
  | .uint64, n => ToValue.toValue n

variable {t : IntType}

theorem contains_toInt (x : t.column.Carrier) : t.range.Contains (t.toInt x) := by
  cases t with
  | int32 => exact Text.IntRange.int32_contains x
  | int64 => exact Text.IntRange.int64_contains x
  | uint32 => exact Text.IntRange.uint32_contains x
  | uint64 => exact Text.IntRange.uint64_contains x

theorem ofInt_toInt (x : t.column.Carrier) : t.ofInt (t.toInt x) = x := by
  cases t with
  | int32 => exact Int32.ofInt_toInt x
  | int64 => exact Int64.ofInt_toInt x
  | uint32 => simp [ofInt, toInt]
  | uint64 => simp [ofInt, toInt]

/-- The text of an integer is its decimal text. -/
theorem read_text_toValue (x : t.column.Carrier) :
    (t.toValue x).read .text = .ok (String.ofList (Text.decimalInt (t.toInt x))) := by
  cases t with
  | int32 => rfl
  | int64 => rfl
  | uint32 =>
    have small := UInt32.toNat_lt x
    have same : (Int64.ofNat x.toNat).toInt = x.toNat := Int64.toInt_ofNat_of_lt (by omega)
    show Except.ok (String.ofList (Text.decimalInt (Int64.ofNat x.toNat).toInt)) = _
    rw [same]
    rfl
  | uint64 =>
    show Except.ok (String.ofList (Text.decimal x.toNat)) = _
    rw [← Text.decimalInt_natCast]
    rfl

/-- Every integer of a type is read from its decimal text. -/
theorem read_decimalInt {n : Int} (h : t.range.Contains n) :
    Value.read t.column (.text (String.ofList (Text.decimalInt n))) = .ok (t.ofInt n) := by
  have signs : decide (t.range.lo < 0) = t.signed := by cases t <;> rfl
  have spelled := (Text.IntRange.read_eq_ok_iff.1 (t.range.read_decimalInt h)).1
  rw [signs] at spelled
  have denotes : (Value.text (String.ofList (Text.decimalInt n))).Denotes t.signed n := by
    have around := @Value.Denotes.text t.signed [] _ [] _ (by simp) spelled
    rwa [List.nil_append, List.append_nil] at around
  obtain ⟨name, read⟩ := t.exists_read_eq (.text (String.ofList (Text.decimalInt n)))
  rw [read, readInt_eq_ok_iff.2 ⟨denotes, h⟩]
  rfl

theorem rereads (x : t.column.Carrier) : (t.toValue x).Rereads t.column x := by
  refine ⟨_, read_text_toValue x, ?_⟩
  rw [read_decimalInt (contains_toInt x), ofInt_toInt]

end IntType

/-! ## Bytes -/

namespace Value

/-- Bytes are read as the text whose bytes they are. -/
theorem read_text_bytes_iff {bs : List UInt8} {s : String} :
    Value.read .text (.bytes bs) = .ok s ↔ bs = Text.Utf8.encode s.toList := by
  rw [← Text.Utf8.decode_eq_ok_iff, Value.read, readText]
  cases Text.Utf8.decode bs with
  | ok cs =>
    constructor
    · rintro ⟨⟩
      rw [String.toList_ofList]
    · rintro ⟨⟩
      show Except.ok (String.ofList s.toList) = _
      rw [String.ofList_toList]
  | error fault => simp

theorem read_bytes_text (s : String) :
    Value.read .bytes (.text s) = .ok (Text.Utf8.encode s.toList) := rfl

end Value

/-! ## Dates -/

/-- A date is read from its text to the second. -/
theorem rereads_dateTime (t : DateTime) :
    (toValue t).Rereads .dateTime t.dropFraction.regular := by
  refine ⟨_, rfl, ?_⟩
  rw [Value.read, Value.readDateTime, String.toList_ofList, t.readSpaced_textToSecond]

/-! ## Main statement -/

/-- Read as text and from the text again, integers of every type, the bytes of strings, and dates
but for the part of a second are what they were; all years and the leap seconds that end a minute
are among them, and leap seconds inside a minute become the second behind them. A text is read as
bytes that have this text, and bytes that are not those of a string have none. -/
theorem text_keeps_data :
    (∀ x : Int32, (toValue x).Rereads .int32 x) ∧
    (∀ x : Int64, (toValue x).Rereads .int64 x) ∧
    (∀ x : UInt32, (toValue x).Rereads .uint32 x) ∧
    (∀ x : UInt64, (toValue x).Rereads .uint64 x) ∧
    (∀ x : List UInt8, x.toByteArray.IsValidUTF8 → (toValue x).Rereads .bytes x) ∧
    (∀ x : DateTime, (toValue x).Rereads .dateTime x.dropFraction.regular ∧
      (x.IsRegular → (toValue x).Rereads .dateTime x.dropFraction)) ∧
    (∀ s : String, ∃ bs : List UInt8, Value.read .bytes (.text s) = .ok bs ∧
      Value.read .text (.bytes bs) = .ok s) ∧
    ∀ bs : List UInt8, (∃ fault, Value.read .text (.bytes bs) = .error fault) ↔
      ¬ bs.toByteArray.IsValidUTF8 := by
  have texts (bs : List UInt8) :
      bs.toByteArray.IsValidUTF8 ↔ ∃ s, Value.read .text (.bytes bs) = .ok s := by
    simp only [Text.Utf8.isValidUTF8_iff, Text.Utf8.decode_eq_ok_iff]
    constructor
    · rintro ⟨cs, bytes⟩
      exact ⟨String.ofList cs, Value.read_text_bytes_iff.2 (by rwa [String.toList_ofList])⟩
    · rintro ⟨s, read⟩
      exact ⟨s.toList, Value.read_text_bytes_iff.1 read⟩
  refine ⟨IntType.rereads (t := .int32), IntType.rereads (t := .int64),
    IntType.rereads (t := .uint32), IntType.rereads (t := .uint64), fun bs valid => ?_,
    fun t => ?_, fun s => ?_, fun bs => ?_⟩
  · obtain ⟨s, read⟩ := (texts bs).1 valid
    refine ⟨s, read, ?_⟩
    rw [Value.read_bytes_text, ← Value.read_text_bytes_iff.1 read]
  · refine ⟨rereads_dateTime t, fun plain => ?_⟩
    have reread := rereads_dateTime t
    rwa [DateTime.regular_of_isRegular (DateTime.isRegular_dropFraction.2 plain)] at reread
  · exact ⟨_, Value.read_bytes_text s, Value.read_text_bytes_iff.2 rfl⟩
  · rw [texts]
    cases Value.read .text (.bytes bs) <;> simp

/-- The bytes of a name with a letter beyond ASCII. -/
theorem text_keeps_data_name :
    ([0x5A, 0x6F, 0xC3, 0xAB] : List UInt8).toByteArray.IsValidUTF8 ∧
      (toValue ([0x5A, 0x6F, 0xC3, 0xAB] : List UInt8)).Rereads .bytes
        [0x5A, 0x6F, 0xC3, 0xAB] := by
  have valid : ([0x5A, 0x6F, 0xC3, 0xAB] : List UInt8).toByteArray.IsValidUTF8 :=
    Text.Utf8.isValidUTF8_iff.2 ⟨"Zoë".toList, rfl⟩
  exact ⟨valid, text_keeps_data.2.2.2.2.1 _ valid⟩

/-- Not every moment comes back to the second: this one has the text of the second behind it. -/
theorem leap_second_reread :
    ¬ ∀ x : DateTime, (toValue x).Rereads .dateTime x.dropFraction := by
  intro exact
  obtain ⟨s, text, read⟩ := exact DateTime.hiddenLeapSecond
  obtain ⟨s', text', read'⟩ := rereads_dateTime DateTime.hiddenLeapSecond
  obtain rfl : s = s' := Except.ok.inj (text.symm.trans text')
  have same := Except.ok.inj (read'.symm.trans read)
  exact absurd (DateTime.regular_eq_self_iff.1 same) (by decide)

end QueryLoom
