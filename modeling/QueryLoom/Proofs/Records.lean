import QueryLoom.Proofs.Dates
import QueryLoom.Proofs.Naming
import QueryLoom.Row.Record

/-!
# Rows that hold a record

Data given to the columns of a row and read back as a record: each field goes to a value, to JSON
and back, and is found under its name wherever its column stands. Only a leap second inside a minute
comes back as another moment, since its text is that of the second behind it.

* `FieldType.regular` : what the data of a field comes back as;
* `FieldType.read_toValue` : one field, one case for each type;
* `Record.exists_entry`, `Row.named_of_mem` : the column of a field and the field of a column;
* `Record.record_of_row` : the whole record;
* `Record.hidden_leap_second` : a record that comes back as another one.
-/

namespace QueryLoom

/-! ## One field -/

namespace FieldType

/-- The value that stands for data of a type. Bytes that stand alone are 32-bit integers. -/
def toValue : (t : FieldType) → t.Carrier → Value
  | .int64, n => ToValue.toValue n
  | .uint8, n => ToValue.toValue (Int32.ofNat n.toNat)
  | .uint32, n => ToValue.toValue n
  | .float64, x => ToValue.toValue x
  | .bool, b => ToValue.toValue b
  | .text, s => ToValue.toValue s
  | .bytes, bs => ToValue.toValue bs
  | .dateTime, t => ToValue.toValue t
  | .json, j => ToValue.toValue j
  | .optional _, none => .null
  | .optional t, some x => t.toValue x

/-- Whether NULL stands for nothing but missing data. -/
def tellsMissing : FieldType → Bool
  | .optional .json => false
  | .optional (.optional _) => false
  | _ => true

/-- Without NaN and the infinities. -/
def IsFinite : (t : FieldType) → t.Carrier → Prop
  | .float64, x => x.isFinite = true
  | .optional t, some x => t.IsFinite x
  | _, _ => True

/-- Without leap seconds inside a minute. -/
def IsRegular : (t : FieldType) → t.Carrier → Prop
  | .dateTime, t => DateTime.IsRegular t
  | .optional t, some x => t.IsRegular x
  | _, _ => True

/-- The data with leap seconds inside a minute taken for the seconds behind them. -/
def regular : (t : FieldType) → t.Carrier → t.Carrier
  | .dateTime, t => DateTime.regular t
  | .optional _, none => none
  | .optional t, some x => some (t.regular x)
  | _, x => x

theorem regular_of_isRegular {t : FieldType} {x : t.Carrier} (h : t.IsRegular x) :
    t.regular x = x := by
  induction t with
  | dateTime => exact DateTime.regular_of_isRegular h
  | optional t ih =>
    cases x with
    | none => rfl
    | some x => exact congrArg some (ih h)
  | _ => rfl

end FieldType

theorem Json.readInteger_of_contains {range : Text.IntRange} {n : Int} (typeName : String)
    (h : range.Contains n) : readInteger range typeName (.number (.int n)) = .ok n :=
  if_pos h

theorem Json.readOctets_bytes (bs : List UInt8) :
    readOctets (bs.map fun b => .number (.int b.toNat)) = .ok bs := by
  induction bs with
  | nil => rfl
  | cons b bs ih =>
    rw [List.map_cons, readOctets, readInteger_of_contains _ (Text.IntRange.uint8_contains b), ih]
    simp [Except.map]

namespace FieldType

theorem toJson_toValue_float64 {x : Binary64} (finite : x.isFinite = true) :
    (toValue .float64 x).toJson = .number (.float x) := if_pos finite

/-- Data that is there never looks like missing data. -/
theorem toJson_toValue_ne_null {t : FieldType} (tells : (optional t).tellsMissing = true)
    {x : t.Carrier} (finite : t.IsFinite x) : (t.toValue x).toJson ≠ .null := by
  cases t with
  | float64 =>
    rw [toJson_toValue_float64 finite]
    exact Json.noConfusion
  | json => cases tells
  | optional t => cases tells
  | _ => exact Json.noConfusion

theorem read_optional {t : FieldType} {j : Json} (h : j ≠ .null) :
    (optional t).read j = (t.read j).map some := by
  cases j with
  | null => exact absurd rfl h
  | _ => rfl

/-- Data of a type is read back from the JSON of its value. -/
theorem read_toValue {t : FieldType} (tells : t.tellsMissing = true) {x : t.Carrier}
    (finite : t.IsFinite x) : t.read (t.toValue x).toJson = .ok (t.regular x) := by
  induction t with
  | int64 =>
    show (Json.readInteger .int64 "i64" (.number (.int x.toInt))).map Int64.ofInt = .ok x
    rw [Json.readInteger_of_contains _ (Text.IntRange.int64_contains x), Except.map,
      Int64.ofInt_toInt]
  | uint8 =>
    have small := UInt8.toNat_lt x
    have same : (Int32.ofNat x.toNat).toInt = x.toNat := Int32.toInt_ofNat_of_lt (by omega)
    show (Json.readInteger .uint8 "u8" (.number (.int (Int32.ofNat x.toNat).toInt))).map _ = .ok x
    rw [same, Json.readInteger_of_contains _ (Text.IntRange.uint8_contains x)]
    simp [Except.map]
  | uint32 =>
    have small := UInt32.toNat_lt x
    have same : (Int64.ofNat x.toNat).toInt = x.toNat := Int64.toInt_ofNat_of_lt (by omega)
    show (Json.readInteger .uint32 "u32" (.number (.int (Int64.ofNat x.toNat).toInt))).map _ = .ok x
    rw [same, Json.readInteger_of_contains _ (Text.IntRange.uint32_contains x)]
    simp [Except.map]
  | float64 =>
    rw [toJson_toValue_float64 finite]
    rfl
  | bool => rfl
  | text => rfl
  | bytes => exact Json.readOctets_bytes x
  | dateTime =>
    have text : (toValue .dateTime x).toJson = .text (String.ofList (DateTime.text x)) := rfl
    simp only [text, read, String.toList_ofList, DateTime.readStandard_text]
    rfl
  | json => rfl
  | optional t ih =>
    cases x with
    | none => rfl
    | some x =>
      have inner : t.tellsMissing = true := by
        cases t with
        | optional t => cases tells
        | _ => rfl
      have present : (t.toValue x).toJson ≠ .null := toJson_toValue_ne_null tells finite
      show (optional t).read (t.toValue x).toJson = .ok (some (t.regular x))
      rw [read_optional present, ih inner finite]
      rfl

end FieldType

/-! ## All fields -/

namespace Record

/-- The columns that the data of a record takes. -/
def entries : (fields : List Field) → Data fields → List (String × Value)
  | [], _ => []
  | f :: fs, (x, xs) => (f.name, f.type.toValue x) :: entries fs xs

def IsFinite : (fields : List Field) → Data fields → Prop
  | [], _ => True
  | f :: fs, (x, xs) => f.type.IsFinite x ∧ IsFinite fs xs

def IsRegular : (fields : List Field) → Data fields → Prop
  | [], _ => True
  | f :: fs, (x, xs) => f.type.IsRegular x ∧ IsRegular fs xs

def regular : (fields : List Field) → Data fields → Data fields
  | [], data => data
  | f :: fs, (x, xs) => (f.type.regular x, regular fs xs)

theorem regular_of_isRegular {fields : List Field} {data : Data fields}
    (h : IsRegular fields data) : regular fields data = data := by
  induction fields with
  | nil => rfl
  | cons f fields ih =>
    obtain ⟨x, xs⟩ := data
    rw [regular, FieldType.regular_of_isRegular h.1, ih h.2]

theorem exists_entry {fields : List Field} {data : Data fields} (finite : IsFinite fields data)
    {f : Field} (h : f ∈ fields) :
    ∃ x, f.type.IsFinite x ∧ (f.name, f.type.toValue x) ∈ entries fields data := by
  induction fields with
  | nil => cases h
  | cons g fields ih =>
    obtain ⟨x, xs⟩ := data
    rcases List.mem_cons.1 h with rfl | later
    · exact ⟨x, finite.1, List.mem_cons_self⟩
    · obtain ⟨y, known, member⟩ := ih finite.2 later
      exact ⟨y, known, List.mem_cons_of_mem _ member⟩

theorem firstFault_eq_none {fields : List Field} {members : List (String × Json)}
    (h : ∀ f ∈ fields, ∀ j, (f.name, j) ∈ members → ∃ x, f.type.read j = .ok x) :
    firstFault fields members = none := by
  induction members with
  | nil => rfl
  | cons m members ih =>
    obtain ⟨name, j⟩ := m
    have rest := ih fun f member k later => h f member k (List.mem_cons_of_mem _ later)
    rw [firstFault]
    split
    · exact rest
    · rename_i f found
      have same : f.name = name := by simpa using List.find?_some found
      obtain ⟨x, read⟩ := h f (List.mem_of_find?_eq_some found) j (by simp [same])
      rw [read]
      exact rest

theorem assemble_eq {fields : List Field} {data : Data fields} {members : List (String × Json)}
    (tells : ∀ f ∈ fields, f.type.tellsMissing = true) (finite : IsFinite fields data)
    (found : ∀ e ∈ entries fields data, NameMap.find? e.1 members = some e.2.toJson) :
    assemble fields members = .ok (regular fields data) := by
  induction fields with
  | nil => rfl
  | cons f fields ih =>
    obtain ⟨x, xs⟩ := data
    have here : NameMap.find? f.name members = some (f.type.toValue x).toJson :=
      found _ List.mem_cons_self
    have rest : assemble fields members = .ok (regular fields xs) :=
      ih (fun g member => tells g (List.mem_cons_of_mem _ member)) finite.2
        fun e member => found e (List.mem_cons_of_mem _ member)
    have read := FieldType.read_toValue (tells f List.mem_cons_self) finite.1
    simp only [assemble, here, read, rest, Except.map]
    rfl

end Record

/-! ## The columns of a row -/

namespace Row

/-- Where no two columns share a name, a name has the value of its column alone. -/
theorem named_of_mem {r : Row} (distinct : r.columns.Nodup) {name : String} {v : Value}
    (h : (name, v) ∈ r.columns.zip r.values) : r.named name = [v] := by
  have once : (r.named name).length ≤ 1 :=
    Nat.le_trans (NameMap.length_valuesOf_zip_le name r.columns r.values)
      (List.nodup_iff_count.1 distinct name)
  have member : v ∈ r.named name := by
    rw [named, NameMap.valuesOf, List.mem_filterMap]
    exact ⟨(name, v), h, if_pos rfl⟩
  cases values : r.named name with
  | nil => rw [values] at member; cases member
  | cons w ws =>
    rw [values] at once member
    obtain rfl : ws = [] := by simpa using once
    rw [List.mem_singleton.1 member]

theorem find?_members_of_mem {r : Row} (distinct : r.columns.Nodup) {name : String} {v : Value}
    (h : (name, v) ∈ r.columns.zip r.values) : NameMap.find? name r.members = some v.toJson := by
  rw [find?_members, named_of_mem distinct h]
  rfl

end Row

/-- The data of a record is found and read, whatever other columns there are. -/
theorem Record.read_of_entries {fields : List Field} {data : Data fields} {r : Row}
    (tells : ∀ f ∈ fields, f.type.tellsMissing = true) (finite : IsFinite fields data)
    (distinct : r.columns.Nodup) (holds : entries fields data ⊆ r.columns.zip r.values) :
    read fields r = .ok (regular fields data) := by
  have found : ∀ e ∈ entries fields data, NameMap.find? e.1 r.members = some e.2.toJson :=
    fun e member => Row.find?_members_of_mem distinct (holds member)
  have faultless : firstFault fields r.members = none := by
    refine firstFault_eq_none fun f field j member => ?_
    obtain ⟨x, known, entry⟩ := exists_entry finite field
    have here : NameMap.find? f.name r.members = some j :=
      NameMap.find?_of_mem (NameMap.increasing_insertAll _) member
    have same : j = (f.type.toValue x).toJson :=
      Option.some.inj (here.symm.trans (found _ entry))
    exact ⟨f.type.regular x, by rw [same, FieldType.read_toValue (tells f field) known]⟩
  rw [read, ofMembers, faultless, assemble_eq tells finite found]

/-! ## Main statement -/

/-- If the columns of a row have different names and among them, in whatever order, are those of the
data of a record, the row is read as that record: exactly, unless there is a leap second inside a
minute, and then with the second behind it. Nothing is asked of the other columns. -/
theorem Record.record_of_row {fields : List Field} {data : Data fields} {r : Row}
    (tells : ∀ f ∈ fields, f.type.tellsMissing = true) (finite : IsFinite fields data)
    (distinct : r.columns.Nodup) (holds : entries fields data ⊆ r.columns.zip r.values) :
    read fields r = .ok (regular fields data) ∧
      (IsRegular fields data → read fields r = .ok data) := by
  have whole := read_of_entries tells finite distinct holds
  exact ⟨whole, fun plain => by rw [whole, regular_of_isRegular plain]⟩

namespace Record

/-- A record with fields of many types. -/
def accountFields : List Field :=
  [.required "id" .int64, .required "level" .uint8, .required "visits" .uint32,
    .required "score" .float64, .required "active" .bool, .required "name" .text,
    .required "key" .bytes, .required "phone" (.optional .text),
    .required "seen" (.optional .dateTime), .required "settings" .json]

/-- The last moment of a year before the first one, a nanosecond into its leap second. -/
def leapSecond : DateTime where
  year := -4
  month := 12
  day := 31
  hour := 23
  minute := 59
  second := 59
  nano := 1000000001
  isDate := by decide
  isTime := by decide

/-- An account with data at the ends of their types. -/
def account : Data accountFields :=
  ((-9223372036854775808 : Int64), (255 : UInt8), (4294967295 : UInt32), ⟨0x8000000000000000⟩, true,
    "Zoë", [0, 255], none, some leapSecond, .array [.null], ())

/-- The row of the account: the columns in another order, and two more. -/
def accountRow : Row where
  columns := ["seen", "total", "settings", "phone", "name", "key", "level", "visits", "active",
    "score", "id", "version"]
  values := [.dateTime leapSecond, .float64 ⟨0x7ff8000000000000⟩, .json (.array [.null]), .null,
    .text "Zoë", .bytes [0, 255], .int32 255, .int64 4294967295, .bool true,
    .float64 ⟨0x8000000000000000⟩, .int64 (-9223372036854775808), .uint64 7]

theorem record_of_row_account :
    IsFinite accountFields account ∧ accountRow.columns.Nodup ∧
      entries accountFields account ⊆ accountRow.columns.zip accountRow.values ∧
      IsRegular accountFields account ∧ read accountFields accountRow = .ok account := by
  have score : Binary.isFinite (⟨0x8000000000000000⟩ : Binary64) = true := by decide
  have finite : IsFinite accountFields account :=
    ⟨trivial, trivial, trivial, score, trivial, trivial, trivial, trivial, trivial, trivial,
      trivial⟩
  have regular : IsRegular accountFields account :=
    ⟨trivial, trivial, trivial, trivial, trivial, trivial, trivial, trivial, .inr rfl, trivial,
      trivial⟩
  have distinct : accountRow.columns.Nodup := by decide
  have holds : entries accountFields account ⊆ accountRow.columns.zip accountRow.values := by
    decide
  exact ⟨finite, distinct, holds, regular,
    (record_of_row (by decide) finite distinct holds).2 regular⟩

/-- Not every moment comes back: this one is written as a time in the second behind its own. -/
theorem hidden_leap_second :
    ¬ ∀ (fields : List Field) (data : Data fields) (r : Row),
      (∀ f ∈ fields, f.type.tellsMissing = true) → IsFinite fields data → r.columns.Nodup →
      entries fields data ⊆ r.columns.zip r.values → read fields r = .ok data := by
  intro exact
  let fields : List Field := [.required "seen" (.optional .dateTime)]
  let data : Data fields := (some DateTime.hiddenLeapSecond, ())
  let r : Row := ⟨["seen"], [.dateTime DateTime.hiddenLeapSecond]⟩
  have tells : ∀ f ∈ fields, f.type.tellsMissing = true := by decide
  have finite : IsFinite fields data := ⟨trivial, trivial⟩
  have distinct : r.columns.Nodup := by decide
  have holds : entries fields data ⊆ r.columns.zip r.values := List.Subset.refl _
  have kept := exact fields data r tells finite distinct holds
  rw [read_of_entries tells finite distinct holds] at kept
  have same := Option.some.inj (Prod.mk.inj (Except.ok.inj kept)).1
  exact DateTime.regular_hiddenLeapSecond same

end Record

end QueryLoom
