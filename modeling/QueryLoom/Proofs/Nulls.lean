import QueryLoom.Proofs.Integers
import QueryLoom.Proofs.Records

/-!
# NULL in columns and in records

A column that holds NULL is read as the zero of the wanted type. A record is read from the JSON of
its row, in which NULL stands for missing data alone: fields whose data cannot be missing refuse it.

* `Value.read_null` : a column, for every type;
* `Record.read_of_null` : a record, for every field that needs its data;
* `Row.HoldsUser` : rows of three columns, some of them NULL;
* `Record.read_user` : such rows read column by column and as a record.
-/

namespace QueryLoom

/-! ## Columns -/

/-- NULL is read as the zero of the wanted type. -/
theorem Value.read_null (t : ColumnType) : Value.null.read t = .ok t.zero := by
  cases t with
  | float32 =>
    have rounded : (Binary.zero .double false).convert .single = Binary.zero .single false := by
      decide
    show Except.ok ((Binary.zero .double false).convert .single) = _
    rw [rounded]
    rfl
  | _ => rfl

/-- Where no two columns share a name, a name reads the value of its column. -/
theorem Row.getByName_of_mem {r : Row} (distinct : r.columns.Nodup) {name : String} {v : Value}
    (h : (name, v) ∈ r.columns.zip r.values) {t : ColumnType} {x : t.Carrier}
    (read : v.read t = .ok x) : r.getByName name t = .ok x := by
  have first := NameMap.head?_valuesOf_zip name r.columns r.values
  rw [← named, named_of_mem distinct h, List.head?_cons] at first
  unfold getByName position?
  cases place : r.columns.findIdx? (· == name) with
  | none => rw [place] at first; cases first
  | some i =>
    rw [place, Option.bind_some] at first
    simp only [get, ← first, read]

/-! ## Records -/

/-- Whether a field can be read where there is no data. -/
def FieldType.takesNull : FieldType → Bool
  | .json | .optional _ => true
  | _ => false

theorem FieldType.read_null {t : FieldType} (needs : t.takesNull = false) :
    ∃ e, t.read .null = .error e := by
  cases t with
  | json | optional t => cases needs
  | _ => exact ⟨_, rfl⟩

namespace Record

theorem exists_firstFault {fields : List Field} {members : List (String × Json)} {f : Field}
    {j : Json} {e : String} (field : fields.find? (fun g => g.name == f.name) = some f)
    (member : (f.name, j) ∈ members) (fault : f.type.read j = .error e) :
    ∃ e, firstFault fields members = some e := by
  induction members with
  | nil => cases member
  | cons m members ih =>
    rcases List.mem_cons.1 member with rfl | later
    · exact ⟨e, by simp only [firstFault, field, fault]⟩
    · obtain ⟨d, first⟩ := ih later
      rw [firstFault]
      split
      · exact ⟨d, first⟩
      · split
        · exact ⟨_, rfl⟩
        · exact ⟨d, first⟩

/-- No record is read from a row with NULL for a field that needs its data, whatever else the row
holds. -/
theorem read_of_null {fields : List Field} {f : Field} {r : Row}
    (field : fields.find? (fun g => g.name == f.name) = some f)
    (needs : f.type.takesNull = false) (null : (r.named f.name).getLast? = some .null) :
    ∃ e, read fields r = .error (.serialization e) := by
  have found : NameMap.find? f.name r.members = some .null := by rw [r.find?_members, null]; rfl
  obtain ⟨d, fault⟩ := FieldType.read_null needs
  obtain ⟨e, first⟩ := exists_firstFault field (NameMap.mem_of_find? found) fault
  exact ⟨e, by rw [read, ofMembers, first]⟩

/-! ## Rows of users -/

/-- A user: a number, a name, and a telephone number if there is one. -/
def userFields : List Field :=
  [.required "id" .int64, .required "name" .text, .required "phone" (.optional .text)]

end Record

namespace Value

/-- NULL or an integer, of any kind, in the range of signed 64-bit integers. -/
inductive HoldsNumber : Value → Prop
  | null : HoldsNumber .null
  | int32 (n : Int32) : HoldsNumber (.int32 n)
  | int64 (n : Int64) : HoldsNumber (.int64 n)
  | uint64 (n : UInt64) (fits : Text.IntRange.int64.Contains n.toNat) : HoldsNumber (.uint64 n)

/-- NULL or a text. -/
inductive HoldsText : Value → Prop
  | null : HoldsText .null
  | text (s : String) : HoldsText (.text s)

variable {v : Value}

/-- Numbers are the same in a column and in a record, but for NULL. -/
theorem HoldsNumber.reads (h : v.HoldsNumber) :
    ∃ n, v.read .int64 = .ok n ∧ (v = .null → n = 0) ∧
      (v ≠ .null → FieldType.int64.read v.toJson = .ok n) := by
  have reads {m : Int} (fits : Text.IntRange.int64.Contains m) :
      (within .int64 m).map Int64.ofInt = .ok (Int64.ofInt m) ∧
        FieldType.int64.read (.number (.int m)) = .ok (Int64.ofInt m) := by
    constructor
    · rw [within_eq_ok_iff.2 ⟨rfl, fits⟩]
      rfl
    · rw [FieldType.read, Json.readInteger_of_contains _ fits]
      rfl
  cases h with
  | null => exact ⟨0, read_null .int64, fun _ => rfl, fun some => absurd rfl some⟩
  | int32 n =>
    obtain ⟨low, high⟩ := Text.IntRange.int32_contains n
    have fits : Text.IntRange.int64.Contains n.toInt :=
      ⟨Int.le_trans (by decide) low, Int.le_trans high (by decide)⟩
    exact ⟨_, (reads fits).1, Value.noConfusion, fun _ => (reads fits).2⟩
  | int64 n =>
    have fits := Text.IntRange.int64_contains n
    exact ⟨_, (reads fits).1, Value.noConfusion, fun _ => (reads fits).2⟩
  | uint64 n fits => exact ⟨_, (reads fits).1, Value.noConfusion, fun _ => (reads fits).2⟩

/-- Texts are the same in a column and in a record, but for NULL. -/
theorem HoldsText.reads (h : v.HoldsText) :
    ∃ s, v.read .text = .ok s ∧ (v = .null → s = "") ∧
      (v ≠ .null → FieldType.text.read v.toJson = .ok s) := by
  cases h with
  | null => exact ⟨"", read_null .text, fun _ => rfl, fun some => absurd rfl some⟩
  | text s => exact ⟨s, rfl, Value.noConfusion, fun _ => rfl⟩

theorem HoldsText.reads_optional (h : v.HoldsText) :
    ∃ p, v.read (.optional .text) = .ok p ∧ (v = .null ↔ p = none) ∧
      (FieldType.optional .text).read v.toJson = .ok p := by
  cases h with
  | null => exact ⟨none, rfl, by simp, rfl⟩
  | text s => exact ⟨some s, rfl, by simp, rfl⟩

end Value

/-- The row has three columns, in any order: a number, a name and a telephone number. -/
structure Row.HoldsUser (r : Row) (id name phone : Value) : Prop where
  paired : r.columns.length = r.values.length
  columns : (r.columns.zip r.values).Perm [("id", id), ("name", name), ("phone", phone)]
  number : id.HoldsNumber
  called : name.HoldsText
  reached : phone.HoldsText

namespace Row.HoldsUser

variable {r : Row} {id name phone : Value}

/-- The three names are different. -/
theorem distinct (h : r.HoldsUser id name phone) : r.columns.Nodup := by
  have names : (r.columns.zip r.values).map Prod.fst = r.columns :=
    List.map_fst_zip (Nat.le_of_eq h.paired)
  rw [← names, (h.columns.map Prod.fst).nodup_iff]
  simp

theorem getByName (h : r.HoldsUser id name phone) {column : String} {v : Value}
    (member : (column, v) ∈ [("id", id), ("name", name), ("phone", phone)]) {t : ColumnType}
    {x : t.Carrier} (read : v.read t = .ok x) : r.getByName column t = .ok x :=
  getByName_of_mem h.distinct (h.columns.mem_iff.2 member) read

/-- The members of the object are in the order of their names. -/
theorem members_eq (h : r.HoldsUser id name phone) :
    r.members = [("id", id.toJson), ("name", name.toJson), ("phone", phone.toJson)] := by
  have zipped : r.columns.zip (r.values.map Value.toJson) =
      (r.columns.zip r.values).map fun e => (e.1, e.2.toJson) := List.zip_map_right
  have names : ["id", "name", "phone"].Pairwise (· < ·) := by decide
  have ordered : NameMap.Increasing
      [("id", id.toJson), ("name", name.toJson), ("phone", phone.toJson)] :=
    List.pairwise_map.1 names
  rw [members, zipped]
  exact NameMap.insertAll_of_perm ordered (h.columns.map _)

end Row.HoldsUser

/-- The fields of a user are read in the order of their names, until one of them is at fault. -/
theorem Record.ofMembers_user (a b c : Json) :
    ofMembers userFields [("id", a), ("name", b), ("phone", c)] =
      (FieldType.int64.read a).bind fun n =>
        (FieldType.text.read b).bind fun s =>
          ((FieldType.optional .text).read c).map fun p => (n, s, p, ()) := by
  cases number : FieldType.int64.read a with
  | error e => simp [ofMembers, firstFault, userFields, Field.required, number, Except.bind]
  | ok n =>
    cases called : FieldType.text.read b with
    | error e =>
      simp [ofMembers, firstFault, userFields, Field.required, number, called, Except.bind]
    | ok s =>
      cases reached : (FieldType.optional .text).read c with
      | error e =>
        simp [ofMembers, firstFault, userFields, Field.required, number, called, reached,
          Except.bind, Except.map]
      | ok p =>
        simp [ofMembers, firstFault, assemble, NameMap.find?, userFields, Field.required, number,
          called, reached, Except.bind, Except.map]

/-! ## Main statement -/

/-- A row of a user is read column by column whatever is NULL in it, a NULL as a zero. As a record
it is read with the same data if the number and the name are not NULL. Otherwise it is refused, for
the number first. -/
theorem Record.read_user {r : Row} {id name phone : Value} (h : r.HoldsUser id name phone) :
    ∃ (n : Int64) (s : String) (p : Option String),
      r.getByName "id" .int64 = .ok n ∧ r.getByName "name" .text = .ok s ∧
      r.getByName "phone" (.optional .text) = .ok p ∧
      (id = .null → n = 0) ∧ (name = .null → s = "") ∧ (phone = .null ↔ p = none) ∧
      read userFields r =
        if id = .null then .error (.serialization "invalid type: null, expected i64")
        else if name = .null then .error (.serialization "invalid type: null, expected a string")
        else .ok (n, s, p, ()) := by
  obtain ⟨n, numberColumn, zero, numberField⟩ := h.number.reads
  obtain ⟨s, nameColumn, empty, nameField⟩ := h.called.reads
  obtain ⟨p, phoneColumn, missing, phoneField⟩ := h.reached.reads_optional
  refine ⟨n, s, p, h.getByName (by simp) numberColumn, h.getByName (by simp) nameColumn,
    h.getByName (by simp) phoneColumn, zero, empty, missing, ?_⟩
  rw [read, h.members_eq, ofMembers_user]
  split_ifs with noNumber noName
  · subst noNumber
    rfl
  · subst noName
    rw [numberField noNumber]
    rfl
  · rw [numberField noNumber, nameField noName, phoneField]
    rfl

namespace Record

/-- A user without a number. -/
def unnumberedRow : Row where
  columns := ["id", "name", "phone"]
  values := [.null, .text "Ann", .null]

theorem holdsUser_unnumberedRow : unnumberedRow.HoldsUser .null (.text "Ann") .null where
  paired := rfl
  columns := .refl _
  number := .null
  called := .text "Ann"
  reached := .null

theorem read_user_unnumbered :
    unnumberedRow.HoldsUser .null (.text "Ann") .null ∧
      unnumberedRow.getByName "id" .int64 = .ok 0 ∧
      read userFields unnumberedRow =
        .error (.serialization "invalid type: null, expected i64") := by
  obtain ⟨n, s, p, number, -, -, zero, -, -, read⟩ := read_user holdsUser_unnumberedRow
  refine ⟨holdsUser_unnumberedRow, ?_, read⟩
  rw [number, zero rfl]

/-- NULL is not read as a zero in a record. -/
theorem read_user_of_null :
    ¬ ∀ (r : Row) (id name phone : Value), r.HoldsUser id name phone →
      ∃ (n : Int64) (s : String) (p : Option String),
        r.getByName "id" .int64 = .ok n ∧ r.getByName "name" .text = .ok s ∧
        r.getByName "phone" (.optional .text) = .ok p ∧ read userFields r = .ok (n, s, p, ()) := by
  intro reads
  obtain ⟨n, s, p, -, -, -, read⟩ := reads _ _ _ _ holdsUser_unnumberedRow
  have fault : Record.read userFields unnumberedRow =
      .error (.serialization "invalid type: null, expected i64") := rfl
  rw [fault] at read
  cases read

end Record

end QueryLoom
