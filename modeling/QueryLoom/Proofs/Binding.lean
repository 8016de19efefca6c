import QueryLoom.Proofs.ByteTexts
import QueryLoom.Proofs.Cursors
import QueryLoom.Proofs.JsonText
import QueryLoom.Proofs.Preview

/-!
# Arguments that come back

What was sent as the arguments of a statement is read again from the columns of a row that holds
it, column by column, when each column has the type of its argument. No time of a column may be in a
leap second inside a minute, so a row with such an argument is not read.

* `Wire.ComesBack` : what a value comes back as from a column with a type of a given name;
* `Wire.read_bind`, `Wire.read_json_iff` : one column;
* `Wire.readCells_bound`, `Wire.readCells_refused` : the columns of a row;
* `arguments_come_back` : what is sent for the values of a statement, and what is read again;
* `json_comes_back_otherwise` : the kinds that change.
-/

namespace QueryLoom

/-! ## Values -/

namespace Value

/-- The values whose arguments can be read again: a date has a year of four digits, and JSON has
integers of 64 bits alone and no more levels than a reader goes down. -/
def Sendable : Value → Prop
  | .json j => j.IsExact Json.maxLevels
  | .dateTime t => 0 ≤ t.year ∧ t.year ≤ 9999
  | _ => True

/-- What a value comes back as from a column of the type that its argument has. -/
def returned : Value → Value
  | .int32 n => .int64 n.toInt64
  | .dateTime t => .dateTime t.toMicros
  | .json j => .bytes (Text.Utf8.encode j.render)
  | v => v

end Value

namespace Wire

/-- What a value comes back as from a column whose type has a given name. JSON comes back as JSON
from a column of that type alone; it is sent with another one, from which its text comes back. -/
inductive ComesBack : Value → String → Value → Prop
  | null (name : String) : ComesBack .null name .null
  | bool (b : Bool) : ComesBack (.bool b) "BOOLEAN" (.bool b)
  | int32 (n : Int32) : ComesBack (.int32 n) "INT" (.int64 n.toInt64)
  | int64 (n : Int64) : ComesBack (.int64 n) "BIGINT" (.int64 n)
  | uint64 (n : UInt64) : ComesBack (.uint64 n) "BIGINT UNSIGNED" (.uint64 n)
  | float32 (x : Binary32) : ComesBack (.float32 x) "FLOAT" (.float32 x)
  | float64 (x : Binary64) : ComesBack (.float64 x) "DOUBLE" (.float64 x)
  | text (s : String) : ComesBack (.text s) "VARCHAR" (.text s)
  | bytes (bs : List UInt8) : ComesBack (.bytes bs) "BLOB" (.bytes bs)
  | dateTime {t : DateTime} (regular : t.IsRegular) :
      ComesBack (.dateTime t) "DATETIME" (.dateTime t.toMicros)
  | jsonBytes (j : Json) : ComesBack (.json j) "BINARY" (.bytes (Text.Utf8.encode j.render))
  | jsonText (j : Json) : ComesBack (.json j) "CHAR" (.text j.compact)
  | json (j : Json) : ComesBack (.json j) "JSON" (.json j)

/-- Values one after the other come back from columns one after the other. -/
inductive AllComeBack : List Value → List String → List Value → Prop
  | nil : AllComeBack [] [] []
  | cons {v w : Value} {vs ws : List Value} {name : String} {names : List String}
      (first : ComesBack v name w) (rest : AllComeBack vs names ws) :
      AllComeBack (v :: vs) (name :: names) (w :: ws)

/-- Neither the width nor the number has a part in the name of a type. -/
theorem typeName_numberArgument (code : Nat) (isUnsigned : Bool) (width n : Nat) :
    (numberArgument code isUnsigned width n).typeName =
      (numberArgument code isUnsigned 0 0).typeName := rfl

theorem comesBack_returned {v : Value} (regular : v.IsRegular) :
    ComesBack v (bind v).typeName v.returned := by
  cases v with
  | null => exact .null _
  | bool b => exact .bool b
  | int32 n =>
    have name : (bind (.int32 n)).typeName = "INT" := (typeName_numberArgument ..).trans (by decide)
    exact name ▸ .int32 n
  | int64 n =>
    have name : (bind (.int64 n)).typeName = "BIGINT" :=
      (typeName_numberArgument ..).trans (by decide)
    exact name ▸ .int64 n
  | uint64 n =>
    have name : (bind (.uint64 n)).typeName = "BIGINT UNSIGNED" :=
      (typeName_numberArgument ..).trans (by decide)
    exact name ▸ .uint64 n
  | float32 x => exact .float32 x
  | float64 x => exact .float64 x
  | text s => exact .text s
  | bytes bs => exact .bytes bs
  | json j => exact .jsonBytes j
  | dateTime t => exact .dateTime regular

theorem allComeBack_returned {vs : List Value} (regular : ∀ v ∈ vs, v.IsRegular) :
    AllComeBack vs (vs.map fun v => (bind v).typeName) (vs.map Value.returned) := by
  induction vs with
  | nil => exact .nil
  | cons v vs ih =>
    obtain ⟨here, others⟩ := List.forall_mem_cons.1 regular
    exact .cons (comesBack_returned here) (ih others)

/-! ## Numbers -/

namespace LittleEndian

/-- Bits that are sent are read back, whatever they stand for. -/
theorem ofBytes_bits {width : Nat} (x : BitVec (8 * width)) :
    ofBytes (toBytes width x.toNat) = x.toNat := by
  refine ofBytes_toBytes ?_
  have bounded : x.toNat < 2 ^ (8 * width) := x.isLt
  rw [Nat.pow_mul] at bounded
  exact bounded

/-- Numbers in two's complement are read back with their sign. -/
theorem ofBytesSigned_bits {width : Nat} (x : BitVec (8 * width)) :
    ofBytesSigned (toBytes width x.toNat) = x.toInt := by
  have powers : (2 : Nat) ^ (8 * width) = Nat.pow 256 width := Nat.pow_mul 2 8 width
  rw [ofBytesSigned, ofBytes_bits, toBytes_length, BitVec.toInt_eq_toNat_cond, powers]

end LittleEndian

/-! ## Texts -/

theorem lossyText_encode (s : String) : lossyText (Text.Utf8.encode s.toList) = .text s := by
  rw [lossyText, Text.Utf8.decodeLossy_encode, String.ofList_toList]

theorem readJsonCell_encode {j : Json} (h : j.IsExact Json.maxLevels) :
    readJsonCell (Text.Utf8.encode j.render) = .ok (.json j) := by
  have found : Text.Utf8.decode (Text.Utf8.encode j.render) = .ok j.render :=
    Text.Utf8.decode_eq_ok_iff.2 rfl
  have read : Json.parse (String.ofList j.render) = .ok j := Json.parse_compact h
  simp only [readJsonCell, strictText, found, read]

/-! ## Dates -/

/-- What is read of a date and time that was sent: the time to the microsecond, unless it is in a
leap second inside a minute. -/
def sentBack (t : DateTime) : Except CellFault DateTime :=
  if t.IsRegular then .ok t.toMicros else .error (.time t.hour t.minute t.second (t.nano / 1000))

/-- The date is found behind the byte for the length, whatever follows it. -/
theorem dateWith_sent {t : DateTime} (low : 0 ≤ t.year) (high : t.year ≤ 9999) (size : UInt8)
    (rest : List UInt8) :
    dateWith (size :: (LittleEndian.toBytes 2 t.year.toNat ++ [t.month.toUInt8, t.day.toUInt8]) ++
      rest) ⟨t.hour, t.minute, t.second, t.nano / 1000⟩ = sentBack t := by
  have days := Calendar.daysIn_le t.year t.month
  obtain ⟨-, -, positive, within⟩ := t.isDate
  obtain ⟨-, last⟩ := Calendar.month_of_daysIn_pos (Nat.lt_of_lt_of_le positive within)
  generalize sent : size :: (LittleEndian.toBytes 2 t.year.toNat ++
    [t.month.toUInt8, t.day.toUInt8]) ++ rest = bs
  have year : wordAt bs 1 2 = t.year.toNat := by
    subst sent
    exact LittleEndian.ofBytes_toBytes (show t.year.toNat < Nat.pow 256 2 by
      show t.year.toNat < 65536
      omega)
  have month : byteAt bs 3 = t.month := by
    subst sent
    exact Text.Utf8.toNat_toUInt8 (by omega)
  have day : byteAt bs 4 = t.day := by
    subst sent
    exact Text.Utf8.toNat_toUInt8 (by omega)
  have whole : (t.year.toNat : Int) = t.year := Int.toNat_of_nonneg low
  simp only [dateWith, year, month, day, whole, if_pos t.isDate, sentBack]
  by_cases regular : t.IsRegular
  · have fields := DateTime.ofFields?_of_regular (DateTime.isRegular_toMicros.2 regular)
    simp only [DateTime.toMicros] at fields
    rw [fields, if_pos regular]
    rfl
  · have fields := DateTime.ofFields?_of_not_regular (mt DateTime.isRegular_toMicros.1 regular)
    simp only [DateTime.toMicros] at fields
    rw [fields, if_neg regular]

/-- The time of day is found behind the date, with the microseconds if they were sent. -/
theorem timeAt_sent_date (size y x m d : UInt8) {hour minute second : Nat} (hours : hour < 256)
    (minutes : minute < 256) (seconds : second < 256) (rest : List UInt8) :
    timeAt (size :: [y, x, m, d] ++ [hour.toUInt8, minute.toUInt8, second.toUInt8] ++ rest) 5 =
      ⟨hour, minute, second, LittleEndian.ofBytes (rest.take 4)⟩ := by
  have first := Text.Utf8.toNat_toUInt8 hours
  have next := Text.Utf8.toNat_toUInt8 minutes
  have last := Text.Utf8.toNat_toUInt8 seconds
  simp [timeAt, byteAt, wordAt, first, next, last]

/-- A date and time is read back to the microsecond, or refused. -/
theorem readBytes_dateTimeBytes {t : DateTime} (low : 0 ≤ t.year) (high : t.year ≤ 9999) :
    Form.dateTime.readBytes (dateTimeBytes t) = (sentBack t).map .dateTime := by
  obtain ⟨hour, minute, second, nano⟩ := t.isTime
  have fits : t.nano / 1000 < Nat.pow 256 4 := by
    show _ < 4294967296
    omega
  -- both forms with a time of day are read alike
  have timed (size : UInt8) (long : 4 < size.toNat) (rest : List UInt8)
      (micros : LittleEndian.ofBytes (rest.take 4) = t.nano / 1000) :
      Form.dateTime.readBytes
          (size :: (LittleEndian.toBytes 2 t.year.toNat ++ [t.month.toUInt8, t.day.toUInt8]) ++
            [t.hour.toUInt8, t.minute.toUInt8, t.second.toUInt8] ++ rest) =
        (sentBack t).map .dateTime := by
    have date := dateWith_sent low high size
      ([t.hour.toUInt8, t.minute.toUInt8, t.second.toUInt8] ++ rest)
    rw [← List.append_assoc] at date
    generalize sent : size :: (LittleEndian.toBytes 2 t.year.toNat ++
      [t.month.toUInt8, t.day.toUInt8]) ++ [t.hour.toUInt8, t.minute.toUInt8, t.second.toUInt8] ++
        rest = bs at date ⊢
    have time : timeAt bs 5 = ⟨t.hour, t.minute, t.second, t.nano / 1000⟩ := by
      rw [← micros, ← sent]
      exact timeAt_sent_date size _ _ t.month.toUInt8 t.day.toUInt8
        (Nat.lt_trans hour (by decide)) (Nat.lt_trans minute (by decide))
        (Nat.lt_trans second (by decide)) rest
    have head : byteAt bs 0 = size.toNat := by
      rw [← sent]
      rfl
    have some : ¬ size.toNat = 0 := by omega
    simp only [Form.readBytes, head, if_neg some, if_neg (Nat.not_le.2 long), time, date]
  unfold dateTimeBytes
  split
  · rename_i whole
    have none : t.nano / 1000 = 0 := by rw [whole]
    split
    · rename_i start
      have date := dateWith_sent low high 4 []
      rw [List.append_nil, none, start.1, start.2.1, start.2.2] at date
      exact congrArg (Except.map Value.dateTime) date
    · have date := timed 7 (by decide) [] (by rw [none]; rfl)
      rwa [List.append_nil] at date
  · have taken : (LittleEndian.toBytes 4 (t.nano / 1000)).take 4 =
        LittleEndian.toBytes 4 (t.nano / 1000) :=
      List.take_of_length_le (Nat.le_of_eq (LittleEndian.toBytes_length 4 _))
    exact timed 11 (by decide) _ (by rw [taken, LittleEndian.ofBytes_toBytes fits])

/-- A leap second inside a minute is refused as a time. -/
theorem readBytes_hidden {t : DateTime} (low : 0 ≤ t.year) (high : t.year ≤ 9999)
    (hidden : ¬ t.IsRegular) :
    Form.dateTime.readBytes (dateTimeBytes t) =
      .error (.time t.hour t.minute t.second (t.nano / 1000)) := by
  rw [readBytes_dateTimeBytes low high, sentBack, if_neg hidden]
  rfl

/-! ## Columns -/

/-- A value that was sent is read from a column as what it comes back as. -/
theorem read_bind {v w : Value} {name : String} (sendable : v.Sendable)
    (h : ComesBack v name w) : (Form.ofTypeName name).read (bind v).bytes = .ok w := by
  cases h with
  | null name => rfl
  | bool b => cases b <;> rfl
  | int32 n =>
    have number : LittleEndian.ofBytesSigned (LittleEndian.toBytes 4 n.toUInt32.toNat) = n.toInt :=
      @LittleEndian.ofBytesSigned_bits 4 n.toBitVec
    show Form.signed.readBytes (LittleEndian.toBytes 4 n.toUInt32.toNat) = _
    rw [Form.readBytes, number, Int64.ofInt_int32ToInt]
  | int64 n =>
    have number : LittleEndian.ofBytesSigned (LittleEndian.toBytes 8 n.toUInt64.toNat) = n.toInt :=
      @LittleEndian.ofBytesSigned_bits 8 n.toBitVec
    show Form.signed.readBytes (LittleEndian.toBytes 8 n.toUInt64.toNat) = _
    rw [Form.readBytes, number, Int64.ofInt_toInt]
  | uint64 n =>
    have number : LittleEndian.ofBytes (LittleEndian.toBytes 8 n.toNat) = n.toNat :=
      @LittleEndian.ofBytes_bits 8 n.toBitVec
    show Form.unsigned.readBytes (LittleEndian.toBytes 8 n.toNat) = _
    rw [Form.readBytes, number, UInt64.ofNat_toNat]
  | float32 x =>
    show Form.float.readBytes (LittleEndian.toBytes 4 x.bits.toNat) = _
    rw [Form.readBytes, @LittleEndian.ofBytes_bits 4 x.bits, BitVec.ofNat_toNat]
    rfl
  | float64 x =>
    show Form.double.readBytes (LittleEndian.toBytes 8 x.bits.toNat) = _
    rw [Form.readBytes, @LittleEndian.ofBytes_bits 8 x.bits, BitVec.ofNat_toNat]
    rfl
  | text s => exact congrArg Except.ok (lossyText_encode s)
  | bytes bs => rfl
  | dateTime regular =>
    refine (readBytes_dateTimeBytes sendable.1 sendable.2).trans ?_
    rw [sentBack, if_pos regular]
    rfl
  | jsonBytes j => rfl
  | jsonText j =>
    have read := lossyText_encode j.compact
    rw [Json.compact, String.toList_ofList] at read
    exact congrArg Except.ok read
  | json j => exact readJsonCell_encode sendable

theorem readCells_bound {vs ws : List Value} {columns : List Column} (i : Nat)
    (sendable : ∀ v ∈ vs, v.Sendable) (h : AllComeBack vs (columns.map Column.typeName) ws) :
    readCells i columns (vs.map fun v => (bind v).bytes) = .ok ws := by
  induction columns generalizing vs ws i with
  | nil =>
    cases h
    rfl
  | cons c columns ih =>
    cases h with
    | cons first rest =>
      obtain ⟨here, others⟩ := List.forall_mem_cons.1 sendable
      rw [List.map_cons, readCells, read_bind here first]
      simp only [ih (i + 1) others rest, Except.map]

/-- The first leap second inside a minute decides about the row. -/
theorem readCells_refused {front ws : List Value} {t : DateTime} {columns : List Column}
    {names others : List String} (back : List Value) (i : Nat) (sendable : ∀ v ∈ front, v.Sendable)
    (low : 0 ≤ t.year) (high : t.year ≤ 9999) (hidden : ¬ t.IsRegular)
    (h : AllComeBack front names ws)
    (typed : columns.map Column.typeName = names ++ "DATETIME" :: others) :
    readCells i columns ((front ++ .dateTime t :: back).map fun v => (bind v).bytes) =
      .error (.database (.column (i + front.length)
        (CellFault.time t.hour t.minute t.second (t.nano / 1000)).message)) := by
  induction front generalizing names ws columns i with
  | nil =>
    cases h
    cases columns with
    | nil => cases typed
    | cons c columns =>
      have name : c.typeName = "DATETIME" := (List.cons.inj typed).1
      have read : (Form.ofTypeName c.typeName).read (bind (.dateTime t)).bytes =
          .error (.time t.hour t.minute t.second (t.nano / 1000)) := by
        rw [name]
        exact readBytes_hidden low high hidden
      simp only [List.nil_append, List.map_cons, readCells, read, List.length_nil, Nat.add_zero]
  | cons v front ih =>
    cases h with
    | cons first rest =>
      cases columns with
      | nil => cases typed
      | cons c columns =>
        obtain ⟨here, others⟩ := List.forall_mem_cons.1 sendable
        obtain ⟨name, typed⟩ := List.cons.inj typed
        rw [List.cons_append, List.map_cons, readCells, name, read_bind here first]
        simp only [ih (i + 1) others rest typed, Except.map, List.length_cons]
        rw [Nat.add_right_comm, Nat.add_assoc]

theorem Form.ofTypeName_eq_json_iff {name : String} : ofTypeName name = .json ↔ name = "JSON" := by
  have choice {c : Prop} [Decidable c] {f g : Form} (here : f ≠ .json) (there : g ≠ .json) :
      (if c then f else g) ≠ .json := by
    split <;> assumption
  refine ⟨fun form => Decidable.byContradiction fun other => ?_, ?_⟩
  · rw [ofTypeName, if_neg other] at form
    revert form
    repeat' refine choice (by decide) ?_
    decide
  · rintro rfl
    rfl

/-- No other form gives JSON. -/
theorem Form.eq_json_of_readBytes {form : Form} {bs : List UInt8} {k : Json}
    (h : form.readBytes bs = .ok (.json k)) : form = .json := by
  have moments (x : Except CellFault DateTime) : x.map Value.dateTime ≠ .ok (.json k) := by
    cases x <;> rintro ⟨⟩
  cases form with
  | json => rfl
  | decimal =>
    simp only [readBytes, readDecimalCell] at h
    repeat' split at h
    all_goals cases h
  | dateTime | date =>
    simp only [readBytes] at h
    split at h
    · cases h
    · exact absurd h (moments _)
  | timestamp | time =>
    simp only [readBytes] at h
    split at h <;> cases h
  | _ => cases h

/-- JSON that was sent comes back as JSON exactly from columns of that type. -/
theorem read_json_iff {j k : Json} {name : String} (sendable : j.IsExact Json.maxLevels) :
    (Form.ofTypeName name).read (bind (.json j)).bytes = .ok (.json k) ↔
      name = "JSON" ∧ k = j := by
  have itself : (Form.ofTypeName "JSON").read (bind (.json j)).bytes = .ok (.json j) :=
    readJsonCell_encode sendable
  constructor
  · intro read
    obtain rfl : name = "JSON" := Form.ofTypeName_eq_json_iff.1 (Form.eq_json_of_readBytes read)
    exact ⟨rfl, Value.json.inj (Except.ok.inj (read.symm.trans itself))⟩
  · rintro ⟨rfl, rfl⟩
    exact itself

/-- What reaches a server of a statement, however it is sent. -/
theorem received_after {s : Server} (reachable : s.isReachable = true) (shape : Shape)
    (target : Target) (st : Statement) :
    (Database.after shape target st s).received =
      s.received ++ [.statement st.sql (st.params.map bind)] := by
  have sent : (s.send st).2.received =
      s.received ++ [.statement st.sql (st.params.map bind)] := by
    simp only [Server.send, Server.exchange, reachable, if_true]
    split <;> rfl
  cases shape with
  | one =>
    show (s.queryOne st).2.received = _
    rw [← sent, Server.queryOne]
    split <;> rename_i answered <;> rw [answered]
  | many =>
    show (s.queryMany target st).2.received = _
    rw [Server.state_queryMany, sent]
  | execute => exact sent

/-! ## Main statement -/

/-- For the values of a statement as many arguments reach the server, in the same order, each made
of its own value. A row with the bytes of these arguments, in columns that have the types of the
arguments, is read as the values that were sent, but for three kinds: an integer of 32 bits comes
back as one of 64, a date and time to the microsecond, and JSON as the bytes of its text, because it
is sent with a type of characters. If there are leap seconds inside a minute, the first of them
makes the row fail instead. From a column of text JSON comes back as its text, and it comes back as
itself exactly from a column of JSON. -/
theorem arguments_come_back {vs : List Value} (sendable : ∀ v ∈ vs, v.Sendable) :
    (∃ bound : List Argument,
      bound.length = vs.length ∧ (∀ i : Nat, bound[i]? = vs[i]?.map bind) ∧
      (∀ (s : Server), s.isReachable = true → ∀ shape target sql,
        (Database.after shape target ⟨sql, vs⟩ s).received =
          s.received ++ [.statement sql bound]) ∧
      ∀ (names : List String) (r : SentRow), r.cells = bound.map Argument.bytes →
        r.columns.map Column.typeName = bound.map Argument.typeName →
        ((∀ v ∈ vs, v.IsRegular) → readRow names r = .ok ⟨names, vs.map Value.returned⟩) ∧
        ∀ front t back, vs = front ++ .dateTime t :: back → (∀ v ∈ front, v.IsRegular) →
          ¬ t.IsRegular →
          readRow names r = .error (.database (.column front.length
            (CellFault.time t.hour t.minute t.second (t.nano / 1000)).message))) ∧
    (∀ (names : List String) (r : SentRow) (ws : List Value),
      r.cells = vs.map (fun v => (bind v).bytes) →
        AllComeBack vs (r.columns.map Column.typeName) ws →
        readRow names r = .ok ⟨names, ws⟩) ∧
    ∀ j, .json j ∈ vs → ∀ (name : String) (k : Json),
      (Form.ofTypeName name).read (bind (.json j)).bytes = .ok (.json k) ↔
        name = "JSON" ∧ k = j := by
  have read (names : List String) (r : SentRow) (ws : List Value)
      (cells : r.cells = vs.map fun v => (bind v).bytes)
      (typed : AllComeBack vs (r.columns.map Column.typeName) ws) :
      readRow names r = .ok ⟨names, ws⟩ := by
    rw [readRow, cells, readCells_bound 0 sendable typed]
    rfl
  refine ⟨⟨vs.map bind, List.length_map _, fun i => List.getElem?_map, fun s reachable shape target
    sql => received_after reachable shape target ⟨sql, vs⟩, fun names r cells typed => ?_⟩, read,
    fun j member name k => read_json_iff (sendable _ member)⟩
  rw [List.map_map] at cells typed
  refine ⟨fun regular => ?_, fun front t back split regular hidden => ?_⟩
  · exact read names r _ cells (typed ▸ allComeBack_returned regular)
  · subst split
    obtain ⟨before, moment, -⟩ : (∀ v ∈ front, v.Sendable) ∧ (Value.dateTime t).Sendable ∧
        ∀ v ∈ back, v.Sendable := by simpa [or_imp, forall_and] using sendable
    have named : r.columns.map Column.typeName =
        (front.map fun v => (bind v).typeName) ++ "DATETIME" ::
          back.map fun v => (bind v).typeName := by
      rw [typed, List.map_append, List.map_cons]
      rfl
    have refused := readCells_refused back 0 before moment.1 moment.2 hidden
      (allComeBack_returned regular) named
    rw [Nat.zero_add] at refused
    rw [readRow, cells]
    exact congrArg (Except.map (Row.mk names)) refused

/-- The last leap second of 2016, with all its nanoseconds. -/
def leapSecond : DateTime where
  year := 2016
  month := 12
  day := 31
  hour := 23
  minute := 59
  second := 59
  nano := 1999999999
  isDate := by decide
  isTime := by decide

/-- A value of every kind. -/
def everyKind : List Value :=
  [.null, .bool true, .int32 (-42), .int64 (-9223372036854775808), .uint64 18446744073709551615,
    .float32 ⟨BitVec.ofNat _ 0x3FC00000⟩, .float64 ⟨BitVec.ofNat _ 0x8000000000000000⟩,
    .text "é😀", .bytes [0, 255], .json (.object [("key", .text "value")]), .dateTime leapSecond]

/-- A row with everything that was sent, in columns like the arguments. -/
def echoed : SentRow where
  columns := everyKind.map fun v => (bind v).column "c"
  cells := everyKind.map fun v => (bind v).bytes

theorem arguments_come_back_everyKind :
    (∀ v ∈ everyKind, v.Sendable) ∧
      readRow ["c"] echoed = .ok ⟨["c"], [.null, .bool true, .int64 (-42),
        .int64 (-9223372036854775808), .uint64 18446744073709551615,
        .float32 ⟨BitVec.ofNat _ 0x3FC00000⟩, .float64 ⟨BitVec.ofNat _ 0x8000000000000000⟩,
        .text "é😀", .bytes [0, 255],
        .bytes (Text.Utf8.encode "\x7b\"key\":\"value\"\x7d".toList),
        .dateTime leapSecond.toMicros]⟩ := by
  have exact : Json.IsExact Json.maxLevels (.object [("key", .text "value")]) := by
    refine ⟨?_, ?_, by decide⟩ <;>
      simp [Json.Canonical, Json.CanonicalMembers, Json.IsIntegral, Json.IntegralMembers,
        NameMap.Increasing]
  have sendable : ∀ v ∈ everyKind, v.Sendable := by
    simp [everyKind, Value.Sendable, leapSecond, exact]
  have regular : ∀ v ∈ everyKind, v.IsRegular := by
    simp [everyKind, Value.IsRegular, leapSecond, DateTime.IsRegular, Calendar.LeapsAtEnd]
  have typed : AllComeBack everyKind (echoed.columns.map Column.typeName)
      (everyKind.map Value.returned) := by
    rw [echoed, List.map_map]
    exact allComeBack_returned regular
  exact ⟨sendable, (arguments_come_back sendable).2.1 ["c"] echoed _ rfl typed⟩

/-- JSON does not come back as JSON from the type that it is sent with, in whatever character set,
and a row with a leap second inside a minute is not read at all. -/
theorem json_comes_back_otherwise :
    (∀ (c : Column) (j k : Json), c.code = (bind (.json j)).code →
      (Form.ofTypeName c.typeName).read (bind (.json j)).bytes ≠ .ok (.json k)) ∧
    (¬ ∀ vs : List Value, (∀ v ∈ vs, v.Sendable) → ∀ (names : List String) (r : SentRow),
        r.cells = vs.map (fun v => (bind v).bytes) →
        r.columns.map Column.typeName = vs.map (fun v => (bind v).typeName) →
        readRow names r = .ok ⟨names, vs.map fun
          | .int32 n => .int64 n.toInt64
          | .dateTime t => .dateTime t.toMicros
          | v => v⟩) ∧
    (Value.dateTime .hiddenLeapSecond).Sendable ∧
      ∀ (names : List String) (r : SentRow),
        r.cells = [(bind (.dateTime .hiddenLeapSecond)).bytes] →
        r.columns.map Column.typeName = ["DATETIME"] → ∀ row, readRow names r ≠ .ok row := by
  have moment : (Value.dateTime .hiddenLeapSecond).Sendable := ⟨by decide, by decide⟩
  refine ⟨fun c j k code => ?_, fun claimed => ?_, moment, fun names r cells typed row => ?_⟩
  · have names : c.typeName = "BINARY" ∨ c.typeName = "ENUM" ∨ c.typeName = "CHAR" := by
      have sent : c.code = 254 := code
      rw [Column.typeName, sent]
      simp only
      split
      · exact .inl rfl
      · split
        · exact .inr (.inl rfl)
        · exact .inr (.inr rfl)
    obtain name | name | name := names <;> rw [name] <;> rintro ⟨⟩
  · have sendable : ∀ v ∈ [Value.json .null], v.Sendable := by
      simp only [List.mem_singleton, forall_eq]
      exact ⟨trivial, trivial, by decide⟩
    have same := claimed _ sendable ["j"] ⟨[⟨"j", 254, 0, 63, 0⟩], [some [110, 117, 108, 108]]⟩
      rfl rfl
    cases same
  · have hidden : ¬ DateTime.hiddenLeapSecond.IsRegular := by decide
    have refused := readCells_refused [] 0 (by simp) moment.1 moment.2 hidden .nil typed
    simp only [List.nil_append, List.map_cons, List.map_nil] at refused
    rw [readRow, cells, refused]
    rintro ⟨⟩

end Wire

end QueryLoom
