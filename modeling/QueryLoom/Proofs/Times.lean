import QueryLoom.Proofs.Integers
import QueryLoom.Wire.Cell

/-!
# Times in columns

Servers keep times of up to 839 hours and send them as a number of days with a time of day. A column
shows the time of day alone, since the days are not read.

* `Text.SpellsTime` : the texts that spell times, and `Text.SpellsTime.unique`;
* `Wire.ServerTime` : the times that a server keeps, and `Wire.ServerTime.SentAs` their bytes;
* `Wire.readBytes_time` : the text of a time;
* `Wire.times_within_day` : which times are told from their texts.
-/

namespace QueryLoom

/-! ## Texts of times -/

namespace Text

/-- The microseconds that the part of a second spells: nothing, or digits behind a point. -/
inductive SpellsFraction : List Char → Nat → Prop
  | whole : SpellsFraction [] 0
  | digits {ds : List Char} {micros : Nat} (h : IsDigits ds)
      (scaled : Nat.ofDigitChars 10 ds 0 * 1000000 = micros * Nat.pow 10 ds.length) :
      SpellsFraction ('.' :: ds) micros

/-- The microseconds that texts spell: as many hours as there are, minutes and seconds of two
digits, and the part of a second. -/
inductive SpellsTime : List Char → Nat → Prop
  | fields {hs fs : List Char} {minute second micros : Nat} (hours : IsDigits hs)
      (minutes : minute < 60) (seconds : second < 60) (fraction : SpellsFraction fs micros) :
      SpellsTime (hs ++ ':' :: padded 2 minute ++ ':' :: padded 2 second ++ fs)
        (((Nat.ofDigitChars 10 hs 0 * 60 + minute) * 60 + second) * 1000000 + micros)

theorem SpellsFraction.unique {cs : List Char} {m n : Nat} (h : SpellsFraction cs m)
    (k : SpellsFraction cs n) : m = n := by
  cases h with
  | whole => cases k; rfl
  | digits _ scaled =>
    cases k with
    | digits _ also =>
      exact Nat.eq_of_mul_eq_mul_right (Nat.pow_pos (by decide)) (scaled.symm.trans also)

/-- Digits end at a colon. -/
theorem IsDigits.colon_inj {ds es rest tail : List Char} (h : IsDigits ds) (k : IsDigits es)
    (same : ds ++ ':' :: rest = es ++ ':' :: tail) : ds = es ∧ rest = tail := by
  have stops (cs : List Char) : StopsDigits (':' :: cs) := stopsDigits_cons (by decide) cs
  have split := congrArg spanDigits same
  rw [spanDigits_append h.digits (stops rest), spanDigits_append k.digits (stops tail)] at split
  simpa using split

/-- Fields of one width end at the same place. -/
theorem padded_append_inj {width m n : Nat} {rest tail : List Char} (positive : 0 < width)
    (hm : m < Nat.pow 10 width) (hn : n < Nat.pow 10 width)
    (same : padded width m ++ rest = padded width n ++ tail) : m = n ∧ rest = tail := by
  have lengths : (padded width m).length = (padded width n).length := by
    rw [length_padded positive hm, length_padded positive hn]
  obtain ⟨number, rest⟩ := List.append_inj same lengths
  refine ⟨?_, rest⟩
  rw [← ofDigitChars_padded width m, number, ofDigitChars_padded]

/-- A text spells one time at most. -/
theorem SpellsTime.unique {cs : List Char} {m n : Nat} (h : SpellsTime cs m)
    (k : SpellsTime cs n) : m = n := by
  cases h with
  | @fields hs fs minute second micros hours minutes seconds fraction =>
    generalize spelled : hs ++ ':' :: padded 2 minute ++ ':' :: padded 2 second ++ fs = cs at k
    cases k with
    | fields hours' minutes' seconds' fraction' =>
      have two {k : Nat} (small : k < 60) : k < Nat.pow 10 2 :=
        Nat.lt_of_lt_of_le small (by decide)
      simp only [List.append_assoc, List.cons_append] at spelled
      obtain ⟨rfl, behind⟩ := hours.colon_inj hours' spelled
      obtain ⟨rfl, colon⟩ := padded_append_inj Nat.two_pos (two minutes) (two minutes') behind
      obtain ⟨rfl, rfl⟩ := padded_append_inj Nat.two_pos (two seconds) (two seconds')
        (List.cons.inj colon).2
      rw [fraction.unique fraction']

/-- The part of a second that is written spells its microseconds. -/
theorem spellsFraction_fractionText {micros : Nat} (h : micros < 1000000) :
    SpellsFraction (DateTime.fractionText (micros * 1000)) micros := by
  have padded {width k : Nat} (positive : 0 < width) (small : k < Nat.pow 10 width)
      (scaled : k * 1000000 = micros * Nat.pow 10 width) :
      SpellsFraction ('.' :: padded width k) micros := by
    refine .digits ⟨padded_ne_nil width k, fun c => isDigit_of_mem_padded⟩ ?_
    rw [ofDigitChars_padded, length_padded positive small, scaled]
  unfold DateTime.fractionText
  split
  · obtain rfl : micros = 0 := by omega
    exact .whole
  · split
    · have small : micros * 1000 / 1000000 < Nat.pow 10 3 := by
        show _ < 1000
        omega
      have scaled : micros * 1000 / 1000000 * 1000000 = micros * Nat.pow 10 3 := by
        show _ = micros * 1000
        omega
      exact padded (by decide) small scaled
    · have thousands : micros * 1000 % 1000 = 0 := Nat.mul_mod_left ..
      have small : micros * 1000 / 1000 < Nat.pow 10 6 := by
        show _ < 1000000
        omega
      have scaled : micros * 1000 / 1000 * 1000000 = micros * Nat.pow 10 6 := by
        show _ = micros * 1000000
        omega
      rw [if_pos thousands]
      exact padded (by decide) small scaled

end Text

/-! ## Times of servers -/

namespace Wire

/-- The time of day after some microseconds. -/
def SentTime.ofMicros (n : Nat) : SentTime where
  hour := n / 3600000000
  minute := n / 60000000 % 60
  second := n / 1000000 % 60
  micros := n % 1000000

/-- A time that a server keeps and that is not negative, in microseconds. The longest one is
838:59:59.999999. -/
structure ServerTime where
  micros : Nat
  bounded : micros < 839 * 3600000000
  deriving DecidableEq, Repr

namespace ServerTime

/-- The whole days of a time. -/
def days (t : ServerTime) : Nat := t.micros / 86400000000

/-- The microseconds of a time beyond its whole days. -/
def sinceMidnight (t : ServerTime) : Nat := t.micros % 86400000000

/-- A time to the second: a sign that is not set, the days, and the time of day. -/
def toSecond (t : ServerTime) : List UInt8 :=
  let time := SentTime.ofMicros t.sinceMidnight
  0 :: LittleEndian.toBytes 4 t.days ++ LittleEndian.toBytes 1 time.hour ++
    LittleEndian.toBytes 1 time.minute ++ LittleEndian.toBytes 1 time.second

/-- The bytes of a time behind the number of bytes. Microseconds may be left out when there are
none, and everything when the time is zero. -/
inductive SentAs (t : ServerTime) : List UInt8 → Prop
  | zero (nothing : t.micros = 0) : t.SentAs [0]
  | seconds (whole : t.micros % 1000000 = 0) : t.SentAs (8 :: t.toSecond)
  | micros : t.SentAs (12 :: t.toSecond ++ LittleEndian.toBytes 4 (t.micros % 1000000))

end ServerTime

/-! ## Reading times -/

/-- The text of a time of day. -/
def clockText (n : Nat) : List Char :=
  let time := SentTime.ofMicros n
  DateTime.timeText time.hour time.minute time.second ++
    DateTime.fractionText (time.micros * 1000)

/-- The time of day stands behind the days, whatever their number. -/
theorem timeAt_toSecond (t : ServerTime) (size : UInt8) (rest : List UInt8) :
    timeAt (size :: t.toSecond ++ rest) 6 =
      { SentTime.ofMicros t.sinceMidnight with micros := LittleEndian.ofBytes (rest.take 4) } := by
  have today : t.sinceMidnight < 86400000000 := Nat.mod_lt _ (by decide)
  simp [timeAt, byteAt, wordAt, ServerTime.toSecond, LittleEndian.toBytes, SentTime.ofMicros]
  omega

/-- The microseconds of the day have the part of a second of the whole time. -/
theorem ServerTime.sinceMidnight_mod (t : ServerTime) :
    t.sinceMidnight % 1000000 = t.micros % 1000000 := by
  rw [sinceMidnight]
  omega

/-- The days are not found, and everything else is. -/
theorem timeAt_sent {t : ServerTime} {bs : List UInt8} (sent : t.SentAs bs) :
    (if byteAt bs 0 = 0 then ⟨0, 0, 0, 0⟩ else timeAt bs 6) =
      SentTime.ofMicros t.sinceMidnight := by
  cases sent with
  | zero nothing =>
    have start : t.sinceMidnight = 0 := by rw [ServerTime.sinceMidnight, nothing]
    rw [start]
    rfl
  | seconds whole =>
    have long : ¬byteAt (8 :: t.toSecond) 0 = 0 := by simp [byteAt]
    have time := timeAt_toSecond t 8 []
    have part : 0 = t.sinceMidnight % 1000000 := by rw [t.sinceMidnight_mod, whole]
    rw [List.append_nil] at time
    rw [if_neg long, time]
    exact congrArg (SentTime.mk _ _ _) part
  | micros =>
    have long (rest : List UInt8) : ¬byteAt (12 :: t.toSecond ++ rest) 0 = 0 := by simp [byteAt]
    have fits : t.micros % 1000000 < Nat.pow 256 4 :=
      Nat.lt_trans (Nat.mod_lt _ (by decide)) (by decide)
    have part : LittleEndian.ofBytes ((LittleEndian.toBytes 4 (t.micros % 1000000)).take 4) =
        t.sinceMidnight % 1000000 := by
      rw [List.take_of_length_le (Nat.le_of_eq (LittleEndian.toBytes_length ..)),
        LittleEndian.ofBytes_toBytes fits, t.sinceMidnight_mod]
    rw [if_neg (long _), timeAt_toSecond]
    exact congrArg (SentTime.mk _ _ _) part

/-- Every time of day is shown. -/
theorem timeOfDay_ofMicros {n : Nat} (h : n < 86400000000) :
    timeOfDay (.ofMicros n) = some (clockText n) := by
  have short : n % 1000000 * 1000 < 1000000000 := by omega
  have valid : Calendar.IsTime (n / 3600000000) (n / 60000000 % 60) (n / 1000000 % 60)
      (n % 1000000 * 1000) := ⟨by omega, by omega, by omega, by omega⟩
  have second : Calendar.writtenSecond (n / 1000000 % 60) (n % 1000000 * 1000) =
      n / 1000000 % 60 := by
    rw [Calendar.writtenSecond, Nat.div_eq_of_lt short, Nat.add_zero]
  have part : Calendar.writtenNano (n % 1000000 * 1000) = n % 1000000 * 1000 :=
    Nat.mod_eq_of_lt short
  have calm : Calendar.LeapsAtEnd (n / 1000000 % 60) (n % 1000000 * 1000) := .inl short
  simp only [timeOfDay, clockText, SentTime.ofMicros, second, part]
  exact if_pos ⟨valid, calm⟩

/-- The text of a time of day spells it. -/
theorem spellsTime_clockText (n : Nat) : Text.SpellsTime (clockText n) n := by
  have hours : Text.IsDigits (Text.padded 2 (n / 3600000000)) :=
    ⟨Text.padded_ne_nil 2 _, fun c => Text.isDigit_of_mem_padded⟩
  have fraction : Text.SpellsFraction (DateTime.fractionText (n % 1000000 * 1000)) (n % 1000000) :=
    Text.spellsFraction_fractionText (Nat.mod_lt _ (by decide))
  have minutes : n / 60000000 % 60 < 60 := Nat.mod_lt _ (by decide)
  have seconds : n / 1000000 % 60 < 60 := Nat.mod_lt _ (by decide)
  have spelled := Text.SpellsTime.fields hours minutes seconds fraction
  have total : ((n / 3600000000 * 60 + n / 60000000 % 60) * 60 + n / 1000000 % 60) * 1000000 +
      n % 1000000 = n := by omega
  rwa [Text.ofDigitChars_padded, total] at spelled

/-- A column shows the time of day. -/
theorem readBytes_time {t : ServerTime} {bs : List UInt8} (sent : t.SentAs bs) :
    Form.readBytes bs .time = .ok (.text (String.ofList (clockText t.sinceMidnight))) := by
  have today : t.sinceMidnight < 86400000000 := Nat.mod_lt _ (by decide)
  simp only [Form.readBytes, timeAt_sent sent, timeOfDay_ofMicros today]

/-! ## Main statement -/

/-- In a column of times every time is shown, and its text spells what is left of it after whole
days of 86400000000 microseconds. So exactly the times of less than a day keep their values, and two
times look the same exactly if they are whole days apart. -/
theorem times_within_day (c : Column) (typed : c.code = 11) :
    (∀ (t : ServerTime) (bs : List UInt8), t.SentAs bs →
      ∃ s : String, (Form.ofTypeName c.typeName).read (some bs) = .ok (.text s) ∧
        (∀ n, Text.SpellsTime s.toList n ↔ n = t.micros % 86400000000) ∧
        (Text.SpellsTime s.toList t.micros ↔ t.micros < 86400000000)) ∧
    ∀ (t u : ServerTime) (bs cs : List UInt8), t.SentAs bs → u.SentAs cs →
      ((Form.ofTypeName c.typeName).read (some bs) = (Form.ofTypeName c.typeName).read (some cs) ↔
        t.micros % 86400000000 = u.micros % 86400000000) := by
  have name : c.typeName = "TIME" := by simp [Column.typeName, typed]
  have form : Form.ofTypeName c.typeName = .time := by rw [name]; rfl
  have spelled (t : ServerTime) (n : Nat) :
      Text.SpellsTime (clockText t.sinceMidnight) n ↔ n = t.micros % 86400000000 :=
    ⟨fun spells => spells.unique (spellsTime_clockText _),
      fun same => same ▸ spellsTime_clockText _⟩
  rw [form]
  refine ⟨fun t bs sent => ⟨_, readBytes_time sent, ?_, ?_⟩, fun t u bs cs sent also => ?_⟩
  · rw [String.toList_ofList]
    exact spelled t
  · rw [String.toList_ofList, spelled]
    omega
  · show Form.readBytes bs .time = Form.readBytes cs .time ↔ _
    rw [readBytes_time sent, readBytes_time also]
    constructor
    · intro same
      have texts : clockText t.sinceMidnight = clockText u.sinceMidnight :=
        String.ofList_injective (Value.text.inj (Except.ok.inj same))
      rw [← spelled u, ← texts]
      exact spellsTime_clockText _
    · intro same
      rw [ServerTime.sinceMidnight, same]
      rfl

/-- The longest time, and the time of day that is left of it. -/
example :
    Form.readBytes [12, 0, 34, 0, 0, 0, 22, 59, 59, 63, 66, 15, 0] .time =
      .ok (.text "22:59:59.999999") := rfl

/-- A column of times. -/
def timeColumn : Column where
  name := "t"
  code := 11
  flags := 128
  charset := 63
  length := 10

/-- Exactly a day. -/
def oneDay : ServerTime where
  micros := 86400000000
  bounded := by decide

theorem sentAs_oneDay : oneDay.SentAs [8, 0, 1, 0, 0, 0, 0, 0, 0] := .seconds rfl

theorem times_within_day_oneDay :
    timeColumn.code = 11 ∧ oneDay.SentAs [8, 0, 1, 0, 0, 0, 0, 0, 0] ∧
      ∃ s : String, (Form.ofTypeName timeColumn.typeName).read
          (some [8, 0, 1, 0, 0, 0, 0, 0, 0]) = .ok (.text s) ∧
        Text.SpellsTime s.toList 0 ∧ ¬Text.SpellsTime s.toList oneDay.micros := by
  obtain ⟨s, read, spells, keeps⟩ :=
    (times_within_day timeColumn rfl).1 oneDay _ sentAs_oneDay
  have whole : ¬oneDay.micros < 86400000000 := by decide
  exact ⟨rfl, sentAs_oneDay, s, read, (spells 0).2 rfl, fun kept => whole (keeps.1 kept)⟩

/-- A day is not shown as the time that it is. -/
theorem times_beyond_day :
    ¬ ∀ (c : Column), c.code = 11 → ∀ (t : ServerTime) (bs : List UInt8), t.SentAs bs →
      ∃ s : String, (Form.ofTypeName c.typeName).read (some bs) = .ok (.text s) ∧
        Text.SpellsTime s.toList t.micros := by
  intro keeps
  obtain ⟨s, read, spells⟩ := keeps timeColumn rfl oneDay _ sentAs_oneDay
  have shown : (Form.ofTypeName timeColumn.typeName).read
      (some [8, 0, 1, 0, 0, 0, 0, 0, 0]) = .ok (.text "00:00:00") := rfl
  obtain rfl : "00:00:00" = s := Value.text.inj (Except.ok.inj (shown.symm.trans read))
  have midnight : "00:00:00".toList = clockText 0 := by decide
  rw [midnight] at spells
  exact absurd (spells.unique (spellsTime_clockText 0)) (by decide)

end Wire

end QueryLoom
