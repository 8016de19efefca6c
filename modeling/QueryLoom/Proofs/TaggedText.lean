import QueryLoom.Proofs.Dates
import QueryLoom.Proofs.JsonText
import QueryLoom.Value.Tagged

/-!
# Tagged text is read back

A value without floating-point numbers is read back from its tagged text, as the same value of the
same kind: 64-bit extremes, texts that had to be escaped, bytes, dates of any year, nested JSON.
Only a leap second inside a minute is read as another moment, the second behind it.

* `reads_payload` : what a tag announces, one case for each kind of value;
* `parseTagged_tagged` : the whole text;
* `tagged_leap_second` : a value that is read back as another one.
-/

namespace QueryLoom.Value

/-- Without floating-point numbers, and with JSON that leaves a level for the object of the tag. -/
def IsExact : Value → Prop
  | .float32 _ | .float64 _ => False
  | .json j => j.Canonical ∧ j.IsIntegral ∧ j.depth + 1 ≤ Json.maxLevels
  | _ => True

/-! ## What a tag announces -/

theorem reads_readBool (b : Bool) : Json.Reads Json.readBool (payload (.bool b)) b := by
  intro rest _
  cases b <;> rfl

theorem reads_readString (s : String) : Json.Reads Json.readString (Json.renderText s) s :=
  fun rest _ => Json.readString_renderText s rest

theorem reads_readDateTimeText (t : DateTime) :
    Json.Reads readDateTimeText (payload (.dateTime t)) t.regular := by
  intro rest _
  simp only [readDateTimeText, payload, bind, Except.bind, Json.readString_renderText,
    String.toList_ofList, DateTime.readStandard_text]

/-- Bytes are written as their numbers. -/
theorem reads_readArray_bytes (bs : List UInt8) :
    Json.Reads (Json.readArray (Json.readInt .uint8)) (payload (.bytes bs))
      (bs.map fun b => (b.toNat : Int)) := by
  have each : ∀ n ∈ bs.map fun b => (b.toNat : Int),
      Json.Reads (Json.readInt .uint8) (Text.decimalInt n) n ∧
        Json.StartsItem (Text.decimalInt n) := by
    intro n member
    obtain ⟨b, -, rfl⟩ := List.mem_map.1 member
    exact ⟨Json.reads_readInt (by decide) (Text.IntRange.uint8_contains b),
      Json.startsItem_decimalInt _⟩
  have texts : (bs.map fun b => (b.toNat : Int)).map Text.decimalInt =
      bs.map fun b => Text.decimal b.toNat := by
    simp [Text.decimalInt_natCast]
  have read := Json.reads_readArray each
  rwa [texts] at read

/-- The reader of a value's tag reads its payload. -/
theorem reads_payload {v : Value} (h : v.IsExact) :
    ∃ read, payloadReader v.tag = some read ∧ Json.Reads read v.payload v.regular := by
  cases v with
  | null =>
    rw [tag, payloadReader]
    exact ⟨_, rfl, fun rest _ => rfl⟩
  | bool b =>
    rw [tag, payloadReader]
    exact ⟨_, rfl, (reads_readBool b).map Value.bool⟩
  | int32 n =>
    have number := Json.reads_readInt (by decide) (Text.IntRange.int32_contains n)
    have read := number.map fun n => Value.int32 (Int32.ofInt n)
    rw [Int32.ofInt_toInt] at read
    rw [tag, payloadReader]
    exact ⟨_, rfl, read⟩
  | int64 n =>
    have number := Json.reads_readInt (by decide) (Text.IntRange.int64_contains n)
    have read := number.map fun n => Value.int64 (Int64.ofInt n)
    rw [Int64.ofInt_toInt] at read
    rw [tag, payloadReader]
    exact ⟨_, rfl, read⟩
  | uint64 n =>
    have number := Json.reads_readInt (by decide) (Text.IntRange.uint64_contains n)
    have read := number.map fun n => Value.uint64 (UInt64.ofNat n.toNat)
    rw [Text.decimalInt_natCast, Int.toNat_natCast, UInt64.ofNat_toNat] at read
    rw [tag, payloadReader]
    exact ⟨_, rfl, read⟩
  | float32 x => exact h.elim
  | float64 x => exact h.elim
  | text s =>
    rw [tag, payloadReader]
    exact ⟨_, rfl, (reads_readString s).map Value.text⟩
  | bytes bs =>
    have read := (reads_readArray_bytes bs).map fun ns =>
      Value.bytes (ns.map fun n => n.toNat.toUInt8)
    have same : (bs.map fun b => (b.toNat : Int)).map (fun n => n.toNat.toUInt8) = bs := by
      simp [Function.comp_def]
    rw [same] at read
    rw [tag, payloadReader]
    exact ⟨_, rfl, read⟩
  | json j =>
    obtain ⟨canonical, integral, deep⟩ := h
    have kept : j.IsExact (Json.maxLevels - 1) := ⟨canonical, integral, by omega⟩
    rw [tag, payloadReader]
    exact ⟨_, rfl, (Json.reads_render kept).map Value.json⟩
  | dateTime t =>
    rw [tag, payloadReader]
    exact ⟨_, rfl, (reads_readDateTimeText t).map Value.dateTime⟩

/-! ## The whole text -/

theorem tagged_of_not_null {v : Value} (h : v.isNull = false) :
    v.tagged = '\x7b' :: Json.renderText v.tag ++ ':' :: v.payload ++ ['\x7d'] := by
  cases v with
  | null => cases h
  | _ => rfl

theorem reads_tagged_null : Json.Reads readTagged (tagged .null) .null := by
  intro rest _
  rw [tagged, Json.renderText_append, readTagged, Json.atValue_cons _ rfl, if_neg (by decide),
    if_pos rfl]
  simp only [readTagAlone, bind, Except.bind, Json.readText_escaped, tag, if_true]

theorem reads_tagged {v : Value} (h : v.IsExact) : Json.Reads readTagged v.tagged v.regular := by
  cases null : v.isNull with
  | true =>
    have same : v = .null := by cases v <;> first | rfl | cases null
    rw [same]
    exact reads_tagged_null
  | false =>
    intro rest _
    obtain ⟨read, known, reads⟩ := reads_payload h
    have colon (cs : List Char) : Json.readColon (':' :: cs) = .ok cs := rfl
    have ends : Json.EndsNumber ('\x7d' :: rest) := Json.endsNumber_cons (.inr (.inr rfl)) rest
    rw [tagged_of_not_null null]
    simp only [List.cons_append, List.append_assoc, List.nil_append]
    rw [readTagged, Json.atValue_cons _ rfl, if_pos rfl]
    simp only [readTaggedObject, bind, Except.bind, Json.readString_renderText, known, colon,
      reads _ ends, Json.skipSpace_cons (show Json.isSpace '\x7d' = false from rfl), if_true]

theorem parseTagged_of_isExact {v : Value} (h : v.IsExact) :
    parseTagged (String.ofList v.tagged) = .ok v.regular := by
  rw [parseTagged, String.toList_ofList]
  exact Json.readWhole_of_reads (reads_tagged h)

/-- A value without floating-point numbers is read back from its tagged text: the same value, unless
it is a leap second inside a minute, and then the second behind it. -/
theorem parseTagged_tagged {v : Value} (h : v.IsExact) :
    parseTagged (String.ofList v.tagged) = .ok v.regular ∧
      (v.IsRegular → parseTagged (String.ofList v.tagged) = .ok v) := by
  have read := parseTagged_of_isExact h
  exact ⟨read, fun plain => by rw [read, regular_of_isRegular plain]⟩

/-- JSON of several levels with integers at both ends of 64 bits, an empty name, and characters that
have to be escaped. -/
def nestedExtremes : Value :=
  .json (.object [("", .array [.number (.int (-9223372036854775808)),
    .number (.int 18446744073709551615), .object [("\x00\"é", .text "\\\x1f\x7f\n")]])])

theorem parseTagged_tagged_nestedExtremes :
    nestedExtremes.IsExact ∧
      parseTagged (String.ofList nestedExtremes.tagged) = .ok nestedExtremes := by
  have kept : nestedExtremes.IsExact := by
    refine ⟨?_, ?_, by decide⟩ <;>
      simp [Json.Canonical, Json.CanonicalItems, Json.CanonicalMembers, Json.IsIntegral,
        Json.IntegralItems, Json.IntegralMembers, NameMap.Increasing]
  exact ⟨kept, (parseTagged_tagged kept).2 trivial⟩

/-- Not every moment comes back: this one is written as a time in the second behind its own. -/
theorem tagged_leap_second :
    ¬ ∀ v : Value, v.IsExact → parseTagged (String.ofList v.tagged) = .ok v := by
  intro exact
  have moment : IsExact (.dateTime DateTime.hiddenLeapSecond) := trivial
  have kept := exact _ moment
  rw [parseTagged_of_isExact moment] at kept
  exact DateTime.regular_hiddenLeapSecond (Value.dateTime.inj (Except.ok.inj kept))

example : tagged (.json (.array [.number (.int (-1)), .text "\x00\""])) =
    "\x7b\"Json\":[-1,\"\\u0000\\\"\"]\x7d".toList := by decide +kernel

end QueryLoom.Value
