import QueryLoom.Value.Basic

/-!
# Values as plain JSON

* `Value.toJson` : the JSON value that stands for a value, without its kind;
* `Value.canonical_toJson` : it is canonical whenever the JSON inside the value is.
-/

namespace QueryLoom.Value

/-- A floating-point number as JSON, widened to 64 bits; what is no finite number becomes null. -/
def floatToJson {f : Binary.Format} (x : Binary f) : Json :=
  let wide := x.convert .double
  if wide.isFinite then .number (.float wide) else .null

/-- The JSON value that stands for a value: bytes as an array of numbers, a date and time as its
written form. -/
def toJson : Value → Json
  | .null => .null
  | .bool b => .bool b
  | .int32 n => .number (.int n.toInt)
  | .int64 n => .number (.int n.toInt)
  | .uint64 n => .number (.int n.toNat)
  | .float32 x => floatToJson x
  | .float64 x => if x.isFinite then .number (.float x) else .null
  | .text s => .text s
  | .bytes bs => .array (bs.map fun b => .number (.int b.toNat))
  | .json j => j
  | .dateTime t => .text (String.ofList t.text)

theorem canonicalItems_bytes (bs : List UInt8) :
    Json.CanonicalItems (bs.map fun b => .number (.int b.toNat)) := by
  induction bs with
  | nil => simp [Json.CanonicalItems]
  | cons b bs ih =>
    have := b.toNat_lt
    simp only [List.map_cons, Json.CanonicalItems, Json.Canonical]
    exact ⟨by omega, ih⟩

/-- The JSON of a value is canonical whenever the JSON inside the value is. -/
theorem canonical_toJson (v : Value) (h : ∀ j, v = .json j → j.Canonical) :
    v.toJson.Canonical := by
  cases v with
  | null | bool _ | text _ | dateTime _ => simp [toJson, Json.Canonical]
  | int32 n =>
    have lo := n.le_toInt
    have hi := n.toInt_lt
    simp only [toJson, Json.Canonical]
    omega
  | int64 n =>
    have lo := n.le_toInt
    have hi := n.toInt_lt
    simp only [toJson, Json.Canonical]
    omega
  | uint64 n =>
    have := n.toNat_lt
    simp only [toJson, Json.Canonical]
    omega
  | float32 x =>
    simp only [toJson, floatToJson]
    split <;> simp_all [Json.Canonical]
  | float64 x =>
    simp only [toJson]
    split <;> simp_all [Json.Canonical]
  | bytes bs => simpa [toJson, Json.Canonical] using canonicalItems_bytes bs
  | json j => exact h j rfl

end QueryLoom.Value
