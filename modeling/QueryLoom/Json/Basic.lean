import QueryLoom.Binary.Format
import QueryLoom.NameMap

/-!
# JSON values

* `Json` : the values; an object lists its members in the order of their names;
* `Json.Canonical` : what every reader and every operation here keeps: integers of 64 bits, finite
  fractions, and object members in strictly increasing order of their names;
* `Json.same` : equality, in which fractions are compared as numbers.
-/

namespace QueryLoom

/-- A JSON number: an integer, or a fraction in the 64-bit binary format. -/
inductive Json.Number where
  | int (n : Int)
  | float (x : Binary64)
  deriving DecidableEq, Repr

/-- A JSON value. -/
inductive Json where
  | null
  | bool (b : Bool)
  | number (n : Json.Number)
  | text (s : String)
  | array (items : List Json)
  | object (members : List (String × Json))
  deriving Repr

namespace Json

instance : Inhabited Json := ⟨.null⟩

/-! ## Decidable equality -/

mutual

/-- Structural equality as a test. -/
def beq : Json → Json → Bool
  | .null, .null => true
  | .bool a, .bool b => a == b
  | .number a, .number b => a == b
  | .text a, .text b => a == b
  | .array a, .array b => beqItems a b
  | .object a, .object b => beqMembers a b
  | _, _ => false

/-- Structural equality of item lists. -/
def beqItems : List Json → List Json → Bool
  | [], [] => true
  | a :: as, b :: bs => beq a b && beqItems as bs
  | _, _ => false

/-- Structural equality of member lists. -/
def beqMembers : List (String × Json) → List (String × Json) → Bool
  | [], [] => true
  | (k, a) :: as, (l, b) :: bs => k == l && beq a b && beqMembers as bs
  | _, _ => false

end

mutual

theorem beq_refl : ∀ j : Json, beq j j = true
  | .null => rfl
  | .bool b => by simp [beq]
  | .number n => by simp [beq]
  | .text s => by simp [beq]
  | .array items => by simp [beq, beqItems_refl items]
  | .object members => by simp [beq, beqMembers_refl members]

theorem beqItems_refl : ∀ js : List Json, beqItems js js = true
  | [] => rfl
  | j :: js => by simp [beqItems, beq_refl j, beqItems_refl js]

theorem beqMembers_refl : ∀ ms : List (String × Json), beqMembers ms ms = true
  | [] => rfl
  | (k, j) :: ms => by simp [beqMembers, beq_refl j, beqMembers_refl ms]

end

mutual

theorem eq_of_beq : ∀ {a b : Json}, beq a b = true → a = b
  | .null, b, h => by cases b <;> simp_all [beq]
  | .bool a, b, h => by cases b <;> simp_all [beq]
  | .number a, b, h => by cases b <;> simp_all [beq]
  | .text a, b, h => by cases b <;> simp_all [beq]
  | .array as, b, h => by
    cases b <;> simp only [beq, Bool.false_eq_true] at h
    rw [eq_of_beqItems h]
  | .object as, b, h => by
    cases b <;> simp only [beq, Bool.false_eq_true] at h
    rw [eq_of_beqMembers h]

theorem eq_of_beqItems : ∀ {as bs : List Json}, beqItems as bs = true → as = bs
  | [], bs, h => by cases bs <;> simp_all [beqItems]
  | a :: as, bs, h => by
    cases bs with
    | nil => simp [beqItems] at h
    | cons b bs =>
      simp only [beqItems, Bool.and_eq_true] at h
      rw [eq_of_beq h.1, eq_of_beqItems h.2]

theorem eq_of_beqMembers : ∀ {as bs : List (String × Json)}, beqMembers as bs = true → as = bs
  | [], bs, h => by cases bs <;> simp_all [beqMembers]
  | (k, a) :: as, bs, h => by
    cases bs with
    | nil => simp [beqMembers] at h
    | cons b bs =>
      simp only [beqMembers, Bool.and_eq_true, beq_iff_eq] at h
      obtain ⟨⟨hk, ha⟩, hs⟩ := h
      rw [hk, eq_of_beq ha, eq_of_beqMembers hs]

end

instance : DecidableEq Json := fun a b =>
  if h : beq a b = true then isTrue (eq_of_beq h)
  else isFalse fun e => h (e ▸ beq_refl a)

/-! ## Equality of what is meant -/

/-- Equality of numbers: an integer never equals a fraction, and fractions are equal as numbers. -/
def Number.same : Number → Number → Bool
  | .int a, .int b => a == b
  | .float a, .float b => Binary.same a b
  | _, _ => false

mutual

/-- Equality of values. -/
def same : Json → Json → Bool
  | .null, .null => true
  | .bool a, .bool b => a == b
  | .number a, .number b => a.same b
  | .text a, .text b => a == b
  | .array a, .array b => sameItems a b
  | .object a, .object b => sameMembers a b
  | _, _ => false

/-- Equality of item lists. -/
def sameItems : List Json → List Json → Bool
  | [], [] => true
  | a :: as, b :: bs => same a b && sameItems as bs
  | _, _ => false

/-- Equality of member lists. -/
def sameMembers : List (String × Json) → List (String × Json) → Bool
  | [], [] => true
  | (k, a) :: as, (l, b) :: bs => k == l && same a b && sameMembers as bs
  | _, _ => false

end

/-! ## Canonical values -/

mutual

/-- Integers of 64 bits, finite fractions, and strictly increasing names throughout. -/
def Canonical : Json → Prop
  | .number (.int n) => -9223372036854775808 ≤ n ∧ n ≤ 18446744073709551615
  | .number (.float x) => x.isFinite = true
  | .array items => CanonicalItems items
  | .object members => NameMap.Increasing members ∧ CanonicalMembers members
  | _ => True

/-- Every item is canonical. -/
def CanonicalItems : List Json → Prop
  | [] => True
  | j :: js => Canonical j ∧ CanonicalItems js

/-- The value of every member is canonical. -/
def CanonicalMembers : List (String × Json) → Prop
  | [] => True
  | (_, j) :: ms => Canonical j ∧ CanonicalMembers ms

end

mutual

/-- How deep arrays and objects are nested. -/
def depth : Json → Nat
  | .array items => depthItems items + 1
  | .object members => depthMembers members + 1
  | _ => 0

/-- The depth of the deepest item. -/
def depthItems : List Json → Nat
  | [] => 0
  | j :: js => max (depth j) (depthItems js)

/-- The depth of the deepest member. -/
def depthMembers : List (String × Json) → Nat
  | [] => 0
  | (_, j) :: ms => max (depth j) (depthMembers ms)

end

end Json

end QueryLoom
