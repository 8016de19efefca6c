/-!
# Binary floating point

The two interchange formats of IEEE 754 as bit patterns, with exact arithmetic on the numbers that
the patterns stand for.

* `Binary` : a bit pattern of a format; `Binary.number` is what it stands for;
* `Binary.ofRatio` : the pattern nearest to a quotient of whole numbers, a half going to the even
  neighbour;
* `Binary.same` : the equality of numbers, in which zeros of both signs are equal and a NaN
  differs from itself.
-/

namespace QueryLoom

/-! ## Formats -/

/-- The widths of the stored fraction and of the exponent field. -/
structure Binary.Format where
  fractionBits : Nat
  exponentBits : Nat
  deriving DecidableEq, Repr

namespace Binary.Format

/-- The 32-bit format. -/
@[reducible] def single : Format := ⟨23, 8⟩

/-- The 64-bit format. -/
@[reducible] def double : Format := ⟨52, 11⟩

/-- The number of bits of a pattern. -/
@[reducible] def width (f : Format) : Nat := f.fractionBits + f.exponentBits + 1

/-- The weight of a pattern's last bit, as a power of two, where numbers are smallest. -/
def leastExponent (f : Format) : Int :=
  2 - Nat.pow 2 (f.exponentBits - 1) - f.fractionBits

/-- The exponent field of infinities and NaNs. -/
def topField (f : Format) : Nat := Nat.pow 2 f.exponentBits - 1

/-- The pattern of positive infinity. -/
def infinity (f : Format) : Nat := f.topField * Nat.pow 2 f.fractionBits

end Binary.Format

/-- A bit pattern of a format. -/
structure Binary (f : Binary.Format) where
  bits : BitVec f.width
  deriving DecidableEq, Repr

/-- The 32-bit patterns. -/
abbrev Binary32 := Binary .single

/-- The 64-bit patterns. -/
abbrev Binary64 := Binary .double

namespace Binary

/-! ## What a pattern stands for -/

/-- A number of a binary format: `finite negative m e` is `m * 2 ^ e` or its opposite. -/
inductive Number where
  | nan
  | infinite (negative : Bool)
  | finite (negative : Bool) (m : Nat) (e : Int)
  deriving DecidableEq, Repr

variable {f g : Format}

/-- The sign bit. -/
def negative (x : Binary f) : Bool := x.bits.msb

/-- The exponent field. -/
def field (x : Binary f) : Nat :=
  x.bits.toNat / Nat.pow 2 f.fractionBits % Nat.pow 2 f.exponentBits

/-- The fraction field. -/
def fraction (x : Binary f) : Nat := x.bits.toNat % Nat.pow 2 f.fractionBits

/-- The number that a pattern stands for. -/
def number (x : Binary f) : Number :=
  if x.field = f.topField then
    if x.fraction = 0 then .infinite x.negative else .nan
  else if x.field = 0 then .finite x.negative x.fraction f.leastExponent
  else .finite x.negative (x.fraction + Nat.pow 2 f.fractionBits) (f.leastExponent + x.field - 1)

/-- Whether the pattern is a NaN. -/
def isNaN (x : Binary f) : Bool := x.field == f.topField && x.fraction != 0

/-- Whether the pattern stands for a number. -/
def isFinite (x : Binary f) : Bool := x.field != f.topField

/-- Whether the pattern is a zero of either sign. -/
def isZero (x : Binary f) : Bool := x.field == 0 && x.fraction == 0

/-- Equality of the numbers stood for. -/
def same (x y : Binary f) : Bool :=
  !x.isNaN && !y.isNaN && (x == y || (x.isZero && y.isZero))

/-! ## Rounding -/

/-- The whole number nearest to a quotient; of two, the even one. -/
def roundHalfEven (num den : Nat) : Nat :=
  let q := num / den
  let r := num % den
  if 2 * r < den then q
  else if den < 2 * r then q + 1
  else if q % 2 = 0 then q
  else q + 1

/-- A quotient divided by a power of two, as a quotient. -/
def scaleDown (num den : Nat) (e : Int) : Nat × Nat :=
  if 0 ≤ e then (num, den * Nat.pow 2 e.toNat) else (num * Nat.pow 2 e.natAbs, den)

/-- The pattern of the number `m * 2 ^ e`, where `m` has at most one bit more than the fraction
and, unless `e` is least, no bit less; past the largest number it is infinity. -/
def assemble (f : Format) (m : Nat) (e : Int) : Nat :=
  if m < Nat.pow 2 f.fractionBits then m
  else
    min f.infinity
      ((e - f.leastExponent + 1).toNat * Nat.pow 2 f.fractionBits +
        (m - Nat.pow 2 f.fractionBits))

/-- The pattern, without sign, of the number nearest to a quotient. -/
def nearest (f : Format) (num den : Nat) : Nat :=
  if num = 0 then 0
  else
    let guess : Int := (num.log2 : Int) - den.log2 - f.fractionBits - 1
    let low := max f.leastExponent guess
    let scaled := scaleDown num den low
    let e := if scaled.1 / scaled.2 < Nat.pow 2 (f.fractionBits + 1) then low else low + 1
    let scaled := scaleDown num den e
    assemble f (roundHalfEven scaled.1 scaled.2) e

/-- A pattern from its sign and its other bits. -/
def ofMagnitude (f : Format) (negative : Bool) (magnitude : Nat) : Binary f :=
  ⟨BitVec.ofNat f.width (magnitude + if negative then Nat.pow 2 (f.width - 1) else 0)⟩

/-- The pattern nearest to the quotient of two whole numbers, the second not zero. -/
def ofRatio (f : Format) (negative : Bool) (num den : Nat) : Binary f :=
  ofMagnitude f negative (nearest f num den)

/-- Zero of either sign. -/
def zero (f : Format) (negative : Bool) : Binary f := ofMagnitude f negative 0

/-- Infinity of either sign. -/
def infinite (f : Format) (negative : Bool) : Binary f := ofMagnitude f negative f.infinity

/-- The NaN whose fraction has only its first bit set. -/
def nan (f : Format) (negative : Bool) : Binary f :=
  ofMagnitude f negative (f.infinity + Nat.pow 2 (f.fractionBits - 1))

/-- The pattern nearest to an integer. -/
def ofInt (f : Format) (n : Int) : Binary f := ofRatio f (decide (n < 0)) n.natAbs 1

/-- `m * 2 ^ e` as a quotient. -/
def ratio (m : Nat) (e : Int) : Nat × Nat :=
  if 0 ≤ e then (m * Nat.pow 2 e.toNat, 1) else (m, Nat.pow 2 e.natAbs)

/-- The nearest pattern of another format; a NaN stays a NaN of the same sign. -/
def convert (g : Format) (x : Binary f) : Binary g :=
  match x.number with
  | .nan => nan g x.negative
  | .infinite neg => infinite g neg
  | .finite neg m e => let r := ratio m e; ofRatio g neg r.1 r.2

/-! ## Products and quotients -/

/-- The product of two numbers that are not negative, rounded once. -/
def mulPositive (x y : Binary f) : Binary f :=
  match x.number, y.number with
  | .finite _ m e, .finite _ n d => let r := ratio (m * n) (e + d); ofRatio f false r.1 r.2
  | .nan, _ | _, .nan => nan f false
  | _, _ => infinite f false

/-- The quotient of two numbers that are not negative, the second not zero, rounded once. -/
def divPositive (x y : Binary f) : Binary f :=
  match x.number, y.number with
  | .finite _ m e, .finite _ n d =>
    let r := ratio 1 (e - d)
    ofRatio f false (m * r.1) (n * r.2)
  | .nan, _ | _, .nan => nan f false
  | .infinite _, _ => infinite f false
  | _, .infinite _ => zero f false

/-! ## Laws -/

/-- A NaN is not even equal to itself. -/
theorem same_self (x : Binary f) : same x x = !x.isNaN := by
  cases h : x.isNaN <;> simp [same, h]

theorem same_comm (x y : Binary f) : same x y = same y x := by
  have equal : (x == y) = (y == x) := BEq.comm
  rw [same, same, equal, Bool.and_comm (!x.isNaN), Bool.and_comm x.isZero]

end Binary

end QueryLoom
