import QueryLoom.Binary.Format
import QueryLoom.Text.Numeral

/-!
# Reading binary numbers from decimal text

* `ofDecimal` : the pattern nearest to a decimal;
* `read` : a whole text as a number, with the names of infinity and of no number;
* `scaledWord` : a 64-bit integer times a power of ten, each step rounded on its own.
-/

namespace QueryLoom.Binary

/-! ## Decimals -/

/-- The pattern nearest to `digits * 10 ^ e`. Far outside of every format's range the power need
not be computed. -/
def ofDecimal (f : Format) (negative : Bool) (digits : Nat) (e : Int) : Binary f :=
  if digits = 0 then zero f negative
  else
    let size := e + (Text.decimal digits).length
    if 400 < size then infinite f negative
    else if size < -400 then zero f negative
    else if 0 ≤ e then ofRatio f negative (digits * Nat.pow 10 e.toNat) 1
    else ofRatio f negative digits (Nat.pow 10 e.natAbs)

/-! ## Texts -/

/-- Why a text is no number. -/
inductive ReadFault where
  | empty
  | invalid
  deriving DecidableEq, Repr

/-- The wording of a fault. -/
def ReadFault.message : ReadFault → String
  | .empty => "cannot parse float from empty string"
  | .invalid => "invalid float literal"

/-- The exponent after its mark: an optional sign and digits to the end of the text. -/
def readExponent : List Char → Option Int
  | [] => none
  | c :: cs =>
    let digits := if c = '+' ∨ c = '-' then cs else c :: cs
    if digits.isEmpty || !digits.all Char.isDigit then none
    else
      let n : Int := Nat.ofDigitChars 10 digits 0
      some (if c = '-' then -n else n)

/-- A decimal without sign: digits with at most one point among them, at least one digit, and an
optional exponent. -/
def readDecimal (f : Format) (negative : Bool) (cs : List Char) : Option (Binary f) :=
  let (whole, rest) := Text.spanDigits cs
  let (places, rest) := match rest with
    | [] => ([], [])
    | c :: tail => if c = '.' then Text.spanDigits tail else ([], c :: tail)
  if whole.isEmpty && places.isEmpty then none
  else
    let value (e : Int) :=
      ofDecimal f negative (Nat.ofDigitChars 10 (whole ++ places) 0) (e - places.length)
    match rest with
    | [] => some (value 0)
    | c :: tail => if c = 'e' ∨ c = 'E' then (readExponent tail).map value else none

/-- The names that stand for no finite number, in any case. -/
def readName (f : Format) (negative : Bool) (cs : List Char) : Option (Binary f) :=
  let name := String.ofList (cs.map Char.toLower)
  if name = "inf" ∨ name = "infinity" then some (infinite f negative)
  else if name = "nan" then some (nan f negative)
  else none

/-- Reads a whole text: an optional sign, then a decimal or a name. -/
def read (f : Format) : List Char → Except ReadFault (Binary f)
  | [] => .error .empty
  | c :: cs =>
    let neg : Bool := c = '-'
    let body := if c = '+' ∨ c = '-' then cs else c :: cs
    match readDecimal f neg body with
    | some x => .ok x
    | none =>
      match readName f neg body with
      | some x => .ok x
      | none => .error .invalid

/-! ## Words scaled by a power of ten -/

/-- The pattern nearest to a power of ten. -/
def powerOfTen (f : Format) (n : Nat) : Binary f := ofDecimal f false 1 n

/-- Divides by `10 ^ 308`, at most so many times, and stops at zero. -/
def divideLargest : (times : Nat) → Binary64 → Binary64
  | 0, x => x
  | times + 1, x =>
    if x.isZero then x else divideLargest times (divPositive x (powerOfTen .double 308))

/-- A whole number times a power of ten: the number is rounded, then the power, then their product
or quotient. None if that is beyond the largest number. -/
def scaledWord (negative : Bool) (n : Nat) (e : Int) : Option Binary64 :=
  let x := ofRatio .double false n 1
  let signed (y : Binary64) : Binary64 := ⟨if negative then y.bits ||| (1 <<< 63) else y.bits⟩
  if 0 ≤ e then
    if e ≤ 308 then
      let y := mulPositive x (powerOfTen .double e.toNat)
      if y.isFinite then some (signed y) else none
    else if x.isZero then some (signed x)
    else none
  else
    let steps := (e.natAbs - 1) / 308
    let y := divideLargest steps x
    some (signed (divPositive y (powerOfTen .double (e.natAbs - 308 * steps))))

end QueryLoom.Binary
