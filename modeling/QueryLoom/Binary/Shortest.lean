import QueryLoom.Binary.Format
import QueryLoom.Text.Numeral

/-!
# Shortest decimal digits

The decimal text of a binary number with the fewest digits that still read back as that number,
laid out in the style that a writer wants.

* `shortest` : the digits, and the power of ten of the first of them;
* `Tie` : which of two equally near decimals is taken;
* `Layout` : where a style leaves positional notation, and how it writes the rest.
-/

namespace QueryLoom.Binary

/-! ## The interval of a number -/

/-- What rounds to the number `m * 2 ^ e`: everything between the ends `lo` and `hi`, in units of a
quarter of `2 ^ e`; the ends belong to it when `m` is even. -/
structure Interval where
  lo : Nat
  value : Nat
  hi : Nat
  closed : Bool
  unit : Int

/-- The interval of a number that is not zero. Below a power of two the neighbour is half as
near. -/
def interval (f : Format) (m : Nat) (e : Int) : Interval where
  lo := if m = Nat.pow 2 f.fractionBits ∧ f.leastExponent < e then 4 * m - 1 else 4 * m - 2
  value := 4 * m
  hi := 4 * m + 2
  closed := m % 2 = 0
  unit := e - 2

/-- The whole numbers proportional to `x * 2 ^ unit` and `d * 10 ^ k`. -/
def scales (unit k : Int) (x d : Nat) : Nat × Nat :=
  (x * Nat.pow 2 unit.toNat * Nat.pow 10 (-k).toNat,
    d * Nat.pow 10 k.toNat * Nat.pow 2 (-unit).toNat)

/-- Whether `d * 10 ^ k` lies in the interval. -/
def Interval.contains (i : Interval) (k : Int) (d : Nat) : Bool :=
  let low := scales i.unit k i.lo d
  let high := scales i.unit k i.hi d
  if i.closed then low.1 ≤ low.2 && high.2 ≤ high.1 else low.1 < low.2 && high.2 < high.1

/-- The largest `d` with `d * 10 ^ k` not above the value. -/
def Interval.below (i : Interval) (k : Int) : Nat :=
  let s := scales i.unit k i.value 1
  s.1 / s.2

/-- Which of two decimals is taken for a value halfway between them. -/
inductive Tie where
  /-- The one with the even last digit. -/
  | toEven
  /-- The one farther from zero. -/
  | outward
  deriving DecidableEq, Repr

/-- Whether the larger decimal is taken, when the smaller one is `d` in the last place. -/
def Tie.takesNext (t : Tie) (d : Nat) : Bool :=
  match t with
  | .toEven => d % 2 == 1
  | .outward => true

/-- Whether the value is nearer to `(d + 1) * 10 ^ k` than to `d * 10 ^ k`, or halfway and the tie
goes there. -/
def Interval.prefersNext (i : Interval) (t : Tie) (k : Int) (d : Nat) : Bool :=
  let twice := scales i.unit k (2 * i.value) (2 * d + 1)
  twice.2 < twice.1 || (twice.1 == twice.2 && t.takesNext d)

/-! ## The fewest digits -/

/-- The decimal exponent of the first digit of a positive quotient. -/
def decimalExponent (num den : Nat) : Int :=
  if den ≤ num then ((Text.decimal (num / den)).length : Int) - 1
  else -((Text.decimal ((den - 1) / num)).length : Int)

/-- Looks for a decimal in the interval on the grid of steps `10 ^ k`, then on grids ten times
finer. Of two neighbours on a grid the nearer is taken. -/
def search (i : Interval) (t : Tie) : (grids : Nat) → (k : Int) → Nat × Int
  | 0, k => (i.below k, k)
  | grids + 1, k =>
    let d := i.below k
    match i.contains k d, i.contains k (d + 1) with
    | true, true => (if i.prefersNext t k d then d + 1 else d, k)
    | true, false => (d, k)
    | false, true => (d + 1, k)
    | false, false => search i t grids (k - 1)

/-- Without the zeros at the end. -/
def stripZeros (digits : List Char) : List Char :=
  (digits.reverse.dropWhile (· == '0')).reverse

/-- Decimal digits, the first standing for a multiple of ten to the `exponent`. -/
structure Digits where
  digits : List Char
  exponent : Int

/-- The fewest digits that round to the number `m * 2 ^ e`. -/
def shortest (f : Format) (t : Tie) (m : Nat) (e : Int) : Digits :=
  if m = 0 then ⟨['0'], 0⟩
  else
    let r := ratio m e
    let found := search (interval f m e) t 17 (decimalExponent r.1 r.2)
    let digits := Text.decimal found.1
    ⟨stripZeros digits, found.2 + digits.length - 1⟩

/-! ## Layouts -/

/-- A style of writing: the exponents between `lowest` and `beyond` are written positionally, a
missing bound bounds nothing; `wholeMark` keeps `.0` on whole numbers; `plus` signs the exponents
that are not negative; `tie` settles which of two equally near decimals is written. -/
structure Layout where
  lowest : Option Int
  beyond : Option Int
  wholeMark : Bool
  plus : Bool
  tie : Tie

namespace Layout

/-- Every number in full. -/
def plain : Layout where
  lowest := none
  beyond := none
  wholeMark := false
  plus := false
  tie := .outward

/-- JSON text of 64-bit numbers: positional from `0.00001` up to sixteen digits. -/
def json : Layout where
  lowest := some (-5)
  beyond := some 16
  wholeMark := true
  plus := true
  tie := .toEven

/-- JSON text of 32-bit numbers: positional from `0.000001` up to thirteen digits. -/
def jsonSingle : Layout := { json with lowest := some (-6), beyond := some 13 }

/-- Log lines: positional from `0.0001` up to sixteen digits. -/
def log : Layout where
  lowest := some (-4)
  beyond := some 16
  wholeMark := true
  plus := false
  tie := .outward

/-- Whether numbers of a decimal exponent are written positionally. -/
def isPositional (l : Layout) (exponent : Int) : Bool :=
  (match l.lowest with | none => true | some low => low ≤ exponent) &&
    (match l.beyond with | none => true | some high => exponent < high)

/-- Positional notation. -/
def positional (l : Layout) (d : Digits) : List Char :=
  if d.exponent < 0 then
    ['0', '.'] ++ List.replicate (d.exponent.natAbs - 1) '0' ++ d.digits
  else
    let whole := d.exponent.toNat + 1
    if d.digits.length ≤ whole then
      d.digits ++ List.replicate (whole - d.digits.length) '0' ++
        if l.wholeMark then ['.', '0'] else []
    else d.digits.take whole ++ '.' :: d.digits.drop whole

/-- Scientific notation. -/
def scientific (l : Layout) (d : Digits) : List Char :=
  let mantissa := match d.digits with
    | [] => []
    | [c] => [c]
    | c :: rest => c :: '.' :: rest
  mantissa ++ 'e' :: ((if l.plus ∧ 0 ≤ d.exponent then ['+'] else []) ++ Text.decimalInt d.exponent)

/-- Digits in the notation that their exponent asks for. -/
def write (l : Layout) (d : Digits) : List Char :=
  if l.isPositional d.exponent then l.positional d else l.scientific d

end Layout

/-- The text of a pattern in a style. -/
def text {f : Format} (l : Layout) (x : Binary f) : List Char :=
  match x.number with
  | .nan => ['N', 'a', 'N']
  | .infinite neg => (if neg then ['-'] else []) ++ ['i', 'n', 'f']
  | .finite neg m e => (if neg then ['-'] else []) ++ l.write (shortest f l.tie m e)

end QueryLoom.Binary
