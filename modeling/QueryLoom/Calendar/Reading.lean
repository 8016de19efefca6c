import QueryLoom.Calendar.DateTime
import QueryLoom.Text.Blank

/-!
# Reading dates and times

A written date and time is read field by field; white space may stand before each number.

* `DateTime.readSpaced` : the form with white space between date and time;
* `DateTime.readStandard` : the form with a `T` between them.
-/

namespace QueryLoom.DateTime

/-- Why a text is no date and time. -/
inductive ReadFault where
  | invalid
  | tooShort
  | tooLong
  | outOfRange
  deriving DecidableEq, Repr

/-- The wording of a fault. -/
def ReadFault.message : ReadFault → String
  | .invalid => "input contains invalid characters"
  | .tooShort => "premature end of input"
  | .tooLong => "trailing input"
  | .outOfRange => "input is out of range"

/-! ## Fields -/

/-- At least one digit and at most `width` of them; without a width, as many as there are. A number
beyond 64 bits is out of range. -/
def number (width : Option Nat) (cs : List Char) : Except ReadFault (Nat × List Char) :=
  match cs with
  | [] => .error .tooShort
  | c :: _ =>
    if !c.isDigit then .error .invalid
    else
      let run := cs.takeWhile Char.isDigit
      let digits := match width with
        | some w => run.take w
        | none => run
      let n := Nat.ofDigitChars 10 digits 0
      if n < 9223372036854775808 then .ok (n, cs.drop digits.length) else .error .outOfRange

/-- A number of a range, after white space. -/
def field (lo hi : Nat) (cs : List Char) : Except ReadFault (Nat × List Char) := do
  let (n, rest) ← number (some 2) (Text.skipBlank cs)
  if lo ≤ n ∧ n ≤ hi then .ok (n, rest) else .error .outOfRange

/-- A year, after white space: four digits at most, or a sign and any number of digits. -/
def signedYear (cs : List Char) : Except ReadFault (Int × List Char) := do
  let cs := Text.skipBlank cs
  let negative : Bool := cs.head? = some '-'
  let signed := negative || cs.head? = some '+'
  let (n, rest) ← number (if signed then none else some 4) (if signed then cs.tail else cs)
  let y : Int := if negative then -n else n
  if -2147483648 ≤ y ∧ y ≤ 2147483647 then .ok (y, rest) else .error .outOfRange

/-- A character that must come next. -/
def literal (c : Char) : List Char → Except ReadFault (List Char)
  | [] => .error .tooShort
  | d :: rest => if d = c then .ok rest else .error .invalid

/-- The part of a second, if a point comes next: nanoseconds from the first nine digits; the others
are passed over. -/
def fraction : List Char → Except ReadFault (Nat × List Char)
  | [] => .ok (0, [])
  | c :: rest =>
    if c = '.' then do
      let (n, after) ← number (some 9) rest
      .ok (n * Nat.pow 10 (9 - (rest.length - after.length)), after.dropWhile Char.isDigit)
    else .ok (0, c :: rest)

/-! ## Whole texts -/

/-- The end of the text. -/
def finish (t : Option DateTime) (rest : List Char) : Except ReadFault DateTime :=
  match rest, t with
  | _ :: _, _ => .error .tooLong
  | [], some t => .ok t
  | [], none => .error .outOfRange

/-- Date, any white space or none, and time; no white space before the marks. -/
def readSpaced (cs : List Char) : Except ReadFault DateTime := do
  let (y, cs) ← signedYear cs
  let cs ← literal '-' cs
  let (mo, cs) ← field 1 12 cs
  let cs ← literal '-' cs
  let (d, cs) ← field 1 31 cs
  let (h, cs) ← field 0 23 (Text.skipBlank cs)
  let cs ← literal ':' cs
  let (mi, cs) ← field 0 59 cs
  let cs ← literal ':' cs
  let (s, cs) ← field 0 60 cs
  let (n, cs) ← fraction cs
  finish (ofWritten? y mo d h mi s n) cs

/-- Date, a `T`, and time; white space may stand before the marks and at the end. -/
def readStandard (cs : List Char) : Except ReadFault DateTime := do
  let (y, cs) ← signedYear cs
  let cs ← literal '-' (Text.skipBlank cs)
  let (mo, cs) ← field 1 12 cs
  let cs ← literal '-' (Text.skipBlank cs)
  let (d, cs) ← field 1 31 cs
  let cs ← literal 'T' (Text.skipBlank cs)
  let (h, cs) ← field 0 23 cs
  let cs ← literal ':' (Text.skipBlank cs)
  let (mi, cs) ← field 0 59 cs
  let cs ← literal ':' (Text.skipBlank cs)
  let (s, cs) ← field 0 60 cs
  let (n, cs) ← fraction cs
  finish (ofWritten? y mo d h mi s n) (Text.skipBlank cs)

end QueryLoom.DateTime
