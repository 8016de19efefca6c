import QueryLoom.Binary.Reading
import QueryLoom.Text.Numeral

/-!
# Decimal columns

Decimal numbers as a server writes them, read as the nearest binary number.

* `Wire.DecimalFault` : why a text is no decimal number; `Wire.readDecimal` : reads one.
-/

namespace QueryLoom.Wire

/-- Why a text is no decimal number. -/
inductive DecimalFault where
  | empty
  | noDigits
  | unknownCharacter
  | twoPoints
  /-- The whole part has more than 96 bits. -/
  | tooManyDigits
  /-- The exponent is no number. -/
  | badExponent
  deriving DecidableEq, Repr

def DecimalFault.message : DecimalFault → String
  | .empty => "Invalid decimal: empty"
  | .noDigits => "Invalid decimal: no digits found"
  | .unknownCharacter => "Invalid decimal: unknown character"
  | .twoPoints => "Invalid decimal: two decimal points"
  | .tooManyDigits => "Invalid decimal: overflow from too many digits"
  | .badExponent => "Failed to parse"

/-- What is left of a decimal number: its digits as one number, and how many of them stand behind
the point. The first offending character decides. -/
def readPlaces : (digits places : Nat) → List Char → Except DecimalFault (Nat × Nat)
  | digits, places, [] => .ok (digits, places)
  | digits, places, c :: cs =>
    if c.isDigit then readPlaces (10 * digits + Text.digitValue c) (places + 1) cs
    else if c = '.' then .error .twoPoints
    else .error .unknownCharacter

/-- The digits of a decimal number before and behind the point. -/
def readWhole : (digits : Nat) → List Char → Except DecimalFault (Nat × Nat)
  | digits, [] => .ok (digits, 0)
  | digits, c :: cs =>
    if c.isDigit then
      let next := 10 * digits + Text.digitValue c
      if next < 2 ^ 96 then readWhole next cs else .error .tooManyDigits
    else if c = '.' then readPlaces digits 0 cs
    else .error .unknownCharacter

/-- A decimal number without exponent: whether it is negative, its digits as one number, and how
many of them stand behind the point. -/
def readPlain (cs : List Char) : Except DecimalFault (Bool × Nat × Nat) :=
  let digits (negative : Bool) (cs : List Char) : Except DecimalFault (Bool × Nat × Nat) :=
    match readWhole 0 cs with
    | .error fault => .error fault
    | .ok n => if cs.any Char.isDigit then .ok (negative, n) else .error .noDigits
  match cs with
  | [] => .error .empty
  | c :: cs =>
    if c = '-' then digits true cs else if c = '+' then digits false cs else digits false (c :: cs)

def isExponentMark (c : Char) : Bool := c == 'e' || c == 'E'

def readExponent (cs : List Char) : Except DecimalFault Int :=
  let magnitude (cs : List Char) : Except DecimalFault Int :=
    match Text.IntRange.uint32.read cs with
    | .ok n => .ok n
    | .error _ => .error .badExponent
  match cs with
  | c :: rest =>
    if c = '-' then (magnitude rest).map fun n => -n
    else if c = '+' then magnitude rest
    else magnitude cs
  | [] => .error .badExponent

/-- The binary number nearest to a decimal one; a zero has no sign. -/
def nearest (negative : Bool) (digits : Nat) (exponent : Int) : Binary64 :=
  Binary.ofDecimal .double (negative && digits != 0) digits exponent

def readDecimal (cs : List Char) : Except DecimalFault Binary64 :=
  let base := cs.takeWhile fun c => !isExponentMark c
  match readPlain base with
  | .error fault => .error fault
  | .ok (negative, digits, places) =>
    match cs.dropWhile fun c => !isExponentMark c with
    | [] => .ok (nearest negative digits (-places))
    | _ :: exponent =>
      (readExponent exponent).map fun e => nearest negative digits (e - places)

end QueryLoom.Wire
