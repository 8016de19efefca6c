import QueryLoom.Binary.Reading
import QueryLoom.Json.Basic
import QueryLoom.Text.Hex
import QueryLoom.Text.Utf8

/-!
# Reading JSON text

Readers take the unread text and give a value with what is left of it. They stop at the first
fault, so that of two faults in a text the earlier one is reported.

* `readValue` : any value, nested to a given depth;
* `nextItem`, `nextMember` : the steps of a reader that knows what it wants in an array or object;
* `mismatch` : what is wrong with a value that is not of the wanted kind;
* `skipValue` : passes over a value that nobody wants;
* `parse` : a whole text as one value.
-/

namespace QueryLoom.Json

/-! ## Faults -/

/-- What makes a text no JSON. -/
inductive Cause where
  | endInArray
  | endInObject
  | endInText
  | endInValue
  | noColon
  | noArrayEnd
  | noObjectEnd
  | badName
  | noValue
  | badEscape
  | badNumber
  | outOfRange
  | controlCharacter
  | noKey
  | loneSurrogate
  | endOfEscape
  | trailingComma
  | trailing
  | tooDeep
  deriving DecidableEq, Repr

/-- The wording of a cause. -/
def Cause.message : Cause → String
  | .endInArray => "EOF while parsing a list"
  | .endInObject => "EOF while parsing an object"
  | .endInText => "EOF while parsing a string"
  | .endInValue => "EOF while parsing a value"
  | .noColon => "expected `:`"
  | .noArrayEnd => "expected `,` or `]`"
  | .noObjectEnd => "expected `,` or `\x7d`"
  | .badName => "expected ident"
  | .noValue => "expected value"
  | .badEscape => "invalid escape"
  | .badNumber => "invalid number"
  | .outOfRange => "number out of range"
  | .controlCharacter => "control character (\\u0000-\\u001F) found while parsing a string"
  | .noKey => "key must be a string"
  | .loneSurrogate => "lone leading surrogate in hex escape"
  | .endOfEscape => "unexpected end of hex escape"
  | .trailingComma => "trailing comma"
  | .trailing => "trailing characters"
  | .tooDeep => "recursion limit exceeded"

/-- A fault: text that is no JSON, with the number of bytes after the place where that shows, or a
value of another kind than the wanted. -/
inductive Fault where
  | malformed (cause : Cause) (unread : Nat)
  | mismatched
  deriving DecidableEq, Repr

/-- The three classes of faults. -/
inductive Fault.Category where
  /-- The text is no JSON. -/
  | malformed
  /-- The text ends too early. -/
  | ended
  /-- The text is JSON for something else. -/
  | mismatched
  deriving DecidableEq, Repr

/-- The class of a fault. -/
def Fault.category : Fault → Fault.Category
  | .malformed .endInArray _ | .malformed .endInObject _ | .malformed .endInText _
  | .malformed .endInValue _ => .ended
  | .malformed _ _ => .malformed
  | .mismatched => .mismatched

/-- The line of a place in a text and the number of bytes before it on that line, given the bytes
up to that place. -/
def position (before : List UInt8) : Nat × Nat :=
  (before.count 10 + 1, (before.reverse.takeWhile (· != 10)).length)

/-- The wording of a fault in a text. -/
def Fault.message (text : List Char) : Fault → String
  | .malformed cause unread =>
    let bytes := Text.Utf8.encode text
    let place := position (bytes.take (bytes.length - unread))
    cause.message ++ " at line " ++ String.ofList (Text.decimal place.1) ++ " column " ++
      String.ofList (Text.decimal place.2)
  | .mismatched => "value of another kind"

/-- A reader: from the unread text to a value and what is left unread. -/
abbrev Reader (α : Type) := List Char → Except Fault (α × List Char)

/-- A fault that shows after so many bytes of the unread text. -/
def Fault.after (cause : Cause) (bytes : Nat) (rest : List Char) : Fault :=
  .malformed cause (Text.Utf8.size rest - bytes)

/-- A fault found after the last character that was read. -/
def fail {α : Type} (cause : Cause) (rest : List Char) : Except Fault α :=
  .error (.after cause 0 rest)

/-- A fault found in the next character, of which one byte suffices to show it. -/
def failNext {α : Type} (cause : Cause) (rest : List Char) : Except Fault α :=
  .error (.after cause 1 rest)

/-! ## Space and names -/

/-- The white space of JSON. -/
def isSpace (c : Char) : Bool := c == ' ' || c == '\n' || c == '\t' || c == '\x0d'

/-- The text after its leading white space. -/
def skipSpace (cs : List Char) : List Char := cs.dropWhile isSpace

/-- Reads the given characters. -/
def readName : (expected : List Char) → List Char → Except Fault (List Char)
  | [], cs => .ok cs
  | _ :: _, [] => fail .endInValue []
  | e :: es, c :: cs => if c = e then readName es cs else failNext .badName (c :: cs)

/-! ## Strings -/

/-- Four hexadecimal digits. A fault among them shows only after four bytes, which the text may not
have any more. -/
def readUnit (cs : List Char) : Except Fault Nat :=
  if Text.Utf8.size (cs.take 4) < 4 then fail .endInText []
  else
    match Text.Hex.nat? (cs.take 4) with
    | some n => .ok n
    | none => .error (.after .badEscape 4 cs)

/-- The character of a `\u` escape, from the text after the `u`, and the number of characters that
the escape takes from there. Surrogates must come in pairs. -/
def readCodePoint (cs : List Char) : Except Fault (Char × Nat) := do
  let n ← readUnit cs
  if 0xDC00 ≤ n ∧ n ≤ 0xDFFF then fail .loneSurrogate (cs.drop 4)
  else if n < 0xD800 ∨ 0xDFFF < n then .ok (Char.ofNat n, 4)
  else
    match cs.drop 4 with
    | [] => fail .endInText []
    | c :: cs =>
      if c ≠ '\\' then failNext .endOfEscape (c :: cs)
      else
        match cs with
        | [] => fail .endInText []
        | c :: cs =>
          if c ≠ 'u' then failNext .endOfEscape (c :: cs)
          else
            let low ← readUnit cs
            if low < 0xDC00 ∨ 0xDFFF < low then fail .loneSurrogate (cs.drop 4)
            else .ok (Char.ofNat (0x10000 + (n - 0xD800) * 0x400 + (low - 0xDC00)), 10)

/-- The character of an escape, from the text after the backslash, and the number of characters
that the escape takes from there. -/
def readEscape : List Char → Except Fault (Char × Nat)
  | [] => fail .endInText []
  | c :: cs =>
    if c = '"' ∨ c = '\\' ∨ c = '/' then .ok (c, 1)
    else if c = 'b' then .ok ('\x08', 1)
    else if c = 'f' then .ok ('\x0c', 1)
    else if c = 'n' then .ok ('\n', 1)
    else if c = 'r' then .ok ('\x0d', 1)
    else if c = 't' then .ok ('\t', 1)
    else if c = 'u' then (readCodePoint cs).map fun r => (r.1, r.2 + 1)
    else failNext .badEscape (c :: cs)

/-- The characters of a string up to its closing quote; `skip` counts the characters that the
escape before still covers. -/
def readChars : (skip : Nat) → Reader (List Char)
  | _, [] => fail .endInText []
  | skip + 1, _ :: cs => readChars skip cs
  | 0, c :: cs =>
    if c = '"' then .ok ([], cs)
    else if c = '\\' then
      match readEscape cs with
      | .error e => .error e
      | .ok (d, n) => (readChars n cs).map fun r => (d :: r.1, r.2)
    else if c.toNat < 0x20 then fail .controlCharacter cs
    else (readChars 0 cs).map fun r => (c :: r.1, r.2)

/-- A string, from the text after its opening quote. -/
def readText : Reader String := fun cs =>
  (readChars 0 cs).map fun r => (String.ofList r.1, r.2)

/-! ## Numbers -/

/-- The exponent of a number, from the text after its mark. -/
def readExponent (cs : List Char) : Except Fault (Int × List Char) :=
  let negative : Bool := cs.head? = some '-'
  let body := if negative || cs.head? = some '+' then cs.tail else cs
  match body with
  | [] => fail .endInValue []
  | c :: rest =>
    if c.isDigit then
      let (digits, rest) := Text.spanDigits (c :: rest)
      let n : Int := Nat.ofDigitChars 10 digits 0
      .ok (if negative then -n else n, rest)
    else failNext .badNumber (c :: rest)

/-- Takes up digits while the number fits in 64 bits; the second part counts those left out. -/
def takeWord : Nat × Nat → List Char → Nat × Nat
  | acc, [] => acc
  | (n, dropped), c :: cs =>
    let next := 10 * n + Text.digitValue c
    if dropped = 0 ∧ next < 18446744073709551616 then takeWord (next, 0) cs
    else takeWord (n, dropped + 1) cs

/-- A number with a fraction, an exponent or too many digits for an integer: its leading digits
that fit in 64 bits, times a power of ten. -/
def scaled (negative : Bool) (whole places : List Char) (exponent : Int) : Option Number :=
  let (n, extra) := takeWord (0, 0) whole
  let (m, unused) := takeWord (n, 0) places
  let kept : Int := (places.length : Int) - unused
  (Binary.scaledWord negative m (extra - kept + exponent)).map .float

/-- An integer: as such when 64 bits hold it, except for a negative zero. -/
def whole (negative : Bool) (digits : List Char) : Option Number :=
  let n := Nat.ofDigitChars 10 digits 0
  if negative then
    if 0 < n ∧ n ≤ 9223372036854775808 then some (.int (-n))
    else scaled true digits [] 0
  else if n < 18446744073709551616 then some (.int n)
  else scaled false digits [] 0

/-- Ends the reading of a number. -/
def finish (n : Option Number) (rest : List Char) : Except Fault (Number × List Char) :=
  match n with
  | some n => .ok (n, rest)
  | none => fail .outOfRange rest

/-- What may follow the digits of a number: an exponent. -/
def readScale (negative : Bool) (digits places rest : List Char) :
    Except Fault (Number × List Char) :=
  match rest with
  | [] => finish (scaled negative digits places 0) []
  | c :: tail =>
    if c = 'e' ∨ c = 'E' then do
      let (e, rest) ← readExponent tail
      finish (scaled negative digits places e) rest
    else finish (scaled negative digits places 0) (c :: tail)

/-- A number after its sign: digits without leading zeros, then an optional fraction and an
optional exponent. -/
def readNumber (negative : Bool) : Reader Number := fun cs =>
  match cs with
  | [] => fail .endInValue []
  | c :: tail =>
    if !c.isDigit then failNext .badNumber (c :: tail)
    else
      let (digits, rest) := Text.spanDigits (c :: tail)
      if c = '0' ∧ digits.length ≠ 1 then failNext .badNumber tail
      else
        match rest with
        | [] => finish (whole negative digits) []
        | d :: after =>
          if d = '.' then
            let (places, rest) := Text.spanDigits after
            if places.isEmpty then
              match rest with
              | [] => fail .endInValue []
              | _ => failNext .badNumber rest
            else readScale negative digits places rest
          else if d = 'e' ∨ d = 'E' then readScale negative digits [] (d :: after)
          else finish (whole negative digits) (d :: after)

/-! ## Arrays and objects -/

/-- In an array, before an item or its end: the text where the next item starts, or none at the
closing bracket, which is left unread. -/
def nextItem (first : Bool) (cs : List Char) : Except Fault (Option (List Char)) :=
  match skipSpace cs with
  | [] => fail .endInArray []
  | c :: rest =>
    if c = ']' then .ok none
    else if c = ',' ∧ !first then
      match skipSpace rest with
      | [] => fail .endInValue []
      | d :: rest => if d = ']' then failNext .trailingComma (d :: rest) else .ok (some (d :: rest))
    else if first then .ok (some (c :: rest))
    else failNext .noArrayEnd (c :: rest)

/-- The end of an array whose wanted items have been read. -/
def closeArray (cs : List Char) : Except Fault (List Char) :=
  match skipSpace cs with
  | [] => fail .endInArray []
  | c :: rest =>
    if c = ']' then .ok rest
    else if c = ',' then
      match skipSpace rest with
      | [] => fail .trailing []
      | d :: rest =>
        if d = ']' then failNext .trailingComma (d :: rest) else failNext .trailing (d :: rest)
    else failNext .trailing (c :: rest)

/-- In an object, before a member or its end: the text after the opening quote of the next name, or
none at the closing brace, which is left unread. -/
def nextMember (first : Bool) (cs : List Char) : Except Fault (Option (List Char)) :=
  match skipSpace cs with
  | [] => fail .endInObject []
  | c :: rest =>
    if c = '\x7d' then .ok none
    else if c = ',' ∧ !first then
      match skipSpace rest with
      | [] => fail .endInValue []
      | d :: rest =>
        if d = '"' then .ok (some rest)
        else if d = '\x7d' then failNext .trailingComma (d :: rest)
        else failNext .noKey (d :: rest)
    else if first then
      if c = '"' then .ok (some rest) else failNext .noKey (c :: rest)
    else failNext .noObjectEnd (c :: rest)

/-- The colon between a name and its value. -/
def readColon (cs : List Char) : Except Fault (List Char) :=
  match skipSpace cs with
  | [] => fail .endInObject []
  | c :: rest => if c = ':' then .ok rest else failNext .noColon (c :: rest)

/-- Items up to and with the closing bracket; each takes at least one character, so `fuel` never
runs out when it is the length of the text. -/
def readItems {α : Type} (item : Reader α) : (fuel : Nat) → (first : Bool) → Reader (List α)
  | 0, _, cs => fail .endInArray cs
  | fuel + 1, first, cs => do
    match ← nextItem first cs with
    | none => .ok ([], (skipSpace cs).tail)
    | some cs =>
      let (x, cs) ← item cs
      let (xs, cs) ← readItems item fuel false cs
      .ok (x :: xs, cs)

/-- Members up to and with the closing brace, in the order of the text. -/
def readMembers {α : Type} (value : Reader α) :
    (fuel : Nat) → (first : Bool) → Reader (List (String × α))
  | 0, _, cs => fail .endInObject cs
  | fuel + 1, first, cs => do
    match ← nextMember first cs with
    | none => .ok ([], (skipSpace cs).tail)
    | some cs =>
      let (name, cs) ← readText cs
      let cs ← readColon cs
      let (x, cs) ← value cs
      let (xs, cs) ← readMembers value fuel false cs
      .ok ((name, x) :: xs, cs)

/-! ## Values -/

/-- Any value with at most so many levels of arrays and objects. -/
def readValue : (levels : Nat) → Reader Json
  | levels, cs =>
    match skipSpace cs with
    | [] => fail .endInValue []
    | c :: rest =>
      if c = 'n' then (readName ['u', 'l', 'l'] rest).map fun cs => (.null, cs)
      else if c = 't' then (readName ['r', 'u', 'e'] rest).map fun cs => (.bool true, cs)
      else if c = 'f' then (readName ['a', 'l', 's', 'e'] rest).map fun cs => (.bool false, cs)
      else if c = '-' then (readNumber true rest).map fun r => (.number r.1, r.2)
      else if c.isDigit then (readNumber false (c :: rest)).map fun r => (.number r.1, r.2)
      else if c = '"' then (readText rest).map fun r => (.text r.1, r.2)
      else if c = '[' then
        match levels with
        | 0 => failNext .tooDeep (c :: rest)
        | levels + 1 =>
          (readItems (readValue levels) (rest.length + 1) true rest).map fun r =>
            (.array r.1, r.2)
      else if c = '\x7b' then
        match levels with
        | 0 => failNext .tooDeep (c :: rest)
        | levels + 1 =>
          (readMembers (readValue levels) (rest.length + 1) true rest).map fun r =>
            (.object (NameMap.insertAll r.1), r.2)
      else failNext .noValue (c :: rest)

/-- What is wrong with a value where one of another kind is wanted: a scalar that is itself
malformed is reported as such. The text starts with the value. -/
def mismatch (cs : List Char) : Fault :=
  let of {α : Type} (r : Except Fault α) : Fault :=
    match r with
    | .error e => e
    | .ok _ => .mismatched
  match cs with
  | [] => .malformed .endInValue 0
  | c :: rest =>
    if c = 'n' then of (readName ['u', 'l', 'l'] rest)
    else if c = 't' then of (readName ['r', 'u', 'e'] rest)
    else if c = 'f' then of (readName ['a', 'l', 's', 'e'] rest)
    else if c = '-' then of (readNumber true rest)
    else if c.isDigit then of (readNumber false (c :: rest))
    else if c = '"' then of (readText rest)
    else if c = '[' ∨ c = '\x7b' then .mismatched
    else .after .noValue 1 (c :: rest)

/-! ## Wanted kinds -/

/-- Starts a reader at the first character of a value. -/
def atValue {α : Type} (read : Char → List Char → Except Fault (α × List Char)) : Reader α :=
  fun cs =>
    match skipSpace cs with
    | [] => fail .endInValue []
    | c :: rest => read c rest

/-- A boolean. -/
def readBool : Reader Bool := atValue fun c rest =>
  if c = 't' then (readName ['r', 'u', 'e'] rest).map fun cs => (true, cs)
  else if c = 'f' then (readName ['a', 'l', 's', 'e'] rest).map fun cs => (false, cs)
  else .error (mismatch (c :: rest))

/-- The null. -/
def readNull : Reader Unit := atValue fun c rest =>
  if c = 'n' then (readName ['u', 'l', 'l'] rest).map fun cs => ((), cs)
  else .error (mismatch (c :: rest))

/-- A number of either sort. -/
def readAnyNumber : Reader Number := atValue fun c rest =>
  if c = '-' then readNumber true rest
  else if c.isDigit then readNumber false (c :: rest)
  else .error (mismatch (c :: rest))

/-- An integer of a range. -/
def readInt (range : Text.IntRange) : Reader Int := fun cs => do
  match ← readAnyNumber cs with
  | (.int n, cs) => if range.Contains n then .ok (n, cs) else .error .mismatched
  | (.float _, _) => .error .mismatched

/-- A number of either sort as a pattern of a binary format. -/
def readFloat (f : Binary.Format) : Reader (Binary f) := fun cs => do
  match ← readAnyNumber cs with
  | (.int n, cs) => .ok (Binary.ofInt f n, cs)
  | (.float x, cs) => .ok (x.convert f, cs)

/-- A string. -/
def readString : Reader String := atValue fun c rest =>
  if c = '"' then readText rest else .error (mismatch (c :: rest))

/-- An array of values of one kind. -/
def readArray {α : Type} (item : Reader α) : Reader (List α) := atValue fun c rest =>
  if c = '[' then readItems item (rest.length + 1) true rest else .error (mismatch (c :: rest))

/-! ## Unwanted values -/

/-- Passes over the digits of a number, whatever its size. -/
def skipNumber (cs : List Char) : Except Fault (List Char) :=
  let exponent (cs : List Char) : Except Fault (List Char) :=
    let body := if cs.head? = some '-' ∨ cs.head? = some '+' then cs.tail else cs
    match body with
    | [] => fail .badNumber []
    | c :: rest =>
      if c.isDigit then .ok (Text.spanDigits rest).2 else failNext .badNumber (c :: rest)
  match cs with
  | [] => fail .badNumber []
  | c :: tail =>
    if !c.isDigit then failNext .badNumber (c :: tail)
    else
      let (digits, rest) := Text.spanDigits (c :: tail)
      if c = '0' ∧ digits.length ≠ 1 then failNext .badNumber tail
      else
        match rest with
        | [] => .ok []
        | d :: after =>
          if d = '.' then
            let (places, rest) := Text.spanDigits after
            if places.isEmpty then failNext .badNumber rest
            else
              match rest with
              | [] => .ok []
              | e :: after => if e = 'e' ∨ e = 'E' then exponent after else .ok (e :: after)
          else if d = 'e' ∨ d = 'E' then exponent after
          else .ok (d :: after)

/-- Passes over an escape, from the text after the backslash; a surrogate may stand alone. -/
def skipEscape : List Char → Except Fault Nat
  | [] => fail .endInText []
  | c :: cs =>
    if c = '"' ∨ c = '\\' ∨ c = '/' ∨ c = 'b' ∨ c = 'f' ∨ c = 'n' ∨ c = 'r' ∨ c = 't' then .ok 1
    else if c = 'u' then (readUnit cs).map fun _ => 5
    else failNext .badEscape (c :: cs)

/-- Passes over a string, from the text after its opening quote. -/
def skipText : (skip : Nat) → List Char → Except Fault (List Char)
  | _, [] => fail .endInText []
  | skip + 1, _ :: cs => skipText skip cs
  | 0, c :: cs =>
    if c = '"' then .ok cs
    else if c = '\\' then
      match skipEscape cs with
      | .error e => .error e
      | .ok n => skipText n cs
    else if c.toNat < 0x20 then fail .controlCharacter cs
    else skipText 0 cs

/-- The two kinds of containers. -/
inductive Container where
  | array
  | object
  deriving DecidableEq, Repr

/-- Passes over the name of a member and its colon. -/
def skipName (cs : List Char) : Except Fault (List Char) :=
  match skipSpace cs with
  | [] => fail .endInObject []
  | c :: rest =>
    if c = '"' then do
      let cs ← skipText 0 rest
      readColon cs
    else failNext .noKey (c :: rest)

/-- After a value inside the open containers: closes what closes here, and gives the text where the
next value starts with the containers open there; none when all are closed. `comma` says whether a
comma may come first. -/
def afterValue : (comma : Bool) → (opened : List Container) → List Char →
    Except Fault (Option (List Container) × List Char)
  | _, [], cs => .ok (none, cs)
  | comma, top :: outer, cs =>
    match skipSpace cs with
    | [] => fail (match top with | .array => .endInArray | .object => .endInObject) []
    | c :: rest =>
      if (c = ']' ∧ top = .array) ∨ (c = '\x7d' ∧ top = .object) then afterValue true outer rest
      else if c = ',' ∧ comma then
        match top with
        | .array => .ok (some (top :: outer), rest)
        | .object => (skipName rest).map fun cs => (some (top :: outer), cs)
      else if comma then
        failNext (match top with | .array => .noArrayEnd | .object => .noObjectEnd) (c :: rest)
      else
        match top with
        | .array => .ok (some (top :: outer), c :: rest)
        | .object => (skipName (c :: rest)).map fun cs => (some (top :: outer), cs)

/-- Passes over values until the open containers are closed. -/
def skipValues : (fuel : Nat) → (opened : List Container) → List Char → Except Fault (List Char)
  | 0, _, _ => fail .endInValue []
  | fuel + 1, opened, cs =>
    match skipSpace cs with
    | [] => fail .endInValue []
    | c :: rest => do
      let (comma, opened, cs) ←
        if c = 'n' then (readName ['u', 'l', 'l'] rest).map fun cs => (true, opened, cs)
        else if c = 't' then (readName ['r', 'u', 'e'] rest).map fun cs => (true, opened, cs)
        else if c = 'f' then (readName ['a', 'l', 's', 'e'] rest).map fun cs => (true, opened, cs)
        else if c = '-' then (skipNumber rest).map fun cs => (true, opened, cs)
        else if c.isDigit then (skipNumber (c :: rest)).map fun cs => (true, opened, cs)
        else if c = '"' then (skipText 0 rest).map fun cs => (true, opened, cs)
        else if c = '[' then .ok (false, .array :: opened, rest)
        else if c = '\x7b' then .ok (false, .object :: opened, rest)
        else failNext .noValue (c :: rest)
      match ← afterValue comma opened cs with
      | (none, cs) => .ok cs
      | (some opened, cs) => skipValues fuel opened cs

/-- Passes over one value. -/
def skipValue (cs : List Char) : Except Fault (List Char) := skipValues (cs.length + 1) [] cs

/-! ## Whole texts -/

/-- The levels of arrays and objects that a text may have. -/
def maxLevels : Nat := 127

/-- Reads a text that holds one value and nothing after it. -/
def readWhole {α : Type} (read : Reader α) (cs : List Char) : Except Fault α := do
  let (x, rest) ← read cs
  match skipSpace rest with
  | [] => .ok x
  | rest => failNext .trailing rest

/-- A whole text as one value. -/
def parse (s : String) : Except Fault Json := readWhole (readValue maxLevels) s.toList

end QueryLoom.Json
