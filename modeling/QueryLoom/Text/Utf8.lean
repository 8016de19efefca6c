import QueryLoom.Text.Numeral

/-!
# UTF-8

Characters as one to four bytes, and the reading of bytes that need not be well formed.

* `pieces` splits any bytes into characters and ill-formed stretches, each stretch as long as it
  could still have begun a character;
* `decode` refuses the first ill-formed stretch and says where it stands;
* `decodeLossy` puts the replacement character in the place of each.
-/

namespace QueryLoom.Text.Utf8

/-! ## Writing -/

/-- The bytes of a character. -/
def encodeChar (c : Char) : List UInt8 :=
  let n := c.toNat
  if n < 0x80 then [n.toUInt8]
  else if n < 0x800 then [(0xC0 + n / 64).toUInt8, (0x80 + n % 64).toUInt8]
  else if n < 0x10000 then
    [(0xE0 + n / 4096).toUInt8, (0x80 + n / 64 % 64).toUInt8, (0x80 + n % 64).toUInt8]
  else
    [(0xF0 + n / 262144).toUInt8, (0x80 + n / 4096 % 64).toUInt8, (0x80 + n / 64 % 64).toUInt8,
      (0x80 + n % 64).toUInt8]

/-- The bytes of a text. -/
def encode (cs : List Char) : List UInt8 := cs.flatMap encodeChar

/-- The number of bytes of a text. -/
def size (cs : List Char) : Nat := (encode cs).length

/-! ## Reading -/

/-- What bytes begin with. -/
inductive Piece where
  /-- A well-formed character. -/
  | char (c : Char)
  /-- Bytes that begin no character, with their number. -/
  | broken (bytes : Nat)
  /-- A character that the end of the bytes cuts off. -/
  | cut
  deriving DecidableEq, Repr

/-- A byte that continues a character. -/
def isTail (b : UInt8) : Bool := 0x80 ≤ b && b ≤ 0xBF

/-- The second bytes that may follow a first byte: continuations, less those that would spell a
character longer than need be, a surrogate, or a number past the last character. -/
def isSecond (first b : UInt8) : Bool :=
  if first == 0xE0 then 0xA0 ≤ b && b ≤ 0xBF
  else if first == 0xED then 0x80 ≤ b && b ≤ 0x9F
  else if first == 0xF0 then 0x90 ≤ b && b ≤ 0xBF
  else if first == 0xF4 then 0x80 ≤ b && b ≤ 0x8F
  else isTail b

/-- The number of bytes that a first byte announces; none for a byte that begins no character. -/
def announced (b : UInt8) : Option Nat :=
  if b < 0x80 then some 1
  else if 0xC2 ≤ b && b ≤ 0xDF then some 2
  else if 0xE0 ≤ b && b ≤ 0xEF then some 3
  else if 0xF0 ≤ b && b ≤ 0xF4 then some 4
  else none

/-- The payload of a continuation byte. -/
def low6 (b : UInt8) : Nat := b.toNat % 64

/-- A piece that starts with byte `a`, and how many bytes it takes. -/
def first (a : UInt8) (rest : List UInt8) : Piece × Nat :=
  match announced a with
  | none => (.broken 1, 1)
  | some 1 => (.char (Char.ofNat a.toNat), 1)
  | some n =>
    match rest with
    | [] => (.cut, 1)
    | b :: rest =>
      if isSecond a b then
        if n = 2 then (.char (Char.ofNat (a.toNat % 32 * 64 + low6 b)), 2)
        else
          match rest with
          | [] => (.cut, 2)
          | c :: rest =>
            if isTail c then
              if n = 3 then
                (.char (Char.ofNat (a.toNat % 16 * 4096 + low6 b * 64 + low6 c)), 3)
              else
                match rest with
                | [] => (.cut, 3)
                | d :: _ =>
                  if isTail d then
                    (.char (Char.ofNat
                      (a.toNat % 8 * 262144 + low6 b * 4096 + low6 c * 64 + low6 d)), 4)
                  else (.broken 3, 3)
            else (.broken 2, 2)
      else (.broken 1, 1)

/-- Splits bytes into pieces; `skip` counts the bytes that the piece before still covers. -/
def piecesAfter : (skip : Nat) → List UInt8 → List Piece
  | _, [] => []
  | skip + 1, _ :: rest => piecesAfter skip rest
  | 0, a :: rest => (first a rest).1 :: piecesAfter ((first a rest).2 - 1) rest

/-- The pieces of a byte text, in order. -/
def pieces (bs : List UInt8) : List Piece := piecesAfter 0 bs

/-- An ill-formed stretch: where it starts, and its length unless the end of the bytes cut it
off. -/
inductive Fault where
  | invalid (bytes index : Nat)
  | incomplete (index : Nat)
  deriving DecidableEq, Repr

/-- The wording of a fault. -/
def Fault.message : Fault → String
  | .invalid n i =>
    "invalid utf-8 sequence of " ++ String.ofList (decimal n) ++ " bytes from index " ++
      String.ofList (decimal i)
  | .incomplete i => "incomplete utf-8 byte sequence from index " ++ String.ofList (decimal i)

/-- The characters of pieces, or the first piece that is none; `index` is where the pieces
start. -/
def collect : (index : Nat) → List Piece → Except Fault (List Char)
  | _, [] => .ok []
  | i, .char c :: ps => (collect (i + (encodeChar c).length) ps).map (c :: ·)
  | i, .broken n :: _ => .error (.invalid n i)
  | i, .cut :: _ => .error (.incomplete i)

/-- Reads a byte text that must be well formed. -/
def decode (bs : List UInt8) : Except Fault (List Char) := collect 0 (pieces bs)

/-- What stands for an ill-formed stretch. -/
def replacement : Char := Char.ofNat 0xFFFD

/-- Reads any byte text, with one replacement character for each ill-formed stretch. -/
def decodeLossy (bs : List UInt8) : List Char :=
  (pieces bs).map fun
    | .char c => c
    | _ => replacement

end QueryLoom.Text.Utf8
