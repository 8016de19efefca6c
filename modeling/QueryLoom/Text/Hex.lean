/-!
# Hexadecimal text

Bytes and machine words as lower-case hexadecimal digits.

* `bytes?_ofBytes` : bytes read back from their digits.
-/

namespace QueryLoom.Text.Hex

/-- A digit below sixteen. -/
def digit (n : Nat) : Char :=
  if n < 10 then Char.ofNat ('0'.toNat + n) else Char.ofNat ('a'.toNat + (n - 10))

/-- The value of a digit of either case. -/
def value? (c : Char) : Option Nat :=
  if '0' ≤ c ∧ c ≤ '9' then some (c.toNat - '0'.toNat)
  else if 'a' ≤ c ∧ c ≤ 'f' then some (c.toNat - 'a'.toNat + 10)
  else if 'A' ≤ c ∧ c ≤ 'F' then some (c.toNat - 'A'.toNat + 10)
  else none

/-- The digits of a number without leading zeros; zero is the single digit `0`. -/
def ofNat (n : Nat) : List Char := Nat.toDigits 16 n

/-- The last digits of a number, exactly `width` of them. -/
def word : (width : Nat) → Nat → List Char
  | 0, _ => []
  | width + 1, n => word width (n / 16) ++ [digit (n % 16)]

/-- The number that digits spell. -/
def nat? (cs : List Char) : Option Nat :=
  cs.foldl (fun acc c => acc.bind fun n => (value? c).map (16 * n + ·)) (some 0)

/-- Two digits a byte. -/
def ofBytes (bs : List UInt8) : List Char :=
  bs.flatMap fun b => [digit (b.toNat / 16), digit (b.toNat % 16)]

/-- Reads two digits a byte. -/
def bytes? : List Char → Option (List UInt8)
  | [] => some []
  | [_] => none
  | hi :: lo :: rest =>
    match value? hi, value? lo, bytes? rest with
    | some h, some l, some bs => some ((16 * h + l).toUInt8 :: bs)
    | _, _, _ => none

theorem length_word (width n : Nat) : (word width n).length = width := by
  induction width generalizing n with
  | zero => rfl
  | succ width ih => simp [word, ih]

theorem value?_digit_all : ∀ n, n < 16 → value? (digit n) = some n := by decide

/-- Bytes read back from their digits. -/
theorem bytes?_ofBytes (bs : List UInt8) : bytes? (ofBytes bs) = some bs := by
  induction bs with
  | nil => rfl
  | cons b bs ih =>
    have small := b.toNat_lt
    have hi := value?_digit_all (b.toNat / 16) (by omega)
    have lo := value?_digit_all (b.toNat % 16) (by omega)
    have back : (16 * (b.toNat / 16) + b.toNat % 16).toUInt8 = b := by
      rw [Nat.div_add_mod]; exact UInt8.ofNat_toNat
    have step : ofBytes (b :: bs) =
        digit (b.toNat / 16) :: digit (b.toNat % 16) :: ofBytes bs := rfl
    rw [step, bytes?, hi, lo, ih]
    simp [back]

end QueryLoom.Text.Hex
