/-!
# Numbers as bytes

Numbers as bytes, the least significant byte first.

* `toBytes_length` : a word has the width asked for;
* `ofBytes_toBytes` : a number that fits its width is read back.
-/

namespace QueryLoom.Wire.LittleEndian

/-- The bytes of a number, as many as the width; what does not fit is lost. -/
def toBytes : (width : Nat) → Nat → List UInt8
  | 0, _ => []
  | width + 1, n => UInt8.ofNat (n % 256) :: toBytes width (n / 256)

def ofBytes : List UInt8 → Nat
  | [] => 0
  | b :: bs => b.toNat + 256 * ofBytes bs

/-- The number of some bytes in two's complement. -/
def ofBytesSigned (bs : List UInt8) : Int :=
  let n := ofBytes bs
  if 2 * n < Nat.pow 256 bs.length then n else (n : Int) - Nat.pow 256 bs.length

theorem toBytes_length (width n : Nat) : (toBytes width n).length = width := by
  induction width generalizing n with
  | zero => rfl
  | succ width ih => simp [toBytes, ih]

theorem ofBytes_toBytes_mod (width n : Nat) :
    ofBytes (toBytes width n) = n % Nat.pow 256 width := by
  induction width generalizing n with
  | zero => simp [toBytes, ofBytes, Nat.mod_one]
  | succ width ih =>
    have byte : (UInt8.ofNat (n % 256)).toNat = n % 256 := by
      rw [UInt8.toNat_ofNat']
      exact Nat.mod_eq_of_lt (by omega)
    have step : Nat.pow 256 (width + 1) = 256 * Nat.pow 256 width := Nat.pow_succ'
    rw [toBytes, ofBytes, ih, byte, step, Nat.mod_mul]

/-- A number that fits its width is read back. -/
theorem ofBytes_toBytes {width n : Nat} (h : n < Nat.pow 256 width) :
    ofBytes (toBytes width n) = n := by
  rw [ofBytes_toBytes_mod, Nat.mod_eq_of_lt h]

end QueryLoom.Wire.LittleEndian
