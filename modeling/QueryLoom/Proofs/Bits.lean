import Mathlib.Tactic.Ring
import QueryLoom.Wire.Cell

/-!
# Bits

A column of bits is sent as bytes of which the first is the most significant, and is read as a word
of 64 bits: each byte is put behind the bits read so far, and what does not fit is lost in front.

* `BigEndian.ofBytes`, `BigEndian.toBytes` : numbers as bytes, the most significant byte first;
* `toNat_putByte` : what one more byte does to a word;
* `toNat_bitsToWord` : the word of any bytes is their number modulo 2^64;
* `bits_big_endian` : the bytes that a word is read from.
-/

namespace QueryLoom.Wire

/-! ## The most significant byte first -/

namespace BigEndian

/-- The number of some bytes: each counts 256 times as much as the one behind it. -/
def ofBytes : List UInt8 → Nat
  | [] => 0
  | b :: bs => b.toNat * 256 ^ bs.length + ofBytes bs

/-- The bytes of a number, the most significant one first and as many as the width; what does not
fit is lost. -/
def toBytes (width n : Nat) : List UInt8 := (LittleEndian.toBytes width n).reverse

theorem toBytes_length (width n : Nat) : (toBytes width n).length = width := by
  rw [toBytes, List.length_reverse, LittleEndian.toBytes_length]

theorem ofBytes_append (as bs : List UInt8) :
    ofBytes (as ++ bs) = ofBytes as * 256 ^ bs.length + ofBytes bs := by
  induction as with
  | nil => simp [ofBytes]
  | cons a as ih =>
    rw [List.cons_append, ofBytes, ofBytes, ih, List.length_append, Nat.pow_add]
    ring

/-- The two orders of bytes are each other's reverse. -/
theorem ofBytes_reverse (bs : List UInt8) : ofBytes bs.reverse = LittleEndian.ofBytes bs := by
  induction bs with
  | nil => rfl
  | cons b bs ih =>
    have single : ofBytes [b] = b.toNat := by simp [ofBytes]
    rw [List.reverse_cons, ofBytes_append, ih, single, List.length_singleton, LittleEndian.ofBytes]
    ring

/-- A number that fits its width is read back. -/
theorem ofBytes_toBytes {width n : Nat} (h : n < 256 ^ width) : ofBytes (toBytes width n) = n := by
  rw [toBytes, ofBytes_reverse]
  exact LittleEndian.ofBytes_toBytes h

theorem ofBytes_zeros (k : Nat) (bs : List UInt8) :
    ofBytes (List.replicate k 0 ++ bs) = ofBytes bs := by
  induction k with
  | zero => rfl
  | succ k ih => simp [List.replicate_succ, ofBytes, ih]

/-- Bytes have a number that fits their width. -/
theorem ofBytes_lt (bs : List UInt8) : ofBytes bs < 256 ^ bs.length := by
  induction bs with
  | nil => simp [ofBytes]
  | cons b bs ih =>
    have byte : b.toNat + 1 ≤ 256 := b.toNat_lt
    calc
      b.toNat * 256 ^ bs.length + ofBytes bs < (b.toNat + 1) * 256 ^ bs.length := by
        rw [Nat.succ_mul]
        omega
      _ ≤ 256 * 256 ^ bs.length := Nat.mul_le_mul_right _ byte
      _ = 256 ^ (b :: bs).length := by rw [List.length_cons, Nat.pow_succ']

end BigEndian

/-! ## Words -/

/-- One more byte behind a word. The eight bits at the front of the word are lost, the others make
room, and the byte stands where no other bit is. -/
theorem toNat_putByte (n : UInt64) (b : UInt8) :
    ((n <<< 8) ||| b.toUInt64).toNat = (n.toNat * 256 + b.toNat) % 2 ^ 64 := by
  let kept := n.toNat % 2 ^ 56
  have shifted : (n <<< 8).toNat = kept <<< 8 := by
    have distance : (8 : UInt64).toNat % 64 = 8 := rfl
    rw [UInt64.toNat_shiftLeft, distance, Nat.shiftLeft_eq, Nat.shiftLeft_eq]
    omega
  -- The byte has eight bits, and the last eight of the shifted word are zero.
  have apart : kept <<< 8 + b.toNat = kept <<< 8 ||| b.toNat :=
    Nat.shiftLeft_add_eq_or_of_lt b.toNat_lt kept
  have byte : b.toNat < 256 := b.toNat_lt
  rw [UInt64.toNat_or, shifted, UInt8.toNat_toUInt64, ← apart, Nat.shiftLeft_eq]
  omega

/-- Bytes behind a word. -/
theorem toNat_putBytes (bs : List UInt8) (n : UInt64) :
    (bs.foldl (fun (n : UInt64) b => (n <<< 8) ||| b.toUInt64) n).toNat =
      (n.toNat * 256 ^ bs.length + BigEndian.ofBytes bs) % 2 ^ 64 := by
  induction bs generalizing n with
  | nil => simp [BigEndian.ofBytes, Nat.mod_eq_of_lt n.toNat_lt]
  | cons b bs ih =>
    have regrouped : (n.toNat * 256 + b.toNat) * 256 ^ bs.length + BigEndian.ofBytes bs =
        n.toNat * 256 ^ (b :: bs).length + BigEndian.ofBytes (b :: bs) := by
      rw [List.length_cons, Nat.pow_succ, BigEndian.ofBytes]
      ring
    -- What is lost here would be lost later too, so reducing once at the end does the same.
    rw [List.foldl_cons, ih, toNat_putByte, ← regrouped, Nat.add_mod, Nat.mod_mul_mod,
      ← Nat.add_mod]

/-- The word of any bytes is their number, as far as it fits. -/
theorem toNat_bitsToWord (bs : List UInt8) :
    (bitsToWord bs).toNat = BigEndian.ofBytes bs % 2 ^ 64 := by
  have behindNothing := toNat_putBytes bs 0
  rwa [UInt64.toNat_zero, Nat.zero_mul, Nat.zero_add] at behindNothing

/-- At most eight bytes fit. -/
theorem toNat_bitsToWord_of_length {bs : List UInt8} (short : bs.length ≤ 8) :
    (bitsToWord bs).toNat = BigEndian.ofBytes bs := by
  have fits : BigEndian.ofBytes bs < 2 ^ 64 :=
    calc
      BigEndian.ofBytes bs < 256 ^ bs.length := BigEndian.ofBytes_lt bs
      _ ≤ 256 ^ 8 := Nat.pow_le_pow_right (by decide) short
      _ = 2 ^ 64 := by decide
  rw [toNat_bitsToWord, Nat.mod_eq_of_lt fits]

/-- Zeros in front are not seen. -/
theorem bitsToWord_zeros (k : Nat) (bs : List UInt8) :
    bitsToWord (List.replicate k 0 ++ bs) = bitsToWord bs := by
  rw [← UInt64.toNat_inj, toNat_bitsToWord, toNat_bitsToWord, BigEndian.ofBytes_zeros]

/-- A word is read back from its eight bytes. -/
theorem bitsToWord_toBytes (n : UInt64) : bitsToWord (BigEndian.toBytes 8 n.toNat) = n := by
  have eight : (BigEndian.toBytes 8 n.toNat).length ≤ 8 := by rw [BigEndian.toBytes_length]
  have fits : n.toNat < 256 ^ 8 := n.toNat_lt
  rw [← UInt64.toNat_inj, toNat_bitsToWord_of_length eight, BigEndian.ofBytes_toBytes fits]

/-! ## Main statement -/

/-- The word that a column of bits shows is the number of its bytes, the most significant byte
first, modulo 2^64: the number itself for at most eight bytes. Zeros in front make no difference, so
every word is read back from its eight bytes, and from what is left of them when zeros are taken
away from the front. -/
theorem bits_big_endian (bs : List UInt8) (n : UInt64) :
    (Form.ofTypeName "BIT").read (some bs) = .ok (.uint64 (bitsToWord bs)) ∧
      (bitsToWord bs).toNat = BigEndian.ofBytes bs % 2 ^ 64 ∧
      (bs.length ≤ 8 → (bitsToWord bs).toNat = BigEndian.ofBytes bs) ∧
      (∀ k, bitsToWord (List.replicate k 0 ++ bs) = bitsToWord bs) ∧
      bitsToWord (BigEndian.toBytes 8 n.toNat) = n ∧
      ∀ k short, BigEndian.toBytes 8 n.toNat = List.replicate k 0 ++ short →
        bitsToWord short = n := by
  have form : Form.ofTypeName "BIT" = .bits := by decide
  refine ⟨by rw [form]; rfl, toNat_bitsToWord bs, toNat_bitsToWord_of_length,
    fun k => bitsToWord_zeros k bs, bitsToWord_toBytes n, fun k short taken => ?_⟩
  calc
    bitsToWord short = bitsToWord (List.replicate k 0 ++ short) := (bitsToWord_zeros k short).symm
    _ = bitsToWord (BigEndian.toBytes 8 n.toNat) := by rw [taken]
    _ = n := bitsToWord_toBytes n

/-- Sixty-four flags, of which the first and the last are set. -/
def outerFlags : List UInt8 := [128, 0, 0, 0, 0, 0, 0, 1]

/-- All flags come back, and a number of two bytes is read without the zeros in front of it. -/
theorem bits_big_endian_outerFlags :
    outerFlags.length ≤ 8 ∧ (bitsToWord outerFlags).toNat = 2 ^ 63 + 1 ∧
      BigEndian.toBytes 8 (515 : UInt64).toNat = List.replicate 6 0 ++ [2, 3] ∧
      bitsToWord [2, 3] = 515 := by
  obtain ⟨-, -, exact, -, -, unpadded⟩ := bits_big_endian outerFlags 515
  have eight : outerFlags.length ≤ 8 := by decide
  have number : BigEndian.ofBytes outerFlags = 2 ^ 63 + 1 := by decide
  have sent : BigEndian.toBytes 8 (515 : UInt64).toNat = List.replicate 6 0 ++ [2, 3] := by decide
  exact ⟨eight, (exact eight).trans number, sent, unpadded 6 [2, 3] sent⟩

end QueryLoom.Wire
