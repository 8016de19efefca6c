import QueryLoom.Text.Utf8

/-!
# Texts as bytes

The characters of bytes are found again, and bytes that are read as characters are the bytes of
these characters.

* `Text.Utf8.Spelled` : the bytes that spell characters, one to four of them;
* `Text.Utf8.first_of_spelled`, `Text.Utf8.spelled_of_first` : bytes begin with the character that
  their first ones spell;
* `Text.Utf8.decode_eq_ok_iff` : exactly the bytes of texts are read, and as these texts;
* `Text.Utf8.isValidUTF8_iff` : they are the bytes of strings;
* `Text.Utf8.encode_lt_iff` : strings are in the order of their bytes.
-/

namespace QueryLoom.Text.Utf8

/-! ## Bytes as numbers -/

theorem toNat_toUInt8 {n : Nat} (h : n < 256) : n.toUInt8.toNat = n := by
  rw [Nat.toUInt8, UInt8.toNat_ofNat']
  exact Nat.mod_eq_of_lt h

theorem isTail_iff {b : UInt8} : isTail b = true ↔ 0x80 ≤ b.toNat ∧ b.toNat ≤ 0xBF := by
  simp [isTail, UInt8.le_iff_toNat_le]

/-- Behind four of the first bytes not every continuation may follow. -/
theorem isSecond_iff {a b : UInt8} :
    isSecond a b = true ↔
      (0x80 ≤ b.toNat ∧ b.toNat ≤ 0xBF) ∧ (a.toNat = 0xE0 → 0xA0 ≤ b.toNat) ∧
        (a.toNat = 0xED → b.toNat ≤ 0x9F) ∧ (a.toNat = 0xF0 → 0x90 ≤ b.toNat) ∧
        (a.toNat = 0xF4 → b.toNat ≤ 0x8F) := by
  have same (n : UInt8) : (a == n) = true ↔ a.toNat = n.toNat := by
    rw [beq_iff_eq, UInt8.toNat_inj]
  simp only [isSecond, same, UInt8.reduceToNat]
  split
  · simp only [Bool.and_eq_true, decide_eq_true_eq, UInt8.le_iff_toNat_le, UInt8.reduceToNat]
    omega
  · split
    · simp only [Bool.and_eq_true, decide_eq_true_eq, UInt8.le_iff_toNat_le, UInt8.reduceToNat]
      omega
    · split
      · simp only [Bool.and_eq_true, decide_eq_true_eq, UInt8.le_iff_toNat_le, UInt8.reduceToNat]
        omega
      · split
        · simp only [Bool.and_eq_true, decide_eq_true_eq, UInt8.le_iff_toNat_le, UInt8.reduceToNat]
          omega
        · rw [isTail_iff]
          omega

theorem announced_eq_some_iff {b : UInt8} {n : Nat} :
    announced b = some n ↔
      n = 1 ∧ b.toNat < 0x80 ∨ n = 2 ∧ 0xC2 ≤ b.toNat ∧ b.toNat ≤ 0xDF ∨
        n = 3 ∧ 0xE0 ≤ b.toNat ∧ b.toNat ≤ 0xEF ∨ n = 4 ∧ 0xF0 ≤ b.toNat ∧ b.toNat ≤ 0xF4 := by
  simp only [announced, Bool.and_eq_true, decide_eq_true_eq, UInt8.lt_iff_toNat_lt,
    UInt8.le_iff_toNat_le, UInt8.reduceToNat]
  split
  · simp only [Option.some.injEq]
    omega
  · split
    · simp only [Option.some.injEq]
      omega
    · split
      · simp only [Option.some.injEq]
        omega
      · split
        · simp only [Option.some.injEq]
          omega
        · simp only [reduceCtorEq, false_iff]
          omega

/-! ## The bytes of a character -/

/-- The well-formed bytes of a character, by their number. -/
inductive Spelled : List UInt8 → Char → Prop
  | one {a : UInt8} (lead : announced a = some 1) : Spelled [a] (Char.ofNat a.toNat)
  | two {a b : UInt8} (lead : announced a = some 2) (second : isSecond a b = true) :
      Spelled [a, b] (Char.ofNat (a.toNat % 32 * 64 + low6 b))
  | three {a b c : UInt8} (lead : announced a = some 3) (second : isSecond a b = true)
      (third : isTail c = true) :
      Spelled [a, b, c] (Char.ofNat (a.toNat % 16 * 4096 + low6 b * 64 + low6 c))
  | four {a b c d : UInt8} (lead : announced a = some 4) (second : isSecond a b = true)
      (third : isTail c = true) (fourth : isTail d = true) :
      Spelled [a, b, c, d]
        (Char.ofNat (a.toNat % 8 * 262144 + low6 b * 4096 + low6 c * 64 + low6 d))

theorem toNat_ofNat {n : Nat} (h : n < 0xD800 ∨ 0xDFFF < n ∧ n < 0x110000) :
    (Char.ofNat n).toNat = n := by
  rw [Char.ofNat, dif_pos h]
  rfl

theorem toUInt8_eq {n : Nat} {a : UInt8} (h : n = a.toNat) : n.toUInt8 = a := by
  rw [h]
  exact UInt8.ofNat_toNat

/-- A character has no other bytes. -/
theorem encodeChar_of_spelled {bs : List UInt8} {x : Char} (h : Spelled bs x) :
    encodeChar x = bs := by
  cases h with
  | @one a lead =>
    have front := announced_eq_some_iff.1 lead
    rw [encodeChar, toNat_ofNat (by omega), if_pos (by omega), toUInt8_eq rfl]
  | @two a b lead second =>
    have front := announced_eq_some_iff.1 lead
    have next := isSecond_iff.1 second
    simp only [low6]
    rw [encodeChar, toNat_ofNat (by omega), if_neg (by omega), if_pos (by omega),
      toUInt8_eq (a := a) (by omega), toUInt8_eq (a := b) (by omega)]
  | @three a b c lead second third =>
    have front := announced_eq_some_iff.1 lead
    have next := isSecond_iff.1 second
    have last := isTail_iff.1 third
    simp only [low6]
    rw [encodeChar, toNat_ofNat (by omega), if_neg (by omega), if_neg (by omega),
      if_pos (by omega), toUInt8_eq (a := a) (by omega), toUInt8_eq (a := b) (by omega),
      toUInt8_eq (a := c) (by omega)]
  | @four a b c d lead second third fourth =>
    have front := announced_eq_some_iff.1 lead
    have next := isSecond_iff.1 second
    have later := isTail_iff.1 third
    have last := isTail_iff.1 fourth
    simp only [low6]
    rw [encodeChar, toNat_ofNat (by omega), if_neg (by omega), if_neg (by omega),
      if_neg (by omega), toUInt8_eq (a := a) (by omega), toUInt8_eq (a := b) (by omega),
      toUInt8_eq (a := c) (by omega), toUInt8_eq (a := d) (by omega)]

theorem ofNat_eq (x : Char) {n : Nat} (h : n = x.toNat) : Char.ofNat n = x := by
  rw [h]
  exact Char.ofNat_toNat x

/-- Every character has bytes. -/
theorem spelled_encodeChar (x : Char) : Spelled (encodeChar x) x := by
  have valid : x.toNat < 0xD800 ∨ 0xDFFF < x.toNat ∧ x.toNat < 0x110000 := x.valid
  have byte {n : Nat} (h : n < 256) : n.toUInt8.toNat = n := toNat_toUInt8 h
  unfold encodeChar
  simp only
  split
  · have spelled := @Spelled.one x.toNat.toUInt8
      (announced_eq_some_iff.2 (by rw [byte (by omega)]; omega))
    rwa [ofNat_eq x (byte (by omega))] at spelled
  · split
    · have spelled := @Spelled.two (0xC0 + x.toNat / 64).toUInt8 (0x80 + x.toNat % 64).toUInt8
        (announced_eq_some_iff.2 (by rw [byte (by omega)]; omega))
        (isSecond_iff.2 (by rw [byte (by omega), byte (by omega)]; omega))
      rwa [low6, byte (by omega), byte (by omega), ofNat_eq x (by omega)] at spelled
    · split
      · have spelled := @Spelled.three (0xE0 + x.toNat / 4096).toUInt8
          (0x80 + x.toNat / 64 % 64).toUInt8 (0x80 + x.toNat % 64).toUInt8
          (announced_eq_some_iff.2 (by rw [byte (by omega)]; omega))
          (isSecond_iff.2 (by rw [byte (by omega), byte (by omega)]; omega))
          (isTail_iff.2 (by rw [byte (by omega)]; omega))
        rwa [low6, low6, byte (by omega), byte (by omega), byte (by omega),
          ofNat_eq x (by omega)] at spelled
      · have spelled := @Spelled.four (0xF0 + x.toNat / 262144).toUInt8
          (0x80 + x.toNat / 4096 % 64).toUInt8 (0x80 + x.toNat / 64 % 64).toUInt8
          (0x80 + x.toNat % 64).toUInt8
          (announced_eq_some_iff.2 (by rw [byte (by omega)]; omega))
          (isSecond_iff.2 (by rw [byte (by omega), byte (by omega)]; omega))
          (isTail_iff.2 (by rw [byte (by omega)]; omega))
          (isTail_iff.2 (by rw [byte (by omega)]; omega))
        rwa [low6, low6, low6, byte (by omega), byte (by omega), byte (by omega),
          byte (by omega), ofNat_eq x (by omega)] at spelled

/-! ## Characters at the front -/

/-- Bytes begin with the character that their first ones spell. -/
theorem first_of_spelled {bs : List UInt8} {x : Char} (h : Spelled bs x) (back : List UInt8) :
    ∃ a more, bs = a :: more ∧ first a (more ++ back) = (.char x, bs.length) := by
  cases h with
  | one lead => exact ⟨_, _, rfl, by simp [first, lead]⟩
  | two lead second => exact ⟨_, _, rfl, by simp [first, lead, second]⟩
  | three lead second third => exact ⟨_, _, rfl, by simp [first, lead, second, third]⟩
  | four lead second third fourth =>
    exact ⟨_, _, rfl, by simp [first, lead, second, third, fourth]⟩

/-- Bytes that begin with a character start with bytes that spell it. -/
theorem spelled_of_first {a : UInt8} {rest : List UInt8} {x : Char}
    (h : (first a rest).1 = .char x) : ∃ bs back, a :: rest = bs ++ back ∧ Spelled bs x := by
  -- One case for each place where the reading stops; four of them give a character.
  unfold first at h
  split at h
  · cases h
  · rename_i lead
    cases h
    exact ⟨[a], rest, rfl, .one lead⟩
  · rename_i n one lead
    have few : n = 2 ∨ n = 3 ∨ n = 4 := by
      have some := announced_eq_some_iff.1 lead
      have more : n ≠ 1 := one
      omega
    split at h
    · cases h
    · rename_i b rest
      split at h
      · rename_i second
        split at h
        · rename_i two
          cases h
          exact ⟨[a, b], rest, rfl, .two (two ▸ lead) second⟩
        · rename_i notTwo
          split at h
          · cases h
          · rename_i c rest
            split at h
            · rename_i third
              split at h
              · rename_i three
                cases h
                exact ⟨[a, b, c], rest, rfl, .three (three ▸ lead) second third⟩
              · rename_i notThree
                obtain rfl : n = 4 := by omega
                split at h
                · cases h
                · rename_i d rest
                  split at h
                  · rename_i fourth
                    cases h
                    exact ⟨[a, b, c, d], rest, rfl, .four lead second third fourth⟩
                  · cases h
            · cases h
      · cases h

/-! ## Whole texts -/

/-- The bytes that a piece still covers are passed over. -/
theorem piecesAfter_append (front back : List UInt8) :
    piecesAfter front.length (front ++ back) = pieces back := by
  induction front with
  | nil => rfl
  | cons a front ih => exact ih

/-- A character in front of other bytes is their first piece. -/
theorem pieces_encodeChar (x : Char) (back : List UInt8) :
    pieces (encodeChar x ++ back) = .char x :: pieces back := by
  obtain ⟨a, more, bytes, front⟩ := first_of_spelled (spelled_encodeChar x) back
  rw [bytes] at front ⊢
  rw [List.cons_append, pieces, piecesAfter, front]
  exact congrArg _ (piecesAfter_append more back)

/-- The bytes of a text are read as the text also where ill-formed bytes would be replaced. -/
theorem decodeLossy_encode (cs : List Char) : decodeLossy (encode cs) = cs := by
  induction cs with
  | nil => rfl
  | cons c cs ih =>
    rw [decodeLossy, encode] at ih
    rw [decodeLossy, encode, List.flatMap_cons, pieces_encodeChar, List.map_cons, ih]

theorem collect_pieces_encode (i : Nat) (cs : List Char) :
    collect i (pieces (encode cs)) = .ok cs := by
  induction cs generalizing i with
  | nil => rfl
  | cons c cs ih =>
    rw [encode, List.flatMap_cons, pieces_encodeChar, collect]
    have rest := ih (i + (encodeChar c).length)
    rw [encode] at rest
    rw [rest]
    rfl

/-- Where characters are collected, the first bytes are those of the first of them. -/
theorem exists_of_collect_cons {i : Nat} {a : UInt8} {rest : List UInt8} {cs : List Char}
    (h : collect i (pieces (a :: rest)) = .ok cs) :
    ∃ x ds back j, a :: rest = encodeChar x ++ back ∧ cs = x :: ds ∧
      collect j (pieces back) = .ok ds := by
  cases piece : (first a rest).1 with
  | broken n | cut =>
    rw [pieces, piecesAfter, piece, collect] at h
    cases h
  | char x =>
    obtain ⟨bs, back, bytes, spelled⟩ := spelled_of_first piece
    rw [← encodeChar_of_spelled spelled] at bytes
    rw [bytes, pieces_encodeChar, collect] at h
    cases later : collect (i + (encodeChar x).length) (pieces back) with
    | error fault =>
      rw [later] at h
      cases h
    | ok ds =>
      rw [later] at h
      cases h
      exact ⟨x, ds, back, _, bytes, rfl, later⟩

/-- What is collected from bytes are characters that have these bytes. -/
theorem eq_encode_of_collect {i : Nat} {bs : List UInt8} {cs : List Char}
    (h : collect i (pieces bs) = .ok cs) : bs = encode cs := by
  induction cs generalizing i bs with
  | nil =>
    cases bs with
    | nil => rfl
    | cons a rest =>
      obtain ⟨x, ds, back, j, -, impossible, -⟩ := exists_of_collect_cons h
      cases impossible
  | cons c cs ih =>
    cases bs with
    | nil => cases h
    | cons a rest =>
      obtain ⟨x, ds, back, j, bytes, same, later⟩ := exists_of_collect_cons h
      cases same
      rw [bytes, ih later, encode, encode, List.flatMap_cons]

/-- Bytes are read as a text exactly when they are the bytes of that text. -/
theorem decode_eq_ok_iff {bs : List UInt8} {cs : List Char} :
    decode bs = .ok cs ↔ bs = encode cs := by
  constructor
  · exact eq_encode_of_collect
  · rintro rfl
    exact collect_pieces_encode 0 cs

/-- Four bytes of one character, and three bytes that would be half of a pair. -/
example :
    decode [0xF0, 0x9F, 0x98, 0x80] = .ok ['😀'] ∧
      decode [0xED, 0xA0, 0x80] = .error (.invalid 1 0) := ⟨rfl, rfl⟩

/-! ## Strings -/

/-- The bytes of a character are those that strings have for it. -/
theorem encodeChar_eq (x : Char) : encodeChar x = String.utf8EncodeChar x := by
  have valid : x.toNat < 0xD800 ∨ 0xDFFF < x.toNat ∧ x.toNat < 0x110000 := x.valid
  have same : x.val.toNat = x.toNat := rfl
  -- the library cuts the first byte to the bits that it has room for
  have two (h : x.toNat < 0x800) : x.toNat / 64 % 0x20 = x.toNat / 64 := by omega
  have three (h : x.toNat < 0x10000) : x.toNat / 4096 % 0x10 = x.toNat / 4096 := by omega
  have four : x.toNat / 262144 % 0x08 = x.toNat / 262144 := by omega
  simp only [encodeChar, String.utf8EncodeChar, same, Nat.toUInt8, ← Nat.lt_succ_iff]
  split
  · rfl
  · split
    · rename_i h
      simp only [two h, Nat.add_comm]
    · split
      · rename_i h
        simp only [three h, Nat.add_comm]
      · simp only [four, Nat.add_comm]

theorem toByteArray_encode (cs : List Char) : (encode cs).toByteArray = cs.utf8Encode := by
  have same : encodeChar = String.utf8EncodeChar := funext encodeChar_eq
  rw [encode, List.utf8Encode, same]

/-- The bytes of strings, and no others, can be read. -/
theorem isValidUTF8_iff {bs : List UInt8} :
    bs.toByteArray.IsValidUTF8 ↔ ∃ cs, decode bs = .ok cs := by
  constructor
  · rintro ⟨cs, same⟩
    rw [← toByteArray_encode] at same
    exact ⟨cs, decode_eq_ok_iff.2 (List.toByteArray_inj.1 same)⟩
  · rintro ⟨cs, read⟩
    exact ⟨cs, by rw [decode_eq_ok_iff.1 read, toByteArray_encode]⟩

/-! ## Order -/

/-- The bytes behind the first one: six binary digits of the number each, the highest first. -/
def tailBytes : (count : Nat) → Nat → List UInt8
  | 0, _ => []
  | count + 1, n => (0x80 + n / Nat.pow 64 count % 64).toUInt8 :: tailBytes count n

/-- The first byte of a character and the number of bytes behind it. -/
inductive Leads (n : Nat) : (lead count : Nat) → Prop
  | one (h : n < 0x80) : Leads n n 0
  | two (h : 0x80 ≤ n) (less : n < 0x800) : Leads n (0xC0 + n / 64) 1
  | three (h : 0x800 ≤ n) (less : n < 0x10000) : Leads n (0xE0 + n / 4096) 2
  | four (h : 0x10000 ≤ n) (less : n < 0x110000) : Leads n (0xF0 + n / 262144) 3

theorem exists_leads (x : Char) : ∃ lead count,
    encodeChar x = lead.toUInt8 :: tailBytes count x.toNat ∧ Leads x.toNat lead count := by
  have valid : x.toNat < 0xD800 ∨ 0xDFFF < x.toNat ∧ x.toNat < 0x110000 := x.valid
  unfold encodeChar
  simp only
  split
  · exact ⟨_, 0, rfl, .one ‹_›⟩
  · split
    · refine ⟨_, 1, ?_, .two (by omega) ‹_›⟩
      simp [tailBytes]
    · split
      · refine ⟨_, 2, ?_, .three (by omega) ‹_›⟩
        simp [tailBytes]
      · refine ⟨_, 3, ?_, .four (by omega) (by omega)⟩
        simp [tailBytes]

theorem cons_lt_of_lt {a b : Nat} (h : a < b) (byte : b < 256) (as bs : List UInt8) :
    a.toUInt8 :: as < b.toUInt8 :: bs := by
  refine List.cons_lt_cons_iff.2 (.inl ?_)
  rw [UInt8.lt_iff_toNat_lt, toNat_toUInt8 (by omega), toNat_toUInt8 byte]
  exact h

/-- Numbers that agree but for the digits behind the first byte are told apart by these. -/
theorem tailBytes_lt {count n m : Nat} (same : n / Nat.pow 64 count = m / Nat.pow 64 count)
    (less : n < m) (x y : List UInt8) : tailBytes count n ++ x < tailBytes count m ++ y := by
  induction count with
  | zero =>
    have power : Nat.pow 64 0 = 1 := rfl
    rw [power, Nat.div_one, Nat.div_one] at same
    omega
  | succ count ih =>
    have power : Nat.pow 64 (count + 1) = Nat.pow 64 count * 64 := rfl
    rw [power, ← Nat.div_div_eq_div_mul, ← Nat.div_div_eq_div_mul] at same
    have le : n / Nat.pow 64 count ≤ m / Nat.pow 64 count :=
      Nat.div_le_div_right (Nat.le_of_lt less)
    by_cases digit : n / Nat.pow 64 count = m / Nat.pow 64 count
    · rw [tailBytes, tailBytes, digit, List.cons_append, List.cons_append]
      exact List.cons_lt_cons_iff.2 (.inr ⟨rfl, ih digit⟩)
    · exact cons_lt_of_lt (by omega) (by omega) _ _

/-- Of two numbers the less has the less first byte, or the same one with as many bytes behind it,
and then they differ in the digits of these alone. -/
theorem Leads.apart {n m a b i j : Nat} (less : n < m) (h : Leads n a i) (k : Leads m b j) :
    a < b ∨ a = b ∧ i = j ∧ n / Nat.pow 64 i = m / Nat.pow 64 i := by
  have ordered (k : Nat) : n / k ≤ m / k := Nat.div_le_div_right (Nat.le_of_lt less)
  have two := ordered 64
  have three := ordered 4096
  have four := ordered 262144
  cases h <;> cases k <;> simp only [Nat.pow_eq, Nat.reducePow, true_and] <;> omega

theorem Leads.lt_256 {n a i : Nat} (h : Leads n a i) : a < 256 := by
  cases h <;> omega

/-- The bytes of characters are in the order of the characters, whatever follows. -/
theorem encodeChar_lt {c d : Char} (h : c < d) (x y : List UInt8) :
    encodeChar c ++ x < encodeChar d ++ y := by
  have less : c.toNat < d.toNat := h
  obtain ⟨a, i, first, leads⟩ := exists_leads c
  obtain ⟨b, j, second, leads'⟩ := exists_leads d
  rw [first, second]
  obtain lower | ⟨rfl, rfl, same⟩ := leads.apart less leads'
  · exact cons_lt_of_lt lower leads'.lt_256 _ _
  · exact List.cons_lt_cons_iff.2 (.inr ⟨rfl, tailBytes_lt same less x y⟩)

theorem encode_lt_of_lt {cs ds : List Char} (h : cs < ds) : encode cs < encode ds := by
  induction cs generalizing ds with
  | nil =>
    cases ds with
    | nil => exact absurd h (List.lt_irrefl [])
    | cons d ds =>
      obtain ⟨a, i, bytes, -⟩ := exists_leads d
      rw [encode, encode, List.flatMap_cons, bytes]
      exact List.nil_lt_cons _ _
  | cons c cs ih =>
    cases ds with
    | nil => exact absurd h (List.not_lt_nil _)
    | cons d ds =>
      rw [encode, encode, List.flatMap_cons, List.flatMap_cons]
      obtain lower | ⟨rfl, rest⟩ := List.cons_lt_cons_iff.1 h
      · exact encodeChar_lt lower _ _
      · exact List.append_left_lt (ih rest)

/-- The order of texts is that of their bytes. -/
theorem encode_lt_iff {s t : String} : encode s.toList < encode t.toList ↔ s < t := by
  refine ⟨fun less => Decidable.byContradiction fun h => ?_, encode_lt_of_lt⟩
  by_cases same : s = t
  · rw [same] at less
    exact List.lt_irrefl _ less
  · have more : t < s := Std.lt_of_le_of_ne (Std.not_lt.1 h) (Ne.symm same)
    exact List.lt_asymm less (encode_lt_of_lt more)

end QueryLoom.Text.Utf8
