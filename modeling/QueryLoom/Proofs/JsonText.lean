import QueryLoom.Json.Printer
import QueryLoom.Json.Reader

/-!
# JSON text is read back

The compact text of a value without fractions, nested no deeper than its reader goes, is read as
that value. Inside a longer text the same holds, unless what follows would lengthen a number.

* `readNumber_decimalInt` : integers of 64 bits;
* `readString_renderText` : strings, whatever had to be escaped in them;
* `readItems_commaSeparated`, `readMembers_commaSeparated` : lists of what is read back one by one;
* `reads_render` : values inside a longer text;
* `parse_compact` : a value and nothing else.
-/

namespace QueryLoom.Json

open Text (decimal decimalInt)

/-- A text that ends the number in front of it. -/
def EndsNumber (rest : List Char) : Prop :=
  ∀ c ∈ rest.head?, c.isDigit = false ∧ c ≠ '.' ∧ c ≠ 'e' ∧ c ≠ 'E'

theorem endsNumber_nil : EndsNumber [] := by
  intro c h
  cases h

theorem endsNumber_cons {c : Char} (h : c = ',' ∨ c = ']' ∨ c = '\x7d') (rest : List Char) :
    EndsNumber (c :: rest) := by
  intro d hd
  cases hd
  rcases h with rfl | rfl | rfl <;> decide

theorem EndsNumber.stopsDigits {rest : List Char} (h : EndsNumber rest) : Text.StopsDigits rest :=
  fun c hc => (h c hc).1

/-- A reader takes a text for a value, whatever follows that ends a number. -/
def Reads {α : Type} (read : Reader α) (text : List Char) (x : α) : Prop :=
  ∀ rest, EndsNumber rest → read (text ++ rest) = .ok (x, rest)

theorem Reads.map {α β : Type} {read : Reader α} {text : List Char} {x : α} (make : α → β)
    (h : Reads read text x) :
    Reads (fun cs => (read cs).map fun r => (make r.1, r.2)) text (make x) := by
  intro rest ends
  simp only [h rest ends, Except.map]

theorem skipSpace_cons {c : Char} (h : isSpace c = false) (cs : List Char) :
    skipSpace (c :: cs) = c :: cs := by
  simp [skipSpace, h]

theorem atValue_cons {α : Type} (read : Char → List Char → Except Fault (α × List Char)) {c : Char}
    (h : isSpace c = false) (cs : List Char) : atValue read (c :: cs) = read c cs := by
  rw [atValue, skipSpace_cons h]

/-! ## Numbers -/

theorem ne_of_isDigit {c d : Char} (hc : c.isDigit = true) (hd : d.isDigit = false) : c ≠ d := by
  rintro rfl
  rw [hc] at hd
  cases hd

theorem isSpace_of_isDigit {c : Char} (h : c.isDigit = true) : isSpace c = false := by
  have other {d : Char} (hd : d.isDigit = false) : c ≠ d := ne_of_isDigit h hd
  simp [isSpace, other (d := ' ') rfl, other (d := '\n') rfl, other (d := '\t') rfl,
    other (d := '\x0d') rfl]

theorem readNumber_decimal (negative : Bool) (n : Nat) {rest : List Char}
    (ends : EndsNumber rest) :
    readNumber negative (decimal n ++ rest) = finish (whole negative (decimal n)) rest := by
  obtain ⟨c, cs, text, digit, leading⟩ := Text.decimal_eq_cons n
  have span : Text.spanDigits (decimal n ++ rest) = (decimal n, rest) :=
    Text.spanDigits_append (fun _ => Text.isDigit_of_mem_decimal) ends.stopsDigits
  have alone : ¬ (c = '0' ∧ (c :: cs).length ≠ 1) := by
    rintro ⟨zero, long⟩
    rw [leading zero] at long
    exact long rfl
  rw [text, List.cons_append] at span ⊢
  simp only [readNumber, digit, Bool.not_true, Bool.false_eq_true, if_false, span, if_neg alone]
  cases rest with
  | nil => rfl
  | cons d after =>
    obtain ⟨-, point, small, large⟩ := ends d rfl
    simp only [if_neg point, if_neg (not_or.2 ⟨small, large⟩)]

/-- The integers that are kept as such. -/
def IsWord (n : Int) : Prop := -9223372036854775808 ≤ n ∧ n ≤ 18446744073709551615

instance (n : Int) : Decidable (IsWord n) := inferInstanceAs (Decidable (_ ∧ _))

/-- The digits of an integer, behind the sign that it has. -/
theorem readNumber_decimalInt {n : Int} (word : IsWord n) {rest : List Char}
    (ends : EndsNumber rest) :
    readNumber (decide (n < 0)) (decimal n.natAbs ++ rest) = .ok (.int n, rest) := by
  obtain ⟨low, high⟩ := word
  have value : Nat.ofDigitChars 10 (decimal n.natAbs) 0 = n.natAbs :=
    Nat.ofDigitChars_ten_toDigits
  rw [readNumber_decimal _ _ ends]
  by_cases negative : n < 0
  · have kept : whole true (decimal n.natAbs) = some (.int n) := by
      simp only [whole, value, if_true]
      rw [if_pos (by omega)]
      congr
      omega
    rw [decide_eq_true negative, kept, finish]
  · have kept : whole false (decimal n.natAbs) = some (.int n) := by
      simp only [whole, value, Bool.false_eq_true, if_false]
      rw [if_pos (by omega)]
      congr
      omega
    rw [decide_eq_false negative, kept, finish]

/-- The first character of an integer decides how the rest of it is read. -/
theorem decimalInt_cases {n : Int} (word : IsWord n) {rest : List Char} (ends : EndsNumber rest) :
    (∃ digits, decimalInt n ++ rest = '-' :: digits ∧
      readNumber true digits = .ok (.int n, rest)) ∨
    ∃ c digits, decimalInt n ++ rest = c :: digits ∧ c.isDigit = true ∧
      readNumber false (c :: digits) = .ok (.int n, rest) := by
  have read := readNumber_decimalInt word ends
  unfold decimalInt
  by_cases negative : n < 0
  · rw [decide_eq_true negative] at read
    rw [if_pos negative]
    exact .inl ⟨_, rfl, read⟩
  · obtain ⟨c, cs, text, digit, -⟩ := Text.decimal_eq_cons n.natAbs
    rw [decide_eq_false negative, text] at read
    rw [if_neg negative, text]
    exact .inr ⟨c, cs ++ rest, rfl, digit, read⟩

theorem reads_readAnyNumber {n : Int} (word : IsWord n) :
    Reads readAnyNumber (decimalInt n) (.int n) := by
  intro rest ends
  obtain ⟨digits, text, read⟩ | ⟨c, digits, text, digit, read⟩ := decimalInt_cases word ends
  · rw [text, readAnyNumber, atValue_cons _ rfl, if_pos rfl, read]
  · rw [text, readAnyNumber, atValue_cons _ (isSpace_of_isDigit digit),
      if_neg (ne_of_isDigit digit rfl), if_pos digit, read]

/-- An integer of a range that is within 64 bits. -/
theorem reads_readInt {range : Text.IntRange} (words : IsWord range.lo ∧ IsWord range.hi) {n : Int}
    (contains : range.Contains n) : Reads (readInt range) (decimalInt n) n := by
  intro rest ends
  have word : IsWord n := ⟨Int.le_trans words.1.1 contains.1, Int.le_trans contains.2 words.2.2⟩
  simp only [readInt, bind, Except.bind, reads_readAnyNumber word rest ends, if_pos contains]

/-! ## Strings -/

theorem readUnit_word {n : Nat} (h : n < 0x20) (rest : List Char) :
    readUnit (Text.Hex.word 4 n ++ rest) = .ok n := by
  have all : ∀ n, n < 0x20 → Text.Utf8.size (Text.Hex.word 4 n) = 4 ∧
      Text.Hex.nat? (Text.Hex.word 4 n) = some n := by decide
  obtain ⟨size, value⟩ := all n h
  have four : (Text.Hex.word 4 n ++ rest).take 4 = Text.Hex.word 4 n :=
    List.take_left' (Text.Hex.length_word 4 n)
  simp [readUnit, four, size, value]

/-- What is written for a character: itself where a string may hold it, else a backslash and what
is read behind one. -/
theorem escape_cases (c : Char) :
    (escape c = [c] ∧ c ≠ '"' ∧ c ≠ '\\' ∧ ¬ c.toNat < 0x20) ∨
      ∃ e, escape c = '\\' :: e ∧ ∀ rest, readEscape (e ++ rest) = .ok (c, e.length) := by
  unfold escape
  split
  · rename_i h; subst h; exact .inr ⟨['"'], rfl, fun rest => rfl⟩
  split
  · rename_i h; subst h; exact .inr ⟨['\\'], rfl, fun rest => rfl⟩
  split
  · rename_i h; subst h; exact .inr ⟨['b'], rfl, fun rest => rfl⟩
  split
  · rename_i h; subst h; exact .inr ⟨['f'], rfl, fun rest => rfl⟩
  split
  · rename_i h; subst h; exact .inr ⟨['n'], rfl, fun rest => rfl⟩
  split
  · rename_i h; subst h; exact .inr ⟨['r'], rfl, fun rest => rfl⟩
  split
  · rename_i h; subst h; exact .inr ⟨['t'], rfl, fun rest => rfl⟩
  split
  · rename_i small
    refine .inr ⟨'u' :: Text.Hex.word 4 c.toNat, rfl, fun rest => ?_⟩
    -- a control character is far below the surrogates
    have point : readCodePoint (Text.Hex.word 4 c.toNat ++ rest) = .ok (c, 4) := by
      rw [readCodePoint, readUnit_word small rest]
      show (if _ then _ else if _ then _ else _) = _
      rw [if_neg (by omega), if_pos (by omega), Char.ofNat_toNat]
    rw [List.cons_append, readEscape]
    simp [point, Except.map, Text.Hex.length_word]
  · rename_i quote backslash _ _ _ _ _ large
    exact .inl ⟨rfl, quote, backslash, large⟩

theorem readChars_skip (covered rest : List Char) :
    readChars covered.length (covered ++ rest) = readChars 0 rest := by
  induction covered with
  | nil => rfl
  | cons c covered ih => exact ih

theorem readChars_escape (c : Char) (rest : List Char) :
    readChars 0 (escape c ++ rest) = (readChars 0 rest).map fun r => (c :: r.1, r.2) := by
  obtain ⟨plain, quote, backslash, large⟩ | ⟨e, escaped, read⟩ := escape_cases c
  · rw [plain, List.singleton_append, readChars, if_neg quote, if_neg backslash, if_neg large]
  · rw [escaped, List.cons_append, readChars, if_neg (by decide), if_pos rfl, read]
    simp only [readChars_skip]

theorem readText_escaped (s : String) (rest : List Char) :
    readText (s.toList.flatMap escape ++ '"' :: rest) = .ok (s, rest) := by
  have chars : ∀ cs, readChars 0 (cs.flatMap escape ++ '"' :: rest) = .ok (cs, rest) := by
    intro cs
    induction cs with
    | nil => rfl
    | cons c cs ih =>
      rw [List.flatMap_cons, List.append_assoc, readChars_escape, ih]
      rfl
  rw [readText, chars]
  simp [Except.map]

theorem renderText_append (s : String) (rest : List Char) :
    renderText s ++ rest = '"' :: (s.toList.flatMap escape ++ '"' :: rest) := by
  simp [renderText]

theorem readString_renderText (s : String) (rest : List Char) :
    readString (renderText s ++ rest) = .ok (s, rest) := by
  rw [renderText_append, readString, atValue_cons _ rfl, if_pos rfl, readText_escaped]

/-! ## Arrays -/

/-- Texts with a comma in front of each. -/
def commaLed (texts : List (List Char)) : List Char := texts.flatMap fun text => ',' :: text

theorem commaSeparated_cons (text : List Char) (texts : List (List Char)) :
    commaSeparated (text :: texts) = text ++ commaLed texts := by
  induction texts generalizing text with
  | nil => simp [commaSeparated, commaLed]
  | cons next texts ih => simp [commaSeparated, commaLed, ih]

theorem commaLed_cons_append (text : List Char) (texts : List (List Char)) (rest : List Char) :
    commaLed (text :: texts) ++ rest = ',' :: (text ++ (commaLed texts ++ rest)) := by
  simp [commaLed]

theorem length_le_commaLed (texts : List (List Char)) : texts.length ≤ (commaLed texts).length := by
  induction texts with
  | nil => exact Nat.zero_le _
  | cons text texts ih =>
    simp only [commaLed, List.flatMap_cons, List.length_append, List.length_cons] at ih ⊢
    omega

theorem endsNumber_commaLed (texts : List (List Char)) {close : Char}
    (h : close = ']' ∨ close = '\x7d') (rest : List Char) :
    EndsNumber (commaLed texts ++ close :: rest) := by
  cases texts with
  | nil => exact endsNumber_cons (.inr h) rest
  | cons text texts => exact endsNumber_cons (.inl rfl) _

/-- A text that starts neither with white space nor with the end of an array. -/
def StartsItem (text : List Char) : Prop :=
  ∃ c cs, text = c :: cs ∧ isSpace c = false ∧ c ≠ ']'

theorem startsItem_decimalInt (n : Int) : StartsItem (decimalInt n) := by
  unfold decimalInt
  split
  · exact ⟨'-', _, rfl, rfl, by decide⟩
  · obtain ⟨c, cs, text, digit, -⟩ := Text.decimal_eq_cons n.natAbs
    exact ⟨c, cs, text, isSpace_of_isDigit digit, ne_of_isDigit digit rfl⟩

theorem nextItem_first {text : List Char} (starts : StartsItem text) (rest : List Char) :
    nextItem true (text ++ rest) = .ok (some (text ++ rest)) := by
  obtain ⟨c, cs, rfl, space, close⟩ := starts
  rw [List.cons_append, nextItem, skipSpace_cons space]
  simp [close]

theorem nextItem_comma {text : List Char} (starts : StartsItem text) (rest : List Char) :
    nextItem false (',' :: (text ++ rest)) = .ok (some (text ++ rest)) := by
  obtain ⟨c, cs, rfl, space, close⟩ := starts
  rw [nextItem, skipSpace_cons rfl]
  simp [skipSpace_cons space, close]

section

variable {α : Type} {item : Reader α} {text : α → List Char} {xs : List α} {fuel : Nat}

theorem readItems_cons {first : Bool} {cs more rest : List Char} {x : α}
    (next : nextItem first cs = .ok (some (text x ++ more))) (read : Reads item (text x) x)
    (ends : EndsNumber more) (others : readItems item fuel false more = .ok (xs, rest)) :
    readItems item (fuel + 1) first cs = .ok (x :: xs, rest) := by
  simp only [readItems, next, bind, Except.bind, read more ends, others]

theorem readItems_commaLed (each : ∀ x ∈ xs, Reads item (text x) x ∧ StartsItem (text x))
    (enough : xs.length < fuel) (rest : List Char) :
    readItems item fuel false (commaLed (xs.map text) ++ ']' :: rest) = .ok (xs, rest) := by
  induction xs generalizing fuel with
  | nil =>
    obtain ⟨fuel, rfl⟩ : ∃ n, fuel = n + 1 := ⟨fuel - 1, by omega⟩
    rfl
  | cons x xs ih =>
    obtain ⟨fuel, rfl⟩ : ∃ n, fuel = n + 1 := ⟨fuel - 1, by omega⟩
    obtain ⟨read, starts⟩ := each x (by simp)
    rw [List.map_cons, commaLed_cons_append]
    refine readItems_cons (nextItem_comma starts _) read (endsNumber_commaLed _ (.inl rfl) rest) ?_
    exact ih (fun y hy => each y (List.mem_cons_of_mem x hy)) (by simpa using enough)

/-- Items that are read back one by one are read back from their array, with the length of the
text behind the opening bracket as fuel. -/
theorem readItems_commaSeparated (each : ∀ x ∈ xs, Reads item (text x) x ∧ StartsItem (text x))
    {cs rest : List Char} (h : cs = commaSeparated (xs.map text) ++ ']' :: rest) :
    readItems item (cs.length + 1) true cs = .ok (xs, rest) := by
  cases xs with
  | nil => rw [h]; rfl
  | cons x xs =>
    obtain ⟨read, starts⟩ := each x (by simp)
    rw [List.map_cons, commaSeparated_cons, List.append_assoc] at h
    have enough : xs.length < cs.length := by
      have commas : xs.length ≤ (commaLed (xs.map text)).length := by
        simpa using length_le_commaLed (xs.map text)
      rw [h, List.length_append, List.length_append, List.length_cons]
      omega
    refine readItems_cons (by rw [h, nextItem_first starts]) read
      (endsNumber_commaLed _ (.inl rfl) rest) ?_
    exact readItems_commaLed (fun y hy => each y (List.mem_cons_of_mem x hy)) enough rest

theorem reads_readArray (each : ∀ x ∈ xs, Reads item (text x) x ∧ StartsItem (text x)) :
    Reads (readArray item) ('[' :: commaSeparated (xs.map text) ++ [']']) xs := by
  intro rest _
  rw [List.cons_append, List.cons_append, List.append_assoc, List.singleton_append, readArray,
    atValue_cons _ rfl, if_pos rfl, readItems_commaSeparated each rfl]

end

/-! ## Objects -/

section

variable {α : Type} {value : Reader α} {text : α → List Char} {xs : List (String × α)} {fuel : Nat}

/-- The text of a member. -/
def memberText (text : α → List Char) (m : String × α) : List Char :=
  renderText m.1 ++ ':' :: text m.2

theorem memberText_append (m : String × α) (more : List Char) :
    memberText text m ++ more =
      '"' :: (m.1.toList.flatMap escape ++ '"' :: ':' :: (text m.2 ++ more)) := by
  simp [memberText, renderText]

theorem readMembers_cons {first : Bool} {cs more rest : List Char} {m : String × α}
    (next : nextMember first cs =
      .ok (some (m.1.toList.flatMap escape ++ '"' :: ':' :: (text m.2 ++ more))))
    (read : Reads value (text m.2) m.2) (ends : EndsNumber more)
    (others : readMembers value fuel false more = .ok (xs, rest)) :
    readMembers value (fuel + 1) first cs = .ok (m :: xs, rest) := by
  have colon (cs : List Char) : readColon (':' :: cs) = .ok cs := rfl
  simp only [readMembers, next, bind, Except.bind, readText_escaped, colon, read more ends, others]

theorem readMembers_commaLed (each : ∀ m ∈ xs, Reads value (text m.2) m.2)
    (enough : xs.length < fuel) (rest : List Char) :
    readMembers value fuel false (commaLed (xs.map (memberText text)) ++ '\x7d' :: rest) =
      .ok (xs, rest) := by
  induction xs generalizing fuel with
  | nil =>
    obtain ⟨fuel, rfl⟩ : ∃ n, fuel = n + 1 := ⟨fuel - 1, by omega⟩
    rfl
  | cons m xs ih =>
    obtain ⟨fuel, rfl⟩ : ∃ n, fuel = n + 1 := ⟨fuel - 1, by omega⟩
    rw [List.map_cons, commaLed_cons_append, memberText_append]
    refine readMembers_cons rfl (each m (by simp)) (endsNumber_commaLed _ (.inr rfl) rest) ?_
    exact ih (fun y hy => each y (List.mem_cons_of_mem m hy)) (by simpa using enough)

/-- Members whose values are read back one by one are read back from their object. -/
theorem readMembers_commaSeparated (each : ∀ m ∈ xs, Reads value (text m.2) m.2)
    {cs rest : List Char}
    (h : cs = commaSeparated (xs.map (memberText text)) ++ '\x7d' :: rest) :
    readMembers value (cs.length + 1) true cs = .ok (xs, rest) := by
  cases xs with
  | nil => rw [h]; rfl
  | cons m xs =>
    rw [List.map_cons, commaSeparated_cons, List.append_assoc] at h
    have enough : xs.length < cs.length := by
      have commas : xs.length ≤ (commaLed (xs.map (memberText text))).length := by
        simpa using length_le_commaLed (xs.map (memberText text))
      rw [h, List.length_append, List.length_append, List.length_cons]
      omega
    refine readMembers_cons (by rw [h, memberText_append]; rfl) (each m (by simp))
      (endsNumber_commaLed _ (.inr rfl) rest) ?_
    exact readMembers_commaLed (fun y hy => each y (List.mem_cons_of_mem m hy)) enough rest

end

/-! ## Values -/

mutual

/-- Without fractions throughout. -/
def IsIntegral : Json → Prop
  | .number (.float _) => False
  | .array items => IntegralItems items
  | .object members => IntegralMembers members
  | _ => True

/-- No item has fractions. -/
def IntegralItems : List Json → Prop
  | [] => True
  | j :: js => IsIntegral j ∧ IntegralItems js

/-- The value of no member has fractions. -/
def IntegralMembers : List (String × Json) → Prop
  | [] => True
  | (_, j) :: ms => IsIntegral j ∧ IntegralMembers ms

end

/-- What a text keeps that may have so many levels. -/
structure IsExact (levels : Nat) (j : Json) : Prop where
  canonical : j.Canonical
  integral : j.IsIntegral
  depth_le : j.depth ≤ levels

theorem renderItems_eq_map (js : List Json) : renderItems js = js.map render := by
  induction js with
  | nil => rfl
  | cons j js ih => rw [renderItems, ih, List.map_cons]

theorem renderMembers_eq_map (ms : List (String × Json)) :
    renderMembers ms = ms.map (memberText render) := by
  induction ms with
  | nil => rfl
  | cons m ms ih => rw [renderMembers, ih, List.map_cons, memberText]

theorem IsExact.items {levels : Nat} {js : List Json} (h : IsExact (levels + 1) (.array js)) :
    ∀ j ∈ js, IsExact levels j := by
  obtain ⟨canonical, integral, deep⟩ := h
  simp only [Canonical, IsIntegral, depth] at canonical integral deep
  induction js with
  | nil => simp
  | cons j js ih =>
    simp only [CanonicalItems, IntegralItems, depthItems] at canonical integral deep
    have first : IsExact levels j := ⟨canonical.1, integral.1, by omega⟩
    exact List.forall_mem_cons.2 ⟨first, ih canonical.2 integral.2 (by omega)⟩

theorem IsExact.members {levels : Nat} {ms : List (String × Json)}
    (h : IsExact (levels + 1) (.object ms)) : ∀ m ∈ ms, IsExact levels m.2 := by
  obtain ⟨⟨-, canonical⟩, integral, deep⟩ := h
  simp only [IsIntegral, depth] at integral deep
  induction ms with
  | nil => simp
  | cons m ms ih =>
    simp only [CanonicalMembers, IntegralMembers, depthMembers] at canonical integral deep
    have first : IsExact levels m.2 := ⟨canonical.1, integral.1, by omega⟩
    exact List.forall_mem_cons.2 ⟨first, ih integral.2 (by omega) canonical.2⟩

theorem startsItem_render {j : Json} (h : j.IsIntegral) : StartsItem j.render := by
  cases j with
  | null => exact ⟨_, _, rfl, rfl, by decide⟩
  | bool b => cases b <;> exact ⟨_, _, rfl, rfl, by decide⟩
  | number n =>
    cases n with
    | int n => exact startsItem_decimalInt n
    | float x => exact h.elim
  | text s => exact ⟨_, _, rfl, rfl, by decide⟩
  | array items => exact ⟨_, _, rfl, rfl, by decide⟩
  | object members => exact ⟨_, _, rfl, rfl, by decide⟩

theorem readValue_decimalInt (levels : Nat) {n : Int} (word : IsWord n) :
    Reads (readValue levels) (decimalInt n) (.number (.int n)) := by
  intro rest ends
  obtain ⟨digits, text, read⟩ | ⟨c, digits, text, digit, read⟩ := decimalInt_cases word ends
  · rw [text, readValue, skipSpace_cons rfl]
    simp [read, Except.map]
  · have other {d : Char} (h : d.isDigit = false) : c ≠ d := ne_of_isDigit digit h
    rw [text, readValue, skipSpace_cons (isSpace_of_isDigit digit)]
    simp only [if_neg (other (d := 'n') rfl), if_neg (other (d := 't') rfl),
      if_neg (other (d := 'f') rfl), if_neg (other (d := '-') rfl), if_pos digit, read]
    rfl

theorem readValue_renderText (levels : Nat) (s : String) :
    Reads (readValue levels) (renderText s) (.text s) := by
  intro rest _
  rw [renderText_append, readValue, skipSpace_cons rfl]
  simp [readText_escaped, Except.map]

/-- Scalars are read at any depth. -/
theorem reads_render_scalar (levels : Nat) {j : Json} (h : j.IsExact 0) :
    Reads (readValue levels) j.render j := by
  obtain ⟨canonical, integral, flat⟩ := h
  cases j with
  | null =>
    intro rest _
    rw [readValue]
    rfl
  | bool b =>
    intro rest _
    rw [readValue]
    cases b <;> rfl
  | number n =>
    cases n with
    | int n => exact readValue_decimalInt levels canonical
    | float x => exact integral.elim
  | text s => exact readValue_renderText levels s
  | array items => exact absurd flat (Nat.not_succ_le_zero _)
  | object members => exact absurd flat (Nat.not_succ_le_zero _)

/-- What a text keeps is read back from it, inside a longer text too. -/
theorem reads_render {levels : Nat} {j : Json} (h : j.IsExact levels) :
    Reads (readValue levels) j.render j := by
  induction levels generalizing j with
  | zero => exact reads_render_scalar 0 h
  | succ levels ih =>
    cases j with
    | array items =>
      intro rest _
      have each : ∀ j ∈ items, Reads (readValue levels) j.render j ∧ StartsItem j.render :=
        fun j member => ⟨ih (h.items j member), startsItem_render (h.items j member).integral⟩
      rw [render, renderItems_eq_map, List.cons_append, List.cons_append, List.append_assoc,
        List.singleton_append, readValue, skipSpace_cons rfl]
      simp only [Char.reduceEq, show '['.isDigit = false from rfl, Bool.false_eq_true, if_false,
        if_true]
      rw [readItems_commaSeparated each rfl]
      rfl
    | object members =>
      intro rest _
      have each : ∀ m ∈ members, Reads (readValue levels) m.2.render m.2 :=
        fun m member => ih (h.members m member)
      rw [render, renderMembers_eq_map, List.cons_append, List.cons_append, List.append_assoc,
        List.singleton_append, readValue, skipSpace_cons rfl]
      simp only [Char.reduceEq, show '\x7b'.isDigit = false from rfl, Bool.false_eq_true, if_false,
        if_true]
      rw [readMembers_commaSeparated each rfl, Except.map,
        NameMap.insertAll_of_increasing h.canonical.1]
    | _ => exact reads_render_scalar _ ⟨h.canonical, h.integral, Nat.zero_le _⟩

/-! ## Whole texts -/

theorem readWhole_of_reads {α : Type} {read : Reader α} {text : List Char} {x : α}
    (h : Reads read text x) : readWhole read text = .ok x := by
  have alone := h [] endsNumber_nil
  rw [List.append_nil] at alone
  rw [readWhole, alone]
  rfl

/-- What a text keeps is read back from the compact text of it alone. -/
theorem parse_compact {j : Json} (h : j.IsExact maxLevels) : parse j.compact = .ok j := by
  rw [parse, compact, String.toList_ofList]
  exact readWhole_of_reads (reads_render h)

end QueryLoom.Json
