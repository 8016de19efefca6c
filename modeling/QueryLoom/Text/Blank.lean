/-!
# Blank characters

White space as Unicode lists it, and what is built on it: trimming, the words of a text, and the
comma-separated items of a list.

* `trim_eq_self` : a text that neither starts nor ends with white space is its own trimming;
* `words_of_no_blank` : a text without white space is one word.
-/

namespace QueryLoom.Text

/-! ## The class -/

/-- White space: the characters with the Unicode property `White_Space`. -/
def isBlank (c : Char) : Bool :=
  let n := c.toNat
  (9 ≤ n && n ≤ 13) || n == 0x20 || n == 0x85 || n == 0xA0 || n == 0x1680 ||
    (0x2000 ≤ n && n ≤ 0x200A) || n == 0x2028 || n == 0x2029 || n == 0x202F || n == 0x205F ||
    n == 0x3000

/-- Visible ASCII characters are no white space. -/
theorem isBlank_of_visible {c : Char} (low : 33 ≤ c.toNat) (high : c.toNat ≤ 126) :
    isBlank c = false := by
  simp only [isBlank, Bool.or_eq_false_iff, Bool.and_eq_false_imp, decide_eq_true_eq,
    decide_eq_false_iff_not, beq_eq_false_iff_ne]
  omega

/-- A digit is no white space. -/
theorem isBlank_of_isDigit {c : Char} (h : c.isDigit = true) : isBlank c = false := by
  have range : 48 ≤ c.toNat ∧ c.toNat ≤ 57 := by
    simp only [Char.isDigit, Bool.and_eq_true, decide_eq_true_eq, ge_iff_le,
      UInt32.le_iff_toNat_le] at h
    exact h
  exact isBlank_of_visible (by omega) (by omega)

/-! ## Trimming -/

/-- The text after its leading white space. -/
def skipBlank (cs : List Char) : List Char := cs.dropWhile isBlank

/-- The text without the white space at either end. -/
def trim (cs : List Char) : List Char := (skipBlank (skipBlank cs).reverse).reverse

theorem skipBlank_cons_of_not {c : Char} (cs : List Char) (h : isBlank c = false) :
    skipBlank (c :: cs) = c :: cs := by
  simp [skipBlank, h]

/-- A text whose first and last characters are no white space is its own trimming. -/
theorem trim_eq_self {cs : List Char} (hd : ∀ c, cs.head? = some c → isBlank c = false)
    (hl : ∀ c, cs.getLast? = some c → isBlank c = false) : trim cs = cs := by
  have front : skipBlank cs = cs := by
    cases cs with
    | nil => rfl
    | cons c rest => exact skipBlank_cons_of_not rest (hd c rfl)
  have back : skipBlank cs.reverse = cs.reverse := by
    cases h : cs.reverse with
    | nil => rfl
    | cons c rest =>
      have : cs.getLast? = some c := by
        rw [List.getLast?_eq_head?_reverse, h]; rfl
      exact skipBlank_cons_of_not rest (hl c this)
  rw [trim, front, back, List.reverse_reverse]

/-! ## Words -/

/-- Puts a character that is no white space before the words of the text `cs` that follows it:
it opens a word of its own when `cs` starts with white space, else it lengthens the first. -/
def attach (c : Char) (cs : List Char) (ws : List (List Char)) : List (List Char) :=
  match cs, ws with
  | d :: _, w :: rest => if isBlank d then [c] :: w :: rest else (c :: w) :: rest
  | _, _ => [c] :: ws

/-- The maximal runs of characters that are not white space, in order. -/
def words : List Char → List (List Char)
  | [] => []
  | c :: cs => if isBlank c then words cs else attach c cs (words cs)

/-- A text without white space is a single word, unless it is empty. -/
theorem words_of_no_blank {c : Char} {cs : List Char} (h : ∀ d ∈ c :: cs, isBlank d = false) :
    words (c :: cs) = [c :: cs] := by
  induction cs generalizing c with
  | nil => simp [words, attach, h c (by simp)]
  | cons d cs ih =>
    have hc := h c (by simp)
    have hd := h d (by simp)
    have rest := ih fun x hx => h x (List.mem_cons_of_mem _ hx)
    rw [words, rest]
    simp [hc, attach, hd]

/-! ## Items between separators -/

/-- The stretches between occurrences of a separator; a text without one is a single stretch. -/
def splitAt (sep : Char) : List Char → List (List Char)
  | [] => [[]]
  | c :: cs =>
    if c = sep then [] :: splitAt sep cs
    else
      match splitAt sep cs with
      | [] => [[c]]
      | item :: items => (c :: item) :: items

theorem splitAt_ne_nil (sep : Char) (cs : List Char) : splitAt sep cs ≠ [] := by
  cases cs with
  | nil => simp [splitAt]
  | cons c cs =>
    rw [splitAt]
    split
    · simp
    · split <;> simp

/-- The items of a comma-separated list: trimmed, the empty ones left out. -/
def items (cs : List Char) : List (List Char) :=
  ((splitAt ',' cs).map trim).filter fun item => !item.isEmpty

end QueryLoom.Text
