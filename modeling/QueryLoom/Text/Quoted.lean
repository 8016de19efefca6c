import QueryLoom.Text.Hex
import QueryLoom.Text.Unprintable

/-!
# Quoted text

Text between double quotes, as log lines and messages show it: the quote, the backslash and what
does not print are escaped.

* `quote_plain` : a text of letters and digits stands between the quotes as it is.
-/

namespace QueryLoom.Text

/-- An escape by code point. -/
def codePointEscape (c : Char) : List Char :=
  ['\\', 'u', '\x7b'] ++ Hex.ofNat c.toNat ++ ['\x7d']

/-- A character inside the quotes. -/
def escapeQuoted (c : Char) : List Char :=
  if c = '\x00' then ['\\', '0']
  else if c = '\t' then ['\\', 't']
  else if c = '\n' then ['\\', 'n']
  else if c = '\x0d' then ['\\', 'r']
  else if c = '"' then ['\\', '"']
  else if c = '\\' then ['\\', '\\']
  else if isUnprintable c then codePointEscape c
  else [c]

/-- A text between quotes. -/
def quote (cs : List Char) : List Char := '"' :: cs.flatMap escapeQuoted ++ ['"']

/-- Letters, digits and the underscore are shown as they are. -/
theorem escapeQuoted_plain {c : Char} (h : c.isAlphanum = true ∨ c = '_') :
    escapeQuoted c = [c] := by
  have range : 0x30 ≤ c.toNat ∧ c.toNat ≤ 0x7A ∧ c.toNat ≠ 0x5C := by
    rcases h with h | rfl
    · have ranges : ((decide ('A'.val ≤ c.val ∧ c.val ≤ 'Z'.val) ||
          decide ('a'.val ≤ c.val) && decide (c.val ≤ 'z'.val)) ||
          decide ('0'.val ≤ c.val) && decide (c.val ≤ '9'.val)) = true := h
      simp only [Bool.or_eq_true, Bool.and_eq_true, decide_eq_true_eq,
        UInt32.le_iff_toNat_le] at ranges
      have value : ∀ d : Char, d.val.toNat = d.toNat := fun _ => rfl
      simp only [value, show 'A'.toNat = 65 from rfl, show 'Z'.toNat = 90 from rfl,
        show 'a'.toNat = 97 from rfl, show 'z'.toNat = 122 from rfl,
        show '0'.toNat = 48 from rfl, show '9'.toNat = 57 from rfl] at ranges
      omega
    · decide
  have ne : ∀ d : Char, d.toNat < 0x30 ∨ d.toNat = 0x5C → c ≠ d := by
    rintro d hd rfl; omega
  have printable : isUnprintable c = false := by
    rw [isUnprintable, if_pos (by omega)]
  simp [escapeQuoted, printable, ne '\x00' (by decide), ne '\t' (by decide), ne '\n' (by decide),
    ne '\x0d' (by decide), ne '"' (by decide), ne '\\' (by decide)]

/-- A text of letters, digits and underscores stands between the quotes as it is. -/
theorem quote_plain {cs : List Char} (h : ∀ c ∈ cs, c.isAlphanum = true ∨ c = '_') :
    quote cs = '"' :: cs ++ ['"'] := by
  have same : cs.flatMap escapeQuoted = cs := by
    induction cs with
    | nil => rfl
    | cons c cs ih =>
      rw [List.flatMap_cons, escapeQuoted_plain (h c (by simp)),
        ih fun d hd => h d (List.mem_cons_of_mem _ hd)]
      rfl
  rw [quote, same]

end QueryLoom.Text
