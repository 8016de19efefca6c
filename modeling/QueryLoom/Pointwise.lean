import Mathlib.Data.List.Forall2

/-!
# Lists that are related entry by entry

What may be done with two lists whose entries are related, one with one, so that they stay so.
-/

namespace QueryLoom

variable {α : Type} {R : α → α → Prop} {l l' : List α}

theorem forall₂_getElem? (h : List.Forall₂ R l l') (n : Nat) : Option.Rel R l[n]? l'[n]? := by
  induction h generalizing n with
  | nil => exact .none
  | cons here _ ih =>
    cases n with
    | zero => exact .some here
    | succ n => exact ih n

theorem forall₂_set (h : List.Forall₂ R l l') (n : Nat) {x x' : α} (k : R x x') :
    List.Forall₂ R (l.set n x) (l'.set n x') := by
  induction h generalizing n with
  | nil => exact .nil
  | cons here rest ih =>
    cases n with
    | zero => exact .cons k rest
    | succ n => exact .cons here (ih n)

theorem forall₂_eraseIdx (h : List.Forall₂ R l l') (n : Nat) :
    List.Forall₂ R (l.eraseIdx n) (l'.eraseIdx n) := by
  rw [List.eraseIdx_eq_take_drop_succ, List.eraseIdx_eq_take_drop_succ]
  exact List.rel_append (List.forall₂_take n h) (List.forall₂_drop (n + 1) h)

theorem forall₂_concat (h : List.Forall₂ R l l') {x x' : α} (k : R x x') :
    List.Forall₂ R (l ++ [x]) (l' ++ [x']) :=
  List.rel_append h (.cons k .nil)

/-- Front parts of the same length are related, and so is what follows them. -/
theorem forall₂_append_inv {a b c d : List α} (length : a.length = c.length)
    (h : List.Forall₂ R (a ++ b) (c ++ d)) : List.Forall₂ R a c ∧ List.Forall₂ R b d := by
  have front := List.forall₂_take_append _ c d h
  have back := List.forall₂_drop_append _ c d h
  rw [← length, List.take_left] at front
  rw [← length, List.drop_left] at back
  exact ⟨front, back⟩

/-- Where the relation keeps what is looked for, it is found in both lists or in neither. -/
theorem forall₂_find? (h : List.Forall₂ R l l') {p : α → Bool}
    (same : ∀ x x', R x x' → p x = p x') : Option.Rel R (l.find? p) (l'.find? p) := by
  induction h with
  | nil => exact .none
  | @cons x x' _ _ here _ ih =>
    rw [List.find?_cons, List.find?_cons, ← same _ _ here]
    cases p x with
    | true => exact .some here
    | false => exact ih

end QueryLoom
