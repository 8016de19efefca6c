import Mathlib.Data.List.Infix

/-!
# Legible texts

Texts from which one can tell what was written and where it ends, as long as what comes behind them
begins in one of a few known ways.

* `Apart` : of two texts neither begins with the other;
* `Behind` : the ways in which a text may go on;
* `Legible` : texts that say what was written and where it ends;
* `Legible.of_span`, `Legible.append`, `Legible.tagged`, `Legible.optional`, `Legible.separated`,
  `Legible.repeated` : legible texts are made of legible parts.
-/

namespace QueryLoom

/-! ## Texts that differ from their first characters -/

/-- Neither text begins with the other. -/
def Apart (s t : String) : Prop := ¬ s.toList <+: t.toList ∧ ¬ t.toList <+: s.toList

instance (s t : String) : Decidable (Apart s t) := inferInstanceAs (Decidable (_ ∧ _))

theorem Apart.append_ne {s t : String} (h : Apart s t) (x y : List Char) :
    s.toList ++ x ≠ t.toList ++ y := by
  intro same
  have left : s.toList <+: s.toList ++ x := List.prefix_append _ _
  have right : t.toList <+: s.toList ++ x := by
    rw [same]
    exact List.prefix_append _ _
  rcases List.prefix_or_prefix_of_prefix left right with front | front
  · exact h.1 front
  · exact h.2 front

/-! ## What comes behind -/

/-- The text is over, or it goes on with one of the leads. -/
def Behind (leads : List String) (r : List Char) : Prop :=
  r = [] ∨ ∃ lead ∈ leads, lead.toList <+: r

namespace Behind

variable {leads more : List String} {lead : String} {r t : List Char}

theorem nil : Behind leads [] := .inl rfl

theorem of_mem (h : lead ∈ leads) (r : List Char) : Behind leads (lead.toList ++ r) :=
  .inr ⟨lead, h, List.prefix_append _ _⟩

theorem mono (sub : leads ⊆ more) (h : Behind leads r) : Behind more r := by
  obtain ended | ⟨lead, member, front⟩ := h
  · exact .inl ended
  · exact .inr ⟨lead, sub member, front⟩

/-- A part that may be missing comes first. -/
theorem append (h : Behind leads t) (k : Behind more r) : Behind (leads ++ more) (t ++ r) := by
  obtain rfl | ⟨lead, member, front⟩ := h
  · exact k.mono (List.subset_append_right _ _)
  · exact .inr ⟨lead, List.mem_append_left _ member, front.trans (List.prefix_append _ _)⟩

/-- What comes behind does not begin with another lead. -/
theorem append_ne (h : Behind leads r) (some : lead ≠ "") (apart : ∀ l ∈ leads, Apart lead l)
    (x : List Char) : lead.toList ++ x ≠ r := by
  intro same
  obtain rfl | ⟨l, member, y, rfl⟩ := h
  · exact some (by simpa using (List.append_eq_nil_iff.1 same).1)
  · exact (apart l member).append_ne x y same

end Behind

/-! ## Legible texts -/

/-- From a text and what comes behind it one can tell the key of what was written, and what comes
behind. -/
def Legible {α κ : Type} (text : α → String) (key : α → κ) (valid : α → Prop)
    (leads : List String) : Prop :=
  ∀ a b, valid a → valid b → ∀ r r', Behind leads r → Behind leads r' →
    (text a).toList ++ r = (text b).toList ++ r' → key a = key b ∧ r = r'

namespace Legible

variable {α κ μ τ : Type} {text more : α → String} {key : α → κ} {valid : α → Prop}
  {leads leads' : List String} {lead sep : String}

/-! ### Single parts -/

/-- A text that says all about what was written, and whose characters are all of a kind that does
not come behind. -/
theorem of_span {p : Char → Bool} (within : ∀ a, valid a → ∀ c ∈ (text a).toList, p c = true)
    (stops : ∀ l ∈ leads, (l.toList.head?.any fun c => !p c) = true)
    (injective : ∀ a b, valid a → valid b → text a = text b → key a = key b) :
    Legible text key valid leads := by
  intro a b ha hb r r' behind behind' same
  have stop {r : List Char} (behind : Behind leads r) : r.takeWhile p = [] := by
    obtain rfl | ⟨l, member, x, rfl⟩ := behind
    · rfl
    · obtain ⟨c, first, other⟩ := (Option.any_eq_true _ _).1 (stops l member)
      obtain ⟨cs, chars⟩ := List.head?_eq_some_iff.1 first
      rw [chars, List.cons_append, List.takeWhile_cons_of_neg (by simpa using other)]
  have span {a : α} (ha : valid a) {r : List Char} (behind : Behind leads r) :
      ((text a).toList ++ r).takeWhile p = (text a).toList := by
    rw [List.takeWhile_append_of_pos (within a ha), stop behind, List.append_nil]
  have texts : (text a).toList = (text b).toList := by
    rw [← span ha behind, same, span hb behind']
  rw [texts] at same
  exact ⟨injective a b ha hb (String.toList_inj.1 texts), List.append_cancel_left same⟩

/-- Nothing has to be told from a text that is always the same. -/
theorem const (s : String) (valid : α → Prop) (leads : List String) :
    Legible (fun _ => s) (fun _ => ()) valid leads :=
  fun _ _ _ _ _ _ _ _ same => ⟨rfl, List.append_cancel_left same⟩

/-! ### Changes of view -/

theorem mono (h : Legible text key valid leads') (sub : leads ⊆ leads') :
    Legible text key valid leads :=
  fun a b ha hb r r' behind behind' => h a b ha hb r r' (behind.mono sub) (behind'.mono sub)

/-- What can be told from the key can be told from the text. -/
theorem rekey {key' : α → μ} (h : Legible text key valid leads)
    (tell : ∀ a b, valid a → valid b → key a = key b → key' a = key' b) :
    Legible text key' valid leads := by
  intro a b ha hb r r' behind behind' same
  obtain ⟨keys, rest⟩ := h a b ha hb r r' behind behind' same
  exact ⟨tell a b ha hb keys, rest⟩

theorem congr {text' : α → String} (h : Legible text key valid leads)
    (same : ∀ a, valid a → text' a = text a) : Legible text' key valid leads := by
  intro a b ha hb r r' behind behind' texts
  rw [same a ha, same b hb] at texts
  exact h a b ha hb r r' behind behind' texts

theorem comap {β : Type} (h : Legible text key valid leads) (f : β → α) :
    Legible (fun b => text (f b)) (fun b => key (f b)) (fun b => valid (f b)) leads :=
  fun a b => h (f a) (f b)

theorem weaken {valid' : α → Prop} (h : Legible text key valid leads)
    (sub : ∀ a, valid' a → valid a) : Legible text key valid' leads :=
  fun a b ha hb => h a b (sub a ha) (sub b hb)

/-! ### Parts in a row -/

/-- A part in front of another one, which is empty or begins with one of its leads. -/
theorem append {key' : α → μ} (h : Legible text key valid (leads ++ leads'))
    (k : Legible more key' valid leads') (opens : ∀ a, valid a → Behind leads (more a).toList) :
    Legible (fun a => text a ++ more a) (fun a => (key a, key' a)) valid leads' := by
  intro a b ha hb r r' behind behind' same
  simp only [String.toList_append, List.append_assoc] at same
  obtain ⟨keys, rest⟩ :=
    h a b ha hb _ _ ((opens a ha).append behind) ((opens b hb).append behind') same
  obtain ⟨keys', rest'⟩ := k a b ha hb r r' behind behind' rest
  exact ⟨Prod.ext keys keys', rest'⟩

theorem after (lead : String) (h : Legible text key valid leads) :
    Legible (fun a => lead ++ text a) key valid leads := by
  intro a b ha hb r r' behind behind' same
  simp only [String.toList_append, List.append_assoc] at same
  exact h a b ha hb r r' behind behind' (List.append_cancel_left same)

theorem before (h : Legible text key valid [lead]) :
    Legible (fun a => text a ++ lead) key valid leads := by
  have opens : ∀ a, valid a → Behind [lead] lead.toList := fun _ _ =>
    .inr ⟨lead, List.mem_singleton_self _, List.prefix_rfl⟩
  intro a b ha hb r r' behind behind' same
  simp only [String.toList_append, List.append_assoc] at same
  obtain ⟨keys, rest⟩ := h a b ha hb _ _ (.of_mem (List.mem_singleton_self _) r)
    (.of_mem (List.mem_singleton_self _) r') same
  exact ⟨keys, List.append_cancel_left rest⟩

/-! ### Choices -/

/-- A part behind a tag, and the tags are told apart by their first characters. -/
theorem tagged (tag : α → τ) (front : τ → String)
    (apart : ∀ s t, s ≠ t → Apart (front s) (front t))
    (h : ∀ t, Legible text key (fun a => tag a = t ∧ valid a) leads) :
    Legible (fun a => front (tag a) ++ text a) (fun a => (tag a, key a)) valid leads := by
  intro a b ha hb r r' behind behind' same
  simp only [String.toList_append, List.append_assoc] at same
  by_cases tags : tag b = tag a
  · rw [tags] at same
    obtain ⟨keys, rest⟩ := h (tag a) a b ⟨rfl, ha⟩ ⟨tags, hb⟩ r r' behind behind'
      (List.append_cancel_left same)
    exact ⟨Prod.ext tags.symm keys, rest⟩
  · exact absurd same.symm ((apart _ _ tags).append_ne _ _)

/-- A part that may be missing; what is missing has a key of its own. -/
theorem optional {present : α → Bool} (lead : String) (missing : κ) (some : lead ≠ "")
    (apart : ∀ l ∈ leads, Apart lead l)
    (h : Legible text key (fun a => present a = true ∧ valid a) leads)
    (absent : ∀ a, valid a → present a = false → key a = missing) :
    Legible (fun a => if present a then lead ++ text a else "") key valid leads := by
  intro a b ha hb r r' behind behind' same
  cases pa : present a with
  | true =>
    cases pb : present b with
    | true =>
      simp only [pa, pb, if_true, String.toList_append, List.append_assoc] at same
      exact h a b ⟨pa, ha⟩ ⟨pb, hb⟩ r r' behind behind' (List.append_cancel_left same)
    | false =>
      simp only [pa, pb, if_true, String.toList_append, List.append_assoc] at same
      exact absurd same (behind'.append_ne some apart _)
  | false =>
    cases pb : present b with
    | true =>
      simp only [pa, pb, if_true, String.toList_append, List.append_assoc] at same
      exact absurd same.symm (behind.append_ne some apart _)
    | false =>
      simp only [pa, pb] at same
      exact ⟨by rw [absent a ha pa, absent b hb pb], same⟩

/-! ### Lists -/

/-- Items one after the other, each of which begins with one of their leads. -/
theorem repeated (h : Legible text key valid (leads ++ leads')) (some : "" ∉ leads)
    (opens : ∀ a, valid a → ∃ l ∈ leads, l.toList <+: (text a).toList)
    (apart : ∀ l ∈ leads, ∀ l' ∈ leads', Apart l l') :
    Legible (fun xs : List α => String.join (xs.map text)) (List.map key)
      (fun xs => ∀ x ∈ xs, valid x) leads' := by
  have behinds {xs : List α} (hxs : ∀ x ∈ xs, valid x) :
      Behind leads (String.join (xs.map text)).toList := by
    cases xs with
    | nil => exact .nil
    | cons x xs =>
      obtain ⟨l, member, front⟩ := opens x (hxs x (by simp))
      refine .inr ⟨l, member, front.trans ?_⟩
      simp [String.toList_join]
  have ne {x : α} (hx : valid x) {r s : List Char} (behind : Behind leads' r) :
      (text x).toList ++ s ≠ r := by
    obtain ⟨l, member, t, chars⟩ := opens x hx
    rw [← chars, List.append_assoc]
    exact behind.append_ne (fun empty => some (empty ▸ member)) (apart l member) _
  intro xs ys hxs hys r r' behind behind' same
  induction xs generalizing ys with
  | nil =>
    cases ys with
    | nil => exact ⟨rfl, by simpa using same⟩
    | cons y ys =>
      simp only [List.map_cons, String.join_cons, String.toList_append, List.append_assoc] at same
      exact absurd same.symm (ne (hys y (by simp)) behind)
  | cons x xs ih =>
    cases ys with
    | nil =>
      simp only [List.map_cons, String.join_cons, String.toList_append, List.append_assoc] at same
      exact absurd same (ne (hxs x (by simp)) behind')
    | cons y ys =>
      simp only [List.map_cons, String.join_cons, String.toList_append, List.append_assoc] at same
      have rest {zs : List α} (z : α) (h : ∀ x ∈ z :: zs, valid x) : ∀ x ∈ zs, valid x :=
        fun x hx => h x (List.mem_cons_of_mem _ hx)
      obtain ⟨first, others⟩ := h x y (hxs x (by simp)) (hys y (by simp)) _ _
        ((behinds (rest x hxs)).append behind) ((behinds (rest y hys)).append behind') same
      obtain ⟨keys, ends⟩ := ih ys (rest x hxs) (rest y hys) others
      exact ⟨by simp [first, keys], ends⟩

/-- Items with a separator between them are one item and, behind it, the separator with an item over
and over. -/
theorem intercalate_eq_join (sep : String) (text : α → String) (x : α) (xs : List α) :
    sep.intercalate ((x :: xs).map text) =
      text x ++ String.join (xs.map fun y => sep ++ text y) := by
  induction xs generalizing x with
  | nil => simp
  | cons y ys ih =>
    have rest := ih y
    simp only [List.map_cons, String.intercalate_cons_cons, String.join_cons] at rest ⊢
    rw [rest]
    simp only [String.append_assoc]

/-- Items with a separator between them, of which there is at least one. -/
theorem separated (h : Legible text key valid (sep :: leads)) (some : sep ≠ "")
    (apart : ∀ l ∈ leads, Apart sep l) :
    Legible (fun xs : List α => sep.intercalate (xs.map text)) (List.map key)
      (fun xs => xs ≠ [] ∧ ∀ x ∈ xs, valid x) leads := by
  have front (y : α) : sep.toList <+: (sep ++ text y).toList := by simp
  have others : Legible (fun ys : List α => String.join (ys.map fun y => sep ++ text y))
      (List.map key) (fun ys => ∀ y ∈ ys, valid y) leads := by
    have each : Legible (fun y => sep ++ text y) key valid ([sep] ++ leads) := h.after sep
    exact each.repeated (by simpa using some.symm)
      (fun y _ => ⟨sep, List.mem_singleton_self _, front y⟩) (by simpa using apart)
  have opens (ys : List α) :
      Behind [sep] (String.join (ys.map fun y => sep ++ text y)).toList := by
    cases ys with
    | nil => exact .nil
    | cons y ys => exact .inr ⟨sep, List.mem_singleton_self _, by simp⟩
  have whole : Legible
      (fun p : α × List α => text p.1 ++ String.join (p.2.map fun y => sep ++ text y))
      (fun p => (key p.1, p.2.map key)) (fun p => valid p.1 ∧ ∀ y ∈ p.2, valid y) leads :=
    append ((h.comap Prod.fst).weaken fun p hp => hp.1)
      ((others.comap Prod.snd).weaken fun p hp => hp.2) fun p _ => opens p.2
  intro xs ys hxs hys r r' behind behind' same
  obtain ⟨x, xs, rfl⟩ := List.exists_cons_of_ne_nil hxs.1
  obtain ⟨y, ys, rfl⟩ := List.exists_cons_of_ne_nil hys.1
  simp only [intercalate_eq_join] at same
  obtain ⟨keys, rest⟩ := whole (x, xs) (y, ys) (List.forall_mem_cons.1 hxs.2)
    (List.forall_mem_cons.1 hys.2) r r' behind behind' same
  obtain ⟨first, following⟩ := Prod.mk.inj keys
  exact ⟨congrArg₂ List.cons first following, rest⟩

end Legible

end QueryLoom
