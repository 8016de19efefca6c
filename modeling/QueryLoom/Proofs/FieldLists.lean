import QueryLoom.Draft.Call
import QueryLoom.Proofs.Integers

/-!
# Lists of fields

Fields may be given one by one, or as one text with commas between them. The text is split at its
commas, each piece is trimmed, and the pieces without a name in them are left out.

* `Text.IsItem` : the texts that one piece can give;
* `Text.Padded` : pieces between commas, and the items that they give;
* `Text.items_eq_iff` : the items of a text are those of the pieces that it is joined of;
* `fields_as_text` : giving fields as a text and giving them one by one, on every draft.
-/

namespace QueryLoom

/-! ## Pieces -/

namespace Text

theorem splitAt_eq_splitOn (sep : Char) (cs : List Char) : splitAt sep cs = cs.splitOn sep := by
  induction cs with
  | nil => rfl
  | cons c cs ih =>
    rw [splitAt, List.splitOn_cons_eq_if_modifyHead, ← ih]
    by_cases same : c = sep
    · rw [if_pos same, if_pos (beq_iff_eq.2 same)]
    · rw [if_neg same, if_neg (mt beq_iff_eq.1 same)]
      cases pieces : splitAt sep cs with
      | nil => exact absurd pieces (splitAt_ne_nil sep cs)
      | cons piece pieces => rfl

/-- No piece has a separator in it. -/
theorem not_mem_of_mem_splitAt {sep : Char} {cs piece : List Char} (h : piece ∈ splitAt sep cs) :
    sep ∉ piece := by
  induction cs generalizing piece with
  | nil =>
    rw [splitAt, List.mem_singleton] at h
    simp [h]
  | cons c cs ih =>
    rw [splitAt] at h
    split at h
    · rcases List.mem_cons.1 h with rfl | later
      · simp
      · exact ih later
    · rename_i other
      cases pieces : splitAt sep cs with
      | nil => exact absurd pieces (splitAt_ne_nil sep cs)
      | cons first rest =>
        simp only [pieces] at h ih
        rcases List.mem_cons.1 h with rfl | later
        · have clean := ih List.mem_cons_self
          simp [clean, Ne.symm other]
        · exact ih (List.mem_cons_of_mem _ later)

/-! ## Trimmed texts -/

/-- What is left of a text when leading white space is skipped does not start with any. -/
theorem isBlank_of_head?_skipBlank (cs : List Char) :
    ∀ c ∈ (skipBlank cs).head?, isBlank c = false := by
  intro c first
  have stopped := List.head?_dropWhile_not isBlank cs
  rw [← skipBlank, Option.mem_def.1 first] at stopped
  exact stopped

/-- A trimmed text has no white space at its start. -/
theorem isBlank_of_head?_trim (cs : List Char) : ∀ c ∈ (trim cs).head?, isBlank c = false := by
  obtain ⟨back, whole⟩ : trim cs <+: skipBlank cs := by
    rw [trim, ← List.reverse_suffix, List.reverse_reverse]
    exact List.dropWhile_suffix isBlank
  intro c first
  refine isBlank_of_head?_skipBlank cs c ?_
  rw [← whole, List.head?_append, Option.mem_def.1 first]
  rfl

/-- A trimmed text has no white space at its end. -/
theorem isBlank_of_getLast?_trim (cs : List Char) :
    ∀ c ∈ (trim cs).getLast?, isBlank c = false := by
  intro c last
  rw [trim, List.getLast?_reverse] at last
  exact isBlank_of_head?_skipBlank _ c last

/-! ## Items -/

/-- A text that one piece of a list can give: there is something in it, but no comma, and no white
space at either end. -/
structure IsItem (cs : List Char) : Prop where
  nonempty : cs ≠ []
  whole : ',' ∉ cs
  first : ∀ c ∈ cs.head?, isBlank c = false
  last : ∀ c ∈ cs.getLast?, isBlank c = false

/-- Pieces, and the items that they give: a piece is an item with any white space around it, or
nothing but white space, which gives no item. -/
inductive Padded : List (List Char) → List (List Char) → Prop
  | nil : Padded [] []
  | blank {piece : List Char} {pieces items : List (List Char)}
      (blanks : ∀ c ∈ piece, isBlank c = true) (rest : Padded pieces items) :
      Padded (piece :: pieces) items
  | item {front item back : List Char} {pieces items : List (List Char)}
      (blanks : ∀ c ∈ front ++ back, isBlank c = true) (valid : IsItem item)
      (rest : Padded pieces items) : Padded ((front ++ item ++ back) :: pieces) (item :: items)

variable {pieces is : List (List Char)}

/-- A comma is no white space. -/
theorem not_mem_of_blank {cs : List Char} (blanks : ∀ c ∈ cs, isBlank c = true) : ',' ∉ cs := by
  intro comma
  have blank := blanks ',' comma
  exact absurd blank (by decide)

theorem Padded.whole (h : Padded pieces is) : ∀ piece ∈ pieces, ',' ∉ piece := by
  induction h with
  | nil => simp
  | blank blanks _ ih => exact List.forall_mem_cons.2 ⟨not_mem_of_blank blanks, ih⟩
  | item blanks valid _ ih =>
    refine List.forall_mem_cons.2 ⟨fun comma => ?_, ih⟩
    have around := not_mem_of_blank blanks
    have inside := valid.whole
    simp only [List.mem_append, not_or] at comma around
    rcases comma with (comma | comma) | comma
    · exact around.1 comma
    · exact inside comma
    · exact around.2 comma

theorem Padded.valid (h : Padded pieces is) : ∀ i ∈ is, IsItem i := by
  induction h with
  | nil => simp
  | blank _ _ ih => exact ih
  | item _ valid _ ih => exact List.forall_mem_cons.2 ⟨valid, ih⟩

/-- Items may stand without any white space around them. -/
theorem padded_self (valid : ∀ i ∈ is, IsItem i) : Padded is is := by
  induction is with
  | nil => exact .nil
  | cons i is ih =>
    obtain ⟨here, others⟩ := List.forall_mem_cons.1 valid
    have around : ∀ c ∈ ([] : List Char) ++ [], isBlank c = true := List.forall_mem_nil _
    simpa using Padded.item around here (ih others)

/-- The pieces, each trimmed, without the empty ones. -/
theorem Padded.trimmed (h : Padded pieces is) :
    (pieces.map trim).filter (fun i => !i.isEmpty) = is := by
  induction h with
  | nil => rfl
  | @blank piece pieces is blanks _ ih =>
    have nothing : trim piece = [] := by
      have around : ∀ c ∈ piece ++ [], isBlank c = true := by simpa using blanks
      simpa using @trim_around piece [] [] around (List.forall_mem_nil _)
    rw [List.map_cons, nothing, List.filter_cons_of_neg (by simp), ih]
  | item blanks valid _ ih =>
    have kept := trim_padded blanks valid.first valid.last
    rw [List.map_cons, kept, List.filter_cons_of_pos (by simp [valid.nonempty]), ih]

/-- Pieces without commas give what is left of them when they are trimmed. -/
theorem padded_trimmed (whole : ∀ piece ∈ pieces, ',' ∉ piece) :
    Padded pieces ((pieces.map trim).filter fun i => !i.isEmpty) := by
  induction pieces with
  | nil => exact .nil
  | cons piece pieces ih =>
    obtain ⟨here, others⟩ := List.forall_mem_cons.1 whole
    obtain ⟨front, back, blanks, split⟩ := exists_around_trim piece
    rw [List.map_cons]
    by_cases nothing : trim piece = []
    · rw [List.filter_cons_of_neg (by simp [nothing])]
      rw [nothing, List.append_nil] at split
      exact .blank (split ▸ blanks) (ih others)
    · have inside : ',' ∉ trim piece := by
        intro comma
        refine here ?_
        rw [split]
        simp [comma]
      have valid : IsItem (trim piece) :=
        ⟨nothing, inside, isBlank_of_head?_trim piece, isBlank_of_getLast?_trim piece⟩
      rw [List.filter_cons_of_pos (by simp [nothing])]
      have padded := Padded.item blanks valid (ih others)
      rwa [← split] at padded

theorem padded_iff :
    Padded pieces is ↔
      (∀ piece ∈ pieces, ',' ∉ piece) ∧ (pieces.map trim).filter (fun i => !i.isEmpty) = is := by
  constructor
  · exact fun padded => ⟨padded.whole, padded.trimmed⟩
  · rintro ⟨whole, rfl⟩
    exact padded_trimmed whole

instance (pieces is : List (List Char)) : Decidable (Padded pieces is) :=
  decidable_of_iff _ padded_iff.symm

/-- The items of a text are those of the pieces that it is joined of. -/
theorem items_eq_iff {cs : List Char} :
    items cs = is ↔ ∃ pieces, cs = [','].intercalate pieces ∧ Padded pieces is := by
  constructor
  · rintro rfl
    refine ⟨splitAt ',' cs, ?_, padded_trimmed fun piece => not_mem_of_mem_splitAt⟩
    rw [splitAt_eq_splitOn, List.intercalate_splitOn]
  · rintro ⟨pieces, rfl, padded⟩
    cases pieces with
    | nil =>
      -- The empty text is joined of no pieces, but is split into one, which is blank.
      cases padded
      rfl
    | cons piece pieces =>
      have split := List.splitOn_intercalate ',' padded.whole (List.cons_ne_nil piece pieces)
      rw [items, splitAt_eq_splitOn, split, padded.trimmed]

end Text

/-! ## Fields -/

/-- The fields of a text are those of the pieces that it is joined of. -/
theorem fieldsOfText_eq_iff {text : String} {names : List String} :
    fieldsOfText text = names ↔ ∃ pieces : List String,
      text = ",".intercalate pieces ∧
        Text.Padded (pieces.map String.toList) (names.map String.toList) := by
  constructor
  · rintro rfl
    obtain ⟨pieces, joined, padded⟩ := Text.items_eq_iff.1 (Eq.refl (Text.items text.toList))
    refine ⟨pieces.map String.ofList, ?_, ?_⟩
    · rw [← String.toList_inj, String.toList_intercalate, joined]
      simp [Function.comp_def]
    · simpa [fieldsOfText, Function.comp_def] using padded
  · rintro ⟨pieces, rfl, padded⟩
    have items : Text.items (",".intercalate pieces).toList = names.map String.toList := by
      rw [Text.items_eq_iff, String.toList_intercalate]
      exact ⟨_, rfl, padded⟩
    rw [fieldsOfText, items]
    simp [Function.comp_def]

/-- Names with commas between them are the fields of their text. -/
theorem fieldsOfText_intercalate {names : List String}
    (valid : ∀ name ∈ names, Text.IsItem name.toList) :
    fieldsOfText (",".intercalate names) = names :=
  fieldsOfText_eq_iff.2 ⟨names, rfl, Text.padded_self (List.forall_mem_map.2 valid)⟩

/-! ## Main statement -/

/-- Names that are given as one text, with any white space around each, commas between them and any
number of blank pieces anywhere, do the same to a draft as the names given one by one. And every
text is one of this kind: the fields that it adds behind those of the draft have something in them,
no comma, and no white space at either end, and are added again when they are given as one text. -/
theorem fields_as_text :
    (∀ pieces names : List String,
      Text.Padded (pieces.map String.toList) (names.map String.toList) →
        ∀ d : Draft, d.apply (.selectText (",".intercalate pieces)) = d.apply (.select names)) ∧
    ∀ text, ∃ pieces names : List String,
      text = ",".intercalate pieces ∧
      Text.Padded (pieces.map String.toList) (names.map String.toList) ∧
      (∀ name ∈ names, Text.IsItem name.toList) ∧
      ∀ d : Draft,
        d.apply (.selectText text) = { d with fields := d.fields ++ names } ∧
        d.apply (.selectText (",".intercalate names)) = { d with fields := d.fields ++ names } := by
  refine ⟨fun pieces names padded d => ?_, fun text => ?_⟩
  · have same : fieldsOfText (",".intercalate pieces) = names :=
      fieldsOfText_eq_iff.2 ⟨pieces, rfl, padded⟩
    simp only [Draft.apply, same]
  · obtain ⟨pieces, joined, padded⟩ := fieldsOfText_eq_iff.1 (Eq.refl (fieldsOfText text))
    have valid := List.forall_mem_map.1 padded.valid
    refine ⟨pieces, fieldsOfText text, joined, padded, valid, fun d => ⟨rfl, ?_⟩⟩
    rw [Draft.apply, fieldsOfText_intercalate valid]

/-- Two names between blank pieces, one of them with an ideographic space in front of it. -/
def sparsePieces : List String := ["\u3000id ", "", " total price\t", "\n"]

/-- The space within a name is part of it, and the blank pieces are no fields. -/
theorem fields_as_text_sparsePieces :
    Text.Padded (sparsePieces.map String.toList) (["id", "total price"].map String.toList) ∧
      ∀ d : Draft, d.apply (.selectText "\u3000id ,, total price\t,\n") =
        d.apply (.select ["id", "total price"]) := by
  have padded :
      Text.Padded (sparsePieces.map String.toList) (["id", "total price"].map String.toList) := by
    decide
  exact ⟨padded, fields_as_text.1 sparsePieces ["id", "total price"] padded⟩

end QueryLoom
