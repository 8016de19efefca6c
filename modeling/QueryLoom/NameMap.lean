/-!
# Named values in the order of their names

Lists of name and value in which every name stands at most once, names in the order of their
characters' code points (which is also the order of their UTF-8 bytes).

* `NameMap.insert` : sets the value of a name; `NameMap.erase` : forgets a name;
* `NameMap.increasing_insertAll` : whatever is set in whatever order, the names increase strictly;
* `NameMap.insertAll_of_perm` : entries of different names are put in order.
-/

namespace QueryLoom.NameMap

/-- Sets the value of a name, at its place in the order of names; an earlier value is replaced. -/
def insert {α : Type} (name : String) (value : α) : List (String × α) → List (String × α)
  | [] => [(name, value)]
  | (k, v) :: rest =>
    if name < k then (name, value) :: (k, v) :: rest
    else if name = k then (name, value) :: rest
    else (k, v) :: insert name value rest

/-- The entries set one after the other, so that the last of a name stays. -/
def insertAll {α : Type} (entries : List (String × α)) : List (String × α) :=
  entries.foldl (fun acc e => insert e.1 e.2 acc) []

/-- The value of a name. -/
def find? {α : Type} (name : String) : List (String × α) → Option α
  | [] => none
  | (k, v) :: rest => if k = name then some v else find? name rest

/-- The entries without those of a name. -/
def erase {α : Type} (name : String) (entries : List (String × α)) : List (String × α) :=
  entries.filter fun e => e.1 != name

/-- A name that was just set has its value. -/
theorem find?_insert_self {α : Type} (name : String) (value : α) (entries : List (String × α)) :
    find? name (insert name value entries) = some value := by
  induction entries with
  | nil => simp [insert, find?]
  | cons e rest ih =>
    obtain ⟨k, v⟩ := e
    rw [insert]
    split
    · simp [find?]
    · split
      · simp [find?]
      · rename_i ne
        simp [find?, Ne.symm ne, ih]

/-- Setting a name leaves the others alone. -/
theorem find?_insert_of_ne {α : Type} {name other : String} (h : other ≠ name) (value : α)
    (entries : List (String × α)) :
    find? other (insert name value entries) = find? other entries := by
  induction entries with
  | nil => simp [insert, find?, Ne.symm h]
  | cons e rest ih =>
    obtain ⟨k, v⟩ := e
    rw [insert]
    split
    · rw [find?, if_neg (Ne.symm h)]
    · split
      · rename_i same
        subst same
        simp [find?, Ne.symm h]
      · simp [find?, ih]

theorem find?_erase_self {α : Type} (name : String) (entries : List (String × α)) :
    find? name (erase name entries) = none := by
  induction entries with
  | nil => rfl
  | cons e rest ih =>
    by_cases same : e.1 = name
    · simpa [erase, same] using ih
    · simpa [erase, same, find?] using ih

/-- Forgetting a name leaves the others alone. -/
theorem find?_erase_of_ne {α : Type} {name other : String} (h : other ≠ name)
    (entries : List (String × α)) :
    find? other (erase name entries) = find? other entries := by
  induction entries with
  | nil => rfl
  | cons e rest ih =>
    rw [erase] at ih
    rw [erase, List.filter_cons]
    by_cases same : e.1 = name
    · have here : e.1 ≠ other := fun also => h (also.symm.trans same)
      have first : (e.1 != name) = false := by simp [same]
      rw [first, if_neg Bool.false_ne_true, ih, find?, if_neg here]
    · have first : (e.1 != name) = true := by simp [same]
      rw [first, if_pos rfl, find?, find?, ih]

/-! ## Order -/

/-- The names increase strictly. -/
def Increasing {α : Type} (entries : List (String × α)) : Prop :=
  entries.Pairwise fun a b => a.1 < b.1

theorem name_mem_insert {α : Type} {name : String} {value : α} {entries : List (String × α)}
    {e : String × α} (h : e ∈ insert name value entries) : e.1 = name ∨ e ∈ entries := by
  induction entries with
  | nil => simp [insert] at h; simp [h]
  | cons d rest ih =>
    obtain ⟨k, v⟩ := d
    rw [insert] at h
    split at h
    · rcases List.mem_cons.1 h with rfl | h
      · exact .inl rfl
      · exact .inr h
    · split at h
      · rcases List.mem_cons.1 h with rfl | h
        · exact .inl rfl
        · exact .inr (List.mem_cons_of_mem _ h)
      · rcases List.mem_cons.1 h with rfl | h
        · exact .inr (by simp)
        · rcases ih h with h | h
          · exact .inl h
          · exact .inr (List.mem_cons_of_mem _ h)

theorem increasing_insert {α : Type} (name : String) (value : α) {entries : List (String × α)}
    (h : Increasing entries) : Increasing (insert name value entries) := by
  induction entries with
  | nil => simp [insert, Increasing]
  | cons d rest ih =>
    obtain ⟨k, v⟩ := d
    obtain ⟨above, increasing⟩ := List.pairwise_cons.1 h
    rw [insert]
    split
    · rename_i less
      refine List.pairwise_cons.2 ⟨fun e he => ?_, h⟩
      rcases List.mem_cons.1 he with rfl | he
      · exact less
      · exact String.lt_trans less (above e he)
    · split
      · rename_i same
        subst same
        exact List.pairwise_cons.2 ⟨above, increasing⟩
      · rename_i notLess ne
        refine List.pairwise_cons.2 ⟨fun e he => ?_, ih increasing⟩
        rcases name_mem_insert he with he | he
        · rw [he]
          exact Std.lt_of_le_of_ne (Std.not_lt.1 notLess) (Ne.symm ne)
        · exact above e he

/-- Whatever is set in whatever order, the names increase strictly. -/
theorem increasing_insertAll {α : Type} (entries : List (String × α)) :
    Increasing (insertAll entries) := by
  have step : ∀ (es acc : List (String × α)), Increasing acc →
      Increasing (es.foldl (fun acc e => insert e.1 e.2 acc) acc) := by
    intro es
    induction es with
    | nil => intro acc h; exact h
    | cons e es ih => intro acc h; exact ih _ (increasing_insert e.1 e.2 h)
  exact step entries [] List.Pairwise.nil

/-- A name behind all others is set at the end. -/
theorem insert_of_below {α : Type} {name : String} (value : α) {entries : List (String × α)}
    (h : ∀ e ∈ entries, e.1 < name) : insert name value entries = entries ++ [(name, value)] := by
  induction entries with
  | nil => rfl
  | cons e rest ih =>
    obtain ⟨k, v⟩ := e
    have less : k < name := h (k, v) (by simp)
    have other : name ≠ k := fun same => String.lt_irrefl k (same ▸ less)
    rw [insert, if_neg (String.lt_asymm less), if_neg other,
      ih fun d hd => h d (List.mem_cons_of_mem _ hd), List.cons_append]

/-- Entries that are in order stay as they are. -/
theorem insertAll_of_increasing {α : Type} {entries : List (String × α)} (h : Increasing entries) :
    insertAll entries = entries := by
  have step : ∀ (es acc : List (String × α)), Increasing (acc ++ es) →
      es.foldl (fun acc e => insert e.1 e.2 acc) acc = acc ++ es := by
    intro es
    induction es with
    | nil => intro acc _; simp
    | cons e es ih =>
      intro acc ordered
      have below : ∀ d ∈ acc, d.1 < e.1 := fun d hd =>
        (List.pairwise_append.1 ordered).2.2 d hd e (by simp)
      rw [List.foldl_cons, insert_of_below e.2 below, ih _ (by simpa using ordered)]
      simp
  exact step entries [] h

/-! ## Lengths -/

variable {α : Type} {name : String} {value old : α} {entries : List (String × α)}

/-- A name that stands behind all others is not among them. -/
theorem find?_of_above (h : ∀ e ∈ entries, name < e.1) : find? name entries = none := by
  induction entries with
  | nil => rfl
  | cons e rest ih =>
    have other : e.1 ≠ name := fun same => String.lt_irrefl name (same ▸ h e (by simp))
    rw [find?, if_neg other]
    exact ih fun d hd => h d (List.mem_cons_of_mem _ hd)

/-- Among names in order, what stands under a name is found. -/
theorem find?_of_mem (names : Increasing entries) (h : (name, value) ∈ entries) :
    find? name entries = some value := by
  induction entries with
  | nil => cases h
  | cons e rest ih =>
    obtain ⟨above, increasing⟩ := List.pairwise_cons.1 names
    rcases List.mem_cons.1 h with rfl | later
    · exact if_pos rfl
    · have less : e.1 < name := above (name, value) later
      have other : e.1 ≠ name := fun same => String.lt_irrefl name (same ▸ less)
      rw [find?, if_neg other]
      exact ih increasing later

/-- What is found stands under its name. -/
theorem mem_of_find? (h : find? name entries = some value) : (name, value) ∈ entries := by
  induction entries with
  | nil => cases h
  | cons e rest ih =>
    obtain ⟨k, v⟩ := e
    by_cases same : k = name
    · rw [find?, if_pos same] at h
      cases h
      exact same ▸ List.mem_cons_self
    · rw [find?, if_neg same] at h
      exact List.mem_cons_of_mem _ (ih h)

theorem length_insert_of_none (h : find? name entries = none) :
    (insert name value entries).length = entries.length + 1 := by
  induction entries with
  | nil => rfl
  | cons e rest ih =>
    obtain ⟨k, v⟩ := e
    by_cases same : k = name
    · rw [find?, if_pos same] at h
      cases h
    · rw [find?, if_neg same] at h
      rw [insert]
      split
      · rfl
      · rw [if_neg (Ne.symm same), List.length_cons, ih h, List.length_cons]

theorem length_insert_of_some (names : Increasing entries) (h : find? name entries = some old) :
    (insert name value entries).length = entries.length := by
  induction entries with
  | nil => cases h
  | cons e rest ih =>
    obtain ⟨k, v⟩ := e
    obtain ⟨above, increasing⟩ := List.pairwise_cons.1 names
    rw [insert]
    split
    · rename_i less
      -- A name in front of the first one would not have been found.
      have missing : find? name ((k, v) :: rest) = none := by
        refine find?_of_above fun d hd => ?_
        rcases List.mem_cons.1 hd with rfl | hd
        · exact less
        · exact String.lt_trans less (above d hd)
      rw [missing] at h
      cases h
    · split
      · rfl
      · rename_i other
        rw [find?, if_neg (Ne.symm other)] at h
        rw [List.length_cons, ih increasing h, List.length_cons]

theorem length_erase_of_some (names : Increasing entries) (h : find? name entries = some old) :
    (erase name entries).length + 1 = entries.length := by
  induction entries with
  | nil => cases h
  | cons e rest ih =>
    obtain ⟨above, increasing⟩ := List.pairwise_cons.1 names
    by_cases same : e.1 = name
    · have others : rest.filter (fun d => d.1 != name) = rest := by
        refine List.filter_eq_self.2 fun d hd => ?_
        have less : e.1 < d.1 := above d hd
        rw [bne_iff_ne]
        rintro rfl
        exact String.lt_irrefl _ (same ▸ less)
      have first : (e.1 != name) = false := by simp [same]
      rw [erase, List.filter_cons, first, if_neg Bool.false_ne_true, others, List.length_cons]
    · have first : (e.1 != name) = true := by simp [same]
      rw [find?, if_neg same] at h
      have rest := ih increasing h
      rw [erase] at rest
      rw [erase, List.filter_cons, first, if_pos rfl, List.length_cons, List.length_cons, rest]

theorem increasing_erase (names : Increasing entries) : Increasing (erase name entries) :=
  List.Pairwise.filter _ names

/-! ## Entries in any order -/

/-- A new name is set beside the others. -/
theorem perm_insert (h : ∀ e ∈ entries, e.1 ≠ name) :
    (insert name value entries).Perm ((name, value) :: entries) := by
  induction entries with
  | nil => rfl
  | cons e rest ih =>
    obtain ⟨k, v⟩ := e
    have other : k ≠ name := h (k, v) (by simp)
    rw [insert]
    split
    · rfl
    · rw [if_neg (Ne.symm other)]
      have set := ih fun d hd => h d (List.mem_cons_of_mem _ hd)
      exact (set.cons _).trans (List.Perm.swap ..)

/-- Entries of different names all stay. -/
theorem perm_insertAll (distinct : (entries.map Prod.fst).Nodup) :
    (insertAll entries).Perm entries := by
  have step : ∀ (es acc : List (String × α)), ((acc ++ es).map Prod.fst).Nodup →
      (es.foldl (fun acc e => insert e.1 e.2 acc) acc).Perm (acc ++ es) := by
    intro es
    induction es with
    | nil => intro acc _; simp
    | cons e es ih =>
      intro acc distinct
      have moved : (acc ++ e :: es).Perm ((e :: acc) ++ es) := List.perm_middle
      have apart := (moved.map Prod.fst).nodup_iff.1 distinct
      have new : ∀ d ∈ acc, d.1 ≠ e.1 := by
        intro d hd same
        refine (List.nodup_cons.1 apart).1 ?_
        rw [← same]
        exact List.mem_map_of_mem (List.mem_append_left _ hd)
      have set : (insert e.1 e.2 acc).Perm (e :: acc) := perm_insert new
      rw [List.foldl_cons]
      exact (ih _ (((set.append_right es).map Prod.fst).nodup_iff.2 apart)).trans
        ((set.append_right es).trans moved.symm)
  exact step entries [] distinct

/-- Entries of different names are put in order from whatever order they come in. -/
theorem insertAll_of_perm {ordered : List (String × α)} (names : Increasing ordered)
    (h : entries.Perm ordered) : insertAll entries = ordered := by
  have distinct : (ordered.map Prod.fst).Nodup := by
    refine List.pairwise_map.2 (names.imp ?_)
    intro a b less same
    rw [same] at less
    exact String.lt_irrefl _ less
  have stays := perm_insertAll ((h.map Prod.fst).nodup_iff.2 distinct)
  exact List.Perm.eq_of_pairwise (fun _ _ _ _ less more => absurd more (String.lt_asymm less))
    (increasing_insertAll entries) names (stays.trans h)

end QueryLoom.NameMap
