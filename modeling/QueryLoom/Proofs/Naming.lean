import Mathlib.Data.List.Induction
import QueryLoom.Row.Form

/-!
# Columns by name

A row may have several columns of one name, and columns without a value. A reading by name takes the
first column of the name, and the row's object keeps the last one that has a value.

* `NameMap.valuesOf`, `Row.named` : everything that stands under a name, in order;
* `NameMap.find?_insertAll` : of the entries set for a name, the last one is found;
* `Row.getByName_json` : of the values of a name, the first one is read;
* `reading_by_name` : where the two agree, and where they do not.
-/

namespace QueryLoom

/-! ## Entries of a name -/

namespace NameMap

variable {α : Type}

/-- The values of a name, in the order of the entries. -/
def valuesOf (name : String) (entries : List (String × α)) : List α :=
  entries.filterMap fun e => if e.1 = name then some e.2 else none

/-- Of the entries that were set one after the other, the last of a name is found. -/
theorem find?_insertAll (name : String) (entries : List (String × α)) :
    find? name (insertAll entries) = (valuesOf name entries).getLast? := by
  -- By induction from the back, since the last entry is set last.
  induction entries using List.reverseRecOn with
  | nil => rfl
  | append_singleton entries e ih =>
    have set : insertAll (entries ++ [e]) = insert e.1 e.2 (insertAll entries) := by
      simp [insertAll]
    rw [set]
    by_cases same : e.1 = name
    · subst same
      rw [find?_insert_self]
      simp [valuesOf]
    · rw [find?_insert_of_ne (Ne.symm same), ih]
      simp [valuesOf, same]

/-- The names decide what stands under a name, not the values. -/
theorem valuesOf_zip_map {β : Type} (f : α → β) (name : String) (names : List String)
    (values : List α) :
    valuesOf name (names.zip (values.map f)) = (valuesOf name (names.zip values)).map f := by
  induction names generalizing values with
  | nil => rfl
  | cons n names ih =>
    cases values with
    | nil => rfl
    | cons v values =>
      simp only [valuesOf] at ih
      by_cases same : n = name <;> simp [valuesOf, same, ih]

/-- The first place of a name has the first of its values; if nothing stands there, the name has no
values. -/
theorem head?_valuesOf_zip (name : String) (names : List String) (values : List α) :
    (valuesOf name (names.zip values)).head? =
      (names.findIdx? (· == name)).bind fun i => values[i]? := by
  induction names generalizing values with
  | nil => rfl
  | cons n names ih =>
    cases values with
    | nil => simp [valuesOf]
    | cons v values =>
      by_cases same : n = name
      · simp [valuesOf, same, List.findIdx?_cons]
      · have later : (n :: names).findIdx? (· == name) =
            (names.findIdx? (· == name)).map (· + 1) := by simp [List.findIdx?_cons, same]
        have rest : valuesOf name ((n, v) :: names.zip values) =
            valuesOf name (names.zip values) := by simp [valuesOf, same]
        rw [List.zip_cons_cons, rest, ih, later, Option.bind_map]
        rfl

/-- A name has no more values than places. -/
theorem length_valuesOf_zip_le (name : String) (names : List String) (values : List α) :
    (valuesOf name (names.zip values)).length ≤ names.count name := by
  induction names generalizing values with
  | nil => simp [valuesOf]
  | cons n names ih =>
    cases values with
    | nil => simp [valuesOf]
    | cons v values =>
      have rest := ih values
      simp only [valuesOf] at rest
      by_cases same : n = name <;> simpa [valuesOf, same] using rest

end NameMap

/-! ## Columns of a name -/

namespace Row

/-- The values of the columns of a name, in the order of the columns. -/
def named (r : Row) (name : String) : List Value := NameMap.valuesOf name (r.columns.zip r.values)

/-- In the object of a row a name has the last of its values. -/
theorem find?_members (r : Row) (name : String) :
    NameMap.find? name r.members = (r.named name).getLast?.map Value.toJson := by
  rw [members, NameMap.find?_insertAll, NameMap.valuesOf_zip_map, List.getLast?_map, named]

/-- Everything can be read as JSON, so a reading by name gives the first value of the name and fails
only if there is none. -/
theorem getByName_json (r : Row) (name : String) :
    match (r.named name).head? with
    | some v => r.getByName name .json = .ok v.toJson
    | none => ∃ e, r.getByName name .json = .error e := by
  rw [named, NameMap.head?_valuesOf_zip]
  unfold getByName position?
  cases r.columns.findIdx? (· == name) with
  | none => exact ⟨_, rfl⟩
  | some i =>
    simp only [Option.bind_some, get]
    cases r.values[i]? with
    | none => exact ⟨_, rfl⟩
    | some v => rfl

end Row

/-! ## Main statement -/

/-- If a name cannot be read as JSON, the object of the row has no such member. If it can, the
object has one: the reading gives the first value of the name, and the object the last, so both are
the same where the name stands once. -/
theorem reading_by_name (r : Row) (name : String) :
    r.readForm .object = .ok (.object r.members) ∧
    (∀ e, r.getByName name .json = .error e → NameMap.find? name r.members = none) ∧
    ∀ j, r.getByName name .json = .ok j →
      (∃ first last, (r.named name).head? = some first ∧ (r.named name).getLast? = some last ∧
        j = first.toJson ∧ NameMap.find? name r.members = some last.toJson) ∧
      (r.columns.count name = 1 → NameMap.find? name r.members = some j) := by
  have read := r.getByName_json name
  refine ⟨rfl, fun e failed => ?_, fun j given => ?_⟩
  · cases first : (r.named name).head? with
    | some v =>
      rw [first, failed] at read
      cases read
    | none => rw [r.find?_members, List.head?_eq_none_iff.1 first]; rfl
  · cases values : r.named name with
    | nil =>
      rw [values] at read
      obtain ⟨e, failed⟩ := read
      rw [failed] at given
      cases given
    | cons v vs =>
      rw [values] at read
      have same : j = v.toJson := Except.ok.inj (given.symm.trans read)
      have last : ((v :: vs).getLast?) = some ((v :: vs).getLast (by simp)) :=
        List.getLast?_eq_some_getLast _
      have found : NameMap.find? name r.members = some ((v :: vs).getLast (by simp)).toJson := by
        rw [r.find?_members, values, last]
        rfl
      refine ⟨⟨v, _, rfl, last, same, found⟩, fun once => ?_⟩
      have bound := NameMap.length_valuesOf_zip_le name r.columns r.values
      rw [once, ← Row.named, values] at bound
      obtain rfl : vs = [] := by simpa using bound
      rw [found, same]
      rfl

/-- Of two columns of one name with different values, the object keeps the one that is not read. -/
theorem reading_by_repeated_name :
    ¬ ∀ (r : Row) (name : String) (j : Json), r.getByName name .json = .ok j →
      NameMap.find? name r.members = some j := by
  intro agrees
  have found := agrees ⟨["id", "id"], [.int64 1, .int64 2]⟩ "id" (.number (.int 1)) rfl
  revert found
  decide

end QueryLoom
