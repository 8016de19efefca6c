import QueryLoom.Proofs.ByteTexts
import QueryLoom.Proofs.Ending

/-!
# Payloads that are maps

A map without an order of its own lists its entries in whatever order it happens to have, and an
ordered one is filled in whatever order its entries come. Neither shows in a statement.

* `Payload.MapOf` : the maps with given entries;
* `Payload.sortByColumn_of_increasing` : sorting leaves no choice when the columns are different;
* `Payload.columns_mapOf` : all maps with the same entries stand for the same list;
* `maps_alike` : they make the same statements, with every value at its own column.
-/

namespace QueryLoom

namespace Payload

/-- A payload that is a map with the given entries: one that lists them in some order, or one that
keeps its keys in order and was given the entries in some order. -/
inductive MapOf (entries : List (String × Value)) : Payload → Prop
  | unordered {listed : List (String × Value)} (same : listed.Perm entries) :
      MapOf entries (.unordered listed)
  | ordered {added : List (String × Value)} (same : added.Perm entries) :
      MapOf entries (.ordered added)

/-- Entries of different columns are sorted in one way only. -/
theorem sortByColumn_of_increasing {listed increasing : List (String × Value)}
    (names : NameMap.Increasing increasing) (same : listed.Perm increasing) :
    sortByColumn listed = increasing := by
  have perm : (sortByColumn listed).Perm increasing := (perm_unordered listed).trans same
  refine perm.eq_of_pairwise (fun a b left right ab ba => ?_) (pairwise_sortByColumn listed)
    (names.imp fun less => Std.le_of_lt less)
  -- Both stand among the entries, so with one column they are the same entry.
  have column : a.1 = b.1 := String.le_antisymm ab ba
  have found : NameMap.find? b.1 increasing = some a.2 :=
    NameMap.find?_of_mem names (column ▸ perm.subset left)
  have also : NameMap.find? b.1 increasing = some b.2 := NameMap.find?_of_mem names right
  exact Prod.ext column (Option.some.inj (found.symm.trans also))

/-- All maps with the same entries stand for the same list. -/
theorem columns_mapOf {entries : List (String × Value)} {p : Payload}
    (distinct : (entries.map Prod.fst).Nodup) (h : p.MapOf entries) :
    p.columns = NameMap.insertAll entries := by
  have names := NameMap.increasing_insertAll entries
  have stays := (NameMap.perm_insertAll distinct).symm
  cases h with
  | unordered same => exact sortByColumn_of_increasing names (same.trans stays)
  | ordered same => exact NameMap.insertAll_of_perm names (same.trans stays)

end Payload

/-! ## Statements -/

/-- The `INSERT` of one row with the given columns. -/
def insertOf (table : String) (columns : List (String × Value)) : Statement where
  sql := "INSERT INTO " ++ table ++ "(" ++ ",".intercalate (columns.map (·.1)) ++ ") VALUES(" ++
    marks columns.length ++ ")"
  params := columns.map (·.2)

/-- The `UPDATE` that sets the given columns in the rows that a draft describes. -/
def updateOf (table : String) (columns : List (String × Value)) (d : Draft) : Statement where
  sql := "UPDATE " ++ table ++ " SET " ++ ",".intercalate (columns.map fun c => c.1 ++ "=?") ++
    d.whereText
  params := columns.map (·.2) ++ d.whereArguments

namespace Session

variable {σ β : Type} [Database σ] {s : Session σ} {b : Builder} {p q : Payload}

/-- Only the list that a payload stands for counts. -/
theorem finish_of_columns (h : p.columns = q.columns) (memory : β) :
    s.finish b (.insert p) memory = s.finish b (.insert q) memory ∧
      s.finish b (.update p) memory = s.finish b (.update q) memory := by
  have carried : b.draft.carrying p = b.draft.carrying q := by
    rw [Draft.carrying, Draft.carrying, h]
  simp only [finish, carried]
  exact ⟨trivial, trivial⟩

variable {table : String} (clean : b.draft.firstError = none) (chosen : b.draft.table = some table)
  (some : p.columns ≠ [])
include clean chosen some

/-- What the database receives from an `INSERT`. -/
theorem database_finish_insert (memory : β) :
    (s.finish b (.insert p) memory).2.database =
      (Database.execute b.target (insertOf table p.columns) s.database).2 := by
  have compiled : (b.draft.carrying p).compile .insert = .ok (insertOf table p.columns) := by
    simp only [Draft.compile, Draft.carrying, chosen, List.isEmpty_iff, if_neg some]
    rfl
  have ready : s.prepare ((Terminal.insert (β := β) p).builder b) .insert =
      (.ok (insertOf table p.columns), s) := prepare_of_compile_ok clean compiled
  exact (finish_of_change (by simp [Terminal.kind]) ready memory).1

/-- What the database receives from an `UPDATE`. -/
theorem database_finish_update (memory : β) :
    (s.finish b (.update p) memory).2.database =
      (Database.execute b.target (updateOf table p.columns b.draft) s.database).2 := by
  have compiled :
      (b.draft.carrying p).compile .update = .ok (updateOf table p.columns b.draft) := by
    simp only [Draft.compile, Draft.carrying, chosen, List.isEmpty_iff, if_neg some]
    rfl
  have ready : s.prepare ((Terminal.update (β := β) p).builder b) .update =
      (.ok (updateOf table p.columns b.draft), s) := prepare_of_compile_ok clean compiled
  exact (finish_of_change (by simp [Terminal.kind]) ready memory).1

end Session

/-! ## Main statement -/

/-- All maps with the same entries, of different columns, stand for one list: the entries in the
order of the bytes of their columns, which increase strictly. Ending a builder with any of them is
ending it with that list, and what the database receives then has the columns of the list in its
text and their values as the first arguments, in the same order. -/
theorem maps_alike {entries : List (String × Value)} (distinct : (entries.map Prod.fst).Nodup) :
    ∃ columns : List (String × Value),
      columns.Perm entries ∧
      (columns.Pairwise fun a b =>
        Text.Utf8.encode a.1.toList < Text.Utf8.encode b.1.toList) ∧
      (∀ p : Payload, p.MapOf entries → p.columns = columns) ∧
      ∀ {σ β : Type} [Database σ] (s : Session σ) (b : Builder) (memory : β) (p : Payload),
        p.MapOf entries →
          s.finish b (.insert p) memory = s.finish b (.insert (.listed columns)) memory ∧
          s.finish b (.update p) memory = s.finish b (.update (.listed columns)) memory ∧
          ∀ table, b.draft.firstError = none → b.draft.table = some table → columns ≠ [] →
            (s.finish b (.insert p) memory).2.database =
                (Database.execute b.target (insertOf table columns) s.database).2 ∧
            (s.finish b (.update p) memory).2.database =
                (Database.execute b.target (updateOf table columns b.draft) s.database).2 := by
  have names := NameMap.increasing_insertAll entries
  refine ⟨NameMap.insertAll entries, NameMap.perm_insertAll distinct,
    names.imp Text.Utf8.encode_lt_iff.2, fun p map => Payload.columns_mapOf distinct map,
    fun s b memory p map => ?_⟩
  have same : p.columns = NameMap.insertAll entries := Payload.columns_mapOf distinct map
  obtain ⟨inserts, updates⟩ := Session.finish_of_columns
    (s := s) (b := b) (p := p) (q := .listed (NameMap.insertAll entries)) same memory
  refine ⟨inserts, updates, fun table clean chosen some => ?_⟩
  rw [← same] at some ⊢
  exact ⟨Session.database_finish_insert clean chosen some memory,
    Session.database_finish_update clean chosen some memory⟩

/-- Three columns, in the order of their bytes; as pairs of units of 16 bits the last of them would
stand before the second. -/
def reactions : List (String × Value) := [("a", .null), ("\uffff", .int64 2), ("😀", .bool true)]

theorem maps_alike_reactions :
    (reactions.map Prod.fst).Nodup ∧
      (Payload.unordered reactions.reverse).columns = reactions ∧
      (Payload.ordered reactions.reverse).columns = reactions := by
  have distinct : (reactions.map Prod.fst).Nodup := by decide
  have listed : (Payload.ordered reactions.reverse).columns = reactions := by decide
  obtain ⟨columns, -, -, same, -⟩ := maps_alike distinct
  have unordered := same _ (.unordered (List.reverse_perm reactions))
  have ordered := same _ (.ordered (List.reverse_perm reactions))
  exact ⟨distinct, unordered.trans (ordered.symm.trans listed), listed⟩

end QueryLoom
