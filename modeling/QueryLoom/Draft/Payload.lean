import QueryLoom.NameMap
import QueryLoom.Value.Basic

/-!
# Payloads

The columns of an `INSERT` or `UPDATE` with their values, as callers may give them.

* `Payload.columns` : the ordered list that a payload stands for;
* `Payload.increasing_ordered` : an ordered map gives strictly increasing column names.
-/

namespace QueryLoom

/-- Columns with their values, as a caller gives them. -/
inductive Payload where
  /-- In the caller's order, repetitions included. -/
  | listed (entries : List (String × Value))
  /-- As a map in the order of its keys; of several entries for a key the last one counts. -/
  | ordered (entries : List (String × Value))
  /-- As a map without an order of its own, in whatever order it lists its entries. -/
  | unordered (entries : List (String × Value))
  deriving DecidableEq, Repr

namespace Payload

/-- The entries of an unordered map to which entries were added one after the other: one for each
key, with the value that was added last. -/
def latest (entries : List (String × Value)) : List (String × Value) :=
  entries.foldl (fun acc e => acc.filter (fun a => a.1 != e.1) ++ [e]) []

def sortByColumn (entries : List (String × Value)) : List (String × Value) :=
  entries.mergeSort fun a b => decide (a.1 ≤ b.1)

/-- The ordered list that a payload stands for. A map without order is sorted by column, so that
the same entries always make the same statement. -/
def columns : Payload → List (String × Value)
  | .listed entries => entries
  | .ordered entries => NameMap.insertAll entries
  | .unordered entries => sortByColumn entries

/-- An ordered map gives strictly increasing column names. -/
theorem increasing_ordered (entries : List (String × Value)) :
    NameMap.Increasing (ordered entries).columns := NameMap.increasing_insertAll entries

/-- The columns of an unordered map are its entries in another order. -/
theorem perm_unordered (entries : List (String × Value)) :
    (unordered entries).columns.Perm entries := List.mergeSort_perm _ _

/-- Sorted columns never decrease. -/
theorem pairwise_sortByColumn (entries : List (String × Value)) :
    (sortByColumn entries).Pairwise fun a b => a.1 ≤ b.1 := by
  have sorted : (sortByColumn entries).Pairwise fun a b => decide (a.1 ≤ b.1) = true := by
    refine List.pairwise_mergeSort (fun a b c ab bc => ?_) (fun a b => ?_) entries
    · simp only [decide_eq_true_eq] at ab bc ⊢
      exact String.le_trans ab bc
    · simpa using String.le_total a.1 b.1
  exact sorted.imp of_decide_eq_true

end Payload

end QueryLoom
