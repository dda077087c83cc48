import Mathlib.Tactic

/-!
# Results in order, page by page

`Arranged` is what a query with an order returns: the selected rows, none after one that it comes before.  Rows that
tie can come in any order; where no two of them tie there is one arrangement (`Arranged.unique`).

A page is a part of a list of a fixed size; the pages together are the list (`flatMap_page`), and the first empty one
comes after all of it (`page_eq_nil_iff`).
-/

namespace Dmanager
namespace Lib

variable {α : Type*}

/-- The selected rows in an order that the comparison does not contradict. -/
def Arranged (before : α → α → Prop) (selected rows : List α) : Prop :=
  rows.Perm selected ∧ rows.Pairwise fun earlier later => ¬ before later earlier

theorem Arranged.unique {before : α → α → Prop} {selected rows rows' : List α}
    (harranged : Arranged before selected rows) (harranged' : Arranged before selected rows')
    (hcompare : ∀ first ∈ selected, ∀ second ∈ selected,
      ¬ before first second → ¬ before second first → first = second) :
    rows = rows' := by
  refine List.Perm.eq_of_pairwise ?_ harranged.2 harranged'.2 (harranged.1.trans harranged'.1.symm)
  intro first second hfirst hsecond hnot hnot'
  exact hcompare first (harranged.1.subset hfirst) second (harranged'.1.subset hsecond) hnot' hnot

/-- A page, counted from 0. -/
def page (rows : List α) (size k : Nat) : List α := (rows.drop (k * size)).take size

theorem page_eq_nil_iff {rows : List α} {size k : Nat} (hsize : 0 < size) :
    page rows size k = [] ↔ rows.length ≤ k * size := by
  unfold page
  rw [List.take_eq_nil_iff, List.drop_eq_nil_iff]
  omega

/-- The pages before one are the rows before it. -/
theorem flatMap_page (rows : List α) (size n : Nat) :
    (List.range n).flatMap (page rows size) = rows.take (n * size) := by
  induction n with
  | zero => rw [Nat.zero_mul, List.take_zero, List.range_zero, List.flatMap_nil]
  | succ n ih =>
      rw [List.range_succ, List.flatMap_append, ih, List.flatMap_singleton, Nat.succ_mul, List.take_add]
      rfl

/-- There is a first empty page, and the pages before it are the list. -/
theorem exists_pages (rows : List α) {size : Nat} (hsize : 0 < size) :
    ∃ n, page rows size n = [] ∧ (∀ k < n, k * size < rows.length) ∧
      (List.range n).flatMap (page rows size) = rows := by
  have hsome : ∃ n, rows.length ≤ n * size := ⟨rows.length, Nat.le_mul_of_pos_right _ hsize⟩
  refine ⟨Nat.find hsome, (page_eq_nil_iff hsize).mpr (Nat.find_spec hsome), ?_, ?_⟩
  · exact fun k hk => not_le.mp (Nat.find_min hsome hk)
  · rw [flatMap_page, List.take_of_length_le (Nat.find_spec hsome)]

end Lib
end Dmanager
