import Mathlib.Computability.RegularExpressions
import Mathlib.Tactic

/-!
# Classes and repetition in regular expressions

Mathlib's regular expressions have letters, sums, products and the star.  The ones that programs document also have
classes `[abc]`, options `r?` and bounded repetition `r{0,n}`, which are abbreviations.
-/

namespace Dmanager
namespace Lib

open RegularExpression

variable {α : Type*}

/-- `[abc]`: one of some letters. -/
def oneOf (letters : List α) : RegularExpression α := letters.foldr (fun a r => char a + r) 0

/-- `r?`. -/
def optional (r : RegularExpression α) : RegularExpression α := 1 + r

/-- `r{0,n}`. -/
def atMost (n : Nat) (r : RegularExpression α) : RegularExpression α := optional r ^ n

variable {letters : List α} {r : RegularExpression α} {s : List α} {n : Nat}

theorem mem_oneOf_iff : s ∈ (oneOf letters).matches' ↔ ∃ a ∈ letters, s = [a] := by
  induction letters with
  | nil => exact iff_of_false id fun ⟨_, hmem, _⟩ => List.not_mem_nil hmem
  | cons a rest ih =>
      rw [List.exists_mem_cons_iff, ← ih]
      exact Iff.rfl

theorem mem_optional_iff : s ∈ (optional r).matches' ↔ s = [] ∨ s ∈ r.matches' := Iff.rfl

/-- At most `n` letters of a class. -/
theorem mem_atMost_oneOf_iff :
    s ∈ (atMost n (oneOf letters)).matches' ↔ s.length ≤ n ∧ ∀ a ∈ s, a ∈ letters := by
  unfold atMost
  rw [matches'_pow]
  induction n generalizing s with
  | zero =>
      rw [pow_zero, Language.mem_one, Nat.le_zero, List.length_eq_zero_iff]
      refine ⟨?_, And.left⟩
      rintro rfl
      exact ⟨rfl, fun _ hmem => absurd hmem List.not_mem_nil⟩
  | succ n ih =>
      rw [pow_succ', Language.mem_mul]
      constructor
      · rintro ⟨front, hfront, back, hback, rfl⟩
        obtain ⟨hlength, hall⟩ := ih.mp hback
        rcases mem_optional_iff.mp hfront with rfl | hone
        · exact ⟨Nat.le_succ_of_le hlength, hall⟩
        · obtain ⟨a, ha, rfl⟩ := mem_oneOf_iff.mp hone
          exact ⟨Nat.succ_le_succ hlength, List.forall_mem_cons.mpr ⟨ha, hall⟩⟩
      · rintro ⟨hlength, hall⟩
        cases s with
        | nil => exact ⟨[], mem_optional_iff.mpr (Or.inl rfl), [], ih.mpr ⟨Nat.zero_le n, hall⟩, rfl⟩
        | cons a rest =>
            obtain ⟨ha, hrest⟩ := List.forall_mem_cons.mp hall
            refine ⟨[a], mem_optional_iff.mpr (Or.inr (mem_oneOf_iff.mpr ⟨a, ha, rfl⟩)), rest, ?_, rfl⟩
            exact ih.mpr ⟨Nat.le_of_succ_le_succ hlength, hrest⟩

end Lib
end Dmanager
