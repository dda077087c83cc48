import Mathlib.Tactic

/-!
# Histories

A history is the list of what has happened so far, the latest occurrence first.  `Precedes` orders what is in
it, and the lemmas say how the order grows: a new occurrence comes after all the others and before none.
-/

namespace Dmanager
namespace Lib

variable {α : Type*} {history : List α} {first second latest : α}

/-- Both have happened, `first` before `second`. -/
def Precedes (history : List α) (first second : α) : Prop := [second, first].Sublist history

instance [DecidableEq α] (history : List α) (first second : α) : Decidable (Precedes history first second) :=
  inferInstanceAs (Decidable ([second, first].Sublist history))

@[simp] theorem not_precedes_nil : ¬ Precedes [] first second := by
  simp [Precedes]

theorem precedes_cons :
    Precedes (latest :: history) first second ↔
      Precedes history first second ∨ second = latest ∧ first ∈ history := by
  unfold Precedes
  rw [List.sublist_cons_iff]
  refine or_congr_right ⟨?_, ?_⟩
  · rintro ⟨rest, heq, hrest⟩
    obtain ⟨rfl, rfl⟩ := List.cons.inj heq
    exact ⟨rfl, List.singleton_sublist.mp hrest⟩
  · rintro ⟨rfl, hmem⟩
    exact ⟨[first], rfl, List.singleton_sublist.mpr hmem⟩

theorem Precedes.fst_mem (hprecedes : Precedes history first second) : first ∈ history :=
  hprecedes.subset (by simp)

theorem Precedes.snd_mem (hprecedes : Precedes history first second) : second ∈ history :=
  hprecedes.subset (by simp)

/-- What has happened stays in its order. -/
theorem Precedes.append (events : List α) (hprecedes : Precedes history first second) :
    Precedes (events ++ history) first second :=
  hprecedes.trans (List.sublist_append_right events history)

/-- What happens comes after what has happened. -/
theorem precedes_append {events : List α} (hfirst : first ∈ history) (hsecond : second ∈ events) :
    Precedes (events ++ history) first second :=
  (List.singleton_sublist.mpr hsecond).append (List.singleton_sublist.mpr hfirst)

/-- What is not the latest occurrence has been preceded by the same ones as before. -/
theorem precedes_cons_of_ne (hne : second ≠ latest) :
    Precedes (latest :: history) first second ↔ Precedes history first second := by
  rw [precedes_cons]
  exact or_iff_left fun ⟨heq, _⟩ => hne heq

/-- What has happened since leaves the order of what was before it as it is. -/
theorem precedes_append_of_not_mem {events : List α} (hsecond : second ∉ events) :
    Precedes (events ++ history) first second ↔ Precedes history first second := by
  induction events with
  | nil => rfl
  | cons event events ih =>
      rw [List.mem_cons, not_or] at hsecond
      rw [List.cons_append, precedes_cons_of_ne hsecond.1, ih hsecond.2]

end Lib
end Dmanager
