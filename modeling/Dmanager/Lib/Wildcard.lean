import Mathlib.Tactic

/-!
# Patterns with wildcards

A pattern over any alphabet: letters, a wildcard for one letter, and a wildcard for any text.  Letters are compared
after a map `fold`, so that a match can leave the case of letters aside.

`matchesText_contains_iff` — a pattern of letters alone, with a wildcard on both sides, matches the texts that contain
these letters.  With another wildcard between the letters this is no longer so: `matchesText_fill`.
-/

namespace Dmanager
namespace Lib

/-- What a pattern consists of. -/
inductive Token (α : Type*) where
  | letter (a : α)
  | one
  | any
  deriving DecidableEq, Repr

namespace Token

variable {α β : Type*} [DecidableEq β] (fold : α → β)

/-- The pattern matches the whole text. -/
def matchesText : List (Token α) → List α → Bool
  | [], text => text.isEmpty
  | letter _ :: _, [] => false
  | letter a :: pattern, b :: text => decide (fold a = fold b) && matchesText pattern text
  | one :: _, [] => false
  | one :: pattern, _ :: text => matchesText pattern text
  | any :: pattern, text => text.tails.any fun rest => matchesText pattern rest

variable {fold} {pattern : List (Token α)} {letters text : List α}

/-- The wildcard for a text takes any part of the text from its start. -/
theorem matchesText_any_iff :
    matchesText fold (any :: pattern) text = true ↔
      ∃ front back, text = front ++ back ∧ matchesText fold pattern back = true := by
  rw [matchesText, List.any_eq_true]
  constructor
  · rintro ⟨back, hback, hmatches⟩
    obtain ⟨front, rfl⟩ := (List.mem_tails _ _).mp hback
    exact ⟨front, back, rfl, hmatches⟩
  · rintro ⟨front, back, rfl, hmatches⟩
    exact ⟨back, (List.mem_tails _ _).mpr (List.suffix_append front back), hmatches⟩

theorem matchesText_any_nil : matchesText fold [any] text = true :=
  matchesText_any_iff.mpr ⟨text, [], (List.append_nil text).symm, rfl⟩

/-- Letters take as many letters of the text, the same ones up to `fold`. -/
theorem matchesText_letters_append_iff :
    matchesText fold (letters.map letter ++ pattern) text = true ↔
      ∃ front back, text = front ++ back ∧ letters.map fold = front.map fold ∧
        matchesText fold pattern back = true := by
  induction letters generalizing text with
  | nil =>
      constructor
      · exact fun hmatches => ⟨[], text, rfl, rfl, hmatches⟩
      · rintro ⟨front, back, rfl, hfold, hmatches⟩
        rw [List.map_nil, eq_comm, List.map_eq_nil_iff] at hfold
        rw [hfold]
        exact hmatches
  | cons a letters ih =>
      cases text with
      | nil =>
          refine iff_of_false Bool.false_ne_true ?_
          rintro ⟨front, back, htext, hfold, -⟩
          rw [(List.append_eq_nil_iff.mp htext.symm).1] at hfold
          exact absurd hfold (List.cons_ne_nil _ _)
      | cons b text =>
          rw [List.map_cons, List.cons_append, matchesText, Bool.and_eq_true, decide_eq_true_eq, ih]
          constructor
          · rintro ⟨hab, front, back, rfl, hfold, hmatches⟩
            exact ⟨b :: front, back, rfl, by rw [List.map_cons, List.map_cons, hab, hfold], hmatches⟩
          · rintro ⟨front, back, htext, hfold, hmatches⟩
            cases front with
            | nil => exact absurd hfold (List.cons_ne_nil _ _)
            | cons c front =>
                rw [List.cons_append] at htext
                obtain ⟨rfl, rfl⟩ := List.cons.inj htext
                rw [List.map_cons, List.map_cons] at hfold
                exact ⟨(List.cons.inj hfold).1, front, back, rfl, (List.cons.inj hfold).2, hmatches⟩

/-- Letters between two wildcards for texts: the text contains them. -/
theorem matchesText_contains_iff :
    matchesText fold (any :: (letters.map letter ++ [any])) text = true ↔ letters.map fold <:+: text.map fold := by
  rw [matchesText_any_iff]
  constructor
  · rintro ⟨front, rest, rfl, hmatches⟩
    obtain ⟨middle, back, rfl, hfold, -⟩ := matchesText_letters_append_iff.mp hmatches
    rw [hfold, List.map_append, List.map_append, ← List.append_assoc]
    exact List.infix_append _ _ _
  · rintro ⟨front, back, hparts⟩
    rw [List.append_assoc] at hparts
    obtain ⟨front', rest, rfl, -, hrest⟩ := List.map_eq_append_iff.mp hparts.symm
    obtain ⟨middle, back', rfl, hmiddle, -⟩ := List.map_eq_append_iff.mp hrest
    exact ⟨front', middle ++ back', rfl, matchesText_letters_append_iff.mpr
      ⟨middle, back', rfl, hmiddle.symm, matchesText_any_nil⟩⟩

/-- A letter in the place of each wildcard. -/
def fill (a : α) : Token α → α
  | letter b => b
  | one => a
  | any => a

theorem matchesText_fill_append (a : α) (pattern rest : List (Token α)) (text : List α)
    (hrest : matchesText fold rest text = true) :
    matchesText fold (pattern ++ rest) (pattern.map (fill a) ++ text) = true := by
  induction pattern with
  | nil => exact hrest
  | cons token pattern ih =>
      cases token with
      | letter b =>
          rw [List.map_cons, List.cons_append, List.cons_append, fill, matchesText, Bool.and_eq_true]
          exact ⟨decide_eq_true rfl, ih⟩
      | one => exact ih
      | any => exact matchesText_any_iff.mpr ⟨[a], pattern.map (fill a) ++ text, rfl, ih⟩

/-- A pattern between two wildcards for texts matches the text with any letter in the place of its wildcards. -/
theorem matchesText_fill (a : α) (pattern : List (Token α)) :
    matchesText fold (any :: (pattern ++ [any])) (pattern.map (fill a)) = true := by
  have hlast : matchesText fold [any] ([] : List α) = true := matchesText_any_nil
  have hfilled := matchesText_fill_append a pattern [any] [] hlast
  rw [List.append_nil] at hfilled
  exact matchesText_any_iff.mpr ⟨[], pattern.map (fill a), rfl, hfilled⟩

end Token

end Lib
end Dmanager
