import Dmanager.Go.Runes

/-!
# Letter case

`strings.ToLower` and `strings.EqualFold` on any strings, rune by rune; the tables of package `unicode` are a
parameter.

A string in UTF-8 contains another one at the boundaries of runes only (`flatMap_utf8_infix_iff`), so that searching
the bytes of one lower-case text for those of another is searching its runes (`contains_toLower_iff`).
-/

namespace Dmanager
namespace Go

/-- The tables of package `unicode`: the lower case of a rune, and the first of the runes that `SimpleFold` leads
to. -/
structure UnicodeTables where
  lower : Char → Char
  fold : Char → Char

namespace UnicodeTables

variable (tables : UnicodeTables)

/-- `strings.ToLower`. -/
def toLower (s : GoString) : GoString := ((runes s).map tables.lower).flatMap utf8

/-- `strings.EqualFold`. -/
def equalFold (s t : GoString) : Bool := (runes s).map tables.fold = (runes t).map tables.fold

end UnicodeTables

/-! ## Text within text -/

/-- What valid text starts with, if that is valid, it starts with rune by rune. -/
theorem flatMap_utf8_prefix_iff {sub text : List Char} :
    sub.flatMap utf8 <+: text.flatMap utf8 ↔ sub <+: text := by
  constructor
  · intro hstart
    induction sub generalizing text with
    | nil => exact List.nil_prefix
    | cons c sub ih =>
        obtain ⟨rest, hrest⟩ := hstart
        rw [List.flatMap_cons, List.append_assoc] at hrest
        cases text with
        | nil =>
            obtain ⟨hnil, -⟩ := List.append_eq_nil_iff.mp hrest
            exact absurd hnil (utf8_ne_nil c)
        | cons d text =>
            rw [List.flatMap_cons] at hrest
            have hsame : c = d := by
              have hdecode := congrArg decodeRune hrest
              rw [decodeRune_utf8, decodeRune_utf8] at hdecode
              exact Option.some.inj hdecode
            subst hsame
            exact (List.prefix_cons_inj c).mpr (ih ⟨rest, List.append_cancel_left hrest⟩)
  · rintro ⟨rest, rfl⟩
    rw [List.flatMap_append]
    exact List.prefix_append _ _

/-- The first byte of a rune tells it from the others. -/
theorem isUTF8FirstByte_iff {c : Char} {front back : GoString} {b : UInt8} (hbytes : utf8 c = front ++ b :: back) :
    b.IsUTF8FirstByte ↔ front = [] := by
  have hlt : front.length < (String.utf8EncodeChar c).length := by
    have hlength := congrArg List.length hbytes
    rw [List.length_append, List.length_cons] at hlength
    have heq : (utf8 c).length = (String.utf8EncodeChar c).length := rfl
    omega
  have hget : (String.utf8EncodeChar c)[front.length] = b := by
    have hoption : (utf8 c)[front.length]? = some b := by
      rw [hbytes, List.getElem?_append_right (Nat.le_refl _), Nat.sub_self, List.getElem?_cons_zero]
    exact (List.getElem?_eq_some_iff.mp hoption).2
  rw [← hget, UInt8.isUTF8FirstByte_getElem_utf8EncodeChar, List.length_eq_zero_iff]

/-- Valid text contains valid text rune by rune. -/
theorem flatMap_utf8_infix_iff {sub text : List Char} :
    sub.flatMap utf8 <:+: text.flatMap utf8 ↔ sub <:+: text := by
  constructor
  · intro hinfix
    cases sub with
    | nil => exact List.nil_infix
    | cons first sub =>
        obtain ⟨before, after, hbytes⟩ := hinfix
        induction text generalizing before with
        | nil =>
            rw [List.flatMap_nil, List.flatMap_cons] at hbytes
            have hnil := (List.append_eq_nil_iff.mp (List.append_eq_nil_iff.mp hbytes).1).2
            exact absurd (List.append_eq_nil_iff.mp hnil).1 (utf8_ne_nil first)
        | cons c text ih =>
            by_cases hbefore : before = []
            · subst hbefore
              exact (flatMap_utf8_prefix_iff.mp ⟨after, hbytes⟩).isInfix
            · rw [List.flatMap_cons (x := c), List.append_assoc] at hbytes
              rcases List.append_eq_append_iff.mp hbytes with ⟨cut, hcut, hrest⟩ | ⟨cut, hcut, hrest⟩
              · -- the match would start within the rune
                cases cut with
                | nil =>
                    obtain ⟨left, right, hfound⟩ := ih [] (by rw [List.nil_append]; exact hrest)
                    exact ⟨c :: left, right, by rw [← hfound]; rfl⟩
                | cons b cut =>
                    obtain ⟨b', rest, hfirst⟩ := List.exists_cons_of_ne_nil (utf8_ne_nil first)
                    rw [List.flatMap_cons, hfirst, List.cons_append, List.cons_append, List.cons_append] at hrest
                    obtain ⟨rfl, -⟩ := List.cons.inj hrest
                    have hyes : b'.IsUTF8FirstByte := by
                      have hempty : utf8 first = [] ++ b' :: rest := hfirst
                      exact (isUTF8FirstByte_iff hempty).mpr rfl
                    exact absurd ((isUTF8FirstByte_iff hcut).mp hyes) hbefore
              · obtain ⟨left, right, hfound⟩ := ih cut (by rw [List.append_assoc]; exact hrest.symm)
                exact ⟨c :: left, right, by rw [← hfound]; rfl⟩
  · rintro ⟨before, after, rfl⟩
    rw [List.flatMap_append, List.flatMap_append]
    exact ⟨_, _, rfl⟩

theorem contains_eq_true_iff {s sub : GoString} : contains s sub = true ↔ sub <:+: s := by
  unfold contains hasPrefix
  rw [List.any_eq_true, List.infix_iff_prefix_suffix]
  simp only [List.mem_tails, List.isPrefixOf_iff_prefix]
  constructor
  · rintro ⟨tail, htail, hstart⟩
    exact ⟨tail, hstart, htail⟩
  · rintro ⟨tail, hstart, htail⟩
    exact ⟨tail, htail, hstart⟩

/-- Searching in lower case compares the lower case of runes. -/
theorem contains_toLower_iff (tables : UnicodeTables) {s sub : GoString} :
    contains (tables.toLower s) (tables.toLower sub) = true ↔
      (runes sub).map tables.lower <:+: (runes s).map tables.lower := by
  rw [contains_eq_true_iff]
  exact flatMap_utf8_infix_iff

/-! ## Text cut off -/

/-- A cut after `n` bytes does not split a rune: the byte behind it, if there is one, starts one. -/
def CutsBetween (n : Nat) (s : GoString) : Prop := ∀ b ∈ s[n]?, b.IsUTF8FirstByte

instance decidableCutsBetween (n : Nat) (s : GoString) : Decidable (CutsBetween n s) :=
  match hget : s[n]? with
  | none => isTrue fun b hb => by rw [hget] at hb; cases hb
  | some b => decidable_of_iff b.IsUTF8FirstByte (by simp [CutsBetween, hget])

/-- Each byte of valid text is one of a rune. -/
theorem exists_rune_of_getElem? {text : List Char} {n : Nat} {b : UInt8} (hget : (text.flatMap utf8)[n]? = some b) :
    ∃ front c back p q, text = front ++ c :: back ∧ utf8 c = p ++ b :: q ∧
      n = (front.flatMap utf8).length + p.length := by
  induction text generalizing n with
  | nil => cases hget
  | cons c text ih =>
      rw [List.flatMap_cons] at hget
      rcases Nat.lt_or_ge n (utf8 c).length with hlt | hge
      · rw [List.getElem?_append_left hlt] at hget
        obtain ⟨-, rfl⟩ := List.getElem?_eq_some_iff.mp hget
        refine ⟨[], c, text, (utf8 c).take n, (utf8 c).drop (n + 1), rfl, ?_, ?_⟩
        · rw [List.getElem_cons_drop, List.take_append_drop]
        · rw [List.flatMap_nil, List.length_nil, List.length_take, Nat.zero_add, Nat.min_eq_left (Nat.le_of_lt hlt)]
      · rw [List.getElem?_append_right hge] at hget
        obtain ⟨front, d, back, p, q, rfl, hbytes, hn⟩ := ih hget
        refine ⟨c :: front, d, back, p, q, rfl, hbytes, ?_⟩
        rw [List.flatMap_cons, List.length_append]
        omega

/-- Valid text stays valid when it is cut off exactly if the cut does not split a rune. -/
theorem validString_take_iff {s : GoString} (hvalid : ValidString s) {n : Nat} :
    ValidString (s.take n) ↔ CutsBetween n s := by
  obtain ⟨text, rfl⟩ := hvalid
  constructor
  · rintro ⟨front, hfront⟩ b hb
    obtain ⟨back, rfl⟩ := flatMap_utf8_prefix_iff.mp (hfront ▸ List.take_prefix n (text.flatMap utf8))
    have hlt : n < ((front ++ back).flatMap utf8).length := (List.getElem?_eq_some_iff.mp hb).1
    have hlength : n = (front.flatMap utf8).length := by
      rw [← hfront, List.length_take, Nat.min_eq_left (Nat.le_of_lt hlt)]
    rw [List.flatMap_append, List.getElem?_append_right (Nat.le_of_eq hlength.symm), hlength, Nat.sub_self] at hb
    cases back with
    | nil => cases hb
    | cons c back =>
        obtain ⟨b', rest, hbytes⟩ := List.exists_cons_of_ne_nil (utf8_ne_nil c)
        rw [List.flatMap_cons, hbytes] at hb
        cases hb
        have hfirst : utf8 c = [] ++ b :: rest := hbytes
        exact (isUTF8FirstByte_iff hfirst).mpr rfl
  · intro hcut
    cases hget : (text.flatMap utf8)[n]? with
    | none =>
        rw [List.take_of_length_le (List.getElem?_eq_none_iff.mp hget)]
        exact ⟨text, rfl⟩
    | some b =>
        obtain ⟨front, c, back, p, q, rfl, hbytes, hn⟩ := exists_rune_of_getElem? hget
        have hp : p = [] := (isUTF8FirstByte_iff hbytes).mp (hcut b hget)
        refine ⟨front, ?_⟩
        rw [hn, hp, List.length_nil, Nat.add_zero, List.flatMap_append, List.take_left]

/-! ## ASCII -/

/-- The tables on ASCII. -/
def asciiTables : UnicodeTables := ⟨Char.toLower, Char.toLower⟩

/-- A period is the lower case of nothing else. -/
theorem lower_asciiTables_period (c : Char) : asciiTables.lower c = '.' ↔ c = '.' := by
  show c.toLower = '.' ↔ c = '.'
  unfold Char.toLower
  split
  · rename_i hupper
    refine iff_of_false (fun heq => ?_) ?_
    · have hlow : 65 ≤ c.val.toNat := UInt32.le_iff_toNat_le.mp hupper.1
      have hhigh : c.val.toNat ≤ 90 := UInt32.le_iff_toNat_le.mp hupper.2
      have hval : (c.val + 32).toNat = 46 := congrArg (fun c : Char => c.val.toNat) heq
      rw [UInt32.toNat_add] at hval
      have hsum : (c.val.toNat + 32) % 2 ^ 32 = 46 := hval
      omega
    · rintro rfl
      exact absurd hupper (by decide)
  · exact Iff.rfl

end Go
end Dmanager
