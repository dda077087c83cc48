import Dmanager.Go.Calendar
import Mathlib.Data.List.DropRight

/-!
# Timestamps

`time.RFC3339Nano`: the text of an instant in the time zone of its location.  The zeros at the end of the fraction are
dropped, and the fraction with them if nothing is left; the zone is `Z` or an offset.

Two such texts compare as follows (`rfc3339Nano_lt_iff`): by the numerals of the years, then by what the clocks on the
wall show, to the second, then by the fractions, where one that continues the other is compared with the zone of that,
and last by the zones.  This is not the order of the instants, not even in UTC (`misread_iff_of_offset_eq`).
-/

namespace Dmanager
namespace Go

/-! ## Texts -/

/-- `time.Time`: an instant, and the offset of its location from UTC in seconds. -/
structure Stamp where
  instant : Int
  offset : Int
  deriving DecidableEq, Repr

namespace Stamp

/-- What a clock on the wall shows. -/
def wall (t : Stamp) : Int := t.instant + t.offset * second

/-- The instant that the text of the time stands for: the offset in it has no seconds. -/
def read (t : Stamp) : Int := t.wall - t.offset.tdiv 60 * minute

/-- The nanoseconds of the second. -/
def fraction (t : Stamp) : Nat := (t.instant % second).toNat

end Stamp

/-- The digits of a fraction up to the last one that is no zero. -/
def fractionDigits (nanosec : Nat) : GoString := (digits 9 nanosec).rdropWhile fun d => d = 0x30

/-- `.999999999` in a layout. -/
def fractionText (nanosec : Nat) : GoString :=
  if fractionDigits nanosec = [] then [] else 0x2E :: fractionDigits nanosec

/-- `Z07:00` in a layout. -/
def zoneText (offset : Int) : GoString :=
  if offset = 0 then [0x5A]
  else
    (if offset.tdiv 60 < 0 then 0x2D else 0x2B) ::
      (padded 2 ((offset.tdiv 60).natAbs / 60) ++ 0x3A :: padded 2 ((offset.tdiv 60).natAbs % 60))

/-- `t.Format(time.RFC3339Nano)`. -/
def Stamp.rfc3339Nano (t : Stamp) : GoString :=
  dateTime (str "T") t.wall ++ (fractionText t.fraction ++ zoneText t.offset)

example : (⟨63918867600 * second + 120000000, 7200⟩ : Stamp).rfc3339Nano = str "2026-07-05T19:00:00.12+02:00" := by
  decide +kernel

/-! ## Lists in order -/

section

variable {s s' t t' : GoString}

theorem append_lt_append_left_iff : s ++ t < s ++ t' ↔ t < t' := by
  induction s with
  | nil => rfl
  | cons b s ih =>
      rw [List.cons_append, List.cons_append, List.cons_lt_cons_iff]
      constructor
      · rintro (hself | ⟨-, hlt⟩)
        · exact absurd hself (UInt8.lt_irrefl b)
        · exact ih.mp hlt
      · exact fun hlt => Or.inr ⟨rfl, ih.mpr hlt⟩

/-- Of two texts of which neither continues the other, the order is decided before they end. -/
theorem append_lt_append_iff (hstart : ¬ s <+: s') (hstart' : ¬ s' <+: s) : s ++ t < s' ++ t' ↔ s < s' := by
  induction s generalizing s' with
  | nil => exact absurd List.nil_prefix hstart
  | cons b s ih =>
      cases s' with
      | nil => exact absurd List.nil_prefix hstart'
      | cons b' s' =>
          rw [List.cons_append, List.cons_append, List.cons_lt_cons_iff, List.cons_lt_cons_iff]
          refine or_congr_right (and_congr_right fun heq => ?_)
          subst heq
          exact ih (fun hrest => hstart ((List.prefix_cons_inj b).mpr hrest))
            fun hrest => hstart' ((List.prefix_cons_inj b).mpr hrest)

end

/-! ## Digits -/

theorem digits_append (front back n : Nat) :
    digits (front + back) n = digits front (n / 10 ^ back) ++ digits back n := by
  induction back generalizing n with
  | zero => rw [Nat.add_zero, Nat.pow_zero, Nat.div_one, digits, List.append_nil]
  | succ back ih =>
      rw [← Nat.add_assoc, digits, ih, digits, List.append_assoc, Nat.div_div_eq_div_mul, Nat.pow_succ,
        Nat.mul_comm 10]

theorem digits_inj {width n m : Nat} (hn : n < 10 ^ width) (hm : m < 10 ^ width)
    (heq : digits width n = digits width m) : n = m := by
  rcases Nat.lt_trichotomy n m with hlt | hsame | hlt
  · have hdigits := digits_lt hlt hm
    rw [heq] at hdigits
    exact absurd hdigits (List.lt_irrefl _)
  · exact hsame
  · have hdigits := digits_lt hlt hn
    rw [heq] at hdigits
    exact absurd hdigits (List.lt_irrefl _)

theorem digits_lt_iff {width n m : Nat} (hn : n < 10 ^ width) (hm : m < 10 ^ width) :
    digits width n < digits width m ↔ n < m := by
  refine ⟨fun hlt => ?_, fun hlt => digits_lt hlt hm⟩
  by_contra hge
  rcases Nat.lt_or_eq_of_le (Nat.not_lt.mp hge) with hgt | heq
  · exact List.lt_asymm hlt (digits_lt hgt hn)
  · rw [heq] at hlt
    exact List.lt_irrefl _ hlt

theorem digits_mod (width n : Nat) : digits width (n % 10 ^ width) = digits width n := by
  induction width generalizing n with
  | zero => rfl
  | succ width ih =>
      have hdiv : n % 10 ^ (width + 1) / 10 = n / 10 % 10 ^ width := by
        rw [Nat.pow_succ, Nat.mul_comm, Nat.mod_mul_right_div_self]
      have hmod : n % 10 ^ (width + 1) % 10 = n % 10 := Nat.mod_mod_of_dvd n (dvd_pow_self 10 (by omega))
      rw [digits, digits, hdiv, ih, digit, digit, hmod]

theorem digits_zero (width : Nat) : digits width 0 = List.replicate width 0x30 := by
  induction width with
  | zero => rfl
  | succ width ih => rw [digits, Nat.zero_div, ih, List.replicate_succ']; rfl

/-! ## Fractions -/

/-- The first fraction is the second one, or its beginning. -/
def Truncates (nanosec nanosec' : Nat) : Prop := ∃ k < 10, nanosec = nanosec' / 10 ^ k * 10 ^ k

instance decidableTruncates (nanosec nanosec' : Nat) : Decidable (Truncates nanosec nanosec') :=
  inferInstanceAs (Decidable (∃ k < 10, _))

theorem Truncates.le {nanosec nanosec' : Nat} (htruncates : Truncates nanosec nanosec') : nanosec ≤ nanosec' := by
  obtain ⟨k, -, rfl⟩ := htruncates
  exact Nat.div_mul_le_self _ _

theorem digits_eq_fractionDigits (nanosec : Nat) :
    ∃ k, digits 9 nanosec = fractionDigits nanosec ++ List.replicate k 0x30 := by
  refine ⟨((digits 9 nanosec).rtakeWhile fun d => d = 0x30).length, ?_⟩
  have hzeros : ((digits 9 nanosec).rtakeWhile fun d => d = 0x30) =
      List.replicate ((digits 9 nanosec).rtakeWhile fun d => d = 0x30).length 0x30 := by
    rw [List.eq_replicate_iff]
    refine ⟨rfl, fun d hd => ?_⟩
    exact of_decide_eq_true (List.mem_rtakeWhile_imp (p := fun d : UInt8 => decide (d = 0x30)) hd)
  rw [← hzeros, fractionDigits, List.rdropWhile_append_rtakeWhile]

/-- What is left of the digits of a text is the beginning of what is left of a longer one. -/
theorem rdropWhile_append_start (p : UInt8 → Bool) (s t : GoString) :
    s.rdropWhile p <+: (s ++ t).rdropWhile p := by
  induction t using List.reverseRecOn with
  | nil => rw [List.append_nil]
  | append_singleton t b ih =>
      rw [← List.append_assoc, List.rdropWhile_concat]
      split
      · exact ih
      · exact ((List.rdropWhile_prefix p s).trans (List.prefix_append s t)).trans (List.prefix_append _ _)

theorem rdropWhile_append_replicate (s : GoString) (k : Nat) :
    (s ++ List.replicate k 0x30).rdropWhile (fun d => d = 0x30) = s.rdropWhile fun d => d = 0x30 := by
  induction k with
  | zero => rw [List.replicate_zero, List.append_nil]
  | succ k ih =>
      rw [List.replicate_succ', ← List.append_assoc, List.rdropWhile_concat, if_pos (decide_eq_true rfl), ih]

/-- A text of digits, cut in two. -/
theorem digits_of_split {width front back n : Nat} (hwidth : front + back = width) {s t : GoString}
    (hdigits : digits width n = s ++ t) (hlength : s.length = front) :
    digits front (n / 10 ^ back) = s ∧ digits back n = t := by
  rw [← hwidth, digits_append] at hdigits
  exact List.append_inj hdigits (by rw [length_digits, hlength])

/-- A number whose last digits are zeros is a multiple. -/
theorem eq_of_digits_zero {back n : Nat} (hzeros : digits back n = List.replicate back 0x30) :
    n = n / 10 ^ back * 10 ^ back := by
  have hrest : n % 10 ^ back = 0 := by
    refine digits_inj (Nat.mod_lt _ (Nat.pow_pos (by decide))) (Nat.pow_pos (by decide)) ?_
    rw [digits_zero, ← hzeros, digits_mod]
  have hparts := Nat.div_add_mod' n (10 ^ back)
  omega

theorem truncates_of_fractionDigits {nanosec nanosec' : Nat} (hlt : nanosec < 10 ^ 9) (hlt' : nanosec' < 10 ^ 9)
    (hstart : fractionDigits nanosec <+: fractionDigits nanosec') : Truncates nanosec nanosec' := by
  obtain ⟨k, hdigits⟩ := digits_eq_fractionDigits nanosec
  obtain ⟨k', hdigits'⟩ := digits_eq_fractionDigits nanosec'
  obtain ⟨more, hmore⟩ := hstart
  have hlength : (fractionDigits nanosec).length + k = 9 := by
    have hnine := congrArg List.length hdigits
    rw [length_digits, List.length_append, List.length_replicate] at hnine
    exact hnine.symm
  rw [← hmore, List.append_assoc] at hdigits'
  obtain ⟨hfront, hzeros⟩ := digits_of_split hlength hdigits rfl
  obtain ⟨hfront', -⟩ := digits_of_split hlength hdigits' rfl
  refine ⟨k, by omega, ?_⟩
  have hpow : 10 ^ (fractionDigits nanosec).length * 10 ^ k = 10 ^ 9 := by rw [← Nat.pow_add, hlength]
  have hhigh {n : Nat} (hn : n < 10 ^ 9) : n / 10 ^ k < 10 ^ (fractionDigits nanosec).length := by
    rw [Nat.div_lt_iff_lt_mul (Nat.pow_pos (by decide)), hpow]
    exact hn
  rw [← digits_inj (hhigh hlt) (hhigh hlt') (hfront.trans hfront'.symm)]
  exact eq_of_digits_zero hzeros

/-- The digits of one fraction continue those of another one when that is its beginning. -/
theorem fractionDigits_prefix_iff {nanosec nanosec' : Nat} (hlt : nanosec < 10 ^ 9) (hlt' : nanosec' < 10 ^ 9) :
    fractionDigits nanosec <+: fractionDigits nanosec' ↔ Truncates nanosec nanosec' := by
  refine ⟨truncates_of_fractionDigits hlt hlt', ?_⟩
  rintro ⟨k, hk, rfl⟩
  have hsplit := digits_append (9 - k) k (nanosec' / 10 ^ k * 10 ^ k)
  have hsplit' := digits_append (9 - k) k nanosec'
  rw [Nat.sub_add_cancel (by omega)] at hsplit hsplit'
  have hzeros : digits k (nanosec' / 10 ^ k * 10 ^ k) = List.replicate k 0x30 := by
    rw [← digits_mod, Nat.mul_mod_left, digits_zero]
  rw [Nat.mul_div_cancel _ (Nat.pow_pos (by decide)), hzeros] at hsplit
  unfold fractionDigits
  rw [hsplit, hsplit', rdropWhile_append_replicate]
  exact rdropWhile_append_start _ _ _

theorem digits_bounds {width n : Nat} : ∀ b ∈ digits width n, 0x30 ≤ b ∧ b ≤ 0x39 := by
  induction width generalizing n with
  | zero => exact fun b hb => absurd hb List.not_mem_nil
  | succ width ih =>
      intro b hb
      rw [digits, List.mem_append, List.mem_singleton] at hb
      rcases hb with hb | rfl
      · exact ih b hb
      · have hmod := Nat.mod_lt n (show 0 < 10 by decide)
        unfold digit
        rw [UInt8.le_iff_toNat_le, UInt8.le_iff_toNat_le, UInt8.toNat_ofNat']
        show 48 ≤ (48 + n % 10) % 256 ∧ (48 + n % 10) % 256 ≤ 57
        omega

theorem fractionText_bounds {nanosec : Nat} : ∀ b ∈ fractionText nanosec, 0x2E ≤ b ∧ b ≤ 0x39 := by
  intro b hb
  unfold fractionText at hb
  split at hb
  · exact absurd hb List.not_mem_nil
  · rcases List.mem_cons.mp hb with rfl | hdigit
    · decide
    · obtain ⟨hlow, hhigh⟩ := digits_bounds b ((List.rdropWhile_prefix _ _).subset hdigit)
      exact ⟨UInt8.le_trans (by decide) hlow, hhigh⟩

variable {nanosec nanosec' : Nat}

theorem fractionText_prefix_iff (hlt : nanosec < 10 ^ 9) (hlt' : nanosec' < 10 ^ 9) :
    fractionText nanosec <+: fractionText nanosec' ↔ Truncates nanosec nanosec' := by
  rw [← fractionDigits_prefix_iff hlt hlt']
  unfold fractionText
  by_cases hempty : fractionDigits nanosec = []
  · rw [if_pos hempty, hempty]
    exact iff_of_true List.nil_prefix List.nil_prefix
  · rw [if_neg hempty]
    by_cases hempty' : fractionDigits nanosec' = []
    · rw [if_pos hempty', hempty', List.prefix_nil, List.prefix_nil]
      exact iff_of_false (List.cons_ne_nil _ _) hempty
    · rw [if_neg hempty', List.prefix_cons_inj]

/-- A fraction that continues another one goes on with a period or a digit. -/
theorem exists_of_truncates (hlt : nanosec < 10 ^ 9) (hlt' : nanosec' < 10 ^ 9)
    (htruncates : Truncates nanosec nanosec') (hne : nanosec ≠ nanosec') :
    ∃ b rest, fractionText nanosec' = fractionText nanosec ++ b :: rest ∧ 0x2E ≤ b ∧ b ≤ 0x39 := by
  obtain ⟨more, hmore⟩ := (fractionText_prefix_iff hlt hlt').mpr htruncates
  cases more with
  | nil =>
      rw [List.append_nil] at hmore
      have hback : fractionText nanosec' <+: fractionText nanosec := by rw [hmore]
      have hle := htruncates.le
      have hge := ((fractionText_prefix_iff hlt' hlt).mp hback).le
      exact absurd (Nat.le_antisymm hle hge) hne
  | cons b rest =>
      have hmem : b ∈ fractionText nanosec' := by
        rw [← hmore]
        exact List.mem_append_right _ List.mem_cons_self
      exact ⟨b, rest, hmore.symm, fractionText_bounds b hmem⟩

/-- Fractions of which neither continues the other are in the order of their numbers. -/
theorem fractionText_lt_iff (hlt : nanosec < 10 ^ 9) (hlt' : nanosec' < 10 ^ 9)
    (hstart : ¬ Truncates nanosec nanosec') (hstart' : ¬ Truncates nanosec' nanosec) :
    fractionText nanosec < fractionText nanosec' ↔ nanosec < nanosec' := by
  rw [← fractionDigits_prefix_iff hlt hlt'] at hstart
  rw [← fractionDigits_prefix_iff hlt' hlt] at hstart'
  have hne : fractionDigits nanosec ≠ [] := fun hnil => hstart (hnil ▸ List.nil_prefix)
  have hne' : fractionDigits nanosec' ≠ [] := fun hnil => hstart' (hnil ▸ List.nil_prefix)
  obtain ⟨k, hdigits⟩ := digits_eq_fractionDigits nanosec
  obtain ⟨k', hdigits'⟩ := digits_eq_fractionDigits nanosec'
  have hcons (s t : GoString) : (0x2E :: s : GoString) < 0x2E :: t ↔ s < t := append_lt_append_left_iff (s := [0x2E])
  unfold fractionText
  rw [if_neg hne, if_neg hne', hcons, ← digits_lt_iff hlt hlt', hdigits, hdigits',
    append_lt_append_iff hstart hstart']

/-! ## Years -/

theorem natString_of_lt {n : Nat} (hlt : n < 10) : natString n = [digit n] := by
  have hdigit : ∀ n < 10, str (String.ofList [Nat.digitChar n]) = [digit n] := by decide
  unfold natString
  rw [Nat.toString_eq_ofList_toDigits, Nat.toDigits_of_lt_base hlt]
  exact hdigit n hlt

theorem natString_of_le {n : Nat} (hle : 10 ≤ n) : natString n = natString (n / 10) ++ [digit n] := by
  have hlast : natString (n % 10) = [digit n] := by
    rw [natString_of_lt (Nat.mod_lt n (by decide)), digit, digit, Nat.mod_mod]
  rw [← hlast]
  unfold natString str
  rw [Nat.toString_eq_ofList_toDigits, Nat.toString_eq_ofList_toDigits, Nat.toString_eq_ofList_toDigits,
    Nat.toDigits_of_base_le (by decide) hle, Nat.toDigits_of_lt_base (Nat.mod_lt n (by decide)), String.ofList_append,
    String.toByteArray_append, ByteArray.data_append, Array.toList_append]

/-- A numeral is digits of some width. -/
theorem natString_eq_digits (n : Nat) : ∃ width, n < 10 ^ (width + 1) ∧ natString n = digits (width + 1) n := by
  induction n using Nat.strongRecOn with
  | ind n ih =>
      rcases Nat.lt_or_ge n 10 with hlt | hge
      · exact ⟨0, hlt, natString_of_lt hlt⟩
      · obtain ⟨width, hbound, hdigits⟩ := ih (n / 10) (by omega)
        refine ⟨width + 1, ?_, ?_⟩
        · rw [Nat.pow_succ]
          omega
        · rw [natString_of_le hge, hdigits]
          rfl

theorem padded_eq_digits (width n : Nat) :
    ∃ width', n < 10 ^ (width' + 1) ∧ padded (width + 1) n = digits (width' + 1) n := by
  unfold padded
  split
  · rename_i hlt
    exact ⟨width, hlt, rfl⟩
  · exact natString_eq_digits n

theorem padded_inj {width n m : Nat} (heq : padded (width + 1) n = padded (width + 1) m) : n = m := by
  obtain ⟨k, hn, hdigits⟩ := padded_eq_digits width n
  obtain ⟨k', hm, hdigits'⟩ := padded_eq_digits width m
  have hwidth : k = k' := by
    have hlength := congrArg List.length heq
    rw [hdigits, hdigits', length_digits, length_digits] at hlength
    omega
  subst hwidth
  rw [hdigits, hdigits'] at heq
  exact digits_inj hn hm heq

/-- Numerals consist of digits, of one at least. -/
theorem padded_bounds (width n : Nat) :
    padded (width + 1) n ≠ [] ∧ ∀ b ∈ padded (width + 1) n, 0x30 ≤ b ∧ b ≤ 0x39 := by
  obtain ⟨k, -, hdigits⟩ := padded_eq_digits width n
  rw [hdigits]
  refine ⟨?_, digits_bounds⟩
  rw [digits]
  exact List.append_ne_nil_of_right_ne_nil _ (List.cons_ne_nil _ _)

theorem padded_one (n : Nat) : padded 1 n = natString n := by
  unfold padded
  split
  · rename_i hlt
    exact (natString_of_lt hlt).symm
  · rfl

/-- A year may start with a minus sign; digits follow. -/
theorem yearText_eq_cons (year : Int) : ∃ b text, yearText year = b :: text ∧ ∀ d ∈ text, 0x30 ≤ d := by
  unfold yearText
  split
  · exact ⟨0x2D, _, rfl, fun d hd => ((padded_bounds 3 _).2 d hd).1⟩
  · obtain ⟨hne, hdigits⟩ := padded_bounds 3 year.toNat
    obtain ⟨b, text, htext⟩ := List.exists_cons_of_ne_nil hne
    refine ⟨b, text, htext, fun d hd => (hdigits d ?_).1⟩
    rw [htext]
    exact List.mem_cons_of_mem b hd

theorem yearText_inj {year year' : Int} (heq : yearText year = yearText year') : year = year' := by
  have hminus {n m : Nat} : 0x2D :: padded 4 n ≠ padded 4 m := by
    intro hmixed
    have hdigit := ((padded_bounds 3 m).2 0x2D (hmixed ▸ List.mem_cons_self)).1
    exact absurd hdigit (by decide)
  unfold yearText at heq
  split at heq
  · split at heq
    · have hnumber := padded_inj (List.cons.inj heq).2
      omega
    · exact absurd heq hminus
  · split at heq
    · exact absurd heq.symm hminus
    · have hnumber := padded_inj heq
      omega

/-- A year that continues another one is greater, whatever follows the separator. -/
theorem separated_lt_of_prefixed {s s' : GoString} {year year' : Int} (hyear : yearText year = s)
    (hyear' : yearText year' = s') (hprefixed : s <+: s') (hne : s ≠ s') (rest rest' : GoString) :
    s < s' ∧ s ++ 0x2D :: rest < s' ++ rest' := by
  obtain ⟨more, rfl⟩ := hprefixed
  obtain ⟨b, text, htext, -⟩ := yearText_eq_cons year
  obtain ⟨b', text', htext', hdigits⟩ := yearText_eq_cons year'
  rw [hyear] at htext
  rw [hyear', htext, List.cons_append, List.cons.injEq] at htext'
  cases more with
  | nil => exact absurd (List.append_nil s).symm hne
  | cons d more =>
      have hd : 0x30 ≤ d := hdigits d (htext'.2 ▸ List.mem_append_right text List.mem_cons_self)
      have hlt : 0x2D < d := UInt8.lt_of_lt_of_le (by decide) hd
      constructor
      · have hgreater : s ++ [] < s ++ d :: more := append_lt_append_left_iff.mpr (List.nil_lt_cons d more)
        rwa [List.append_nil] at hgreater
      · rw [List.append_assoc, append_lt_append_left_iff, List.cons_append, List.cons_lt_cons_iff]
        exact Or.inl hlt

/-- Years in order, or what follows them. -/
theorem yearText_cons_lt_iff {year year' : Int} {rest rest' : GoString} :
    yearText year ++ 0x2D :: rest < yearText year' ++ 0x2D :: rest' ↔
      yearText year < yearText year' ∨ year = year' ∧ rest < rest' := by
  by_cases heq : year = year'
  · subst heq
    have hself := List.lt_irrefl (yearText year)
    rw [append_lt_append_left_iff, List.cons_lt_cons_iff]
    have hseparator := UInt8.lt_irrefl 0x2D
    tauto
  · have hne : yearText year ≠ yearText year' := fun htext => heq (yearText_inj htext)
    rw [or_iff_left fun hboth => heq hboth.1]
    by_cases hprefixed : yearText year <+: yearText year'
    · obtain ⟨hlt, hlt'⟩ := separated_lt_of_prefixed rfl rfl hprefixed hne rest (0x2D :: rest')
      exact iff_of_true hlt' hlt
    · by_cases hprefixed' : yearText year' <+: yearText year
      · obtain ⟨hgt, hgt'⟩ :=
          separated_lt_of_prefixed rfl rfl hprefixed' (Ne.symm hne) rest' (0x2D :: rest)
        exact iff_of_false (List.lt_asymm hgt') (List.lt_asymm hgt)
      · exact append_lt_append_iff hprefixed hprefixed'

/-! ## Zones -/

variable {offset offset' : Int}

/-- A sign comes before a period or a digit, and `Z` after it. -/
theorem zoneText_lt_cons_iff {b : UInt8} {rest : GoString} (hlow : 0x2E ≤ b) (hhigh : b ≤ 0x39) :
    zoneText offset < b :: rest ↔ offset ≠ 0 := by
  unfold zoneText
  rw [UInt8.le_iff_toNat_le] at hlow hhigh
  have hlow : 46 ≤ b.toNat := hlow
  have hhigh : b.toNat ≤ 57 := hhigh
  split
  · rename_i hzero
    rw [List.cons_lt_cons_iff, UInt8.lt_iff_toNat_lt]
    refine iff_of_false ?_ (not_not.mpr hzero)
    rintro (hbyte | ⟨hbyte, -⟩)
    · have hbyte : 90 < b.toNat := hbyte
      omega
    · have hbyte : 90 = b.toNat := congrArg UInt8.toNat hbyte
      omega
  · rename_i hne
    rw [List.cons_lt_cons_iff, UInt8.lt_iff_toNat_lt]
    refine iff_of_true (Or.inl ?_) hne
    split
    · show 45 < b.toNat
      omega
    · show 43 < b.toNat
      omega

theorem cons_lt_zoneText_iff {b : UInt8} {rest : GoString} (hlow : 0x2E ≤ b) (hhigh : b ≤ 0x39) :
    b :: rest < zoneText offset ↔ offset = 0 := by
  constructor
  · intro hlt
    by_contra hne
    exact List.lt_asymm hlt ((zoneText_lt_cons_iff hlow hhigh).mpr hne)
  · rintro rfl
    rw [UInt8.le_iff_toNat_le] at hhigh
    have hhigh : b.toNat ≤ 57 := hhigh
    unfold zoneText
    rw [if_pos rfl, List.cons_lt_cons_iff, UInt8.lt_iff_toNat_lt]
    refine Or.inl ?_
    show b.toNat < 90
    omega

/-! ## Timestamps in order -/

/-- The order of what follows the seconds: the fraction and the zone. -/
def TailBefore (nanosec : Nat) (offset : Int) (nanosec' : Nat) (offset' : Int) : Prop :=
  if nanosec = nanosec' then zoneText offset < zoneText offset'
  else if Truncates nanosec nanosec' then offset ≠ 0
  else if Truncates nanosec' nanosec then offset' = 0
  else nanosec < nanosec'

instance decidableTailBefore (nanosec : Nat) (offset : Int) (nanosec' : Nat) (offset' : Int) :
    Decidable (TailBefore nanosec offset nanosec' offset') :=
  inferInstanceAs (Decidable (if nanosec = nanosec' then zoneText offset < zoneText offset'
    else if Truncates nanosec nanosec' then offset ≠ 0
    else if Truncates nanosec' nanosec then offset' = 0
    else nanosec < nanosec'))

theorem tail_lt_iff (hlt : nanosec < 10 ^ 9) (hlt' : nanosec' < 10 ^ 9) :
    fractionText nanosec ++ zoneText offset < fractionText nanosec' ++ zoneText offset' ↔
      TailBefore nanosec offset nanosec' offset' := by
  unfold TailBefore
  split
  · rename_i heq
    rw [heq, append_lt_append_left_iff]
  · rename_i hne
    split
    · rename_i hstart
      obtain ⟨b, rest, hmore, hlow, hhigh⟩ := exists_of_truncates hlt hlt' hstart hne
      rw [hmore, List.append_assoc, append_lt_append_left_iff, List.cons_append, zoneText_lt_cons_iff hlow hhigh]
    · rename_i hstart
      split
      · rename_i hstart'
        obtain ⟨b, rest, hmore, hlow, hhigh⟩ := exists_of_truncates hlt' hlt hstart' (Ne.symm hne)
        rw [hmore, List.append_assoc, append_lt_append_left_iff, List.cons_append, cons_lt_zoneText_iff hlow hhigh]
      · rename_i hstart'
        rw [append_lt_append_iff, fractionText_lt_iff hlt hlt' hstart hstart']
        · exact fun hprefixed => hstart ((fractionText_prefix_iff hlt hlt').mp hprefixed)
        · exact fun hprefixed => hstart' ((fractionText_prefix_iff hlt' hlt).mp hprefixed)

theorem length_afterYear (between : GoString) (t : Int) : (afterYear between t).length = 13 + between.length := by
  have htime := secondOfDay_lt t
  obtain ⟨hmonth, hday⟩ : (date t).month ≤ 12 ∧ (date t).day ≤ 31 := dateOf_le (t / day)
  unfold afterYear padded
  rw [if_pos (by omega), if_pos (by omega), if_pos (by omega), if_pos (by omega), if_pos (by omega)]
  simp only [List.length_append, List.length_cons, length_digits]
  omega

/-- Texts with a year, and something after them: the years, then the seconds, then what comes after. -/
theorem dateTime_append_lt_iff {between rest rest' : GoString} {t u : Int} :
    dateTime between t ++ rest < dateTime between u ++ rest' ↔
      yearText (date t).year < yearText (date u).year ∨
        (date t).year = (date u).year ∧ (t / second < u / second ∨ t / second = u / second ∧ rest < rest') := by
  have hlength : (afterYear between t).length = (afterYear between u).length := by
    rw [length_afterYear, length_afterYear]
  have hsplit (t : Int) (rest : GoString) :
      dateTime between t ++ rest = yearText (date t).year ++ 0x2D :: (afterYear between t ++ rest) :=
    List.append_assoc _ _ _
  rw [hsplit, hsplit, yearText_cons_lt_iff]
  refine or_congr_right (and_congr_right fun hyear => ?_)
  rcases Int.lt_trichotomy (t / second) (u / second) with hlt | heq | hgt
  · exact iff_of_true (append_lt_append hlength (afterYear_lt hyear hlt) rest rest') (Or.inl hlt)
  · have hsame : afterYear between t = afterYear between u := by
      have hparts : yearText (date t).year ++ 0x2D :: afterYear between t =
          yearText (date u).year ++ 0x2D :: afterYear between u := dateTime_congr heq
      rw [hyear, List.append_cancel_left_eq] at hparts
      exact (List.cons.inj hparts).2
    rw [hsame, append_lt_append_left_iff]
    exact ⟨fun hrest => Or.inr ⟨heq, hrest⟩, fun hboth => hboth.elim (fun hlt => by omega) And.right⟩
  · refine iff_of_false ?_ (by omega)
    exact List.lt_asymm (append_lt_append hlength.symm (afterYear_lt hyear.symm hgt) rest' rest)

/-! ## Two layouts -/

instance decidableFourDigitYear (t : Int) : Decidable (FourDigitYear t) :=
  inferInstanceAs (Decidable (_ ∧ _))

/-- The date in a layout. -/
def dateText (t : Int) : GoString :=
  yearText (date t).year ++ 0x2D :: (padded 2 (date t).month ++ 0x2D :: padded 2 (date t).day)

theorem dateTime_eq_dateText (between : GoString) (t : Int) :
    dateTime between t = dateText t ++ (between ++ (padded 2 (secondOfDay t / 3600) ++ 0x3A ::
      (padded 2 (secondOfDay t / 60 % 60) ++ 0x3A :: padded 2 (secondOfDay t % 60)))) := by
  unfold dateTime dateText
  simp only [List.append_assoc, List.cons_append]

theorem length_dateText {t : Int} (ht : FourDigitYear t) : (dateText t).length = 10 := by
  obtain ⟨hlow, hhigh⟩ := ht
  obtain ⟨hmonth, hday⟩ : (date t).month ≤ 12 ∧ (date t).day ≤ 31 := dateOf_le (t / day)
  unfold dateText yearText padded
  rw [if_neg (by omega), if_pos (by omega), if_pos (by omega), if_pos (by omega)]
  simp only [List.length_append, List.length_cons, length_digits]

theorem dateText_lt {t u : Int} (ht : FourDigitYear t) (hu : FourDigitYear u) (hlt : t / day < u / day) :
    dateText t < dateText u := by
  obtain ⟨hlow, hhigh⟩ := ht
  obtain ⟨hlow', hhigh'⟩ := hu
  obtain ⟨hmonth, hday⟩ : (date t).month ≤ 12 ∧ (date t).day ≤ 31 := dateOf_le (t / day)
  obtain ⟨hmonth', hday'⟩ : (date u).month ≤ 12 ∧ (date u).day ≤ 31 := dateOf_le (u / day)
  have hlater := dateOf_lt hlt
  unfold dateText yearText
  rw [if_neg (by omega), if_neg (by omega)]
  refine padded_cons_lt (by omega) (by omega) _ (hlater.imp ?_ (And.imp ?_ fun hlater => ?_))
  · exact fun hyear => (Int.toNat_lt_toNat (by unfold date at *; omega)).mpr hyear
  · exact fun hyear => congrArg Int.toNat hyear
  refine padded_cons_lt (by omega) (by omega) _ (hlater.imp_right (And.imp_right fun hlater => ?_))
  unfold padded
  rw [if_pos (by omega), if_pos (by omega)]
  exact digits_lt hlater (by omega)

/-- A space is before `T`: between the two layouts the day decides, and on one day the text with the space is first. -/
theorem dateTime_space_lt_iff {t u : Int} (ht : FourDigitYear t) (hu : FourDigitYear u) (rest : GoString) :
    dateTime (str " ") t < dateTime (str "T") u ++ rest ↔ t / day ≤ u / day := by
  have hlength : (dateText t).length = (dateText u).length := by rw [length_dateText ht, length_dateText hu]
  rw [dateTime_eq_dateText, dateTime_eq_dateText, List.append_assoc]
  rcases Int.lt_trichotomy (t / day) (u / day) with hlt | heq | hgt
  · exact iff_of_true (append_lt_append hlength (dateText_lt ht hu hlt) _ _) hlt.le
  · have hsame : dateText t = dateText u := by
      unfold dateText date
      rw [heq]
    rw [hsame, append_lt_append_left_iff]
    refine iff_of_true ?_ heq.le
    show (0x20 :: _ : GoString) < 0x54 :: _
    rw [List.cons_lt_cons_iff]
    exact Or.inl (by decide)
  · refine iff_of_false ?_ (not_le.mpr hgt)
    exact List.lt_asymm (append_lt_append hlength.symm (dateText_lt hu ht hgt) _ _)

namespace Stamp

variable {t u : Stamp}

/-- The order of the texts. -/
def Before (t u : Stamp) : Prop :=
  yearText (date t.wall).year < yearText (date u.wall).year ∨
    (date t.wall).year = (date u.wall).year ∧ (t.wall / second < u.wall / second ∨
      t.wall / second = u.wall / second ∧ TailBefore t.fraction t.offset u.fraction u.offset)

instance decidableBefore (t u : Stamp) : Decidable (t.Before u) :=
  inferInstanceAs (Decidable (_ ∨ _ ∧ (_ ∨ _ ∧ _)))

theorem fraction_lt (t : Stamp) : t.fraction < 10 ^ 9 := by
  unfold fraction second
  omega

/-- Timestamps compare by the clocks on the wall, then by the fractions and the zones. -/
theorem rfc3339Nano_lt_iff (t u : Stamp) : t.rfc3339Nano < u.rfc3339Nano ↔ t.Before u := by
  unfold rfc3339Nano Before
  rw [dateTime_append_lt_iff, tail_lt_iff (fraction_lt t) (fraction_lt u)]

/-! ## Order of texts and order of time -/

/-- By the clocks on the wall a stored time is before the other one and by the instants it is not, or the other way
round. -/
def Misread (stored now : Stamp) : Prop := ¬ (stored.Before now ↔ stored.read < now.instant)

/-- The same for a stored time that is after the other one. -/
def MisreadAhead (stored now : Stamp) : Prop := ¬ (now.Before stored ↔ now.instant < stored.read)

instance decidableMisread (stored now : Stamp) : Decidable (Misread stored now) :=
  inferInstanceAs (Decidable (¬ (_ ↔ _)))

instance decidableMisreadAhead (stored now : Stamp) : Decidable (MisreadAhead stored now) :=
  inferInstanceAs (Decidable (¬ (_ ↔ _)))

theorem yearText_lt_iff {year year' : Int} (hlow : 0 ≤ year) (hhigh : year ≤ 9999) (hlow' : 0 ≤ year')
    (hhigh' : year' ≤ 9999) : yearText year < yearText year' ↔ year < year' := by
  have htext {year : Int} (hlow : 0 ≤ year) (hhigh : year ≤ 9999) : yearText year = digits 4 year.toNat := by
    unfold yearText padded
    rw [if_neg (by omega), if_pos (by omega)]
  rw [htext hlow hhigh, htext hlow' hhigh', digits_lt_iff (by omega) (by omega)]
  omega

/-- With years of four digits, the order is that of the seconds on the wall first. -/
theorem before_iff (ht : FourDigitYear t.wall) (hu : FourDigitYear u.wall) :
    t.Before u ↔ t.wall / second < u.wall / second ∨
      t.wall / second = u.wall / second ∧ TailBefore t.fraction t.offset u.fraction u.offset := by
  unfold Before
  rw [yearText_lt_iff ht.1 ht.2 hu.1 hu.2]
  have hyear {t u : Int} (hle : t / second ≤ u / second) : (date t).year ≤ (date u).year := by
    refine yearOf_mono ?_
    unfold day hour minute second at *
    omega
  constructor
  · rintro (hlt | ⟨-, hrest⟩)
    · exact Or.inl (not_le.mp fun hle => absurd (hyear hle) (not_le.mpr hlt))
    · exact hrest
  · rintro (hlt | ⟨heq, htail⟩)
    · rcases lt_or_eq_of_le (hyear hlt.le) with hbefore | hsame
      · exact Or.inl hbefore
      · exact Or.inr ⟨hsame, Or.inl hlt⟩
    · exact Or.inr ⟨le_antisymm (hyear heq.le) (hyear heq.ge), Or.inr ⟨heq, htail⟩⟩

/-- In one zone the tails are not in the order of the fractions when the zone is `Z` and one fraction begins with the
other. -/
theorem tailBefore_misread_iff {nanosec nanosec' : Nat} {offset : Int} :
    ¬ (TailBefore nanosec offset nanosec' offset ↔ nanosec < nanosec') ↔
      offset = 0 ∧ nanosec ≠ nanosec' ∧ (Truncates nanosec nanosec' ∨ Truncates nanosec' nanosec) := by
  unfold TailBefore
  split
  · rename_i heq
    have hself := List.lt_irrefl (zoneText offset)
    rw [heq]
    simp only [hself, Nat.lt_irrefl, iff_self, not_true_eq_false, ne_eq, false_and, and_false]
  · rename_i hne
    split
    · rename_i hstart
      have hlt := lt_of_le_of_ne hstart.le hne
      simp only [hlt, iff_true, ne_eq, not_not, hne, not_false_eq_true, hstart, true_or, and_true]
    · rename_i hstart
      split
      · rename_i hstart'
        have hge := not_lt.mpr hstart'.le
        simp only [hge, iff_false, not_not, ne_eq, hne, not_false_eq_true, hstart', or_true, and_true]
      · rename_i hstart'
        simp only [iff_self, not_true_eq_false, hstart, hstart', or_self, and_false]

/-- While the offset stays the same, it is in UTC alone that a text is misread: where the times are in the same second
and the fraction of one begins with that of the other. -/
theorem misread_iff_of_offset_eq (ht : FourDigitYear t.wall) (hu : FourDigitYear u.wall) (hoffset : t.offset = u.offset)
    (hminutes : 60 ∣ t.offset) :
    Misread t u ↔ t.instant / second = u.instant / second ∧ t.offset = 0 ∧ t.fraction ≠ u.fraction ∧
      (Truncates t.fraction u.fraction ∨ Truncates u.fraction t.fraction) := by
  have hread : t.read = t.instant := by
    obtain ⟨minutes, hwhole⟩ := hminutes
    unfold read wall minute
    rw [hwhole, Int.mul_tdiv_cancel_left _ (by decide)]
    unfold second
    omega
  have hsecond (v : Stamp) : v.wall / second = v.instant / second + v.offset := by
    unfold wall second
    omega
  have hinstant : t.instant < u.instant ↔ t.instant / second < u.instant / second ∨
      t.instant / second = u.instant / second ∧ t.fraction < u.fraction := by
    unfold fraction second
    omega
  unfold Misread
  rw [before_iff ht hu, hread, hinstant, hsecond, hsecond, ← hoffset, ← tailBefore_misread_iff]
  by_cases hsame : t.instant / second = u.instant / second
  · simp only [hsame, lt_irrefl, true_and, false_or]
  · simp only [hsame, false_and, or_false, iff_false, not_not]
    omega

end Stamp

end Go
end Dmanager
