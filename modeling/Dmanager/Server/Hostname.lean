import Dmanager.Lib.Patterns
import Dmanager.Server.Config

/-!
# The hostname of the Tailscale node

`isValidTailscaleHostname` accepts exactly what the pattern `^[a-z0-9]([a-z0-9-]{0,61}[a-z0-9])?$` matches.  A text of
the pattern is one byte, or two outer bytes with the others between them, and the loop looks at the hyphen by the same
distinction.
-/

namespace Dmanager
namespace Server

open Go Lib

/-- `[a-z0-9]`. -/
def lettersAndDigits : List UInt8 := str "abcdefghijklmnopqrstuvwxyz0123456789"

/-- `[a-z0-9-]`. -/
def lettersDigitsAndHyphen : List UInt8 := lettersAndDigits ++ str "-"

/-- `^[a-z0-9]([a-z0-9-]{0,61}[a-z0-9])?$`. -/
def hostnamePattern : RegularExpression UInt8 :=
  oneOf lettersAndDigits * optional (atMost 61 (oneOf lettersDigitsAndHyphen) * oneOf lettersAndDigits)

/-! ## What the pattern matches -/

/-- One byte, or some bytes between two outer ones. -/
inductive DnsLabel : GoString → Prop where
  | single {c : UInt8} (hc : c ∈ lettersAndDigits) : DnsLabel [c]
  | outer {first last : UInt8} {inner : GoString} (hfirst : first ∈ lettersAndDigits) (hlast : last ∈ lettersAndDigits)
      (hinner : ∀ c ∈ inner, c ∈ lettersDigitsAndHyphen) (hlength : inner.length ≤ 61) :
      DnsLabel (first :: (inner ++ [last]))

theorem mem_hostnamePattern_iff {s : GoString} : s ∈ hostnamePattern.matches' ↔ DnsLabel s := by
  unfold hostnamePattern
  rw [RegularExpression.matches'_mul, Language.mem_mul]
  constructor
  · rintro ⟨front, hfront, back, hback, rfl⟩
    obtain ⟨first, hfirst, rfl⟩ := mem_oneOf_iff.mp hfront
    rcases mem_optional_iff.mp hback with rfl | hrest
    · exact .single hfirst
    · rw [RegularExpression.matches'_mul, Language.mem_mul] at hrest
      obtain ⟨inner, hinner, tail, htail, rfl⟩ := hrest
      obtain ⟨last, hlast, rfl⟩ := mem_oneOf_iff.mp htail
      obtain ⟨hlength, hall⟩ := mem_atMost_oneOf_iff.mp hinner
      exact .outer hfirst hlast hall hlength
  · intro hlabel
    cases hlabel with
    | @single c hc =>
        exact ⟨[c], mem_oneOf_iff.mpr ⟨c, hc, rfl⟩, [], mem_optional_iff.mpr (Or.inl rfl), List.append_nil _⟩
    | @outer first last inner hfirst hlast hinner hlength =>
        refine ⟨[first], mem_oneOf_iff.mpr ⟨first, hfirst, rfl⟩, inner ++ [last],
          mem_optional_iff.mpr (Or.inr ?_), rfl⟩
        rw [RegularExpression.matches'_mul, Language.mem_mul]
        exact ⟨inner, mem_atMost_oneOf_iff.mpr ⟨hlength, hinner⟩, [last], mem_oneOf_iff.mpr ⟨last, hlast, rfl⟩, rfl⟩

/-- A label has 1 to 63 bytes. -/
theorem DnsLabel.length_bounds {s : GoString} (hlabel : DnsLabel s) : 1 ≤ s.length ∧ s.length ≤ 63 := by
  cases hlabel with
  | single hc =>
      rw [List.length_singleton]
      omega
  | outer hfirst hlast hinner hlength =>
      rw [List.length_cons, List.length_append, List.length_singleton]
      omega

/-! ## What the loop accepts -/

/-- The two ranges of the loop. -/
theorem mem_lettersAndDigits_iff (c : UInt8) :
    c ∈ lettersAndDigits ↔ ((0x61 ≤ c && c ≤ 0x7A) || (0x30 ≤ c && c ≤ 0x39)) = true := by
  have hall : ∀ n < 256, UInt8.ofNat n ∈ lettersAndDigits ↔
      ((0x61 ≤ UInt8.ofNat n && UInt8.ofNat n ≤ 0x7A) || (0x30 ≤ UInt8.ofNat n && UInt8.ofNat n ≤ 0x39)) = true := by
    decide +kernel
  have hc := hall c.toNat c.toNat_lt
  rwa [UInt8.ofNat_toNat] at hc

theorem mem_lettersDigitsAndHyphen_iff (c : UInt8) :
    c ∈ lettersDigitsAndHyphen ↔ c ∈ lettersAndDigits ∨ c = 0x2D := by
  have hhyphen : str "-" = [0x2D] := by decide
  unfold lettersDigitsAndHyphen
  rw [List.mem_append, hhyphen, List.mem_singleton]

variable {len i : Nat} {c : UInt8}

/-- A hyphen is not accepted at either end. -/
theorem validHostnameByte_outer_iff (houter : i = 0 ∨ i + 1 = len) :
    validHostnameByte len i c = true ↔ c ∈ lettersAndDigits := by
  have hnot : (decide (0 < i) && decide ((i : Int) < (len : Int) - 1)) = false := by
    rw [Bool.and_eq_false_iff, decide_eq_false_iff_not, decide_eq_false_iff_not]
    omega
  unfold validHostnameByte
  rw [Bool.and_assoc, hnot, Bool.and_false, Bool.or_false, mem_lettersAndDigits_iff]

theorem validHostnameByte_inner_iff (hpos : 0 < i) (hlt : i + 1 < len) :
    validHostnameByte len i c = true ↔ c ∈ lettersDigitsAndHyphen := by
  have hinner : (decide (0 < i) && decide ((i : Int) < (len : Int) - 1)) = true := by
    rw [Bool.and_eq_true, decide_eq_true_eq, decide_eq_true_eq]
    omega
  unfold validHostnameByte
  rw [Bool.and_assoc, hinner, Bool.and_true, Bool.or_eq_true, ← mem_lettersAndDigits_iff, beq_iff_eq,
    mem_lettersDigitsAndHyphen_iff]

/-- The loop on the bytes between the outer ones. -/
theorem all_zipIdx_inner_iff {inner : GoString} {start : Nat} (hpos : 0 < start) (hlt : start + inner.length < len) :
    ((inner.zipIdx start).all fun (c, i) => validHostnameByte len i c) = true ↔
      ∀ c ∈ inner, c ∈ lettersDigitsAndHyphen := by
  induction inner generalizing start with
  | nil => exact iff_of_true rfl fun _ hmem => absurd hmem List.not_mem_nil
  | cons c rest ih =>
      rw [List.length_cons] at hlt
      rw [List.zipIdx_cons, List.all_cons, Bool.and_eq_true, List.forall_mem_cons, ih (by omega) (by omega)]
      exact and_congr_left' (validHostnameByte_inner_iff hpos (by omega))

theorem isValidTailscaleHostname_singleton_iff :
    isValidTailscaleHostname [c] = true ↔ c ∈ lettersAndDigits := by
  have hloop : isValidTailscaleHostname [c] = (validHostnameByte 1 0 c && true) := rfl
  rw [hloop, Bool.and_true]
  exact validHostnameByte_outer_iff (Or.inl rfl)

/-- The loop on the first byte, the inner ones and the last one. -/
theorem isValidTailscaleHostname_outer_iff {first last : UInt8} {inner : GoString} :
    isValidTailscaleHostname (first :: (inner ++ [last])) = true ↔
      inner.length ≤ 61 ∧ first ∈ lettersAndDigits ∧ (∀ c ∈ inner, c ∈ lettersDigitsAndHyphen) ∧
        last ∈ lettersAndDigits := by
  have hlength : (first :: (inner ++ [last])).length = inner.length + 2 := by
    rw [List.length_cons, List.length_append, List.length_singleton]
  unfold isValidTailscaleHostname
  rw [hlength]
  by_cases hlong : inner.length ≤ 61
  · rw [if_neg (not_or.mpr ⟨List.cons_ne_nil _ _, by omega⟩), List.zipIdx_cons, List.zipIdx_append,
      List.zipIdx_singleton, List.all_cons, List.all_append, List.all_cons, List.all_nil, Bool.and_true,
      Bool.and_eq_true, Bool.and_eq_true]
    rw [validHostnameByte_outer_iff (Or.inl rfl), all_zipIdx_inner_iff (by omega) (by omega),
      validHostnameByte_outer_iff (Or.inr (by omega))]
    exact (and_iff_right hlong).symm
  · rw [if_pos (Or.inr (by omega))]
    exact iff_of_false Bool.false_ne_true fun hall => hlong hall.1

/-- `isValidTailscaleHostname` accepts the texts of the pattern and no others; they have 1 to 63 bytes. -/
theorem isValidTailscaleHostname_iff (s : GoString) :
    (isValidTailscaleHostname s = true ↔ s ∈ hostnamePattern.matches') ∧
      (s ∈ hostnamePattern.matches' → 1 ≤ s.length ∧ s.length ≤ 63) := by
  rw [mem_hostnamePattern_iff]
  refine ⟨⟨?_, ?_⟩, DnsLabel.length_bounds⟩
  · intro hvalid
    cases s with
    | nil => cases hvalid
    | cons first rest =>
        rcases List.eq_nil_or_concat' rest with rfl | ⟨inner, last, rfl⟩
        · exact .single (isValidTailscaleHostname_singleton_iff.mp hvalid)
        · obtain ⟨hlength, hfirst, hinner, hlast⟩ := isValidTailscaleHostname_outer_iff.mp hvalid
          exact .outer hfirst hlast hinner hlength
  · intro hlabel
    cases hlabel with
    | single hc => exact isValidTailscaleHostname_singleton_iff.mpr hc
    | outer hfirst hlast hinner hlength =>
        exact isValidTailscaleHostname_outer_iff.mpr ⟨hlength, hfirst, hinner, hlast⟩

end Server
end Dmanager
