import Dmanager.Go.Strings

/-!
# Base64

`base64.URLEncoding`: three bytes become four digits, and a shorter group at the end is filled up with `=`.
`decodeString_encodeToString` is the round trip.
-/

namespace Dmanager
namespace Go
namespace Base64

/-- A digit of the URL alphabet. -/
def digit (n : Nat) : UInt8 :=
  if n < 26 then UInt8.ofNat (0x41 + n)
  else if n < 52 then UInt8.ofNat (0x61 + (n - 26))
  else if n < 62 then UInt8.ofNat (0x30 + (n - 52))
  else if n = 62 then 0x2D
  else 0x5F

/-- The value of a digit. -/
def value? (b : UInt8) : Option Nat :=
  if 0x41 ≤ b ∧ b ≤ 0x5A then some (b.toNat - 0x41)
  else if 0x61 ≤ b ∧ b ≤ 0x7A then some (b.toNat - 0x61 + 26)
  else if 0x30 ≤ b ∧ b ≤ 0x39 then some (b.toNat - 0x30 + 52)
  else if b = 0x2D then some 62
  else if b = 0x5F then some 63
  else none

/-- `EncodeToString`. -/
def encodeToString : GoString → GoString
  | [] => []
  | [a] => [digit (a.toNat / 4), digit (a.toNat % 4 * 16), 0x3D, 0x3D]
  | [a, b] =>
      [digit (a.toNat / 4), digit (a.toNat % 4 * 16 + b.toNat / 16), digit (b.toNat % 16 * 4), 0x3D]
  | a :: b :: c :: rest =>
      digit (a.toNat / 4) :: digit (a.toNat % 4 * 16 + b.toNat / 16) :: digit (b.toNat % 16 * 4 + c.toNat / 64) ::
        digit (c.toNat % 64) :: encodeToString rest

/-- `DecodeString`. -/
def decodeString : GoString → Option GoString
  | [] => some []
  | a :: b :: c :: d :: rest => do
      let x ← value? a
      let y ← value? b
      if c = 0x3D then
        if d = 0x3D ∧ rest = [] then return [UInt8.ofNat (x * 4 + y / 16)] else none
      else
        let z ← value? c
        if d = 0x3D then
          if rest = [] then return [UInt8.ofNat (x * 4 + y / 16), UInt8.ofNat (y % 16 * 16 + z / 4)] else none
        else
          let u ← value? d
          let rest ← decodeString rest
          return UInt8.ofNat (x * 4 + y / 16) :: UInt8.ofNat (y % 16 * 16 + z / 4) ::
            UInt8.ofNat (z % 4 * 64 + u) :: rest
  | _ => none

theorem value?_digit : ∀ n < 64, value? (digit n) = some n := by decide +kernel

/-- No digit is the padding. -/
theorem digit_ne : ∀ n < 64, digit n ≠ 0x3D := by decide +kernel

theorem ofNat_eq {b : UInt8} {n : Nat} (hn : n = b.toNat) : UInt8.ofNat n = b := by
  rw [hn, UInt8.ofNat_toNat]

/-- What is encoded is decoded again. -/
theorem decodeString_encodeToString (s : GoString) : decodeString (encodeToString s) = some s := by
  induction s using encodeToString.induct with
  | case1 => rfl
  | case2 a =>
      have ha := a.toNat_lt
      simp only [encodeToString, decodeString, value?_digit (a.toNat / 4) (by omega),
        value?_digit (a.toNat % 4 * 16) (by omega), Option.bind_eq_bind, Option.bind_some, if_true, and_self]
      rw [ofNat_eq (b := a) (by omega)]
      rfl
  | case3 a b =>
      have ha := a.toNat_lt
      have hb := b.toNat_lt
      simp only [encodeToString, decodeString, value?_digit (a.toNat / 4) (by omega),
        value?_digit (a.toNat % 4 * 16 + b.toNat / 16) (by omega), value?_digit (b.toNat % 16 * 4) (by omega),
        digit_ne (b.toNat % 16 * 4) (by omega), Option.bind_eq_bind, Option.bind_some, if_true, if_false]
      rw [ofNat_eq (b := a) (by omega), ofNat_eq (b := b) (by omega)]
      rfl
  | case4 a b c rest ih =>
      have ha := a.toNat_lt
      have hb := b.toNat_lt
      have hc := c.toNat_lt
      simp only [encodeToString, decodeString, value?_digit (a.toNat / 4) (by omega),
        value?_digit (a.toNat % 4 * 16 + b.toNat / 16) (by omega),
        value?_digit (b.toNat % 16 * 4 + c.toNat / 64) (by omega), value?_digit (c.toNat % 64) (by omega),
        digit_ne (b.toNat % 16 * 4 + c.toNat / 64) (by omega), digit_ne (c.toNat % 64) (by omega), ih,
        Option.bind_eq_bind, Option.bind_some, if_false]
      rw [ofNat_eq (b := a) (by omega), ofNat_eq (b := b) (by omega), ofNat_eq (b := c) (by omega)]
      rfl

theorem encodeToString_ne_nil {s : GoString} (hs : s ≠ []) : encodeToString s ≠ [] := by
  intro hnil
  have hdecode := decodeString_encodeToString s
  rw [hnil] at hdecode
  exact hs (Option.some.inj hdecode).symm

end Base64
end Go
end Dmanager
