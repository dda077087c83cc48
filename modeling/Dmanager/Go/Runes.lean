import Dmanager.Go.Strings

/-!
# Runes

A string read as text: its runes, the functions of package `unicode/utf8` the program depends on, and the case
mapping of package `strings`.
-/

namespace Dmanager
namespace Go

/-- The bytes of a rune. -/
def utf8 (c : Char) : GoString := String.utf8EncodeChar c

/-- `utf8.DecodeRuneInString`; `none` is `RuneError` for a byte that starts no rune. -/
def decodeRune (s : GoString) : Option Char := s.toByteArray.utf8DecodeChar? 0

/-- `utf8.ValidString`: the string is a sequence of runes. -/
def ValidString (s : GoString) : Prop := ∃ runes : List Char, s = runes.flatMap utf8

theorem validString_iff_isValidUTF8 (s : GoString) : ValidString s ↔ s.toByteArray.IsValidUTF8 := by
  constructor
  · rintro ⟨runes, rfl⟩
    exact ⟨runes, rfl⟩
  · rintro ⟨runes, hrunes⟩
    refine ⟨runes, ?_⟩
    have hdata := congrArg (fun bytes : ByteArray => bytes.data.toList) hrunes
    show s = List.flatMap String.utf8EncodeChar runes
    simpa [List.utf8Encode] using hdata

instance decidableValidString : DecidablePred ValidString :=
  fun s => decidable_of_iff _ (validString_iff_isValidUTF8 s).symm

theorem decodeRune_utf8 (c : Char) (rest : GoString) : decodeRune (utf8 c ++ rest) = some c := by
  rw [decodeRune, List.toByteArray_append]
  exact ByteArray.utf8DecodeChar?_utf8EncodeChar_append

/-- A literal is valid. -/
theorem validString_str (literal : String) : ValidString (str literal) := by
  refine ⟨literal.toList, ?_⟩
  unfold str utf8
  rw [← String.utf8Encode_toList, List.utf8Encode, List.data_toByteArray]

theorem length_utf8 (c : Char) : (utf8 c).length = c.utf8Size := String.length_utf8EncodeChar c

theorem le_ofNat {n : Nat} (hlow : 0x80 ≤ n) (hhigh : n < 0x100) : 0x80 ≤ UInt8.ofNat n := by
  rw [UInt8.le_iff_toNat_le, UInt8.toNat_ofNat']
  show 128 ≤ n % 256
  omega

/-- A rune is one byte below `0x80`, or some bytes from `0x80` on. -/
theorem utf8_cases (c : Char) :
    (∃ b, utf8 c = [b] ∧ b < 0x80) ∨ ∃ b rest, utf8 c = b :: rest ∧ ∀ b' ∈ utf8 c, 0x80 ≤ b' := by
  have hbytes : ∀ n k high : Nat, 0 < k → 0x80 ≤ high → high + k ≤ 0x100 → 0x80 ≤ UInt8.ofNat (n % k + high) := by
    intro n k high hk hlow hhigh
    have hlt := Nat.mod_lt n hk
    exact le_ofNat (by omega) (by omega)
  unfold utf8 String.utf8EncodeChar
  simp only
  split
  · rename_i hle
    refine Or.inl ⟨_, rfl, ?_⟩
    rw [UInt8.lt_iff_toNat_lt, UInt8.toNat_ofNat']
    show _ % 256 < 128
    omega
  · right
    split
    · refine ⟨_, _, rfl, ?_⟩
      simp only [List.mem_cons, List.not_mem_nil, or_false, forall_eq_or_imp, forall_eq]
      exact ⟨hbytes _ 0x20 0xc0 (by omega) (by omega) (by omega), hbytes _ 0x40 0x80 (by omega) (by omega) (by omega)⟩
    · split
      · refine ⟨_, _, rfl, ?_⟩
        simp only [List.mem_cons, List.not_mem_nil, or_false, forall_eq_or_imp, forall_eq]
        exact ⟨hbytes _ 0x10 0xe0 (by omega) (by omega) (by omega),
          hbytes _ 0x40 0x80 (by omega) (by omega) (by omega), hbytes _ 0x40 0x80 (by omega) (by omega) (by omega)⟩
      · refine ⟨_, _, rfl, ?_⟩
        simp only [List.mem_cons, List.not_mem_nil, or_false, forall_eq_or_imp, forall_eq]
        exact ⟨hbytes _ 0x08 0xf0 (by omega) (by omega) (by omega),
          hbytes _ 0x40 0x80 (by omega) (by omega) (by omega), hbytes _ 0x40 0x80 (by omega) (by omega) (by omega),
          hbytes _ 0x40 0x80 (by omega) (by omega) (by omega)⟩

theorem validString_nil : ValidString [] := ⟨[], rfl⟩

theorem utf8_ascii {b : UInt8} (hb : b < 0x80) : utf8 (Char.ofNat b.toNat) = [b] := by
  have hall : ∀ n < 0x80, utf8 (Char.ofNat n) = [UInt8.ofNat n] := by decide +kernel
  rw [hall b.toNat (UInt8.lt_iff_toNat_lt.mp hb), UInt8.ofNat_toNat]

/-- An ASCII byte in a valid text is a rune of its own. -/
theorem validString_append_cons {s t : GoString} {b : UInt8} (hb : b < 0x80) :
    ValidString (s ++ b :: t) ↔ ValidString s ∧ ValidString t := by
  constructor
  · rintro ⟨runes, hrunes⟩
    induction runes generalizing s with
    | nil => exact absurd hrunes (List.append_ne_nil_of_right_ne_nil _ (List.cons_ne_nil b t))
    | cons c runes ih =>
        rw [List.flatMap_cons] at hrunes
        rcases List.append_eq_append_iff.mp hrunes with ⟨front, hfront, hrest⟩ | ⟨front, hfront, hrest⟩
        · cases front with
          | nil =>
              rw [List.append_nil] at hfront
              obtain ⟨-, ht⟩ := ih (s := []) hrest
              exact ⟨⟨[c], by rw [List.flatMap_singleton, hfront]⟩, ht⟩
          | cons b' front =>
              -- the byte is one of the first rune, which then has no other
              rw [List.cons_append] at hrest
              obtain ⟨rfl, ht⟩ := List.cons.inj hrest
              rcases utf8_cases c with ⟨only, honly, -⟩ | ⟨-, -, -, hhigh⟩
              · rw [honly] at hfront
                have hlength := congrArg List.length hfront
                rw [List.length_append, List.length_cons, List.length_cons, List.length_nil] at hlength
                have hs : s = [] := List.eq_nil_of_length_eq_zero (by omega)
                have hnil : front = [] := List.eq_nil_of_length_eq_zero (by omega)
                rw [hs, ht, hnil]
                exact ⟨validString_nil, runes, rfl⟩
              · have hmem : b ∈ utf8 c := by
                  rw [hfront]
                  exact List.mem_append_right _ List.mem_cons_self
                exact absurd hb (UInt8.not_lt.mpr (hhigh b hmem))
        · obtain ⟨⟨first, hfirst⟩, ht⟩ := ih hrest.symm
          exact ⟨⟨c :: first, by rw [hfront, hfirst, List.flatMap_cons]⟩, ht⟩
  · rintro ⟨⟨first, rfl⟩, ⟨second, rfl⟩⟩
    refine ⟨first ++ Char.ofNat b.toNat :: second, ?_⟩
    rw [List.flatMap_append, List.flatMap_cons, utf8_ascii hb, List.singleton_append]

/-! ## The runes of any string -/

/-- `utf8.RuneError`. -/
def runeError : Char := Char.ofNat 0xFFFD

/-- The runes that `for range` finds; `fuel` is the length of the string. -/
def runesFrom : Nat → GoString → List Char
  | 0, _ => []
  | _ + 1, [] => []
  | fuel + 1, b :: rest =>
      match decodeRune (b :: rest) with
      | none => runeError :: runesFrom fuel rest
      | some c => c :: runesFrom fuel ((b :: rest).drop c.utf8Size)

/-- The runes of a string. -/
def runes (s : GoString) : List Char := runesFrom s.length s

/-- The string with U+FFFD in place of the bytes that start no rune. -/
def repaired (s : GoString) : GoString := (runes s).flatMap utf8

theorem utf8_ne_nil (c : Char) : utf8 c ≠ [] := by
  intro hnil
  have hsize := c.utf8Size_pos
  rw [← length_utf8, hnil] at hsize
  exact absurd hsize (by decide)

/-- The runes of valid text. -/
theorem runesFrom_flatMap {text : List Char} {fuel : Nat} (hfuel : (text.flatMap utf8).length ≤ fuel) :
    runesFrom fuel (text.flatMap utf8) = text := by
  induction text generalizing fuel with
  | nil => cases fuel <;> rfl
  | cons c text ih =>
      rw [List.flatMap_cons] at hfuel ⊢
      obtain ⟨b, rest, hbytes⟩ := List.exists_cons_of_ne_nil (utf8_ne_nil c)
      have hdecode := decodeRune_utf8 c (text.flatMap utf8)
      have hdrop : (utf8 c ++ text.flatMap utf8).drop c.utf8Size = text.flatMap utf8 := by
        rw [← length_utf8, List.drop_left]
      rw [List.length_append] at hfuel
      have hlength := congrArg List.length hbytes
      rw [List.length_cons] at hlength
      obtain ⟨fuel, rfl⟩ : ∃ n, fuel = n + 1 := ⟨fuel - 1, by omega⟩
      rw [hbytes, List.cons_append] at hdecode hdrop ⊢
      rw [runesFrom, hdecode]
      dsimp only
      rw [hdrop, ih (by omega)]

theorem runes_flatMap (text : List Char) : runes (text.flatMap utf8) = text := runesFrom_flatMap (Nat.le_refl _)

theorem repaired_of_valid {s : GoString} (hvalid : ValidString s) : repaired s = s := by
  obtain ⟨text, rfl⟩ := hvalid
  rw [repaired, runes_flatMap]

theorem repaired_eq_self_iff {s : GoString} : repaired s = s ↔ ValidString s :=
  ⟨fun heq => ⟨runes s, heq.symm⟩, repaired_of_valid⟩

theorem runes_repaired (s : GoString) : runes (repaired s) = runes s := runes_flatMap _

theorem decodeRune_eq_some_iff {s : GoString} {c : Char} : decodeRune s = some c ↔ utf8 c <+: s := by
  constructor
  · intro hdecode
    obtain ⟨rest, hrest⟩ := ByteArray.exists_of_utf8DecodeChar?_eq_some hdecode
    refine ⟨rest.data.toList, ?_⟩
    have hbytes := congrArg (fun bytes : ByteArray => bytes.data.toList) hrest
    simpa [utf8] using hbytes.symm
  · rintro ⟨rest, rfl⟩
    exact decodeRune_utf8 c rest

/-- An ASCII byte does not complete a rune. -/
theorem decodeRune_append_ascii {s : GoString} {b : UInt8} (hb : b < 0x80) (hs : s ≠ []) :
    decodeRune (s ++ [b]) = decodeRune s := by
  apply Option.ext
  intro c
  rw [decodeRune_eq_some_iff, decodeRune_eq_some_iff, List.prefix_concat_iff, or_iff_right]
  intro hwhole
  rcases utf8_cases c with ⟨only, honly, -⟩ | ⟨-, -, -, hhigh⟩
  · rw [honly] at hwhole
    have hlength := congrArg List.length hwhole
    rw [List.length_append, List.length_singleton, List.length_singleton] at hlength
    exact hs (List.eq_nil_of_length_eq_zero (by omega))
  · have hmem : b ∈ utf8 c := by
      rw [hwhole]
      exact List.mem_append_right s List.mem_cons_self
    exact absurd hb (UInt8.not_lt.mpr (hhigh b hmem))

theorem runesFrom_cons_ascii {b : UInt8} (hb : b < 0x80) (fuel : Nat) (rest : GoString) :
    runesFrom (fuel + 1) (b :: rest) = Char.ofNat b.toNat :: runesFrom fuel rest := by
  have hbytes := utf8_ascii hb
  have hdecode : decodeRune (b :: rest) = some (Char.ofNat b.toNat) :=
    decodeRune_eq_some_iff.mpr ⟨rest, by rw [hbytes, List.singleton_append]⟩
  have hsize : (Char.ofNat b.toNat).utf8Size = 1 := by rw [← length_utf8, hbytes, List.length_singleton]
  rw [runesFrom, hdecode]
  dsimp only
  rw [hsize, List.drop_one, List.tail_cons]

theorem runesFrom_append_ascii {b : UInt8} (hb : b < 0x80) {fuel : Nat} {s : GoString} (hfuel : s.length ≤ fuel) :
    runesFrom (fuel + 1) (s ++ [b]) = runesFrom fuel s ++ [Char.ofNat b.toNat] := by
  induction fuel generalizing s with
  | zero =>
      rw [List.eq_nil_of_length_eq_zero (Nat.le_zero.mp hfuel), List.nil_append, runesFrom_cons_ascii hb]
      rfl
  | succ fuel ih =>
      cases s with
      | nil =>
          rw [List.nil_append, runesFrom_cons_ascii hb]
          rfl
      | cons a rest =>
          have hdecode := decodeRune_append_ascii hb (List.cons_ne_nil a rest)
          rw [List.cons_append] at hdecode ⊢
          rw [runesFrom, runesFrom, hdecode]
          rw [List.length_cons] at hfuel
          cases hrune : decodeRune (a :: rest) with
          | none =>
              dsimp only
              rw [ih (by omega), List.cons_append]
          | some c =>
              have hle := (decodeRune_eq_some_iff.mp hrune).length_le
              rw [length_utf8] at hle
              have hpos := c.utf8Size_pos
              dsimp only
              rw [← List.cons_append, List.drop_append_of_le_length hle, ih, List.cons_append]
              rw [List.length_drop, List.length_cons]
              omega

theorem runes_cons_ascii {b : UInt8} (hb : b < 0x80) (s : GoString) : runes (b :: s) = Char.ofNat b.toNat :: runes s :=
  runesFrom_cons_ascii hb _ s

theorem runes_append_ascii {b : UInt8} (hb : b < 0x80) (s : GoString) :
    runes (s ++ [b]) = runes s ++ [Char.ofNat b.toNat] := by
  unfold runes
  rw [List.length_append, List.length_singleton]
  exact runesFrom_append_ascii hb (Nat.le_refl _)

theorem runes_ne_nil {s : GoString} (hs : s ≠ []) : runes s ≠ [] := by
  obtain ⟨b, rest, rfl⟩ := List.exists_cons_of_ne_nil hs
  unfold runes
  rw [List.length_cons, runesFrom]
  split
  · exact List.cons_ne_nil _ _
  · exact List.cons_ne_nil _ _

/-! ## Letter case -/

/-- `strings.ToUpper`, for comparing with text in ASCII: two runes outside it have an ASCII letter as their upper
case, U+0131 and U+017F, and the others, left as they are here, do not. -/
def toUpper : GoString → GoString
  | 0xC4 :: 0xB1 :: rest => 0x49 :: toUpper rest
  | 0xC5 :: 0xBF :: rest => 0x53 :: toUpper rest
  | b :: rest => (if 0x61 ≤ b ∧ b ≤ 0x7A then b - 0x20 else b) :: toUpper rest
  | [] => []

example : toUpper (str "wArnıng") = str "WARNING" := by decide +kernel

/-- `strings.ToLower`, for looking for text in ASCII: here the two runes are U+0130 and U+212A. -/
def toLower : GoString → GoString
  | 0xC4 :: 0xB0 :: rest => 0x69 :: toLower rest
  | 0xE2 :: 0x84 :: 0xAA :: rest => 0x6B :: toLower rest
  | b :: rest => (if 0x41 ≤ b ∧ b ≤ 0x5A then b + 0x20 else b) :: toLower rest
  | [] => []

example : toLower (str "Wİndows") = str "windows" := by decide +kernel

end Go
end Dmanager
