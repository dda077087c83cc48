import Mathlib.Tactic

/-!
# Strings

A Go string is a sequence of bytes, not necessarily valid UTF-8: a header or an environment variable may
hold any bytes.  `str` is the string of a literal of the source, its UTF-8 bytes.  The functions are the
ones of package `strings` that the modelled code calls.  `trimSpace_of_unpadded` says when there is nothing
to trim and `split_join` when a list is split where it was joined, which is what cookies and stored lists need.
-/

namespace Dmanager
namespace Go

/-- `string`: its bytes. -/
abbrev GoString := List UInt8

instance lawfulBEqGoString : LawfulBEq GoString := inferInstance

/-- The bytes of a literal. -/
def str (literal : String) : GoString := literal.toByteArray.data.toList

/-- `strings.Split(s, sep)` for a separator of one byte. -/
def split (s : GoString) (sep : UInt8) : List GoString := s.splitOn sep

/-- `strings.HasPrefix(s, pre)`. -/
def hasPrefix (s pre : GoString) : Bool := pre.isPrefixOf s

/-- `strings.TrimPrefix(s, pre)`. -/
def trimPrefix (s pre : GoString) : GoString := if hasPrefix s pre then s.drop pre.length else s

/-- `strings.TrimSuffix(s, suf)`. -/
def trimSuffix (s suf : GoString) : GoString :=
  if suf.isSuffixOf s then s.take (s.length - suf.length) else s

/-- The UTF-8 encodings of the runes `unicode.IsSpace` accepts. -/
def spaceRunes : List GoString :=
  [[0x09], [0x0A], [0x0B], [0x0C], [0x0D], [0x20], [0xC2, 0x85], [0xC2, 0xA0], [0xE1, 0x9A, 0x80],
    [0xE2, 0x80, 0x80], [0xE2, 0x80, 0x81], [0xE2, 0x80, 0x82], [0xE2, 0x80, 0x83], [0xE2, 0x80, 0x84],
    [0xE2, 0x80, 0x85], [0xE2, 0x80, 0x86], [0xE2, 0x80, 0x87], [0xE2, 0x80, 0x88], [0xE2, 0x80, 0x89],
    [0xE2, 0x80, 0x8A], [0xE2, 0x80, 0xA8], [0xE2, 0x80, 0xA9], [0xE2, 0x80, 0xAF], [0xE2, 0x81, 0x9F],
    [0xE3, 0x80, 0x80]]

/-- Drop encodings from the front while one of them is there; `fuel` is the length of the string. -/
def trimFront (runes : List GoString) : Nat → GoString → GoString
  | 0, s => s
  | fuel + 1, s =>
      match runes.find? fun rune => hasPrefix s rune with
      | none => s
      | some rune => trimFront runes fuel (s.drop rune.length)

/-- `strings.TrimSpace(s)`.  A trailing rune is decoded backwards from the end of the string, so the end
is trimmed like the front of the reversed string with the reversed encodings. -/
def trimSpace (s : GoString) : GoString :=
  let front := trimFront spaceRunes s.length s
  (trimFront (spaceRunes.map List.reverse) front.length front.reverse).reverse

/-- `strings.Contains(s, sub)`. -/
def contains (s sub : GoString) : Bool := s.tails.any fun tail => hasPrefix tail sub

/-- The decimal digits of a natural number, as `%d` prints it. -/
def natString (n : Nat) : GoString := str (toString n)

/-- `%d` of an integer. -/
def intString (n : Int) : GoString := str (toString n)

/-- `strings.Join(parts, sep)`. -/
def join : List GoString → GoString → GoString
  | [], _ => []
  | [s], _ => s
  | s :: rest, sep => s ++ sep ++ join rest sep

/-! ## Separators -/

/-- What a text starts with, it starts with before a byte that is not in there. -/
theorem prefix_of_prefix_append_cons {α : Type} {p s t : List α} {a : α} (hp : a ∉ p) (hstart : p <+: s ++ a :: t) :
    p <+: s := by
  rcases List.prefix_or_prefix_of_prefix hstart (List.prefix_append s (a :: t)) with hshort | ⟨rest, rfl⟩
  · exact hshort
  · rw [List.prefix_append_right_inj] at hstart
    cases rest with
    | nil => rw [List.append_nil]
    | cons b rest =>
        obtain ⟨rfl, -⟩ := List.cons_prefix_cons.mp hstart
        exact absurd (List.mem_append_right s List.mem_cons_self) hp

theorem suffix_of_suffix_append_cons {α : Type} {p s t : List α} {a : α} (hp : a ∉ p) (hend : p <:+ s ++ a :: t) :
    p <:+ t := by
  rw [← List.reverse_prefix] at hend ⊢
  rw [List.reverse_append, List.reverse_cons, List.append_assoc, List.singleton_append] at hend
  exact prefix_of_prefix_append_cons (fun hmem => hp (List.mem_reverse.mp hmem)) hend

/-- What stands before the first separator is determined. -/
theorem eq_of_append_cons_eq {α : Type} {s s' t t' : List α} {a : α} (hs : a ∉ s) (hs' : a ∉ s')
    (heq : s ++ a :: t = s' ++ a :: t') : s = s' := by
  have hstart : s <+: s' := prefix_of_prefix_append_cons hs (heq ▸ List.prefix_append s (a :: t))
  have hstart' : s' <+: s := prefix_of_prefix_append_cons hs' (heq ▸ List.prefix_append s' (a :: t'))
  exact hstart.eq_of_length_le hstart'.length_le


theorem join_cons_cons (first second : GoString) (rest : List GoString) (sep : GoString) :
    join (first :: second :: rest) sep = first ++ sep ++ join (second :: rest) sep := rfl

/-- What was joined is split again; a separator that goes on after its first byte stays in front of the later parts. -/
theorem split_join {sep : UInt8} {pad first : GoString} {rest : List GoString} (hpad : sep ∉ pad) (hfirst : sep ∉ first)
    (hrest : ∀ part ∈ rest, sep ∉ part) :
    split (join (first :: rest) (sep :: pad)) sep = first :: rest.map (pad ++ ·) := by
  induction rest generalizing first with
  | nil => exact List.splitOn_eq_singleton hfirst
  | cons second rest ih =>
      obtain ⟨hsecond, hrest⟩ := List.forall_mem_cons.mp hrest
      have hjoin : join (first :: second :: rest) (sep :: pad) =
          first ++ sep :: (pad ++ join (second :: rest) (sep :: pad)) := by
        rw [join_cons_cons, List.append_assoc, List.cons_append]
      have hmove : pad ++ join (second :: rest) (sep :: pad) = join ((pad ++ second) :: rest) (sep :: pad) := by
        cases rest with
        | nil => rfl
        | cons third rest =>
            rw [join_cons_cons, join_cons_cons, List.append_assoc, List.append_assoc, List.append_assoc]
      have hnot : sep ∉ pad ++ second := fun hmem => (List.mem_append.mp hmem).elim hpad hsecond
      unfold split at ih ⊢
      rw [hjoin, hmove, List.splitOn_append_cons_self_of_not_mem hfirst, ih hnot hrest, List.map_cons]

/-! ## Spaces at the ends -/

/-- No space at either end. -/
def Unpadded (s : GoString) : Prop := ∀ rune ∈ spaceRunes, ¬ rune <+: s ∧ ¬ rune <:+ s

instance decidableUnpadded (s : GoString) : Decidable (Unpadded s) :=
  inferInstanceAs (Decidable (∀ rune ∈ spaceRunes, _))

/-- Nothing is trimmed when no encoding is at the front. -/
theorem trimFront_of_not_prefix {runes : List GoString} {s : GoString} (hs : ∀ rune ∈ runes, ¬ rune <+: s)
    (fuel : Nat) : trimFront runes fuel s = s := by
  have hnone : runes.find? (fun rune => hasPrefix s rune) = none := by
    rw [List.find?_eq_none]
    intro rune hrune hstart
    exact hs rune hrune (List.isPrefixOf_iff_prefix.mp hstart)
  cases fuel with
  | zero => rfl
  | succ fuel => rw [trimFront, hnone]

theorem trimSpace_of_unpadded {s : GoString} (hs : Unpadded s) : trimSpace s = s := by
  have hfront : trimFront spaceRunes s.length s = s := trimFront_of_not_prefix (fun rune hrune => (hs rune hrune).1) _
  have hback : trimFront (spaceRunes.map List.reverse) s.length s.reverse = s.reverse := by
    refine trimFront_of_not_prefix (fun rune hrune hstart => ?_) _
    obtain ⟨space, hspace, rfl⟩ := List.mem_map.mp hrune
    exact (hs space hspace).2 (List.reverse_prefix.mp hstart)
  unfold trimSpace
  simp only [hfront, hback, List.reverse_reverse]

/-- A blank at the front is trimmed. -/
theorem trimSpace_blank_cons (s : GoString) : trimSpace (0x20 :: s) = trimSpace s := by
  have hfront : trimFront spaceRunes (0x20 :: s).length (0x20 :: s) = trimFront spaceRunes s.length s := rfl
  unfold trimSpace
  simp only [hfront]

/-- Visible ASCII. -/
def visible (c : UInt8) : Bool := 0x20 < c && c < 0x80

theorem exists_not_visible_of_mem_spaceRunes : ∀ rune ∈ spaceRunes, ∃ c ∈ rune, visible c = false := by decide

/-- There is no space in visible ASCII. -/
theorem unpadded_of_visible {s : GoString} (hs : ∀ c ∈ s, visible c = true) : Unpadded s := by
  intro rune hrune
  obtain ⟨c, hc, hhidden⟩ := exists_not_visible_of_mem_spaceRunes rune hrune
  have hout : c ∉ s := fun hmem => Bool.false_ne_true (hhidden.symm.trans (hs c hmem))
  exact ⟨fun hstart => hout (hstart.subset hc), fun hend => hout (hend.subset hc)⟩

end Go
end Dmanager
