import Dmanager.Go.Runes

/-!
# JSON

What package `encoding/json` writes for a string and for a map, and a reader for objects whose members are
strings.  A string is written rune by rune: quotes, backslashes, control characters and `<`, `>`, `&` are escaped,
the two line separators too, and U+FFFD is written in place of a byte that starts no rune.

`readObject_writeObject` is the round trip, for strings that are valid UTF-8: the reader gets back the members that
were written.  Of other strings it gets back what `repaired` makes of them.
-/

namespace Dmanager
namespace Go

/-! ## Writing -/

/-- A digit of `0123456789abcdef`. -/
def hexDigit (n : Nat) : UInt8 := if n < 10 then UInt8.ofNat (0x30 + n) else UInt8.ofNat (0x57 + n)

/-- What `appendString` writes for a byte below `0x80`. -/
def escapeByte (b : UInt8) : GoString :=
  if b = 0x5C ∨ b = 0x22 then [0x5C, b]
  else if b = 0x08 then str "\\b"
  else if b = 0x0C then str "\\f"
  else if b = 0x0A then str "\\n"
  else if b = 0x0D then str "\\r"
  else if b = 0x09 then str "\\t"
  else if b < 0x20 ∨ b = 0x3C ∨ b = 0x3E ∨ b = 0x26 then
    str "\\u00" ++ [hexDigit (b.toNat / 16), hexDigit (b.toNat % 16)]
  else [b]

/-- What it writes for any other rune. -/
def escapeRune (c : Char) : GoString :=
  if c = Char.ofNat 0x2028 then str "\\u2028" else if c = Char.ofNat 0x2029 then str "\\u2029" else utf8 c

/-- The loop of `appendString`; `fuel` is the length of the string. -/
def escape : Nat → GoString → GoString
  | 0, _ => []
  | _ + 1, [] => []
  | fuel + 1, b :: rest =>
      if b < 0x80 then escapeByte b ++ escape fuel rest
      else
        match decodeRune (b :: rest) with
        | none => utf8 runeError ++ escape fuel rest
        | some c => escapeRune c ++ escape fuel ((b :: rest).drop c.utf8Size)

/-- A string. -/
def writeString (s : GoString) : GoString := 0x22 :: (escape s.length s ++ [0x22])

/-- A member of an object, with the text of its value. -/
def writeMember (member : GoString × GoString) : GoString := writeString member.1 ++ 0x3A :: member.2

/-- Members in this order, with commas between them. -/
def writeMembers (members : List (GoString × GoString)) : GoString :=
  ((members.map writeMember).intersperse [0x2C]).flatten

/-- An object with members in this order. -/
def writeObject (members : List (GoString × GoString)) : GoString := 0x7B :: (writeMembers members ++ [0x7D])

theorem writeMembers_singleton (member : GoString × GoString) : writeMembers [member] = writeMember member := by
  simp [writeMembers]

theorem writeMembers_cons_cons (member next : GoString × GoString) (rest : List (GoString × GoString)) :
    writeMembers (member :: next :: rest) = writeMember member ++ 0x2C :: writeMembers (next :: rest) := by
  simp [writeMembers]

/-- The members of an object start with a quote. -/
theorem writeMembers_eq_cons (member : GoString × GoString) (rest : List (GoString × GoString)) :
    ∃ text, writeMembers (member :: rest) = 0x22 :: text := by
  cases rest with
  | nil => exact ⟨_, writeMembers_singleton member⟩
  | cons next rest => exact ⟨_, writeMembers_cons_cons member next rest⟩

theorem length_writeMembers (member : GoString × GoString) (rest : List (GoString × GoString)) :
    rest.length ≤ (writeMembers (member :: rest)).length := by
  induction rest generalizing member with
  | nil => exact Nat.zero_le _
  | cons next rest ih =>
      have hrest := ih next
      rw [writeMembers_cons_cons, List.length_append, List.length_cons, List.length_cons]
      omega

/-! ## Reading -/

def hexValue? (b : UInt8) : Option Nat :=
  if 0x30 ≤ b ∧ b ≤ 0x39 then some (b.toNat - 0x30)
  else if 0x61 ≤ b ∧ b ≤ 0x66 then some (b.toNat - 0x57)
  else if 0x41 ≤ b ∧ b ≤ 0x46 then some (b.toNat - 0x37)
  else none

/-- The rune of four hexadecimal digits. -/
def readHex (first second third fourth : UInt8) : Option Char := do
  let a ← hexValue? first
  let b ← hexValue? second
  let c ← hexValue? third
  let d ← hexValue? fourth
  some (Char.ofNat (((a * 16 + b) * 16 + c) * 16 + d))

/-- The byte of an escape of two characters. -/
def unescape? (b : UInt8) : Option UInt8 :=
  if b = 0x5C ∨ b = 0x22 ∨ b = 0x2F then some b
  else if b = 0x62 then some 0x08
  else if b = 0x66 then some 0x0C
  else if b = 0x6E then some 0x0A
  else if b = 0x72 then some 0x0D
  else if b = 0x74 then some 0x09
  else none

/-- A string after its first quote, and what follows it. -/
def readString : GoString → Option (GoString × GoString)
  | [] => none
  | b :: rest =>
      if b = 0x22 then some ([], rest)
      else if b = 0x5C then
        match rest with
        | [] => none
        | e :: rest =>
            if e = 0x75 then
              match rest with
              | first :: second :: third :: fourth :: rest =>
                  (readHex first second third fourth).bind fun c =>
                    (readString rest).map fun (s, after) => (utf8 c ++ s, after)
              | _ => none
            else (unescape? e).bind fun u => (readString rest).map fun (s, after) => (u :: s, after)
      else (readString rest).map fun (s, after) => (b :: s, after)

/-- The members of an object after its first brace. -/
def readMembers : Nat → GoString → Option (List (GoString × GoString))
  | 0, _ => none
  | fuel + 1, text =>
      match text with
      | 0x22 :: rest =>
          match readString rest with
          | some (key, 0x3A :: 0x22 :: rest) =>
              match readString rest with
              | some (value, 0x2C :: rest) => (readMembers fuel rest).map fun members => (key, value) :: members
              | some (value, [0x7D]) => some [(key, value)]
              | _ => none
          | _ => none
      | _ => none

/-- An object whose members are strings, without white space. -/
def readObject (text : GoString) : Option (List (GoString × GoString)) :=
  match text with
  | [0x7B, 0x7D] => some []
  | 0x7B :: rest => readMembers rest.length rest
  | _ => none

/-! ## The round trip -/

theorem readString_quote (rest : GoString) : readString (0x22 :: rest) = some ([], rest) := by
  rw [readString.eq_def]
  exact if_pos rfl

theorem readString_of_plain {b : UInt8} (rest : GoString) (hquote : b ≠ 0x22) (hslash : b ≠ 0x5C) :
    readString (b :: rest) = (readString rest).map fun (s, after) => (b :: s, after) := by
  rw [readString.eq_def]
  exact (if_neg hquote).trans (if_neg hslash)

theorem readString_unicode (first second third fourth : UInt8) (rest : GoString) :
    readString (0x5C :: 0x75 :: first :: second :: third :: fourth :: rest) =
      (readHex first second third fourth).bind fun c =>
        (readString rest).map fun (s, after) => (utf8 c ++ s, after) := by
  rw [readString.eq_def]
  exact (if_neg (by decide)).trans ((if_pos rfl).trans (if_pos rfl))

theorem readString_escape {e u : UInt8} (rest : GoString) (he : e ≠ 0x75) (hu : unescape? e = some u) :
    readString (0x5C :: e :: rest) = (readString rest).map fun (s, after) => (u :: s, after) := by
  rw [readString.eq_def]
  refine (if_neg (by decide)).trans ((if_pos rfl).trans ((if_neg he).trans ?_))
  rw [hu]
  rfl

/-- The digits of a byte below `0x80` are read back. -/
theorem readHex_ascii : ∀ n < 0x80, (readHex 0x30 0x30 (hexDigit (n / 16)) (hexDigit (n % 16))).map utf8 =
    some [UInt8.ofNat n] := by
  decide +kernel

/-- A byte below `0x80` is read back. -/
theorem readString_escapeByte {b : UInt8} (hascii : b < 0x80) (rest : GoString) :
    readString (escapeByte b ++ rest) = (readString rest).map fun (s, after) => (b :: s, after) := by
  unfold escapeByte
  split
  · rename_i hspecial
    refine readString_escape rest ?_ ?_
    · rcases hspecial with rfl | rfl <;> decide
    · rcases hspecial with rfl | rfl <;> decide
  rename_i hplain
  split
  · rename_i heq
    subst heq
    exact readString_escape rest (by decide) (by decide)
  split
  · rename_i heq
    subst heq
    exact readString_escape rest (by decide) (by decide)
  split
  · rename_i heq
    subst heq
    exact readString_escape rest (by decide) (by decide)
  split
  · rename_i heq
    subst heq
    exact readString_escape rest (by decide) (by decide)
  split
  · rename_i heq
    subst heq
    exact readString_escape rest (by decide) (by decide)
  split
  · have hread := readHex_ascii b.toNat (UInt8.lt_iff_toNat_lt.mp hascii)
    rw [UInt8.ofNat_toNat] at hread
    obtain ⟨c, hc, hutf8⟩ := Option.map_eq_some_iff.mp hread
    refine (readString_unicode 0x30 0x30 _ _ rest).trans ?_
    rw [hc, Option.bind_some, hutf8]
    rfl
  · rw [not_or] at hplain
    exact readString_of_plain rest hplain.2 hplain.1

/-- Bytes from `0x80` on are read as they are. -/
theorem readString_high (bytes rest : GoString) (hhigh : ∀ b ∈ bytes, 0x80 ≤ b) :
    readString (bytes ++ rest) = (readString rest).map fun (s, after) => (bytes ++ s, after) := by
  induction bytes with
  | nil => simp
  | cons b bytes ih =>
      have hb : 0x80 ≤ b := hhigh b List.mem_cons_self
      have hquote : b ≠ 0x22 := by
        rintro rfl
        exact absurd hb (by decide)
      have hslash : b ≠ 0x5C := by
        rintro rfl
        exact absurd hb (by decide)
      rw [List.cons_append, readString_of_plain _ hquote hslash,
        ih fun b' hb' => hhigh b' (List.mem_cons_of_mem b hb'), Option.map_map]
      rfl

/-- A rune that is no byte below `0x80` is read back. -/
theorem readString_escapeRune {c : Char} (hhigh : ∀ b ∈ utf8 c, 0x80 ≤ b) (rest : GoString) :
    readString (escapeRune c ++ rest) = (readString rest).map fun (s, after) => (utf8 c ++ s, after) := by
  unfold escapeRune
  split
  · rename_i heq
    subst heq
    refine (readString_unicode 0x32 0x30 0x32 0x38 rest).trans ?_
    rw [show readHex 0x32 0x30 0x32 0x38 = some (Char.ofNat 0x2028) from rfl]
    rfl
  · split
    · rename_i heq
      subst heq
      refine (readString_unicode 0x32 0x30 0x32 0x39 rest).trans ?_
      rw [show readHex 0x32 0x30 0x32 0x39 = some (Char.ofNat 0x2029) from rfl]
      rfl
    · exact readString_high _ rest hhigh

/-- What is written for a string is read back, rune by rune. -/
theorem readString_escape_runesFrom (after : GoString) (fuel : Nat) (s : GoString) (hfuel : s.length ≤ fuel) :
    readString (escape fuel s ++ 0x22 :: after) = some ((runesFrom fuel s).flatMap utf8, after) := by
  induction fuel generalizing s with
  | zero =>
      rw [List.eq_nil_of_length_eq_zero (Nat.le_zero.mp hfuel)]
      exact readString_quote after
  | succ fuel ih =>
      cases s with
      | nil => exact readString_quote after
      | cons b rest =>
          rw [List.length_cons] at hfuel
          rw [escape, runesFrom]
          by_cases hascii : b < 0x80
          · have hdecode : decodeRune (b :: rest) = some (Char.ofNat b.toNat) := by
              have hrune := decodeRune_utf8 (Char.ofNat b.toNat) rest
              rwa [utf8_ascii hascii] at hrune
            have hsize : (Char.ofNat b.toNat).utf8Size = 1 := by rw [← length_utf8, utf8_ascii hascii]; rfl
            rw [if_pos hascii, hdecode, List.append_assoc, readString_escapeByte hascii, ih rest (by omega)]
            dsimp only
            rw [hsize, List.drop_one, List.tail_cons, List.flatMap_cons, utf8_ascii hascii]
            rfl
          · rw [if_neg hascii]
            cases hdecode : decodeRune (b :: rest) with
            | none =>
                dsimp only
                have hhigh : ∀ b' ∈ utf8 runeError, 0x80 ≤ b' := by decide +kernel
                rw [List.append_assoc, readString_high _ _ hhigh, ih rest (by omega), Option.map_some,
                  List.flatMap_cons]
            | some c =>
                dsimp only
                have hstart := decodeRune_eq_some_iff.mp hdecode
                have hhigh : ∀ b' ∈ utf8 c, 0x80 ≤ b' := by
                  rcases utf8_cases c with ⟨b', hb', hlow⟩ | ⟨-, -, -, hhigh⟩
                  · rw [hb', List.cons_prefix_cons] at hstart
                    exact absurd (hstart.1 ▸ hlow) hascii
                  · exact hhigh
                have hlength : ((b :: rest).drop c.utf8Size).length ≤ fuel := by
                  have hsize := c.utf8Size_pos
                  rw [List.length_drop, List.length_cons]
                  omega
                rw [List.append_assoc, readString_escapeRune hhigh, ih _ hlength, Option.map_some, List.flatMap_cons]

/-- A string that is written is read back, with what follows it; the bytes that start no rune are replaced. -/
theorem readString_writeString (s after : GoString) :
    ∃ text, writeString s ++ after = 0x22 :: text ∧ readString text = some (repaired s, after) := by
  refine ⟨_, ?_, readString_escape_runesFrom after _ s le_rfl⟩
  rw [writeString, List.cons_append, List.append_assoc]
  rfl

/-- A member is read back up to what follows it. -/
theorem read_writeMember (key value after : GoString) :
    ∃ text text', writeMember (key, writeString value) ++ after = 0x22 :: text ∧
      readString text = some (repaired key, 0x3A :: 0x22 :: text') ∧
      readString text' = some (repaired value, after) := by
  obtain ⟨text', htext', hread'⟩ := readString_writeString value after
  obtain ⟨text, htext, hread⟩ := readString_writeString key (0x3A :: (writeString value ++ after))
  refine ⟨text, text', ?_, ?_, hread'⟩
  · rw [writeMember, List.append_assoc]
    exact htext
  · rw [hread, htext']

/-- The members of an object are read back, from the first to the brace. -/
theorem readMembers_writeMembers (member : GoString × GoString) (rest : List (GoString × GoString)) :
    ∀ fuel, rest.length < fuel →
      readMembers fuel
          (writeMembers ((member :: rest).map fun member => (member.1, writeString member.2)) ++ [0x7D]) =
        some ((member :: rest).map fun member => (repaired member.1, repaired member.2)) := by
  induction rest generalizing member with
  | nil =>
      intro fuel hfuel
      obtain ⟨n, rfl⟩ : ∃ n, fuel = n + 1 := ⟨fuel - 1, by omega⟩
      obtain ⟨text, text', htext, hread, hread'⟩ := read_writeMember member.1 member.2 [0x7D]
      rw [List.map_cons, List.map_nil, writeMembers_singleton, htext, readMembers, hread]
      simp only [hread', List.map_cons, List.map_nil]
  | cons next rest ih =>
      intro fuel hfuel
      rw [List.length_cons] at hfuel
      obtain ⟨n, rfl⟩ : ∃ n, fuel = n + 1 := ⟨fuel - 1, by omega⟩
      have hrest := ih next n (by omega)
      obtain ⟨text, text', htext, hread, hread'⟩ := read_writeMember member.1 member.2
        (0x2C :: (writeMembers ((next :: rest).map fun member => (member.1, writeString member.2)) ++ [0x7D]))
      have hwritten : writeMembers ((member :: next :: rest).map fun member => (member.1, writeString member.2)) =
          writeMember (member.1, writeString member.2) ++
            0x2C :: writeMembers ((next :: rest).map fun member => (member.1, writeString member.2)) :=
        writeMembers_cons_cons _ _ _
      rw [hwritten, List.append_assoc, List.cons_append, htext, readMembers, hread]
      simp only [hread', hrest, Option.map_some]
      rfl

/-- An object that is written is read back; the bytes that start no rune are replaced. -/
theorem readObject_writeObject_repaired (members : List (GoString × GoString)) :
    readObject (writeObject (members.map fun member => (member.1, writeString member.2))) =
      some (members.map fun member => (repaired member.1, repaired member.2)) := by
  cases members with
  | nil => rfl
  | cons member rest =>
      have hlength := length_writeMembers
        (member.1, writeString member.2) (rest.map fun member => (member.1, writeString member.2))
      rw [List.length_map] at hlength
      obtain ⟨text, htext⟩ := writeMembers_eq_cons
        (member.1, writeString member.2) (rest.map fun member => (member.1, writeString member.2))
      rw [htext] at hlength
      have hread := readMembers_writeMembers member rest (0x22 :: text ++ [0x7D]).length (by
        rw [List.length_append, List.length_singleton]
        omega)
      rw [List.map_cons, htext] at hread
      rw [List.map_cons, writeObject, htext, readObject]
      · exact hread
      · intro heq
        exact absurd (List.cons.inj heq).1 (by decide)

/-- An object of valid strings is read back as it was. -/
theorem readObject_writeObject (members : List (GoString × GoString))
    (hvalid : ∀ member ∈ members, ValidString member.1 ∧ ValidString member.2) :
    readObject (writeObject (members.map fun member => (member.1, writeString member.2))) = some members := by
  rw [readObject_writeObject_repaired]
  refine congrArg some ((List.map_congr_left fun member hmember => ?_).trans (List.map_id _))
  obtain ⟨hkey, hvalue⟩ := hvalid member hmember
  rw [repaired_of_valid hkey, repaired_of_valid hvalue]
  rfl

end Go
end Dmanager
