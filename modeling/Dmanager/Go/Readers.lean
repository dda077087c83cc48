import Dmanager.Go.Runes

/-!
# Readers

What packages `io`, `bufio` and `encoding/binary` do with the bytes of a reader: `io.ReadFull`, the tokens of a
`bufio.Scanner` that splits lines, and the big-endian number of four bytes.

A line of a text is what stands between two newlines, without a carriage return at its end; after the last newline
there is a line only if there is something (`lines`).  `scanLines_spec` says that a scanner finds the lines as long
as each of them is short enough for its buffer.
-/

namespace Dmanager
namespace Go

/-- How a reader ends. -/
inductive ReadError where
  | eof
  | canceled
  | other (message : GoString)
  deriving DecidableEq, Repr

/-- `io.Reader`: the bytes that it will deliver, and how it ends after them. -/
structure Reader where
  bytes : GoString
  ending : ReadError
  deriving DecidableEq, Repr

/-- `io.ReadFull` into a buffer of `n` bytes: the bytes and the rest, or the error that kept it from being filled.
At the end of the file that is `io.EOF` or `io.ErrUnexpectedEOF`, which no caller tells apart. -/
def Reader.readFull (r : Reader) (n : Nat) : Except ReadError (GoString × Reader) :=
  if n ≤ r.bytes.length then .ok (r.bytes.take n, ⟨r.bytes.drop n, r.ending⟩) else .error r.ending

/-- `binary.BigEndian.Uint32`. -/
def uint32 : GoString → Nat
  | [a, b, c, d] => ((a.toNat * 256 + b.toNat) * 256 + c.toNat) * 256 + d.toNat
  | _ => 0

/-- `binary.BigEndian.PutUint32`. -/
def putUint32 (n : Nat) : GoString :=
  [UInt8.ofNat (n / 16777216), UInt8.ofNat (n / 65536), UInt8.ofNat (n / 256), UInt8.ofNat n]

theorem uint32_putUint32 {n : Nat} (hn : n < 4294967296) : uint32 (putUint32 n) = n := by
  simp only [uint32, putUint32, UInt8.toNat_ofNat']
  omega

/-- A buffer is filled with the first bytes. -/
theorem readFull_append (s rest : GoString) (ending : ReadError) :
    (⟨s ++ rest, ending⟩ : Reader).readFull s.length = .ok (s, ⟨rest, ending⟩) := by
  unfold Reader.readFull
  rw [if_pos (by rw [List.length_append]; exact Nat.le_add_right _ _), List.take_left, List.drop_left]

/-- A reader that has too little for the buffer. -/
theorem readFull_of_lt {r : Reader} {n : Nat} (hlt : r.bytes.length < n) : r.readFull n = .error r.ending :=
  if_neg (Nat.not_le.mpr hlt)

/-! ## Lines -/

/-- `bufio.MaxScanTokenSize`. -/
def maxScanTokenSize : Nat := 64 * 1024

/-- `dropCR`. -/
def dropCR (line : GoString) : GoString := trimSuffix line [0x0D]

/-- The tokens of a scanner, and whether it gave up at a line that does not fit into its buffer. -/
structure Scanned where
  tokens : List GoString
  tooLong : Bool
  deriving DecidableEq, Repr

/-- `bufio.Scanner` with `bufio.ScanLines`; `line` is what the buffer holds of the line so far. -/
def scanFrom (line : GoString) : GoString → Scanned
  | [] => ⟨if line = [] then [] else [dropCR line], false⟩
  | b :: rest =>
      if b = 0x0A then
        let next := scanFrom [] rest
        ⟨dropCR line :: next.tokens, next.tooLong⟩
      else if line.length + 1 < maxScanTokenSize then scanFrom (line ++ [b]) rest
      else ⟨[], true⟩

/-- All of a text. -/
def scanLines (text : GoString) : Scanned := scanFrom [] text

/-- A list of texts without the last one if that is empty. -/
def dropFinalEmpty : List GoString → List GoString
  | [] => []
  | [line] => if line = [] then [] else [line]
  | line :: next :: rest => line :: dropFinalEmpty (next :: rest)

/-- The text between the newlines. -/
def pieces (text : GoString) : List GoString := dropFinalEmpty (split text 0x0A)

/-- The lines of a text. -/
def lines (text : GoString) : List GoString := (pieces text).map dropCR

/-- Every line is short enough for a scanner, with the carriage return it may end with. -/
def ShortLines (text : GoString) : Prop := ∀ piece ∈ pieces text, piece.length < maxScanTokenSize

instance (text : GoString) : Decidable (ShortLines text) := inferInstanceAs (Decidable (∀ _ ∈ _, _))

section

variable {line rest : GoString}

/-- Text that ends without a newline is one piece, or none if it is empty. -/
theorem pieces_of_not_mem (hline : 0x0A ∉ line) : pieces line = if line = [] then [] else [line] := by
  have hsplit : split line 0x0A = [line] := List.splitOn_eq_singleton hline
  rw [pieces, hsplit, dropFinalEmpty]

/-- The text up to the first newline is a piece. -/
theorem pieces_append_newline (hline : 0x0A ∉ line) : pieces (line ++ 0x0A :: rest) = line :: pieces rest := by
  have hsplit : split (line ++ 0x0A :: rest) 0x0A = line :: split rest 0x0A :=
    List.splitOn_append_cons_self_of_not_mem hline rest
  obtain ⟨first, others, hrest⟩ := List.exists_cons_of_ne_nil (List.splitOn_ne_nil (0x0A : UInt8) rest)
  have hrest : split rest 0x0A = first :: others := hrest
  rw [pieces, pieces, hsplit, hrest, dropFinalEmpty]

theorem lines_of_not_mem (hline : 0x0A ∉ line) : lines line = if line = [] then [] else [dropCR line] := by
  rw [lines, pieces_of_not_mem hline]
  split <;> rfl

theorem lines_append_newline (hline : 0x0A ∉ line) :
    lines (line ++ 0x0A :: rest) = dropCR line :: lines rest := by
  rw [lines, pieces_append_newline hline, List.map_cons]
  rfl

theorem shortLines_append_newline (hline : 0x0A ∉ line) :
    ShortLines (line ++ 0x0A :: rest) ↔ line.length < maxScanTokenSize ∧ ShortLines rest := by
  unfold ShortLines
  rw [pieces_append_newline hline, List.forall_mem_cons]

/-- Induction on a text line by line. -/
@[elab_as_elim]
theorem lineInduction {motive : GoString → Prop} (last : ∀ line, 0x0A ∉ line → motive line)
    (next : ∀ line rest, 0x0A ∉ line → motive rest → motive (line ++ 0x0A :: rest)) (text : GoString) :
    motive text := by
  induction hlength : text.length using Nat.strongRecOn generalizing text with
  | ind n ih =>
      by_cases hmem : 0x0A ∈ text
      · obtain ⟨line, rest, rfl, hline⟩ := List.eq_append_cons_of_mem hmem
        refine next line rest hline (ih rest.length ?_ rest rfl)
        rw [← hlength, List.length_append, List.length_cons]
        omega
      · exact last text hmem

/-- What a carriage return ends is valid without it. -/
theorem validString_dropCR (line : GoString) : ValidString (dropCR line) ↔ ValidString line := by
  unfold dropCR trimSuffix
  split
  · rename_i hsuffix
    obtain ⟨front, rfl⟩ := List.isSuffixOf_iff_suffix.mp hsuffix
    rw [List.length_append, Nat.add_sub_cancel, List.take_left, validString_append_cons (by decide),
      and_iff_left validString_nil]
  · exact Iff.rfl

/-- A text is valid when its lines are. -/
theorem validString_iff_lines (text : GoString) : ValidString text ↔ ∀ line ∈ lines text, ValidString line := by
  induction text using lineInduction with
  | last line hline =>
      rw [lines_of_not_mem hline]
      split
      · rename_i hempty
        rw [hempty]
        exact iff_of_true validString_nil (List.forall_mem_nil _)
      · rw [List.forall_mem_singleton, validString_dropCR]
  | next line rest hline ih =>
      rw [lines_append_newline hline, List.forall_mem_cons, validString_append_cons (by decide), validString_dropCR,
        ih]

/-! ## What a scanner finds -/

/-- The buffer takes what is left of a line, if there is room for it. -/
theorem scanFrom_append {s : GoString} (hs : 0x0A ∉ s) (hshort : line.length + s.length < maxScanTokenSize) :
    scanFrom line (s ++ rest) = scanFrom (line ++ s) rest := by
  induction s generalizing line with
  | nil => rw [List.nil_append, List.append_nil]
  | cons b s ih =>
      obtain ⟨hb, hs⟩ := List.ne_and_not_mem_of_not_mem_cons hs
      rw [List.length_cons] at hshort
      rw [List.cons_append, scanFrom, if_neg (Ne.symm hb), if_pos (by omega), ih hs, List.append_assoc]
      · rfl
      · rw [List.length_append, List.length_singleton]
        omega

/-- A line that is too long ends the scan. -/
theorem tooLong_scanFrom {s : GoString} (hs : 0x0A ∉ s) (hline : line.length < maxScanTokenSize)
    (hlong : maxScanTokenSize ≤ line.length + s.length) : (scanFrom line (s ++ rest)).tooLong = true := by
  induction s generalizing line with
  | nil => exact absurd hline (Nat.not_lt.mpr hlong)
  | cons b s ih =>
      obtain ⟨hb, hs⟩ := List.ne_and_not_mem_of_not_mem_cons hs
      rw [List.length_cons] at hlong
      rw [List.cons_append, scanFrom, if_neg (Ne.symm hb)]
      split
      · rename_i hroom
        refine ih hs ?_ ?_
        · rw [List.length_append, List.length_singleton]
          exact hroom
        · rw [List.length_append, List.length_singleton]
          omega
      · rfl

/-- A scanner finds the lines of a text, unless one of them is too long for it. -/
theorem scanLines_spec (text : GoString) :
    (ShortLines text → scanLines text = ⟨lines text, false⟩) ∧
      (¬ ShortLines text → (scanLines text).tooLong = true) := by
  induction text using lineInduction with
  | last line hline =>
      have hnil : scanFrom line [] = ⟨lines line, false⟩ := by rw [scanFrom, lines_of_not_mem hline]
      have hscan : scanLines line = scanFrom [] (line ++ []) := by rw [List.append_nil, scanLines]
      by_cases hempty : line = []
      · subst hempty
        exact ⟨fun _ => rfl, fun hlong => absurd (by decide) hlong⟩
      · have hshort : ShortLines line ↔ line.length < maxScanTokenSize := by
          rw [ShortLines, pieces_of_not_mem hline, if_neg hempty, List.forall_mem_singleton]
        rw [hshort, hscan]
        constructor
        · intro hlt
          rw [scanFrom_append hline (by rwa [List.length_nil, Nat.zero_add]), List.nil_append, hnil]
        · intro hlong
          refine tooLong_scanFrom hline (by decide) ?_
          rw [List.length_nil, Nat.zero_add]
          exact Nat.not_lt.mp hlong
  | next line rest hline ih =>
      rw [shortLines_append_newline hline, scanLines]
      by_cases hlt : line.length < maxScanTokenSize
      · rw [scanFrom_append hline (by rwa [List.length_nil, Nat.zero_add]), List.nil_append, scanFrom, if_pos rfl,
          lines_append_newline hline]
        constructor
        · rintro ⟨-, hshort⟩
          exact congrArg (fun next => Scanned.mk (dropCR line :: next.tokens) next.tooLong) (ih.1 hshort)
        · intro hlong
          exact ih.2 fun hshort => hlong ⟨hlt, hshort⟩
      · refine ⟨fun hshort => absurd hshort.1 hlt, fun _ => tooLong_scanFrom hline (by decide) ?_⟩
        rw [List.length_nil, Nat.zero_add]
        exact Nat.not_lt.mp hlt

end

end Go
end Dmanager
