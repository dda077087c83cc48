import Dmanager.Auth.SetupAdmin
import Dmanager.Go.Readers
import Dmanager.Go.Timestamps
import Dmanager.Go.Unicode
import Dmanager.Lib.Program

/-!
# Breached passwords

`PasswordValidator.Validate` of `internal/auth/password.go` asks a service whether a password appears in a data breach.
It sends the first five digits of the SHA-1 digest, and looks for the other thirty-five in the lines of the answer.

* `IsRange` — the lines that the service answers with: one for each digest with these five digits, in any order, and
  its digits in upper or lower case.
* `validate_refines` — with a service that answers so, a password is refused for a breach exactly when its digest is
  among those of the service, as `SetupAdmin` takes it to be; and the service is told the five digits only.

`crypto/sha1` and the tables of package `unicode` are parameters.
-/

namespace Dmanager
namespace Auth
namespace Password

open Go Lib
open SetupAdmin (minPasswordLength)
open Program (perform ensure)

/-! ## The source -/

/-- `PasswordValidator`, with the digest and the tables that it uses. -/
structure Validator where
  checkBreached : Bool
  apiURL : GoString
  sha1 : GoString → List UInt8
  tables : UnicodeTables

/-- `hibpRangeAPIURL`. -/
def hibpRangeAPIURL : GoString := str "https://api.pwnedpasswords.com/range/"

/-- The `User-Agent` of the request. -/
def userAgent : GoString := str "dmanager-auth-validator"

/-- The calls: `http.NewRequest`, and `Do` of the client. -/
inductive RangeCall where
  | newRequest (url : GoString)
  | httpDo (url userAgent : GoString)
  deriving DecidableEq, Repr

/-- Of the response the handler reads the status and the body. -/
structure RangeResponse where
  statusCode : Nat
  body : Reader
  deriving DecidableEq, Repr

/-- An error of `http.NewRequest` if there is one, and what `Do` returns. -/
@[reducible] def RangeAnswer : RangeCall → Type
  | .newRequest _ => Option GoString
  | .httpDo _ _ => Except GoString RangeResponse

abbrev RangeProgram (α : Type) := Program RangeCall RangeAnswer ConnectError α

abbrev RangeWorld := World RangeCall RangeAnswer

/-- `strings.ToUpper` of ASCII text. -/
def upperByte (b : UInt8) : UInt8 := if 0x61 ≤ b ∧ b ≤ 0x7A then b - 0x20 else b

/-- The digits of a digest. -/
def upperHex (digest : List UInt8) : GoString := (hexEncode digest).map upperByte

def breached : ConnectError :=
  newError .invalidArgument "the chosen password appears in a known data breach; please choose a different password"

/-- The loop over the lines of the answer. -/
def scanRange (tables : UnicodeTables) (suffix : GoString) : List GoString → RangeProgram Unit
  | [] => .done ()
  | text :: rest =>
    let line := trimSpace text
    if line = [] then scanRange tables suffix rest
    else if tables.equalFold ((split line 0x3A).headD []) suffix then .fail breached
    else scanRange tables suffix rest

/-- `checkHIBP`. -/
def checkHIBP (v : Validator) (password : GoString) : RangeProgram Unit := do
  let sha1Hex := upperHex (v.sha1 password)
  if sha1Hex.length ≠ 40 then .done ()
  else
    let url := v.apiURL ++ sha1Hex.take 5
    match ← perform (RangeCall.newRequest url) with
    | some _ => .done ()
    | none =>
      match ← perform (RangeCall.httpDo url userAgent) with
      | .error _ => .done ()
      | .ok resp =>
        if resp.statusCode ≠ 200 then .done ()
        else scanRange v.tables (sha1Hex.drop 5) (scanLines resp.body.bytes).tokens

/-- `Validate`. -/
def validate (v : Validator) (password : GoString) : RangeProgram Unit := do
  ensure (minPasswordLength ≤ password.length) ⟨.invalidArgument,
    str "password must be at least " ++ natString minPasswordLength ++ str " characters"⟩
  if v.checkBreached then checkHIBP v password else .done ()

/-! ## The service -/

/-- A password of the service: its digest, and how often it has been seen. -/
structure Breach where
  digest : List UInt8
  count : Nat
  length_digest : digest.length = 20
  count_lt : count < 10 ^ 18

/-- The line of a password. -/
def Breach.line (b : Breach) : GoString := (upperHex b.digest).drop 5 ++ 0x3A :: natString b.count

/-- The passwords whose digests start with five digits. -/
def inRange (corpus : List Breach) (digits : GoString) : List Breach :=
  corpus.filter fun b => (upperHex b.digest).take 5 = digits

/-- The lines of a range, in some order, each digit in upper or lower case. -/
def IsRange (corpus : List Breach) (digits : GoString) (texts : List GoString) : Prop :=
  (texts.map (List.map upperByte)).Perm ((inRange corpus digits).map Breach.line)

/-- The service answers every range, each time with some order and case of its lines. -/
structure Answers (w : RangeWorld) (v : Validator) (corpus : List Breach) : Prop where
  created : ∀ digits n, w (.newRequest (v.apiURL ++ digits)) n = none
  answered : ∀ digits n, ∃ texts, IsRange corpus digits texts ∧
    w (.httpDo (v.apiURL ++ digits) userAgent) n = .ok ⟨200, ⟨join texts [0x0D, 0x0A], .eof⟩⟩

/-- On ASCII the tables fold letters as `strings.ToLower` does. -/
def FoldsASCII (tables : UnicodeTables) : Prop :=
  ∀ c d : Char, c.toNat < 0x80 → d.toNat < 0x80 → (tables.fold c = tables.fold d ↔ c.toLower = d.toLower)

/-! ## Digits -/

/-- The upper-case digits. -/
def upperDigits : List UInt8 := str "0123456789ABCDEF"

/-- The lower-case digits. -/
def lowerDigits : List UInt8 := str "0123456789abcdef"

/-- The digits of either case. -/
def bothDigits : List UInt8 := upperDigits ++ lowerDigits

/-- What becomes a digit was one. -/
theorem mem_bothDigits_of_upperByte {b : UInt8} (hb : upperByte b ∈ upperDigits) : b ∈ bothDigits := by
  have hall : ∀ n < 256, upperByte (UInt8.ofNat n) ∈ upperDigits → UInt8.ofNat n ∈ bothDigits := by decide +kernel
  have hthis := hall b.toNat b.toNat_lt
  rw [UInt8.ofNat_toNat] at hthis
  exact hthis hb

theorem eq_colon_of_upperByte {b : UInt8} (hb : upperByte b = 0x3A) : b = 0x3A := by
  have hall : ∀ n < 256, upperByte (UInt8.ofNat n) = 0x3A → UInt8.ofNat n = 0x3A := by decide +kernel
  have hthis := hall b.toNat b.toNat_lt
  rw [UInt8.ofNat_toNat] at hthis
  exact hthis hb

theorem map_upperByte_of_upperDigits {s : GoString} (hs : ∀ b ∈ s, b ∈ upperDigits) : s.map upperByte = s := by
  have hfixed : ∀ b ∈ upperDigits, upperByte b = b := by decide +kernel
  calc
    s.map upperByte = s.map id := List.map_congr_left fun b hb => hfixed b (hs b hb)
    _ = s := List.map_id s

theorem hexDigit_mem {n : UInt8} (hn : n.toNat < 16) : hexDigit n ∈ lowerDigits := by
  have hall : ∀ k < 16, hexDigit (UInt8.ofNat k) ∈ lowerDigits := by decide +kernel
  have hmem := hall n.toNat hn
  rwa [UInt8.ofNat_toNat] at hmem

theorem mem_lowerDigits_of_mem_hexEncode {digest : List UInt8} : ∀ c ∈ hexEncode digest, c ∈ lowerDigits := by
  induction digest with
  | nil => nofun
  | cons b rest ih =>
      have hlt : b.toNat < 256 := b.toNat_lt
      have hhigh : (b / 16).toNat < 16 := by
        change b.toNat / 16 < 16
        omega
      have hlow : (b % 16).toNat < 16 := by
        change b.toNat % 16 < 16
        omega
      rw [hexEncode, List.forall_mem_cons, List.forall_mem_cons]
      exact ⟨hexDigit_mem hhigh, hexDigit_mem hlow, ih⟩

theorem length_hexEncode (digest : List UInt8) : (hexEncode digest).length = 2 * digest.length := by
  induction digest with
  | nil => rfl
  | cons b rest ih =>
      rw [hexEncode, List.length_cons, List.length_cons, List.length_cons, ih]
      omega

theorem length_upperHex (digest : List UInt8) : (upperHex digest).length = 2 * digest.length := by
  rw [upperHex, List.length_map, length_hexEncode]

theorem mem_upperDigits_of_mem_upperHex {digest : List UInt8} {c : UInt8} (hc : c ∈ upperHex digest) :
    c ∈ upperDigits := by
  have hall : ∀ b ∈ lowerDigits, upperByte b ∈ upperDigits := by decide +kernel
  obtain ⟨b, hb, rfl⟩ := List.mem_map.mp hc
  exact hall b (mem_lowerDigits_of_mem_hexEncode b hb)

/-- Different digests have different digits. -/
theorem upperHex_injective : Function.Injective upperHex := by
  have hbyte : ∀ b ∈ lowerDigits, ∀ c ∈ lowerDigits, upperByte b = upperByte c → b = c := by decide +kernel
  have hmap : ∀ s t : GoString, (∀ b ∈ s, b ∈ lowerDigits) → (∀ b ∈ t, b ∈ lowerDigits) →
      s.map upperByte = t.map upperByte → s = t := by
    intro s
    induction s with
    | nil =>
        intro t _ _ heq
        exact (List.map_eq_nil_iff.mp heq.symm).symm
    | cons b s ih =>
        intro t hs ht heq
        cases t with
        | nil => cases heq
        | cons c t =>
            rw [List.map_cons, List.map_cons, List.cons.injEq] at heq
            rw [List.forall_mem_cons] at hs ht
            rw [hbyte b hs.1 c ht.1 heq.1, ih t hs.2 ht.2 heq.2]
  intro first second heq
  exact hexEncode_injective
    (hmap _ _ mem_lowerDigits_of_mem_hexEncode mem_lowerDigits_of_mem_hexEncode heq)

/-- Texts of digits are equal without regard to case when their upper case is the same. -/
theorem equalFold_bothDigits_iff {tables : UnicodeTables} (hfold : FoldsASCII tables) {s t : GoString}
    (hs : ∀ b ∈ s, b ∈ bothDigits) (ht : ∀ b ∈ t, b ∈ bothDigits) :
    tables.equalFold s t = true ↔ s.map upperByte = t.map upperByte := by
  have hascii : ∀ b ∈ bothDigits, b < 0x80 ∧ (Char.ofNat b.toNat).toNat < 0x80 := by decide +kernel
  have hlower : ∀ b ∈ bothDigits, ∀ c ∈ bothDigits,
      ((Char.ofNat b.toNat).toLower = (Char.ofNat c.toNat).toLower ↔ upperByte b = upperByte c) := by decide +kernel
  unfold UnicodeTables.equalFold
  rw [decide_eq_true_eq]
  induction s generalizing t with
  | nil =>
      cases t with
      | nil => exact iff_of_true rfl rfl
      | cons c t =>
          refine iff_of_false (fun heq => ?_) nofun
          exact runes_ne_nil (List.cons_ne_nil c t) (List.map_eq_nil_iff.mp heq.symm)
  | cons b s ih =>
      rw [List.forall_mem_cons] at hs
      rw [runes_cons_ascii (hascii b hs.1).1]
      cases t with
      | nil => exact iff_of_false nofun nofun
      | cons c t =>
          rw [List.forall_mem_cons] at ht
          rw [runes_cons_ascii (hascii c ht.1).1, List.map_cons, List.map_cons, List.map_cons, List.map_cons,
            List.cons.injEq, List.cons.injEq, hfold _ _ (hascii b hs.1).2 (hascii c ht.1).2, hlower b hs.1 c ht.1]
          exact and_congr_right' (ih hs.2 ht.2)

/-! ## Lines -/

/-- A line that a scanner gives back as it is. -/
structure PlainLine (text : GoString) : Prop where
  ne_nil : text ≠ []
  no_newline : 0x0A ∉ text
  no_return : 0x0D ∉ text
  short : text.length + 1 < maxScanTokenSize

theorem dropCR_of_plain {text : GoString} (hplain : PlainLine text) : dropCR text = text := by
  unfold dropCR trimSuffix
  rw [if_neg]
  intro hsuffix
  have hlast : [0x0D] <:+ text := List.isSuffixOf_iff_suffix.mp hsuffix
  exact hplain.no_return (hlast.subset (List.mem_singleton_self _))

theorem dropCR_append_return (text : GoString) : dropCR (text ++ [0x0D]) = text := by
  have hsuffix : List.isSuffixOf [0x0D] (text ++ [0x0D]) = true :=
    List.isSuffixOf_iff_suffix.mpr (List.suffix_append _ _)
  unfold dropCR trimSuffix
  rw [if_pos hsuffix, List.length_append, List.length_singleton, Nat.add_sub_cancel, List.take_left]

/-- Lines that were joined by line ends are scanned again. -/
theorem scanLines_join {texts : List GoString} (hplain : ∀ text ∈ texts, PlainLine text) :
    scanLines (join texts [0x0D, 0x0A]) = ⟨texts, false⟩ := by
  have hboth : ShortLines (join texts [0x0D, 0x0A]) ∧ lines (join texts [0x0D, 0x0A]) = texts := by
    induction texts with
    | nil => exact ⟨nofun, rfl⟩
    | cons text rest ih =>
        rw [List.forall_mem_cons] at hplain
        obtain ⟨htext, hrest⟩ := hplain
        cases rest with
        | nil =>
            refine ⟨?_, ?_⟩
            · change ∀ piece ∈ pieces text, piece.length < maxScanTokenSize
              rw [pieces_of_not_mem htext.no_newline, if_neg htext.ne_nil, List.forall_mem_singleton]
              exact Nat.lt_of_succ_lt htext.short
            · change lines text = [text]
              rw [lines_of_not_mem htext.no_newline, if_neg htext.ne_nil, dropCR_of_plain htext]
        | cons next rest =>
            obtain ⟨hshort, hlines⟩ := ih hrest
            have hjoin : join (text :: next :: rest) [0x0D, 0x0A] =
                (text ++ [0x0D]) ++ 0x0A :: join (next :: rest) [0x0D, 0x0A] := by
              rw [join_cons_cons, List.append_assoc, List.append_assoc]
              rfl
            have hnot : 0x0A ∉ text ++ [0x0D] := by
              rw [List.mem_append, List.mem_singleton, not_or]
              exact ⟨htext.no_newline, by decide⟩
            rw [hjoin, shortLines_append_newline hnot, lines_append_newline hnot, dropCR_append_return, hlines]
            refine ⟨⟨?_, hshort⟩, rfl⟩
            rw [List.length_append, List.length_singleton]
            exact htext.short
  rw [(scanLines_spec _).1 hboth.1, hboth.2]

theorem length_natString_le {n k : Nat} (hlt : n < 10 ^ (k + 1)) : (natString n).length ≤ k + 1 := by
  induction k generalizing n with
  | zero =>
      rw [natString_of_lt (by simpa using hlt)]
      exact le_rfl
  | succ k ih =>
      by_cases hsmall : n < 10
      · rw [natString_of_lt hsmall, List.length_singleton]
        omega
      · have hdiv : n / 10 < 10 ^ (k + 1) := by
          rw [Nat.pow_succ] at hlt
          omega
        rw [natString_of_le (Nat.not_lt.mp hsmall), List.length_append, List.length_singleton]
        exact Nat.succ_le_succ (ih hdiv)

/-- The bytes of a line are digits, and a colon. -/
theorem Breach.mem_line {b : Breach} {c : UInt8} (hc : c ∈ b.line) :
    c ∈ upperDigits ∨ c = 0x3A := by
  have hdigits : ∀ d : UInt8, 0x30 ≤ d → d ≤ 0x39 → d ∈ upperDigits := by
    have hall : ∀ n, 0x30 ≤ n → n ≤ 0x39 → UInt8.ofNat n ∈ upperDigits := by
      intro n hlow hhigh
      interval_cases n <;> decide +kernel
    intro d hlow hhigh
    have hmem := hall d.toNat (UInt8.le_iff_toNat_le.mp hlow) (UInt8.le_iff_toNat_le.mp hhigh)
    rwa [UInt8.ofNat_toNat] at hmem
  rcases List.mem_append.mp hc with hsuffix | hrest
  · exact Or.inl (mem_upperDigits_of_mem_upperHex (List.mem_of_mem_drop hsuffix))
  · rcases List.mem_cons.mp hrest with rfl | hcount
    · exact Or.inr rfl
    · rw [← padded_one] at hcount
      obtain ⟨hlow, hhigh⟩ := (padded_bounds 0 b.count).2 c hcount
      exact Or.inl (hdigits c hlow hhigh)

theorem Breach.length_suffix (b : Breach) : ((upperHex b.digest).drop 5).length = 35 := by
  rw [List.length_drop, length_upperHex, b.length_digest]

/-- A line names the digits that the service has not been told. -/
theorem Breach.split_line (b : Breach) : (split b.line 0x3A).headD [] = (upperHex b.digest).drop 5 := by
  have hnot : 0x3A ∉ (upperHex b.digest).drop 5 := fun hmem =>
    absurd (mem_upperDigits_of_mem_upperHex (List.mem_of_mem_drop hmem)) (by decide +kernel)
  unfold split Breach.line
  rw [List.splitOn_append_cons_self_of_not_mem hnot]
  rfl

/-- A text that is the line of a password, up to the case of its letters. -/
def Breach.IsText (b : Breach) (text : GoString) : Prop := text.map upperByte = b.line

section Texts

variable {b : Breach} {text : GoString}

theorem Breach.IsText.mem (htext : b.IsText text) {c : UInt8} (hc : c ∈ text) : c ∈ bothDigits ∨ c = 0x3A := by
  have hupper : upperByte c ∈ b.line := htext ▸ List.mem_map_of_mem hc
  rcases b.mem_line hupper with hdigit | hcolon
  · exact Or.inl (mem_bothDigits_of_upperByte hdigit)
  · exact Or.inr (eq_colon_of_upperByte hcolon)

theorem Breach.IsText.plainLine (htext : b.IsText text) : PlainLine text where
  ne_nil := by
    rintro rfl
    exact List.append_ne_nil_of_right_ne_nil _ (List.cons_ne_nil _ _) htext.symm
  no_newline hmem := by
    rcases htext.mem hmem with hdigit | hcolon
    · exact absurd hdigit (by decide +kernel)
    · exact absurd hcolon (by decide)
  no_return hmem := by
    rcases htext.mem hmem with hdigit | hcolon
    · exact absurd hdigit (by decide +kernel)
    · exact absurd hcolon (by decide)
  short := by
    have hcount := length_natString_le b.count_lt
    have hlength := congrArg List.length htext
    rw [List.length_map, Breach.line, List.length_append, List.length_cons, b.length_suffix] at hlength
    rw [hlength, maxScanTokenSize]
    omega

theorem Breach.IsText.trimSpace_eq (htext : b.IsText text) : trimSpace text = text := by
  have hvisible : ∀ c ∈ bothDigits, visible c = true := by decide +kernel
  refine trimSpace_of_unpadded (unpadded_of_visible fun c hc => ?_)
  rcases htext.mem hc with hdigit | rfl
  · exact hvisible c hdigit
  · decide

/-- What such a text names are the digits of the password, up to their case. -/
theorem Breach.IsText.split_eq (htext : b.IsText text) :
    ((split text 0x3A).headD []).map upperByte = (upperHex b.digest).drop 5 ∧
      ∀ c ∈ (split text 0x3A).headD [], c ∈ bothDigits := by
  unfold Breach.IsText Breach.line at htext
  obtain ⟨suffix, rest, rfl, hsuffix, hrest⟩ := List.map_eq_append_iff.mp htext
  obtain ⟨colon, count, rfl, hcolon, -⟩ := List.map_eq_cons_iff.mp hrest
  obtain rfl := eq_colon_of_upperByte hcolon
  have hdigits : ∀ c ∈ suffix, c ∈ bothDigits := by
    intro c hc
    have hupper : upperByte c ∈ (upperHex b.digest).drop 5 := hsuffix ▸ List.mem_map_of_mem hc
    exact mem_bothDigits_of_upperByte (mem_upperDigits_of_mem_upperHex (List.mem_of_mem_drop hupper))
  have hnot : 0x3A ∉ suffix := fun hmem => absurd (hdigits _ hmem) (by decide +kernel)
  unfold split
  rw [List.splitOn_append_cons_self_of_not_mem hnot]
  exact ⟨hsuffix, hdigits⟩

/-- Every line of a range is the line of one of its passwords, up to case. -/
theorem IsRange.isText {corpus : List Breach} {digits : GoString} {texts : List GoString}
    (hrange : IsRange corpus digits texts) (htext : text ∈ texts) : ∃ b : Breach, b.IsText text := by
  have hline : text.map upperByte ∈ (inRange corpus digits).map Breach.line :=
    hrange.mem_iff.mp (List.mem_map_of_mem htext)
  obtain ⟨b, -, hb⟩ := List.mem_map.mp hline
  exact ⟨b, hb.symm⟩

theorem IsRange.plainLine {corpus : List Breach} {digits : GoString} {texts : List GoString}
    (hrange : IsRange corpus digits texts) (htext : text ∈ texts) : PlainLine text := by
  obtain ⟨b, hb⟩ := hrange.isText htext
  exact hb.plainLine

end Texts

/-! ## The answer -/

variable {v : Validator} {w : RangeWorld} {corpus : List Breach} {password : GoString}

/-- The loop over lines of the service. -/
theorem scanRange_texts (hfold : FoldsASCII v.tables) {suffix : GoString} (hsuffix : ∀ c ∈ suffix, c ∈ upperDigits)
    {texts : List GoString} (htexts : ∀ text ∈ texts, ∃ b : Breach, b.IsText text) :
    scanRange v.tables suffix texts =
      if ∃ line ∈ texts.map (List.map upperByte), (split line 0x3A).headD [] = suffix then .fail breached
      else .done () := by
  induction texts with
  | nil => rfl
  | cons text rest ih =>
      rw [List.forall_mem_cons] at htexts
      obtain ⟨⟨b, htext⟩, hrest⟩ := htexts
      obtain ⟨hnamed, hdigits⟩ := htext.split_eq
      have hiff : v.tables.equalFold ((split text 0x3A).headD []) suffix = true ↔
          (split (text.map upperByte) 0x3A).headD [] = suffix := by
        rw [equalFold_bothDigits_iff hfold hdigits fun c hc => List.mem_append_left _ (hsuffix c hc), hnamed,
          map_upperByte_of_upperDigits hsuffix, htext, b.split_line]
      rw [scanRange, htext.trimSpace_eq, if_neg htext.plainLine.ne_nil, ih hrest, List.map_cons]
      by_cases hsame : (split (text.map upperByte) 0x3A).headD [] = suffix
      · rw [if_pos (hiff.mpr hsame), if_pos ⟨_, List.mem_cons_self, hsame⟩]
      · rw [if_neg fun h => hsame (hiff.mp h)]
        refine if_congr ?_ rfl rfl
        rw [List.exists_mem_cons_iff, or_iff_right hsame]

/-- A digest is in the range of its first five digits. -/
theorem exists_named_iff {digest : List UInt8} :
    (∃ b ∈ inRange corpus ((upperHex digest).take 5), (upperHex b.digest).drop 5 = (upperHex digest).drop 5) ↔
      ∃ b ∈ corpus, b.digest = digest := by
  constructor
  · rintro ⟨b, hb, hdrop⟩
    obtain ⟨hcorpus, htake⟩ := List.mem_filter.mp hb
    refine ⟨b, hcorpus, upperHex_injective ?_⟩
    rw [← List.take_append_drop 5 (upperHex b.digest), of_decide_eq_true htake, hdrop, List.take_append_drop]
  · rintro ⟨b, hb, rfl⟩
    exact ⟨b, List.mem_filter.mpr ⟨hb, decide_eq_true rfl⟩, rfl⟩

/-- With a service that knows `corpus`, the lookup refuses the passwords whose digests are in it. -/
theorem run_checkHIBP (hfold : FoldsASCII v.tables) (hsha1 : (v.sha1 password).length = 20)
    (hanswers : Answers w v corpus) (past : List RangeCall) :
    ((checkHIBP v password).run w past).result =
      if ∃ b ∈ corpus, b.digest = v.sha1 password then .error breached else .ok () := by
  have hlength : ¬ (upperHex (v.sha1 password)).length ≠ 40 := by
    rw [length_upperHex, hsha1]
    decide
  have hsuffix : ∀ c ∈ (upperHex (v.sha1 password)).drop 5, c ∈ upperDigits :=
    fun c hc => mem_upperDigits_of_mem_upperHex (List.mem_of_mem_drop hc)
  choose texts hrange hbody using hanswers.answered
  have hiff (n : Nat) : (∃ line ∈ (texts ((upperHex (v.sha1 password)).take 5) n).map (List.map upperByte),
      (split line 0x3A).headD [] = (upperHex (v.sha1 password)).drop 5) ↔ ∃ b ∈ corpus, b.digest = v.sha1 password := by
    rw [← exists_named_iff]
    simp only [(hrange _ n).mem_iff, List.mem_map, exists_exists_and_eq_and, Breach.split_line]
  unfold checkHIBP
  rw [if_neg hlength]
  simp only [Program.run_perform_bind, hanswers.created, hbody]
  rw [if_neg (by decide), scanLines_join fun _ => (hrange _ _).plainLine,
    scanRange_texts hfold hsuffix fun _ => (hrange _ _).isText]
  simp only [hiff]
  split
  · rfl
  · rfl

/-- Every request is for the range of the first five digits, in any world. -/
theorem asks_checkHIBP (w : RangeWorld) (past : List RangeCall) :
    ∀ event ∈ ((checkHIBP v password).run w past).trace,
      event.op = .newRequest (v.apiURL ++ (upperHex (v.sha1 password)).take 5) ∨
        event.op = .httpDo (v.apiURL ++ (upperHex (v.sha1 password)).take 5) userAgent := by
  have hscan : ∀ (suffix : GoString) (texts : List GoString) (past : List RangeCall),
      ((scanRange v.tables suffix texts).run w past).trace = [] := by
    intro suffix texts past
    induction texts with
    | nil => rfl
    | cons text rest ih =>
        rw [scanRange]
        split
        · exact ih
        · split
          · rfl
          · exact ih
  unfold checkHIBP
  dsimp only
  split
  · exact nofun
  · simp only [Program.run_perform_bind, List.forall_mem_cons]
    refine ⟨Or.inl trivial, ?_⟩
    split
    · exact nofun
    · simp only [Program.run_perform_bind, List.forall_mem_cons]
      refine ⟨Or.inr trivial, ?_⟩
      split
      · exact nofun
      · split
        · exact nofun
        · rw [hscan]
          exact nofun

/-- The validator that `SetupAdmin` goes by, for the passwords of the service. -/
def Validator.toPasswordValidator (v : Validator) (corpus : List Breach) : SetupAdmin.PasswordValidator where
  checkBreached := v.checkBreached
  breached password := corpus.any fun b => b.digest == v.sha1 password

/-- With a service that knows the passwords of `corpus`, `Validate` decides as `SetupAdmin` takes it to: a password that
is long enough is refused exactly when the lookup is on and its digest is in the corpus, whatever else the service
lists.  And the service is told five digits of the digest, in any world: of two passwords for which these are the same
it cannot tell which one it is asked about. -/
theorem validate_refines (hfold : FoldsASCII v.tables) (hsha1 : (v.sha1 password).length = 20)
    (hanswers : Answers w v corpus) :
    ((validate v password).run w []).result = (v.toPasswordValidator corpus).validate password ∧
      ∀ w' : RangeWorld, ∀ event ∈ ((validate v password).run w' []).trace,
        event.op = .newRequest (v.apiURL ++ (upperHex (v.sha1 password)).take 5) ∨
          event.op = .httpDo (v.apiURL ++ (upperHex (v.sha1 password)).take 5) userAgent := by
  constructor
  · have hrun := run_checkHIBP hfold hsha1 hanswers []
    have hany : (corpus.any fun b => b.digest == v.sha1 password) = true ↔
        ∃ b ∈ corpus, b.digest = v.sha1 password := by
      simp
    unfold validate SetupAdmin.PasswordValidator.validate Validator.toPasswordValidator ensure
    by_cases hlength : minPasswordLength ≤ password.length
    · rw [if_pos hlength, if_neg (Nat.not_lt.mpr hlength), Program.done_bind]
      cases v.checkBreached with
      | false => rfl
      | true =>
          simp only [if_true, Bool.not_true, Bool.false_eq_true, if_false, hany]
          rw [hrun]
          rfl
    · rw [if_neg hlength, if_pos (Nat.not_le.mp hlength), Program.fail_bind]
      rfl
  · intro w' event hevent
    unfold validate ensure at hevent
    split at hevent
    · rw [Program.done_bind] at hevent
      split at hevent
      · exact asks_checkHIBP w' [] event hevent
      · cases hevent
    · cases hevent

/-! ## A password -/

/-- A digest for the test: the first twenty bytes. -/
def firstBytes (password : GoString) : List UInt8 := (password ++ List.replicate 20 0).take 20

def sampleValidator : Validator := ⟨true, hibpRangeAPIURL, firstBytes, asciiTables⟩

/-- Two passwords of one range, and one of another. -/
def sampleCorpus : List Breach :=
  [⟨firstBytes (str "correct horse battery"), 73, by decide +kernel, by decide⟩,
    ⟨firstBytes (str "correct house battery"), 1, by decide +kernel, by decide⟩,
    ⟨firstBytes (str "password1234"), 2254650, by decide +kernel, by decide⟩]

/-- The line of a password in lower case. -/
def Breach.lowerLine (b : Breach) : GoString := (hexEncode b.digest).drop 5 ++ 0x3A :: natString b.count

/-- The service with these; it writes small letters. -/
def sampleRange : RangeWorld
  | .newRequest _, _ => none
  | .httpDo url _, _ =>
    .ok ⟨200, ⟨join ((inRange sampleCorpus (url.drop hibpRangeAPIURL.length)).map Breach.lowerLine) [0x0D, 0x0A], .eof⟩⟩

theorem answers_sampleRange : Answers sampleRange sampleValidator sampleCorpus where
  created _ _ := rfl
  answered digits n := by
    refine ⟨(inRange sampleCorpus digits).map Breach.lowerLine, ?_, ?_⟩
    · have hlower : ∀ b ∈ sampleCorpus, b.lowerLine.map upperByte = b.line := by decide +kernel
      unfold IsRange
      rw [List.map_map]
      refine List.Perm.of_eq (List.map_congr_left fun b hb => hlower b (List.mem_of_mem_filter hb))
    · change Except.ok _ = _
      rw [show sampleValidator.apiURL = hibpRangeAPIURL from rfl, List.drop_left]

theorem validate_refines_horse :
    ((validate sampleValidator (str "correct horse battery")).run sampleRange []).result = .error breached ∧
      ((validate sampleValidator (str "correct mouse battery")).run sampleRange []).result = .ok () := by
  have hfold : FoldsASCII sampleValidator.tables := fun _ _ _ _ => Iff.rfl
  constructor
  · rw [(validate_refines hfold (by decide +kernel) answers_sampleRange).1]
    decide +kernel
  · rw [(validate_refines hfold (by decide +kernel) answers_sampleRange).1]
    decide +kernel

end Password
end Auth
end Dmanager
