import Dmanager.Go.Base64
import Dmanager.Go.Json
import Dmanager.Go.Unicode
import Mathlib.Data.List.TakeWhile

/-!
# Registry credentials

`getRegistryAuth` of `internal/container/actions.go`: before an image is checked or pulled, the credentials of its
registry are looked up in the configuration and handed to Docker as a header.  Docker decides by itself which registry
it contacts (`dockerRegistry`), so `getRegistryHost` has to come to the same result.

`sendsOwn_iff` says when the header has the credentials of the registry that Docker contacts, and of no other one.  The
two disagree about a registry that only its upper-case letters tell from a name on Docker Hub.  Apart from that the
right credentials are sent, but as JSON, in which bytes that are no UTF-8 do not survive.
-/

namespace Dmanager
namespace Container

open Go

/-! ## The source -/

/-- `config.Registry`. -/
structure Registry where
  host : GoString
  username : GoString
  password : GoString
  deriving DecidableEq, Repr

/-- `registry.AuthConfig`: the fields that are set. -/
structure AuthConfig where
  username : GoString
  password : GoString
  serverAddress : GoString
  deriving DecidableEq, Repr

/-- `json.Marshal` of an `AuthConfig`, which never fails, and `json.Unmarshal`: what is written is read back, up to
bytes that are no text. -/
structure AuthCodec where
  marshal : AuthConfig → GoString
  unmarshal : GoString → Option AuthConfig
  unmarshal_marshal : ∀ auth, unmarshal (marshal auth) =
    some ⟨repaired auth.username, repaired auth.password, repaired auth.serverAddress⟩
  marshal_ne_nil : ∀ auth, marshal auth ≠ []

def dockerIO : GoString := str "docker.io"

/-- `getRegistryHost`. -/
def getRegistryHost (imageRef : GoString) : GoString :=
  match split imageRef 0x2F with
  | firstPart :: _ :: _ =>
    if contains firstPart (str ".") || contains firstPart (str ":") || firstPart = str "localhost" then firstPart
    else dockerIO
  | _ => dockerIO

/-- `normalizeHost`. -/
def normalizeHost (tables : UnicodeTables) (h : GoString) : GoString :=
  let h := tables.toLower h
  if h = str "index.docker.io" ∨ h = str "registry-1.docker.io" ∨ h = dockerIO then dockerIO else h

/-- `hostMatches`. -/
def hostMatches (tables : UnicodeTables) (imageHost regHost : GoString) : Bool :=
  normalizeHost tables imageHost = normalizeHost tables regHost

/-- The loop of `getRegistryAuth`. -/
def matchedReg (tables : UnicodeTables) (host : GoString) : List Registry → Option Registry
  | [] => none
  | reg :: rest =>
      if reg.host = [] then matchedReg tables host rest
      else if hostMatches tables host reg.host then some reg
      else matchedReg tables host rest

/-- `getRegistryAuth`. -/
def getRegistryAuth (tables : UnicodeTables) (codec : AuthCodec) (registries : List Registry) (imageRef : GoString) :
    GoString :=
  if registries.length = 0 then []
  else
    match matchedReg tables (getRegistryHost imageRef) registries with
    | none => []
    | some reg => Base64.encodeToString (codec.marshal ⟨reg.username, reg.password, reg.host⟩)

/-! ## Docker -/

/-- The registry of an image reference, as Docker reads it: what stands before the first slash, if it has a period, a
colon or an upper-case letter or is `localhost`. -/
def dockerRegistry (upper : Char → Bool) (imageRef : GoString) : GoString :=
  match imageRef.span fun b => b != 0x2F with
  | (first, _ :: _) =>
    if 0x2E ∈ first ∨ 0x3A ∈ first ∨ first = str "localhost" ∨ (runes first).any upper = true then first
    else dockerIO
  | (_, []) => dockerIO

/-- The names of Docker Hub. -/
def dockerHub : List GoString := [str "docker.io", str "index.docker.io", str "registry-1.docker.io"]

/-- Two hosts are the same registry: they are equal, ignoring case, or both are names of Docker Hub. -/
def SameRegistry (tables : UnicodeTables) (host host' : GoString) : Prop :=
  tables.toLower host = tables.toLower host' ∨
    tables.toLower host ∈ dockerHub ∧ tables.toLower host' ∈ dockerHub

instance decidableSameRegistry (tables : UnicodeTables) (host host' : GoString) :
    Decidable (SameRegistry tables host host') := inferInstanceAs (Decidable (_ ∨ _))

/-- What Docker reads in a header. -/
def decodeAuth (codec : AuthCodec) (header : GoString) : Option AuthConfig :=
  (Base64.decodeString header).bind codec.unmarshal

/-- The first registry that is configured for a host. -/
def firstFor (tables : UnicodeTables) (registries : List Registry) (host : GoString) : Option Registry :=
  registries.find? fun reg => reg.host ≠ [] ∧ SameRegistry tables reg.host host

/-- A header has the credentials for the registry of the image, and there is none without one. -/
structure SendsOwn (tables : UnicodeTables) (codec : AuthCodec) (upper : Char → Bool) (registries : List Registry)
    (imageRef header : GoString) : Prop where
  own : header ≠ [] → ∃ reg, firstFor tables registries (dockerRegistry upper imageRef) = some reg ∧
    decodeAuth codec header = some ⟨reg.username, reg.password, reg.host⟩
  none : (∀ reg ∈ registries, reg.host ≠ [] → ¬ SameRegistry tables reg.host (dockerRegistry upper imageRef)) →
    header = []

/-- The credentials of a registry can be written as JSON: they are valid UTF-8. -/
def Registry.Textual (reg : Registry) : Prop :=
  ValidString reg.username ∧ ValidString reg.password ∧ ValidString reg.host

/-- The registry of the image has an upper-case letter, and nothing else tells it from a name on Docker Hub. -/
def OnlyUpperCase (upper : Char → Bool) (imageRef : GoString) : Prop :=
  ∃ first rest, imageRef = first ++ 0x2F :: rest ∧ 0x2F ∉ first ∧ 0x2E ∉ first ∧ 0x3A ∉ first ∧
    first ≠ str "localhost" ∧ (runes first).any upper = true

/-! ## Two readings of a reference -/

section

variable {tables : UnicodeTables} {upper : Char → Bool} {registries : List Registry}
variable {imageRef first rest host host' : GoString}

theorem contains_singleton {s : GoString} {b : UInt8} : contains s [b] = true ↔ b ∈ s := by
  rw [contains_eq_true_iff]
  constructor
  · intro hinfix
    exact hinfix.subset List.mem_cons_self
  · intro hmem
    obtain ⟨before, after, rfl⟩ := List.append_of_mem hmem
    exact ⟨before, after, by rw [List.append_assoc, List.singleton_append]⟩

theorem getRegistryHost_append (hfirst : 0x2F ∉ first) :
    getRegistryHost (first ++ 0x2F :: rest) =
      if 0x2E ∈ first ∨ 0x3A ∈ first ∨ first = str "localhost" then first else dockerIO := by
  have hsplit : split (first ++ 0x2F :: rest) 0x2F = first :: split rest 0x2F :=
    List.splitOn_append_cons_self_of_not_mem hfirst rest
  obtain ⟨next, others, hrest⟩ := List.exists_cons_of_ne_nil (List.splitOn_ne_nil (0x2F : UInt8) rest)
  have hrest : split rest 0x2F = next :: others := hrest
  have hdot : str "." = [0x2E] := by decide +kernel
  have hcolon : str ":" = [0x3A] := by decide +kernel
  rw [getRegistryHost, hsplit, hrest, hdot, hcolon]
  simp only [Bool.or_eq_true, contains_singleton, decide_eq_true_eq, or_assoc]

theorem getRegistryHost_of_not_mem (href : 0x2F ∉ imageRef) : getRegistryHost imageRef = dockerIO := by
  have hsplit : split imageRef 0x2F = [imageRef] := List.splitOn_eq_singleton href
  rw [getRegistryHost, hsplit]

theorem dockerRegistry_append (hfirst : 0x2F ∉ first) :
    dockerRegistry upper (first ++ 0x2F :: rest) =
      if 0x2E ∈ first ∨ 0x3A ∈ first ∨ first = str "localhost" ∨ (runes first).any upper = true then first
      else dockerIO := by
  have hall : ∀ b ∈ first, (b != 0x2F) = true := fun b hb => bne_iff_ne.mpr fun heq => hfirst (heq ▸ hb)
  have hspan : ((first ++ 0x2F :: rest).span fun b => b != 0x2F) = (first, 0x2F :: rest) := by
    rw [List.span_eq_takeWhile_dropWhile, List.takeWhile_append_of_pos hall, List.dropWhile_append_of_pos hall]
    simp
  rw [dockerRegistry, hspan]

theorem dockerRegistry_of_not_mem (href : 0x2F ∉ imageRef) : dockerRegistry upper imageRef = dockerIO := by
  have hall : ∀ b ∈ imageRef, (b != 0x2F) = true := fun b hb => bne_iff_ne.mpr fun heq => href (heq ▸ hb)
  have hspan : (imageRef.span fun b => b != 0x2F) = (imageRef, []) := by
    rw [List.span_eq_takeWhile_dropWhile, List.takeWhile_eq_self_iff.mpr hall, List.dropWhile_eq_nil_iff.mpr hall]
  rw [dockerRegistry, hspan]

/-- The program and Docker find the same registry, unless only its upper-case letters make it one. -/
theorem getRegistryHost_eq (hcase : ¬ OnlyUpperCase upper imageRef) :
    getRegistryHost imageRef = dockerRegistry upper imageRef := by
  by_cases hslash : 0x2F ∈ imageRef
  · obtain ⟨first, rest, rfl, hfirst⟩ := List.eq_append_cons_of_mem hslash
    rw [getRegistryHost_append hfirst, dockerRegistry_append hfirst]
    refine if_congr ⟨fun hname => ?_, fun hname => ?_⟩ rfl rfl
    · rcases hname with hdot | hcolon | hlocal
      · exact Or.inl hdot
      · exact Or.inr (Or.inl hcolon)
      · exact Or.inr (Or.inr (Or.inl hlocal))
    · by_contra hnone
      push Not at hnone
      obtain ⟨hdot, hcolon, hlocal⟩ := hnone
      have hupper := ((hname.resolve_left hdot).resolve_left hcolon).resolve_left hlocal
      exact hcase ⟨first, rest, rfl, hfirst, hdot, hcolon, hlocal, hupper⟩
  · rw [getRegistryHost_of_not_mem hslash, dockerRegistry_of_not_mem hslash]

/-- Otherwise the program takes the reference for one to Docker Hub. -/
theorem getRegistryHost_of_onlyUpperCase (hcase : OnlyUpperCase upper imageRef) :
    getRegistryHost imageRef = dockerIO ∧ 0x2E ∉ dockerRegistry upper imageRef := by
  obtain ⟨first, rest, rfl, hfirst, hdot, hcolon, hlocal, hupper⟩ := hcase
  rw [getRegistryHost_append hfirst, dockerRegistry_append hfirst,
    if_pos (Or.inr (Or.inr (Or.inr hupper))), if_neg]
  · exact ⟨rfl, hdot⟩
  · rintro (hname | hname | hname)
    · exact hdot hname
    · exact hcolon hname
    · exact hlocal hname

/-! ## Hosts -/

/-- The comparison of the program is that of registries. -/
theorem hostMatches_iff : hostMatches tables host host' = true ↔ SameRegistry tables host' host := by
  have hhub (h : GoString) : (tables.toLower h = str "index.docker.io" ∨
      tables.toLower h = str "registry-1.docker.io" ∨ tables.toLower h = dockerIO) ↔ tables.toLower h ∈ dockerHub := by
    unfold dockerHub dockerIO
    simp only [List.mem_cons, List.not_mem_nil, or_false]
    tauto
  have hmem : dockerIO ∈ dockerHub := List.mem_cons_self
  unfold hostMatches normalizeHost SameRegistry
  simp only [decide_eq_true_eq, hhub]
  split
  · rename_i hhost
    split
    · rename_i hhost'
      exact iff_of_true rfl (Or.inr ⟨hhost', hhost⟩)
    · rename_i hhost'
      refine iff_of_false ?_ ?_
      · rintro heq
        exact hhost' (heq ▸ hmem)
      · rintro (heq | ⟨hother, -⟩)
        · exact hhost' (heq ▸ hhost)
        · exact hhost' hother
  · rename_i hhost
    split
    · rename_i hhost'
      refine iff_of_false ?_ ?_
      · rintro heq
        exact hhost (heq ▸ hmem)
      · rintro (heq | ⟨-, hother⟩)
        · exact hhost (heq ▸ hhost')
        · exact hhost hother
    · exact ⟨fun heq => Or.inl heq.symm, fun hsame =>
        hsame.elim Eq.symm fun hboth => absurd hboth.2 hhost⟩

/-- The loop finds the first registry that is configured for the host. -/
theorem matchedReg_eq : matchedReg tables host registries = firstFor tables registries host := by
  unfold firstFor
  induction registries with
  | nil => rfl
  | cons reg rest ih =>
      rw [matchedReg, List.find?_cons]
      by_cases hempty : reg.host = []
      · rw [if_pos hempty, decide_eq_false fun hboth => hboth.1 hempty]
        exact ih
      · rw [if_neg hempty]
        by_cases hsame : SameRegistry tables reg.host host
        · rw [if_pos (hostMatches_iff.mpr hsame), decide_eq_true ⟨hempty, hsame⟩]
        · rw [if_neg fun hmatches => hsame (hostMatches_iff.mp hmatches), decide_eq_false fun hboth => hsame hboth.2]
          exact ih

theorem of_firstFor {reg : Registry} (hsome : firstFor tables registries host = some reg) :
    reg ∈ registries ∧ reg.host ≠ [] ∧ SameRegistry tables reg.host host := by
  unfold firstFor at hsome
  refine ⟨List.mem_of_find?_eq_some hsome, of_decide_eq_true ?_⟩
  exact List.find?_some (p := fun reg : Registry => decide (reg.host ≠ [] ∧ SameRegistry tables reg.host host)) hsome

theorem getRegistryAuth_of_none (codec : AuthCodec)
    (hnone : firstFor tables registries (getRegistryHost imageRef) = none) :
    getRegistryAuth tables codec registries imageRef = [] := by
  unfold getRegistryAuth
  rw [matchedReg_eq, hnone, ite_self]

/-- The header for a registry is not empty, and has its credentials. -/
theorem getRegistryAuth_of_some (codec : AuthCodec) {reg : Registry}
    (hsome : firstFor tables registries (getRegistryHost imageRef) = some reg) :
    getRegistryAuth tables codec registries imageRef ≠ [] ∧
      decodeAuth codec (getRegistryAuth tables codec registries imageRef) =
        some ⟨repaired reg.username, repaired reg.password, repaired reg.host⟩ := by
  have hne : ¬ registries.length = 0 := by
    intro hlength
    rw [List.eq_nil_of_length_eq_zero hlength] at hsome
    cases hsome
  unfold getRegistryAuth decodeAuth
  rw [matchedReg_eq, hsome, if_neg hne]
  refine ⟨Base64.encodeToString_ne_nil (codec.marshal_ne_nil _), ?_⟩
  rw [Base64.decodeString_encodeToString, Option.bind_some]
  exact codec.unmarshal_marshal _

/-! ## Periods -/

theorem utf8_period : utf8 '.' = [0x2E] := by decide +kernel

theorem mem_of_period_mem_runes {s : GoString} (hmem : '.' ∈ runes s) : 0x2E ∈ s := by
  have hfrom : ∀ fuel (s : GoString), '.' ∈ runesFrom fuel s → 0x2E ∈ s := by
    intro fuel
    induction fuel with
    | zero => exact fun _ hmem => absurd hmem List.not_mem_nil
    | succ fuel ih =>
        intro s hmem
        cases s with
        | nil => exact absurd hmem List.not_mem_nil
        | cons b rest =>
            rw [runesFrom] at hmem
            cases hdecode : decodeRune (b :: rest) with
            | none =>
                rw [hdecode] at hmem
                have hother : ('.' : Char) ≠ runeError := by decide
                exact List.mem_cons_of_mem b (ih rest ((List.mem_cons.mp hmem).resolve_left hother))
            | some c =>
                rw [hdecode] at hmem
                rcases List.mem_cons.mp hmem with heq | hrest
                · rw [← heq] at hdecode
                  have hstart := decodeRune_eq_some_iff.mp hdecode
                  rw [utf8_period] at hstart
                  exact hstart.subset List.mem_cons_self
                · exact List.mem_of_mem_drop (ih _ hrest)
  exact hfrom _ s hmem

/-- The lower case of a text has a period only if the text has one. -/
theorem mem_of_period_mem_toLower (hdot : ∀ c, tables.lower c = '.' ↔ c = '.')
    (hmem : 0x2E ∈ tables.toLower host) : 0x2E ∈ host := by
  obtain ⟨c, hc, hbyte⟩ := List.mem_flatMap.mp hmem
  obtain ⟨d, hd, rfl⟩ := List.mem_map.mp hc
  have hperiod : tables.lower d = '.' := by
    rcases utf8_cases (tables.lower d) with ⟨b, hb, -⟩ | ⟨-, -, -, hhigh⟩
    · rw [hb, List.mem_singleton] at hbyte
      have hone := decodeRune_utf8 (tables.lower d) []
      have hother := decodeRune_utf8 '.' []
      rw [hb, ← hbyte] at hone
      rw [utf8_period] at hother
      exact Option.some.inj (hone.symm.trans hother)
    · exact absurd (hhigh _ hbyte) (by decide)
  rw [(hdot d).mp hperiod] at hd
  exact mem_of_period_mem_runes hd

theorem period_mem_of_mem_dockerHub : ∀ name ∈ dockerHub, 0x2E ∈ name := by decide +kernel

/-- What is the same registry as Docker Hub has a period in lower case. -/
theorem period_mem_of_sameRegistry (hdot : ∀ c, tables.lower c = '.' ↔ c = '.')
    (hsame : SameRegistry tables host dockerIO) : 0x2E ∈ tables.toLower host := by
  rcases hsame with heq | ⟨hhub, -⟩
  · rw [heq]
    have hrune : '.' ∈ runes dockerIO := by decide +kernel
    refine List.mem_flatMap.mpr ⟨'.', List.mem_map.mpr ⟨'.', hrune, (hdot '.').mpr rfl⟩, ?_⟩
    rw [utf8_period]
    exact List.mem_cons_self
  · exact period_mem_of_mem_dockerHub _ hhub

/-- If the host of a registry has a period in lower case, then so has any host that it is configured for. -/
theorem period_mem_of_configured (hdot : ∀ c, tables.lower c = '.' ↔ c = '.') {regHost : GoString}
    (hsame : SameRegistry tables regHost host) (hperiod : 0x2E ∈ tables.toLower regHost) : 0x2E ∈ host := by
  rcases hsame with heq | ⟨-, hhub⟩
  · rw [heq] at hperiod
    exact mem_of_period_mem_toLower hdot hperiod
  · exact mem_of_period_mem_toLower hdot (period_mem_of_mem_dockerHub _ hhub)

/-- The lower case is taken rune by rune, so what JSON makes of a text has the same one. -/
theorem toLower_repaired (s : GoString) : tables.toLower (repaired s) = tables.toLower s := by
  unfold UnicodeTables.toLower
  rw [runes_repaired]

/-- What is read back from the header are the credentials of the registry if and only if they can be written. -/
theorem repaired_registry_iff {reg : Registry} :
    (⟨repaired reg.username, repaired reg.password, repaired reg.host⟩ : AuthConfig) =
      ⟨reg.username, reg.password, reg.host⟩ ↔ reg.Textual := by
  unfold Registry.Textual
  rw [AuthConfig.mk.injEq, repaired_eq_self_iff, repaired_eq_self_iff, repaired_eq_self_iff]

/-! ## Whose credentials are sent -/

/-- When no registry is configured for the host, nothing is sent, and nothing else is asked for. -/
theorem sendsOwn_of_none (codec : AuthCodec) (upper : Char → Bool)
    (hnone : firstFor tables registries (getRegistryHost imageRef) = none) :
    SendsOwn tables codec upper registries imageRef (getRegistryAuth tables codec registries imageRef) := by
  have hempty := getRegistryAuth_of_none codec hnone
  exact ⟨fun hne => absurd hempty hne, fun _ => hempty⟩

/-- A registry that only its upper-case letters make one is sent the credentials for Docker Hub, if there are
any. -/
theorem not_sendsOwn_of_onlyUpperCase (codec : AuthCodec) {upper : Char → Bool}
    (hdot : ∀ c, tables.lower c = '.' ↔ c = '.') (hcase : OnlyUpperCase upper imageRef)
    (hub : ∃ reg ∈ registries, reg.host ≠ [] ∧ SameRegistry tables reg.host dockerIO) :
    ¬ SendsOwn tables codec upper registries imageRef (getRegistryAuth tables codec registries imageRef) := by
  intro hsends
  obtain ⟨hhost, hplain⟩ := getRegistryHost_of_onlyUpperCase hcase
  obtain ⟨reg, hreg⟩ : ∃ reg, firstFor tables registries dockerIO = some reg := by
    rw [← Option.isSome_iff_exists, firstFor, List.find?_isSome]
    obtain ⟨reg, hmem, hboth⟩ := hub
    exact ⟨reg, hmem, decide_eq_true hboth⟩
  rw [← hhost] at hreg
  obtain ⟨hne, hdecode⟩ := getRegistryAuth_of_some codec hreg
  obtain ⟨reg', hreg', hdecode'⟩ := hsends.own hne
  -- the header has the host of one registry, which would be that of the image
  obtain ⟨-, -, hsame⟩ := of_firstFor hreg
  obtain ⟨-, -, hsame'⟩ := of_firstFor hreg'
  have hrepaired : repaired reg.host = reg'.host :=
    congrArg AuthConfig.serverAddress (Option.some.inj (hdecode.symm.trans hdecode'))
  rw [hhost] at hsame
  have hperiod := period_mem_of_sameRegistry hdot hsame
  rw [← toLower_repaired, hrepaired] at hperiod
  exact hplain (period_mem_of_configured hdot hsame' hperiod)

/-- When the program and Docker find the same registry, what is sent depends on whether it can be written. -/
theorem sendsOwn_of_sameHost (codec : AuthCodec) {upper : Char → Bool}
    (hhost : getRegistryHost imageRef = dockerRegistry upper imageRef) :
    SendsOwn tables codec upper registries imageRef (getRegistryAuth tables codec registries imageRef) ↔
      ∀ reg, firstFor tables registries (dockerRegistry upper imageRef) = some reg → reg.Textual := by
  constructor
  · intro hsends reg hreg
    rw [← hhost] at hreg
    obtain ⟨hne, hdecode⟩ := getRegistryAuth_of_some codec hreg
    obtain ⟨reg', hreg', hdecode'⟩ := hsends.own hne
    rw [← hhost, hreg] at hreg'
    obtain rfl := Option.some.inj hreg'
    exact repaired_registry_iff.mp (Option.some.inj (hdecode.symm.trans hdecode'))
  · intro htextual
    cases hfirst : firstFor tables registries (getRegistryHost imageRef) with
    | none => exact sendsOwn_of_none codec upper hfirst
    | some reg =>
        obtain ⟨-, hdecode⟩ := getRegistryAuth_of_some codec hfirst
        rw [hhost] at hfirst
        rw [repaired_registry_iff.mpr (htextual reg hfirst)] at hdecode
        refine ⟨fun _ => ⟨reg, hfirst, hdecode⟩, fun hnone => ?_⟩
        obtain ⟨hmem, hne, hsame⟩ := of_firstFor hfirst
        exact absurd hsame (hnone reg hmem hne)

/-- The credentials go to their own registry, and only there, unless the image is on a registry that only its
upper-case letters make one and there are credentials for Docker Hub; and they arrive as configured, unless the
registry of the image is one whose credentials are no UTF-8. -/
theorem sendsOwn_iff (tables : UnicodeTables) (codec : AuthCodec) (upper : Char → Bool) (registries : List Registry)
    (imageRef : GoString) (hdot : ∀ c, tables.lower c = '.' ↔ c = '.') :
    SendsOwn tables codec upper registries imageRef (getRegistryAuth tables codec registries imageRef) ↔
      ¬ (OnlyUpperCase upper imageRef ∧
          ∃ reg ∈ registries, reg.host ≠ [] ∧ SameRegistry tables reg.host dockerIO) ∧
        (¬ OnlyUpperCase upper imageRef →
          ∀ reg, firstFor tables registries (dockerRegistry upper imageRef) = some reg → reg.Textual) := by
  by_cases hcase : OnlyUpperCase upper imageRef
  · constructor
    · intro hsends
      refine ⟨?_, fun hother => absurd hcase hother⟩
      rintro ⟨-, hub⟩
      exact not_sendsOwn_of_onlyUpperCase codec hdot hcase hub hsends
    · rintro ⟨hfine, -⟩
      apply sendsOwn_of_none
      rw [(getRegistryHost_of_onlyUpperCase hcase).1, firstFor, List.find?_eq_none]
      intro reg hmem hboth
      exact hfine ⟨hcase, reg, hmem, of_decide_eq_true hboth⟩
  · rw [sendsOwn_of_sameHost codec (getRegistryHost_eq hcase)]
    constructor
    · exact fun htextual => ⟨fun hboth => hcase hboth.1, fun _ => htextual⟩
    · exact fun hboth => hboth.2 hcase

end

/-! ## The header as JSON -/

def usernameKey : GoString := str "username"
def passwordKey : GoString := str "password"
def serverAddressKey : GoString := str "serveraddress"

/-- The fields that are written; an empty one is left out. -/
def authMembers (auth : AuthConfig) : List (GoString × GoString) :=
  [(usernameKey, auth.username), (passwordKey, auth.password), (serverAddressKey, auth.serverAddress)].filter
    fun member => member.2 ≠ []

def marshalAuth (auth : AuthConfig) : GoString :=
  writeObject ((authMembers auth).map fun member => (member.1, writeString member.2))

def unmarshalAuth (json : GoString) : Option AuthConfig :=
  (readObject json).map fun members =>
    { username := (members.lookup usernameKey).getD []
      password := (members.lookup passwordKey).getD []
      serverAddress := (members.lookup serverAddressKey).getD [] }

theorem unmarshalAuth_marshalAuth (auth : AuthConfig) :
    unmarshalAuth (marshalAuth auth) =
      some ⟨repaired auth.username, repaired auth.password, repaired auth.serverAddress⟩ := by
  have hkeys : repaired usernameKey = usernameKey ∧ repaired passwordKey = passwordKey ∧
      repaired serverAddressKey = serverAddressKey :=
    ⟨repaired_of_valid (validString_str _), repaired_of_valid (validString_str _),
      repaired_of_valid (validString_str _)⟩
  obtain ⟨hname, hpass, hserver⟩ := hkeys
  have hne : (passwordKey == usernameKey) = false ∧ (serverAddressKey == usernameKey) = false ∧
      (serverAddressKey == passwordKey) = false := by decide +kernel
  have hne' : (usernameKey == passwordKey) = false ∧ (usernameKey == serverAddressKey) = false ∧
      (passwordKey == serverAddressKey) = false := by decide +kernel
  have hnil : repaired [] = [] := rfl
  obtain ⟨username, password, serverAddress⟩ := auth
  unfold unmarshalAuth marshalAuth authMembers
  rw [readObject_writeObject_repaired, Option.map_some]
  -- each of the fields is there or left out
  by_cases husername : username = []
  all_goals
    by_cases hpassword : password = []
  all_goals
    by_cases haddress : serverAddress = []
  all_goals
    simp [husername, hpassword, haddress, List.lookup_cons, hname, hpass, hserver, hne, hne', hnil]

/-- The codec of Docker's header. -/
def jsonCodec : AuthCodec where
  marshal := marshalAuth
  unmarshal := unmarshalAuth
  unmarshal_marshal := unmarshalAuth_marshalAuth
  marshal_ne_nil _ := List.cons_ne_nil _ _

/-- Credentials for Docker Hub. -/
def hubOnly : List Registry := [⟨str "Docker.io", str "me", str "s3cret"⟩]

/-- An image on Docker Hub. -/
theorem sendsOwn_hubOnly :
    SendsOwn asciiTables jsonCodec Char.isUpper hubOnly (str "library/nginx:1")
        (getRegistryAuth asciiTables jsonCodec hubOnly (str "library/nginx:1")) ∧
      decodeAuth jsonCodec (getRegistryAuth asciiTables jsonCodec hubOnly (str "library/nginx:1")) =
        some ⟨str "me", str "s3cret", str "Docker.io"⟩ := by
  refine ⟨(sendsOwn_iff _ _ _ _ _ lower_asciiTables_period).mpr ⟨?_, fun _ reg hreg => ?_⟩, by decide +kernel⟩
  swap
  · rw [List.mem_singleton.mp (of_firstFor hreg).1]
    exact ⟨validString_str _, validString_str _, validString_str _⟩
  rintro ⟨⟨first, rest, href, hfirst, -, -, -, hupper⟩, -⟩
  have hsplit : split (str "library/nginx:1") 0x2F = first :: split rest 0x2F := by
    rw [href]
    exact List.splitOn_append_cons_self_of_not_mem hfirst rest
  have hname : split (str "library/nginx:1") 0x2F = [str "library", str "nginx:1"] := by decide +kernel
  rw [hname] at hsplit
  rw [← (List.cons.inj hsplit).1] at hupper
  revert hupper
  decide +kernel

/-- Docker contacts the host `Registry`, and is handed the credentials for Docker Hub. -/
theorem not_sendsOwn_hubOnly :
    dockerRegistry Char.isUpper (str "Registry/app:1") = str "Registry" ∧
      decodeAuth jsonCodec (getRegistryAuth asciiTables jsonCodec hubOnly (str "Registry/app:1")) =
        some ⟨str "me", str "s3cret", str "Docker.io"⟩ ∧
      ¬ SendsOwn asciiTables jsonCodec Char.isUpper hubOnly (str "Registry/app:1")
        (getRegistryAuth asciiTables jsonCodec hubOnly (str "Registry/app:1")) := by
  refine ⟨by decide +kernel, by decide +kernel, fun hsends => ?_⟩
  obtain ⟨reg, hreg, -⟩ := hsends.own (by decide +kernel)
  have hnone : firstFor asciiTables hubOnly (dockerRegistry Char.isUpper (str "Registry/app:1")) = none := by
    decide +kernel
  rw [hnone] at hreg
  cases hreg

end Container
end Dmanager
