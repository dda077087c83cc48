import Dmanager.Container.RegistryAuth
import Dmanager.Go.Timestamps

/-!
# Registries from the environment

The last part of `Load` in `internal/config/config.go`: the variables `DMANAGER_REGISTRIES_<N>_HOST`, `_USERNAME` and
`_PASSWORD` override the entry `N` of the list from the configuration file, or append one.  One loop does both, and it
stops at the first index without a variable, be it past the list or within it.

`overrides_iff` says when all the variables take effect.
-/

namespace Dmanager
namespace Server

open Go
open Container (Registry)

/-! ## The source -/

/-- The variables of the process with their values. -/
abbrev Environment := List (GoString × GoString)

/-- `os.LookupEnv`. -/
def lookupEnv (env : Environment) (key : GoString) : Option GoString :=
  (env.find? fun entry => entry.1 = key).map Prod.snd

/-- `fmt.Sprintf("DMANAGER_REGISTRIES_%d_...", i)`. -/
def registryKey (field : String) (i : Nat) : GoString :=
  str "DMANAGER_REGISTRIES_" ++ natString i ++ str "_" ++ str field

def hostKey (i : Nat) : GoString := registryKey "HOST" i
def userKey (i : Nat) : GoString := registryKey "USERNAME" i
def passKey (i : Nat) : GoString := registryKey "PASSWORD" i

/-- The three variables of an index. -/
structure RegistryVars where
  hostVal : Option GoString
  userVal : Option GoString
  passVal : Option GoString
  deriving DecidableEq, Repr

def registryVars (env : Environment) (i : Nat) : RegistryVars where
  hostVal := lookupEnv env (hostKey i)
  userVal := lookupEnv env (userKey i)
  passVal := lookupEnv env (passKey i)

namespace RegistryVars

/-- `!hostOk && !userOk && !passOk`. -/
def noneSet (vars : RegistryVars) : Bool := vars.hostVal.isNone && vars.userVal.isNone && vars.passVal.isNone

/-- Each variable that is set replaces its field. -/
def override (vars : RegistryVars) (reg : Registry) : Registry where
  host := vars.hostVal.getD reg.host
  username := vars.userVal.getD reg.username
  password := vars.passVal.getD reg.password

/-- The entry of an index past the list. -/
def entry (vars : RegistryVars) : Registry := vars.override ⟨[], [], []⟩

end RegistryVars

/-- One turn of the loop. -/
def applyVars (vars : RegistryVars) (i : Nat) (registries : List Registry) : List Registry :=
  if i < registries.length then registries.modify i vars.override else registries ++ [vars.entry]

/-- The loop, for at most `fuel` turns. -/
def registriesLoop (env : Environment) : Nat → Nat → List Registry → Option (List Registry)
  | 0, _, _ => none
  | fuel + 1, i, registries =>
      if (registryVars env i).noneSet then some registries
      else registriesLoop env fuel (i + 1) (applyVars (registryVars env i) i registries)

/-- What the loop of `Load` makes of the registries of the file.  It ends before it has made as many turns as there are
variables (`loadRegistries_eq`). -/
def loadRegistries (env : Environment) (registries : List Registry) : Option (List Registry) :=
  registriesLoop env (env.length + 1) 0 registries

/-! ## The end of the loop -/

variable {env : Environment} {yaml loaded : List Registry} {i fuel : Nat}

theorem underscore_not_mem_natString (n : Nat) : 0x5F ∉ natString n := by
  rw [← padded_one]
  intro hmem
  exact absurd ((padded_bounds 0 n).2 0x5F hmem).2 (by decide)

theorem natString_inj {n m : Nat} (heq : natString n = natString m) : n = m := by
  rw [← padded_one, ← padded_one] at heq
  exact padded_inj heq

/-- A variable belongs to one index. -/
theorem registryKey_inj {field field' : String} {i j : Nat} (heq : registryKey field i = registryKey field' j) :
    i = j := by
  have hsep : str "_" = [0x5F] := by decide
  unfold registryKey at heq
  rw [hsep, List.append_assoc, List.append_assoc, List.append_assoc, List.append_assoc,
    List.append_cancel_left_eq] at heq
  exact natString_inj (eq_of_append_cons_eq (underscore_not_mem_natString i) (underscore_not_mem_natString j) heq)

theorem mem_of_lookupEnv {key value : GoString} (hfound : lookupEnv env key = some value) : key ∈ env.map Prod.fst := by
  obtain ⟨entry, hentry, -⟩ := Option.map_eq_some_iff.mp hfound
  have hfirst := List.find?_some hentry
  have hkey : entry.1 = key := of_decide_eq_true hfirst
  exact hkey ▸ List.mem_map_of_mem (List.mem_of_find?_eq_some hentry)

/-- An index with a variable. -/
theorem exists_registryKey (hset : (registryVars env i).noneSet = false) :
    ∃ field, registryKey field i ∈ env.map Prod.fst := by
  by_contra hnone
  have hunset (field : String) : lookupEnv env (registryKey field i) = none := by
    rw [Option.eq_none_iff_forall_ne_some]
    exact fun value hfound => hnone ⟨field, mem_of_lookupEnv hfound⟩
  have hvars : registryVars env i = ⟨none, none, none⟩ := by
    unfold registryVars hostKey userKey passKey
    rw [hunset, hunset, hunset]
  rw [hvars] at hset
  cases hset

/-- Not all indices up to the number of variables have one. -/
theorem exists_noneSet (env : Environment) : ∃ i ≤ env.length, (registryVars env i).noneSet = true := by
  by_contra hall
  have hset : ∀ i ∈ Finset.range (env.length + 1), ∃ field, registryKey field i ∈ env.map Prod.fst := by
    intro i hi
    refine exists_registryKey ?_
    rw [← Bool.not_eq_true]
    exact fun hnone => hall ⟨i, Nat.lt_succ_iff.mp (Finset.mem_range.mp hi), hnone⟩
  choose! field hfield using hset
  have hcard := Finset.card_le_card_of_injOn (fun i => registryKey (field i) i)
    (fun i hi => List.mem_toFinset.mpr (hfield i hi)) fun i _ j _ heq => registryKey_inj heq
  have hkeys := List.toFinset_card_le (env.map Prod.fst)
  rw [Finset.card_range] at hcard
  rw [List.length_map] at hkeys
  omega

/-- The registries after the turns before an index. -/
def afterTurns (env : Environment) (yaml : List Registry) (i : Nat) : List Registry :=
  (yaml.mapIdx fun n reg => if n < i then (registryVars env n).override reg else reg) ++
    (List.range (i - yaml.length)).map fun k => (registryVars env (yaml.length + k)).entry

theorem afterTurns_zero : afterTurns env yaml 0 = yaml := by
  unfold afterTurns
  rw [Nat.zero_sub, List.range_zero, List.map_nil, List.append_nil]
  apply List.ext_getElem?
  intro n
  rw [List.getElem?_mapIdx]
  simp

/-- A turn within the list. -/
theorem applyVars_afterTurns_of_lt (hi : i < yaml.length) :
    applyVars (registryVars env i) i (afterTurns env yaml i) = afterTurns env yaml (i + 1) := by
  have hnone : i - yaml.length = 0 := by omega
  have hnone' : i + 1 - yaml.length = 0 := by omega
  unfold applyVars afterTurns
  rw [hnone, hnone', List.range_zero, List.map_nil, List.append_nil, List.append_nil, List.length_mapIdx, if_pos hi]
  apply List.ext_getElem?
  intro n
  rw [List.getElem?_modify, List.getElem?_mapIdx, List.getElem?_mapIdx]
  cases yaml[n]? with
  | none => rfl
  | some reg =>
      rcases Nat.lt_trichotomy n i with hlt | rfl | hgt
      · simp [hlt, Nat.lt_succ_of_lt hlt, Nat.ne_of_gt hlt]
      · simp
      · simp [Nat.lt_asymm hgt, Nat.ne_of_lt hgt, Nat.not_lt.mpr hgt]

/-- A turn past the list. -/
theorem applyVars_afterTurns_of_le (hi : yaml.length ≤ i) :
    applyVars (registryVars env i) i (afterTurns env yaml i) = afterTurns env yaml (i + 1) := by
  have hlength : (afterTurns env yaml i).length = i := by
    unfold afterTurns
    rw [List.length_append, List.length_mapIdx, List.length_map, List.length_range]
    omega
  have hindex : yaml.length + (i - yaml.length) = i := by omega
  have hmore : i + 1 - yaml.length = i - yaml.length + 1 := by omega
  have hsame : (yaml.mapIdx fun n reg => if n < i then (registryVars env n).override reg else reg) =
      yaml.mapIdx fun n reg => if n < i + 1 then (registryVars env n).override reg else reg := by
    refine List.mapIdx_eq_mapIdx_iff.mpr fun n hn => ?_
    rw [if_pos (by omega), if_pos (by omega)]
  unfold applyVars
  rw [hlength, if_neg (Nat.lt_irrefl i)]
  unfold afterTurns
  rw [hmore, List.range_succ, List.map_append, List.map_singleton, hindex, hsame, List.append_assoc]

theorem applyVars_afterTurns (env : Environment) (yaml : List Registry) (i : Nat) :
    applyVars (registryVars env i) i (afterTurns env yaml i) = afterTurns env yaml (i + 1) := by
  rcases Nat.lt_or_ge i yaml.length with hlt | hge
  · exact applyVars_afterTurns_of_lt hlt
  · exact applyVars_afterTurns_of_le hge

/-- The loop from an index on ends at the first index without a variable. -/
theorem registriesLoop_afterTurns {first : Nat} (hnone : (registryVars env first).noneSet = true)
    (hset : ∀ j < first, (registryVars env j).noneSet = false) (hle : i ≤ first) (hfuel : first - i < fuel) :
    registriesLoop env fuel i (afterTurns env yaml i) = some (afterTurns env yaml first) := by
  induction fuel generalizing i with
  | zero => exact absurd hfuel (Nat.not_lt_zero _)
  | succ fuel ih =>
      rw [registriesLoop]
      rcases Nat.lt_or_eq_of_le hle with hlt | rfl
      · rw [hset i hlt, if_neg Bool.false_ne_true, applyVars_afterTurns]
        exact ih hlt (by omega)
      · rw [hnone, if_pos rfl]

/-- The first index without a variable, where the loop ends. -/
theorem loadRegistries_eq (env : Environment) (yaml : List Registry) :
    ∃ first, (registryVars env first).noneSet = true ∧ (∀ j < first, (registryVars env j).noneSet = false) ∧
      loadRegistries env yaml = some (afterTurns env yaml first) := by
  obtain ⟨i, hi, hnone⟩ := exists_noneSet env
  have hsome : ∃ i, (registryVars env i).noneSet = true := ⟨i, hnone⟩
  have hset : ∀ j < Nat.find hsome, (registryVars env j).noneSet = false :=
    fun j hj => Bool.not_eq_true _ ▸ Nat.find_min hsome hj
  have hle : Nat.find hsome ≤ i := Nat.find_min' hsome hnone
  refine ⟨Nat.find hsome, Nat.find_spec hsome, hset, ?_⟩
  have hrun : registriesLoop env (env.length + 1) 0 (afterTurns env yaml 0) = _ :=
    registriesLoop_afterTurns (Nat.find_spec hsome) hset (Nat.zero_le _) (by omega)
  rw [afterTurns_zero] at hrun
  exact hrun

/-! ## Which variables take effect -/

/-- What the variables are for: those of an index within the list override its fields, and those of the indices from
the length of the list on, up to the first one without a variable, are new entries. -/
structure Overrides (env : Environment) (yaml loaded : List Registry) : Prop where
  overridden : ∀ n reg, yaml[n]? = some reg → loaded[n]? = some ((registryVars env n).override reg)
  appended : ∃ run, (∀ k < run, (registryVars env (yaml.length + k)).noneSet = false) ∧
    (registryVars env (yaml.length + run)).noneSet = true ∧
    loaded.drop yaml.length = (List.range run).map fun k => (registryVars env (yaml.length + k)).entry

/-- After an index of the list without a variable the variables say nothing new: those of a later index of the list have
the values that it has, and the index after the list has none. -/
def GapsHarmless (env : Environment) (yaml : List Registry) : Prop :=
  ∀ gap < yaml.length, (registryVars env gap).noneSet = true →
    (∀ n reg, gap < n → yaml[n]? = some reg → (registryVars env n).override reg = reg) ∧
      (registryVars env yaml.length).noneSet = true

theorem RegistryVars.override_of_noneSet {vars : RegistryVars} (hnone : vars.noneSet = true) (reg : Registry) :
    vars.override reg = reg := by
  obtain ⟨hostVal, userVal, passVal⟩ := vars
  simp only [noneSet, Bool.and_eq_true, Option.isNone_iff_eq_none] at hnone
  obtain ⟨⟨rfl, rfl⟩, rfl⟩ := hnone
  rfl

theorem getElem?_afterTurns {n : Nat} {reg : Registry} (hreg : yaml[n]? = some reg) :
    (afterTurns env yaml i)[n]? = some (if n < i then (registryVars env n).override reg else reg) := by
  have hn : n < yaml.length := (List.getElem?_eq_some_iff.mp hreg).1
  unfold afterTurns
  rw [List.getElem?_append_left (by rwa [List.length_mapIdx]), List.getElem?_mapIdx, hreg, Option.map_some]

theorem drop_afterTurns (env : Environment) (yaml : List Registry) (i : Nat) :
    (afterTurns env yaml i).drop yaml.length =
      (List.range (i - yaml.length)).map fun k => (registryVars env (yaml.length + k)).entry :=
  List.drop_left' List.length_mapIdx

/-- A loop that ends past the list has seen all of it. -/
theorem overrides_of_le {first : Nat} (hnone : (registryVars env first).noneSet = true)
    (hset : ∀ j < first, (registryVars env j).noneSet = false) (hle : yaml.length ≤ first) :
    Overrides env yaml (afterTurns env yaml first) := by
  constructor
  · intro n reg hreg
    have hn : n < yaml.length := (List.getElem?_eq_some_iff.mp hreg).1
    rw [getElem?_afterTurns hreg, if_pos (Nat.lt_of_lt_of_le hn hle)]
  · refine ⟨first - yaml.length, fun k hk => hset _ (by omega), ?_, drop_afterTurns env yaml first⟩
    rw [Nat.add_sub_cancel' hle]
    exact hnone

/-- A loop that ends within the list has missed what stands behind. -/
theorem overrides_iff_of_lt {first : Nat} (hnone : (registryVars env first).noneSet = true)
    (hlt : first < yaml.length) :
    Overrides env yaml (afterTurns env yaml first) ↔
      (∀ n reg, first < n → yaml[n]? = some reg → (registryVars env n).override reg = reg) ∧
        (registryVars env yaml.length).noneSet = true := by
  have hdrop : (afterTurns env yaml first).drop yaml.length = [] := by
    rw [drop_afterTurns, Nat.sub_eq_zero_of_le (Nat.le_of_lt hlt), List.range_zero, List.map_nil]
  constructor
  · rintro ⟨hoverridden, run, -, hend, happended⟩
    refine ⟨fun n reg hn hreg => ?_, ?_⟩
    · have hsame := hoverridden n reg hreg
      rw [getElem?_afterTurns hreg, if_neg (Nat.lt_asymm hn)] at hsame
      exact (Option.some.inj hsame).symm
    · rw [hdrop] at happended
      have hrun : run = 0 := List.range_eq_nil.mp (List.map_eq_nil_iff.mp happended.symm)
      rwa [hrun] at hend
  · rintro ⟨hrepeated, hend⟩
    refine ⟨fun n reg hreg => ?_, 0, fun k hk => absurd hk (Nat.not_lt_zero k), hend, hdrop⟩
    rw [getElem?_afterTurns hreg]
    split
    · rfl
    · rename_i hn
      rcases Nat.lt_or_eq_of_le (Nat.not_lt.mp hn) with hgt | rfl
      · rw [hrepeated n reg hgt hreg]
      · rw [RegistryVars.override_of_noneSet hnone]

/-- All variables take effect exactly if none of them stands behind an index of the list without a variable, or only
such as say nothing new. -/
theorem overrides_iff (env : Environment) (yaml : List Registry) :
    ∃ loaded, loadRegistries env yaml = some loaded ∧ (Overrides env yaml loaded ↔ GapsHarmless env yaml) := by
  obtain ⟨first, hnone, hset, hloaded⟩ := loadRegistries_eq env yaml
  refine ⟨_, hloaded, ?_⟩
  rcases Nat.lt_or_ge first yaml.length with hlt | hge
  · rw [overrides_iff_of_lt hnone hlt]
    constructor
    · rintro ⟨hrepeated, hend⟩ gap hgap hgapnone
      have hle : first ≤ gap := by
        by_contra hbefore
        rw [hset gap (Nat.not_le.mp hbefore)] at hgapnone
        cases hgapnone
      exact ⟨fun n reg hn hreg => hrepeated n reg (Nat.lt_of_le_of_lt hle hn) hreg, hend⟩
    · exact fun hharmless => hharmless first hlt hnone
  · refine iff_of_true (overrides_of_le hnone hset hge) fun gap hgap hgapnone => ?_
    rw [hset gap (Nat.lt_of_lt_of_le hgap hge)] at hgapnone
    cases hgapnone

/-- Two registries in the configuration file. -/
def twoRegistries : List Registry :=
  [⟨str "ghcr.io", str "me", str "old"⟩, ⟨str "registry.example.com", str "deploy", str "old"⟩]

/-- A new password for the second one. -/
def rotatedPassword : Environment := [(str "DMANAGER_REGISTRIES_1_PASSWORD", str "new")]

/-- The new password is not used. -/
theorem not_overrides_rotatedPassword :
    loadRegistries rotatedPassword twoRegistries = some twoRegistries ∧
      ¬ Overrides rotatedPassword twoRegistries twoRegistries := by
  refine ⟨by decide +kernel, fun hoverrides => ?_⟩
  have hsecond := hoverrides.overridden 1 ⟨str "registry.example.com", str "deploy", str "old"⟩ rfl
  revert hsecond
  decide +kernel

end Server
end Dmanager
