import Dmanager.Go.Unicode
import Dmanager.Logging.Buffer

/-!
# Reading the log buffer

`RingBuffer.Get`: the page of system logs asks for the newest entries, of one level and with a text in them.

`get_addAll` says what it returns, after any number of entries has been added: those of the last entries that are
asked for, newest first, as many as the limit allows.
-/

namespace Dmanager
namespace Logging

open Dmanager.Go

/-! ## The source -/

/-- The condition on the level in the loop of `Get`. -/
def passesLevel (tables : UnicodeTables) (levelFilter : GoString) (entry : LogEntry) : Bool :=
  !(levelFilter ≠ [] && !tables.equalFold entry.level levelFilter)

/-- `hasMatch`. -/
def hasMatch (tables : UnicodeTables) (searchQuery : GoString) (entry : LogEntry) : Bool :=
  if contains (tables.toLower entry.message) (tables.toLower searchQuery) then true
  else if contains (tables.toLower entry.component) (tables.toLower searchQuery) then true
  else if contains (tables.toLower entry.metadata) (tables.toLower searchQuery) then true
  else false

/-- The loop of `Get`, over the entries from the newest to the oldest. -/
def collect (tables : UnicodeTables) (limit : Int) (levelFilter searchQuery : GoString) :
    List LogEntry → List LogEntry → List LogEntry
  | [], filtered => filtered
  | entry :: rest, filtered =>
      if !passesLevel tables levelFilter entry then collect tables limit levelFilter searchQuery rest filtered
      else if searchQuery ≠ [] && !hasMatch tables searchQuery entry then
        collect tables limit levelFilter searchQuery rest filtered
      else if 0 < limit ∧ limit ≤ (filtered ++ [entry]).length then filtered ++ [entry]
      else collect tables limit levelFilter searchQuery rest (filtered ++ [entry])

/-- `Get`. -/
def RingBuffer.get (tables : UnicodeTables) (rb : RingBuffer) (limit : Int) (levelFilter searchQuery : GoString) :
    List LogEntry :=
  collect tables limit levelFilter searchQuery rb.chronological.reverse []

/-! ## What is asked for -/

/-- The same letters, ignoring case. -/
def SameLetters (tables : UnicodeTables) (s t : GoString) : Prop :=
  (runes s).map tables.fold = (runes t).map tables.fold

/-- A text has another one in it, ignoring case. -/
def Mentions (tables : UnicodeTables) (text query : GoString) : Prop :=
  (runes query).map tables.lower <:+: (runes text).map tables.lower

/-- An entry has the level, and the text in its message, component or metadata, if they are given. -/
def Wanted (tables : UnicodeTables) (levelFilter searchQuery : GoString) (entry : LogEntry) : Prop :=
  (levelFilter ≠ [] → SameLetters tables entry.level levelFilter) ∧
    (searchQuery ≠ [] →
      ∃ text ∈ [entry.message, entry.component, entry.metadata], Mentions tables text searchQuery)

variable {tables : UnicodeTables} {limit : Int} {levelFilter searchQuery : GoString} {entry : LogEntry}

instance decidableSameLetters (s t : GoString) : Decidable (SameLetters tables s t) :=
  inferInstanceAs (Decidable (_ = _))

instance decidableMentions (text query : GoString) : Decidable (Mentions tables text query) :=
  inferInstanceAs (Decidable (_ <:+: _))

instance decidableWanted : DecidablePred (Wanted tables levelFilter searchQuery) :=
  fun _ => inferInstanceAs (Decidable (_ ∧ _))

/-- The first of a list, as many as the limit says; without a limit all of them. -/
def cut {α : Type} (limit : Int) (l : List α) : List α := if 0 < limit then l.take limit.toNat else l

theorem hasMatch_iff :
    hasMatch tables searchQuery entry = true ↔
      ∃ text ∈ [entry.message, entry.component, entry.metadata], Mentions tables text searchQuery := by
  simp only [List.mem_cons, List.not_mem_nil, or_false, exists_eq_or_imp, exists_eq_left, Mentions,
    ← contains_toLower_iff]
  unfold hasMatch
  split
  · simp_all
  · split
    · simp_all
    · simp_all

theorem passesLevel_iff :
    passesLevel tables levelFilter entry = true ↔ (levelFilter ≠ [] → SameLetters tables entry.level levelFilter) := by
  unfold passesLevel UnicodeTables.equalFold SameLetters
  simp only [Bool.not_eq_true', Bool.and_eq_false_iff, decide_eq_false_iff_not, not_not, Bool.not_eq_false',
    decide_eq_true_eq, ne_eq]
  exact or_iff_not_imp_left

/-- The condition on the text in the loop of `Get`. -/
theorem passesQuery_iff :
    (searchQuery ≠ [] && !hasMatch tables searchQuery entry) = false ↔
      (searchQuery ≠ [] →
        ∃ text ∈ [entry.message, entry.component, entry.metadata], Mentions tables text searchQuery) := by
  rw [Bool.and_eq_false_iff, decide_eq_false_iff_not, Bool.not_eq_false', hasMatch_iff]
  exact imp_iff_not_or.symm

/-- The two conditions of the loop let through what is wanted. -/
theorem wanted_iff :
    Wanted tables levelFilter searchQuery entry ↔ passesLevel tables levelFilter entry = true ∧
      (searchQuery ≠ [] && !hasMatch tables searchQuery entry) = false := by
  rw [passesLevel_iff, passesQuery_iff]
  exact Iff.rfl

/-- A list that is as long as the limit is all that is left of it with more behind it. -/
theorem cut_append_of_length {α : Type} {l : List α} (more : List α) (hlimit : 0 < limit)
    (hlength : (l.length : Int) = limit) : cut limit (l ++ more) = l := by
  have hnat : limit.toNat = l.length := by omega
  rw [cut, if_pos hlimit, hnat, List.take_left]

theorem cut_of_length_lt {α : Type} {l : List α} (hroom : 0 < limit → (l.length : Int) < limit) :
    cut limit l = l := by
  unfold cut
  split
  · rename_i hlimit
    have hlt := hroom hlimit
    exact List.take_of_length_le (by omega)
  · rfl

/-- The loop keeps what is wanted, up to the limit. -/
theorem collect_eq (entries filtered : List LogEntry) (hroom : 0 < limit → filtered.length < limit) :
    collect tables limit levelFilter searchQuery entries filtered =
      cut limit (filtered ++ entries.filter (Wanted tables levelFilter searchQuery)) := by
  induction entries generalizing filtered with
  | nil => rw [collect, List.filter_nil, List.append_nil, cut_of_length_lt hroom]
  | cons entry rest ih =>
      rw [collect, List.filter_cons]
      by_cases hwanted : Wanted tables levelFilter searchQuery entry
      · obtain ⟨hlevel, hquery⟩ := wanted_iff.mp hwanted
        rw [hlevel, hquery, decide_eq_true hwanted, if_pos rfl, List.append_cons filtered entry (List.filter _ rest)]
        simp only [Bool.not_true, Bool.false_eq_true, if_false]
        have hlength : (filtered ++ [entry]).length = filtered.length + 1 := by
          rw [List.length_append, List.length_singleton]
        split
        · -- the limit is reached
          rename_i hfull
          have hlt := hroom hfull.1
          exact (cut_append_of_length _ hfull.1 (by omega)).symm
        · rename_i hmore
          apply ih
          intro hlimit
          have hlt : ¬ limit ≤ (filtered ++ [entry]).length := fun hle => hmore ⟨hlimit, hle⟩
          omega
      · rw [decide_eq_false hwanted, if_neg Bool.false_ne_true]
        split
        · exact ih filtered hroom
        · rename_i hlevel
          rw [Bool.not_eq_true', Bool.not_eq_false] at hlevel
          rw [if_pos]
          · exact ih filtered hroom
          · rw [← Bool.not_eq_false]
            exact fun hquery => hwanted (wanted_iff.mpr ⟨hlevel, hquery⟩)

/-- After any entries have been added to a new buffer, `Get` returns those of the last ones that are wanted, newest
first, as many as the limit says. -/
theorem get_addAll (tables : UnicodeTables) {capacity : Nat} (hcapacity : 1 ≤ capacity) (entries : List LogEntry)
    (limit : Int) (levelFilter searchQuery : GoString) :
    ((RingBuffer.new capacity hcapacity).addAll entries).get tables limit levelFilter searchQuery =
      cut limit ((entries.reverse.take (min capacity entries.length)).filter
        (Wanted tables levelFilter searchQuery)) := by
  have hnil : (RingBuffer.new capacity hcapacity).chronological = [] := if_pos hcapacity
  have htake : entries.reverse.take capacity = entries.reverse.take (min capacity entries.length) := by
    rw [← List.length_reverse, ← List.take_eq_take_min]
  have hlast := ((RingBuffer.new capacity hcapacity).chronological_addAll entries).1
  have hsize : (RingBuffer.new capacity hcapacity).capacity = capacity := rfl
  rw [hnil, List.nil_append, List.rtake_eq_reverse_take_reverse, hsize, htake] at hlast
  rw [RingBuffer.get, hlast, List.reverse_reverse, collect_eq _ _ (fun hlimit => hlimit), List.nil_append]

def warned (message : String) : LogEntry := ⟨str "WARN", str message, str "2026-07-05T17:00:00Z", str "CompA", []⟩

/-- The oldest entry has been overwritten, and the limit leaves out another one. -/
theorem get_addAll_three :
    ((RingBuffer.new 3 (by decide)).addAll
      [warned "Disk full", warned "Disk slow", ⟨str "INFO", str "disk", [], [], []⟩, warned "DISK gone"]).get
        asciiTables 1 (str "warn") (str "disk") = [warned "DISK gone"] :=
  (get_addAll asciiTables (by decide) _ 1 (str "warn") (str "disk")).trans (by decide +kernel)

end Logging
end Dmanager
