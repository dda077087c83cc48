import Dmanager.Auth.RateLimiter

/-!
# Eviction is unobservable

`evictExpired` drops the records that are neither locked nor have a failure in the window.  A dropped
record comes back as the zero record when its key fails again, so it must not matter whether the key had
its old record or none.

The simulation relates the limiter to a reference that never evicts (`referenceAnswer`).  A key without a
record counts as one with the zero record; two records agree at `clock` when they have the same failures
in the window and the same lock, where locks that are over at `clock` all count as the same
(`RecordAgree`).  The relation only gets easier as the clock advances (`RecordAgree.mono`), and
`evict_unobservable` follows from its being kept by every call.
-/

namespace Dmanager
namespace Auth
namespace RateLimiter

open Go Lib

/-- One call on the limiter whose `evictExpired` does nothing. -/
def referenceAnswer : FloatConversion → RateLimiter → Call → RateLimiter × Answer :=
  answerWith fun rl _ => rl

/-- The record of a key, the zero record when there is none. -/
def recordOf (records : Records) (key : GoString) : AttemptRecord :=
  (records key).getD AttemptRecord.zero

/-- No call at `clock` or later tells the two records apart. -/
def RecordAgree (window clock : Int) (rec ref : AttemptRecord) : Prop :=
  recent window clock rec = recent window clock ref ∧
    (rec.lockedUntil = ref.lockedUntil ∨ (rec.lockedUntil ≤ clock ∧ ref.lockedUntil ≤ clock))

/-- The two maps agree on every key. -/
def RecordsAgree (window clock : Int) (records reference : Records) : Prop :=
  ∀ key, RecordAgree window clock (recordOf records key) (recordOf reference key)

/-- The two limiters have the same constants. -/
structure SameSettings (rl ref : RateLimiter) : Prop where
  window_eq : rl.window = ref.window
  threshold_eq : rl.threshold = ref.threshold
  maxLockout_eq : rl.maxLockout = ref.maxLockout
  baseLockout_eq : rl.baseLockout = ref.baseLockout

/-- The limiter and the reference: equal constants, agreeing maps. -/
structure Agree (clock : Int) (rl ref : RateLimiter) : Prop where
  window_eq : rl.window = ref.window
  threshold_eq : rl.threshold = ref.threshold
  maxLockout_eq : rl.maxLockout = ref.maxLockout
  baseLockout_eq : rl.baseLockout = ref.baseLockout
  users : RecordsAgree rl.window clock rl.userRecords ref.userRecords
  ips : RecordsAgree rl.window clock rl.ipRecords ref.ipRecords

theorem Agree.settings {clock : Int} {rl ref : RateLimiter} (hagree : Agree clock rl ref) :
    SameSettings rl ref :=
  ⟨hagree.window_eq, hagree.threshold_eq, hagree.maxLockout_eq, hagree.baseLockout_eq⟩

/-! ## Agreement of records -/

/-- The window only moves forward: what is recent later is among what is recent now. -/
theorem recent_of_recent {window clock now : Int} (hclock : clock ≤ now) (rec : AttemptRecord) :
    recent window now rec =
      (recent window clock rec).filter fun t => after t (now + -window) := by
  unfold recent
  rw [List.filter_filter]
  apply List.filter_congr
  intro t _
  have hlater : now + -window < t → clock + -window < t := by
    intro hrecent
    omega
  by_cases hrecent : now + -window < t
  · simp [after, hrecent, hlater hrecent]
  · simp [after, hrecent]

theorem RecordAgree.refl (window clock : Int) (rec : AttemptRecord) :
    RecordAgree window clock rec rec :=
  ⟨rfl, Or.inl rfl⟩

theorem RecordAgree.symm {window clock : Int} {rec ref : AttemptRecord}
    (hagree : RecordAgree window clock rec ref) : RecordAgree window clock ref rec :=
  ⟨hagree.1.symm, hagree.2.imp Eq.symm And.symm⟩

theorem RecordAgree.mono {window clock now : Int} {rec ref : AttemptRecord}
    (hagree : RecordAgree window clock rec ref) (hclock : clock ≤ now) :
    RecordAgree window now rec ref := by
  obtain ⟨hrecent, hlock⟩ := hagree
  constructor
  · rw [recent_of_recent hclock rec, recent_of_recent hclock ref, hrecent]
  · rcases hlock with hequal | ⟨hrec, href⟩
    · exact Or.inl hequal
    · exact Or.inr ⟨hrec.trans hclock, href.trans hclock⟩

/-- The zero record stands for a record that is neither locked nor has a failure in the window. -/
theorem RecordAgree.zero_of_evicted {window now clock : Int} {rec ref : AttemptRecord}
    (hzero : zeroTime ≤ clock) (hnow : now ≤ clock) (hagree : RecordAgree window clock rec ref)
    (hover : rec.lockedUntil < now) (hold : recent window now rec = []) :
    RecordAgree window clock AttemptRecord.zero ref := by
  obtain ⟨hrecent, hlock⟩ := hagree
  constructor
  · show [] = recent window clock ref
    rw [← hrecent, recent_of_recent hnow, hold, List.filter_nil]
  · refine Or.inr ⟨hzero, ?_⟩
    rcases hlock with hequal | ⟨-, href⟩
    · omega
    · exact href

/-- Eviction of the record of a key, not later than the clock. -/
theorem RecordAgree.evictRecords {window now clock : Int} {records : Records} {key : GoString}
    {ref : AttemptRecord} (hzero : zeroTime ≤ clock) (hnow : now ≤ clock)
    (hagree : RecordAgree window clock (recordOf records key) ref) :
    RecordAgree window clock (recordOf (evictRecords window now records) key) ref := by
  unfold recordOf RateLimiter.evictRecords at *
  cases hrec : records key with
  | none => simpa [hrec] using hagree
  | some rec =>
      simp only [hrec, Option.getD_some] at hagree ⊢
      split
      · -- this record is dropped
        rename_i hdropped
        rw [Bool.and_eq_true, after_eq_true_iff, Bool.not_eq_true', List.any_eq_false] at hdropped
        obtain ⟨hover, hnone⟩ := hdropped
        have hold : recent window now rec = [] := List.filter_eq_nil_iff.mpr hnone
        exact hagree.zero_of_evicted hzero hnow hover hold
      · exact hagree

theorem RecordsAgree.evictRecords {window now : Int} {records reference : Records}
    (hzero : zeroTime ≤ now) (hagree : RecordsAgree window now records reference) :
    RecordsAgree window now (evictRecords window now records) reference :=
  fun key => (hagree key).evictRecords hzero le_rfl

theorem RecordsAgree.update {window clock : Int} {records reference : Records} {key : GoString}
    {value value' : Option AttemptRecord} (hagree : RecordsAgree window clock records reference)
    (hvalue : RecordAgree window clock (value.getD AttemptRecord.zero)
      (value'.getD AttemptRecord.zero)) :
    RecordsAgree window clock (Function.update records key value)
      (Function.update reference key value') := by
  intro other
  by_cases hkey : other = key
  · subst hkey
    simpa [recordOf] using hvalue
  · simpa [recordOf, hkey] using hagree other

theorem RecordsAgree.mono {window clock now : Int} {records reference : Records}
    (hagree : RecordsAgree window clock records reference) (hclock : clock ≤ now) :
    RecordsAgree window now records reference :=
  fun key => (hagree key).mono hclock

/-! ## Agreement of the two operations on a key -/

/-- A key without a record is checked like one with the zero record. -/
theorem checkKey_eq {records : Records} {key : GoString} {now : Int} (hzero : zeroTime ≤ now) :
    checkKey records key now =
      if key ≠ [] ∧ now < (recordOf records key).lockedUntil then
        (recordOf records key).lockedUntil - now
      else 0 := by
  unfold checkKey recordOf
  by_cases hkey : key = []
  · simp [hkey]
  · cases hrec : records key with
    | none =>
        have hunlocked : ¬ now < AttemptRecord.zero.lockedUntil := not_lt.mpr hzero
        simp [hkey, hunlocked]
    | some rec => simp [hkey]

theorem checkKey_eq_of_agree {window now : Int} {records reference : Records} {key : GoString}
    (hzero : zeroTime ≤ now)
    (hagree : RecordAgree window now (recordOf records key) (recordOf reference key)) :
    checkKey records key now = checkKey reference key now := by
  rw [checkKey_eq hzero, checkKey_eq hzero]
  rcases hagree.2 with hequal | ⟨hrec, href⟩
  · rw [hequal]
  · rw [if_neg (fun h => absurd h.2 (not_lt.mpr hrec)), if_neg (fun h => absurd h.2 (not_lt.mpr href))]

theorem SameSettings.lockout_eq {conversion : FloatConversion} {rl ref : RateLimiter}
    (hsettings : SameSettings rl ref) (count : Nat) :
    lockout conversion rl count = lockout conversion ref count := by
  unfold lockout
  rw [hsettings.baseLockout_eq, hsettings.threshold_eq, hsettings.maxLockout_eq]

/-- One more failure: the same lockout, and records that still agree. -/
theorem addFailure_agree (conversion : FloatConversion) {now : Int} {rl ref : RateLimiter}
    {rec rec' : AttemptRecord} (hsettings : SameSettings rl ref)
    (hagree : RecordAgree rl.window now rec rec') :
    (addFailure conversion rl rec now).2 = (addFailure conversion ref rec' now).2 ∧
      RecordAgree rl.window now (addFailure conversion rl rec now).1
        (addFailure conversion ref rec' now).1 := by
  obtain ⟨hrecent, hlock⟩ := hagree
  unfold addFailure
  rw [← hsettings.window_eq, ← hsettings.threshold_eq, hrecent]
  by_cases hreached : rl.threshold ≤ (recent rl.window now rec' ++ [now]).length
  · simp only [hreached, if_true, hsettings.lockout_eq]
    exact ⟨trivial, RecordAgree.refl _ _ _⟩
  · simp only [hreached, if_false]
    exact ⟨trivial, rfl, hlock⟩

theorem recordFailureKey_agree (conversion : FloatConversion) {now : Int} {rl ref : RateLimiter}
    {records reference : Records} (key : GoString) (hsettings : SameSettings rl ref)
    (hagree : RecordsAgree rl.window now records reference) :
    (recordFailureKey conversion rl records key now).2 =
        (recordFailureKey conversion ref reference key now).2 ∧
      RecordsAgree rl.window now (recordFailureKey conversion rl records key now).1
        (recordFailureKey conversion ref reference key now).1 := by
  unfold recordFailureKey
  by_cases hkey : key = []
  · simp only [hkey, if_true]
    exact ⟨trivial, hagree⟩
  · simp only [hkey, if_false]
    obtain ⟨hanswer, hrecord⟩ := addFailure_agree conversion hsettings (hagree key)
    exact ⟨hanswer, hagree.update hrecord⟩

/-! ## Agreement of the limiters -/

theorem Agree.refl (clock : Int) (rl : RateLimiter) : Agree clock rl rl where
  window_eq := rfl
  threshold_eq := rfl
  maxLockout_eq := rfl
  baseLockout_eq := rfl
  users := fun _ => RecordAgree.refl _ _ _
  ips := fun _ => RecordAgree.refl _ _ _

/-- Eviction on one side, at an instant not before the clock. -/
theorem Agree.evictExpired {clock now : Int} {rl ref : RateLimiter} (hagree : Agree clock rl ref)
    (hzero : zeroTime ≤ now) (hclock : clock ≤ now) : Agree now (evictExpired rl now) ref where
  window_eq := hagree.window_eq
  threshold_eq := hagree.threshold_eq
  maxLockout_eq := hagree.maxLockout_eq
  baseLockout_eq := hagree.baseLockout_eq
  users := (hagree.users.mono hclock).evictRecords hzero
  ips := (hagree.ips.mono hclock).evictRecords hzero

/-- Every call answers alike and keeps the agreement. -/
theorem answer_agree (conversion : FloatConversion) {clock : Int} {rl ref : RateLimiter} {call : Call}
    (hagree : Agree clock rl ref) (hzero : zeroTime ≤ clock) (hclock : clock ≤ call.time?.getD clock) :
    (answer conversion rl call).2 = (referenceAnswer conversion ref call).2 ∧
      Agree (call.time?.getD clock) (answer conversion rl call).1
        (referenceAnswer conversion ref call).1 := by
  cases call with
  | check username ip now =>
      have hnow : clock ≤ now := hclock
      -- a record that is evicted would not have answered differently
      have hevicted := hagree.evictExpired (hzero.trans hnow) hnow
      have huser := checkKey_eq_of_agree (hzero.trans hnow) (hevicted.users username)
      have hip := checkKey_eq_of_agree (hzero.trans hnow) (hevicted.ips ip)
      refine ⟨?_, hevicted⟩
      simp only [answer, referenceAnswer, answerWith, checkWith, huser, hip]
  | recordFailure username ip now =>
      have hnow : clock ≤ now := hclock
      have hevicted := hagree.evictExpired (hzero.trans hnow) hnow
      obtain ⟨huserWait, husers⟩ :=
        recordFailureKey_agree conversion username hevicted.settings hevicted.users
      obtain ⟨hipWait, hips⟩ :=
        recordFailureKey_agree conversion ip hevicted.settings hevicted.ips
      constructor
      · simp only [answer, referenceAnswer, answerWith, recordFailureWith, huserWait, hipWait]
      · exact ⟨hevicted.window_eq, hevicted.threshold_eq, hevicted.maxLockout_eq,
          hevicted.baseLockout_eq, husers, hips⟩
  | recordSuccess username =>
      -- a success deletes the record on both sides
      refine ⟨rfl, hagree.window_eq, hagree.threshold_eq, hagree.maxLockout_eq, hagree.baseLockout_eq,
        ?_, hagree.ips⟩
      exact hagree.users.update (RecordAgree.refl _ _ _)

/-- Every answer of the limiter, in every ordered history from any state, is that of the limiter that
never evicts. -/
theorem evict_unobservable (conversion : FloatConversion) (rl : RateLimiter) (calls : List Call)
    (hordered : OrderedFrom zeroTime calls) :
    outputs (answer conversion) rl calls = outputs (referenceAnswer conversion) rl calls := by
  refine outputs_eq_of_simulation
    (fun rest rl ref => ∃ clock, zeroTime ≤ clock ∧ OrderedFrom clock rest ∧ Agree clock rl ref)
    ?_ ⟨zeroTime, le_rfl, hordered, Agree.refl zeroTime rl⟩
  rintro call rest rl ref ⟨clock, hzero, hrest, hagree⟩
  obtain ⟨hclock, htail⟩ := hrest.tail
  obtain ⟨hanswer, hnext⟩ := answer_agree conversion hagree hzero hclock
  exact ⟨hanswer, _, hzero.trans hclock, htail, hnext⟩

/-- A failure, and a check of another key and an empty address a quarter of an hour and a second later;
the check evicts the record of the failure, and the next failure of the key starts anew. -/
def evictingHistory : List Call :=
  let midnight := 63839664000 * second
  [.recordFailure (str "alice") (str "203.0.113.7") midnight,
    .check (str "bob") [] (midnight + 15 * minute + second),
    .recordFailure (str "alice") [] (midnight + 16 * minute)]

theorem evict_unobservable_evictingHistory :
    OrderedFrom zeroTime evictingHistory ∧
      (finalState (answer .amd64) newRateLimiter (evictingHistory.take 2)).userRecords (str "alice")
        = none ∧
      (finalState (referenceAnswer .amd64) newRateLimiter (evictingHistory.take 2)).userRecords
        (str "alice") ≠ none ∧
      outputs (answer .amd64) newRateLimiter evictingHistory =
        outputs (referenceAnswer .amd64) newRateLimiter evictingHistory :=
  ⟨by decide, by decide +kernel, by decide +kernel,
    evict_unobservable .amd64 newRateLimiter evictingHistory (by decide)⟩

end RateLimiter
end Auth
end Dmanager
