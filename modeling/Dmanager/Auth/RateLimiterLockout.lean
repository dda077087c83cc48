import Dmanager.Auth.RateLimiter

/-!
# When a further failure shortens a lockout

`recordFailureKey` overwrites `lockedUntil` with `now + lockout n`, where `n` counts the failures that are
still inside the sliding window.  Older failures may have left the window while the lockout they led to is
still running, so the new deadline can be earlier than the old one.  Nothing in the code compares the two.

* `LocksBounded` is the invariant of every history: the constants of the limiter never change, and no
  lock reaches further than `maxLockout` past the last call.
* `keepsLock_iff_covered` says exactly when one call keeps every running lockout, and `keepsLocks_iff`
  lifts it to whole histories: from nine failures in the window on the new lock is as long as a lock can
  be, below that the backoff of the count has to outlast what is left of the old lock, and from
  thirty-three on the backoff leaves the range of a duration.
* `recordFailure_shortens_lockout` is a history in which a lockout that runs for another thirteen minutes
  is cut to two.
-/

namespace Dmanager
namespace Auth
namespace RateLimiter

open Go Lib

/-- A key of one map that is locked before a call at `now` is still locked until at least that instant
after it. -/
def KeyKept (recordsBefore recordsAfter : Records) (key : GoString) (now : Int) : Prop :=
  ∀ rec, recordsBefore key = some rec → now < rec.lockedUntil →
    ∃ rec', recordsAfter key = some rec' ∧ rec.lockedUntil ≤ rec'.lockedUntil

/-- A call does not shorten the lockout of a key it names. -/
def KeepsLock (conversion : FloatConversion) (rl : RateLimiter) : Call → Prop
  | .recordFailure username ip now =>
      let next := (recordFailure conversion rl username ip now).1
      KeyKept rl.userRecords next.userRecords username now ∧
        KeyKept rl.ipRecords next.ipRecords ip now
  | _ => True

/-- A lock that runs for another `remaining` nanoseconds survives a failure that makes `count` failures
in the window. -/
def Outlasts (conversion : FloatConversion) (count : Nat) (remaining : Int) : Prop :=
  count < 5 ∨
    (5 ≤ count ∧ count ≤ 8 ∧ remaining ≤ minute * 2 ^ (count - 5)) ∨
    (9 ≤ count ∧ count ≤ 32) ∨
    (33 ≤ count ∧ remaining ≤ conversion.toInt64 (minute * 2 ^ (count - 5)))

/-- The key is the empty one, which is never recorded, or what is left of its lock is outlasted. -/
def KeyCovered (conversion : FloatConversion) (records : Records) (key : GoString) (now : Int) : Prop :=
  ∀ rec, records key = some rec → now < rec.lockedUntil →
    key = [] ∨
      Outlasts conversion ((recent rateLimitWindow now rec).length + 1) (rec.lockedUntil - now)

/-- Both keys of a `RecordFailure` are covered. -/
def Covered (conversion : FloatConversion) (rl : RateLimiter) : Call → Prop
  | .recordFailure username ip now =>
      KeyCovered conversion rl.userRecords username now ∧ KeyCovered conversion rl.ipRecords ip now
  | _ => True

/-! ## The invariant of a history -/

/-- No record of the map is locked beyond `limit`. -/
def LockedBy (limit : Int) (records : Records) : Prop :=
  ∀ key rec, records key = some rec → rec.lockedUntil ≤ limit

/-- A limiter as `NewRateLimiter` made it, whose locks end at most `maxLockout` after `clock`. -/
structure LocksBounded (clock : Int) (rl : RateLimiter) : Prop where
  window_eq : rl.window = rateLimitWindow
  threshold_eq : rl.threshold = rateLimitThreshold
  maxLockout_eq : rl.maxLockout = rateLimitMaxLockout
  baseLockout_eq : rl.baseLockout = rateLimitBaseLockout
  users_locked : LockedBy (clock + rateLimitMaxLockout) rl.userRecords
  ips_locked : LockedBy (clock + rateLimitMaxLockout) rl.ipRecords

theorem LockedBy.mono {limit limit' : Int} {records : Records} (hlocked : LockedBy limit records)
    (hle : limit ≤ limit') : LockedBy limit' records := by
  intro key rec hrec
  exact (hlocked key rec hrec).trans hle

theorem LockedBy.evictRecords {limit window now : Int} {records : Records}
    (hlocked : LockedBy limit records) : LockedBy limit (evictRecords window now records) := by
  intro key rec hrec
  exact hlocked key rec (eq_some_of_evictRecords hrec)

theorem LockedBy.update {limit : Int} {records : Records} {key : GoString} {value : Option AttemptRecord}
    (hlocked : LockedBy limit records) (hvalue : ∀ rec, value = some rec → rec.lockedUntil ≤ limit) :
    LockedBy limit (Function.update records key value) := by
  intro other rec hrec
  by_cases hkey : other = key
  · subst hkey
    exact hvalue rec (by simpa using hrec)
  · exact hlocked other rec (by simpa [hkey] using hrec)

theorem lockout_le_maxLockout (conversion : FloatConversion) (rl : RateLimiter) (count : Nat) :
    lockout conversion rl count ≤ rl.maxLockout := by
  unfold lockout
  dsimp only
  split
  · exact le_rfl
  · rename_i hle
    exact not_lt.mp hle

/-- One more failure leaves every lock of the map within `maxLockout` of the call. -/
theorem LockedBy.recordFailureKey {rl : RateLimiter} {records : Records} {now : Int}
    (hlocked : LockedBy (now + rl.maxLockout) records) (hnow : zeroTime ≤ now + rl.maxLockout)
    (conversion : FloatConversion) (key : GoString) :
    LockedBy (now + rl.maxLockout) (recordFailureKey conversion rl records key now).1 := by
  unfold RateLimiter.recordFailureKey
  split
  · exact hlocked
  · apply hlocked.update
    intro rec hrec
    cases hrec
    rw [addFailure_lockedUntil]
    split
    · have hle := lockout_le_maxLockout conversion rl
        ((recent rl.window now ((records key).getD AttemptRecord.zero)).length + 1)
      omega
    · -- below the threshold the lock stays as it was, or as the zero record has it
      cases hget : records key with
      | none => exact hnow
      | some old => exact hlocked key old hget

theorem newRateLimiter_locksBounded (clock : Int) : LocksBounded clock newRateLimiter where
  window_eq := rfl
  threshold_eq := rfl
  maxLockout_eq := rfl
  baseLockout_eq := rfl
  users_locked := by
    intro key rec hrec
    cases hrec
  ips_locked := by
    intro key rec hrec
    cases hrec

theorem LocksBounded.mono {clock clock' : Int} {rl : RateLimiter} (hbounded : LocksBounded clock rl)
    (hle : clock ≤ clock') : LocksBounded clock' rl where
  window_eq := hbounded.window_eq
  threshold_eq := hbounded.threshold_eq
  maxLockout_eq := hbounded.maxLockout_eq
  baseLockout_eq := hbounded.baseLockout_eq
  users_locked := hbounded.users_locked.mono (by omega)
  ips_locked := hbounded.ips_locked.mono (by omega)

theorem LocksBounded.evictExpired {clock : Int} {rl : RateLimiter} (hbounded : LocksBounded clock rl)
    (now : Int) : LocksBounded clock (evictExpired rl now) where
  window_eq := hbounded.window_eq
  threshold_eq := hbounded.threshold_eq
  maxLockout_eq := hbounded.maxLockout_eq
  baseLockout_eq := hbounded.baseLockout_eq
  users_locked := hbounded.users_locked.evictRecords
  ips_locked := hbounded.ips_locked.evictRecords

/-- Every call keeps the invariant and moves the clock to the time it carries. -/
theorem locksBounded_answer {conversion : FloatConversion} {clock : Int} {rl : RateLimiter} {call : Call}
    (hbounded : LocksBounded clock rl) (hzero : zeroTime ≤ clock)
    (hclock : clock ≤ call.time?.getD clock) :
    LocksBounded (call.time?.getD clock) (answer conversion rl call).1 := by
  cases call with
  | check username ip now => exact (hbounded.evictExpired now).mono hclock
  | recordFailure username ip now =>
      -- eviction first, then one failure for each of the two keys
      have hevicted : LocksBounded now (RateLimiter.evictExpired rl now) :=
        (hbounded.evictExpired now).mono hclock
      have hmax : (RateLimiter.evictExpired rl now).maxLockout = rateLimitMaxLockout :=
        hevicted.maxLockout_eq
      have hnow : zeroTime ≤ now + (RateLimiter.evictExpired rl now).maxLockout := by
        have hpositive : (0 : Int) ≤ rateLimitMaxLockout := by decide
        have htime : clock ≤ now := hclock
        omega
      have husers := hevicted.users_locked
      have hips := hevicted.ips_locked
      rw [← hmax] at husers hips
      have husersNext : LockedBy (now + rateLimitMaxLockout) _ :=
        hmax ▸ husers.recordFailureKey hnow conversion username
      have hipsNext : LockedBy (now + rateLimitMaxLockout) _ :=
        hmax ▸ hips.recordFailureKey hnow conversion ip
      exact ⟨hevicted.window_eq, hevicted.threshold_eq, hmax, hevicted.baseLockout_eq, husersNext,
        hipsNext⟩
  | recordSuccess username =>
      refine ⟨hbounded.window_eq, hbounded.threshold_eq, hbounded.maxLockout_eq,
        hbounded.baseLockout_eq, ?_, hbounded.ips_locked⟩
      apply hbounded.users_locked.update
      intro rec hrec
      cases hrec

/-! ## One call -/

/-- The backoff of a count in the range of a duration. -/
theorem toInt64_backoff (conversion : FloatConversion) {count : Nat} (hcount : count ≤ 32) :
    conversion.toInt64 (minute * 2 ^ (count - 5)) = minute * 2 ^ (count - 5) := by
  have hpositive : (0 : Int) < 2 ^ (count - 5) := by positivity
  have hpow : (2 : Int) ^ (count - 5) ≤ 2 ^ 27 := pow_le_pow_right₀ (by norm_num) (by omega)
  apply conversion.exact_of_range
  · simp only [minute, second]
    omega
  · simp only [minute, second]
    omega

/-- What is left of a lock that ends within `maxLockout` is covered by the backoff of `count` failures
exactly when the count is large enough. -/
theorem le_lockout_iff_outlasts (conversion : FloatConversion) {rl : RateLimiter} {clock remaining : Int}
    (hbounded : LocksBounded clock rl) (hremaining : remaining ≤ rateLimitMaxLockout) (count : Nat) :
    count < rl.threshold ∨ remaining ≤ lockout conversion rl count ↔
      Outlasts conversion count remaining := by
  have hlockout : remaining ≤ lockout conversion rl count ↔
      remaining ≤ conversion.toInt64 (minute * 2 ^ (count - 5)) := by
    have hbase : rl.baseLockout = minute := by rw [hbounded.baseLockout_eq]; rfl
    have hthreshold : rl.threshold = 5 := hbounded.threshold_eq
    have hmax := hbounded.maxLockout_eq
    simp only [lockout, hbase, hthreshold]
    split <;> omega
  have hthreshold : rl.threshold = 5 := hbounded.threshold_eq
  rw [hlockout, hthreshold]
  unfold Outlasts
  rcases Nat.lt_or_ge count 33 with hsmall | hlarge
  · rw [toInt64_backoff conversion (by omega)]
    rcases Nat.lt_or_ge count 9 with hfew | hmany
    · omega
    · -- sixteen minutes or more, and no lock is longer than fifteen
      have hpow : (2 : Int) ^ 4 ≤ 2 ^ (count - 5) := pow_le_pow_right₀ (by norm_num) (by omega)
      have hreach : remaining ≤ minute * 2 ^ (count - 5) := by
        simp only [rateLimitMaxLockout, minute, second] at hremaining ⊢
        omega
      constructor
      · intro _
        exact Or.inr (Or.inr (Or.inl ⟨hmany, by omega⟩))
      · intro _
        exact Or.inr hreach
  · omega

/-- `addFailure` keeps a running lock exactly when it is covered. -/
theorem lockedUntil_le_addFailure_iff (conversion : FloatConversion) (rl : RateLimiter)
    (rec : AttemptRecord) (now : Int) :
    rec.lockedUntil ≤ (addFailure conversion rl rec now).1.lockedUntil ↔
      (recent rl.window now rec).length + 1 < rl.threshold ∨
        rec.lockedUntil - now ≤ lockout conversion rl ((recent rl.window now rec).length + 1) := by
  rw [addFailure_lockedUntil]
  split
  · rename_i hreached
    have hnotBelow : ¬ (recent rl.window now rec).length + 1 < rl.threshold := by omega
    constructor
    · intro hle
      exact Or.inr (by omega)
    · rintro (hbelow | hle)
      · exact absurd hbelow hnotBelow
      · omega
  · rename_i hbelow
    constructor
    · intro _
      exact Or.inl (by omega)
    · intro _
      exact le_rfl

/-- One map of the limiter.  Eviction spares a locked record, so the record the failure is added to is
the one from before the call. -/
theorem keyKept_iff_keyCovered (conversion : FloatConversion) {rl : RateLimiter} {clock now : Int}
    {records : Records} (hbounded : LocksBounded clock rl)
    (hlocked : LockedBy (now + rateLimitMaxLockout) records) (key : GoString) :
    KeyKept records
        (recordFailureKey conversion rl (evictRecords rl.window now records) key now).1 key now ↔
      KeyCovered conversion records key now := by
  unfold KeyKept KeyCovered
  refine forall_congr' fun rec => forall_congr' fun hrec => forall_congr' fun hrunning => ?_
  have hspared : evictRecords rl.window now records key = some rec :=
    evictRecords_of_locked hrec hrunning
  by_cases hkey : key = []
  · simp only [recordFailureKey, hkey, if_true, true_or, iff_true]
    rw [hkey] at hspared
    exact ⟨rec, hspared, le_rfl⟩
  · have hremaining : rec.lockedUntil - now ≤ rateLimitMaxLockout := by
      have hle := hlocked key rec hrec
      omega
    rw [recordFailureKey_self hkey, hspared, Option.getD_some]
    simp only [Option.some.injEq, exists_eq_left', hkey, false_or]
    rw [lockedUntil_le_addFailure_iff, le_lockout_iff_outlasts conversion hbounded hremaining,
      hbounded.window_eq]

/-- A call keeps the locks of its keys exactly when they are covered. -/
theorem keepsLock_iff_covered (conversion : FloatConversion) {rl : RateLimiter} {clock : Int}
    {call : Call} (hbounded : LocksBounded clock rl) (hclock : clock ≤ call.time?.getD clock) :
    KeepsLock conversion rl call ↔ Covered conversion rl call := by
  cases call with
  | check username ip now => exact Iff.rfl
  | recordFailure username ip now =>
      have hnow : LocksBounded now rl := hbounded.mono hclock
      have hevicted : LocksBounded now (RateLimiter.evictExpired rl now) := hnow.evictExpired now
      exact and_congr (keyKept_iff_keyCovered conversion hevicted hnow.users_locked username)
        (keyKept_iff_keyCovered conversion hevicted hnow.ips_locked ip)
  | recordSuccess username => exact Iff.rfl

/-! ## Histories -/

/-- Every call of a history, made in the state the calls before it have left, satisfies `property`. -/
def EveryCall (conversion : FloatConversion) (property : RateLimiter → Call → Prop)
    (calls : List Call) : Prop :=
  ∀ earlier call later, calls = earlier ++ call :: later →
    property (finalState (answer conversion) newRateLimiter earlier) call

/-- The invariant at every point of an ordered history. -/
theorem locksBounded_finalState (conversion : FloatConversion) {earlier rest : List Call}
    (hordered : OrderedFrom zeroTime (earlier ++ rest)) :
    ∃ clock, OrderedFrom clock rest ∧
      LocksBounded clock (finalState (answer conversion) newRateLimiter earlier) := by
  have hinv : ∃ clock, zeroTime ≤ clock ∧ OrderedFrom clock rest ∧
      LocksBounded clock (finalState (answer conversion) newRateLimiter earlier) := by
    refine finalState_invariant
      (fun rest rl => ∃ clock, zeroTime ≤ clock ∧ OrderedFrom clock rest ∧ LocksBounded clock rl)
      ?_ rest ⟨zeroTime, le_rfl, hordered, newRateLimiter_locksBounded zeroTime⟩
    rintro call later rl ⟨clock, hzero, hcalls, hbounded⟩
    obtain ⟨hclock, hlater⟩ := hcalls.tail
    exact ⟨_, hzero.trans hclock, hlater, locksBounded_answer hbounded hzero hclock⟩
  obtain ⟨clock, -, hrest, hbounded⟩ := hinv
  exact ⟨clock, hrest, hbounded⟩

/-- In a history of a new limiter no failure ever shortens a running lockout if and only if every failure
on a locked key is covered. -/
theorem keepsLocks_iff (conversion : FloatConversion) (calls : List Call)
    (hordered : OrderedFrom zeroTime calls) :
    EveryCall conversion (KeepsLock conversion) calls ↔
      EveryCall conversion (Covered conversion) calls := by
  have hcall : ∀ earlier call later, calls = earlier ++ call :: later →
      (KeepsLock conversion (finalState (answer conversion) newRateLimiter earlier) call ↔
        Covered conversion (finalState (answer conversion) newRateLimiter earlier) call) := by
    rintro earlier call later rfl
    obtain ⟨clock, hrest, hbounded⟩ := locksBounded_finalState conversion hordered
    exact keepsLock_iff_covered conversion hbounded hrest.tail.1
  constructor
  · intro hkeeps earlier call later hcalls
    exact (hcall earlier call later hcalls).mp (hkeeps earlier call later hcalls)
  · intro hcovered earlier call later hcalls
    exact (hcall earlier call later hcalls).mpr (hcovered earlier call later hcalls)

/-- Nine failures of the passkey endpoint from one address, four at midnight of January 1, 2024 and five
fourteen minutes later, and a tenth two minutes after these.  `FinishPasskeyLogin` records them without
asking `Check` first. -/
def passkeyFailures : List Call :=
  let midnight := 63839664000 * second
  let fail (t : Int) : Call := .recordFailure (str "passkey_login") (str "203.0.113.7") t
  List.replicate 4 (fail midnight) ++ List.replicate 5 (fail (midnight + 14 * minute)) ++
    [fail (midnight + 16 * minute)]

theorem passkeyFailures_ordered : OrderedFrom zeroTime passkeyFailures := by decide

theorem keepsLocks_iff_passkeyFailures :
    OrderedFrom zeroTime passkeyFailures ∧
      (EveryCall .amd64 (KeepsLock .amd64) passkeyFailures ↔
        EveryCall .amd64 (Covered .amd64) passkeyFailures) :=
  ⟨passkeyFailures_ordered, keepsLocks_iff .amd64 passkeyFailures passkeyFailures_ordered⟩

/-- The lock of the key `passkey_login` after the first `count` of these calls. -/
def passkeyLock (count : Nat) : Option Int :=
  ((finalState (answer .amd64) newRateLimiter (passkeyFailures.take count)).userRecords
    (str "passkey_login")).map AttemptRecord.lockedUntil

/-- The tenth failure, at sixteen minutes past midnight, finds the key locked until twenty-nine minutes
past and leaves it locked until eighteen minutes past. -/
theorem recordFailure_shortens_lockout :
    OrderedFrom zeroTime passkeyFailures ∧
      passkeyLock 9 = some (63839664000 * second + 29 * minute) ∧
      passkeyLock 10 = some (63839664000 * second + 18 * minute) ∧
      ¬ EveryCall .amd64 (KeepsLock .amd64) passkeyFailures := by
  have hbefore : (finalState (answer .amd64) newRateLimiter (passkeyFailures.take 9)).userRecords
      (str "passkey_login") = some ⟨List.replicate 4 (63839664000 * second) ++
        List.replicate 5 (63839664000 * second + 14 * minute), 63839664000 * second + 29 * minute⟩ := by
    decide +kernel
  have hafter : passkeyLock 10 = some (63839664000 * second + 18 * minute) := by
    decide +kernel
  refine ⟨passkeyFailures_ordered, by decide +kernel, hafter, ?_⟩
  intro hkeeps
  obtain ⟨huser, -⟩ := hkeeps (passkeyFailures.take 9)
    (.recordFailure (str "passkey_login") (str "203.0.113.7") (63839664000 * second + 16 * minute)) []
    (by decide)
  obtain ⟨rec', hrec', hle⟩ := huser _ hbefore (by decide)
  have hlock : passkeyLock 10 = some rec'.lockedUntil := congrArg (Option.map _) hrec'
  rw [hafter] at hlock
  have hshort : 63839664000 * second + 18 * minute = rec'.lockedUntil := Option.some.inj hlock
  have hlong : 63839664000 * second + 29 * minute ≤ rec'.lockedUntil := hle
  simp only [minute, second] at hshort hlong
  omega

end RateLimiter
end Auth
end Dmanager
