import Dmanager.Auth.RateLimiterLockout

/-!
# The length of a lockout

From the `threshold`-th failure in the window on, `recordFailureKey` locks the key for
`baseLockout * 2 ^ (n - threshold)`, capped at `maxLockout`.  The product is a `float64`, and the cap comes after
its conversion to a duration.  `FinishPasskeyLogin` records failures without asking `Check` first, so `n` has no
bound, and with thirty-three failures the product leaves the range of a duration.

* `LocksOut` — the key is locked for the capped backoff, and `Check` reports it.
* `locksOut_iff` — this holds as long as the product fits, and beyond that exactly when the conversion happens to
  yield at least `maxLockout`.
* `recordFailureKey_backoff_iff` — hence thirty-two failures are the last count for which it holds whatever the
  conversion yields, and the last one on amd64.
* `recordFailureKey_unlocks` — the thirty-third failure on amd64 sets the lock to a time 292 years ago.
-/

namespace Dmanager
namespace Auth
namespace RateLimiter

open Go Lib

/-- Which of the two maps a key belongs to. -/
inductive KeyKind where
  | username
  | ip
  deriving DecidableEq, Repr

def recordsOf (rl : RateLimiter) : KeyKind → Records
  | .username => rl.userRecords
  | .ip => rl.ipRecords

def setRecords (rl : RateLimiter) (records : Records) : KeyKind → RateLimiter
  | .username => { rl with userRecords := records }
  | .ip => { rl with ipRecords := records }

/-- `Check` for a key; `other` is what it is asked for the other map. -/
def checkOf (rl : RateLimiter) (kind : KeyKind) (key other : GoString) (now : Int) : Bool × Int :=
  match kind with
  | .username => (rl.check key other now).2
  | .ip => (rl.check other key now).2

/-- The failures of a key inside the window, with the one that is recorded at `now`. -/
def failureCount (rl : RateLimiter) (kind : KeyKind) (key : GoString) (now : Int) : Nat :=
  (recent rl.window now ((rl.recordsOf kind key).getD AttemptRecord.zero)).length + 1

/-- The lockout that `count` failures stand for. -/
def backoff (rl : RateLimiter) (count : Nat) : Int :=
  min (rl.baseLockout * 2 ^ (count - rl.threshold)) rl.maxLockout

/-- One more failure returns and applies the lockout that the count stands for, and `Check` reports the key
locked. -/
structure LocksOut (conversion : FloatConversion) (rl : RateLimiter) (kind : KeyKind) (key : GoString)
    (now : Int) : Prop where
  returned : (recordFailureKey conversion rl (rl.recordsOf kind) key now).2 =
    rl.backoff (rl.failureCount kind key now)
  applied : ((recordFailureKey conversion rl (rl.recordsOf kind) key now).1 key).map AttemptRecord.lockedUntil =
    some (now + rl.backoff (rl.failureCount kind key now))
  base_le : rl.baseLockout ≤ rl.backoff (rl.failureCount kind key now)
  le_max : rl.backoff (rl.failureCount kind key now) ≤ rl.maxLockout
  locked : ∀ other,
    (checkOf (rl.setRecords (recordFailureKey conversion rl (rl.recordsOf kind) key now).1 kind) kind key other
      now).1 = true

/-! ## The limiter of the program -/

/-- The constants of `NewRateLimiter`, and no record of the empty key. -/
structure Configured (rl : RateLimiter) : Prop where
  window_eq : rl.window = rateLimitWindow
  threshold_eq : rl.threshold = rateLimitThreshold
  maxLockout_eq : rl.maxLockout = rateLimitMaxLockout
  baseLockout_eq : rl.baseLockout = rateLimitBaseLockout
  recordsOf_nil : ∀ kind, rl.recordsOf kind [] = none

theorem newRateLimiter_configured : Configured newRateLimiter where
  window_eq := rfl
  threshold_eq := rfl
  maxLockout_eq := rfl
  baseLockout_eq := rfl
  recordsOf_nil kind := by cases kind <;> rfl

theorem evictRecords_eq_none {window now : Int} {records : Records} {key : GoString}
    (hnone : records key = none) : evictRecords window now records key = none := by
  simp [evictRecords, hnone]

theorem Configured.evictExpired {rl : RateLimiter} (hrl : Configured rl) (now : Int) :
    Configured (RateLimiter.evictExpired rl now) where
  window_eq := hrl.window_eq
  threshold_eq := hrl.threshold_eq
  maxLockout_eq := hrl.maxLockout_eq
  baseLockout_eq := hrl.baseLockout_eq
  recordsOf_nil kind := by
    cases kind with
    | username => exact evictRecords_eq_none (hrl.recordsOf_nil .username)
    | ip => exact evictRecords_eq_none (hrl.recordsOf_nil .ip)

/-- Another key's failure, or one of the empty key, leaves the empty key without a record. -/
theorem recordFailureKey_nil {conversion : FloatConversion} {rl : RateLimiter} {records : Records}
    (hnone : records [] = none) (key : GoString) (now : Int) :
    (recordFailureKey conversion rl records key now).1 [] = none := by
  unfold recordFailureKey
  split
  · exact hnone
  · rename_i hkey
    exact (Function.update_of_ne (Ne.symm hkey) _ records).trans hnone

theorem configured_answer {conversion : FloatConversion} {rl : RateLimiter} (hrl : Configured rl) (call : Call) :
    Configured (answer conversion rl call).1 := by
  cases call with
  | check username ip now => exact hrl.evictExpired now
  | recordFailure username ip now =>
      have hevicted := hrl.evictExpired now
      refine ⟨hevicted.window_eq, hevicted.threshold_eq, hevicted.maxLockout_eq, hevicted.baseLockout_eq, ?_⟩
      intro kind
      cases kind with
      | username => exact recordFailureKey_nil (hevicted.recordsOf_nil .username) username now
      | ip => exact recordFailureKey_nil (hevicted.recordsOf_nil .ip) ip now
  | recordSuccess username =>
      refine ⟨hrl.window_eq, hrl.threshold_eq, hrl.maxLockout_eq, hrl.baseLockout_eq, ?_⟩
      intro kind
      cases kind with
      | username =>
          by_cases hkey : [] = username
          · simp [answer, answerWith, recordSuccess, recordsOf, ← hkey]
          · simpa [answer, answerWith, recordSuccess, recordsOf, hkey] using hrl.recordsOf_nil .username
      | ip => exact hrl.recordsOf_nil .ip

/-- The limiter that the program holds after any calls. -/
theorem configured_finalState (conversion : FloatConversion) (calls : List Call) :
    Configured (finalState (answer conversion) newRateLimiter calls) :=
  finalState_invariant (fun _ rl => Configured rl) (fun call _ _ hrl => configured_answer hrl call) []
    newRateLimiter_configured

/-! ## One failure -/

/-- A key that reaches the threshold is not the empty one. -/
theorem Configured.key_ne_nil {rl : RateLimiter} (hrl : Configured rl) {kind : KeyKind} {key : GoString}
    {now : Int} (hcount : rateLimitThreshold ≤ rl.failureCount kind key now) : key ≠ [] := by
  rintro rfl
  rw [failureCount, hrl.recordsOf_nil kind] at hcount
  have hone : rateLimitThreshold ≤ 1 := hcount
  exact absurd hone (by decide)

/-- From the threshold on, a failure returns the lockout and applies it. -/
theorem recordFailureKey_lockout (conversion : FloatConversion) {rl : RateLimiter} {kind : KeyKind}
    {key : GoString} {now : Int} (hkey : key ≠ []) (hcount : rl.threshold ≤ rl.failureCount kind key now) :
    (recordFailureKey conversion rl (rl.recordsOf kind) key now).2 =
        lockout conversion rl (rl.failureCount kind key now) ∧
      ((recordFailureKey conversion rl (rl.recordsOf kind) key now).1 key).map AttemptRecord.lockedUntil =
        some (now + lockout conversion rl (rl.failureCount kind key now)) := by
  have hfailures : (recent rl.window now ((rl.recordsOf kind key).getD AttemptRecord.zero) ++ [now]).length =
      rl.failureCount kind key now := by
    simp [failureCount]
  constructor
  · simp only [recordFailureKey, hkey, if_false, addFailure, hfailures, hcount, if_true]
  · rw [recordFailureKey_self hkey, Option.map_some, addFailure_lockedUntil]
    exact congrArg some (if_pos hcount)

/-- A key that is locked for another `wait` is reported by `Check`. -/
theorem checkOf_locked {rl : RateLimiter} {kind : KeyKind} {key : GoString} {now wait : Int} {rec : AttemptRecord}
    (hkey : key ≠ []) (hrec : rl.recordsOf kind key = some rec) (hlocked : rec.lockedUntil = now + wait)
    (hwait : 0 < wait) (other : GoString) : (checkOf rl kind key other now).1 = true := by
  have hrunning : now < rec.lockedUntil := by omega
  have hcheck : 0 < checkKey (rl.recordsOf kind) key now := by simp [checkKey, hkey, hrec, hrunning]
  cases kind with
  | username => exact check_locked_iff.mpr (Or.inl hcheck)
  | ip => exact check_locked_iff.mpr (Or.inr hcheck)

/-- A key is locked out exactly when the lockout that is computed is the one the count stands for. -/
theorem locksOut_iff_lockout_eq (conversion : FloatConversion) {rl : RateLimiter} (hrl : Configured rl)
    {kind : KeyKind} {key : GoString} {now : Int}
    (hcount : rateLimitThreshold ≤ rl.failureCount kind key now) :
    LocksOut conversion rl kind key now ↔
      lockout conversion rl (rl.failureCount kind key now) = rl.backoff (rl.failureCount kind key now) := by
  have hkey := hrl.key_ne_nil hcount
  obtain ⟨hreturned, happlied⟩ := recordFailureKey_lockout conversion hkey (hrl.threshold_eq ▸ hcount)
  constructor
  · intro hlocks
    rw [← hreturned, hlocks.returned]
  · intro heq
    have hbase : rl.baseLockout ≤ rl.backoff (rl.failureCount kind key now) := by
      have hpositive : (0 : Int) < 2 ^ (rl.failureCount kind key now - rl.threshold) := by positivity
      simp only [backoff, hrl.baseLockout_eq, hrl.maxLockout_eq, rateLimitBaseLockout, rateLimitMaxLockout, minute,
        second]
      omega
    rw [heq] at hreturned happlied
    refine ⟨hreturned, happlied, hbase, min_le_right _ _, ?_⟩
    obtain ⟨rec, hrec, hlocked⟩ := Option.map_eq_some_iff.mp happlied
    have hset : (rl.setRecords (recordFailureKey conversion rl (rl.recordsOf kind) key now).1 kind).recordsOf kind
        key = some rec := by
      cases kind <;> exact hrec
    apply checkOf_locked hkey hset hlocked
    -- the lockout is at least a minute, so it is not over at once
    have hpositive : 0 < rl.baseLockout := by
      rw [hrl.baseLockout_eq]
      decide
    omega

/-- The product fits into a duration up to thirty-two failures. -/
theorem lockout_eq_backoff_iff (conversion : FloatConversion) {rl : RateLimiter} (hrl : Configured rl)
    (count : Nat) :
    lockout conversion rl count = rl.backoff count ↔
      count ≤ 32 ∨ rl.maxLockout ≤ conversion.toInt64 (rl.baseLockout * 2 ^ (count - rl.threshold)) := by
  have hbase : rl.baseLockout = minute := by rw [hrl.baseLockout_eq]; rfl
  have hmax : rl.maxLockout = 15 * minute := by rw [hrl.maxLockout_eq]; rfl
  have hthreshold : rl.threshold = 5 := hrl.threshold_eq
  simp only [lockout, backoff, hbase, hmax, hthreshold]
  rcases Nat.lt_or_ge 32 count with hlarge | hsmall
  · -- the product is far above the cap, so it depends on what the conversion makes of it
    have hpow : (2 : Int) ^ 28 ≤ 2 ^ (count - 5) := pow_le_pow_right₀ (by norm_num) (by omega)
    have hcap : min (minute * 2 ^ (count - 5)) (15 * minute) = 15 * minute := by
      apply min_eq_right
      simp only [minute, second]
      omega
    rw [hcap]
    split <;> omega
  · rw [toInt64_backoff conversion hsmall]
    split <;> omega

/-- A key with enough failures is locked out as documented as long as the product fits, or the conversion of a
larger one happens to reach the cap. -/
theorem locksOut_iff (conversion : FloatConversion) {rl : RateLimiter} (hrl : Configured rl) {kind : KeyKind}
    {key : GoString} {now : Int} (hcount : rateLimitThreshold ≤ rl.failureCount kind key now) :
    LocksOut conversion rl kind key now ↔
      rl.failureCount kind key now ≤ 32 ∨ rl.maxLockout ≤
        conversion.toInt64 (rl.baseLockout * 2 ^ (rl.failureCount kind key now - rl.threshold)) :=
  (locksOut_iff_lockout_eq conversion hrl hcount).trans (lockout_eq_backoff_iff conversion hrl _)

/-- The conversion of amd64 never reaches the cap with a product out of range. -/
theorem amd64_backoff_lt {rl : RateLimiter} (hrl : Configured rl) {count : Nat} (hcount : 32 < count) :
    FloatConversion.amd64.toInt64 (rl.baseLockout * 2 ^ (count - rl.threshold)) < rl.maxLockout := by
  have hbase : rl.baseLockout = minute := by rw [hrl.baseLockout_eq]; rfl
  have hthreshold : rl.threshold = 5 := hrl.threshold_eq
  have hpow : (2 : Int) ^ 28 ≤ 2 ^ (count - 5) := pow_le_pow_right₀ (by norm_num) (by omega)
  have hout : ¬ (-2 ^ 63 ≤ minute * (2 : Int) ^ (count - 5) ∧ minute * (2 : Int) ^ (count - 5) < 2 ^ 63) := by
    simp only [minute, second]
    omega
  rw [hbase, hthreshold, hrl.maxLockout_eq]
  simp only [FloatConversion.amd64, if_neg hout]
  decide

/-- After any calls, a key with at least five failures in the window is locked out as documented exactly up to
thirty-two failures: on amd64, and whatever the conversion yields out of range. -/
theorem recordFailureKey_backoff_iff (calls : List Call) (before : FloatConversion) (kind : KeyKind)
    (key : GoString) (now : Int)
    (hcount : rateLimitThreshold ≤
      (finalState (answer before) newRateLimiter calls).failureCount kind key now) :
    let rl := finalState (answer before) newRateLimiter calls
    ((∀ conversion, LocksOut conversion rl kind key now) ↔ rl.failureCount kind key now ≤ 32) ∧
      (LocksOut .amd64 rl kind key now ↔ rl.failureCount kind key now ≤ 32) ∧
      ∀ conversion, LocksOut conversion rl kind key now ↔
        rl.failureCount kind key now ≤ 32 ∨
          rl.maxLockout ≤ conversion.toInt64 (rl.baseLockout * 2 ^ (rl.failureCount kind key now - rl.threshold)) := by
  intro rl
  have hrl : Configured rl := configured_finalState before calls
  have hiff := fun conversion => locksOut_iff conversion hrl hcount
  have hamd64 : LocksOut .amd64 rl kind key now ↔ rl.failureCount kind key now ≤ 32 := by
    rw [hiff .amd64, or_iff_left_iff_imp]
    intro hcap
    by_contra hlarge
    exact absurd (amd64_backoff_lt hrl (not_le.mp hlarge)) (not_lt.mpr hcap)
  refine ⟨⟨fun hall => hamd64.mp (hall .amd64), fun hsmall conversion => ?_⟩, hamd64, hiff⟩
  exact (hiff conversion).mpr (Or.inl hsmall)

/-- Thirty-two failures of the passkey endpoint from one address, at midnight of January 1, 2024. -/
def passkeyFlood : List Call :=
  List.replicate 32 (.recordFailure (str "passkey_login") (str "203.0.113.7") (63839664000 * second))

theorem recordFailureKey_backoff_iff_passkeyFlood :
    let rl := finalState (answer .amd64) newRateLimiter passkeyFlood
    ((∀ conversion, LocksOut conversion rl .username (str "passkey_login") (63839664000 * second)) ↔
        rl.failureCount .username (str "passkey_login") (63839664000 * second) ≤ 32) :=
  (recordFailureKey_backoff_iff passkeyFlood .amd64 .username (str "passkey_login") (63839664000 * second)
    (by decide +kernel)).1

/-- With one more failure in the same second, the lockout that is returned and applied is `-2^63` nanoseconds on
amd64, and `Check` lets the key through. -/
theorem recordFailureKey_unlocks :
    let rl := finalState (answer .amd64) newRateLimiter passkeyFlood
    let next := recordFailureKey .amd64 rl rl.userRecords (str "passkey_login") (63839664000 * second)
    rateLimitThreshold ≤ rl.failureCount .username (str "passkey_login") (63839664000 * second) ∧
      next.2 = -2 ^ 63 ∧
      (checkOf (rl.setRecords next.1 .username) .username (str "passkey_login") []
        (63839664000 * second)).1 = false ∧
      ¬ LocksOut .amd64 rl .username (str "passkey_login") (63839664000 * second) := by
  intro rl next
  have hcount : rateLimitThreshold ≤ rl.failureCount .username (str "passkey_login") (63839664000 * second) := by
    decide +kernel
  have hlockout : next.2 = -2 ^ 63 := by decide +kernel
  have hopen : (checkOf (rl.setRecords next.1 .username) .username (str "passkey_login") []
      (63839664000 * second)).1 = false := by decide +kernel
  refine ⟨hcount, hlockout, hopen, fun hlocks => ?_⟩
  have hboth : true = false := (hlocks.locked []).symm.trans hopen
  cases hboth

end RateLimiter
end Auth
end Dmanager
