import Dmanager.Go.Strings
import Dmanager.Go.Time
import Dmanager.Lib.TransitionSystem

/-!
# The login rate limiter

`RateLimiter` keeps, for every username and for every client IP, the times of the recent failures and the
instant until which the key is locked.  `Check`, `RecordFailure` and `RecordSuccess` each run under the
limiter's mutex, so a history of the limiter is a list of calls (`Call`) and their answers.

* `recordFailureKey` drops the failures outside the sliding window, adds the new one, and from the
  `threshold`-th on sets `lockedUntil` to `now + lockout`, the lockout doubling with every further failure
  up to `maxLockout`.
* `evictExpired` runs at the start of `Check` and `RecordFailure` and drops the records that are neither
  locked nor have a failure in the window.  The two callers take it as a parameter (`checkWith`,
  `recordFailureWith`), because `Dmanager.Auth.RateLimiterEviction` compares them with a limiter that
  never evicts.

A Go map from keys to records is a function to `Option`; the order in which Go iterates over it does not
matter here, since `evictExpired` looks at each record alone.
-/

namespace Dmanager
namespace Auth

open Go

/-- `time.Duration(x)` for a `float64` whose value is the integer `x`: exact within `int64`, and outside
of it whatever the implementation yields. -/
structure FloatConversion where
  toInt64 : Int → Int
  exact_of_range : ∀ x, -2 ^ 63 ≤ x → x < 2 ^ 63 → toInt64 x = x
  range : ∀ x, -2 ^ 63 ≤ toInt64 x ∧ toInt64 x < 2 ^ 63

/-- The conversion of amd64, which answers `-2^63` for every value out of range. -/
def FloatConversion.amd64 : FloatConversion where
  toInt64 x := if -2 ^ 63 ≤ x ∧ x < 2 ^ 63 then x else -2 ^ 63
  exact_of_range := by
    intro x hlow hhigh
    exact if_pos ⟨hlow, hhigh⟩
  range := by
    intro x
    split
    · assumption
    · constructor <;> norm_num

/-- `attemptRecord`. -/
structure AttemptRecord where
  failures : List Int
  lockedUntil : Int
  deriving DecidableEq, Repr

/-- `&attemptRecord{}`. -/
def AttemptRecord.zero : AttemptRecord := ⟨[], zeroTime⟩

/-- `map[string]*attemptRecord`. -/
abbrev Records := GoString → Option AttemptRecord

/-- `RateLimiter`; the field `trustedProxy` is left out, nothing here reads it. -/
structure RateLimiter where
  userRecords : Records
  ipRecords : Records
  window : Int
  threshold : Nat
  maxLockout : Int
  baseLockout : Int

def rateLimitWindow : Int := 15 * minute

def rateLimitThreshold : Nat := 5

def rateLimitMaxLockout : Int := 15 * minute

def rateLimitBaseLockout : Int := 1 * minute

/-- `NewRateLimiter`. -/
def newRateLimiter : RateLimiter where
  userRecords := fun _ => none
  ipRecords := fun _ => none
  window := rateLimitWindow
  threshold := rateLimitThreshold
  maxLockout := rateLimitMaxLockout
  baseLockout := rateLimitBaseLockout

namespace RateLimiter

/-- The failures of a record that are still inside the window at `now`. -/
def recent (window now : Int) (rec : AttemptRecord) : List Int :=
  rec.failures.filter fun t => after t (now + -window)

/-- The backoff after `count` failures in the window: `math.Pow(2, step)` times the base, in `float64`,
converted to a duration and capped. -/
def lockout (conversion : FloatConversion) (rl : RateLimiter) (count : Nat) : Int :=
  let lockoutDuration := conversion.toInt64 (rl.baseLockout * 2 ^ (count - rl.threshold))
  if rl.maxLockout < lockoutDuration then rl.maxLockout else lockoutDuration

/-- `evictExpired`, on one of the two maps. -/
def evictRecords (window now : Int) (records : Records) : Records := fun key =>
  match records key with
  | none => none
  | some rec =>
      if after now rec.lockedUntil && !rec.failures.any (fun t => after t (now + -window)) then none
      else some rec

/-- `evictExpired`. -/
def evictExpired (rl : RateLimiter) (now : Int) : RateLimiter :=
  { rl with
    userRecords := evictRecords rl.window now rl.userRecords
    ipRecords := evictRecords rl.window now rl.ipRecords }

/-- `checkKey`. -/
def checkKey (records : Records) (key : GoString) (now : Int) : Int :=
  if key = [] then 0
  else
    match records key with
    | none => 0
    | some rec => if before now rec.lockedUntil then rec.lockedUntil - now else 0

/-- The record after one more failure, and the lockout it resulted in. -/
def addFailure (conversion : FloatConversion) (rl : RateLimiter) (rec : AttemptRecord) (now : Int) :
    AttemptRecord × Int :=
  let failures := recent rl.window now rec ++ [now]
  if rl.threshold ≤ failures.length then
    let lockoutDuration := lockout conversion rl failures.length
    (⟨failures, now + lockoutDuration⟩, lockoutDuration)
  else
    (⟨failures, rec.lockedUntil⟩, 0)

/-- `recordFailureKey`. -/
def recordFailureKey (conversion : FloatConversion) (rl : RateLimiter) (records : Records)
    (key : GoString) (now : Int) : Records × Int :=
  if key = [] then (records, 0)
  else
    let result := addFailure conversion rl ((records key).getD AttemptRecord.zero) now
    (Function.update records key (some result.1), result.2)

/-- `Check`, with its eviction step as a parameter. -/
def checkWith (evict : RateLimiter → Int → RateLimiter) (rl : RateLimiter) (username ip : GoString)
    (now : Int) : RateLimiter × (Bool × Int) :=
  let rl := evict rl now
  let userWait := checkKey rl.userRecords username now
  let ipWait := checkKey rl.ipRecords ip now
  let maxWait := if userWait < ipWait then ipWait else userWait
  (rl, if 0 < maxWait then (true, maxWait) else (false, 0))

/-- `RecordFailure`, with its eviction step as a parameter. -/
def recordFailureWith (evict : RateLimiter → Int → RateLimiter) (conversion : FloatConversion)
    (rl : RateLimiter) (username ip : GoString) (now : Int) : RateLimiter × Int :=
  let rl := evict rl now
  let user := recordFailureKey conversion rl rl.userRecords username now
  let client := recordFailureKey conversion rl rl.ipRecords ip now
  ({ rl with userRecords := user.1, ipRecords := client.1 },
    if user.2 < client.2 then client.2 else user.2)

/-- `Check`. -/
def check : RateLimiter → GoString → GoString → Int → RateLimiter × (Bool × Int) :=
  checkWith evictExpired

/-- `RecordFailure`. -/
def recordFailure : FloatConversion → RateLimiter → GoString → GoString → Int → RateLimiter × Int :=
  recordFailureWith evictExpired

/-- `RecordSuccess`. -/
def recordSuccess (rl : RateLimiter) (username : GoString) : RateLimiter :=
  { rl with userRecords := Function.update rl.userRecords username none }

/-- A call of the limiter. -/
inductive Call where
  | check (username ip : GoString) (now : Int)
  | recordFailure (username ip : GoString) (now : Int)
  | recordSuccess (username : GoString)
  deriving DecidableEq, Repr

/-- What a call returns. -/
inductive Answer where
  | checked (locked : Bool) (retryAfter : Int)
  | recorded (retryAfter : Int)
  | unit
  deriving DecidableEq, Repr

/-- One call on a limiter with the given eviction step. -/
def answerWith (evict : RateLimiter → Int → RateLimiter) (conversion : FloatConversion)
    (rl : RateLimiter) : Call → RateLimiter × Answer
  | .check username ip now =>
      let result := checkWith evict rl username ip now
      (result.1, .checked result.2.1 result.2.2)
  | .recordFailure username ip now =>
      let result := recordFailureWith evict conversion rl username ip now
      (result.1, .recorded result.2)
  | .recordSuccess username => (recordSuccess rl username, .unit)

/-- One call on the limiter of the source. -/
def answer : FloatConversion → RateLimiter → Call → RateLimiter × Answer :=
  answerWith evictExpired

/-- The time a call carries. -/
def Call.time? : Call → Option Int
  | .check _ _ now => some now
  | .recordFailure _ _ now => some now
  | .recordSuccess _ => none

/-- The calls carry non-decreasing times, none of them before `clock`.  Every caller passes `time.Now()`,
so a history of the program is ordered from `zeroTime`. -/
def OrderedFrom (clock : Int) (calls : List Call) : Prop :=
  (clock :: calls.filterMap Call.time?).IsChain (· ≤ ·)

instance (clock : Int) (calls : List Call) : Decidable (OrderedFrom clock calls) :=
  inferInstanceAs (Decidable (List.IsChain _ _))

/-- The clock after a call of an ordered history: the time the call carries, if it carries one. -/
theorem OrderedFrom.tail {clock : Int} {call : Call} {rest : List Call}
    (hordered : OrderedFrom clock (call :: rest)) :
    clock ≤ call.time?.getD clock ∧ OrderedFrom (call.time?.getD clock) rest := by
  unfold OrderedFrom at hordered ⊢
  cases htime : call.time? with
  | none =>
      rw [List.filterMap_cons_none htime] at hordered
      exact ⟨le_rfl, hordered⟩
  | some now =>
      rw [List.filterMap_cons_some htime, List.isChain_cons_cons] at hordered
      exact hordered

/-! ## What the operations do to a record -/

/-- A record that is still locked is never evicted. -/
theorem evictRecords_of_locked {window now : Int} {records : Records} {key : GoString}
    {rec : AttemptRecord} (hrec : records key = some rec) (hlocked : now < rec.lockedUntil) :
    evictRecords window now records key = some rec := by
  have hnotAfter : after now rec.lockedUntil = false := (after_eq_false_iff _ _).mpr hlocked.le
  simp [evictRecords, hrec, hnotAfter]

/-- Eviction changes no record it keeps. -/
theorem eq_some_of_evictRecords {window now : Int} {records : Records} {key : GoString}
    {rec : AttemptRecord} (hkept : evictRecords window now records key = some rec) :
    records key = some rec := by
  unfold evictRecords at hkept
  split at hkept
  · cases hkept
  · rename_i old hold
    split at hkept
    · cases hkept
    · exact hold.trans hkept

theorem recordFailureKey_self {conversion : FloatConversion} {rl : RateLimiter} {records : Records}
    {key : GoString} {now : Int} (hkey : key ≠ []) :
    (recordFailureKey conversion rl records key now).1 key =
      some (addFailure conversion rl ((records key).getD AttemptRecord.zero) now).1 := by
  simp [recordFailureKey, hkey]

/-- The lock of a key after one more failure. -/
theorem addFailure_lockedUntil (conversion : FloatConversion) (rl : RateLimiter) (rec : AttemptRecord)
    (now : Int) :
    (addFailure conversion rl rec now).1.lockedUntil =
      if rl.threshold ≤ (recent rl.window now rec).length + 1 then
        now + lockout conversion rl ((recent rl.window now rec).length + 1)
      else rec.lockedUntil := by
  simp only [addFailure, List.length_append, List.length_singleton]
  split <;> rfl

/-! ## Locked keys -/

/-- The username is locked. -/
def UserLocked (rl : RateLimiter) (username : GoString) (now : Int) : Prop :=
  0 < checkKey rl.userRecords username now

/-- The address is locked. -/
def IPLocked (rl : RateLimiter) (ip : GoString) (now : Int) : Prop := 0 < checkKey rl.ipRecords ip now

section Locked

variable {rl : RateLimiter} {records : Records} {window now : Int} {username clientIP key : GoString}

/-- Eviction drops no record that is locked. -/
theorem checkKey_evictRecords : checkKey (evictRecords window now records) key now = checkKey records key now := by
  unfold checkKey
  cases hrec : records key with
  | none => simp [evictRecords, hrec]
  | some rec =>
      by_cases hlocked : now < rec.lockedUntil
      · rw [evictRecords_of_locked hrec hlocked]
      · have hnotBefore : before now rec.lockedUntil = false := (before_eq_false_iff _ _).mpr (not_lt.mp hlocked)
        cases hkept : evictRecords window now records key with
        | none => simp [hnotBefore]
        | some rec' =>
            have hsame : records key = some rec' := eq_some_of_evictRecords hkept
            rw [hrec, Option.some.injEq] at hsame
            rw [hsame]

/-- What `Check` answers, in terms of the records before the eviction. -/
theorem check_eq :
    (rl.check username clientIP now).2 =
      if 0 < max (checkKey rl.userRecords username now) (checkKey rl.ipRecords clientIP now) then
        (true, max (checkKey rl.userRecords username now) (checkKey rl.ipRecords clientIP now))
      else (false, 0) := by
  simp only [check, checkWith, evictExpired, checkKey_evictRecords, max_def_lt]

theorem check_locked_iff :
    (rl.check username clientIP now).2.1 = true ↔ rl.UserLocked username now ∨ rl.IPLocked clientIP now := by
  unfold UserLocked IPLocked
  rw [check_eq, ← lt_max_iff]
  split
  · simp_all
  · simp_all

theorem check_of_unlocked (hunlocked : (rl.check username clientIP now).2.1 = false) :
    (rl.check username clientIP now).2 = (false, 0) := by
  rw [check_eq] at hunlocked ⊢
  split at hunlocked
  · cases hunlocked
  · rename_i hwait
    rw [if_neg hwait]

end Locked

end RateLimiter

end Auth
end Dmanager
