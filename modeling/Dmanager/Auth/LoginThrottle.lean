import Dmanager.Auth.Handlers

/-!
# How many passwords can be tried before the lockout

`Login` asks the limiter whether the username is locked, looks the user up, compares the password with the
stored hash (or with a dummy one), and records the failure.  `Check` and `RecordFailure` are two calls, and
requests that have passed the first one are not counted until they make the second one.

`comparisons_le_threshold` is the condition under which at most five passwords are tried within a minute:
whenever a request is checked before the fifth failure is recorded, fewer than five requests have recorded a
failure or are still between their check and their end.

`parallel_logins_exceed` is a run in which six requests are checked before the first failure is recorded.
-/

namespace Dmanager
namespace Auth

open Go Db Lib Server
open Handlers (LoginRequest LoginResponse rejectPassword completeLogin login)

/-! ## What the limiter remembers of the failures -/

namespace RateLimiter

/-- The limiter has the failures of a username at these instants, the latest one first, and locks it for a
minute from one of them when there are five. -/
structure CountsFailures (rl : RateLimiter) (username : GoString) (times : List Int) : Prop where
  window_eq : rl.window = rateLimitWindow
  threshold_eq : rl.threshold = rateLimitThreshold
  maxLockout_eq : rl.maxLockout = rateLimitMaxLockout
  baseLockout_eq : rl.baseLockout = rateLimitBaseLockout
  none_of_nil : times = [] → rl.userRecords username = none
  record : times ≠ [] → ∃ rec, rl.userRecords username = some rec ∧ rec.failures = times.reverse ∧
    (times.length = rateLimitThreshold → ∃ t ∈ times, rec.lockedUntil = t + minute)

variable {rl : RateLimiter} {username ip : GoString} {times : List Int} {now : Int}

theorem newRateLimiter_countsFailures (username : GoString) : CountsFailures newRateLimiter username [] where
  window_eq := rfl
  threshold_eq := rfl
  maxLockout_eq := rfl
  baseLockout_eq := rfl
  none_of_nil _ := rfl
  record h := absurd rfl h

/-- A record with a failure in the window is kept. -/
theorem CountsFailures.evictExpired (hcounts : CountsFailures rl username times)
    (hrecent : ∀ t ∈ times, now < t + rateLimitWindow) :
    CountsFailures (rl.evictExpired now) username times where
  window_eq := hcounts.window_eq
  threshold_eq := hcounts.threshold_eq
  maxLockout_eq := hcounts.maxLockout_eq
  baseLockout_eq := hcounts.baseLockout_eq
  none_of_nil := by
    intro hnil
    show evictRecords rl.window now rl.userRecords username = none
    simp [evictRecords, hcounts.none_of_nil hnil]
  record := by
    intro hsome
    obtain ⟨rec, hrec, hfailures, hlock⟩ := hcounts.record hsome
    refine ⟨rec, ?_, hfailures, hlock⟩
    show evictRecords rl.window now rl.userRecords username = some rec
    obtain ⟨t, ht⟩ := List.exists_mem_of_ne_nil times hsome
    have hany : (rec.failures.any fun t => after t (now + -rl.window)) = true := by
      rw [List.any_eq_true]
      refine ⟨t, by simpa [hfailures] using ht, ?_⟩
      have hnow := hrecent t ht
      rw [after_eq_true_iff, hcounts.window_eq]
      omega
    simp [evictRecords, hrec, hany]

/-- One more failure. -/
theorem CountsFailures.recordFailure (conversion : FloatConversion) (hcounts : CountsFailures rl username times)
    (hname : username ≠ []) (hrecent : ∀ t ∈ times, now < t + rateLimitWindow) :
    CountsFailures (RateLimiter.recordFailure conversion rl username ip now).1 username (now :: times) := by
  have hkept := hcounts.evictExpired hrecent
  refine ⟨hkept.window_eq, hkept.threshold_eq, hkept.maxLockout_eq, hkept.baseLockout_eq, nofun, fun _ => ?_⟩
  -- the failures of the record before this one, all of them in the window
  have hold : recent (rl.evictExpired now).window now
      (((rl.evictExpired now).userRecords username).getD AttemptRecord.zero) = times.reverse := by
    by_cases hnil : times = []
    · rw [hkept.none_of_nil hnil, hnil]
      rfl
    · obtain ⟨rec, hrec, hfailures, -⟩ := hkept.record hnil
      rw [hrec, Option.getD_some, recent, hfailures, List.filter_eq_self]
      intro t ht
      have hnow := hrecent t (List.mem_reverse.mp ht)
      rw [after_eq_true_iff, hkept.window_eq]
      omega
  refine ⟨_, recordFailureKey_self hname, ?_, ?_⟩
  · unfold addFailure
    rw [hold]
    dsimp only
    split <;> simp
  · intro hfive
    refine ⟨now, List.mem_cons_self, ?_⟩
    rw [addFailure_lockedUntil, hold, hkept.threshold_eq, List.length_reverse]
    rw [List.length_cons] at hfive
    rw [if_pos hfive.ge, hfive, lockout, hkept.baseLockout_eq, hkept.threshold_eq, hkept.maxLockout_eq]
    rw [conversion.exact_of_range _ (by decide) (by decide)]
    rfl

/-- The fifth failure locks the username for a minute. -/
theorem CountsFailures.locked (hcounts : CountsFailures rl username times) (hname : username ≠ [])
    (hfive : times.length = rateLimitThreshold) (hminute : ∀ t ∈ times, now < t + minute) :
    (rl.check username ip now).2.1 = true := by
  have hnonempty : times ≠ [] := by
    rintro rfl
    cases hfive
  have hkept : CountsFailures (rl.evictExpired now) username times := by
    refine hcounts.evictExpired fun t ht => (hminute t ht).trans ?_
    simp only [rateLimitWindow, minute, second]
    omega
  obtain ⟨rec, hrec, -, hlock⟩ := hkept.record hnonempty
  obtain ⟨t, ht, hlocked⟩ := hlock hfive
  have hwait : 0 < checkKey (rl.evictExpired now).userRecords username now := by
    have hbefore : before now rec.lockedUntil = true := by
      rw [before_eq_true_iff, hlocked]
      exact hminute t ht
    have hnow := hminute t ht
    simp only [checkKey, if_neg hname, hrec, hbefore, if_true]
    omega
  have hmax : 0 < if checkKey (rl.evictExpired now).userRecords username now <
      checkKey (rl.evictExpired now).ipRecords ip now then checkKey (rl.evictExpired now).ipRecords ip now
      else checkKey (rl.evictExpired now).userRecords username now := by
    split
    · omega
    · exact hwait
  simp only [RateLimiter.check, checkWith, if_pos hmax]

end RateLimiter

/-! ## The text of `Login` -/

/-- A check that does not lock the request out. -/
def admits : AuthEvent → Bool
  | ⟨.check _ _ _, answer⟩ => !answer.1
  | _ => false

/-- A comparison of the password, with the hash of a user or with the dummy one. -/
def compares : AuthEvent → Bool
  | ⟨.compareHashAndPassword _ _, _⟩ => true
  | _ => false

/-- The instant of a failure that is recorded. -/
def failureTime? : AuthEvent → Option Int
  | ⟨.recordFailure _ _ now, _⟩ => some now
  | _ => none

/-- A failure is recorded. -/
def records (event : AuthEvent) : Bool := (failureTime? event).isSome

/-- The password of the request was the user's. -/
def LoggedIn (req : LoginRequest) (past : List AuthEvent) : Prop :=
  ∃ user, ⟨.getUserByUsername req.username, .ok user⟩ ∈ past ∧
    ⟨.compareHashAndPassword user.passwordHash req.password, .ok ()⟩ ∈ past

/-- What a login calls, after which calls and answers. -/
def LoginCall (req : LoginRequest) (past : List AuthEvent) : AuthCall → Prop
  | .check key _ now => key = req.username ∧ req.username ≠ [] ∧ ⟨.timeNow, now⟩ ∈ past ∧
    past.countP compares = 0 ∧ past.countP records = 0
  | .compareHashAndPassword _ _ => past.any admits = true ∧ past.countP compares = 0 ∧ past.countP records = 0
  | .recordFailure key _ now => key = req.username ∧ req.username ≠ [] ∧ ⟨.timeNow, now⟩ ∈ past ∧
    past.any admits = true ∧ past.countP records = 0
  | .recordSuccess _ => LoggedIn req past
  | _ => True

/-- A login that is over has recorded a failure if it has compared a password, or it was the right one. -/
def LoginDone (req : LoginRequest) (past : List AuthEvent) : Prop :=
  0 < past.countP compares → 0 < past.countP records ∨ LoggedIn req past

variable {svc : AuthService} {req : LoginRequest} {past : List AuthEvent}

/-- The end of a login that fails. -/
theorem alongOr_rejectPassword {userID : Option Int} {name : GoString} (hname : req.username ≠ [])
    (hadmitted : past.any admits = true) (hfresh : past.countP records = 0) :
    (rejectPassword req userID name).AlongOr (LoginCall req) (fun past _ => LoginDone req past)
      (fun past _ => LoginDone req past) past := by
  refine ⟨trivial, fun now => ⟨⟨rfl, hname, List.mem_cons_self, hadmitted, hfresh⟩, fun _ => ⟨trivial, fun _ => ?_⟩⟩⟩
  intro _
  exact Or.inl (List.countP_pos_iff.mpr ⟨_, List.mem_cons_of_mem _ List.mem_cons_self, rfl⟩)

/-- The end of a login with the right password. -/
theorem alongOr_completeLogin_of_loggedIn {user : User} {method : GoString} (hlogged : LoggedIn req past) :
    (completeLogin svc user req.rememberMe req.reqHeader method req.clientIP).AlongOr (LoginCall req)
      (fun past _ => LoginDone req past) (fun past _ => LoginDone req past) past := by
  have hmore : ∀ later, LoginDone req (later ++ past) := by
    obtain ⟨user, hfound, hcompared⟩ := hlogged
    exact fun later _ => Or.inr ⟨user, List.mem_append_right _ hfound, List.mem_append_right _ hcompared⟩
  unfold completeLogin Handlers.issueSession
  simp only [Program.alongOr_bind, Program.alongOr_perform, Program.alongOr_orFail, Program.alongOr_done]
  refine ⟨trivial, fun token => ⟨fun bytes _ => ⟨trivial, fun now => ⟨trivial, fun created => ⟨fun _ _ => ?_, ?_⟩⟩⟩,
    ?_⟩⟩
  · exact ⟨trivial, fun _ => hmore [_, _, _, _]⟩
  · exact fun err _ => hmore [_, _, _]
  · exact fun err _ => hmore [_]

/-- The text of `Login`. -/
theorem alongOr_login (svc : AuthService) (req : LoginRequest) :
    (login svc req).AlongOr (LoginCall req) (fun past _ => LoginDone req past)
      (fun past _ => LoginDone req past) [] := by
  unfold login Handlers.requireUnlocked
  simp only [Program.alongOr_bind, Program.alongOr_perform, Program.alongOr_ensure]
  refine ⟨fun hgiven => ?_, fun _ hnone => absurd hnone (lt_irrefl 0)⟩
  refine ⟨trivial, fun now => ⟨⟨rfl, hgiven.1, List.mem_cons_self, rfl, rfl⟩, fun checked => ?_⟩⟩
  obtain ⟨locked, wait⟩ := checked
  cases locked with
  | true => exact ⟨trivial, fun _ hnone => absurd hnone (lt_irrefl 0)⟩
  | false =>
      refine ⟨trivial, fun found => ?_⟩
      rcases found with (_ | message) | user
      · -- the name is unknown
        show (Handlers.unknownUser svc req).AlongOr _ _ _ _
        unfold Handlers.unknownUser
        split
        · refine ⟨⟨rfl, rfl, rfl⟩, fun compared => ?_⟩
          exact alongOr_rejectPassword hgiven.1 rfl rfl
        · exact alongOr_rejectPassword hgiven.1 rfl rfl
      · exact fun hnone => absurd hnone (lt_irrefl 0)
      · show (Handlers.knownUser svc req user).AlongOr _ _ _ _
        unfold Handlers.knownUser
        simp only [Program.alongOr_bind, Program.alongOr_perform]
        refine ⟨⟨rfl, rfl, rfl⟩, fun compared => ?_⟩
        rcases compared with err | ⟨⟩
        · exact alongOr_rejectPassword hgiven.1 rfl rfl
        · have hlogged : LoggedIn req
              (⟨.compareHashAndPassword user.passwordHash req.password, .ok ()⟩ ::
                ⟨.getUserByUsername req.username, .ok user⟩ ::
                ⟨.check req.username req.clientIP now, (false, wait)⟩ :: [⟨.timeNow, now⟩]) :=
            ⟨user, List.mem_cons_of_mem _ List.mem_cons_self, List.mem_cons_self⟩
          refine ⟨hlogged, fun _ => alongOr_completeLogin_of_loggedIn ?_⟩
          obtain ⟨known, hfound, hcompared⟩ := hlogged
          exact ⟨known, List.mem_cons_of_mem _ hfound, List.mem_cons_of_mem _ hcompared⟩

variable {event : AuthEvent}

/-- A login compares one password at most, and records one failure at most, both after it has been admitted. -/
structure Orderly (past : List AuthEvent) : Prop where
  compares_le : past.countP compares ≤ 1
  records_le : past.countP records ≤ 1
  admitted : 0 < past.countP compares ∨ 0 < past.countP records → past.any admits = true

theorem Orderly.cons (h : Orderly past) (htext : LoginCall req past event.op) : Orderly (event :: past) := by
  have hcompares : compares event = true → past.any admits = true ∧ past.countP compares = 0 := by
    intro hcompare
    unfold compares at hcompare
    split at hcompare
    · exact ⟨htext.1, htext.2.1⟩
    · cases hcompare
  have hrecords : records event = true → past.any admits = true ∧ past.countP records = 0 := by
    intro hrecord
    unfold records failureTime? at hrecord
    split at hrecord
    · exact ⟨htext.2.2.2.1, htext.2.2.2.2⟩
    · cases hrecord
  have hmore : past.any admits = true → (event :: past).any admits = true := by
    intro hadmitted
    rw [List.any_cons, hadmitted, Bool.or_true]
  refine ⟨?_, ?_, fun hmade => hmore ?_⟩
  · cases hcompare : compares event with
    | false =>
        rw [List.countP_cons_of_neg (by simp [hcompare])]
        exact h.compares_le
    | true => rw [List.countP_cons_of_pos hcompare, (hcompares hcompare).2]
  · cases hrecord : records event with
    | false =>
        rw [List.countP_cons_of_neg (by simp [hrecord])]
        exact h.records_le
    | true => rw [List.countP_cons_of_pos hrecord, (hrecords hrecord).2]
  · simp only [List.countP_pos_iff, List.mem_cons, exists_eq_or_imp] at hmade
    rcases hmade with (hcompare | hold) | (hrecord | hold)
    · exact (hcompares hcompare).1
    · exact h.admitted (Or.inl (List.countP_pos_iff.mpr hold))
    · exact (hrecords hrecord).1
    · exact h.admitted (Or.inr (List.countP_pos_iff.mpr hold))

/-! ## Runs -/

variable {ι : Type} [Fintype ι] [DecidableEq ι]

/-- The logins before their first call. -/
def attemptsStart {ι : Type} (svc : AuthService) (s : AuthState) (requests : ι → LoginRequest) :
    Requests ι LoginResponse :=
  requestsStart s fun i => login svc (requests i)

/-- The instants of the failures recorded so far, the latest one first. -/
def failureTimes {ι : Type} (c : Requests ι LoginResponse) : List Int :=
  c.log.filterMap fun entry => failureTime? entry.2

/-- The request is not over. -/
def running : Program AuthCall AuthAnswer ConnectError (Except ConnectError LoginResponse) → Bool
  | .done _ => false
  | _ => true

/-- The request has been admitted, and has recorded a failure or is not over. -/
def counted (past : List AuthEvent)
    (rest : Program AuthCall AuthAnswer ConnectError (Except ConnectError LoginResponse)) : Bool :=
  past.any admits && (past.any records || running rest)

/-- When a request is checked, five failures have been recorded, or fewer than five requests have recorded
one or are admitted and not over. -/
def FewInFlight (c : Requests ι LoginResponse) : AuthLabel ι → Prop
  | .call _ ⟨.check _ _ _, _⟩ =>
    rateLimitThreshold ≤ (failureTimes c).length ∨ (active counted c).card < rateLimitThreshold
  | _ => True

/-- A step is taken within a minute of every failure recorded so far. -/
def WithinMinute {ι : Type} (c : Requests ι LoginResponse) (_ : AuthLabel ι) : Prop :=
  ∀ t ∈ failureTimes c, c.shared.clock < t + minute

/-- No request has the password of its user. -/
def WrongPasswords {ι : Type} (w : AuthWorld) (users : Users) (requests : ι → LoginRequest) : Prop :=
  ∀ i user, users.getUserByUsername (requests i).username = some user →
    w.possible ⟨.compareHashAndPassword user.passwordHash (requests i).password, .ok ()⟩ = false

/-- What the answer of a user lookup or of a comparison says. -/
def Answered (w : AuthWorld) (users : Users) (event : AuthEvent) : Prop :=
  (∀ name user, event = ⟨.getUserByUsername name, .ok user⟩ → users.getUserByUsername name = some user) ∧
    ∀ hash password, event = ⟨.compareHashAndPassword hash password, .ok ()⟩ → w.possible event = true

/-- What holds of every state of a run. -/
structure ThrottleInv (w : AuthWorld) (users : Users) (username : GoString) (requests : ι → LoginRequest)
    (c : Requests ι LoginResponse) : Prop where
  follows : Follows (fun i => LoginCall (requests i)) (fun i past _ => LoginDone (requests i) past) c
  users_eq : c.shared.users = users
  answered : ∀ i, ∀ event ∈ c.past i, Answered w users event
  times : ∀ i t, ⟨.timeNow, t⟩ ∈ c.past i → t ≤ c.shared.clock
  orderly : ∀ i, Orderly (c.past i)
  counted_le : (active counted c).card ≤ rateLimitThreshold
  limiter : RateLimiter.CountsFailures c.shared.limiter username (failureTimes c)

variable {w : AuthWorld} {users : Users} {username : GoString} {requests : ι → LoginRequest}
variable {c next : Requests ι LoginResponse} {i : ι}

/-- The password of a request is never the right one. -/
theorem ThrottleInv.not_loggedIn (hinv : ThrottleInv w users username requests c)
    (hwrong : WrongPasswords w users requests) (i : ι) : ¬ LoggedIn (requests i) (c.past i) := by
  rintro ⟨user, hfound, hcompared⟩
  have hpossible := (hinv.answered i _ hcompared).2 _ _ rfl
  rw [hwrong i user ((hinv.answered i _ hfound).1 _ _ rfl)] at hpossible
  cases hpossible

/-- A request that has compared a password or recorded a failure is counted. -/
theorem ThrottleInv.mem_counted (hinv : ThrottleInv w users username requests c)
    (hwrong : WrongPasswords w users requests) {i : ι}
    (hmade : 0 < (c.past i).countP compares ∨ 0 < (c.past i).countP records) : i ∈ active counted c := by
  rw [mem_active, counted, (hinv.orderly i).admitted hmade, Bool.true_and, Bool.or_eq_true]
  by_cases hrecorded : 0 < (c.past i).countP records
  · obtain ⟨failure, hmem, hfailure⟩ := List.countP_pos_iff.mp hrecorded
    exact Or.inl (List.any_eq_true.mpr ⟨failure, hmem, hfailure⟩)
  · right
    cases hthread : c.threads i with
    | done result =>
        have hend : LoginDone (requests i) (c.past i) := hinv.follows.done hthread
        rcases hend (hmade.resolve_right hrecorded) with hrecords | hlogged
        · exact absurd hrecords hrecorded
        · exact absurd hlogged (hinv.not_loggedIn hwrong i)
    | fail err => rfl
    | call op rest => rfl

/-- No more passwords have been compared than requests are counted. -/
theorem ThrottleInv.comparisons_le (hinv : ThrottleInv w users username requests c)
    (hwrong : WrongPasswords w users requests) :
    (c.log.countP fun entry => compares entry.2) ≤ (active counted c).card :=
  countP_log_le_card_active counted (fun i => (hinv.orderly i).compares_le)
    fun _ hpos => hinv.mem_counted hwrong (Or.inl hpos)

/-- No more failures have been recorded either. -/
theorem ThrottleInv.failures_le (hinv : ThrottleInv w users username requests c)
    (hwrong : WrongPasswords w users requests) : (failureTimes c).length ≤ (active counted c).card := by
  have hlength : (failureTimes c).length = c.log.countP fun entry => records entry.2 := by
    rw [failureTimes, List.length_filterMap_eq_countP]
    rfl
  rw [hlength]
  exact countP_log_le_card_active counted (fun i => (hinv.orderly i).records_le) fun _ hpos =>
    hinv.mem_counted hwrong (Or.inr hpos)

/-- A call other than a check that admits its request makes no request count that did not. -/
theorem counted_subset (hstep : (authBackend w).step c (.call i event) = some next) (hadmits : admits event = false) :
    active counted next ⊆ active counted c := by
  obtain ⟨rest, hcall, -, -⟩ := requests_step_call hstep
  intro j hj
  rw [mem_active] at hj ⊢
  by_cases hji : j = i
  · subst hji
    rw [counted, (past_of_step_call hstep).1, List.any_cons, hadmits, Bool.false_or, Bool.and_eq_true] at hj
    rw [counted, hj.1, hcall]
    simp [running]
  · rw [(past_of_step_call hstep).2 j hji, threads_of_step_call hstep j hji] at hj
    exact hj

/-- Any call makes at most one more request count. -/
theorem card_counted_le (hstep : (authBackend w).step c (.call i event) = some next) :
    (active counted next).card ≤ (active counted c).card + 1 := by
  have hnext : (active counted next).card - 1 ≤ ((active counted next).erase i).card := Finset.pred_card_le_card_erase
  have hbefore : ((active counted c).erase i).card ≤ (active counted c).card := Finset.card_erase_le
  rw [erase_active_of_step_call counted hstep] at hnext
  omega

/-- No check makes a sixth request count. -/
theorem ThrottleInv.counted_le_step (hinv : ThrottleInv w users username requests c)
    (hwrong : WrongPasswords w users requests) (hname : ∀ i, (requests i).username = username)
    (hguard : FewInFlight c (.call i event)) (hminute : ∀ t ∈ failureTimes c, c.shared.clock < t + minute)
    (hstep : (authBackend w).step c (.call i event) = some next) :
    (active counted next).card ≤ rateLimitThreshold := by
  cases hadmits : admits event with
  | false => exact (Finset.card_le_card (counted_subset hstep hadmits)).trans hinv.counted_le
  | true =>
      obtain ⟨rest, hcall, hallowed, -⟩ := requests_step_call hstep
      have htext : LoginCall (requests i) (c.past i) event.op := hinv.follows.call hcall
      unfold admits at hadmits
      split at hadmits
      · rename_i key ip now answer
        obtain ⟨rfl, hgiven, hnow, -⟩ := htext
        rw [hname i] at hgiven hallowed hguard hstep
        rcases hguard with hfive | hfew
        · -- the fifth failure has locked the username
          have hlength : (failureTimes c).length = rateLimitThreshold :=
            le_antisymm ((hinv.failures_le hwrong).trans hinv.counted_le) hfive
          have hlocked : (c.shared.limiter.check username ip now).2.1 = true :=
            hinv.limiter.locked hgiven hlength fun t ht => (hinv.times i now hnow).trans_lt (hminute t ht)
          have hanswer : answer = (c.shared.limiter.check username ip now).2 := of_decide_eq_true hallowed
          rw [hanswer, hlocked] at hadmits
          cases hadmits
        · exact (card_counted_le hstep).trans hfew
      · cases hadmits

omit [Fintype ι] in
/-- The failures after a call. -/
theorem failureTimes_of_step (hstep : (authBackend w).step c (.call i event) = some next) :
    failureTimes next = (failureTime? event).toList ++ failureTimes c := by
  obtain ⟨rest, -, -, rfl⟩ := requests_step_call hstep
  rw [failureTimes, List.filterMap_cons]
  cases failureTime? event with
  | none => rfl
  | some t => rfl

/-- The limiter keeps counting the failures. -/
theorem ThrottleInv.limiter_step (hinv : ThrottleInv w users username requests c)
    (hwrong : WrongPasswords w users requests) (hname : ∀ i, (requests i).username = username)
    (hminute : ∀ t ∈ failureTimes c, c.shared.clock < t + minute)
    (hstep : (authBackend w).step c (.call i event) = some next) :
    RateLimiter.CountsFailures next.shared.limiter username (failureTimes next) := by
  obtain ⟨rest, hcall, -, hnext⟩ := requests_step_call hstep
  have htext : LoginCall (requests i) (c.past i) event.op := hinv.follows.call hcall
  -- every failure is in the window of a call at `now`
  have hrecent : ∀ now, ⟨.timeNow, now⟩ ∈ c.past i → ∀ t ∈ failureTimes c, now < t + rateLimitWindow := by
    intro now hnow t ht
    have hread := hinv.times i now hnow
    have hclock := hminute t ht
    simp only [rateLimitWindow, minute, second] at hclock ⊢
    omega
  rw [failureTimes_of_step hstep, hnext]
  obtain ⟨op, answer⟩ := event
  cases op with
  | check key ip now => exact hinv.limiter.evictExpired (hrecent now htext.2.2.1)
  | recordFailure key ip now =>
      obtain ⟨rfl, hgiven, hnow, -⟩ := htext
      rw [hname i] at hgiven
      show RateLimiter.CountsFailures (RateLimiter.recordFailure _ _ (requests i).username _ _).1 _ _
      rw [hname i]
      exact hinv.limiter.recordFailure w.conversion hgiven (hrecent now hnow)
  | recordSuccess key => exact absurd htext (hinv.not_loggedIn hwrong i)
  | _ =>
      rw [limiter_after id]
      exact hinv.limiter

/-- What one step preserves. -/
theorem throttleInv_step {label : AuthLabel ι} (hinv : ThrottleInv w users username requests c)
    (hwrong : WrongPasswords w users requests) (hname : ∀ i, (requests i).username = username)
    (hguard : FewInFlight c label) (hminute : WithinMinute c label)
    (hstep : (authBackend w).step c label = some next) : ThrottleInv w users username requests next := by
  cases label with
  | env now =>
      obtain ⟨hle, hnext⟩ := requests_step_env hstep
      subst hnext
      exact ⟨hinv.follows.step hstep, hinv.users_eq, hinv.answered, fun i t ht => (hinv.times i t ht).trans hle,
        hinv.orderly, hinv.counted_le, hinv.limiter⟩
  | call i event =>
      obtain ⟨rest, hcall, hallowed, hnext⟩ := requests_step_call hstep
      obtain ⟨hself, hothers⟩ := past_of_step_call hstep
      refine ⟨hinv.follows.step hstep, ?_, ?_, ?_, ?_, ?_, ?_⟩
      · rw [hnext]
        exact (users_after event).trans hinv.users_eq
      · refine forall_past_step hinv.answered (fun j other hlabel => ?_) hstep
        cases hlabel
        constructor
        · rintro name user rfl
          rw [← hinv.users_eq]
          simpa [AuthState.allowed, queryAllowed] using hallowed
        · rintro hash password rfl
          exact hallowed
      · have hread : ∀ j, ∀ other ∈ next.past j, ∀ t : Int, other = ⟨.timeNow, t⟩ → t ≤ c.shared.clock := by
          refine forall_past_step ?_ ?_ hstep
          · rintro j other hother t rfl
            exact hinv.times j t hother
          · rintro j other hlabel t rfl
            cases hlabel
            exact (of_decide_eq_true hallowed : t = c.shared.clock).le
        intro j t ht
        rw [hnext]
        exact (hread j _ ht t rfl).trans_eq (clock_after event).symm
      · intro j
        by_cases hj : j = i
        · subst hj
          rw [hself]
          exact (hinv.orderly j).cons (hinv.follows.call hcall)
        · rw [hothers j hj]
          exact hinv.orderly j
      · exact hinv.counted_le_step hwrong hname hguard hminute hstep
      · exact hinv.limiter_step hwrong hname hminute hstep

/-- At most five passwords are compared in a run of logins for one username with wrong passwords, on a fresh
limiter and within a minute of every failure, in which few requests are in flight at every check. -/
theorem comparisons_le_threshold (w : AuthWorld) (svc : AuthService) (s : AuthState) (username : GoString)
    (requests : ι → LoginRequest) (labels : List (AuthLabel ι)) (final : Requests ι LoginResponse)
    (hlimiter : s.limiter = newRateLimiter) (hname : ∀ i, (requests i).username = username)
    (hwrong : WrongPasswords w s.users requests)
    (hminute : Guarded (authBackend w).step WithinMinute (attemptsStart svc s requests) labels)
    (hguard : Guarded (authBackend w).step FewInFlight (attemptsStart svc s requests) labels)
    (hrun : exec (authBackend w).step (attemptsStart svc s requests) labels = some final) :
    (final.log.countP fun entry => compares entry.2) ≤ rateLimitThreshold := by
  have hinit : ThrottleInv w s.users username requests (attemptsStart svc s requests) := by
    refine ⟨follows_start fun i => ?_, rfl, ?_, ?_, ?_, ?_, ?_⟩
    · exact Program.along_attempt.mpr (alongOr_login svc (requests i))
    · intro i event hevent
      cases hevent
    · intro i t ht
      cases ht
    · intro i
      refine ⟨Nat.zero_le 1, Nat.zero_le 1, fun hmade => absurd hmade ?_⟩
      exact fun h => h.elim (lt_irrefl 0) (lt_irrefl 0)
    · have hnone : active counted (attemptsStart svc s requests) = ∅ :=
        Finset.filter_false_of_mem fun i _ => Bool.false_ne_true
      rw [hnone]
      exact Nat.zero_le _
    · show RateLimiter.CountsFailures s.limiter username []
      rw [hlimiter]
      exact RateLimiter.newRateLimiter_countsFailures username
  have hfinal : ThrottleInv w s.users username requests final :=
    exec_invariant_of_guarded (ThrottleInv w s.users username requests)
      (fun c label next hinv hboth => throttleInv_step hinv hwrong hname hboth.1 hboth.2)
      (hguard.and hminute) hrun hinit
  exact (hfinal.comparisons_le hwrong).trans hfinal.counted_le

/-! ## Logins in parallel -/

/-- A user with a password, and no failures yet. -/
def passwordUser : User := ⟨1, str "admin", str "$2a$12$", adminRole⟩

def passwordState : AuthState :=
  { passkeyState with users := ⟨[passwordUser], 1, by decide, by decide, by decide⟩ }

/-- No password is the right one. -/
def guessWorld : AuthWorld where
  conversion := .amd64
  sqlLess := fun s t => decide (s < t)
  faults := fun _ => false
  possible
    | ⟨.compareHashAndPassword _ _, .ok _⟩ => false
    | _ => true

/-- Guesses of the user's password. -/
def guess {n : Nat} (_ : Fin n) : LoginRequest := ⟨str "admin", str "guess", false, none, str "10.0.0.1"⟩

theorem wrongPasswords_guess (n : Nat) : WrongPasswords guessWorld passwordState.users (guess (n := n)) :=
  fun _ _ _ => rfl

/-- A guess up to the comparison, and from there to its end. -/
def untilComparison {n : Nat} (i : Fin n) : List (AuthLabel (Fin n)) :=
  [.call i ⟨.timeNow, 0⟩, .call i ⟨.check (str "admin") (str "10.0.0.1") 0, (false, 0)⟩,
    .call i ⟨.getUserByUsername (str "admin"), .ok passwordUser⟩,
    .call i ⟨.compareHashAndPassword (str "$2a$12$") (str "guess"), .error (str "mismatch")⟩]

def afterComparison {n : Nat} (i : Fin n) : List (AuthLabel (Fin n)) :=
  [.call i ⟨.timeNow, 0⟩, .call i ⟨.recordFailure (str "admin") (str "10.0.0.1") 0, ()⟩,
    .call i ⟨.recordAuthEvent (some 1) (str "admin") (str "login_failed")
      (str "method: password, reason: invalid credentials, ip: " ++ str "10.0.0.1"), ()⟩]

/-- Five guesses, one after the other, and a sixth that finds the username locked for a minute. -/
def sixthLocked : List (AuthLabel (Fin 6)) :=
  ([0, 1, 2, 3, 4].flatMap fun i => untilComparison i ++ afterComparison i) ++
    [.call 5 ⟨.timeNow, 0⟩, .call 5 ⟨.check (str "admin") (str "10.0.0.1") 0, (true, minute)⟩,
      .call 5 ⟨.recordAuthEvent none (str "admin") (str "rate_limited") (str "ip: 10.0.0.1"), ()⟩]

theorem exec_sixthLocked :
    ((exec (authBackend guessWorld).step (attemptsStart defaultService passwordState guess) sixthLocked).map
      fun c => (c.log.countP fun entry => compares entry.2, running (c.threads 5))) = some (5, false) := by
  decide +kernel

instance {ι : Type} (c : Requests ι LoginResponse) (label : AuthLabel ι) : Decidable (WithinMinute c label) :=
  inferInstanceAs (Decidable (∀ t ∈ failureTimes c, c.shared.clock < t + minute))

/-- The step is a check. -/
def isCheck {ι : Type} : AuthLabel ι → Bool
  | .call _ ⟨.check _ _ _, _⟩ => true
  | _ => false

theorem fewInFlight_iff {ι : Type} [Fintype ι] [DecidableEq ι] {c : Requests ι LoginResponse} {label : AuthLabel ι} :
    (isCheck label = true →
        rateLimitThreshold ≤ (failureTimes c).length ∨ (active counted c).card < rateLimitThreshold) ↔
      FewInFlight c label := by
  unfold isCheck FewInFlight
  split
  · exact forall_prop_of_true rfl
  · exact iff_of_true (fun hcheck => absurd hcheck Bool.false_ne_true) trivial

instance {ι : Type} [Fintype ι] [DecidableEq ι] (c : Requests ι LoginResponse) (label : AuthLabel ι) :
    Decidable (FewInFlight c label) := decidable_of_iff _ fewInFlight_iff

/-- As many passwords are compared as can be, and the last request compares none. -/
theorem comparisons_le_threshold_sixthLocked :
    ∃ final, exec (authBackend guessWorld).step (attemptsStart defaultService passwordState guess) sixthLocked =
        some final ∧ running (final.threads 5) = false ∧
      (final.log.countP fun entry => compares entry.2) = rateLimitThreshold ∧
      (final.log.countP fun entry => compares entry.2) ≤ rateLimitThreshold := by
  obtain ⟨final, hfinal, hend⟩ := Option.map_eq_some_iff.mp exec_sixthLocked
  obtain ⟨hcount, hover⟩ := Prod.mk.inj hend
  have hminute : Guarded (authBackend guessWorld).step WithinMinute
      (attemptsStart defaultService passwordState guess) sixthLocked := by
    decide +kernel
  have hguard : Guarded (authBackend guessWorld).step FewInFlight
      (attemptsStart defaultService passwordState guess) sixthLocked := by
    decide +kernel
  exact ⟨final, hfinal, hover, hcount, comparisons_le_threshold _ _ _ (str "admin") _ _ _ rfl (fun _ => rfl)
    (wrongPasswords_guess 6) hminute hguard hfinal⟩

/-- Six guesses are checked and compared before the first one is recorded. -/
def sixGuesses : List (AuthLabel (Fin 6)) :=
  (List.finRange 6).flatMap untilComparison ++ (List.finRange 6).flatMap afterComparison

theorem exec_sixGuesses :
    ((exec (authBackend guessWorld).step (attemptsStart defaultService passwordState guess) sixGuesses).map
      fun c => c.log.countP fun entry => compares entry.2) = some 6 := by
  decide +kernel

/-- Six passwords are compared, at one instant. -/
theorem parallel_logins_exceed :
    passwordState.limiter = newRateLimiter ∧ (∀ i : Fin 6, (guess i).username = str "admin") ∧
      WrongPasswords guessWorld passwordState.users (guess (n := 6)) ∧
      Guarded (authBackend guessWorld).step WithinMinute (attemptsStart defaultService passwordState guess)
        sixGuesses ∧
      ∃ final, exec (authBackend guessWorld).step (attemptsStart defaultService passwordState guess) sixGuesses =
          some final ∧ rateLimitThreshold < final.log.countP fun entry => compares entry.2 := by
  obtain ⟨final, hfinal, hcount⟩ := Option.map_eq_some_iff.mp exec_sixGuesses
  refine ⟨rfl, fun _ => rfl, wrongPasswords_guess 6, by decide +kernel, final, hfinal, ?_⟩
  rw [hcount]
  decide

end Auth
end Dmanager
