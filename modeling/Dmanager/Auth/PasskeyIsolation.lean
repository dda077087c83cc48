import Dmanager.Auth.Handlers
import Dmanager.Auth.RateLimiterEviction
import Dmanager.Lib.TwinRuns

/-!
# Passkey logins of one client, throttled by another

`FinishPasskeyLogin` records a failure before its user is known under the username `passkey_login`, whoever
the client is, and `BeginPasskeyLogin` checks that username.  So the failures of one client lock all others
out.

`begin_unaffected` compares two runs, of which one has more such failures from other addresses, and says when
the `BeginPasskeyLogin` requests from one address are answered alike: at every check of a request that both
runs have, the shared username is not locked unless the client's address is, the address of another client is
locked in both runs or in none, and every request finds the same challenge in both runs.

`begin_affected` is a pair of runs where five failures from another address make the difference.
-/

namespace Dmanager
namespace Auth

open Go Db Lib Server
open Handlers

/-! ## What the limiter knows about one address and the usernames -/

namespace RateLimiter

/-- The two limiters agree on an address, and on all usernames but the one of passkey logins. -/
structure AlikeFor (ip : GoString) (clock : Int) (rl ref : RateLimiter) : Prop where
  settings : SameSettings rl ref
  users : ∀ key ≠ passkeyLoginKey,
    RecordAgree rl.window clock (recordOf rl.userRecords key) (recordOf ref.userRecords key)
  ips : RecordAgree rl.window clock (recordOf rl.ipRecords ip) (recordOf ref.ipRecords ip)

variable {conversion : FloatConversion} {rl ref : RateLimiter} {records : Records} {window clock now : Int}
variable {ip username clientIP key other : GoString}

theorem recordOf_recordFailureKey :
    recordOf (recordFailureKey conversion rl records key now).1 other =
      if other = key ∧ key ≠ [] then (addFailure conversion rl (recordOf records key) now).1
      else recordOf records other := by
  unfold recordFailureKey recordOf
  by_cases hkey : key = []
  · simp [hkey]
  · by_cases hother : other = key
    · subst hother
      simp [hkey]
    · simp [hkey, hother]

theorem AlikeFor.symm (halike : AlikeFor ip clock rl ref) : AlikeFor ip clock ref rl where
  settings := ⟨halike.settings.window_eq.symm, halike.settings.threshold_eq.symm,
    halike.settings.maxLockout_eq.symm, halike.settings.baseLockout_eq.symm⟩
  users key hkey := halike.settings.window_eq ▸ (halike.users key hkey).symm
  ips := halike.settings.window_eq ▸ halike.ips.symm

theorem AlikeFor.mono (halike : AlikeFor ip clock rl ref) (hclock : clock ≤ now) : AlikeFor ip now rl ref where
  settings := halike.settings
  users key hkey := (halike.users key hkey).mono hclock
  ips := halike.ips.mono hclock

/-- Eviction on one side. -/
theorem AlikeFor.evictExpired (halike : AlikeFor ip clock rl ref) (hzero : zeroTime ≤ clock) (hnow : now ≤ clock) :
    AlikeFor ip clock (rl.evictExpired now) ref where
  settings := ⟨halike.settings.window_eq, halike.settings.threshold_eq, halike.settings.maxLockout_eq,
    halike.settings.baseLockout_eq⟩
  users key hkey := (halike.users key hkey).evictRecords hzero hnow
  ips := halike.ips.evictRecords hzero hnow

/-- Eviction on both sides. -/
theorem AlikeFor.evictBoth (halike : AlikeFor ip clock rl ref) (hzero : zeroTime ≤ clock) (hnow : now ≤ clock) :
    AlikeFor ip clock (rl.evictExpired now) (ref.evictExpired now) :=
  ((halike.evictExpired hzero hnow).symm.evictExpired hzero hnow).symm

/-- A failure that both sides record. -/
theorem AlikeFor.recordFailure (halike : AlikeFor ip now rl ref) (hzero : zeroTime ≤ now) :
    AlikeFor ip now (RateLimiter.recordFailure conversion rl username clientIP now).1
      (RateLimiter.recordFailure conversion ref username clientIP now).1 := by
  have hevicted := halike.evictBoth hzero le_rfl
  refine ⟨⟨hevicted.settings.window_eq, hevicted.settings.threshold_eq, hevicted.settings.maxLockout_eq,
    hevicted.settings.baseLockout_eq⟩, fun key hkey => ?_, ?_⟩
  · show RecordAgree _ _ (recordOf (recordFailureKey conversion (rl.evictExpired now) _ username now).1 key)
      (recordOf (recordFailureKey conversion (ref.evictExpired now) _ username now).1 key)
    rw [recordOf_recordFailureKey, recordOf_recordFailureKey]
    by_cases hsame : key = username ∧ username ≠ []
    · rw [if_pos hsame, if_pos hsame]
      obtain ⟨rfl, -⟩ := hsame
      exact (addFailure_agree conversion hevicted.settings (hevicted.users key hkey)).2
    · rw [if_neg hsame, if_neg hsame]
      exact hevicted.users key hkey
  · show RecordAgree _ _ (recordOf (recordFailureKey conversion (rl.evictExpired now) _ clientIP now).1 ip)
      (recordOf (recordFailureKey conversion (ref.evictExpired now) _ clientIP now).1 ip)
    rw [recordOf_recordFailureKey, recordOf_recordFailureKey]
    by_cases hsame : ip = clientIP ∧ clientIP ≠ []
    · rw [if_pos hsame, if_pos hsame]
      obtain ⟨rfl, -⟩ := hsame
      exact (addFailure_agree conversion hevicted.settings hevicted.ips).2
    · rw [if_neg hsame, if_neg hsame]
      exact hevicted.ips

/-- A failure of a passkey login from another address, on one side. -/
theorem AlikeFor.recordFailure_other (halike : AlikeFor ip clock rl ref) (hzero : zeroTime ≤ clock)
    (hnow : now ≤ clock) (hother : clientIP ≠ ip) :
    AlikeFor ip clock (RateLimiter.recordFailure conversion rl passkeyLoginKey clientIP now).1 ref := by
  have hevicted := halike.evictExpired hzero hnow
  refine ⟨⟨hevicted.settings.window_eq, hevicted.settings.threshold_eq, hevicted.settings.maxLockout_eq,
    hevicted.settings.baseLockout_eq⟩, fun key hkey => ?_, ?_⟩
  · show RecordAgree _ _ (recordOf (recordFailureKey conversion (rl.evictExpired now) _ passkeyLoginKey now).1 key) _
    rw [recordOf_recordFailureKey, if_neg fun h => hkey h.1]
    exact hevicted.users key hkey
  · show RecordAgree _ _ (recordOf (recordFailureKey conversion (rl.evictExpired now) _ clientIP now).1 ip) _
    rw [recordOf_recordFailureKey, if_neg fun h => hother h.1.symm]
    exact hevicted.ips

theorem AlikeFor.recordSuccess (halike : AlikeFor ip clock rl ref) :
    AlikeFor ip clock (rl.recordSuccess username) (ref.recordSuccess username) where
  settings := ⟨halike.settings.window_eq, halike.settings.threshold_eq, halike.settings.maxLockout_eq,
    halike.settings.baseLockout_eq⟩
  users key hkey := by
    by_cases hsame : key = username
    · subst hsame
      simpa [RateLimiter.recordSuccess, recordOf] using RecordAgree.refl _ _ _
    · simpa [RateLimiter.recordSuccess, recordOf, hsame] using halike.users key hkey
  ips := halike.ips

theorem AlikeFor.userLocked_iff (halike : AlikeFor ip now rl ref) (hzero : zeroTime ≤ now)
    (hkey : key ≠ passkeyLoginKey) : rl.UserLocked key now ↔ ref.UserLocked key now := by
  unfold UserLocked
  rw [checkKey_eq_of_agree hzero (halike.users key hkey)]

theorem AlikeFor.ipLocked_iff (halike : AlikeFor ip now rl ref) (hzero : zeroTime ≤ now) :
    rl.IPLocked ip now ↔ ref.IPLocked ip now := by
  unfold IPLocked
  rw [checkKey_eq_of_agree hzero halike.ips]

end RateLimiter

/-! ## Visits -/

/-- A request for a login. -/
inductive SignInRequest where
  | login (req : LoginRequest)
  | beginPasskeyLogin (clientIP : GoString)
  | finishPasskeyLogin (req : FinishPasskeyLoginRequest)

/-- The handler of a request, without its response. -/
def SignInRequest.handler (svc : AuthService) : SignInRequest → AuthHandler Unit
  | .login req => (Handlers.login svc req).void
  | .beginPasskeyLogin clientIP => (Handlers.beginPasskeyLogin svc clientIP).void
  | .finishPasskeyLogin req => (Handlers.finishPasskeyLogin svc req).void

def SignInRequest.clientIP : SignInRequest → GoString
  | .login req => req.clientIP
  | .beginPasskeyLogin clientIP => clientIP
  | .finishPasskeyLogin req => req.clientIP

/-- A request with what its calls find outside: the time, the random bytes, what bcrypt, the library and the
database answer. -/
structure Visit where
  request : SignInRequest
  answers : World AuthCall AuthAnswer

/-- The answer from outside to the next call. -/
def Visit.outside (v : Visit) (past : List AuthEvent) (op : AuthCall) : AuthAnswer op :=
  v.answers op ((past.map Event.op).count op)

/-- The answer to a call in a state, given the one from outside.  The limiter answers its checks itself, and
the row from outside is found by a lookup of a challenge if it is among those that match; otherwise the first
one that does is found. -/
def AuthState.settle (w : AuthWorld) (s : AuthState) : (op : AuthCall) → AuthAnswer op → AuthAnswer op
  | .check username ip now, _ => (s.limiter.check username ip now).2
  | .getUnconsumedWebAuthnChallenge arg, found =>
    if s.allowed w ⟨.getUnconsumedWebAuthnChallenge arg, found⟩ then found
    else
      match s.challenges.table.rows.find? fun row => decide (Challenges.Unconsumed w.sqlLess arg row) with
      | some row => .ok row
      | none => .error .noRows
  | _, answer => answer

/-- Reading the clock is when time passes; it does not go back. -/
def AuthState.reach (s : AuthState) : (op : AuthCall) → AuthAnswer op → Option AuthState
  | .timeNow, now => s.tick now
  | _, _ => some s

/-- The reply to the next call of a visit: time passes, and the state answers. -/
def Visit.reply (w : AuthWorld) (v : Visit) (past : List AuthEvent) (s : AuthState) (op : AuthCall) :
    Option (AuthAnswer op × AuthState) :=
  (s.reach op (v.outside past op)).bind fun reached =>
    ((authBackend w).answer reached ⟨op, reached.settle w op (v.outside past op)⟩).map fun next =>
      (reached.settle w op (v.outside past op), next)

/-- How a visit went. -/
abbrev VisitEnd := Lib.Served AuthState AuthCall AuthAnswer ConnectError Unit

/-- A visit, from the request to the response. -/
def runVisit (w : AuthWorld) (svc : AuthService) (s : AuthState) (v : Visit) : Option (AuthState × VisitEnd) :=
  ((v.request.handler svc).serve (v.reply w) [] s).map fun r => (r.shared, r)

/-- The client is told to come back later. -/
def isLimited : Except ConnectError Unit → Bool
  | .error err => decide (err.code = .resourceExhausted)
  | .ok _ => false

/-- The user of the credential is found. -/
def resolves : AuthEvent → Bool
  | ⟨.getUser _, .ok _⟩ => true
  | _ => false

/-- A `FinishPasskeyLogin` from another address that fails before its user is known. -/
def isUnresolvedFrom (ip : GoString) (v : Visit) (r : VisitEnd) : Bool :=
  match v.request, r.result with
  | .finishPasskeyLogin req, .error _ => decide (req.clientIP ≠ ip) && !r.past.any resolves
  | _, _ => false

/-- The condition on a call of a visit that both runs have: the username of passkey logins is not locked
unless the client's address is, another address than `ip` is locked in both runs or in none, and a lookup
finds the same challenge. -/
def KeysApart (w : AuthWorld) (ip : GoString) (v : Visit) (past : List AuthEvent) (s t : AuthState) :
    AuthCall → Prop
  | .check username clientIP now =>
    (username = passkeyLoginKey →
      (s.limiter.UserLocked username now → s.limiter.IPLocked clientIP now) ∧
        (t.limiter.UserLocked username now → t.limiter.IPLocked clientIP now)) ∧
      (clientIP ≠ ip → (s.limiter.IPLocked clientIP now ↔ t.limiter.IPLocked clientIP now))
  | .getUnconsumedWebAuthnChallenge arg =>
    s.settle w (.getUnconsumedWebAuthnChallenge arg) (v.outside past (.getUnconsumedWebAuthnChallenge arg)) =
      t.settle w (.getUnconsumedWebAuthnChallenge arg) (v.outside past (.getUnconsumedWebAuthnChallenge arg))
  | _ => True

/-- The same for all calls of a visit. -/
def VisitApart (w : AuthWorld) (svc : AuthService) (ip : GoString) (s t : AuthState) (v : Visit) : Prop :=
  (v.request.handler svc).AlongBoth (v.reply w) (KeysApart w ip v) [] s t

/-! ## The texts of the handlers -/

/-- A check that locks the client out. -/
def locksOut : AuthEvent → Bool
  | ⟨.check _ _ _, answer⟩ => answer.1
  | _ => false

/-- A passkey login knows its user; for the other requests it does not matter. -/
def SignInRequest.Resolved (request : SignInRequest) (past : List AuthEvent) : Prop :=
  match request with
  | .finishPasskeyLogin _ => past.any resolves = true
  | _ => True

/-- What a request calls: nothing but the event when it is locked out, the limiter with the time it has just
read, and before its user is known only failures under the shared username. -/
def SignInRequest.Call (request : SignInRequest) (past : List AuthEvent) : AuthCall → Prop
  | .check _ _ now => past.any locksOut = false ∧ past.head? = some ⟨.timeNow, now⟩
  | .recordFailure username clientIP now => past.any locksOut = false ∧ past.head? = some ⟨.timeNow, now⟩ ∧
    (request.Resolved past ∨ username = passkeyLoginKey ∧ clientIP = request.clientIP)
  | .recordSuccess _ => past.any locksOut = false ∧ request.Resolved past
  | .recordAuthEvent _ _ _ _ => True
  | _ => past.any locksOut = false

/-- How a request that fails has failed. -/
def LimitedIfLocked (past : List AuthEvent) (err : ConnectError) : Prop :=
  past.any locksOut = false ∨ err.code = .resourceExhausted

/-- A request keeps to its text. -/
abbrev SignInText (request : SignInRequest) {α : Type} (p : AuthHandler α) (past : List AuthEvent) : Prop :=
  p.AlongOr request.Call (fun past _ => past.any locksOut = false) LimitedIfLocked past

variable {svc : AuthService} {request : SignInRequest} {past : List AuthEvent}

theorem signInText_completeLogin {user : User} {rememberMe : Bool} {reqHeader : Header} {method clientIP : GoString}
    (hfree : past.any locksOut = false) :
    SignInText request (completeLogin svc user rememberMe reqHeader method clientIP) past := by
  unfold SignInText completeLogin Handlers.issueSession
  simp only [Program.alongOr_bind, Program.alongOr_perform, Program.alongOr_orFail, Program.alongOr_done]
  refine ⟨hfree, fun token => ⟨fun bytes _ => ⟨hfree, fun now => ⟨hfree, fun created => ⟨fun _ _ => ?_, ?_⟩⟩⟩, ?_⟩⟩
  · exact ⟨trivial, fun _ => hfree⟩
  · exact fun err _ => Or.inl hfree
  · exact fun err _ => Or.inl hfree

theorem signInText_rejectPassword {req : LoginRequest} {userID : Option Int} {name : GoString}
    (hfree : past.any locksOut = false) :
    SignInText (.login req) (rejectPassword req userID name) past :=
  ⟨hfree, fun _ => ⟨⟨hfree, rfl, Or.inl trivial⟩, fun _ => ⟨trivial, fun _ => Or.inl hfree⟩⟩⟩

theorem signInText_login (svc : AuthService) (req : LoginRequest) :
    SignInText (.login req) (login svc req) [] := by
  unfold SignInText login
  simp only [Program.alongOr_bind, Program.alongOr_ensure]
  refine ⟨fun _ => ?_, fun _ => Or.inl rfl⟩
  refine alongOr_requireUnlocked rfl (fun _ => ⟨rfl, rfl⟩) (fun _ _ => trivial) (fun _ _ => Or.inr rfl) ?_
  intro now wait
  simp only [Program.alongOr_perform]
  refine ⟨rfl, fun found => ?_⟩
  rcases found with (_ | message) | user
  · show SignInText _ (unknownUser svc req) _
    unfold unknownUser
    split
    · exact ⟨rfl, fun _ => signInText_rejectPassword rfl⟩
    · exact signInText_rejectPassword rfl
  · exact Or.inl rfl
  · refine ⟨rfl, fun compared => ?_⟩
    cases compared with
    | error err => exact signInText_rejectPassword rfl
    | ok u => exact ⟨⟨rfl, trivial⟩, fun _ => signInText_completeLogin rfl⟩

theorem signInText_beginPasskeyLogin (svc : AuthService) (clientIP : GoString) :
    SignInText (.beginPasskeyLogin clientIP) (beginPasskeyLogin svc clientIP) [] := by
  unfold SignInText beginPasskeyLogin requireWebauthn
  simp only [Program.alongOr_bind, Program.alongOr_ensure]
  refine ⟨fun _ => ?_, fun _ => Or.inl rfl⟩
  refine alongOr_requireUnlocked rfl (fun _ => ⟨rfl, rfl⟩) (fun _ _ => trivial) (fun _ _ => Or.inr rfl) ?_
  intro now wait
  simp only [Program.alongOr_perform, Program.alongOr_orFail]
  refine ⟨rfl, fun begun => ⟨fun login _ => ⟨rfl, fun ext => ⟨fun json _ => ?_, fun _ _ => Or.inl rfl⟩⟩,
    fun _ _ => Or.inl rfl⟩⟩
  refine ⟨rfl, fun time => ⟨rfl, fun stored => ⟨fun row _ => ?_, fun _ _ => Or.inl rfl⟩⟩⟩
  exact ⟨rfl, fun options => ⟨fun _ _ => rfl, fun _ _ => Or.inl rfl⟩⟩

section FinishPasskeyLogin

variable {req : FinishPasskeyLoginRequest}

theorem signInText_rejectUnresolved {reason : String} {err : ConnectError} (hfree : past.any locksOut = false) :
    SignInText (.finishPasskeyLogin req) (rejectUnresolved req reason err) past :=
  ⟨hfree, fun _ => ⟨⟨hfree, rfl, Or.inr ⟨rfl, rfl⟩⟩, fun _ => ⟨trivial, fun _ => Or.inl hfree⟩⟩⟩

theorem signInText_rejectAssertion {user : User} {reason : String} {err : ConnectError}
    (hfree : past.any locksOut = false) (hresolved : past.any resolves = true) :
    SignInText (.finishPasskeyLogin req) (rejectAssertion req user reason err) past :=
  ⟨hfree, fun _ => ⟨⟨hfree, rfl, Or.inl hresolved⟩, fun _ => ⟨trivial, fun _ => Or.inl hfree⟩⟩⟩

theorem signInText_acceptAssertion {response : ParsedAssertion} {credRow : WebauthnCredential} {user : User}
    {validCred : Credential} (hfree : past.any locksOut = false) (hresolved : past.any resolves = true) :
    SignInText (.finishPasskeyLogin req) (acceptAssertion svc req response credRow user validCred) past := by
  unfold acceptAssertion
  split
  · exact ⟨hfree, fun _ => signInText_rejectAssertion hfree hresolved⟩
  · exact ⟨hfree, fun now => ⟨hfree, fun _ => ⟨⟨hfree, hresolved⟩, fun _ => signInText_completeLogin hfree⟩⟩⟩

theorem signInText_concludeAssertion {response : ParsedAssertion} {credRow : WebauthnCredential} {user : User}
    (hfree : past.any locksOut = false) (hresolved : past.any resolves = true) (valid : Except GoString Credential) :
    SignInText (.finishPasskeyLogin req) (concludeAssertion svc req response credRow user valid) past := by
  cases valid with
  | error err => exact signInText_rejectAssertion hfree hresolved
  | ok validCred => exact signInText_acceptAssertion hfree hresolved

theorem signInText_validateAssertion {response : ParsedAssertion} {dbChallenge : WebauthnChallenge}
    {credRow : WebauthnCredential} {user : User} (hfree : past.any locksOut = false)
    (hresolved : past.any resolves = true) :
    SignInText (.finishPasskeyLogin req) (validateAssertion svc req response dbChallenge credRow user) past := by
  unfold SignInText validateAssertion
  simp only [Program.alongOr_bind, Program.alongOr_perform]
  apply alongOr_readExtensions
  · exact fun _ => hfree
  · refine ⟨hfree, fun valid => ?_⟩
    apply signInText_concludeAssertion
    · exact hfree
    · exact hresolved
  · intro data read ext
    refine ⟨hfree, fun valid => ?_⟩
    apply signInText_concludeAssertion
    · exact hfree
    · exact hresolved
  · exact fun _ _ _ => Or.inl hfree

theorem signInText_resolveUser {response : ParsedAssertion} {dbChallenge : WebauthnChallenge}
    (hfree : past.any locksOut = false) :
    SignInText (.finishPasskeyLogin req) (resolveUser svc req response dbChallenge) past := by
  refine ⟨hfree, fun foundCred => ?_⟩
  cases foundCred with
  | error err => exact signInText_rejectUnresolved hfree
  | ok credRow =>
      refine ⟨hfree, fun foundUser => ?_⟩
      cases foundUser with
      | error err =>
          exact ⟨hfree, fun _ => ⟨⟨hfree, rfl, Or.inr ⟨rfl, rfl⟩⟩, fun _ => Or.inl hfree⟩⟩
      | ok user =>
          show SignInText _ (requireUnlocked user.username req.clientIP (some user.id) user.username >>= _) _
          unfold SignInText
          rw [Program.alongOr_bind]
          refine alongOr_requireUnlocked hfree (fun _ => ⟨hfree, rfl⟩) (fun _ _ => trivial) (fun _ _ => Or.inr rfl) ?_
          exact fun now wait => signInText_validateAssertion hfree rfl

theorem signInText_finishPasskeyLogin (svc : AuthService) (req : FinishPasskeyLoginRequest) :
    SignInText (.finishPasskeyLogin req) (finishPasskeyLogin svc req) [] := by
  unfold SignInText finishPasskeyLogin requireWebauthn
  simp only [Program.alongOr_bind, Program.alongOr_ensure]
  refine ⟨fun _ => ⟨rfl, fun parsed => ?_⟩, fun _ => Or.inl rfl⟩
  cases parsed with
  | error err => exact ⟨rfl, fun _ => ⟨⟨rfl, rfl, Or.inr ⟨rfl, rfl⟩⟩, fun _ => Or.inl rfl⟩⟩
  | ok response =>
      refine ⟨rfl, fun now => ⟨rfl, fun found => ?_⟩⟩
      cases found with
      | error err => exact signInText_rejectUnresolved rfl
      | ok dbChallenge => exact ⟨rfl, fun _ => signInText_resolveUser rfl⟩

end FinishPasskeyLogin

/-- The text of a request. -/
theorem signInText_handler (svc : AuthService) (request : SignInRequest) :
    SignInText request (request.handler svc) [] := by
  cases request with
  | login req => exact Program.alongOr_bind.mpr (signInText_login svc req)
  | beginPasskeyLogin clientIP => exact Program.alongOr_bind.mpr (signInText_beginPasskeyLogin svc clientIP)
  | finishPasskeyLogin req => exact Program.alongOr_bind.mpr (signInText_finishPasskeyLogin svc req)

/-! ## One call -/

variable {w : AuthWorld} {v : Visit} {s s' t t' : AuthState} {op : AuthCall} {ip : GoString}

theorem reply_timeNow {now : Int} (hreply : v.reply w past s .timeNow = some (now, s')) :
    now = v.outside past .timeNow ∧ s.clock ≤ now ∧ s' = { s with clock := now } := by
  simp only [Visit.reply, AuthState.reach, AuthState.settle, Option.bind_eq_some_iff, Option.map_eq_some_iff,
    Prod.mk.injEq] at hreply
  obtain ⟨reached, hreached, next, hnext, rfl, rfl⟩ := hreply
  obtain ⟨hle, rfl⟩ := tick_eq_some_iff.mp hreached
  obtain ⟨-, rfl⟩ := authAnswer_eq_some_iff.mp hnext
  exact ⟨rfl, hle, rfl⟩

theorem reply_of_ne (hop : op ≠ .timeNow) {answer : AuthAnswer op}
    (hreply : v.reply w past s op = some (answer, s')) :
    answer = s.settle w op (v.outside past op) ∧ s' = s.after w ⟨op, answer⟩ := by
  have hreach : s.reach op (v.outside past op) = some s := by
    unfold AuthState.reach
    split
    · exact absurd rfl hop
    · rfl
  simp only [Visit.reply, hreach, Option.bind_some, Option.map_eq_some_iff, Prod.mk.injEq] at hreply
  obtain ⟨next, hnext, rfl, rfl⟩ := hreply
  exact ⟨rfl, (authAnswer_eq_some_iff.mp hnext).2⟩

/-- What a call outside the limiter is answered depends on the state only for a lookup. -/
theorem settle_eq_of_keysApart (hop : ¬ op.OfLimiter) (hapart : KeysApart w ip v past s t op) :
    s.settle w op (v.outside past op) = t.settle w op (v.outside past op) := by
  cases op
  case getUnconsumedWebAuthnChallenge arg => exact hapart
  case check username clientIP now => exact absurd trivial hop
  all_goals rfl

theorem locksOut_of_not_ofLimiter {answer : AuthAnswer op} (hop : ¬ op.OfLimiter) :
    locksOut ⟨op, answer⟩ = false := by
  cases op
  case check username clientIP now => exact absurd trivial hop
  all_goals rfl

/-- The states of the two runs. -/
structure Alike (ip : GoString) (s t : AuthState) : Prop where
  limiter : RateLimiter.AlikeFor ip (max s.clock t.clock) s.limiter t.limiter
  left : zeroTime ≤ s.clock
  right : zeroTime ≤ t.clock

theorem Alike.symm (halike : Alike ip s t) : Alike ip t s :=
  ⟨max_comm s.clock t.clock ▸ halike.limiter.symm, halike.right, halike.left⟩

/-- The states within a visit that both runs have. -/
structure InStep (ip : GoString) (past : List AuthEvent) (s t : AuthState) : Prop where
  alike : Alike ip s t
  unlocked : past.any locksOut = false
  clocks : ∀ now, past.head? = some ⟨.timeNow, now⟩ → s.clock = now ∧ t.clock = now

/-- A check in two runs at the same instant. -/
theorem check_locked_congr {username clientIP : GoString} {now : Int} (hstep : InStep ip past s t)
    (hhead : past.head? = some ⟨.timeNow, now⟩) (hapart : KeysApart w ip v past s t (.check username clientIP now)) :
    (s.limiter.check username clientIP now).2.1 = true ↔ (t.limiter.check username clientIP now).2.1 = true := by
  obtain ⟨hs, ht⟩ := hstep.clocks now hhead
  have halike : RateLimiter.AlikeFor ip now s.limiter t.limiter := by
    have hlimiter := hstep.alike.limiter
    rwa [hs, ht, max_self] at hlimiter
  have hzero : zeroTime ≤ now := hs ▸ hstep.alike.left
  obtain ⟨hshared, hothers⟩ := hapart
  have hip : s.limiter.IPLocked clientIP now ↔ t.limiter.IPLocked clientIP now := by
    by_cases hsame : clientIP = ip
    · subst hsame
      exact halike.ipLocked_iff hzero
    · exact hothers hsame
  rw [RateLimiter.check_locked_iff, RateLimiter.check_locked_iff]
  by_cases hkey : username = passkeyLoginKey
  · obtain ⟨hleft, hright⟩ := hshared hkey
    rw [or_iff_right_of_imp hleft, or_iff_right_of_imp hright, hip]
  · rw [halike.userLocked_iff hzero hkey, hip]

/-- A call of a visit that both runs have: they stay in step, or the client is locked out in both. -/
theorem inStep_call (hstep : InStep ip past s t) (htext : request.Call past op)
    (hapart : KeysApart w ip v past s t op) {left right : AuthAnswer op}
    (hleft : v.reply w past s op = some (left, s')) (hright : v.reply w past t op = some (right, t')) :
    (left = right ∧ InStep ip (⟨op, left⟩ :: past) s' t') ∨
      locksOut ⟨op, left⟩ = true ∧ locksOut ⟨op, right⟩ = true ∧ Alike ip s' t' := by
  by_cases htime : op = .timeNow
  · -- the clock is read: both runs learn the same instant
    subst htime
    obtain ⟨hanswer, hclock, rfl⟩ := reply_timeNow hleft
    obtain ⟨hanswer', hclock', rfl⟩ := reply_timeNow hright
    obtain rfl : left = right := hanswer.trans hanswer'.symm
    refine Or.inl ⟨rfl, ⟨?_, hstep.alike.left.trans hclock, hstep.alike.right.trans hclock'⟩, hstep.unlocked, ?_⟩
    · show RateLimiter.AlikeFor ip (max left left) s.limiter t.limiter
      apply hstep.alike.limiter.mono
      omega
    · intro now hhead
      cases hhead
      exact ⟨rfl, rfl⟩
  obtain ⟨hanswer, rfl⟩ := reply_of_ne htime hleft
  obtain ⟨hanswer', rfl⟩ := reply_of_ne htime hright
  have hother : ∀ now, (⟨op, left⟩ :: past : List AuthEvent).head? = some ⟨.timeNow, now⟩ →
      (s.after w ⟨op, left⟩).clock = now ∧ (t.after w ⟨op, right⟩).clock = now := by
    intro now hhead
    cases hhead
    exact absurd rfl htime
  by_cases hlimiter : op.OfLimiter
  · cases op
    case check username clientIP now =>
      obtain ⟨hs, ht⟩ := hstep.clocks now htext.2
      have hnow : now ≤ max s.clock t.clock := hs ▸ le_max_left _ _
      have halike : Alike ip (s.after w ⟨.check username clientIP now, left⟩)
          (t.after w ⟨.check username clientIP now, right⟩) :=
        ⟨hstep.alike.limiter.evictBoth (hstep.alike.left.trans (le_max_left _ _)) hnow, hstep.alike.left,
          hstep.alike.right⟩
      have hlocked := check_locked_congr hstep htext.2 hapart
      -- the client is locked out in both runs, or in neither; the wait may differ
      cases hchecked : (s.limiter.check username clientIP now).2.1 with
      | true => exact Or.inr ⟨hanswer ▸ hchecked, hanswer' ▸ hlocked.mp hchecked, halike⟩
      | false =>
          have hchecked' : (t.limiter.check username clientIP now).2.1 = false := by
            rw [← Bool.not_eq_true, ← hlocked, hchecked]
            exact Bool.false_ne_true
          have hfree : left = (false, 0) := hanswer.trans (RateLimiter.check_of_unlocked hchecked)
          have hfree' : right = (false, 0) := hanswer'.trans (RateLimiter.check_of_unlocked hchecked')
          subst hfree
          subst hfree'
          exact Or.inl ⟨rfl, halike, hstep.unlocked, hother⟩
    case recordFailure username clientIP now =>
      obtain ⟨hs, ht⟩ := hstep.clocks now htext.2.1
      refine Or.inl ⟨rfl, ⟨?_, hstep.alike.left, hstep.alike.right⟩, hstep.unlocked, hother⟩
      have hlimiter := hstep.alike.limiter
      have hzero : zeroTime ≤ now := hs ▸ hstep.alike.left
      rw [hs, ht, max_self] at hlimiter
      show RateLimiter.AlikeFor ip (max s.clock t.clock) _ _
      rw [hs, ht, max_self]
      exact hlimiter.recordFailure hzero
    case recordSuccess username =>
      exact Or.inl ⟨rfl, ⟨hstep.alike.limiter.recordSuccess, hstep.alike.left, hstep.alike.right⟩, hstep.unlocked,
        hother⟩
    all_goals exact absurd hlimiter id
  · -- every other call is answered from what the two runs have in common
    obtain rfl : left = right := by
      rw [hanswer, hanswer']
      exact settle_eq_of_keysApart hlimiter hapart
    refine Or.inl ⟨rfl, ?_, ?_, hother⟩
    · constructor
      · rw [limiter_after hlimiter, limiter_after hlimiter, clock_after, clock_after]
        exact hstep.alike.limiter
      · rw [clock_after]
        exact hstep.alike.left
      · rw [clock_after]
        exact hstep.alike.right
    · rw [List.any_cons, locksOut_of_not_ofLimiter hlimiter, hstep.unlocked, Bool.or_false]

/-- A request that is locked out ends there. -/
theorem serve_of_locked {p : AuthHandler Unit} {r : VisitEnd} (htext : SignInText request p past)
    (hlocked : past.any locksOut = true) (hserve : p.serve (v.reply w) past s = some r) :
    r.shared = s ∧ isLimited r.result = true := by
  obtain ⟨⟨hstill, hshared⟩, hok, herror⟩ :=
    Program.serve_invariant (fun past st => past.any locksOut = true ∧ st = s) (by
      intro past st op answer st' hcall hinv hreply
      obtain ⟨hstill, rfl⟩ := hinv
      have hfree : ∀ {P : Prop}, past.any locksOut = false → P := by
        intro P hfree
        rw [hstill] at hfree
        cases hfree
      cases op
      case recordAuthEvent userID username event detail =>
        have hother : AuthCall.recordAuthEvent userID username event detail ≠ .timeNow := by
          intro heq
          cases heq
        obtain ⟨-, rfl⟩ := reply_of_ne hother hreply
        exact ⟨hstill, rfl⟩
      case check => exact hfree hcall.1
      case recordFailure => exact hfree hcall.1
      case recordSuccess => exact hfree hcall.1
      all_goals exact hfree hcall) htext ⟨hlocked, rfl⟩ hserve
  refine ⟨hshared, ?_⟩
  cases hresult : r.result with
  | ok u =>
      have hfree := hok u hresult
      rw [hstill] at hfree
      cases hfree
  | error err =>
      rcases herror err hresult with hfree | hcode
      · rw [hstill] at hfree
        cases hfree
      · exact decide_eq_true hcode

/-! ## Visits of both runs, and of one -/

/-- A visit of both runs. -/
theorem visit_both {r r' : AuthState × VisitEnd} (halike : Alike ip s t) (hapart : VisitApart w svc ip s t v)
    (hleft : runVisit w svc s v = some r) (hright : runVisit w svc t v = some r') :
    Alike ip r.1 r'.1 ∧ isLimited r.2.result = isLimited r'.2.result := by
  obtain ⟨served, hserved, rfl⟩ := Option.map_eq_some_iff.mp hleft
  obtain ⟨served', hserved', rfl⟩ := Option.map_eq_some_iff.mp hright
  refine Program.serve_lockstep (InStep ip)
    (fun s result t result' => Alike ip s t ∧ isLimited result = isLimited result') ?_ ?_
    (signInText_handler svc v.request) hapart ⟨halike, rfl, nofun⟩ hserved hserved'
  · intro past s t result hstep
    exact ⟨hstep.alike, rfl⟩
  · intro past s t op next left s' right t' hstep hcall htext hreply hreply'
    rcases inStep_call hstep htext.1 hcall hreply hreply' with hnext | ⟨hlocked, hlocked', halike⟩
    · exact Or.inl hnext
    · refine Or.inr fun r r' hserve hserve' => ?_
      obtain ⟨hshared, hlimited⟩ :=
        serve_of_locked (htext.2 left) (by rw [List.any_cons, hlocked, Bool.true_or]) hserve
      obtain ⟨hshared', hlimited'⟩ :=
        serve_of_locked (htext.2 right) (by rw [List.any_cons, hlocked', Bool.true_or]) hserve'
      rw [hshared, hshared', hlimited, hlimited']
      exact ⟨halike, rfl⟩

/-- A call of a passkey login from another address, before its user is known. -/
theorem alike_call {req : FinishPasskeyLoginRequest} {answer : AuthAnswer op} (hother : req.clientIP ≠ ip)
    (htext : (SignInRequest.finishPasskeyLogin req).Call past op) (hunresolved : past.any resolves = false)
    (halike : Alike ip s t) (hclock : ∀ now, past.head? = some ⟨.timeNow, now⟩ → s.clock = now)
    (hreply : v.reply w past s op = some (answer, s')) : Alike ip s' t := by
  have hnotResolved : ¬ (SignInRequest.finishPasskeyLogin req).Resolved past := by
    intro hresolved
    have hknown : past.any resolves = true := hresolved
    rw [hunresolved] at hknown
    cases hknown
  have hzero : zeroTime ≤ max s.clock t.clock := halike.left.trans (le_max_left _ _)
  by_cases htime : op = .timeNow
  · subst htime
    obtain ⟨-, hle, rfl⟩ := reply_timeNow hreply
    refine ⟨?_, halike.left.trans hle, halike.right⟩
    show RateLimiter.AlikeFor ip (max answer t.clock) s.limiter t.limiter
    apply halike.limiter.mono
    omega
  obtain ⟨-, rfl⟩ := reply_of_ne htime hreply
  by_cases hlimiter : op.OfLimiter
  · cases op
    case check username clientIP now =>
      have hnow : now ≤ max s.clock t.clock := hclock now htext.2 ▸ le_max_left _ _
      exact ⟨halike.limiter.evictExpired hzero hnow, halike.left, halike.right⟩
    case recordFailure username clientIP now =>
      have hnow : now ≤ max s.clock t.clock := hclock now htext.2.1 ▸ le_max_left _ _
      obtain hresolved | ⟨rfl, rfl⟩ := htext.2.2
      · exact absurd hresolved hnotResolved
      · exact ⟨halike.limiter.recordFailure_other hzero hnow hother, halike.left, halike.right⟩
    case recordSuccess username => exact absurd htext.2 hnotResolved
    all_goals exact absurd hlimiter id
  · constructor
    · rw [limiter_after hlimiter, clock_after]
      exact halike.limiter
    · rw [clock_after]
      exact halike.left
    · exact halike.right

/-- A visit that only one run has. -/
theorem visit_one {r : AuthState × VisitEnd} (halike : Alike ip s t) (hvisit : runVisit w svc s v = some r)
    (hunresolved : isUnresolvedFrom ip v r.2 = true) : Alike ip r.1 t := by
  obtain ⟨served, hserved, rfl⟩ := Option.map_eq_some_iff.mp hvisit
  have htext := signInText_handler svc v.request
  unfold isUnresolvedFrom at hunresolved
  split at hunresolved
  · rename_i req err hrequest hresult
    rw [Bool.and_eq_true, decide_eq_true_eq, Bool.not_eq_true'] at hunresolved
    rw [hrequest] at htext hserved
    obtain ⟨hend, -, -⟩ := Program.serve_invariant
      (fun past st => past.any resolves = false →
        Alike ip st t ∧ ∀ now, past.head? = some ⟨.timeNow, now⟩ → st.clock = now) (by
        intro past st op answer st' hcall hinv hreply hnone
        rw [List.any_cons, Bool.or_eq_false_iff] at hnone
        obtain ⟨halike, hclock⟩ := hinv hnone.2
        refine ⟨alike_call hunresolved.1 hcall hnone.2 halike hclock hreply, fun now hhead => ?_⟩
        cases hhead
        obtain ⟨-, -, rfl⟩ := reply_timeNow hreply
        rfl) htext (fun _ => ⟨halike, nofun⟩) hserved
    exact (hend hunresolved.2).1
  · cases hunresolved

/-! ## Two runs -/

/-- Two runs of the server, from one state. -/
def pairStart (s : AuthState) : Twins AuthState Visit VisitEnd := ⟨s, s, []⟩

/-- A turn of the two runs, where one run may have passkey logins from other addresses that fail before their
user is known. -/
def pairStep (w : AuthWorld) (svc : AuthService) (ip : GoString) :
    Twins AuthState Visit VisitEnd → Turn Visit → Option (Twins AuthState Visit VisitEnd) :=
  twinStep (runVisit w svc) (isUnresolvedFrom ip)

/-- Every `BeginPasskeyLogin` from an address has been answered alike, as far as the lockout goes. -/
def AnswersAlike (ip : GoString) (c : Twins AuthState Visit VisitEnd) : Prop :=
  ∀ entry ∈ c.seen, entry.1.request = .beginPasskeyLogin ip →
    isLimited entry.2.1.result = isLimited entry.2.2.result

/-- In every two runs in which the shared username is not locked for a client that is not locked itself, the
other addresses are locked alike, and the requests find the same challenges, `BeginPasskeyLogin` is answered
alike. -/
theorem begin_unaffected (w : AuthWorld) (svc : AuthService) (ip : GoString) (s : AuthState)
    (turns : List (Turn Visit)) (final : Twins AuthState Visit VisitEnd) (hclock : zeroTime ≤ s.clock)
    (hguard : Guarded (pairStep w svc ip) (Turn.Common (VisitApart w svc ip)) (pairStart s) turns)
    (hrun : exec (pairStep w svc ip) (pairStart s) turns = some final) : AnswersAlike ip final := by
  have hinit : Alike ip s s := by
    refine ⟨⟨⟨rfl, rfl, rfl, rfl⟩, fun key _ => ?_, ?_⟩, hclock, hclock⟩
    · exact RateLimiter.RecordAgree.refl _ _ _
    · exact RateLimiter.RecordAgree.refl _ _ _
  have hsame : ∀ entry ∈ final.seen, isLimited entry.2.1.result = isLimited entry.2.2.result := by
    refine twins_agree (Alike ip) (fun _ x y => isLimited x.result = isLimited y.result) ?_ ?_ ?_ hguard hrun hinit
    · intro s t v r r' halike hapart hleft hright
      exact visit_both halike hapart hleft hright
    · intro s t v r halike hvisit hhidden
      exact visit_one halike hvisit hhidden
    · intro s t v r halike hvisit hhidden
      exact (visit_one halike.symm hvisit hhidden).symm
  exact fun entry hentry _ => hsame entry hentry

/-! ## Garbage from another address -/

/-- What is outside: the library rejects every assertion and begins every login, and the database stores the
challenge as the third row. -/
def outsideAt (now : Int) : World AuthCall AuthAnswer := fun op _ =>
  match op with
  | .timeNow => now
  | .randRead => .error []
  | .check _ _ _ => (false, 0)
  | .recordFailure _ _ _ => ()
  | .recordSuccess _ => ()
  | .compareHashAndPassword _ _ => .error []
  | .parseCredentialRequestResponseBody _ => .error (str "Parse error for Assertion")
  | .parseCredentialCreationResponseBody _ => .error []
  | .beginDiscoverableLogin _ => .ok ⟨str "{}", str "third", []⟩
  | .validateDiscoverableLogin _ _ _ => .error []
  | .createCredential _ _ _ => .error []
  | .marshalExtensions extensions => .ok extensions
  | .unmarshalExtensions data => .ok data
  | .marshalOptions options => .ok options
  | .getUserByUsername _ => .error .noRows
  | .getUser _ => .error .noRows
  | .createSession _ => .error []
  | .createWebAuthnChallenge arg =>
    .ok ⟨3, arg.challenge, arg.kind, arg.userID, arg.expiresAt, 0, arg.extensions⟩
  | .getUnconsumedWebAuthnChallenge _ => .error .noRows
  | .consumeWebAuthnChallenge _ => .ok ()
  | .getWebAuthnCredential _ => .error .noRows
  | .listWebAuthnCredentialsByUser _ => .ok []
  | .countWebAuthnCredentialsByUser _ => .ok 0
  | .createWebAuthnCredential _ => .error []
  | .deleteWebAuthnCredential _ _ => .ok 0
  | .updateWebAuthnCredentialUsage _ => .ok ()
  | .recordAuthEvent _ _ _ _ => ()

/-- A response that is no JSON. -/
def garbageVisit : Visit := ⟨.finishPasskeyLogin ⟨str "garbage", false, none, str "10.0.0.1"⟩, outsideAt second⟩

def beginVisit : Visit := ⟨.beginPasskeyLogin (str "10.0.0.2"), outsideAt (2 * second)⟩

/-- The address that a login is begun from. -/
def SignInRequest.beginsFrom? : SignInRequest → Option GoString
  | .beginPasskeyLogin clientIP => some clientIP
  | _ => none

/-- The logins begun in two runs, and whether each was told to come back later. -/
def begun (c : Twins AuthState Visit VisitEnd) : List (Option GoString × Bool × Bool) :=
  c.seen.map fun entry => (entry.1.request.beginsFrom?, isLimited entry.2.1.result, isLimited entry.2.2.result)

theorem request_eq_of_beginsFrom? {request : SignInRequest} {clientIP : GoString}
    (hbegins : request.beginsFrom? = some clientIP) : request = .beginPasskeyLogin clientIP := by
  cases request with
  | beginPasskeyLogin other => exact congrArg SignInRequest.beginPasskeyLogin (Option.some.inj hbegins)
  | login req => cases hbegins
  | finishPasskeyLogin req => cases hbegins

theorem step_garbageVisit :
    ((pairStep calmWorld defaultService (str "10.0.0.2") (pairStart passkeyState) (.right garbageVisit)).map
      fun c => (RateLimiter.checkKey c.left.limiter.userRecords passkeyLoginKey (2 * second),
        RateLimiter.checkKey c.right.limiter.userRecords passkeyLoginKey (2 * second))) = some (0, 0) := by
  decide +kernel

theorem exec_garbageVisit :
    ((exec (pairStep calmWorld defaultService (str "10.0.0.2")) (pairStart passkeyState)
      [.right garbageVisit, .both beginVisit]).map begun) = some [(some (str "10.0.0.2"), false, false)] := by
  decide +kernel

theorem begin_unaffected_garbageVisit :
    ∃ final, exec (pairStep calmWorld defaultService (str "10.0.0.2")) (pairStart passkeyState)
        [.right garbageVisit, .both beginVisit] = some final ∧ AnswersAlike (str "10.0.0.2") final := by
  obtain ⟨final, hfinal, -⟩ := Option.map_eq_some_iff.mp exec_garbageVisit
  have hguard : Guarded (pairStep calmWorld defaultService (str "10.0.0.2"))
      (Turn.Common (VisitApart calmWorld defaultService (str "10.0.0.2"))) (pairStart passkeyState)
      [.right garbageVisit, .both beginVisit] := by
    refine ⟨trivial, fun c hc => ⟨?_, fun _ _ => trivial⟩⟩
    have hunlocked := step_garbageVisit
    rw [hc, Option.map_some, Option.some.injEq, Prod.mk.injEq] at hunlocked
    refine ⟨trivial, fun now s t hs ht => ?_⟩
    obtain ⟨rfl, -, rfl⟩ := reply_timeNow hs
    obtain ⟨-, -, rfl⟩ := reply_timeNow ht
    refine ⟨⟨fun _ => ⟨fun hlocked => ?_, fun hlocked => ?_⟩, fun hother => absurd rfl hother⟩, ?_⟩
    · exact absurd hunlocked.1 (ne_of_gt hlocked)
    · exact absurd hunlocked.2 (ne_of_gt hlocked)
    · -- there is no condition on the calls after the check
      rintro ⟨_ | _, wait⟩ _ _ _ _
      · refine ⟨trivial, fun begun _ _ _ _ => ?_⟩
        rcases begun with err | login
        · trivial
        · refine ⟨trivial, fun extensions _ _ _ _ => ?_⟩
          rcases extensions with err | json
          · trivial
          · refine ⟨trivial, fun _ _ _ _ _ => ⟨trivial, fun stored _ _ _ _ => ?_⟩⟩
            rcases stored with err | row
            · trivial
            · refine ⟨trivial, fun options _ _ _ _ => ?_⟩
              rcases options with err | json
              · trivial
              · trivial
      · exact ⟨trivial, fun _ _ _ _ _ => trivial⟩
  exact ⟨final, hfinal, begin_unaffected _ _ _ _ _ _ le_rfl hguard hfinal⟩

/-- Five of them. -/
def garbageTurns : List (Turn Visit) := List.replicate 5 (.right garbageVisit) ++ [.both beginVisit]

theorem exec_garbageTurns :
    ((exec (pairStep calmWorld defaultService (str "10.0.0.2")) (pairStart passkeyState) garbageTurns).map begun) =
      some [(some (str "10.0.0.2"), false, true)] := by
  decide +kernel

/-- Only the run with the garbage tells the other client to come back later. -/
theorem begin_affected :
    ∃ final, exec (pairStep calmWorld defaultService (str "10.0.0.2")) (pairStart passkeyState) garbageTurns =
        some final ∧ ¬ AnswersAlike (str "10.0.0.2") final := by
  obtain ⟨final, hfinal, hbegun⟩ := Option.map_eq_some_iff.mp exec_garbageTurns
  refine ⟨final, hfinal, fun halike => ?_⟩
  obtain ⟨entry, hseen, hentry⟩ := List.map_eq_singleton_iff.mp hbegun
  simp only [Prod.mk.injEq] at hentry
  obtain ⟨hbegins, hleft, hright⟩ := hentry
  have hsame := halike entry (hseen ▸ List.mem_singleton_self entry) (request_eq_of_beginsFrom? hbegins)
  rw [hleft, hright] at hsame
  cases hsame

end Auth
end Dmanager
