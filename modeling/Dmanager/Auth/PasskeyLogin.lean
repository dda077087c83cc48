import Dmanager.Auth.Handlers
import Dmanager.Lib.Alone

/-!
# What a passkey login leaves behind

`FinishPasskeyLogin` of `internal/auth/service.go` has a dozen exits.  Here it runs alone (`Dmanager.Lib.Alone`): time
may pass before each of its calls, every statement of the database and every read of the random source succeeds, and
what the library parses and validates is not restricted.

* `Admitted` — what a run has seen that issues a session.
* `Used`, `Consumed` — what becomes of the challenge that the response answers.
* `finishPasskeyLogin_ends` — a session is only issued to an admitted login, a challenge that matches is consumed
  whatever the outcome, and a failing outcome issues no session and keeps every sign count.
-/

namespace Dmanager
namespace Auth

open Go Db Lib Server
open Program (perform)

namespace PasskeyLogin

open Handlers

/-- The statements that write the sessions or the challenges. -/
def WritesRows : AuthCall → Prop
  | .createSession _ => True
  | .createWebAuthnChallenge _ => True
  | .consumeWebAuthnChallenge _ => True
  | _ => False

/-- No session and no challenge is written. -/
structure Spared (s next : AuthState) : Prop where
  sessions : next.sessions = s.sessions
  challenges : next.challenges = s.challenges
  clock : s.clock ≤ next.clock

/-- No table is written at all. -/
structure Kept (s next : AuthState) : Prop extends Spared s next where
  users : next.users = s.users
  credentials : next.credentials = s.credentials

/-- What a failing outcome keeps: on top of that, the sign counts. -/
structure Undone (s next : AuthState) : Prop extends Spared s next where
  signCount : ∀ id, (next.credentials.getWebAuthnCredential id).map WebauthnCredential.signCount =
    (s.credentials.getWebAuthnCredential id).map WebauthnCredential.signCount

/-- One session is inserted, for this user. -/
structure Issued (s next : AuthState) (userID : Int) : Prop where
  session : ∃ session : Session, session.userID = userID ∧ s.sessions.insert? session = some next.sessions
  challenges : next.challenges = s.challenges
  clock : s.clock ≤ next.clock

section Frames

variable {w : AuthWorld} {s mid next : AuthState} {event : AuthEvent} {userID : Int}

theorem Spared.trans (hfirst : Spared s mid) (hrest : Spared mid next) : Spared s next :=
  ⟨hrest.sessions.trans hfirst.sessions, hrest.challenges.trans hfirst.challenges, hfirst.clock.trans hrest.clock⟩

theorem Spared.issued (hfirst : Spared s mid) (hrest : Issued mid next userID) : Issued s next userID :=
  ⟨hfirst.sessions ▸ hrest.session, hrest.challenges.trans hfirst.challenges, hfirst.clock.trans hrest.clock⟩

theorem Kept.refl (s : AuthState) : Kept s s := ⟨⟨rfl, rfl, le_rfl⟩, rfl, rfl⟩

theorem Kept.trans (hfirst : Kept s mid) (hrest : Kept mid next) : Kept s next :=
  ⟨hfirst.toSpared.trans hrest.toSpared, hrest.users.trans hfirst.users, hrest.credentials.trans hfirst.credentials⟩

theorem Kept.undone (hkept : Kept s next) : Undone s next := ⟨hkept.toSpared, fun _ => by rw [hkept.credentials]⟩

theorem Undone.trans (hfirst : Undone s mid) (hrest : Undone mid next) : Undone s next :=
  ⟨hfirst.toSpared.trans hrest.toSpared, fun id => (hrest.signCount id).trans (hfirst.signCount id)⟩

theorem rows_after (hop : ¬ WritesRows event.op) :
    (s.after w event).sessions = s.sessions ∧ (s.after w event).challenges = s.challenges := by
  unfold AuthState.after
  repeat' split
  all_goals first
    | exact ⟨rfl, rfl⟩
    | exact absurd trivial hop

theorem spared_of_step (hop : ¬ WritesRows event.op) (hstep : aloneStep w s event next) : Spared s next := by
  obtain ⟨now, hnow, -, rfl⟩ := hstep
  exact ⟨(rows_after hop).1, (rows_after hop).2, by rw [clock_after]; exact hnow⟩

theorem kept_of_step (hop : ¬ WritesRows event.op) (hcredentials : ¬ event.op.WritesCredentials)
    (hstep : aloneStep w s event next) : Kept s next := by
  refine ⟨spared_of_step hop hstep, ?_, ?_⟩
  · obtain ⟨now, -, -, rfl⟩ := hstep
    exact users_after event
  · obtain ⟨now, -, -, rfl⟩ := hstep
    exact credentials_after hcredentials

theorem limiter_of_step (hop : ¬ event.op.OfLimiter) (hstep : aloneStep w s event next) :
    next.limiter = s.limiter := by
  obtain ⟨now, -, -, rfl⟩ := hstep
  exact limiter_after hop

/-- The usage of a credential is written. -/
theorem updateUsage_of_step {arg : UpdateWebAuthnCredentialUsageParams} {answer : Except GoString Unit}
    (hstep : smoothStep w s ⟨.updateWebAuthnCredentialUsage arg, answer⟩ next) :
    Spared s next ∧ next.credentials = s.credentials.updateWebAuthnCredentialUsage arg := by
  refine ⟨spared_of_step id hstep.1, ?_⟩
  obtain ⟨⟨now, -, -, rfl⟩, hsmooth⟩ := hstep
  cases answer with
  | error err => cases hsmooth
  | ok _ => rfl

/-- A session is inserted. -/
theorem createSession_of_step {arg : CreateSessionParams} {answer : Except GoString Unit}
    (hstep : smoothStep w s ⟨.createSession arg, answer⟩ next) :
    answer = .ok () ∧ Issued s next arg.userID := by
  obtain ⟨⟨now, hnow, hallowed, rfl⟩, hsmooth⟩ := hstep
  cases answer with
  | error err => cases hsmooth
  | ok _ =>
      cases hcreate : Sessions.createSession s.users s.sessions arg now with
      | none => simp [AuthState.allowed, hcreate] at hallowed
      | some sessions =>
          obtain ⟨-, hinsert⟩ := Sessions.createSession_eq_some hcreate
          refine ⟨rfl, ?_⟩
          simp only [AuthState.after, hcreate]
          exact ⟨⟨arg.row now, rfl, hinsert⟩, rfl, hnow⟩

end Frames

/-! ## The pieces of the handler -/

section Pieces

variable {w : AuthWorld} {s : AuthState} {past : List AuthEvent} {α : Type} {p : AuthHandler α}
variable {service : AuthService} {req : FinishPasskeyLoginRequest}

/-- The calls that write no table. -/
def Reading (_ : List AuthEvent) (op : AuthCall) : Prop := ¬ WritesRows op ∧ ¬ op.WritesCredentials

/-- A text without writes. -/
theorem ensures_of_reading {Q : List AuthEvent → α → Prop} {E : List AuthEvent → ConnectError → Prop}
    (htext : p.AlongOr Reading Q E past) :
    p.Ensures (smoothStep w) (fun later final a => Kept s final ∧ Q later a)
      (fun later final err => Kept s final ∧ E later err) past s :=
  htext.ensures (fun _ _ _ _ hop hkept hstep => hkept.trans (kept_of_step hop.1 hop.2 hstep.1)) (Kept.refl s)

theorem ensures_recordFailureNow {key clientIP : GoString} :
    (recordFailureNow key clientIP).Ensures (smoothStep w) (fun _ final _ => Kept s final) (fun _ _ _ => False)
      past s := by
  have htext : (recordFailureNow key clientIP).AlongOr Reading (fun _ _ => True) (fun _ _ => False) past :=
    ⟨⟨id, id⟩, fun _ => ⟨⟨id, id⟩, fun _ => trivial⟩⟩
  exact (ensures_of_reading htext).imp (fun _ _ _ h => h.1) fun _ _ _ h => h.2

/-- A text without writes that only fails. -/
theorem ensures_of_rejection (htext : p.AlongOr Reading (fun _ _ => False) (fun _ _ => True) past) :
    p.Ensures (smoothStep w) (fun _ _ _ => False) (fun _ final _ => Kept s final) past s :=
  (ensures_of_reading htext).imp (fun _ _ _ h => h.2) fun _ _ _ h => h.1

theorem ensures_rejectUnresolved {reason : String} {err : ConnectError} :
    (rejectUnresolved req reason err).Ensures (smoothStep w) (fun _ _ _ => False) (fun _ final _ => Kept s final)
      past s :=
  ensures_of_rejection ⟨⟨id, id⟩, fun _ => ⟨⟨id, id⟩, fun _ => ⟨⟨id, id⟩, fun _ => trivial⟩⟩⟩

theorem ensures_rejectAssertion {user : User} {reason : String} {err : ConnectError} :
    (rejectAssertion req user reason err).Ensures (smoothStep w) (fun _ _ _ => False)
      (fun _ final _ => Kept s final) past s :=
  ensures_of_rejection ⟨⟨id, id⟩, fun _ => ⟨⟨id, id⟩, fun _ => ⟨⟨id, id⟩, fun _ => trivial⟩⟩⟩

theorem ensures_readExtensions {extensions : GoString} :
    (readExtensions extensions).Ensures (smoothStep w) (fun _ final _ => Kept s final)
      (fun _ final _ => Kept s final) past s := by
  have htext : (readExtensions extensions).AlongOr Reading (fun _ _ => True) (fun _ _ => True) past :=
    alongOr_readExtensions (fun _ => ⟨id, id⟩) trivial (fun _ _ _ => trivial) fun _ _ _ => trivial
  exact (ensures_of_reading htext).imp (fun _ _ _ h => h.1) fun _ _ _ h => h.1

/-- Neither the username nor the address was locked when the limiter was asked. -/
def UnlockedBetween (s final : AuthState) (username clientIP : GoString) (checked : Int) : Prop :=
  s.clock ≤ checked ∧ checked ≤ final.clock ∧ ¬ s.limiter.UserLocked username checked ∧
    ¬ s.limiter.IPLocked clientIP checked

/-- The check of the limiter lets a client through exactly if it is not locked out. -/
theorem ensures_requireUnlocked {key clientIP name : GoString} {userID : Option Int} :
    (requireUnlocked key clientIP userID name).Ensures (aloneStep w)
      (fun _ final _ => Kept s final ∧ ∃ checked, UnlockedBetween s final key clientIP checked)
      (fun _ final _ => Kept s final ∧
        ∃ checked, s.limiter.UserLocked key checked ∨ s.limiter.IPLocked clientIP checked)
      past s := by
  unfold requireUnlocked
  rw [Program.ensures_perform_bind]
  -- `time.Now()` is read first, so the limiter is asked about an instant of this run
  intro now mid hnow
  have hmid : Kept s mid := kept_of_step id id hnow
  have hlimiter : mid.limiter = s.limiter := limiter_of_step id hnow
  obtain ⟨clock, hclock, hread, rfl⟩ := hnow
  obtain rfl : now = clock := of_decide_eq_true hread
  rw [Program.ensures_perform_bind]
  rintro ⟨locked, wait⟩ next hcheck
  have hnext : Kept s next := hmid.trans (kept_of_step id id hcheck)
  have hafter : now ≤ next.clock := (spared_of_step id hcheck).clock
  obtain ⟨_, -, hanswer, -⟩ := hcheck
  have hlocked : locked = true ↔ s.limiter.UserLocked key now ∨ s.limiter.IPLocked clientIP now := by
    rw [← RateLimiter.check_locked_iff, ← hlimiter]
    exact Eq.congr_left (congrArg Prod.fst (of_decide_eq_true hanswer))
  cases locked with
  | true =>
      refine Program.ensures_perform_bind.mpr fun _ final hrecord => ?_
      exact ⟨hnext.trans (kept_of_step id id hrecord), now, hlocked.mp rfl⟩
  | false =>
      have hneither : ¬ (s.limiter.UserLocked key now ∨ s.limiter.IPLocked clientIP now) :=
        fun hboth => Bool.false_ne_true (hlocked.mpr hboth)
      rw [not_or] at hneither
      exact ⟨hnext, now, hclock, hafter, hneither⟩

/-- When the random source can be read and the session can be stored, the end of a login issues a session. -/
theorem ensures_completeLogin {step : AuthState → AuthEvent → AuthState → Prop} {user : User} {rememberMe : Bool}
    {reqHeader : Header} {method clientIP : GoString}
    (halone : ∀ s event next, step s event next → aloneStep w s event next)
    (hrandom : ∀ s err next, ¬ step s ⟨.randRead, .error err⟩ next)
    (hcreate : ∀ mid arg answer next, Kept s mid → arg.userID = user.id → step mid ⟨.createSession arg, answer⟩ next →
      answer = .ok () ∧ Issued mid next arg.userID) :
    (completeLogin service user rememberMe reqHeader method clientIP).Ensures step
      (fun _ final response => response.username = user.username ∧ Issued s final user.id) (fun _ _ _ => False)
      past s := by
  unfold completeLogin Handlers.issueSession
  simp only [bind_assoc]
  refine Program.ensures_perform_bind.mpr fun token drawn hdraw => ?_
  have hdrawn : Kept s drawn := kept_of_step id id (halone _ _ _ hdraw)
  cases token with
  | error err => exact absurd hdraw (hrandom s err drawn)
  | ok bytes =>
      refine Program.ensures_perform_bind.mpr fun now dated hnow => ?_
      have hdated : Kept s dated := hdrawn.trans (kept_of_step id id (halone _ _ _ hnow))
      refine Program.ensures_perform_bind.mpr fun created inserted hinsert => ?_
      obtain ⟨rfl, hissued⟩ := hcreate dated _ created inserted hdated rfl hinsert
      refine Program.ensures_perform_bind.mpr fun _ final hrecord => ?_
      have hfinal : Kept inserted final := kept_of_step id id (halone _ _ _ hrecord)
      have hsession := hdated.issued hissued
      exact ⟨rfl, hfinal.sessions ▸ hsession.session, hfinal.challenges.trans hsession.challenges,
        hsession.clock.trans hfinal.clock⟩

/-- The usage that a counter regression writes has the sign count of the row. -/
theorem undone_cloneUsage {credRow : WebauthnCredential} {final : AuthState}
    (hread : s.credentials.getWebAuthnCredential credRow.credentialID = some credRow) (hspared : Spared s final)
    (hwritten : final.credentials = s.credentials.updateWebAuthnCredentialUsage (cloneUsage credRow)) :
    Undone s final := by
  refine ⟨hspared, fun id => ?_⟩
  rw [hwritten, Credentials.get?_updateWebAuthnCredentialUsage]
  split
  · -- the row that is written to: `cloneUsage` has the count that was read from it
    rename_i hid
    have hid : id = credRow.credentialID := hid
    rw [hid, hread]
    rfl
  · rfl

/-- A verified assertion ends in a session, unless its counter has regressed. -/
theorem ensures_acceptAssertion {response : ParsedAssertion} {credRow : WebauthnCredential} {user : User}
    {validCred : Credential} (hread : s.credentials.getWebAuthnCredential credRow.credentialID = some credRow) :
    (acceptAssertion service req response credRow user validCred).Ensures (smoothStep w)
      (fun _ final _ => ¬ CounterRegressed credRow response.counter ∧ Issued s final user.id)
      (fun _ final _ => Undone s final) past s := by
  unfold acceptAssertion
  split
  · -- the counter has regressed: the clone warning is stored and the login refused
    refine Program.ensures_perform_bind.mpr fun answer warned hwarn => ?_
    obtain ⟨hspared, hwritten⟩ := updateUsage_of_step hwarn
    exact ensures_rejectAssertion.imp (fun _ _ _ hno => hno.elim)
      fun _ _ _ hkept => (undone_cloneUsage hread hspared hwritten).trans hkept.undone
  · rename_i hfresh
    refine Program.ensures_perform_bind.mpr fun now dated hnow => ?_
    refine Program.ensures_perform_bind.mpr fun answer used huse => ?_
    refine Program.ensures_perform_bind.mpr fun _ cleared hsuccess => ?_
    have hcleared : Spared s cleared :=
      ((spared_of_step id hnow.1).trans (updateUsage_of_step huse).1).trans (spared_of_step id hsuccess.1)
    refine (ensures_completeLogin (fun _ _ _ hstep => hstep.1) ?_ ?_).imp
      (fun _ _ _ hissued => ⟨hfresh, hcleared.issued hissued.2⟩) fun _ _ _ hno => hno.elim
    · rintro _ err _ ⟨-, hsmooth⟩
      cases hsmooth
    · exact fun _ _ _ _ _ _ hcreate => createSession_of_step hcreate

/-- The library has verified the assertion for this user and this credential. -/
def Validated (service : AuthService) (response : ParsedAssertion) (credRow : WebauthnCredential) (user : User)
    (past : List AuthEvent) : Prop :=
  ∃ extensions validCred, ⟨.validateDiscoverableLogin (assertionUser user credRow)
    (assertionSession service response.challenge extensions) response, .ok validCred⟩ ∈ past

theorem ensures_validateAssertion {response : ParsedAssertion} {dbChallenge : WebauthnChallenge}
    {credRow : WebauthnCredential} {user : User}
    (hread : s.credentials.getWebAuthnCredential credRow.credentialID = some credRow) :
    (validateAssertion service req response dbChallenge credRow user).Ensures (smoothStep w)
      (fun later final _ => Validated service response credRow user later ∧
        ¬ CounterRegressed credRow response.counter ∧ Issued s final user.id)
      (fun _ final _ => Undone s final) past s := by
  unfold validateAssertion
  refine Program.ensures_bind.mpr (ensures_readExtensions.imp (fun past mid extensions hmid => ?_)
    fun _ _ _ hkept => hkept.undone)
  refine Program.ensures_perform_bind.mpr fun valid next hvalidate => ?_
  have hnext : Kept s next := hmid.trans (kept_of_step id id hvalidate.1)
  unfold concludeAssertion
  cases valid with
  | error err =>
      exact ensures_rejectAssertion.imp (fun _ _ _ hno => hno.elim) fun _ _ _ hkept => (hnext.trans hkept).undone
  | ok validCred =>
      have hread' : next.credentials.getWebAuthnCredential credRow.credentialID = some credRow := by
        rw [hnext.credentials, hread]
      refine (ensures_acceptAssertion hread').with_past.imp ?_ fun _ _ _ hundone => hnext.undone.trans hundone.2
      rintro later final _ ⟨hlater, hfresh, hissued⟩
      exact ⟨⟨extensions, validCred, hlater.subset List.mem_cons_self⟩, hfresh, hnext.issued hissued⟩

/-- What is known of the credential and its user when a session is issued. -/
structure Resolved (service : AuthService) (req : FinishPasskeyLoginRequest) (response : ParsedAssertion)
    (s final : AuthState) (past : List AuthEvent) (credRow : WebauthnCredential) (user : User) : Prop where
  credential : s.credentials.getWebAuthnCredential response.rawID = some credRow
  owner : s.users.getUser credRow.userID = some user
  unlocked : ∃ checked, UnlockedBetween s final user.username req.clientIP checked
  validated : Validated service response credRow user past
  fresh : ¬ CounterRegressed credRow response.counter

theorem ensures_resolveUser {response : ParsedAssertion} {dbChallenge : WebauthnChallenge} :
    (resolveUser service req response dbChallenge).Ensures (smoothStep w)
      (fun later final _ => ∃ credRow user, Resolved service req response s final later credRow user ∧
        Issued s final user.id)
      (fun _ final _ => Undone s final) past s := by
  unfold resolveUser
  refine Program.ensures_perform_bind.mpr fun foundCred read hcredential => ?_
  have hread : Kept s read := kept_of_step id id hcredential.1
  have hlimiter : read.limiter = s.limiter := limiter_of_step id hcredential.1
  cases foundCred with
  | error err =>
      exact ensures_rejectUnresolved.imp (fun _ _ _ hno => hno.elim) fun _ _ _ hkept => (hread.trans hkept).undone
  | ok credRow =>
      obtain ⟨⟨_, -, hallowed, -⟩, -⟩ := hcredential
      have hcred : s.credentials.getWebAuthnCredential response.rawID = some credRow := of_decide_eq_true hallowed
      refine Program.ensures_perform_bind.mpr fun foundUser known huser => ?_
      have hknown : Kept s known := hread.trans (kept_of_step id id huser.1)
      have hlimiter' : known.limiter = s.limiter := (limiter_of_step id huser.1).trans hlimiter
      cases foundUser with
      | error err =>
          -- a credential without a user counts as a failure of the address
          refine Program.ensures_bind.mpr (ensures_recordFailureNow.imp (fun _ _ _ hkept => ?_)
            fun _ _ _ hno => hno.elim)
          exact (hknown.trans hkept).undone
      | ok user =>
          obtain ⟨⟨_, -, hallowedUser, -⟩, -⟩ := huser
          have huser : s.users.getUser credRow.userID = some user := by
            rw [← hread.users]
            exact of_decide_eq_true hallowedUser
          refine Program.ensures_bind.mpr ((ensures_requireUnlocked.of_step fun _ _ _ hstep => hstep.1).imp ?_
            fun _ _ _ hlocked => (hknown.trans hlocked.1).undone)
          rintro later unlocked _ ⟨hkept, checked, hfrom, huntil, huserFree, hipFree⟩
          have hunlocked : Kept s unlocked := hknown.trans hkept
          have hkey : credRow.credentialID = response.rawID := (KeyedTable.get?_eq_some_iff.mp hcred).2
          have hcred' : unlocked.credentials.getWebAuthnCredential credRow.credentialID = some credRow := by
            rw [hunlocked.credentials, hkey, hcred]
          refine (ensures_validateAssertion hcred').imp ?_ fun _ _ _ hundone => hunlocked.undone.trans hundone
          rintro past final _ ⟨hvalidated, hfresh, hissued⟩
          -- no call before the check has touched the limiter, so it is that of the start
          rw [hlimiter'] at huserFree hipFree
          exact ⟨credRow, user, ⟨hcred, huser, ⟨checked, hknown.clock.trans hfrom, huntil.trans hissued.clock,
            huserFree, hipFree⟩, hvalidated, hfresh⟩, hunlocked.issued hissued⟩

end Pieces

/-! ## The whole handler -/

/-- The run starts with the response being parsed. -/
def Parsed (req : FinishPasskeyLoginRequest) (past : List AuthEvent) (response : ParsedAssertion) : Prop :=
  [⟨.parseCredentialRequestResponseBody req.responseJSON, .ok response⟩] <:+ past

/-- What has been read when a session is issued, and the instants of the query for the challenge and of the check of
the limiter. -/
structure VerifiedLogin where
  response : ParsedAssertion
  challenge : WebauthnChallenge
  credRow : WebauthnCredential
  user : User
  queried : Int
  checked : Int

/-- What holds of it: everything that the login has to prove. -/
structure Admitted (w : AuthWorld) (service : AuthService) (req : FinishPasskeyLoginRequest) (s final : AuthState)
    (past : List AuthEvent) (login : VerifiedLogin) : Prop where
  parsed : Parsed req past login.response
  matched : Challenges.IsUnconsumed w.sqlLess s.challenges
    ⟨login.response.challenge, challengeKindLogin, login.queried⟩ login.challenge
  credential : s.credentials.getWebAuthnCredential login.response.rawID = some login.credRow
  owner : s.users.getUser login.credRow.userID = some login.user
  userUnlocked : ¬ s.limiter.UserLocked login.user.username login.checked
  ipUnlocked : ¬ s.limiter.IPLocked req.clientIP login.checked
  validated : Validated service login.response login.credRow login.user past
  counter : ¬ (login.response.counter ≠ 0 ∧ 0 < login.credRow.signCount ∧
    (login.response.counter.toNat : Int) ≤ login.credRow.signCount)
  instants : s.clock ≤ login.queried ∧ login.queried ≤ login.checked ∧ login.checked ≤ final.clock

/-- This challenge is consumed: its row says so, and no query for an unconsumed challenge finds it, whatever it asks
for.  The other rows are those that were there. -/
structure Used (w : AuthWorld) (s final : AuthState) (row : WebauthnChallenge) : Prop where
  consumed : { row with consumed := 1 } ∈ final.challenges.table
  unfound : ∀ arg found, Challenges.IsUnconsumed w.sqlLess final.challenges arg found → found.id ≠ row.id
  others : ∀ other : WebauthnChallenge, other.id ≠ row.id →
    (other ∈ final.challenges.table ↔ other ∈ s.challenges.table)

/-- The challenge that the response answers is consumed; if none matches, none is. -/
def Consumed (w : AuthWorld) (s final : AuthState) (response : ParsedAssertion) : Prop :=
  ∃ queried, s.clock ≤ queried ∧ queried ≤ final.clock ∧
    ((∃ row, Challenges.IsUnconsumed w.sqlLess s.challenges ⟨response.challenge, challengeKindLogin, queried⟩ row ∧
        Used w s final row) ∨
      (∀ row ∈ s.challenges.table.rows,
          ¬ Challenges.Unconsumed w.sqlLess ⟨response.challenge, challengeKindLogin, queried⟩ row) ∧
        final.challenges = s.challenges)

/-- A failing outcome issues no session and keeps every sign count. -/
def Rejected (s final : AuthState) : Prop :=
  final.sessions = s.sessions ∧
    ∀ id, (final.credentials.getWebAuthnCredential id).map WebauthnCredential.signCount =
      (s.credentials.getWebAuthnCredential id).map WebauthnCredential.signCount

/-- One challenge is marked as consumed, and nothing else is written. -/
structure Marked (s next : AuthState) (id : Int) : Prop where
  users : next.users = s.users
  sessions : next.sessions = s.sessions
  credentials : next.credentials = s.credentials
  limiter : next.limiter = s.limiter
  challenges : next.challenges = s.challenges.consumeWebAuthnChallenge id
  clock : s.clock ≤ next.clock

section Whole

variable {w : AuthWorld} {service : AuthService} {req : FinishPasskeyLoginRequest} {s mid next final : AuthState}
variable {past : List AuthEvent} {response : ParsedAssertion}

theorem marked_of_step {id : Int} {answer : Except GoString Unit}
    (hstep : smoothStep w s ⟨.consumeWebAuthnChallenge id, answer⟩ next) : Marked s next id := by
  obtain ⟨⟨now, hnow, -, rfl⟩, hsmooth⟩ := hstep
  cases answer with
  | error err => cases hsmooth
  | ok _ => exact ⟨rfl, rfl, rfl, rfl, rfl, hnow⟩

/-- What the statement leaves of the challenge it is sent for. -/
theorem used_of_consume {row : WebauthnChallenge} (hrow : row ∈ s.challenges.table)
    (hfinal : final.challenges = s.challenges.consumeWebAuthnChallenge row.id) : Used w s final row := by
  refine ⟨?_, fun arg found hfound => ?_, fun other hother => ?_⟩
  · rw [hfinal]
    exact Challenges.mem_consumeWebAuthnChallenge.mpr (Or.inl ⟨row, hrow, rfl, rfl⟩)
  · rw [hfinal] at hfound
    exact Challenges.not_isUnconsumed_of_consumed (Challenges.consumed_consumeWebAuthnChallenge _ _) hfound
  · rw [hfinal, Challenges.mem_consumeWebAuthnChallenge]
    constructor
    · rintro (⟨old, -, hid, rfl⟩ | ⟨hold, -⟩)
      · exact absurd hid hother
      · exact hold
    · exact fun hold => Or.inr ⟨hold, hother⟩

/-- The response is the one that was parsed. -/
theorem Parsed.unique {other : ParsedAssertion} {read : Except GoString ParsedAssertion}
    (hparsed : [⟨.parseCredentialRequestResponseBody req.responseJSON, read⟩] <:+ past)
    (hother : Parsed req past other) : read = .ok other := by
  have hsame := (List.suffix_of_suffix_length_le hparsed hother le_rfl).eq_of_length rfl
  injection hsame with hevent
  injection hevent

/-- The sign count is within `uint32`, so the comparison of the clone detection is that of the numbers. -/
theorem counterRegressed_of {credRow : WebauthnCredential} {counter : UInt32}
    (hbound : credRow.signCount ≤ maxUint32) (hnonzero : counter ≠ 0) (hpositive : 0 < credRow.signCount)
    (hle : (counter.toNat : Int) ≤ credRow.signCount) : CounterRegressed credRow counter := by
  refine ⟨hpositive, hbound, ?_, hnonzero⟩
  unfold maxUint32 at hbound
  rw [UInt32.le_iff_toNat_le, UInt32.toNat_ofNat']
  omega

theorem Kept.rejected (hkept : Kept s final) : Rejected s final :=
  ⟨hkept.sessions, hkept.undone.signCount⟩

/-- From the credential on, seen from the start of the request. -/
theorem ensures_resolveMarked {dbChallenge : WebauthnChallenge} {queried : Int}
    (hcounts : ∀ row ∈ s.credentials, row.signCount ≤ maxUint32) (hmarked : Marked mid next dbChallenge.id)
    (hmid : Kept s mid) (hlimiter : mid.limiter = s.limiter) (hqueried : s.clock ≤ queried)
    (hbefore : queried ≤ mid.clock)
    (hmatched : Challenges.IsUnconsumed w.sqlLess s.challenges ⟨response.challenge, challengeKindLogin, queried⟩
      dbChallenge)
    (hparsed : Parsed req past response) :
    (resolveUser service req response dbChallenge).Ensures (smoothStep w)
      (fun later final _ => ∃ login, Admitted w service req s final later login ∧
        (∃ session : Session, session.userID = login.user.id ∧ s.sessions.insert? session = some final.sessions) ∧
          Consumed w s final login.response)
      (fun later final _ => Rejected s final ∧ ∀ other, Parsed req later other → Consumed w s final other)
      past next := by
  have hsessions : next.sessions = s.sessions := hmarked.sessions.trans hmid.sessions
  have hcredentials : next.credentials = s.credentials := hmarked.credentials.trans hmid.credentials
  have hconsumed {final : AuthState} (hchallenges : final.challenges = next.challenges)
      (hclock : next.clock ≤ final.clock) : Consumed w s final response := by
    refine ⟨queried, hqueried, (hbefore.trans hmarked.clock).trans hclock, Or.inl ⟨dbChallenge, hmatched, ?_⟩⟩
    refine used_of_consume hmatched.1 ?_
    rw [hchallenges, hmarked.challenges, hmid.challenges]
  refine ensures_resolveUser.with_past.imp ?_ ?_
  · rintro later final _ ⟨hlater, credRow, user, hresolved, hissued⟩
    obtain ⟨checked, hfrom, huntil, huserFree, hipFree⟩ := hresolved.unlocked
    rw [hmarked.limiter, hlimiter] at huserFree hipFree
    have hcredential : s.credentials.getWebAuthnCredential response.rawID = some credRow :=
      hcredentials ▸ hresolved.credential
    have howner : s.users.getUser credRow.userID = some user := by
      rw [← hmid.users, ← hmarked.users]
      exact hresolved.owner
    have hbound : credRow.signCount ≤ maxUint32 := hcounts credRow (KeyedTable.get?_eq_some_iff.mp hcredential).1
    have hcounter : ¬ (response.counter ≠ 0 ∧ 0 < credRow.signCount ∧
        (response.counter.toNat : Int) ≤ credRow.signCount) := by
      rintro ⟨hnonzero, hpositive, hle⟩
      exact hresolved.fresh (counterRegressed_of hbound hnonzero hpositive hle)
    refine ⟨⟨response, dbChallenge, credRow, user, queried, checked⟩, ?_, hsessions ▸ hissued.session,
      hconsumed hissued.challenges hissued.clock⟩
    exact ⟨hparsed.trans hlater, hmatched, hcredential, howner, huserFree, hipFree, hresolved.validated, hcounter,
      hqueried, (hbefore.trans hmarked.clock).trans hfrom, huntil⟩
  · rintro later final _ ⟨hlater, hundone⟩
    refine ⟨⟨hundone.sessions.trans hsessions, fun id => ?_⟩, fun other hother => ?_⟩
    · rw [hundone.signCount, hcredentials]
    · have hsame : response = other := Except.ok.inj (Parsed.unique (hparsed.trans hlater) hother)
      exact hsame ▸ hconsumed hundone.challenges hundone.clock

theorem ensures_finishPasskeyLogin (hcounts : ∀ row ∈ s.credentials, row.signCount ≤ maxUint32) :
    (finishPasskeyLogin service req).Ensures (smoothStep w)
      (fun later final _ => ∃ login, Admitted w service req s final later login ∧
        (∃ session : Session, session.userID = login.user.id ∧ s.sessions.insert? session = some final.sessions) ∧
          Consumed w s final login.response)
      (fun later final _ => Rejected s final ∧ ∀ other, Parsed req later other → Consumed w s final other)
      [] s := by
  unfold finishPasskeyLogin requireWebauthn Program.ensure
  split
  · refine Program.ensures_perform_bind.mpr fun parsed read hparse => ?_
    have hread : Kept s read := kept_of_step id id hparse.1
    cases parsed with
    | error err =>
        refine Program.ensures_bind.mpr (ensures_recordFailureNow.with_past.imp ?_ fun _ _ _ hno => hno.2.elim)
        rintro later final _ ⟨hlater, hkept⟩
        refine ⟨(hread.trans hkept).rejected, fun other hother => ?_⟩
        cases Parsed.unique hlater hother
    | ok response =>
        refine Program.ensures_perform_bind.mpr fun now dated hnow => ?_
        have hdated : Kept s dated := hread.trans (kept_of_step id id hnow.1)
        have hlimiter : dated.limiter = s.limiter := (limiter_of_step id hnow.1).trans (limiter_of_step id hparse.1)
        have hqueried : s.clock ≤ now ∧ now = dated.clock := by
          obtain ⟨⟨clock, hclock, hallowed, rfl⟩, -⟩ := hnow
          exact ⟨hread.clock.trans (of_decide_eq_true hallowed ▸ hclock), of_decide_eq_true hallowed⟩
        refine Program.ensures_perform_bind.mpr fun found asked hquery => ?_
        have hasked : Kept s asked := hdated.trans (kept_of_step id id hquery.1)
        have hlimiter' : asked.limiter = s.limiter := (limiter_of_step id hquery.1).trans hlimiter
        have hbefore : now ≤ asked.clock := hqueried.2 ▸ (spared_of_step id hquery.1).clock
        have hparsed : Parsed req
            [⟨.getUnconsumedWebAuthnChallenge ⟨response.challenge, challengeKindLogin, now⟩, found⟩, ⟨.timeNow, now⟩,
              ⟨.parseCredentialRequestResponseBody req.responseJSON, .ok response⟩] response :=
          ⟨[_, _], rfl⟩
        obtain ⟨⟨_, -, hallowed, -⟩, hsmooth⟩ := hquery
        cases found with
        | error err =>
            cases err with
            | other message => cases hsmooth
            | noRows =>
                have hnone : ∀ row ∈ s.challenges.table.rows, ¬ Challenges.Unconsumed w.sqlLess
                    ⟨response.challenge, challengeKindLogin, now⟩ row := by
                  intro row hrow
                  rw [← hdated.challenges] at hrow
                  exact of_decide_eq_true (List.all_eq_true.mp hallowed row hrow)
                refine ensures_rejectUnresolved.with_past.imp (fun _ _ _ hno => hno.2.elim) ?_
                rintro later final _ ⟨hlater, hkept⟩
                refine ⟨(hasked.trans hkept).rejected, fun other hother => ?_⟩
                have hsame : response = other := Except.ok.inj (Parsed.unique (hparsed.trans hlater) hother)
                exact hsame ▸ ⟨now, hqueried.1, hbefore.trans hkept.clock,
                  Or.inr ⟨hnone, (hasked.trans hkept).challenges⟩⟩
        | ok dbChallenge =>
            have hmatched : Challenges.IsUnconsumed w.sqlLess s.challenges
                ⟨response.challenge, challengeKindLogin, now⟩ dbChallenge :=
              hdated.challenges ▸ of_decide_eq_true hallowed
            -- the challenge is consumed before anything else is checked
            refine Program.ensures_perform_bind.mpr fun marked next hconsume => ?_
            exact ensures_resolveMarked hcounts (marked_of_step hconsume) hasked hlimiter' hqueried.1 hbefore hmatched
              (hparsed.trans (List.suffix_cons _ _))
  · -- passkeys are not configured: nothing has been parsed
    refine ⟨⟨rfl, fun _ => rfl⟩, fun other hother => ?_⟩
    cases List.suffix_nil.mp hother

end Whole

/-! ## A login that succeeds -/

/-- The passkey of the small installation signs the first challenge; its counter is one ahead of the stored one. -/
def ownerResponse : ParsedAssertion := ⟨[1], str "first", 6, []⟩

def ownerRequest : FinishPasskeyLoginRequest := ⟨str "response", false, none, str "192.0.2.1"⟩

/-- What the tables and the library answer to it. -/
def ownerAnswer : (op : AuthCall) → Option (AuthAnswer op)
  | .timeNow => some 0
  | .randRead => some (.ok ⟨List.replicate 32 7, by decide⟩)
  | .check _ _ _ => some (false, 0)
  | .recordSuccess _ => some ()
  | .parseCredentialRequestResponseBody _ => some (.ok ownerResponse)
  | .validateDiscoverableLogin _ _ _ => some (.ok { dbCredToWebAuthn (passkeyRow [1] 5) with signCount := 6 })
  | .getUser _ => some (.ok passkeyUser)
  | .createSession _ => some (.ok ())
  | .getUnconsumedWebAuthnChallenge _ => some (.ok (loginChallenge 1 "first"))
  | .consumeWebAuthnChallenge _ => some (.ok ())
  | .getWebAuthnCredential _ => some (.ok (passkeyRow [1] 5))
  | .updateWebAuthnCredentialUsage _ => some (.ok ())
  | .recordAuthEvent _ _ _ _ => some ()
  | _ => none

/-- The answers that the state allows. -/
def ownerReply (_ : List AuthEvent) (s : AuthState) (op : AuthCall) : Option (AuthAnswer op × AuthState) :=
  (ownerAnswer op).bind fun answer =>
    if s.allowed calmWorld ⟨op, answer⟩ = true ∧ fails ⟨op, answer⟩ = false then
      some (answer, s.after calmWorld ⟨op, answer⟩)
    else none

theorem serve_ownerRequest :
    ((finishPasskeyLogin defaultService ownerRequest).serve ownerReply [] passkeyState).map
        (fun r => (r.result.isOk, r.shared.sessions.rows.map Session.userID)) =
      some (true, [1]) := by
  decide +kernel

end PasskeyLogin

end Auth
end Dmanager
