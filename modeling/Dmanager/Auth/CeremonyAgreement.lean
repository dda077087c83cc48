import Dmanager.Auth.Ceremonies
import Dmanager.Lib.History

/-!
# Agreement on a WebAuthn ceremony

A ceremony is two requests that know of each other only through a row of `webauthn_challenges`.  Whatever runs at the
same time, a stored credential is the end of a ceremony that the same user began, and a session is the end of a login
by password or by a passkey whose ceremony a server call began (`credential_agreement`, `session_agreement`): the
challenge that the library verified is the one that was issued, before its lookup, for this purpose, and SQLite took
its expiry, 120 seconds after the issue, to be later than the lookup.  A challenge that was in the table before the run
may have been found as well; who issued that one, and when, is not known.

The text of each handler gives what it has learnt when it issues something (`along_ceremony`).  The invariant adds where
the rows of the two tables come from.
-/

namespace Dmanager
namespace Auth

open Go Db Lib Server
open Handlers

/-! ## What has been learnt is not forgotten -/

variable {svc : AuthService} {past later : List CeremonyEvent}

theorem IssuesRegistration.mono {ctx : Ctx} {arg : CreateWebAuthnChallengeParams}
    (hissues : IssuesRegistration svc ctx past arg) (hlater : past ⊆ later) : IssuesRegistration svc ctx later arg := by
  obtain ⟨user, credentials, begun, extensions, now, hctx, hbegun, hextensions, hnow, harg⟩ := hissues
  exact ⟨user, credentials, begun, extensions, now, hctx, hlater hbegun, hlater hextensions, hlater hnow, harg⟩

theorem IssuesLogin.mono {arg : CreateWebAuthnChallengeParams} (hissues : IssuesLogin svc past arg)
    (hlater : past ⊆ later) : IssuesLogin svc later arg := by
  obtain ⟨begun, extensions, now, hbegun, hextensions, hnow, harg⟩ := hissues
  exact ⟨begun, extensions, now, hlater hbegun, hlater hextensions, hlater hnow, harg⟩

theorem ReadsExtensions.mono {stored : GoString} {extensions : Option GoString}
    (hreads : ReadsExtensions past stored extensions) (hlater : past ⊆ later) :
    ReadsExtensions later stored extensions := by
  obtain hnone | ⟨read, hread, hcall⟩ := hreads
  · exact Or.inl hnone
  · exact Or.inr ⟨read, hread, hlater hcall⟩

theorem Registers.mono {ctx : Ctx} {req : FinishPasskeyRegistrationRequest} {row : WebauthnChallenge} {lookup : Int}
    {arg : CreateWebAuthnCredentialParams} (hregisters : Registers svc ctx req past row lookup arg)
    (hlater : past ⊆ later) : Registers svc ctx req later row lookup arg := by
  obtain ⟨user, credentials, response, extensions, cred, now, hctx, howner, hparsed, hfound, hextensions, hverified,
    harg⟩ := hregisters
  exact ⟨user, credentials, response, extensions, cred, now, hctx, howner, hlater hparsed, hlater hfound,
    hextensions.mono hlater, hlater hverified, harg⟩

theorem LogsIn.mono {req : FinishPasskeyLoginRequest} {row : WebauthnChallenge} {lookup : Int}
    {arg : CreateSessionParams} (hlogs : LogsIn svc req past row lookup arg) (hlater : past ⊆ later) :
    LogsIn svc req later row lookup arg := by
  obtain ⟨response, credRow, user, extensions, validCred, token, now, hparsed, hfound, hstored, howner, hextensions,
    hverified, hcounter, harg⟩ := hlogs
  exact ⟨response, credRow, user, extensions, validCred, token, now, hlater hparsed, hlater hfound, hlater hstored,
    hlater howner, hextensions.mono hlater, hlater hverified, hcounter, harg⟩

theorem LogsInByPassword.mono {req : LoginRequest} {arg : CreateSessionParams}
    (hlogs : LogsInByPassword svc req past arg) (hlater : past ⊆ later) : LogsInByPassword svc req later arg := by
  obtain ⟨user, token, now, hfound, hcompared, harg⟩ := hlogs
  exact ⟨user, token, now, hlater hfound, hlater hcompared, harg⟩

/-- The calls that a handler may make, it may make later as well. -/
theorem CeremonyRequest.Call.mono {request : CeremonyRequest} {op : CeremonyCall} (hcall : request.Call svc past op)
    (hlater : past ⊆ later) : request.Call svc later op := by
  unfold CeremonyRequest.Call at hcall ⊢
  split at hcall
  · split at hcall
    · exact hcall.mono hlater
    · exact hcall.mono hlater
    · exact hcall.elim
  · split at hcall
    · obtain ⟨row, lookup, hregisters⟩ := hcall
      exact ⟨row, lookup, hregisters.mono hlater⟩
    · exact hcall.elim
  · split at hcall
    · obtain ⟨row, lookup, hlogs⟩ := hcall
      exact ⟨row, lookup, hlogs.mono hlater⟩
    · exact hcall.mono hlater
    · exact hcall.elim
  · trivial

/-! ## The texts of the handlers -/

/-- The calls of a handler of `Dmanager.Auth.Handlers` among those of this module. -/
def ceremonyEvents (past : List AuthEvent) : List CeremonyEvent := past.map fun event => event.op.event event.answer

theorem mem_ceremonyEvents {past : List AuthEvent} {op : AuthCall} {answer : AuthAnswer op}
    (hmem : ⟨op, answer⟩ ∈ past) : op.event answer ∈ ceremonyEvents past :=
  List.mem_map_of_mem (f := fun event : AuthEvent => event.op.event event.answer) hmem

theorem ceremonyEvents_subset_cons (event : AuthEvent) (past : List AuthEvent) :
    ceremonyEvents past ⊆ ceremonyEvents (event :: past) := List.subset_cons_self _ _

theorem ceremonyEvents_subset {past later : List AuthEvent} (hlater : past ⊆ later) :
    ceremonyEvents past ⊆ ceremonyEvents later := List.map_subset _ hlater

@[simp] theorem liftCeremony_done {α : Type} (a : α) : liftCeremony (.done a) = .done a := rfl

@[simp] theorem liftCeremony_ensure {c : Prop} [Decidable c] {err : ConnectError} :
    liftCeremony (Program.ensure c err) = Program.ensure c err := by
  unfold Program.ensure
  split
  · rfl
  · rfl

/-- The text of a lifted handler is the text of the handler. -/
theorem alongOr_liftCeremony {α : Type} {p : AuthHandler α} {P : List CeremonyEvent → CeremonyCall → Prop}
    {Q : List CeremonyEvent → α → Prop} {E : List CeremonyEvent → ConnectError → Prop} (past : List AuthEvent) :
    (liftCeremony p).AlongOr P Q E (ceremonyEvents past) ↔
      p.AlongOr (fun past op => P (ceremonyEvents past) (.auth op)) (fun past a => Q (ceremonyEvents past) a)
        (fun past e => E (ceremonyEvents past) e) past := by
  induction p generalizing past with
  | done a => exact Iff.rfl
  | fail err => exact Iff.rfl
  | call op next ih => exact and_congr_right fun _ => forall_congr' fun answer => ih answer (⟨op, answer⟩ :: past)

/-- What a request calls, when all its calls are those of `Dmanager.Auth.Calls`. -/
def CeremonyRequest.Makes (svc : AuthService) (request : CeremonyRequest) (past : List AuthEvent) (op : AuthCall) :
    Prop :=
  request.Call svc (ceremonyEvents past) (.auth op)

section Login

variable {request : CeremonyRequest} {past : List AuthEvent}

theorem alongOr_lifted {α : Type} {p : AuthHandler α}
    (htext : p.AlongOr (request.Makes svc) (fun _ _ => True) (fun _ _ => True) []) :
    (liftCeremony p.void).AlongOr (request.Call svc) (fun _ _ => True) (fun _ _ => True) [] :=
  (alongOr_liftCeremony []).mpr (Program.alongOr_void.mpr htext)

theorem text_completeLogin {user : User} {rememberMe : Bool} {reqHeader : Header} {method clientIP : GoString}
    (hsession : ∀ token now later, past ⊆ later →
      request.Makes svc later (.createSession (issueParams svc.cfg user.id rememberMe token reqHeader now))) :
    (completeLogin svc user rememberMe reqHeader method clientIP).AlongOr (request.Makes svc) (fun _ _ => True)
      (fun _ _ => True) past := by
  unfold completeLogin Handlers.issueSession
  simp only [Program.alongOr_bind, Program.alongOr_perform, Program.alongOr_orFail, Program.alongOr_done,
    implies_true, and_true]
  refine ⟨trivial, fun token bytes _ => ⟨trivial, fun now => ⟨?_, fun created _ _ => ⟨trivial, fun _ => trivial⟩⟩⟩⟩
  exact hsession bytes now _ (List.Subset.trans (List.subset_cons_self _ past) (List.subset_cons_self _ _))

theorem text_rejectPassword {req : LoginRequest} {userID : Option Int} {name : GoString} :
    (rejectPassword req userID name).AlongOr (request.Makes svc) (fun _ _ => True) (fun _ _ => True) past := by
  exact ⟨trivial, fun _ => ⟨trivial, fun _ => ⟨trivial, fun _ => trivial⟩⟩⟩

theorem text_login (req : LoginRequest) :
    (login svc req).AlongOr ((CeremonyRequest.login req).Makes svc) (fun _ _ => True) (fun _ _ => True) [] := by
  unfold login
  simp only [Program.alongOr_bind, Program.alongOr_ensure, Program.alongOr_perform, implies_true, and_true]
  intro _
  refine alongOr_requireUnlocked trivial (fun _ => trivial) (fun _ _ => trivial) (fun _ _ => trivial) ?_
  intro now wait
  refine ⟨trivial, fun found => ?_⟩
  rcases found with (_ | message) | user
  · unfold unknownUser
    dsimp only
    split
    · exact ⟨trivial, fun _ => text_rejectPassword⟩
    · exact text_rejectPassword
  · trivial
  · unfold knownUser
    simp only [Program.alongOr_bind, Program.alongOr_perform]
    refine ⟨trivial, fun compared => ?_⟩
    cases compared with
    | error err => exact text_rejectPassword
    | ok accepted =>
        refine ⟨trivial, fun _ => text_completeLogin fun token now later hlater => ?_⟩
        refine LogsInByPassword.intro user token now (mem_ceremonyEvents (hlater ?_))
          (mem_ceremonyEvents (hlater ?_)) rfl
        · simp
        · simp

theorem text_readExtensions {stored : GoString} {Q : List AuthEvent → Option GoString → Prop}
    (hQ : ∀ later extensions, past ⊆ later → ReadsExtensions (ceremonyEvents later) stored extensions →
      Q later extensions) :
    (readExtensions stored).AlongOr (request.Makes svc) Q (fun _ _ => True) past := by
  unfold readExtensions
  split
  · rename_i hstored
    exact hQ past none (List.Subset.refl past) (Or.inl ⟨hstored, rfl⟩)
  · simp only [Program.alongOr_bind, Program.alongOr_perform, Program.alongOr_orFail, implies_true, and_true]
    refine ⟨trivial, fun answer read hanswer => ?_⟩
    cases answer with
    | error err => cases hanswer
    | ok extensions =>
        cases hanswer
        exact hQ _ _ (List.subset_cons_self _ past) (Or.inr ⟨extensions, rfl, mem_ceremonyEvents List.mem_cons_self⟩)

theorem text_beginPasskeyLogin (clientIP : GoString) :
    (beginPasskeyLogin svc clientIP).AlongOr ((CeremonyRequest.beginLogin clientIP).Makes svc) (fun _ _ => True)
      (fun _ _ => True) [] := by
  unfold beginPasskeyLogin requireWebauthn
  simp only [Program.alongOr_bind, Program.alongOr_ensure, Program.alongOr_perform, implies_true, and_true]
  intro _
  refine alongOr_requireUnlocked trivial (fun _ => trivial) (fun _ _ => trivial) (fun _ _ => trivial) ?_
  intro now wait
  simp only [Program.alongOr_orFail, implies_true, and_true]
  refine ⟨trivial, fun answer begun hbegun => ⟨trivial, fun encoded extensions hextensions => ⟨trivial, fun issued =>
    ⟨?_, fun created row _ => trivial⟩⟩⟩⟩
  subst hbegun hextensions
  refine IssuesLogin.intro begun extensions issued (mem_ceremonyEvents ?_) (mem_ceremonyEvents ?_)
    (mem_ceremonyEvents ?_) rfl
  · simp
  · simp
  · simp

end Login

/-! ### FinishPasskeyLogin -/

section FinishLogin

variable {req : FinishPasskeyLoginRequest} {past : List AuthEvent}

theorem text_rejectAssertion {user : User} {reason : String} {err : ConnectError} :
    (rejectAssertion req user reason err).AlongOr ((CeremonyRequest.finishLogin req).Makes svc) (fun _ _ => True)
      (fun _ _ => True) past := by
  exact ⟨trivial, fun _ => ⟨trivial, fun _ => ⟨trivial, fun _ => trivial⟩⟩⟩

theorem text_rejectUnresolved {reason : String} {err : ConnectError} :
    (rejectUnresolved req reason err).AlongOr ((CeremonyRequest.finishLogin req).Makes svc) (fun _ _ => True)
      (fun _ _ => True) past := by
  exact ⟨trivial, fun _ => ⟨trivial, fun _ => ⟨trivial, fun _ => trivial⟩⟩⟩

theorem text_acceptAssertion {response : ParsedAssertion} {credRow : WebauthnCredential} {user : User}
    {validCred : Credential} (row : WebauthnChallenge) (lookup : Int)
    (hready : ¬ CounterRegressed credRow response.counter → ∀ token now,
      LogsIn svc req (ceremonyEvents past) row lookup
        (issueParams svc.cfg user.id req.rememberMe token req.reqHeader now)) :
    (acceptAssertion svc req response credRow user validCred).AlongOr ((CeremonyRequest.finishLogin req).Makes svc)
      (fun _ _ => True) (fun _ _ => True) past := by
  unfold acceptAssertion
  split
  · exact ⟨trivial, fun _ => text_rejectAssertion⟩
  · rename_i hadvanced
    refine ⟨trivial, fun now => ⟨trivial, fun written => ⟨trivial, fun _ => ?_⟩⟩⟩
    refine text_completeLogin fun token issued later hlater => ⟨row, lookup, ?_⟩
    refine (hready hadvanced token issued).mono (ceremonyEvents_subset (List.Subset.trans ?_ hlater))
    exact fun _ hmem => List.mem_cons_of_mem _ (List.mem_cons_of_mem _ (List.mem_cons_of_mem _ hmem))

theorem text_validateAssertion {response : ParsedAssertion} {row : WebauthnChallenge} {credRow : WebauthnCredential}
    {user : User} (lookup : Int)
    (hparsed : ⟨.parseCredentialRequestResponseBody req.responseJSON, .ok response⟩ ∈ past)
    (hfound : ⟨.getUnconsumedWebAuthnChallenge ⟨response.challenge, challengeKindLogin, lookup⟩, .ok row⟩ ∈ past)
    (hstored : ⟨.getWebAuthnCredential response.rawID, .ok credRow⟩ ∈ past)
    (howner : ⟨.getUser credRow.userID, .ok user⟩ ∈ past) :
    (validateAssertion svc req response row credRow user).AlongOr ((CeremonyRequest.finishLogin req).Makes svc)
      (fun _ _ => True) (fun _ _ => True) past := by
  unfold validateAssertion
  rw [Program.alongOr_bind]
  refine text_readExtensions fun later extensions hlater hextensions => ⟨trivial, fun valid => ?_⟩
  cases valid with
  | error err => exact text_rejectAssertion
  | ok validCred =>
      refine text_acceptAssertion row lookup fun hadvanced token now => ?_
      have hkept : ∀ event, past ⊆ event :: later := fun _ _ hmem => List.mem_cons_of_mem _ (hlater hmem)
      exact LogsIn.intro response credRow user extensions validCred token now
        (mem_ceremonyEvents (hkept _ hparsed)) (mem_ceremonyEvents (hkept _ hfound))
        (mem_ceremonyEvents (hkept _ hstored)) (mem_ceremonyEvents (hkept _ howner))
        (hextensions.mono (ceremonyEvents_subset_cons _ later)) (mem_ceremonyEvents List.mem_cons_self) hadvanced rfl

theorem text_resolveUser {response : ParsedAssertion} {row : WebauthnChallenge} (lookup : Int)
    (hparsed : ⟨.parseCredentialRequestResponseBody req.responseJSON, .ok response⟩ ∈ past)
    (hfound : ⟨.getUnconsumedWebAuthnChallenge ⟨response.challenge, challengeKindLogin, lookup⟩, .ok row⟩ ∈ past) :
    (resolveUser svc req response row).AlongOr ((CeremonyRequest.finishLogin req).Makes svc) (fun _ _ => True)
      (fun _ _ => True) past := by
  unfold resolveUser
  simp only [Program.alongOr_bind, Program.alongOr_perform]
  refine ⟨trivial, fun foundCred => ?_⟩
  cases foundCred with
  | error err => exact text_rejectUnresolved
  | ok credRow =>
      simp only [Program.alongOr_bind, Program.alongOr_perform]
      refine ⟨trivial, fun foundUser => ?_⟩
      cases foundUser with
      | error err => exact ⟨trivial, fun _ => ⟨trivial, fun _ => trivial⟩⟩
      | ok user =>
          rw [Program.alongOr_bind]
          refine alongOr_requireUnlocked trivial (fun _ => trivial) (fun _ _ => trivial) (fun _ _ => trivial) ?_
          intro now wait
          apply text_validateAssertion lookup
          · simp [hparsed]
          · simp [hfound]
          · simp
          · simp

theorem text_finishPasskeyLogin (req : FinishPasskeyLoginRequest) :
    (finishPasskeyLogin svc req).AlongOr ((CeremonyRequest.finishLogin req).Makes svc) (fun _ _ => True)
      (fun _ _ => True) [] := by
  unfold finishPasskeyLogin requireWebauthn
  simp only [Program.alongOr_bind, Program.alongOr_ensure, Program.alongOr_perform, implies_true, and_true]
  intro _
  refine ⟨trivial, fun parsed => ?_⟩
  cases parsed with
  | error err => exact ⟨trivial, fun _ => ⟨trivial, fun _ => trivial⟩⟩
  | ok response =>
      refine ⟨trivial, fun lookup => ⟨trivial, fun found => ?_⟩⟩
      cases found with
      | error err => exact text_rejectUnresolved
      | ok row =>
          refine ⟨trivial, fun _ => text_resolveUser lookup ?_ ?_⟩
          · simp
          · simp

end FinishLogin

/-! ### Registration -/

theorem text_saveCredential {ctx : Ctx} {req : FinishPasskeyRegistrationRequest} {user : User} {cred : Credential}
    (row : WebauthnChallenge) (lookup : Int) {past : List AuthEvent}
    (hready : ∀ now, Registers svc ctx req (ceremonyEvents past) row lookup
      (credentialRow cred user.id (credentialName req.name cred) now)) :
    (saveCredential user req cred).AlongOr ((CeremonyRequest.finishRegistration ctx req).Makes svc) (fun _ _ => True)
      (fun _ _ => True) past := by
  unfold saveCredential
  simp only [Program.alongOr_bind, Program.alongOr_ensure, Program.alongOr_orFail, Program.alongOr_perform,
    Program.alongOr_done, implies_true, and_true]
  refine ⟨trivial, fun registered _ => ⟨trivial, fun now => ⟨⟨row, lookup, ?_⟩, fun created stored _ =>
    ⟨trivial, fun _ => trivial⟩⟩⟩⟩
  exact (hready now).mono (ceremonyEvents_subset fun _ hmem => List.mem_cons_of_mem _ (List.mem_cons_of_mem _ hmem))

theorem text_storeCredential {ctx : Ctx} {req : FinishPasskeyRegistrationRequest} {user : User}
    {response : ParsedCreation} {row : WebauthnChallenge} (lookup : Int) {past : List AuthEvent}
    (hctx : ctx.user = some user) (howner : row.userID = some user.id)
    (hparsed : ⟨.parseCredentialCreationResponseBody req.responseJSON, .ok response⟩ ∈ past)
    (hfound : ⟨.getUnconsumedWebAuthnChallenge ⟨response.challenge, challengeKindRegistration, lookup⟩, .ok row⟩ ∈
      past) :
    (storeCredential svc user req response row).AlongOr ((CeremonyRequest.finishRegistration ctx req).Makes svc)
      (fun _ _ => True) (fun _ _ => True) past := by
  unfold storeCredential
  simp only [Program.alongOr_bind, Program.alongOr_orFail, Program.alongOr_perform, implies_true, and_true]
  refine ⟨trivial, fun listed dbCreds _ => ?_⟩
  refine text_readExtensions fun later extensions hlater hextensions => ⟨trivial, fun created cred hcreated => ?_⟩
  subst hcreated
  refine text_saveCredential row lookup fun now => ?_
  have hkept : ∀ event, past ⊆ event :: later := fun _ _ hmem =>
    List.mem_cons_of_mem _ (hlater (List.mem_cons_of_mem _ hmem))
  exact Registers.intro user (dbCreds.map dbCredToWebAuthn) response extensions cred now hctx howner
    (mem_ceremonyEvents (hkept _ hparsed)) (mem_ceremonyEvents (hkept _ hfound))
    (hextensions.mono (ceremonyEvents_subset_cons _ later)) (mem_ceremonyEvents List.mem_cons_self) rfl

theorem text_finishPasskeyRegistration (ctx : Ctx) (req : FinishPasskeyRegistrationRequest) :
    (finishPasskeyRegistration svc ctx req).AlongOr ((CeremonyRequest.finishRegistration ctx req).Makes svc)
      (fun _ _ => True) (fun _ _ => True) [] := by
  unfold finishPasskeyRegistration requireUser
  split
  · trivial
  · rename_i user hctx
    unfold requireWebauthn
    simp only [Program.alongOr_bind, Program.alongOr_done, Program.alongOr_ensure, Program.alongOr_perform,
      Program.alongOr_orFail, implies_true, and_true]
    intro _
    refine ⟨trivial, fun parsed response hparsed => ⟨trivial, fun lookup => ⟨trivial, fun found => ?_⟩⟩⟩
    subst hparsed
    rcases found with (_ | message) | row
    · trivial
    · trivial
    · simp only [Program.alongOr_bind, Program.alongOr_ensure, Program.alongOr_perform, implies_true, and_true]
      intro howner
      refine ⟨trivial, fun consumed => text_storeCredential lookup hctx howner ?_ ?_⟩
      · simp
      · simp

theorem text_deletePasskey (ctx : Ctx) (id : GoString) :
    (deletePasskey ctx id).AlongOr ((CeremonyRequest.deletePasskey ctx id).Makes svc) (fun _ _ => True)
      (fun _ _ => True) [] := by
  unfold deletePasskey requireUser
  split
  · trivial
  · simp only [Program.alongOr_bind, Program.alongOr_done, Program.alongOr_ensure, Program.alongOr_perform,
      Program.alongOr_orFail, implies_true, and_true]
    intro hid credID hdecoded
    refine ⟨trivial, fun count _ _ => ⟨trivial, fun user _ _ _ => ⟨trivial, fun deleted _ _ _ => ?_⟩⟩⟩
    exact ⟨trivial, fun _ => trivial⟩

theorem text_beginPasskeyRegistration (ctx : Ctx) :
    (beginPasskeyRegistration svc ctx).AlongOr ((CeremonyRequest.beginRegistration ctx).Call svc) (fun _ _ => True)
      (fun _ _ => True) [] := by
  unfold beginPasskeyRegistration requireUser
  split
  · trivial
  · rename_i user hctx
    unfold requireWebauthn
    simp only [liftCeremony_done, liftCeremony_ensure, Program.alongOr_bind, Program.alongOr_done,
      Program.alongOr_ensure, Program.alongOr_perform, Program.alongOr_orFail, implies_true, and_true]
    intro _
    refine ⟨trivial, fun listed dbCreds _ => ⟨trivial, fun answer begun hbegun => ⟨trivial, fun encoded extensions
      hextensions => ⟨trivial, fun issued => ⟨?_, fun created row _ => trivial⟩⟩⟩⟩⟩
    subst hbegun hextensions
    refine IssuesRegistration.intro user (dbCreds.map dbCredToWebAuthn) begun extensions issued hctx ?_ ?_ ?_ rfl
    · simp
    · simp [AuthCall.event]
    · simp [AuthCall.event]

/-- The text of each handler. -/
theorem along_ceremony (svc : AuthService) (request : CeremonyRequest) :
    ((request.handler svc).attempt : Program _ _ ConnectError _).Along (request.Call svc) (fun _ _ => True) [] := by
  rw [Program.along_attempt]
  cases request with
  | beginRegistration ctx => exact Program.alongOr_void.mpr (text_beginPasskeyRegistration ctx)
  | finishRegistration ctx req => exact alongOr_lifted (text_finishPasskeyRegistration ctx req)
  | beginLogin clientIP => exact alongOr_lifted (text_beginPasskeyLogin clientIP)
  | finishLogin req => exact alongOr_lifted (text_finishPasskeyLogin req)
  | login req => exact alongOr_lifted (text_login req)
  | deletePasskey ctx id => exact alongOr_lifted (text_deletePasskey ctx id)

/-! ## Where the rows of the tables come from -/

variable {w : AuthWorld} {s : AuthState}

theorem mem_consumeWebAuthnChallenge {challenges : Challenges} {id : Int} {row : WebauthnChallenge}
    (hrow : row ∈ (challenges.consumeWebAuthnChallenge id).table) :
    ∃ old ∈ challenges.table, row = { old with consumed := row.consumed } := by
  have hupdated : row ∈ challenges.table.update id (fun row => { row with consumed := 1 }) fun _ => rfl := hrow
  obtain ⟨old, hold, ⟨-, rfl⟩ | ⟨-, rfl⟩⟩ := KeyedTable.mem_update.mp hupdated
  · exact ⟨old, hold, rfl⟩
  · exact ⟨row, hold, rfl⟩

/-- A row after a call is one from before it, consumed or not, or the one that the call has inserted. -/
theorem mem_challenges_after {event : AuthEvent} {row : WebauthnChallenge} (hallowed : s.allowed w event = true)
    (hrow : row ∈ (s.after w event).challenges.table) :
    (∃ old ∈ s.challenges.table, row = { old with consumed := row.consumed }) ∨
      ∃ arg, event = ⟨.createWebAuthnChallenge arg, .ok row⟩ ∧
        row = issuedRow row.id arg := by
  unfold AuthState.after at hrow
  split at hrow
  case h_5 arg created =>
    -- an insert
    have hcreated : created = (s.challenges.createWebAuthnChallenge arg).2 := of_decide_eq_true hallowed
    rcases List.mem_append.mp hrow with hold | hnew
    · exact Or.inl ⟨row, hold, rfl⟩
    · rw [List.mem_singleton.mp hnew]
      exact Or.inr ⟨arg, by rw [hcreated]; rfl, rfl⟩
  case h_6 id _ =>
    -- an update
    exact Or.inl (mem_consumeWebAuthnChallenge hrow)
  all_goals
    try split at hrow
    all_goals exact Or.inl ⟨row, hrow, rfl⟩

/-- The row is that of a stored credential, with its later usage. -/
def SameCredential (stored row : WebauthnCredential) : Prop :=
  row = { stored with
    signCount := row.signCount
    lastUsedAt := row.lastUsedAt
    backupState := row.backupState
    cloneWarning := row.cloneWarning }

theorem SameCredential.refl (row : WebauthnCredential) : SameCredential row row := rfl

theorem SameCredential.apply {stored row : WebauthnCredential} (hsame : SameCredential stored row)
    (arg : UpdateWebAuthnCredentialUsageParams) : SameCredential stored (arg.apply row) := by
  unfold SameCredential UpdateWebAuthnCredentialUsageParams.apply at *
  rw [hsame]

theorem mem_updateWebAuthnCredentialUsage {credentials : Credentials} {arg : UpdateWebAuthnCredentialUsageParams}
    {row : WebauthnCredential} (hrow : row ∈ credentials.updateWebAuthnCredentialUsage arg) :
    ∃ old ∈ credentials, row = old ∨ row = arg.apply old := by
  have hupdated : row ∈ credentials.update arg.credentialID arg.apply fun _ => rfl := hrow
  obtain ⟨old, hold, ⟨-, hnew⟩ | ⟨-, hsame⟩⟩ := KeyedTable.mem_update.mp hupdated
  · exact ⟨old, hold, Or.inr hnew⟩
  · exact ⟨old, hold, Or.inl hsame⟩

theorem mem_createWebAuthnCredential {users : Users} {credentials next : Credentials}
    {arg : CreateWebAuthnCredentialParams} (hcreate : credentials.createWebAuthnCredential users arg = some next)
    {row : WebauthnCredential} (hrow : row ∈ next) : row ∈ credentials ∨ row = arg := by
  unfold Credentials.createWebAuthnCredential at hcreate
  split at hcreate
  · cases hcreate
  · exact (KeyedTable.mem_of_insert? hcreate).mp hrow

/-- A row after a call is one from before it, with its later usage, or the one that the call has inserted. -/
theorem mem_credentials_after_call {event : AuthEvent} {row : WebauthnCredential} (hallowed : s.allowed w event = true)
    (hrow : row ∈ (s.after w event).credentials) :
    (∃ old ∈ s.credentials, row = old ∨ ∃ arg : UpdateWebAuthnCredentialUsageParams, row = arg.apply old) ∨
      event = ⟨.createWebAuthnCredential row, .ok row⟩ := by
  unfold AuthState.after at hrow
  split at hrow
  case h_7 arg inserted =>
    split at hrow
    · rename_i credentials hcreate
      have hinserted : inserted = arg := by
        simpa [AuthState.allowed, hcreate] using hallowed
      rcases mem_createWebAuthnCredential hcreate hrow with hold | rfl
      · exact Or.inl ⟨row, hold, Or.inl rfl⟩
      · exact Or.inr (by rw [hinserted])
    · exact Or.inl ⟨row, hrow, Or.inl rfl⟩
  case h_8 credentialID userID _ =>
    exact Or.inl ⟨row, (KeyedTable.mem_deleteWhere.mp hrow).1, Or.inl rfl⟩
  case h_9 arg _ =>
    obtain ⟨old, hold, hsame | hnew⟩ := mem_updateWebAuthnCredentialUsage hrow
    · exact Or.inl ⟨old, hold, Or.inl hsame⟩
    · exact Or.inl ⟨old, hold, Or.inr ⟨arg, hnew⟩⟩
  all_goals
    try split at hrow
    all_goals exact Or.inl ⟨row, hrow, Or.inl rfl⟩

theorem mem_sessions_after {event : AuthEvent} {row : Session} (hrow : row ∈ (s.after w event).sessions) :
    row ∈ s.sessions ∨ ∃ arg, event = ⟨.createSession arg, .ok ()⟩ ∧ row = arg.row s.clock := by
  unfold AuthState.after at hrow
  split at hrow
  case h_4 arg _ =>
    split at hrow
    · rename_i sessions hcreate
      rcases (KeyedTable.mem_of_insert? (Sessions.createSession_eq_some hcreate).2).mp hrow with hold | hnew
      · exact Or.inl hold
      · exact Or.inr ⟨arg, rfl, hnew⟩
    · exact Or.inl hrow
  all_goals
    try split at hrow
    all_goals exact Or.inl hrow

/-! ## Agreement -/

section Agreement

variable {ι : Type}

/-- A row is from before the run, or a request has issued it; it may have been consumed. -/
inductive ChallengeOrigin (before : Challenges) (log : List (ι × CeremonyEvent)) (row : WebauthnChallenge) : Prop where
  | before (old : WebauthnChallenge) (hold : old ∈ before.table) (hrow : row = { old with consumed := row.consumed })
  | call (j : ι) (params : CreateWebAuthnChallengeParams)
      (hcall : (j, (AuthCall.createWebAuthnChallenge params).event (.ok (issuedRow row.id params))) ∈ log)
      (hrow : row = { issuedRow row.id params with consumed := row.consumed })

/-- The lookup of request `i` has found a row of its challenge and kind, which SQLite has taken to expire later.  The
row is from before the run, or request `j` has issued it before the lookup, with `Begins j`. -/
structure IssuedBefore (sqlLess : Int → Int → Bool) (before : Challenges) (log : List (ι × CeremonyEvent))
    (Begins : ι → CreateWebAuthnChallengeParams → Prop) (i : ι) (arg : GetUnconsumedWebAuthnChallengeParams)
    (row : WebauthnChallenge) : Prop where
  challenge : row.challenge = arg.challenge
  kind : row.kind = arg.kind
  timely : sqlLess arg.expiresAt row.expiresAt = true
  issued : (∃ old ∈ before.table, row = { old with consumed := 0 }) ∨
    ∃ j params, Begins j params ∧ row = issuedRow row.id params ∧
      Precedes log (j, (AuthCall.createWebAuthnChallenge params).event (.ok row))
        (i, (AuthCall.getUnconsumedWebAuthnChallenge arg).event (.ok row))

variable {before : Challenges} {log : List (ι × CeremonyEvent)} {row : WebauthnChallenge}
variable {sqlLess : Int → Int → Bool} {Begins : ι → CreateWebAuthnChallengeParams → Prop} {i : ι}
variable {arg : GetUnconsumedWebAuthnChallengeParams}

theorem ChallengeOrigin.cons (entry : ι × CeremonyEvent) (hissued : ChallengeOrigin before log row) :
    ChallengeOrigin before (entry :: log) row := by
  obtain ⟨old, hold, hrow⟩ | ⟨j, params, hcall, hrow⟩ := hissued
  · exact ChallengeOrigin.before old hold hrow
  · exact ChallengeOrigin.call j params (List.mem_cons_of_mem _ hcall) hrow

/-- What consuming does to a row does not change where it is from. -/
theorem ChallengeOrigin.of_eq {old : WebauthnChallenge} (hissued : ChallengeOrigin before log old)
    (hrow : row = { old with consumed := row.consumed }) : ChallengeOrigin before log row := by
  have hid : row.id = old.id := by rw [hrow]
  obtain ⟨oldest, holdest, hold⟩ | ⟨j, params, hcall, hold⟩ := hissued
  · refine ChallengeOrigin.before oldest holdest ?_
    rw [hrow, hold]
  · rw [← hid] at hcall hold
    refine ChallengeOrigin.call j params hcall ?_
    rw [hrow, hold]
    rfl

theorem IssuedBefore.cons (entry : ι × CeremonyEvent) (hbefore : IssuedBefore sqlLess before log Begins i arg row) :
    IssuedBefore sqlLess before (entry :: log) Begins i arg row where
  challenge := hbefore.challenge
  kind := hbefore.kind
  timely := hbefore.timely
  issued := hbefore.issued.imp_right fun ⟨j, params, hbegins, hrow, hprecedes⟩ =>
    ⟨j, params, hbegins, hrow, precedes_cons.mpr (Or.inl hprecedes)⟩

/-- What is known of the call that has issued the row may be added. -/
theorem IssuedBefore.imp {Begins' : ι → CreateWebAuthnChallengeParams → Prop}
    (hbefore : IssuedBefore sqlLess before log Begins i arg row)
    (hbegins : ∀ j params, Begins j params → row = issuedRow row.id params →
      (j, (AuthCall.createWebAuthnChallenge params).event (.ok row)) ∈ log → Begins' j params) :
    IssuedBefore sqlLess before log Begins' i arg row where
  challenge := hbefore.challenge
  kind := hbefore.kind
  timely := hbefore.timely
  issued := hbefore.issued.imp_right fun ⟨j, params, hold, hrow, hprecedes⟩ =>
    ⟨j, params, hbegins j params hold hrow hprecedes.fst_mem, hrow, hprecedes⟩

/-- A lookup answers with a row of the table, and that has been issued before it. -/
theorem issuedBefore_of_lookup {s : AuthState} {w : AuthWorld}
    (hissued : ∀ row ∈ s.challenges.table, ChallengeOrigin before log row)
    (hallowed : s.allowed w ⟨.getUnconsumedWebAuthnChallenge arg, .ok row⟩ = true) :
    IssuedBefore w.sqlLess before ((i, (AuthCall.getUnconsumedWebAuthnChallenge arg).event (.ok row)) :: log)
      (fun _ _ => True) i arg row := by
  obtain ⟨hmem, hchallenge, hkind, hunconsumed, htimely⟩ : Challenges.IsUnconsumed w.sqlLess s.challenges arg row :=
    of_decide_eq_true hallowed
  refine ⟨hchallenge, hkind, htimely, ?_⟩
  obtain ⟨old, hold, hrow⟩ | ⟨j, params, hcall, hrow⟩ := hissued row hmem
  · rw [hunconsumed] at hrow
    exact Or.inl ⟨old, hold, hrow⟩
  · have hfresh : row = issuedRow row.id params := by
      rw [hunconsumed] at hrow
      exact hrow
    rw [← hfresh] at hcall
    exact Or.inr ⟨j, params, trivial, hfresh, precedes_cons.mpr (Or.inr ⟨rfl, hcall⟩)⟩

end Agreement

/-! ## Runs -/

section Runs

variable {ι : Type} [DecidableEq ι]

/-- A call is the beginning of a registration, which is the library's affair, or one that the state answers. -/
theorem ceremony_answer {w : CeremonyWorld} {s next : AuthState} {event : CeremonyEvent}
    (hanswer : (ceremonyBackend w).answer s event = some next) :
    (next = s ∧ ∃ user uv answer, event = ⟨.beginRegistration user uv, answer⟩) ∨
      ∃ op answer, event = AuthCall.event op answer ∧ s.allowed w.auth ⟨op, answer⟩ = true ∧
        next = s.after w.auth ⟨op, answer⟩ := by
  obtain ⟨op, answer⟩ := event
  cases op with
  | beginRegistration user uv =>
      have hsame : (if w.begins user uv answer then some s else none) = some next := hanswer
      rw [Option.ite_none_right_eq_some, Option.some.injEq] at hsame
      exact Or.inl ⟨hsame.2.symm, user, uv, answer, rfl⟩
  | auth op => exact Or.inr ⟨op, answer, rfl, authAnswer_eq_some_iff.mp hanswer⟩

/-- What holds of every state of a run. -/
structure CeremonyInv (w : CeremonyWorld) (svc : AuthService) (s : AuthState) (requests : ι → CeremonyRequest)
    (c : Ceremonies ι) : Prop where
  follows : Follows (fun i => (requests i).Call svc) (fun _ _ _ => True) c
  made : ∀ i, ∀ event ∈ c.past i, (requests i).Call svc (c.past i) event.op
  issued : ∀ row ∈ c.shared.challenges.table, ChallengeOrigin s.challenges c.log row
  lookups : ∀ i arg row, (i, (AuthCall.getUnconsumedWebAuthnChallenge arg).event (.ok row)) ∈ c.log →
    IssuedBefore w.auth.sqlLess s.challenges c.log (fun _ _ => True) i arg row
  stored : ∀ row ∈ c.shared.credentials, ∃ stored, SameCredential stored row ∧
    (stored ∈ s.credentials ∨ ∃ i, (i, (AuthCall.createWebAuthnCredential stored).event (.ok stored)) ∈ c.log)
  sessions : ∀ row ∈ c.shared.sessions, row ∈ s.sessions ∨
    ∃ i arg now, (i, (AuthCall.createSession arg).event (.ok ())) ∈ c.log ∧ row = arg.row now

variable {w : CeremonyWorld} {svc : AuthService} {s : AuthState} {requests : ι → CeremonyRequest}
variable {c next : Ceremonies ι}

/-- Time and the purge job only take rows away. -/
theorem ceremonyInv_env {e : CeremonyEnv} (hinv : CeremonyInv w svc s requests c)
    (hstep : (ceremonyBackend w).step c (.env e) = some next) : CeremonyInv w svc s requests next := by
  have hfollows := hinv.follows.step hstep
  obtain ⟨shared, henv, rfl⟩ := step_env_eq_some_iff.mp hstep
  have hkept : (∀ row ∈ shared.challenges.table, row ∈ c.shared.challenges.table) ∧
      shared.credentials = c.shared.credentials ∧ shared.sessions = c.shared.sessions := by
    cases e with
    | tick now =>
        obtain ⟨-, rfl⟩ := tick_eq_some_iff.mp henv
        exact ⟨fun _ hrow => hrow, rfl, rfl⟩
    | purge now =>
        cases henv
        exact ⟨fun _ hrow => (KeyedTable.mem_deleteWhere.mp hrow).1, rfl, rfl⟩
  obtain ⟨hchallenges, hcredentials, hsessions⟩ := hkept
  refine ⟨hfollows, hinv.made, fun row hrow => hinv.issued row (hchallenges row hrow), hinv.lookups, ?_, ?_⟩
  · intro row hrow
    exact hinv.stored row (hcredentials ▸ hrow)
  · intro row hrow
    exact hinv.sessions row (hsessions ▸ hrow)

/-- What a call of the database inserts has a call in the log to show for it. -/
theorem ceremonyInv_answer {i : ι} {op : AuthCall} {answer : AuthAnswer op} (hinv : CeremonyInv w svc s requests c)
    (hallowed : c.shared.allowed w.auth ⟨op, answer⟩ = true)
    {shared : AuthState} (hshared : shared = c.shared.after w.auth ⟨op, answer⟩) :
    (∀ row ∈ shared.challenges.table, ChallengeOrigin s.challenges ((i, op.event answer) :: c.log) row) ∧
      (∀ row ∈ shared.credentials, ∃ stored, SameCredential stored row ∧ (stored ∈ s.credentials ∨
        ∃ j, (j, (AuthCall.createWebAuthnCredential stored).event (.ok stored)) ∈ (i, op.event answer) :: c.log)) ∧
      ∀ row ∈ shared.sessions, row ∈ s.sessions ∨
        ∃ j arg now, (j, (AuthCall.createSession arg).event (.ok ())) ∈ (i, op.event answer) :: c.log ∧
          row = arg.row now := by
  subst hshared
  refine ⟨fun row hrow => ?_, fun row hrow => ?_, fun row hrow => ?_⟩
  · obtain ⟨old, hold, hsame⟩ | ⟨arg, hevent, hfresh⟩ := mem_challenges_after hallowed hrow
    · exact ((hinv.issued old hold).of_eq hsame).cons _
    · cases hevent
      refine ChallengeOrigin.call i arg ?_ ?_
      · rw [List.mem_cons]
        exact Or.inl (by rw [← hfresh])
      · rw [← hfresh]
  · obtain ⟨old, hold, hnew⟩ | hevent := mem_credentials_after_call hallowed hrow
    · obtain ⟨stored, hsame, horigin⟩ := hinv.stored old hold
      refine ⟨stored, ?_, horigin.imp_right fun ⟨j, hcall⟩ => ⟨j, List.mem_cons_of_mem _ hcall⟩⟩
      rcases hnew with rfl | ⟨arg, rfl⟩
      · exact hsame
      · exact hsame.apply arg
    · cases hevent
      exact ⟨row, SameCredential.refl row, Or.inr ⟨i, List.mem_cons_self⟩⟩
  · obtain hold | ⟨arg, hevent, hnew⟩ := mem_sessions_after hrow
    · exact (hinv.sessions row hold).imp_right fun ⟨j, arg, now, hcall, hnew⟩ =>
        ⟨j, arg, now, List.mem_cons_of_mem _ hcall, hnew⟩
    · cases hevent
      exact Or.inr ⟨i, arg, c.shared.clock, List.mem_cons_self, hnew⟩

/-- What one step preserves. -/
theorem ceremonyInv_step {label : CeremonyLabel ι}
    (hinv : CeremonyInv w svc s requests c) (hstep : (ceremonyBackend w).step c label = some next) :
    CeremonyInv w svc s requests next := by
  cases label with
  | env e => exact ceremonyInv_env hinv hstep
  | call i event =>
      have hfollows := hinv.follows.step hstep
      have hmade := made_step (fun j past event op hcall => hcall.mono (List.subset_cons_self event past))
        hinv.follows hinv.made hstep
      obtain ⟨rest, shared, hcall, hanswer, rfl⟩ := step_call_eq_some_iff.mp hstep
      have hold : ∀ j arg row, (j, (AuthCall.getUnconsumedWebAuthnChallenge arg).event (.ok row)) ∈ c.log →
          IssuedBefore w.auth.sqlLess s.challenges ((i, event) :: c.log) (fun _ _ => True) j arg row :=
        fun j arg row hlookup => (hinv.lookups j arg row hlookup).cons _
      obtain ⟨rfl, user, uv, answer, rfl⟩ | ⟨op, answer, rfl, hallowed, hshared⟩ := ceremony_answer hanswer
      · refine ⟨hfollows, hmade, fun row hrow => (hinv.issued row hrow).cons _, ?_, ?_, ?_⟩
        · intro j arg row hlookup
          rcases List.mem_cons.mp hlookup with heq | hbefore
          · cases heq
          · exact hold j arg row hbefore
        · intro row hrow
          obtain ⟨stored, hsame, horigin⟩ := hinv.stored row hrow
          exact ⟨stored, hsame, horigin.imp_right fun ⟨j, hcall⟩ => ⟨j, List.mem_cons_of_mem _ hcall⟩⟩
        · intro row hrow
          exact (hinv.sessions row hrow).imp_right fun ⟨j, arg, now, hcall, hrow⟩ =>
            ⟨j, arg, now, List.mem_cons_of_mem _ hcall, hrow⟩
      · obtain ⟨hissued, hstored, hsessions⟩ := ceremonyInv_answer (i := i) hinv hallowed hshared
        refine ⟨hfollows, hmade, hissued, ?_, hstored, hsessions⟩
        intro j arg row hlookup
        rcases List.mem_cons.mp hlookup with heq | hbefore
        · cases heq
          exact issuedBefore_of_lookup hinv.issued hallowed
        · exact hold j arg row hbefore

theorem ceremonyInv_of_run {labels : List (CeremonyLabel ι)} {final : Ceremonies ι}
    (hrun : exec (ceremonyBackend w).step (ceremoniesStart svc s requests) labels = some final) :
    CeremonyInv w svc s requests final := by
  refine exec_invariant (CeremonyInv w svc s requests) (fun _ _ _ => ceremonyInv_step) hrun ?_
  refine ⟨follows_start fun i => along_ceremony svc (requests i), ?_, ?_, ?_, ?_, ?_⟩
  · intro i event hevent
    cases hevent
  · intro row hrow
    exact ChallengeOrigin.before row hrow rfl
  · intro i arg row hlookup
    cases hlookup
  · intro row hrow
    exact ⟨row, SameCredential.refl row, Or.inl hrow⟩
  · intro row hrow
    exact Or.inl hrow

/-! ## What the ends of ceremonies say of their beginnings -/

/-- Request `j` is a user's and begins a registration, for which it issues a challenge. -/
def BeginsRegistration (svc : AuthService) (requests : ι → CeremonyRequest) (c : Ceremonies ι) (userID : Int) (j : ι)
    (params : CreateWebAuthnChallengeParams) : Prop :=
  ∃ ctx user, requests j = .beginRegistration ctx ∧ ctx.user = some user ∧ user.id = userID ∧
    IssuesRegistration svc ctx (c.past j) params

/-- Request `j` begins a login, for which it issues a challenge. -/
def BeginsLogin (svc : AuthService) (requests : ι → CeremonyRequest) (c : Ceremonies ι) (j : ι)
    (params : CreateWebAuthnChallengeParams) : Prop :=
  ∃ clientIP, requests j = .beginLogin clientIP ∧ IssuesLogin svc (c.past j) params

/-- A credential is the end of a registration that its user began. -/
def EndsRegistration (w : CeremonyWorld) (svc : AuthService) (before : Challenges) (requests : ι → CeremonyRequest)
    (c : Ceremonies ι) (stored : WebauthnCredential) : Prop :=
  ∃ i ctx req user challenge lookup, requests i = .finishRegistration ctx req ∧ ctx.user = some user ∧
    stored.userID = user.id ∧ Registers svc ctx req (c.past i) challenge lookup stored ∧
    IssuedBefore w.auth.sqlLess before c.log (BeginsRegistration svc requests c user.id) i
      ⟨challenge.challenge, challengeKindRegistration, lookup⟩ challenge

/-- A session is the end of a passkey login. -/
def EndsLogin (w : CeremonyWorld) (svc : AuthService) (before : Challenges) (requests : ι → CeremonyRequest)
    (c : Ceremonies ι) (arg : CreateSessionParams) : Prop :=
  ∃ i req challenge lookup, requests i = .finishLogin req ∧ LogsIn svc req (c.past i) challenge lookup arg ∧
    IssuedBefore w.auth.sqlLess before c.log (BeginsLogin svc requests c) i
      ⟨challenge.challenge, challengeKindLogin, lookup⟩ challenge

/-- A session is the end of a password login. -/
def EndsPasswordLogin (svc : AuthService) (requests : ι → CeremonyRequest) (c : Ceremonies ι)
    (arg : CreateSessionParams) : Prop :=
  ∃ i req, requests i = .login req ∧ LogsInByPassword svc req (c.past i) arg

/-- The request that has issued a challenge of a user is one that begins a registration of the user. -/
theorem begins_registration {j : ι} {params : CreateWebAuthnChallengeParams} {userID : Int}
    (hcall : (requests j).Call svc (c.past j) (.auth (.createWebAuthnChallenge params)))
    (howner : params.userID = some userID) : BeginsRegistration svc requests c userID j params := by
  unfold CeremonyRequest.Call at hcall
  dsimp only at hcall
  split at hcall
  · rename_i ctx hrequest
    obtain ⟨user, credentials, begun, extensions, now, hctx, hbegun, hextensions, hnow, rfl⟩ := hcall
    exact ⟨ctx, user, hrequest, hctx, Option.some.inj howner,
      user, credentials, begun, extensions, now, hctx, hbegun, hextensions, hnow, rfl⟩
  · obtain ⟨begun, extensions, now, -, -, -, rfl⟩ := hcall
    cases howner
  · exact hcall.elim

/-- The request that has issued a challenge for a login is one that begins a login. -/
theorem begins_login {j : ι} {params : CreateWebAuthnChallengeParams}
    (hcall : (requests j).Call svc (c.past j) (.auth (.createWebAuthnChallenge params)))
    (hkind : params.kind = challengeKindLogin) : BeginsLogin svc requests c j params := by
  unfold CeremonyRequest.Call at hcall
  dsimp only at hcall
  split at hcall
  · obtain ⟨user, credentials, begun, extensions, now, -, -, -, -, rfl⟩ := hcall
    exact absurd (show challengeKindRegistration = challengeKindLogin from hkind) (by decide)
  · rename_i clientIP hrequest
    exact ⟨clientIP, hrequest, hcall⟩
  · exact hcall.elim

/-- Whatever runs at the same time: a stored credential is from before the run, or the end of a registration that its
user began. -/
theorem credential_agreement (w : CeremonyWorld) (svc : AuthService) (s : AuthState) (requests : ι → CeremonyRequest)
    (labels : List (CeremonyLabel ι)) (final : Ceremonies ι)
    (hrun : exec (ceremonyBackend w).step (ceremoniesStart svc s requests) labels = some final)
    (row : WebauthnCredential) (hrow : row ∈ final.shared.credentials) :
    ∃ stored, SameCredential stored row ∧
      (stored ∈ s.credentials ∨ EndsRegistration w svc s.challenges requests final stored) := by
  have hinv := ceremonyInv_of_run hrun
  obtain ⟨stored, hsame, hold | ⟨i, hcall⟩⟩ := hinv.stored row hrow
  · exact ⟨stored, hsame, Or.inl hold⟩
  · refine ⟨stored, hsame, Or.inr ?_⟩
    have htext := hinv.made i _ (mem_callsOf.mpr hcall)
    unfold CeremonyRequest.Call at htext
    dsimp only [AuthCall.event] at htext
    split at htext
    · rename_i ctx req hrequest
      obtain ⟨challenge, lookup, hregisters⟩ := htext
      have ⟨user, credentials, response, extensions, cred, now, hctx, howner, hparsed, hfound, hextensions, hverified,
        harg⟩ := hregisters
      refine ⟨i, ctx, req, user, challenge, lookup, hrequest, hctx, by rw [harg]; rfl, hregisters, ?_⟩
      have hbefore := hinv.lookups i _ challenge (mem_callsOf.mp hfound)
      rw [show response.challenge = challenge.challenge from hbefore.challenge.symm] at hbefore
      refine hbefore.imp fun j params _ hissued hcreated => ?_
      refine begins_registration (hinv.made j _ (mem_callsOf.mpr hcreated)) ?_
      rw [hissued] at howner
      exact howner
    · exact htext.elim

/-! A registration, a login that begins while it is under way, and the end of the login with the new passkey. -/

/-- The installation before its first passkey. -/
def noPasskeys : AuthState :=
  { passkeyState with credentials := KeyedTable.empty, challenges := ⟨KeyedTable.empty, 0, nofun⟩ }

def firstLogin : FinishPasskeyLoginRequest := ⟨str "response", false, none, str "10.0.0.1"⟩

def firstCeremonies : Fin 4 → CeremonyRequest
  | 0 => .beginRegistration ⟨some passkeyUser, none⟩
  | 1 => .finishRegistration ⟨some passkeyUser, none⟩ ⟨str "response", str "key"⟩
  | 2 => .beginLogin (str "10.0.0.1")
  | 3 => .finishLogin firstLogin

/-- The new passkey, and what the library makes of it. -/
def firstPasskey : WebauthnCredential := { passkeyRow [7] 0 with createdAt := 2 * second }

def firstCredential : Credential := dbCredToWebAuthn firstPasskey

def registrationIssued : CreateWebAuthnChallengeParams :=
  ⟨str "first", challengeKindRegistration, some 1, 120 * second, str "null"⟩

def loginIssued : CreateWebAuthnChallengeParams := ⟨str "second", challengeKindLogin, none, 121 * second, str "null"⟩

/-- The token of the session. -/
def firstToken : Token := ⟨List.replicate 32 1, by simp⟩

/-- The session of the login. -/
def firstSession : CreateSessionParams := issueParams defaultService.cfg 1 false firstToken none (3 * second)

def created : ParsedCreation := ⟨str "first", []⟩

def asserted : ParsedAssertion := ⟨[7], str "second", 0, []⟩

/-- A call of the database or the library, with its answer. -/
def told (i : Fin 4) (op : AuthCall) (answer : AuthAnswer op) : CeremonyLabel (Fin 4) :=
  .call i (op.event answer)

def firstRun : List (CeremonyLabel (Fin 4)) :=
  [told 0 (.listWebAuthnCredentialsByUser 1) (.ok []),
    .call 0 ⟨.beginRegistration ⟨1, str "admin", str "admin", []⟩ .preferred, .ok ⟨[], str "first", str "null"⟩⟩,
    told 0 (.marshalExtensions (str "null")) (.ok (str "null")), told 0 .timeNow 0,
    told 0 (.createWebAuthnChallenge registrationIssued) (.ok (issuedRow 1 registrationIssued)),
    told 0 (.marshalOptions []) (.ok []), .env (.tick second),
    -- the login begins
    told 2 .timeNow second, told 2 (.check passkeyLoginKey (str "10.0.0.1") second) (false, 0),
    told 2 (.beginDiscoverableLogin .preferred) (.ok ⟨[], str "second", str "null"⟩),
    told 2 (.marshalExtensions (str "null")) (.ok (str "null")), told 2 .timeNow second,
    told 2 (.createWebAuthnChallenge loginIssued) (.ok (issuedRow 2 loginIssued)), .env (.tick (2 * second)),
    -- the registration ends
    told 1 (.parseCredentialCreationResponseBody (str "response")) (.ok created), told 1 .timeNow (2 * second),
    told 1 (.getUnconsumedWebAuthnChallenge ⟨str "first", challengeKindRegistration, 2 * second⟩)
      (.ok (issuedRow 1 registrationIssued)),
    told 1 (.consumeWebAuthnChallenge 1) (.ok ()), told 1 (.listWebAuthnCredentialsByUser 1) (.ok []),
    told 1 (.unmarshalExtensions (str "null")) (.ok (str "null")),
    told 1 (.createCredential ⟨1, str "admin", str "admin", []⟩
      ⟨str "first", webAuthnID 1, .preferred, true, some (str "null")⟩ created) (.ok firstCredential),
    told 1 (.getWebAuthnCredential [7]) (.error .noRows), told 1 .timeNow (2 * second),
    told 1 (.createWebAuthnCredential firstPasskey) (.ok firstPasskey),
    .env (.purge (2 * second)), .env (.tick (3 * second)),
    -- the login ends
    told 3 (.parseCredentialRequestResponseBody (str "response")) (.ok asserted), told 3 .timeNow (3 * second),
    told 3 (.getUnconsumedWebAuthnChallenge ⟨str "second", challengeKindLogin, 3 * second⟩)
      (.ok (issuedRow 2 loginIssued)),
    told 3 (.consumeWebAuthnChallenge 2) (.ok ()), told 3 (.getWebAuthnCredential [7]) (.ok firstPasskey),
    told 3 (.getUser 1) (.ok passkeyUser), told 3 .timeNow (3 * second),
    told 3 (.check (str "admin") (str "10.0.0.1") (3 * second)) (false, 0),
    told 3 (.unmarshalExtensions (str "null")) (.ok (str "null")),
    told 3 (.validateDiscoverableLogin (assertionUser passkeyUser firstPasskey)
      (assertionSession defaultService (str "second") (some (str "null"))) asserted) (.ok firstCredential),
    told 3 .timeNow (3 * second),
    told 3 (.updateWebAuthnCredentialUsage (loginUsage firstPasskey firstCredential (3 * second))) (.ok ()),
    told 3 (.recordSuccess (str "admin")) (), told 3 .randRead (.ok firstToken), told 3 .timeNow (3 * second),
    told 3 (.createSession firstSession) (.ok ())]

theorem exec_firstRun :
    ((exec (ceremonyBackend calmCeremonies).step (ceremoniesStart defaultService noPasskeys firstCeremonies)
      firstRun).map fun c => (c.shared.credentials.rows, c.shared.sessions.rows)) =
      some ([{ firstPasskey with lastUsedAt := some (3 * second) }], [firstSession.row (3 * second)]) := by
  decide +kernel

/-- The passkey of the run is the end of a registration. -/
theorem credential_agreement_firstRun :
    ∃ final, exec (ceremonyBackend calmCeremonies).step (ceremoniesStart defaultService noPasskeys firstCeremonies)
        firstRun = some final ∧
      ∃ stored, SameCredential stored { firstPasskey with lastUsedAt := some (3 * second) } ∧
        EndsRegistration calmCeremonies defaultService noPasskeys.challenges firstCeremonies final stored := by
  obtain ⟨final, hfinal, hrows⟩ := Option.map_eq_some_iff.mp exec_firstRun
  have hcredentials : final.shared.credentials.rows = [{ firstPasskey with lastUsedAt := some (3 * second) }] :=
    congrArg Prod.fst hrows
  have hrow : { firstPasskey with lastUsedAt := some (3 * second) } ∈ final.shared.credentials := by
    rw [KeyedTable.mem_iff_mem_rows, hcredentials]
    exact List.mem_singleton_self _
  obtain ⟨stored, hsame, hold | hends⟩ := credential_agreement _ _ _ _ _ _ hfinal _ hrow
  · exact absurd hold (KeyedTable.not_mem_empty stored)
  · exact ⟨final, hfinal, stored, hsame, hends⟩

/-- Whatever runs at the same time: a session is from before the run, or the end of a login by password, or the end of
a login by passkey that was begun. -/
theorem session_agreement (w : CeremonyWorld) (svc : AuthService) (s : AuthState) (requests : ι → CeremonyRequest)
    (labels : List (CeremonyLabel ι)) (final : Ceremonies ι)
    (hrun : exec (ceremonyBackend w).step (ceremoniesStart svc s requests) labels = some final)
    (row : Session) (hrow : row ∈ final.shared.sessions) :
    row ∈ s.sessions ∨ ∃ arg now, row = arg.row now ∧
      (EndsPasswordLogin svc requests final arg ∨ EndsLogin w svc s.challenges requests final arg) := by
  have hinv := ceremonyInv_of_run hrun
  refine (hinv.sessions row hrow).imp_right fun ⟨i, arg, now, hcall, hnew⟩ => ⟨arg, now, hnew, ?_⟩
  have htext := hinv.made i _ (mem_callsOf.mpr hcall)
  unfold CeremonyRequest.Call at htext
  dsimp only [AuthCall.event] at htext
  split at htext
  · rename_i req hrequest
    obtain ⟨challenge, lookup, hlogs⟩ := htext
    have ⟨response, credRow, user, extensions, validCred, token, issued, hparsed, hfound, hstored, howner, hextensions,
      hverified, hcounter, harg⟩ := hlogs
    refine Or.inr ⟨i, req, challenge, lookup, hrequest, hlogs, ?_⟩
    have hbefore := hinv.lookups i _ challenge (mem_callsOf.mp hfound)
    rw [show response.challenge = challenge.challenge from hbefore.challenge.symm] at hbefore
    refine hbefore.imp fun j params _ hissued hcreated => ?_
    refine begins_login (hinv.made j _ (mem_callsOf.mpr hcreated)) ?_
    have hkind := hbefore.kind
    rw [hissued] at hkind
    exact hkind
  · rename_i req hrequest
    exact Or.inl ⟨i, req, hrequest, htext⟩
  · exact htext.elim

/-- The session of the run is the end of a login. -/
theorem session_agreement_firstRun :
    ∃ final, exec (ceremonyBackend calmCeremonies).step (ceremoniesStart defaultService noPasskeys firstCeremonies)
        firstRun = some final ∧
      ∃ arg now, firstSession.row (3 * second) = arg.row now ∧
        (EndsPasswordLogin defaultService firstCeremonies final arg ∨
          EndsLogin calmCeremonies defaultService noPasskeys.challenges firstCeremonies final arg) := by
  obtain ⟨final, hfinal, hrows⟩ := Option.map_eq_some_iff.mp exec_firstRun
  have hsessions : final.shared.sessions.rows = [firstSession.row (3 * second)] := congrArg Prod.snd hrows
  have hrow : firstSession.row (3 * second) ∈ final.shared.sessions := by
    rw [KeyedTable.mem_iff_mem_rows, hsessions]
    exact List.mem_singleton_self _
  obtain hold | hends := session_agreement _ _ _ _ _ _ hfinal _ hrow
  · exact absurd hold (KeyedTable.not_mem_empty _)
  · exact ⟨final, hfinal, hends⟩

end Runs

end Auth
end Dmanager
