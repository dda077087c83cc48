import Dmanager.Auth.Handlers

/-!
# The WebAuthn ceremonies

`BeginPasskeyRegistration` and the other four handlers that have to do with passkeys, with the password login, as
programs that run side by side: the calls of `Dmanager.Auth.Calls` and `BeginRegistration` of the library.  Between the
calls time passes, and the purge job deletes challenges.

`CeremonyRequest.Call` says of each handler what it has learnt when it issues a challenge, a session or a credential.
-/

namespace Dmanager
namespace Auth

open Go Db Lib Server
open Program (perform orFail)

/-! ## Calls and answers -/

/-- What `BeginRegistration` returns: the options for the browser, and the challenge and extensions of its session
data. -/
structure BegunRegistration where
  options : GoString
  challenge : GoString
  extensions : GoString
  deriving DecidableEq, Repr

/-- `BeginRegistration` is called with the user and the requirement, a resident key being preferred, without
attestation, and with the extension `credProps`. -/
inductive CeremonyCall where
  | beginRegistration (user : WebAuthnUser) (userVerification : UserVerification)
  | auth (op : AuthCall)
  deriving DecidableEq, Repr

@[reducible] def CeremonyAnswer : CeremonyCall → Type
  | .beginRegistration _ _ => Except GoString BegunRegistration
  | .auth op => AuthAnswer op

abbrev CeremonyHandler (α : Type) := Program CeremonyCall CeremonyAnswer ConnectError α

abbrev CeremonyEvent := Event CeremonyCall CeremonyAnswer

/-- A call of `Dmanager.Auth.Calls` among those of this module. -/
def AuthCall.event (op : AuthCall) (answer : AuthAnswer op) : CeremonyEvent := ⟨.auth op, answer⟩

/-- A handler of `Dmanager.Auth.Handlers` among those of this module. -/
def liftCeremony {α : Type} : AuthHandler α → CeremonyHandler α
  | .done a => .done a
  | .fail e => .fail e
  | .call op next => .call (.auth op) fun answer => liftCeremony (next answer)

namespace Handlers

/-- `BeginPasskeyRegistration`; the response is the JSON of the options. -/
def beginPasskeyRegistration (s : AuthService) (ctx : Ctx) : CeremonyHandler GoString := do
  let user ← liftCeremony (requireUser ctx)
  liftCeremony (requireWebauthn s)
  let dbCreds ← orFail (wrapError .internal "failed to fetch user credentials")
    (← perform (.auth (.listWebAuthnCredentialsByUser user.id)))
  let webUser : WebAuthnUser := ⟨user.id, user.username, user.username, dbCreds.map dbCredToWebAuthn⟩
  let begun ← orFail (wrapError .internal "failed to begin passkey registration")
    (← perform (.beginRegistration webUser (getUserVerificationRequirement s.webauthnCfg.requireUserVerification)))
  let extJSON ← orFail (wrapError .internal "failed to encode WebAuthn session extensions")
    (← perform (.auth (.marshalExtensions begun.extensions)))
  let now ← perform (.auth .timeNow)
  let _ ← orFail (wrapError .internal "failed to store registration challenge")
    (← perform (.auth (.createWebAuthnChallenge
      ⟨begun.challenge, challengeKindRegistration, some user.id, now + 120 * second, extJSON⟩)))
  orFail (wrapError .internal "failed to serialize registration options")
    (← perform (.auth (.marshalOptions begun.options)))

end Handlers

/-! ## Requests -/

open Handlers in
/-- A request to one of the handlers. -/
inductive CeremonyRequest where
  | beginRegistration (ctx : Ctx)
  | finishRegistration (ctx : Ctx) (req : FinishPasskeyRegistrationRequest)
  | beginLogin (clientIP : GoString)
  | finishLogin (req : FinishPasskeyLoginRequest)
  | login (req : LoginRequest)
  | deletePasskey (ctx : Ctx) (id : GoString)

/-- The handler of a request, without its response. -/
def CeremonyRequest.handler (s : AuthService) : CeremonyRequest → CeremonyHandler Unit
  | .beginRegistration ctx => (Handlers.beginPasskeyRegistration s ctx).void
  | .finishRegistration ctx req => liftCeremony (Handlers.finishPasskeyRegistration s ctx req).void
  | .beginLogin clientIP => liftCeremony (Handlers.beginPasskeyLogin s clientIP).void
  | .finishLogin req => liftCeremony (Handlers.finishPasskeyLogin s req).void
  | .login req => liftCeremony (Handlers.login s req).void
  | .deletePasskey ctx id => liftCeremony (Handlers.deletePasskey ctx id).void

/-! ## The server -/

/-- `DELETE FROM webauthn_challenges WHERE expires_at < ? OR consumed = 1`. -/
def purgeExpiredWebAuthnChallenges (sqlLess : Int → Int → Bool) (challenges : Challenges) (now : Int) : Challenges where
  table := challenges.table.deleteWhere fun row => sqlLess row.expiresAt now || decide (row.consumed = 1)
  seq := challenges.seq
  ids_le_seq row hrow := challenges.ids_le_seq row (KeyedTable.mem_deleteWhere.mp hrow).1

/-- The row of a new challenge. -/
def issuedRow (id : Int) (arg : CreateWebAuthnChallengeParams) : WebauthnChallenge :=
  ⟨id, arg.challenge, arg.kind, arg.userID, arg.expiresAt, 0, arg.extensions⟩

/-- As `AuthWorld`, and the answers that `BeginRegistration` may give. -/
structure CeremonyWorld where
  auth : AuthWorld
  begins : WebAuthnUser → UserVerification → Except GoString BegunRegistration → Bool

/-- What happens without a call: time passes, and the purge job deletes challenges. -/
inductive CeremonyEnv where
  | tick (now : Int)
  | purge (now : Int)
  deriving DecidableEq, Repr

/-- The state, shared by the handlers. -/
def ceremonyBackend (w : CeremonyWorld) : System AuthState CeremonyEnv CeremonyCall CeremonyAnswer where
  answer s
    | ⟨.beginRegistration user uv, answer⟩ => if w.begins user uv answer then some s else none
    | ⟨.auth op, answer⟩ => (authBackend w.auth).answer s ⟨op, answer⟩
  env s
    | .tick now => s.tick now
    | .purge now => some { s with challenges := purgeExpiredWebAuthnChallenges w.auth.sqlLess s.challenges now }

/-- Requests that run at the same time. -/
abbrev Ceremonies (ι : Type) := Config ι AuthState CeremonyCall CeremonyAnswer ConnectError (Except ConnectError Unit)

/-- A call of one of them, or a step of the environment. -/
abbrev CeremonyLabel (ι : Type) := Label ι CeremonyEnv CeremonyCall CeremonyAnswer

/-- The requests before their first call. -/
def ceremoniesStart {ι : Type} (svc : AuthService) (s : AuthState) (requests : ι → CeremonyRequest) : Ceremonies ι :=
  Config.start s fun i => ((requests i).handler svc).attempt

/-! ## What a handler has learnt -/

/-- When a registration issues a challenge. -/
inductive IssuesRegistration (svc : AuthService) (ctx : Ctx) (past : List CeremonyEvent)
    (arg : CreateWebAuthnChallengeParams) : Prop where
  | intro (user : User) (credentials : List Credential) (begun : BegunRegistration) (extensions : GoString) (now : Int)
      (hctx : ctx.user = some user)
      (hbegun : ⟨.beginRegistration ⟨user.id, user.username, user.username, credentials⟩
        (Handlers.getUserVerificationRequirement svc.webauthnCfg.requireUserVerification), .ok begun⟩ ∈ past)
      (hextensions : (AuthCall.marshalExtensions begun.extensions).event (.ok extensions) ∈ past)
      (hnow : AuthCall.timeNow.event now ∈ past)
      (harg : arg = ⟨begun.challenge, challengeKindRegistration, some user.id, now + 120 * second, extensions⟩)

/-- When a login issues a challenge. -/
inductive IssuesLogin (svc : AuthService) (past : List CeremonyEvent) (arg : CreateWebAuthnChallengeParams) : Prop where
  | intro (begun : BegunLogin) (extensions : GoString) (now : Int)
      (hbegun : (AuthCall.beginDiscoverableLogin
        (Handlers.getUserVerificationRequirement svc.webauthnCfg.requireUserVerification)).event (.ok begun) ∈ past)
      (hextensions : (AuthCall.marshalExtensions begun.extensions).event (.ok extensions) ∈ past)
      (hnow : AuthCall.timeNow.event now ∈ past)
      (harg : arg = ⟨begun.challenge, challengeKindLogin, none, now + 120 * second, extensions⟩)

/-- The stored extensions of a challenge have been read. -/
def ReadsExtensions (past : List CeremonyEvent) (stored : GoString) (extensions : Option GoString) : Prop :=
  stored = [] ∧ extensions = none ∨
    ∃ read, extensions = some read ∧ (AuthCall.unmarshalExtensions stored).event (.ok read) ∈ past

/-- When a registration stores a credential: the library has verified a response to the challenge of the row, which is
one of the user's, for this user. -/
inductive Registers (svc : AuthService) (ctx : Ctx) (req : Handlers.FinishPasskeyRegistrationRequest)
    (past : List CeremonyEvent) (row : WebauthnChallenge) (lookup : Int) (arg : CreateWebAuthnCredentialParams) :
    Prop where
  | intro (user : User) (credentials : List Credential) (response : ParsedCreation) (extensions : Option GoString)
      (cred : Credential) (now : Int) (hctx : ctx.user = some user) (howner : row.userID = some user.id)
      (hparsed : (AuthCall.parseCredentialCreationResponseBody req.responseJSON).event (.ok response) ∈ past)
      (hfound : (AuthCall.getUnconsumedWebAuthnChallenge
        ⟨response.challenge, challengeKindRegistration, lookup⟩).event (.ok row) ∈ past)
      (hextensions : ReadsExtensions past row.extensions extensions)
      (hverified : (AuthCall.createCredential ⟨user.id, user.username, user.username, credentials⟩
        ⟨response.challenge, Handlers.webAuthnID user.id,
          Handlers.getUserVerificationRequirement svc.webauthnCfg.requireUserVerification, true, extensions⟩
        response).event (.ok cred) ∈ past)
      (harg : arg = Handlers.credentialRow cred user.id (Handlers.credentialName req.name cred) now)

/-- When a passkey login issues a session: the library has verified a response to the challenge of the row, for the
stored credential and its user, and the counter has not regressed. -/
inductive LogsIn (svc : AuthService) (req : Handlers.FinishPasskeyLoginRequest) (past : List CeremonyEvent)
    (row : WebauthnChallenge) (lookup : Int) (arg : CreateSessionParams) : Prop where
  | intro (response : ParsedAssertion) (credRow : WebauthnCredential) (user : User) (extensions : Option GoString)
      (validCred : Credential) (token : Token) (now : Int)
      (hparsed : (AuthCall.parseCredentialRequestResponseBody req.responseJSON).event (.ok response) ∈ past)
      (hfound : (AuthCall.getUnconsumedWebAuthnChallenge
        ⟨response.challenge, challengeKindLogin, lookup⟩).event (.ok row) ∈ past)
      (hstored : (AuthCall.getWebAuthnCredential response.rawID).event (.ok credRow) ∈ past)
      (howner : (AuthCall.getUser credRow.userID).event (.ok user) ∈ past)
      (hextensions : ReadsExtensions past row.extensions extensions)
      (hverified : (AuthCall.validateDiscoverableLogin (Handlers.assertionUser user credRow)
        (Handlers.assertionSession svc response.challenge extensions) response).event (.ok validCred) ∈ past)
      (hcounter : ¬ Handlers.CounterRegressed credRow response.counter)
      (harg : arg = issueParams svc.cfg user.id req.rememberMe token req.reqHeader now)

/-- When a password login issues a session: bcrypt has accepted the password for the user of the name. -/
inductive LogsInByPassword (svc : AuthService) (req : Handlers.LoginRequest) (past : List CeremonyEvent)
    (arg : CreateSessionParams) : Prop where
  | intro (user : User) (token : Token) (now : Int)
      (hfound : (AuthCall.getUserByUsername req.username).event (.ok user) ∈ past)
      (hcompared : (AuthCall.compareHashAndPassword user.passwordHash req.password).event (.ok ()) ∈ past)
      (harg : arg = issueParams svc.cfg user.id req.rememberMe token req.reqHeader now)

/-- What the handler of a request may issue. -/
def CeremonyRequest.Call (svc : AuthService) (request : CeremonyRequest) (past : List CeremonyEvent) :
    CeremonyCall → Prop
  | .auth (.createWebAuthnChallenge arg) =>
    match request with
    | .beginRegistration ctx => IssuesRegistration svc ctx past arg
    | .beginLogin _ => IssuesLogin svc past arg
    | _ => False
  | .auth (.createWebAuthnCredential arg) =>
    match request with
    | .finishRegistration ctx req => ∃ row lookup, Registers svc ctx req past row lookup arg
    | _ => False
  | .auth (.createSession arg) =>
    match request with
    | .finishLogin req => ∃ row lookup, LogsIn svc req past row lookup arg
    | .login req => LogsInByPassword svc req past arg
    | _ => False
  | _ => True

/-! ## A small installation -/

/-- No call fails without a reason, and the library answers as it likes. -/
def calmCeremonies : CeremonyWorld := ⟨calmWorld, fun _ _ _ => true⟩

end Auth
end Dmanager
