import Dmanager.Auth.RateLimiter
import Dmanager.Auth.Session
import Dmanager.Db.WebAuthn
import Dmanager.Lib.Interleaving
import Dmanager.Server.Calls

/-!
# What the authentication handlers call

The handlers of `internal/auth/service.go` that log users in and manage their passkeys are programs over the
calls of this module: the clock and the random source, the rate limiter (whose three methods each run under
its mutex), bcrypt, the go-webauthn library with the JSON encoding of its data, the database, and the
best-effort write of an auth event.

What the library parses out of a response, apart from the fields that the handlers read, is one opaque value.
-/

namespace Dmanager
namespace Auth

open Go Db Lib Server

/-! ## The data of go-webauthn -/

/-- `protocol.UserVerificationRequirement`. -/
inductive UserVerification where
  | required
  | preferred
  | discouraged
  deriving DecidableEq, Repr

/-- `webauthn.Credential`; of its flags and its authenticator, the fields that the handlers set or read. -/
structure Credential where
  id : List UInt8
  publicKey : List UInt8
  attestationType : GoString
  transport : List GoString
  userPresent : Bool
  userVerified : Bool
  backupEligible : Bool
  backupState : Bool
  aaguid : List UInt8
  signCount : UInt32
  deriving DecidableEq, Repr

/-- `WebAuthnUser`. -/
structure WebAuthnUser where
  id : Int
  username : GoString
  displayName : GoString
  credentials : List Credential
  deriving DecidableEq, Repr

/-- `webauthn.SessionData`, as the handlers rebuild it; `credParams` is whether the default list is set. -/
structure SessionData where
  challenge : GoString
  userID : List UInt8
  userVerification : UserVerification
  credParams : Bool
  extensions : Option GoString
  deriving DecidableEq, Repr

/-- `protocol.ParsedCredentialAssertionData`. -/
structure ParsedAssertion where
  rawID : List UInt8
  challenge : GoString
  counter : UInt32
  rest : GoString
  deriving DecidableEq, Repr

/-- `protocol.ParsedCredentialCreationData`. -/
structure ParsedCreation where
  challenge : GoString
  rest : GoString
  deriving DecidableEq, Repr

/-- What `BeginDiscoverableLogin` returns: the options for the browser, and the challenge and extensions of
its session data. -/
structure BegunLogin where
  options : GoString
  challenge : GoString
  extensions : GoString
  deriving DecidableEq, Repr

/-! ## Calls and answers -/

inductive AuthCall where
  -- the process
  | timeNow
  | randRead
  -- the rate limiter
  | check (username ip : GoString) (now : Int)
  | recordFailure (username ip : GoString) (now : Int)
  | recordSuccess (username : GoString)
  -- bcrypt
  | compareHashAndPassword (hash password : GoString)
  -- go-webauthn and encoding/json
  | parseCredentialRequestResponseBody (body : GoString)
  | parseCredentialCreationResponseBody (body : GoString)
  | beginDiscoverableLogin (userVerification : UserVerification)
  | validateDiscoverableLogin (user : WebAuthnUser) (session : SessionData) (response : ParsedAssertion)
  | createCredential (user : WebAuthnUser) (session : SessionData) (response : ParsedCreation)
  | marshalExtensions (extensions : GoString)
  | unmarshalExtensions (data : GoString)
  | marshalOptions (options : GoString)
  -- the database
  | getUserByUsername (username : GoString)
  | getUser (id : Int)
  | createSession (arg : CreateSessionParams)
  | createWebAuthnChallenge (arg : CreateWebAuthnChallengeParams)
  | getUnconsumedWebAuthnChallenge (arg : GetUnconsumedWebAuthnChallengeParams)
  | consumeWebAuthnChallenge (id : Int)
  | getWebAuthnCredential (credentialID : List UInt8)
  | listWebAuthnCredentialsByUser (userID : Int)
  | countWebAuthnCredentialsByUser (userID : Int)
  | createWebAuthnCredential (arg : CreateWebAuthnCredentialParams)
  | deleteWebAuthnCredential (credentialID : List UInt8) (userID : Int)
  | updateWebAuthnCredentialUsage (arg : UpdateWebAuthnCredentialUsageParams)
  | recordAuthEvent (userID : Option Int) (username event detail : GoString)
  deriving DecidableEq, Repr

/-- The answer to a call.  `check` answers whether the client is locked out and for how long; the result of
`RecordFailure`, which no handler uses, is left out. -/
@[reducible] def AuthAnswer : AuthCall → Type
  | .timeNow => Int
  | .randRead => Except GoString Token
  | .check _ _ _ => Bool × Int
  | .recordFailure _ _ _ => Unit
  | .recordSuccess _ => Unit
  | .compareHashAndPassword _ _ => Except GoString Unit
  | .parseCredentialRequestResponseBody _ => Except GoString ParsedAssertion
  | .parseCredentialCreationResponseBody _ => Except GoString ParsedCreation
  | .beginDiscoverableLogin _ => Except GoString BegunLogin
  | .validateDiscoverableLogin _ _ _ => Except GoString Credential
  | .createCredential _ _ _ => Except GoString Credential
  | .marshalExtensions _ => Except GoString GoString
  | .unmarshalExtensions _ => Except GoString GoString
  | .marshalOptions _ => Except GoString GoString
  | .getUserByUsername _ => Except QueryError User
  | .getUser _ => Except QueryError User
  | .createSession _ => Except GoString Unit
  | .createWebAuthnChallenge _ => Except GoString WebauthnChallenge
  | .getUnconsumedWebAuthnChallenge _ => Except QueryError WebauthnChallenge
  | .consumeWebAuthnChallenge _ => Except GoString Unit
  | .getWebAuthnCredential _ => Except QueryError WebauthnCredential
  | .listWebAuthnCredentialsByUser _ => Except GoString (List WebauthnCredential)
  | .countWebAuthnCredentialsByUser _ => Except GoString Int
  | .createWebAuthnCredential _ => Except GoString WebauthnCredential
  | .deleteWebAuthnCredential _ _ => Except GoString Nat
  | .updateWebAuthnCredentialUsage _ => Except GoString Unit
  | .recordAuthEvent _ _ _ _ => Unit

/-- A handler of the authentication service. -/
abbrev AuthHandler (α : Type) := Program AuthCall AuthAnswer ConnectError α

/-- One call of a handler, with its answer. -/
abbrev AuthEvent := Event AuthCall AuthAnswer

/-! ## The state that the handlers share -/

/-- The tables, the limiter and the clock. -/
structure AuthState where
  users : Users
  sessions : Sessions
  credentials : Credentials
  challenges : Challenges
  limiter : RateLimiter
  clock : Int

/-- What the state does not decide: how numbers are converted and times compared, which statements may fail
without a reason in the tables, and which answers bcrypt, the library and the random source may give. -/
structure AuthWorld where
  conversion : FloatConversion
  sqlLess : Int → Int → Bool
  faults : AuthCall → Bool
  possible : AuthEvent → Bool

/-- A query for one row: the row, `sql.ErrNoRows`, or a failure. -/
def queryAllowed {α : Type} [DecidableEq α] (faulty : Bool) (row : Option α) : Except QueryError α → Bool
  | .ok a => decide (row = some a)
  | .error .noRows => row.isNone
  | .error (.other _) => faulty

/-- The answers that the state may give to a call. -/
def AuthState.allowed (w : AuthWorld) (s : AuthState) : AuthEvent → Bool
  | ⟨.timeNow, now⟩ => decide (now = s.clock)
  | ⟨.check username ip now, answer⟩ => decide (answer = (s.limiter.check username ip now).2)
  | ⟨.recordFailure _ _ _, _⟩ => true
  | ⟨.recordSuccess _, _⟩ => true
  | ⟨.recordAuthEvent _ _ _ _, _⟩ => true
  | ⟨.getUserByUsername username, answer⟩ =>
    queryAllowed (w.faults (.getUserByUsername username)) (s.users.getUserByUsername username) answer
  | ⟨.getUser id, answer⟩ => queryAllowed (w.faults (.getUser id)) (s.users.getUser id) answer
  | ⟨.createSession arg, answer⟩ =>
    match Sessions.createSession s.users s.sessions arg s.clock, answer with
    | some _, .ok _ => true
    | none, .ok _ => false
    | some _, .error _ => w.faults (.createSession arg)
    | none, .error _ => true
  | ⟨.createWebAuthnChallenge arg, answer⟩ =>
    match answer with
    | .ok row => decide (row = (s.challenges.createWebAuthnChallenge arg).2)
    | .error _ => w.faults (.createWebAuthnChallenge arg)
  | ⟨.getUnconsumedWebAuthnChallenge arg, answer⟩ =>
    match answer with
    | .ok row => decide (Challenges.IsUnconsumed w.sqlLess s.challenges arg row)
    | .error .noRows => s.challenges.table.rows.all fun row => decide (¬ Challenges.Unconsumed w.sqlLess arg row)
    | .error (.other _) => w.faults (.getUnconsumedWebAuthnChallenge arg)
  | ⟨.consumeWebAuthnChallenge id, answer⟩ =>
    match answer with
    | .ok _ => true
    | .error _ => w.faults (.consumeWebAuthnChallenge id)
  | ⟨.getWebAuthnCredential credentialID, answer⟩ =>
    queryAllowed (w.faults (.getWebAuthnCredential credentialID))
      (s.credentials.getWebAuthnCredential credentialID) answer
  | ⟨.listWebAuthnCredentialsByUser userID, answer⟩ =>
    match answer with
    | .ok rows => decide (Credentials.IsListOfUser w.sqlLess s.credentials userID rows)
    | .error _ => w.faults (.listWebAuthnCredentialsByUser userID)
  | ⟨.countWebAuthnCredentialsByUser userID, answer⟩ =>
    match answer with
    | .ok count => decide (count = s.credentials.countWebAuthnCredentialsByUser userID)
    | .error _ => w.faults (.countWebAuthnCredentialsByUser userID)
  | ⟨.createWebAuthnCredential arg, answer⟩ =>
    match Credentials.createWebAuthnCredential s.users s.credentials arg, answer with
    | some _, .ok row => decide (row = arg)
    | none, .ok _ => false
    | some _, .error _ => w.faults (.createWebAuthnCredential arg)
    | none, .error _ => true
  | ⟨.deleteWebAuthnCredential credentialID userID, answer⟩ =>
    match answer with
    | .ok rows => decide (rows = (s.credentials.deleteWebAuthnCredential credentialID userID).2)
    | .error _ => w.faults (.deleteWebAuthnCredential credentialID userID)
  | ⟨.updateWebAuthnCredentialUsage arg, answer⟩ =>
    match answer with
    | .ok _ => true
    | .error _ => w.faults (.updateWebAuthnCredentialUsage arg)
  | event => w.possible event

/-- The state after a call and its answer. -/
def AuthState.after (w : AuthWorld) (s : AuthState) : AuthEvent → AuthState
  | ⟨.check username ip now, _⟩ => { s with limiter := (s.limiter.check username ip now).1 }
  | ⟨.recordFailure username ip now, _⟩ =>
    { s with limiter := (RateLimiter.recordFailure w.conversion s.limiter username ip now).1 }
  | ⟨.recordSuccess username, _⟩ => { s with limiter := s.limiter.recordSuccess username }
  | ⟨.createSession arg, .ok _⟩ =>
    match Sessions.createSession s.users s.sessions arg s.clock with
    | some sessions => { s with sessions := sessions }
    | none => s
  | ⟨.createWebAuthnChallenge arg, .ok _⟩ =>
    { s with challenges := (s.challenges.createWebAuthnChallenge arg).1 }
  | ⟨.consumeWebAuthnChallenge id, .ok _⟩ =>
    { s with challenges := s.challenges.consumeWebAuthnChallenge id }
  | ⟨.createWebAuthnCredential arg, .ok _⟩ =>
    match Credentials.createWebAuthnCredential s.users s.credentials arg with
    | some credentials => { s with credentials := credentials }
    | none => s
  | ⟨.deleteWebAuthnCredential credentialID userID, .ok _⟩ =>
    { s with credentials := (s.credentials.deleteWebAuthnCredential credentialID userID).1 }
  | ⟨.updateWebAuthnCredentialUsage arg, .ok _⟩ =>
    { s with credentials := s.credentials.updateWebAuthnCredentialUsage arg }
  | _ => s

/-- Time passes. -/
def AuthState.tick (s : AuthState) (now : Int) : Option AuthState :=
  if s.clock ≤ now then some { s with clock := now } else none

/-- The state, shared by the handlers; what happens without a call is that time passes. -/
def authBackend (w : AuthWorld) : System AuthState Int AuthCall AuthAnswer where
  answer s event := if s.allowed w event then some (s.after w event) else none
  env := AuthState.tick

/-- Requests that run at the same time, each up to its response or its error. -/
abbrev Requests (ι α : Type) := Config ι AuthState AuthCall AuthAnswer ConnectError (Except ConnectError α)

/-- A call of one of them, or the clock. -/
abbrev AuthLabel (ι : Type) := Label ι Int AuthCall AuthAnswer

/-- The requests before their first call. -/
def requestsStart {ι α : Type} (s : AuthState) (handlers : ι → AuthHandler α) : Requests ι α :=
  Config.start s fun i => (handlers i).attempt

variable {w : AuthWorld} {s next : AuthState} {event : AuthEvent}

theorem authAnswer_eq_some_iff :
    (authBackend w).answer s event = some next ↔ s.allowed w event = true ∧ next = s.after w event := by
  simp only [authBackend, Option.ite_none_right_eq_some, Option.some.injEq]
  exact and_congr_right fun _ => eq_comm

theorem tick_eq_some_iff {now : Int} :
    s.tick now = some next ↔ s.clock ≤ now ∧ next = { s with clock := now } := by
  simp only [AuthState.tick, Option.ite_none_right_eq_some, Option.some.injEq]
  exact and_congr_right fun _ => eq_comm

/-- A call of a request: what is left of it is the next call, and the state allows the answer. -/
theorem requests_step_call {ι α : Type} [DecidableEq ι] {c after : Requests ι α} {i : ι}
    (hstep : (authBackend w).step c (.call i event) = some after) :
    ∃ rest, c.threads i = .call event.op rest ∧ c.shared.allowed w event = true ∧
      after = ⟨c.shared.after w event, Function.update c.threads i (rest event.answer), (i, event) :: c.log⟩ := by
  obtain ⟨rest, shared, hcall, hanswer, rfl⟩ := step_call_eq_some_iff.mp hstep
  obtain ⟨hallowed, rfl⟩ := authAnswer_eq_some_iff.mp hanswer
  exact ⟨rest, hcall, hallowed, rfl⟩

/-- A step without a call: only the clock moves. -/
theorem requests_step_env {ι α : Type} [DecidableEq ι] {c after : Requests ι α} {now : Int}
    (hstep : (authBackend w).step c (.env now) = some after) :
    c.shared.clock ≤ now ∧ after = { c with shared := { c.shared with clock := now } } := by
  obtain ⟨shared, henv, rfl⟩ := step_env_eq_some_iff.mp hstep
  obtain ⟨hle, rfl⟩ := tick_eq_some_iff.mp henv
  exact ⟨hle, rfl⟩

/-- No handler writes the users. -/
@[simp] theorem users_after (event : AuthEvent) : (s.after w event).users = s.users := by
  unfold AuthState.after
  repeat' split
  all_goals rfl

/-- The statements that write credentials. -/
def AuthCall.WritesCredentials : AuthCall → Prop
  | .createWebAuthnCredential _ => True
  | .deleteWebAuthnCredential _ _ => True
  | .updateWebAuthnCredentialUsage _ => True
  | _ => False

theorem credentials_after (hop : ¬ event.op.WritesCredentials) :
    (s.after w event).credentials = s.credentials := by
  unfold AuthState.after
  repeat' split
  all_goals first
    | rfl
    | exact absurd trivial hop

/-- The statements that write challenges. -/
def AuthCall.WritesChallenges : AuthCall → Prop
  | .createWebAuthnChallenge _ => True
  | .consumeWebAuthnChallenge _ => True
  | _ => False

theorem challenges_after (hop : ¬ event.op.WritesChallenges) : (s.after w event).challenges = s.challenges := by
  unfold AuthState.after
  repeat' split
  all_goals first
    | rfl
    | exact absurd trivial hop

/-- The calls of the limiter. -/
def AuthCall.OfLimiter : AuthCall → Prop
  | .check _ _ _ => True
  | .recordFailure _ _ _ => True
  | .recordSuccess _ => True
  | _ => False

theorem limiter_after (hop : ¬ event.op.OfLimiter) : (s.after w event).limiter = s.limiter := by
  unfold AuthState.after
  repeat' split
  all_goals first
    | rfl
    | exact absurd trivial hop

@[simp] theorem clock_after (event : AuthEvent) : (s.after w event).clock = s.clock := by
  unfold AuthState.after
  repeat' split
  all_goals rfl

/-! ## A handler that runs alone -/

/-- A statement or a read of the random source that fails; a query that finds no row does not. -/
def fails : AuthEvent → Bool
  | ⟨.randRead, .error _⟩ => true
  | ⟨.getUserByUsername _, .error (.other _)⟩ => true
  | ⟨.getUser _, .error (.other _)⟩ => true
  | ⟨.createSession _, .error _⟩ => true
  | ⟨.createWebAuthnChallenge _, .error _⟩ => true
  | ⟨.getUnconsumedWebAuthnChallenge _, .error (.other _)⟩ => true
  | ⟨.consumeWebAuthnChallenge _, .error _⟩ => true
  | ⟨.getWebAuthnCredential _, .error (.other _)⟩ => true
  | ⟨.listWebAuthnCredentialsByUser _, .error _⟩ => true
  | ⟨.countWebAuthnCredentialsByUser _, .error _⟩ => true
  | ⟨.createWebAuthnCredential _, .error _⟩ => true
  | ⟨.deleteWebAuthnCredential _ _, .error _⟩ => true
  | ⟨.updateWebAuthnCredentialUsage _, .error _⟩ => true
  | _ => false

/-- One call of a handler that runs alone: time passes, and then the state answers. -/
def aloneStep (w : AuthWorld) (s : AuthState) (event : AuthEvent) (next : AuthState) : Prop :=
  ∃ now, s.clock ≤ now ∧ ({ s with clock := now } : AuthState).allowed w event = true ∧
    next = ({ s with clock := now } : AuthState).after w event

/-- The same, and nothing fails. -/
def smoothStep (w : AuthWorld) (s : AuthState) (event : AuthEvent) (next : AuthState) : Prop :=
  aloneStep w s event next ∧ fails event = false

end Auth
end Dmanager
