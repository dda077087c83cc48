import Dmanager.Auth.Handlers

/-!
# One use of a WebAuthn challenge

`FinishPasskeyLogin` and `FinishPasskeyRegistration` look a challenge up among the unconsumed ones, mark it
as consumed, and go on to issue a session or to store a credential.  The lookup and the mark are two
statements, and nobody looks at the result of the second one, so two requests can find the same row.

`singleUse_of_consumedBefore` is a condition on the schedule under which a challenge is used once in every run: no
lookup comes between the lookup of another request that finds the same row and its consumption, and no consumption
fails.  Whoever uses a challenge has consumed it (`Ready`), and a consumed row is found by no one.  The kind of the row
is always the right one, and so is the instant of the lookup, if SQLite orders its text and the text of `expires_at`
as the instants are.

`challenge_used_twice` is a run in which two requests log in with one challenge.
-/

namespace Dmanager
namespace Auth

open Go Db Lib Server
open Handlers

/-! ## Requests and what they do with challenges -/

/-- A request that finishes a ceremony. -/
inductive FinishRequest where
  | login (req : FinishPasskeyLoginRequest)
  | registration (ctx : Ctx) (req : FinishPasskeyRegistrationRequest)

/-- The handler of a request, without its response. -/
def FinishRequest.handler (s : AuthService) : FinishRequest → AuthHandler Unit
  | .login req => (finishPasskeyLogin s req).void
  | .registration ctx req => (finishPasskeyRegistration s ctx req).void

/-- The kind of challenge that a request is for. -/
def FinishRequest.kind : FinishRequest → GoString
  | .login _ => challengeKindLogin
  | .registration _ _ => challengeKindRegistration

/-- A session has been issued. -/
def issuesSession : AuthEvent → Bool
  | ⟨.createSession _, .ok _⟩ => true
  | _ => false

/-- A credential has been stored. -/
def storesCredential : AuthEvent → Bool
  | ⟨.createWebAuthnCredential _, .ok _⟩ => true
  | _ => false

/-- Either of them. -/
def uses (event : AuthEvent) : Bool := issuesSession event || storesCredential event

/-- The row that a lookup has found. -/
def found? : AuthEvent → Option WebauthnChallenge
  | ⟨.getUnconsumedWebAuthnChallenge _, .ok row⟩ => some row
  | _ => none

/-- The ids of the rows that a request has found. -/
def foundIDs (past : List AuthEvent) : List Int := past.filterMap fun event => (found? event).map (·.id)

variable {ι : Type} [DecidableEq ι]

/-- The sessions and credentials that the row of an id has led to, with the requests they are of. -/
def usesOf (c : Requests ι Unit) (id : Int) : List (ι × AuthEvent) :=
  c.log.filter fun entry => uses entry.2 && decide (id ∈ foundIDs (c.past entry.1))

/-- Every row has led to at most one session or credential, and to none of the other kind or after a lookup
at its expiry or later. -/
structure SingleUse (c : Requests ι Unit) : Prop where
  once : ∀ id, (usesOf c id).length ≤ 1
  kind : ∀ i arg row, ⟨.getUnconsumedWebAuthnChallenge arg, .ok row⟩ ∈ c.past i → ∀ event ∈ c.past i,
    (issuesSession event = true → row.kind = challengeKindLogin) ∧
      (storesCredential event = true → row.kind = challengeKindRegistration)
  timely : ∀ i arg row, ⟨.getUnconsumedWebAuthnChallenge arg, .ok row⟩ ∈ c.past i → ∀ event ∈ c.past i,
    uses event = true → arg.expiresAt < row.expiresAt

/-- The request has sent the statement that consumes a row. -/
def ConsumedBy (past : List AuthEvent) (id : Int) : Prop := ∃ answer, ⟨.consumeWebAuthnChallenge id, answer⟩ ∈ past

/-- When a lookup finds a row, no other request is between its lookup of this row and its consumption of it: those that
have found it are over or have sent the statement.  The statement does not fail, and SQLite compares the two instants
as they are. -/
def ConsumedBefore (w : AuthWorld) (c : Requests ι Unit) : AuthLabel ι → Prop
  | .call i ⟨.getUnconsumedWebAuthnChallenge arg, .ok row⟩ =>
    w.sqlLess arg.expiresAt row.expiresAt = decide (arg.expiresAt < row.expiresAt) ∧
      ∀ j ≠ i, row.id ∈ foundIDs (c.past j) → (c.threads j).isOver = true ∨ ConsumedBy (c.past j) row.id
  | .call _ ⟨.consumeWebAuthnChallenge _, .error _⟩ => False
  | _ => True

/-- The requests before their first call. -/
def finishesStart (svc : AuthService) (s : AuthState) (requests : ι → FinishRequest) : Requests ι Unit :=
  requestsStart s fun i => (requests i).handler svc

/-! ## The texts of the two handlers -/

/-- The credential row that a request has read. -/
def readRow (past : List AuthEvent) : Option WebauthnCredential :=
  past.findSome? fun event =>
    match event with
    | ⟨.getWebAuthnCredential _, .ok row⟩ => some row
    | _ => none

/-- The assertion that the library has verified for a request. -/
def verifiedAssertion (past : List AuthEvent) : Option ParsedAssertion :=
  past.findSome? fun event =>
    match event with
    | ⟨.validateDiscoverableLogin _ _ response, .ok _⟩ => some response
    | _ => none

/-- No challenge has been used yet, and those that have been found have been consumed. -/
structure Ready (past : List AuthEvent) : Prop where
  unused : ∀ event ∈ past, uses event = false
  consumed : ∀ id ∈ foundIDs past, ConsumedBy past id

/-- What a login calls. -/
def FinishLoginCall (past : List AuthEvent) : AuthCall → Prop
  | .getUnconsumedWebAuthnChallenge arg => arg.kind = challengeKindLogin ∧ Ready past
  | .createSession _ => Ready past
  | .updateWebAuthnCredentialUsage arg =>
    ∃ credRow user session response validCred,
      readRow past = some credRow ∧ verifiedAssertion past = some response ∧
      ⟨.validateDiscoverableLogin (assertionUser user credRow) session response, .ok validCred⟩ ∈ past ∧
      ((CounterRegressed credRow response.counter ∧ arg = cloneUsage credRow) ∨
        (¬ CounterRegressed credRow response.counter ∧ ∃ now, arg = loginUsage credRow validCred now))
  | .createWebAuthnCredential _ => False
  | .deleteWebAuthnCredential _ _ => False
  | .createWebAuthnChallenge _ => False
  | _ => True

/-- What a registration calls. -/
def FinishRegistrationCall (past : List AuthEvent) : AuthCall → Prop
  | .getUnconsumedWebAuthnChallenge arg => arg.kind = challengeKindRegistration ∧ Ready past
  | .createWebAuthnCredential _ => Ready past
  | .createSession _ => False
  | .createWebAuthnChallenge _ => False
  | _ => True

/-- What a request calls. -/
def FinishRequest.Call : FinishRequest → List AuthEvent → AuthCall → Prop
  | .login _ => FinishLoginCall
  | .registration _ _ => FinishRegistrationCall

variable {svc : AuthService} {past : List AuthEvent} {event : AuthEvent}

theorem found?_eq_some_iff {row : WebauthnChallenge} :
    found? event = some row ↔ ∃ arg, event = ⟨.getUnconsumedWebAuthnChallenge arg, .ok row⟩ := by
  unfold found?
  split
  · simp [eq_comm]
  · rename_i hother
    simpa using fun arg => hother arg row

theorem mem_foundIDs_cons {id : Int} :
    id ∈ foundIDs (event :: past) ↔
      (∃ arg row, event = ⟨.getUnconsumedWebAuthnChallenge arg, .ok row⟩ ∧ row.id = id) ∨ id ∈ foundIDs past := by
  have hmap : (found? event).map (·.id) = some id ↔
      ∃ arg row, event = ⟨.getUnconsumedWebAuthnChallenge arg, .ok row⟩ ∧ row.id = id := by
    simp only [Option.map_eq_some_iff, found?_eq_some_iff]
    constructor
    · rintro ⟨row, ⟨arg, hevent⟩, hid⟩
      exact ⟨arg, row, hevent, hid⟩
    · rintro ⟨arg, row, hevent, hid⟩
      exact ⟨row, ⟨arg, hevent⟩, hid⟩
  rw [← hmap, foundIDs, List.mem_filterMap]
  simp only [List.mem_cons, exists_eq_or_imp, foundIDs, List.mem_filterMap]

theorem ready_nil : Ready [] :=
  ⟨fun _ hnone => absurd hnone List.not_mem_nil, fun _ hnone => absurd hnone List.not_mem_nil⟩

/-- A call that uses nothing and finds nothing. -/
theorem Ready.cons (hready : Ready past) (hunused : uses event = false) (hnone : found? event = none) :
    Ready (event :: past) := by
  refine ⟨List.forall_mem_cons.mpr ⟨hunused, hready.unused⟩, fun id hid => ?_⟩
  rcases mem_foundIDs_cons.mp hid with ⟨arg, row, heq, -⟩ | hbefore
  · rw [found?_eq_some_iff.mpr ⟨arg, heq⟩] at hnone
    cases hnone
  · obtain ⟨answer, hmem⟩ := hready.consumed id hbefore
    exact ⟨answer, List.mem_cons_of_mem _ hmem⟩

/-- A lookup, and the consumption of what it has found. -/
theorem Ready.consume {arg : GetUnconsumedWebAuthnChallengeParams} {row : WebauthnChallenge}
    {answer : Except GoString Unit} (hready : Ready past) :
    Ready (⟨.consumeWebAuthnChallenge row.id, answer⟩ :: ⟨.getUnconsumedWebAuthnChallenge arg, .ok row⟩ :: past) := by
  refine ⟨?_, fun id hid => ?_⟩
  · simp only [List.forall_mem_cons]
    exact ⟨rfl, rfl, hready.unused⟩
  · have hfound := (mem_foundIDs_cons.mp hid).resolve_left (by rintro ⟨_, _, heq, -⟩; cases heq)
    rcases mem_foundIDs_cons.mp hfound with ⟨_, _, heq, rfl⟩ | hbefore
    · cases heq
      exact ⟨answer, List.mem_cons_self⟩
    · obtain ⟨earlier, hmem⟩ := hready.consumed id hbefore
      exact ⟨earlier, List.mem_cons_of_mem _ (List.mem_cons_of_mem _ hmem)⟩

theorem alongOr_rejectAssertion {req : FinishPasskeyLoginRequest} {user : User} {reason : String}
    {err : ConnectError} :
    (rejectAssertion req user reason err).AlongOr FinishLoginCall (fun _ _ => True) (fun _ _ => True) past := by
  exact ⟨trivial, fun _ => ⟨trivial, fun _ => ⟨trivial, fun _ => trivial⟩⟩⟩

theorem alongOr_rejectUnresolved {req : FinishPasskeyLoginRequest} {reason : String} {err : ConnectError} :
    (rejectUnresolved req reason err).AlongOr FinishLoginCall (fun _ _ => True) (fun _ _ => True) past := by
  exact ⟨trivial, fun _ => ⟨trivial, fun _ => ⟨trivial, fun _ => trivial⟩⟩⟩

theorem alongOr_completeLogin {user : User} {rememberMe : Bool} {reqHeader : Header} {method clientIP : GoString}
    (hready : Ready past) :
    (completeLogin svc user rememberMe reqHeader method clientIP).AlongOr FinishLoginCall (fun _ _ => True)
      (fun _ _ => True) past := by
  unfold completeLogin Handlers.issueSession
  simp only [Program.alongOr_bind, Program.alongOr_perform, Program.alongOr_orFail, Program.alongOr_done,
    implies_true, and_true]
  refine ⟨trivial, fun token bytes _ => ⟨trivial, fun now => ⟨?_, fun created _ _ => ⟨trivial, fun _ => trivial⟩⟩⟩⟩
  exact (hready.cons rfl rfl).cons rfl rfl

theorem alongOr_acceptAssertion {req : FinishPasskeyLoginRequest} {session : SessionData}
    {response : ParsedAssertion} {credRow : WebauthnCredential} {user : User} {validCred : Credential}
    (hready : Ready past)
    (hread : readRow past = some credRow) (hverified : verifiedAssertion past = some response)
    (hvalid : ⟨.validateDiscoverableLogin (assertionUser user credRow) session response, .ok validCred⟩ ∈ past) :
    (acceptAssertion svc req response credRow user validCred).AlongOr FinishLoginCall (fun _ _ => True)
      (fun _ _ => True) past := by
  unfold acceptAssertion
  split
  · rename_i hregressed
    refine ⟨?_, fun _ => alongOr_rejectAssertion⟩
    exact ⟨credRow, user, session, response, validCred, hread, hverified, hvalid, Or.inl ⟨hregressed, rfl⟩⟩
  · rename_i hadvanced
    simp only [Program.alongOr_bind, Program.alongOr_perform]
    refine ⟨trivial, fun now => ⟨?_, fun _ => ⟨trivial, fun _ => ?_⟩⟩⟩
    · exact ⟨credRow, user, session, response, validCred, hread, hverified, List.mem_cons_of_mem _ hvalid,
        Or.inr ⟨hadvanced, now, rfl⟩⟩
    · exact alongOr_completeLogin (((hready.cons rfl rfl).cons rfl rfl).cons rfl rfl)

theorem alongOr_validateAssertion {req : FinishPasskeyLoginRequest} {response : ParsedAssertion}
    {dbChallenge : WebauthnChallenge} {credRow : WebauthnCredential} {user : User} (hready : Ready past)
    (hread : readRow past = some credRow) :
    (validateAssertion svc req response dbChallenge credRow user).AlongOr FinishLoginCall (fun _ _ => True)
      (fun _ _ => True) past := by
  have hconclude : ∀ extensions later, Ready later →
      readRow later = some credRow → ∀ valid,
      (concludeAssertion svc req response credRow user valid).AlongOr FinishLoginCall (fun _ _ => True)
        (fun _ _ => True) (⟨.validateDiscoverableLogin (assertionUser user credRow)
          (assertionSession svc response.challenge extensions) response, valid⟩ :: later) := by
    intro extensions later hready hread valid
    cases valid with
    | error err => exact alongOr_rejectAssertion
    | ok validCred => exact alongOr_acceptAssertion (hready.cons rfl rfl) hread rfl List.mem_cons_self
  unfold validateAssertion
  simp only [Program.alongOr_bind, Program.alongOr_perform]
  apply alongOr_readExtensions
  · exact fun _ => trivial
  · exact ⟨trivial, hconclude none past hready hread⟩
  · intro data read ext
    exact ⟨trivial, hconclude ext _ (hready.cons rfl rfl) hread⟩
  · exact fun _ _ _ => trivial

theorem alongOr_resolveUser {req : FinishPasskeyLoginRequest} {response : ParsedAssertion}
    {dbChallenge : WebauthnChallenge} (hready : Ready past) :
    (resolveUser svc req response dbChallenge).AlongOr FinishLoginCall (fun _ _ => True) (fun _ _ => True)
      past := by
  unfold resolveUser
  simp only [Program.alongOr_bind, Program.alongOr_perform]
  refine ⟨trivial, fun foundCred => ?_⟩
  cases foundCred with
  | error err => exact alongOr_rejectUnresolved
  | ok credRow =>
      simp only [Program.alongOr_bind, Program.alongOr_perform]
      refine ⟨trivial, fun foundUser => ?_⟩
      cases foundUser with
      | error err => exact ⟨trivial, fun _ => ⟨trivial, fun _ => trivial⟩⟩
      | ok user =>
          rw [Program.alongOr_bind]
          refine alongOr_requireUnlocked trivial (fun _ => trivial) (fun _ _ => trivial) (fun _ _ => trivial) ?_
          intro now wait
          exact alongOr_validateAssertion
            ((((hready.cons rfl rfl).cons rfl rfl).cons rfl rfl).cons rfl rfl) rfl

/-- The text of `FinishPasskeyLogin`. -/
theorem alongOr_finishPasskeyLogin (svc : AuthService) (req : FinishPasskeyLoginRequest) :
    (finishPasskeyLogin svc req).AlongOr FinishLoginCall (fun _ _ => True) (fun _ _ => True) [] := by
  unfold finishPasskeyLogin requireWebauthn
  simp only [Program.alongOr_bind, Program.alongOr_ensure, Program.alongOr_perform, implies_true, and_true]
  intro _
  refine ⟨trivial, fun parsed => ?_⟩
  cases parsed with
  | error err => exact ⟨trivial, fun _ => ⟨trivial, fun _ => trivial⟩⟩
  | ok response =>
      simp only [Program.alongOr_bind, Program.alongOr_perform]
      have hready (now : Int) : Ready [⟨.timeNow, now⟩,
          ⟨.parseCredentialRequestResponseBody req.responseJSON, .ok response⟩] :=
        (ready_nil.cons rfl rfl).cons rfl rfl
      refine ⟨trivial, fun now => ⟨⟨rfl, hready now⟩, fun found => ?_⟩⟩
      cases found with
      | error err => exact alongOr_rejectUnresolved
      | ok dbChallenge =>
          simp only [Program.alongOr_bind, Program.alongOr_perform]
          exact ⟨trivial, fun _ => alongOr_resolveUser (hready now).consume⟩

theorem alongOr_saveCredential {user : User} {req : FinishPasskeyRegistrationRequest} {cred : Credential}
    (hready : Ready past) :
    (saveCredential user req cred).AlongOr FinishRegistrationCall (fun _ _ => True) (fun _ _ => True) past := by
  unfold saveCredential
  simp only [Program.alongOr_bind, Program.alongOr_ensure, Program.alongOr_orFail, Program.alongOr_perform,
    Program.alongOr_done, implies_true, and_true]
  refine ⟨trivial, fun registered _ => ⟨trivial, fun now => ⟨?_, fun created row _ => ⟨trivial, fun _ => trivial⟩⟩⟩⟩
  exact (hready.cons rfl rfl).cons rfl rfl

/-- The text of `FinishPasskeyRegistration`. -/
theorem alongOr_finishPasskeyRegistration (svc : AuthService) (ctx : Ctx) (req : FinishPasskeyRegistrationRequest) :
    (finishPasskeyRegistration svc ctx req).AlongOr FinishRegistrationCall (fun _ _ => True) (fun _ _ => True)
      [] := by
  unfold finishPasskeyRegistration requireUser
  split
  · trivial
  · unfold requireWebauthn
    simp only [Program.alongOr_bind, Program.alongOr_done, Program.alongOr_ensure, Program.alongOr_perform,
      Program.alongOr_orFail, implies_true, and_true]
    intro _
    refine ⟨trivial, fun parsed response _ => ⟨trivial, fun now => ?_⟩⟩
    have hready : Ready [⟨.timeNow, now⟩, ⟨.parseCredentialCreationResponseBody req.responseJSON, parsed⟩] :=
      (ready_nil.cons rfl rfl).cons rfl rfl
    refine ⟨⟨rfl, hready⟩, fun found => ?_⟩
    rcases found with (_ | message) | dbChallenge
    · trivial
    · trivial
    · simp only [Program.alongOr_bind, Program.alongOr_ensure, Program.alongOr_perform, implies_true, and_true]
      intro _
      refine ⟨trivial, fun consumed => ?_⟩
      unfold storeCredential
      simp only [Program.alongOr_bind, Program.alongOr_orFail, Program.alongOr_perform, implies_true, and_true]
      refine ⟨trivial, fun listed dbCreds _ => ?_⟩
      apply alongOr_readExtensions
      · exact fun _ => trivial
      · refine ⟨trivial, fun created cred _ => alongOr_saveCredential ?_⟩
        exact (hready.consume.cons rfl rfl).cons rfl rfl
      · intro data read ext
        refine ⟨trivial, fun created cred _ => alongOr_saveCredential ?_⟩
        exact ((hready.consume.cons rfl rfl).cons rfl rfl).cons rfl rfl
      · exact fun _ _ _ => trivial

theorem along_handler (svc : AuthService) (request : FinishRequest) :
    ((request.handler svc).attempt : Program _ _ ConnectError _).Along request.Call (fun _ _ => True) [] := by
  rw [Program.along_attempt]
  cases request with
  | login req => exact Program.alongOr_void.mpr (alongOr_finishPasskeyLogin svc req)
  | registration ctx req => exact Program.alongOr_void.mpr (alongOr_finishPasskeyRegistration svc ctx req)

/-! ## What one call of a request says -/

/-- A lookup of the request found a row of its kind in time, and it is the request's kind that it issues. -/
structure Sound (request : FinishRequest) (event : AuthEvent) : Prop where
  lookup : ∀ arg row, event = ⟨.getUnconsumedWebAuthnChallenge arg, .ok row⟩ →
    row.kind = request.kind ∧ arg.expiresAt < row.expiresAt
  session : issuesSession event = true → request.kind = challengeKindLogin
  credential : storesCredential event = true → request.kind = challengeKindRegistration

variable {w : AuthWorld} {request : FinishRequest}

theorem issuesSession_eq_true_iff :
    issuesSession event = true ↔ ∃ arg u, event = ⟨.createSession arg, .ok u⟩ := by
  unfold issuesSession
  split
  · simp
  · rename_i hother
    simpa using hother

theorem storesCredential_eq_true_iff :
    storesCredential event = true ↔ ∃ arg row, event = ⟨.createWebAuthnCredential arg, .ok row⟩ := by
  unfold storesCredential
  split
  · simp
  · rename_i hother
    simpa using hother

/-- A request uses its challenge at most once, and when it has consumed it. -/
theorem ready_of_uses (htext : request.Call past event.op) (huses : uses event = true) : Ready past := by
  rcases Bool.or_eq_true_iff.mp huses with hsession | hcredential
  · obtain ⟨arg, u, rfl⟩ := issuesSession_eq_true_iff.mp hsession
    cases request with
    | login req => exact htext
    | registration ctx req => exact absurd htext id
  · obtain ⟨arg, row, rfl⟩ := storesCredential_eq_true_iff.mp hcredential
    cases request with
    | login req => exact absurd htext id
    | registration ctx req => exact htext

theorem sound_of_call {s : AuthState} (htext : request.Call past event.op) (hallowed : s.allowed w event = true)
    (hsql : ∀ arg row, event = ⟨.getUnconsumedWebAuthnChallenge arg, .ok row⟩ →
      w.sqlLess arg.expiresAt row.expiresAt = decide (arg.expiresAt < row.expiresAt)) :
    Sound request event where
  lookup := by
    rintro arg row rfl
    have hkind : arg.kind = request.kind := by
      cases request with
      | login req => exact htext.1
      | registration ctx req => exact htext.1
    obtain ⟨-, -, hrow, -, hless⟩ : Challenges.IsUnconsumed w.sqlLess s.challenges arg row :=
      of_decide_eq_true hallowed
    rw [hsql arg row rfl, decide_eq_true_eq] at hless
    exact ⟨hrow.trans hkind, hless⟩
  session := by
    intro hsession
    obtain ⟨arg, u, rfl⟩ := issuesSession_eq_true_iff.mp hsession
    cases request with
    | login req => rfl
    | registration ctx req => exact absurd htext id
  credential := by
    intro hcredential
    obtain ⟨arg, row, rfl⟩ := storesCredential_eq_true_iff.mp hcredential
    cases request with
    | login req => exact absurd htext id
    | registration ctx req => rfl

/-! ## Runs -/

variable {requests : ι → FinishRequest} {c next : Requests ι Unit} {i : ι}

/-- The request has failed without a use of its challenge. -/
def Failed (c : Requests ι Unit) (i : ι) : Prop :=
  (c.threads i).isOver = true ∧ ∀ event ∈ c.past i, uses event = false

/-- What holds of every state of a run: who has used a challenge has consumed it, what has been consumed is marked in
the table, and of two requests that have found one row, one has failed. -/
structure ChallengeInv (requests : ι → FinishRequest) (c : Requests ι Unit) : Prop where
  follows : Follows (fun i => (requests i).Call) (fun _ _ _ => True) c
  sound : ∀ i, ∀ event ∈ c.past i, Sound (requests i) event
  uses_le : ∀ i, (c.past i).countP uses ≤ 1
  spent : ∀ i, ∀ event ∈ c.past i, uses event = true → ∀ id ∈ foundIDs (c.past i), ConsumedBy (c.past i) id
  marked : ∀ i id, ConsumedBy (c.past i) id → ∀ row ∈ c.shared.challenges.table, row.id = id → row.consumed = 1
  sole : ∀ i j id, i ≠ j → id ∈ foundIDs (c.past i) → id ∈ foundIDs (c.past j) → Failed c i ∨ Failed c j

/-- What uses a challenge finds none. -/
theorem found?_of_uses (huses : uses event = true) : found? event = none := by
  rcases Bool.or_eq_true_iff.mp huses with hsession | hcredential
  · obtain ⟨arg, u, rfl⟩ := issuesSession_eq_true_iff.mp hsession
    rfl
  · obtain ⟨arg, row, rfl⟩ := storesCredential_eq_true_iff.mp hcredential
    rfl

theorem ConsumedBy.cons {id : Int} (hconsumed : ConsumedBy past id) : ConsumedBy (event :: past) id :=
  hconsumed.imp fun _ hmem => List.mem_cons_of_mem _ hmem

/-- A call after which somebody has used a challenge: the use itself, or one that finds no challenge. -/
theorem spent_cons (htext : request.Call past event.op)
    (hspent : ∀ earlier ∈ past, uses earlier = true → ∀ id ∈ foundIDs past, ConsumedBy past id) :
    ∀ used ∈ event :: past, uses used = true → ∀ id ∈ foundIDs (event :: past), ConsumedBy (event :: past) id := by
  intro used hmem huses id hid
  rcases List.mem_cons.mp hmem with rfl | hearlier
  · refine ConsumedBy.cons ((ready_of_uses htext huses).consumed id ?_)
    refine (mem_foundIDs_cons.mp hid).resolve_left ?_
    rintro ⟨arg, row, heq, -⟩
    have hnone := found?_of_uses huses
    rw [found?_eq_some_iff.mpr ⟨arg, heq⟩] at hnone
    cases hnone
  · rcases mem_foundIDs_cons.mp hid with ⟨arg, row, rfl, -⟩ | hbefore
    · -- a lookup comes before every use
      have hready : Ready past := by
        cases request with
        | login req => exact htext.2
        | registration ctx req => exact htext.2
      rw [hready.unused used hearlier] at huses
      cases huses
    · exact (hspent used hearlier huses id hbefore).cons

/-- The challenges of the table are only written by their consumption. -/
theorem challenges_after_of_call {s : AuthState} (htext : request.Call past event.op)
    (hother : ∀ id u, event ≠ ⟨.consumeWebAuthnChallenge id, .ok u⟩) :
    (s.after w event).challenges = s.challenges := by
  obtain ⟨op, answer⟩ := event
  cases op with
  | createWebAuthnChallenge arg => cases request <;> exact absurd htext id
  | consumeWebAuthnChallenge id =>
      cases answer with
      | ok u => exact absurd rfl (hother id u)
      | error err => rfl
  | _ => exact challenges_after id

/-- A row that has been marked stays marked. -/
theorem marked_after {s : AuthState} {id : Int} (htext : request.Call past event.op)
    (hmarked : ∀ row ∈ s.challenges.table, row.id = id → row.consumed = 1) :
    ∀ row ∈ (s.after w event).challenges.table, row.id = id → row.consumed = 1 := by
  by_cases hconsume : ∃ other u, event = ⟨.consumeWebAuthnChallenge other, .ok u⟩
  · obtain ⟨other, u, rfl⟩ := hconsume
    intro row hrow hid
    rcases Challenges.mem_consumeWebAuthnChallenge.mp hrow with ⟨old, -, -, rfl⟩ | ⟨hold, -⟩
    · rfl
    · exact hmarked row hold hid
  · rw [challenges_after_of_call htext fun other u heq => hconsume ⟨other, u, heq⟩]
    exact hmarked

/-- A request that has failed stays as it is. -/
theorem Failed.step_call {j : ι} (hfailed : Failed c j)
    (hstep : (authBackend w).step c (.call i event) = some next) : j ≠ i ∧ Failed next j := by
  obtain ⟨rest, hcall, -, -⟩ := requests_step_call hstep
  have hne : j ≠ i := by
    rintro rfl
    have hover := hfailed.1
    rw [hcall] at hover
    cases hover
  refine ⟨hne, ?_⟩
  rw [Failed, (past_of_step_call hstep).2 j hne, threads_of_step_call hstep j hne]
  exact hfailed

/-- The other readers of a row that the calling request has found have failed. -/
theorem failed_of_found {j : ι} {id : Int} (hinv : ChallengeInv requests c)
    (hguard : ConsumedBefore w c (.call i event)) (hstep : (authBackend w).step c (.call i event) = some next)
    (hne : j ≠ i) (hself : id ∈ foundIDs (next.past i)) (hother : id ∈ foundIDs (c.past j)) : Failed c j := by
  obtain ⟨rest, hcall, hallowed, -⟩ := requests_step_call hstep
  by_cases hold : id ∈ foundIDs (c.past i)
  · rcases hinv.sole i j id (Ne.symm hne) hold hother with hfailed | hfailed
    · exact absurd rfl (hfailed.step_call hstep).1
    · exact hfailed
  · rw [(past_of_step_call hstep).1, mem_foundIDs_cons] at hself
    obtain ⟨arg, row, rfl, rfl⟩ | habsurd := hself
    · -- the row has been found just now, so nobody has consumed it yet
      have hfound : Challenges.IsUnconsumed w.sqlLess c.shared.challenges arg row := of_decide_eq_true hallowed
      have hunconsumed : ¬ ConsumedBy (c.past j) row.id := fun hconsumed =>
        Challenges.not_isUnconsumed_of_consumed (hinv.marked j row.id hconsumed) hfound rfl
      refine ⟨(hguard.2 j hne hother).resolve_right hunconsumed, fun earlier hearlier => ?_⟩
      by_contra huses
      rw [Bool.not_eq_false] at huses
      exact hunconsumed (hinv.spent j earlier hearlier huses row.id hother)
    · exact absurd habsurd hold

/-- What one step preserves. -/
theorem challengeInv_step {label : AuthLabel ι} (hinv : ChallengeInv requests c) (hguard : ConsumedBefore w c label)
    (hstep : (authBackend w).step c label = some next) : ChallengeInv requests next := by
  cases label with
  | env now =>
      obtain ⟨-, hnext⟩ := requests_step_env hstep
      subst hnext
      exact ⟨hinv.follows.step hstep, hinv.sound, hinv.uses_le, hinv.spent, hinv.marked, hinv.sole⟩
  | call i event =>
      obtain ⟨rest, hcall, hallowed, hnext⟩ := requests_step_call hstep
      have htext : (requests i).Call (c.past i) event.op := hinv.follows.call hcall
      obtain ⟨hself, hothers⟩ := past_of_step_call hstep
      refine ⟨hinv.follows.step hstep, ?_, ?_, ?_, ?_, ?_⟩
      · refine forall_past_step hinv.sound (fun j other hlabel => ?_) hstep
        cases hlabel
        refine sound_of_call htext hallowed fun arg row hlookup => ?_
        subst hlookup
        exact hguard.1
      · intro j
        by_cases hj : j = i
        · subst hj
          rw [hself]
          cases huses : uses event with
          | false =>
              rw [List.countP_cons_of_neg (by simp [huses])]
              exact hinv.uses_le j
          | true =>
              have hnone : (c.past j).countP uses = 0 := by
                rw [List.countP_eq_zero]
                intro earlier hearlier
                simp [(ready_of_uses htext huses).unused earlier hearlier]
              rw [List.countP_cons_of_pos huses, hnone]
        · rw [hothers j hj]
          exact hinv.uses_le j
      · intro j
        by_cases hj : j = i
        · subst hj
          rw [hself]
          exact spent_cons htext (hinv.spent j)
        · rw [hothers j hj]
          exact hinv.spent j
      · intro j id hconsumed
        have hshared : next.shared = c.shared.after w event := congrArg Config.shared hnext
        rw [hshared]
        by_cases hbefore : ConsumedBy (c.past j) id
        · exact marked_after htext (hinv.marked j id hbefore)
        · -- the row is consumed by this call, which has not failed
          obtain ⟨answer, hmem⟩ := hconsumed
          have hji : j = i := by
            by_contra hne
            rw [hothers j hne] at hmem
            exact hbefore ⟨answer, hmem⟩
          subst hji
          rw [hself] at hmem
          rcases List.mem_cons.mp hmem with rfl | hold
          · cases answer with
            | error err => exact False.elim hguard
            | ok u => exact Challenges.consumed_consumeWebAuthnChallenge _ _
          · exact absurd ⟨answer, hold⟩ hbefore
      · intro j k id hjk hj hk
        by_cases hji : j = i
        · subst hji
          rw [hothers k (Ne.symm hjk)] at hk
          exact Or.inr ((failed_of_found hinv hguard hstep (Ne.symm hjk) hj hk).step_call hstep).2
        · by_cases hki : k = i
          · subst hki
            rw [hothers j hji] at hj
            exact Or.inl ((failed_of_found hinv hguard hstep hji hk hj).step_call hstep).2
          · rw [hothers j hji] at hj
            rw [hothers k hki] at hk
            exact (hinv.sole j k id hjk hj hk).imp (fun h => (h.step_call hstep).2) fun h => (h.step_call hstep).2

theorem ChallengeInv.singleUse (hinv : ChallengeInv requests c) : SingleUse c where
  once := by
    intro id
    rcases List.eq_nil_or_concat (usesOf c id) with hnone | ⟨init, entry, hentry⟩
    · simp [hnone]
    · have hmem : entry ∈ usesOf c id := by simp [hentry]
      -- every use of the row is by the request that this one is by
      have hsame : ∀ other ∈ usesOf c id, other.1 = entry.1 := by
        intro other hother
        simp only [usesOf, List.mem_filter, Bool.and_eq_true, decide_eq_true_eq] at hmem hother
        by_contra hne
        rcases hinv.sole other.1 entry.1 id hne hother.2.2 hmem.2.2 with hfailed | hfailed
        · have hunused := hfailed.2 other.2 (mem_callsOf.mpr hother.1)
          rw [hother.2.1] at hunused
          cases hunused
        · have hunused := hfailed.2 entry.2 (mem_callsOf.mpr hmem.1)
          rw [hmem.2.1] at hunused
          cases hunused
      calc (usesOf c id).length
        _ = c.log.countP fun other => uses other.2 && decide (id ∈ foundIDs (c.past other.1)) :=
            (List.countP_eq_length_filter).symm
        _ ≤ c.log.countP fun other => decide (other.1 = entry.1) && uses other.2 := by
            apply List.countP_mono_left
            intro other hother huse
            have hsender := hsame other (List.mem_filter.mpr ⟨hother, huse⟩)
            rw [Bool.and_eq_true] at huse ⊢
            exact ⟨decide_eq_true hsender, huse.1⟩
        _ = (c.past entry.1).countP uses := countP_callsOf.symm
        _ ≤ 1 := hinv.uses_le entry.1
  kind := by
    intro i arg row hlookup event hevent
    have hrow := (hinv.sound i _ hlookup).lookup arg row rfl
    have hsound := hinv.sound i event hevent
    exact ⟨fun h => hrow.1.trans (hsound.session h), fun h => hrow.1.trans (hsound.credential h)⟩
  timely := by
    intro i arg row hlookup event hevent huse
    exact ((hinv.sound i _ hlookup).lookup arg row rfl).2

/-- In every run in which no lookup comes between another lookup of the same row and its consumption, no consumption
fails and SQLite compares the instants as they are, every challenge is used once. -/
theorem singleUse_of_consumedBefore (w : AuthWorld) (svc : AuthService) (s : AuthState) (requests : ι → FinishRequest)
    (labels : List (AuthLabel ι)) (final : Requests ι Unit)
    (hguard : Guarded (authBackend w).step (ConsumedBefore w) (finishesStart svc s requests) labels)
    (hrun : exec (authBackend w).step (finishesStart svc s requests) labels = some final) : SingleUse final := by
  have hinit : ChallengeInv requests (finishesStart svc s requests) := by
    refine ⟨follows_start fun i => along_handler svc (requests i), ?_, ?_, ?_, ?_, ?_⟩
    · intro i event hevent
      cases hevent
    · intro i
      exact Nat.zero_le 1
    · intro i event hevent
      cases hevent
    · rintro i id ⟨answer, hmem⟩
      cases hmem
    · intro i j id _ hfound
      cases hfound
  have hfinal : ChallengeInv requests final :=
    exec_invariant_of_guarded (ChallengeInv requests) (fun _ _ _ => challengeInv_step) hguard hrun hinit
  exact hfinal.singleUse

/-! ## Two logins with one challenge -/

/-- Logins that present one assertion. -/
def replays (_ : Fin 2) : FinishRequest := .login ⟨str "{}", false, none, str "10.0.0.1"⟩

/-- What the assertion is parsed into. -/
def replayed : ParsedAssertion := ⟨[2], str "first", 0, []⟩

/-- What the library makes of the credential when it has verified the assertion: there is no counter. -/
def verified : Credential := dbCredToWebAuthn (passkeyRow [2] 0)

def lookUp : AuthEvent :=
  ⟨.getUnconsumedWebAuthnChallenge ⟨str "first", challengeKindLogin, 0⟩, .ok (loginChallenge 1 "first")⟩

/-- A request up to its lookup. -/
def untilLookup (i : Fin 2) : List (AuthLabel (Fin 2)) :=
  [.call i ⟨.parseCredentialRequestResponseBody (str "{}"), .ok replayed⟩, .call i ⟨.timeNow, 0⟩]

/-- From the lookup to the session. -/
def untilSession (i : Fin 2) (row : WebauthnCredential) (token : Token) : List (AuthLabel (Fin 2)) :=
  [.call i ⟨.consumeWebAuthnChallenge 1, .ok ()⟩, .call i ⟨.getWebAuthnCredential [2], .ok row⟩,
    .call i ⟨.getUser 1, .ok passkeyUser⟩, .call i ⟨.timeNow, 0⟩,
    .call i ⟨.check (str "admin") (str "10.0.0.1") 0, (false, 0)⟩,
    .call i ⟨.validateDiscoverableLogin (assertionUser passkeyUser row)
      (assertionSession defaultService (str "first") none) replayed, .ok verified⟩,
    .call i ⟨.timeNow, 0⟩, .call i ⟨.updateWebAuthnCredentialUsage (loginUsage row verified 0), .ok ()⟩,
    .call i ⟨.recordSuccess (str "admin"), ()⟩, .call i ⟨.randRead, .ok token⟩, .call i ⟨.timeNow, 0⟩,
    .call i ⟨.createSession (issueParams defaultService.cfg 1 false token none 0), .ok ()⟩]

/-- A token of equal bytes. -/
def sameBytes (b : UInt8) : Token := ⟨List.replicate 32 b, by simp⟩

/-- One login, and the other one after it, which does not find the challenge any more. -/
def loginThenReplay : List (AuthLabel (Fin 2)) :=
  untilLookup 0 ++ .call 0 lookUp :: (untilSession 0 (passkeyRow [2] 0) (sameBytes 1) ++ untilLookup 1 ++
    [.call 1 ⟨.getUnconsumedWebAuthnChallenge ⟨str "first", challengeKindLogin, 0⟩, .error .noRows⟩])

theorem exec_loginThenReplay :
    ((exec (authBackend calmWorld).step (finishesStart defaultService passkeyState replays) loginThenReplay).map
      fun c => (usesOf c 1).length) = some 1 := by
  decide +kernel

theorem singleUse_of_consumedBefore_loginThenReplay :
    ∃ final, exec (authBackend calmWorld).step (finishesStart defaultService passkeyState replays)
        loginThenReplay = some final ∧ SingleUse final := by
  obtain ⟨final, hfinal, -⟩ := Option.map_eq_some_iff.mp exec_loginThenReplay
  have hguard : Guarded (authBackend calmWorld).step (ConsumedBefore calmWorld)
      (finishesStart defaultService passkeyState replays) loginThenReplay := by
    refine ⟨trivial, fun first hfirst => ⟨trivial, fun second hsecond => ⟨⟨rfl, fun j hj hfound => ?_⟩, ?_⟩⟩⟩
    · -- the other request has not begun
      rw [(past_of_step_call hsecond).2 j hj, (past_of_step_call hfirst).2 j hj] at hfound
      cases hfound
    · intro third _
      apply guarded_of_forall
      intro label hlabel c
      simp only [untilSession, untilLookup, List.cons_append, List.nil_append, List.mem_cons,
        List.not_mem_nil, or_false] at hlabel
      rcases hlabel with rfl | rfl | rfl | rfl | rfl | rfl | rfl | rfl | rfl | rfl | rfl | rfl | rfl | rfl | rfl
      all_goals trivial
  exact ⟨final, hfinal, singleUse_of_consumedBefore _ _ _ _ _ _ hguard hfinal⟩

/-- Both requests look the challenge up before one of them consumes it. -/
def replayRun : List (AuthLabel (Fin 2)) :=
  untilLookup 0 ++ .call 0 lookUp :: (untilLookup 1 ++ .call 1 lookUp ::
    (untilSession 0 (passkeyRow [2] 0) (sameBytes 1) ++
      untilSession 1 { passkeyRow [2] 0 with lastUsedAt := some 0 } (sameBytes 2)))

theorem exec_replayRun :
    ((exec (authBackend calmWorld).step (finishesStart defaultService passkeyState replays) replayRun).map
      fun c => (usesOf c 1).length) = some 2 := by
  decide +kernel

/-- The challenge has led to two sessions. -/
theorem challenge_used_twice :
    ∃ final, exec (authBackend calmWorld).step (finishesStart defaultService passkeyState replays) replayRun =
        some final ∧ ¬ SingleUse final := by
  obtain ⟨final, hfinal, huses⟩ := Option.map_eq_some_iff.mp exec_replayRun
  refine ⟨final, hfinal, fun hsingle => ?_⟩
  have honce := hsingle.once 1
  omega

end Auth
end Dmanager
