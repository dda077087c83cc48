import Dmanager.Auth.Session
import Dmanager.Lib.TransitionSystem

/-!
# Sessions under concurrency

Any number of logins, requests, logouts, revocations and purges work on one sessions table at the same
time.  Each database statement is atomic; between two statements of one request any other party may take
steps.  A label names the party and the statement it executes next, so an interleaving is a list of
labels and `exec step` runs it.

* `Issue` is an `issueSession` that has drawn its token and read the clock but has not inserted its row.
* `Phase` is how far a call of `authenticate` has come: `getSession` reads the row, `decide` reads the
  clock and compares, and `touchSession` or `deleteSession` writes, from the row as it was read.
* `created` logs the sessions that were inserted, for the statements about them; no step reads it.

`change_of_step` says once what a step can do; the invariants of `Dmanager.Auth.SessionInvariants` are
derived from it.  `exec_of_authenticate` connects the steps of a call with the function `authenticate`.
-/

namespace Dmanager
namespace Auth
namespace SessionInterleaving

open Go Db Lib Server

/-- What the parties share besides the database: the accepted configuration, the `n`-th token that
`rand.Read` yields, and SQLite's comparison of stored times. -/
structure World where
  cfg : Config
  rand : Nat → Token
  sqlLess : Int → Int → Bool

namespace World

/-- The configuration of the service, as `cmd/serve` wires it. -/
def service (w : World) : AuthConfig := newServiceConfig w.cfg.auth

/-- The idle timeout of the interceptor, as `cmd/serve` wires it. -/
def idleTimeout (w : World) : Int := (newInterceptor w.cfg.auth.sessionIdleTimeout true).idleTimeout

end World

/-- An `issueSession` between its clock reading and its insert. -/
structure Issue where
  userID : Int
  rememberMe : Bool
  draw : Nat
  reqHeader : Header
  issuedAt : Int

/-- The row it is going to insert. -/
def Issue.params (w : World) (issue : Issue) : CreateSessionParams :=
  issueParams w.service issue.userID issue.rememberMe (w.rand issue.draw) issue.reqHeader issue.issuedAt

/-- How far a call of `authenticate` has come.  `session` is the row as the call read it, `now` the
instant at which it compared the deadlines. -/
inductive Phase where
  | idle
  | begun (sessionID : GoString)
  | read (sessionID : GoString) (session : Session)
  | expired (sessionID : GoString)
  | sliding (sessionID : GoString) (session : Session) (now : Int)
  | live (sessionID : GoString) (session : Session) (now : Int)
  | accepted (session : Session) (now : Int) (ctx : Ctx)
  | refused (err : ConnectError)
  deriving DecidableEq, Repr

/-- The database, the clock and the parties. -/
structure State where
  now : Int
  users : Users
  sessions : Sessions
  draws : Nat
  issues : Nat → Option Issue
  calls : Nat → Phase
  created : List Issue

/-- Before the first user is set up. -/
def State.init (now : Int) : State where
  now := now
  users := Users.empty
  sessions := KeyedTable.empty
  draws := 0
  issues := fun _ => none
  calls := fun _ => .idle
  created := []

/-- The atomic steps.  `fault` is whether, or with which text, the statement fails. -/
inductive Label where
  | tick (t : Int)
  | createUser (arg : Users.CreateUserParams)
  | issueBegin (k : Nat) (userID : Int) (rememberMe : Bool) (reqHeader : Header)
  | issueInsert (k : Nat) (fault : Bool)
  | start (c : Nat) (cookieHeader : GoString)
  | getSession (c : Nat) (fault : Option GoString)
  | decide (c : Nat)
  | deleteSession (c : Nat) (fault : Bool)
  | touchSession (c : Nat) (fault : Bool)
  | getUser (c : Nat) (fault : Option GoString)
  | logout (ctx : Ctx) (cookieHeader : GoString) (reqHeader : Header) (fault : Bool)
  | revokeSession (ctx : Ctx) (sessionID : GoString) (fault : Option GoString)
  | revokeAllOtherSessions (ctx : Ctx) (fault : Option GoString)
  | purge (t : Int) (fault : Bool)

/-! ## The steps of a call -/

/-- The call parses its cookie. -/
def startPhase (cookieHeader : GoString) : Phase :=
  let sessionID := parseSessionCookie cookieHeader
  if sessionID = [] then .refused (newError .unauthenticated "unauthenticated") else .begun sessionID

/-- The call reads its row. -/
def getSessionPhase (sessions : Sessions) (sessionID : GoString) : Option GoString → Phase
  | some cause => .refused (wrapError .internal "failed to query session" cause)
  | none =>
    match Sessions.getSession sessions sessionID with
    | none => .refused (newError .unauthenticated "unauthenticated")
    | some session => .read sessionID session

/-- The call reads the clock and compares the two deadlines of the row it holds. -/
def decidePhase (idleTimeout now : Int) (sessionID : GoString) (session : Session) : Phase :=
  if sessionExpired now session then .expired sessionID
  else if needsSlide idleTimeout now session then .sliding sessionID session now
  else .live sessionID session now

/-- The call looks up the owner. -/
def getUserPhase (users : Users) (sessionID : GoString) (session : Session) (now : Int) :
    Option GoString → Phase
  | some cause => .refused (wrapError .internal "failed to query user" cause)
  | none =>
    match users.getUser session.userID with
    | none => .refused (newError .unauthenticated "user not found")
    | some user => .accepted session now ⟨some user, some sessionID⟩

/-- Replace the phase of one call. -/
def State.setCall (s : State) (c : Nat) (phase : Phase) : State :=
  { s with calls := Function.update s.calls c phase }

/-- Replace one issue in flight. -/
def State.setIssue (s : State) (k : Nat) (issue : Option Issue) : State :=
  { s with issues := Function.update s.issues k issue }

/-- The insert of an issue; a refused one ends in an error and writes nothing. -/
def insertIssue (w : World) (s : State) (k : Nat) (issue : Issue) (fault : Bool) : State :=
  if fault then s.setIssue k none
  else
    match Sessions.createSession s.users s.sessions (issue.params w) s.now with
    | none => s.setIssue k none
    | some sessions =>
      { s.setIssue k none with sessions := sessions, created := s.created ++ [issue] }

/-- One atomic step, if the party can take it. -/
def step (w : World) (s : State) : Label → Option State
  | .tick t => if s.now ≤ t then some { s with now := t } else none
  | .createUser arg =>
    match s.users.createUser arg with
    | none => none
    | some (users, _) => some { s with users := users }
  | .issueBegin k userID rememberMe reqHeader =>
    match s.issues k with
    | some _ => none
    | none =>
      some { s.setIssue k (some ⟨userID, rememberMe, s.draws, reqHeader, s.now⟩) with
        draws := s.draws + 1 }
  | .issueInsert k fault =>
    match s.issues k with
    | none => none
    | some issue => some (insertIssue w s k issue fault)
  | .start c cookieHeader =>
    match s.calls c with
    | .idle => some (s.setCall c (startPhase cookieHeader))
    | _ => none
  | .getSession c fault =>
    match s.calls c with
    | .begun sessionID => some (s.setCall c (getSessionPhase s.sessions sessionID fault))
    | _ => none
  | .decide c =>
    match s.calls c with
    | .read sessionID session => some (s.setCall c (decidePhase w.idleTimeout s.now sessionID session))
    | _ => none
  | .deleteSession c fault =>
    match s.calls c with
    | .expired sessionID =>
      some { s.setCall c (.refused (newError .unauthenticated "session expired")) with
        sessions := if fault then s.sessions else Sessions.deleteSession s.sessions sessionID }
    | _ => none
  | .touchSession c fault =>
    match s.calls c with
    | .sliding sessionID session now =>
      some { s.setCall c (.live sessionID session now) with
        sessions :=
          if fault then s.sessions
          else Sessions.touchSession s.sessions (touchParams w.idleTimeout now session) }
    | _ => none
  | .getUser c fault =>
    match s.calls c with
    | .live sessionID session now =>
      some (s.setCall c (getUserPhase s.users sessionID session now fault))
    | _ => none
  | .logout ctx cookieHeader reqHeader fault =>
    some { s with sessions := (logout w.service fault s.sessions ctx cookieHeader reqHeader).1 }
  | .revokeSession ctx sessionID fault =>
    some { s with sessions := (revokeSession fault s.sessions ctx sessionID).1 }
  | .revokeAllOtherSessions ctx fault =>
    some { s with sessions := (revokeAllOtherSessions fault s.sessions ctx).1 }
  | .purge t fault =>
    -- the purge reads the clock before its statement runs
    if t ≤ s.now then some { s with sessions := sessionPurgeFunc w.sqlLess fault s.sessions t } else none

/-! ## What a step can do -/

/-- The steps of one call: its phase before, the sessions table and its phase after. -/
inductive PhaseStep (w : World) (s : State) : Phase → Sessions → Phase → Prop
  | start (cookieHeader : GoString) : PhaseStep w s .idle s.sessions (startPhase cookieHeader)
  | getSession (sessionID : GoString) (fault : Option GoString) :
      PhaseStep w s (.begun sessionID) s.sessions (getSessionPhase s.sessions sessionID fault)
  | decide (sessionID : GoString) (session : Session) :
      PhaseStep w s (.read sessionID session) s.sessions
        (decidePhase w.idleTimeout s.now sessionID session)
  | deleteSession (sessionID : GoString) (sessions : Sessions) (err : ConnectError)
      (hsub : ∀ row ∈ sessions, row ∈ s.sessions) :
      PhaseStep w s (.expired sessionID) sessions (.refused err)
  | touchSession (sessionID : GoString) (session : Session) (now : Int) :
      PhaseStep w s (.sliding sessionID session now)
        (Sessions.touchSession s.sessions (touchParams w.idleTimeout now session))
        (.live sessionID session now)
  | touchFails (sessionID : GoString) (session : Session) (now : Int) :
      PhaseStep w s (.sliding sessionID session now) s.sessions (.live sessionID session now)
  | getUser (sessionID : GoString) (session : Session) (now : Int) (fault : Option GoString) :
      PhaseStep w s (.live sessionID session now) s.sessions
        (getUserPhase s.users sessionID session now fault)

/-- The state after a step. -/
inductive Change (w : World) (s : State) : State → Prop
  | tick (t : Int) : Change w s { s with now := t }
  | users (users : Users) : Change w s { s with users := users }
  | begun (k : Nat) (issue : Issue) (hdraw : issue.draw = s.draws) :
      Change w s { s.setIssue k (some issue) with draws := s.draws + 1 }
  | dropped (k : Nat) : Change w s (s.setIssue k none)
  | inserted (k : Nat) (issue : Issue) (sessions : Sessions) (hissue : s.issues k = some issue)
      (hinsert : s.sessions.insert? ((issue.params w).row s.now) = some sessions) :
      Change w s { s.setIssue k none with sessions := sessions, created := s.created ++ [issue] }
  | shrunk (sessions : Sessions) (hsub : ∀ row ∈ sessions, row ∈ s.sessions) :
      Change w s { s with sessions := sessions }
  | call (c : Nat) (sessions : Sessions) (phase : Phase)
      (hphase : PhaseStep w s (s.calls c) sessions phase) :
      Change w s { s.setCall c phase with sessions := sessions }

theorem change_of_insertIssue {w : World} {s : State} {k : Nat} {issue : Issue} {fault : Bool}
    (hissue : s.issues k = some issue) : Change w s (insertIssue w s k issue fault) := by
  unfold insertIssue
  split
  · exact .dropped k
  · split
    · exact .dropped k
    · rename_i sessions hcreate
      exact .inserted k issue sessions hissue (Sessions.createSession_eq_some hcreate).2

/-- Every step of a party is one of these changes. -/
theorem change_of_step {w : World} {s next : State} {label : Label}
    (hstep : step w s label = some next) : Change w s next := by
  cases label with
  | tick t =>
      simp only [step] at hstep
      split at hstep
      · cases hstep
        exact .tick t
      · cases hstep
  | createUser arg =>
      simp only [step] at hstep
      split at hstep
      · cases hstep
      · cases hstep
        exact .users _
  | issueBegin k userID rememberMe reqHeader =>
      simp only [step] at hstep
      split at hstep
      · cases hstep
      · cases hstep
        exact .begun k _ rfl
  | issueInsert k fault =>
      simp only [step] at hstep
      split at hstep
      · cases hstep
      · rename_i issue hissue
        cases hstep
        exact change_of_insertIssue hissue
  -- from here on the steps of one call of `authenticate`
  | start c cookieHeader =>
      simp only [step] at hstep
      split at hstep
      · rename_i hphase
        cases hstep
        exact .call c _ _ (hphase ▸ .start cookieHeader)
      · cases hstep
  | getSession c fault =>
      simp only [step] at hstep
      split at hstep
      · rename_i sessionID hphase
        cases hstep
        exact .call c _ _ (hphase ▸ .getSession sessionID fault)
      · cases hstep
  | decide c =>
      simp only [step] at hstep
      split at hstep
      · rename_i sessionID session hphase
        cases hstep
        exact .call c _ _ (hphase ▸ .decide sessionID session)
      · cases hstep
  | deleteSession c fault =>
      simp only [step] at hstep
      split at hstep
      · rename_i sessionID hphase
        cases hstep
        refine .call c _ _ (hphase ▸ .deleteSession sessionID _ _ ?_)
        intro row hrow
        split at hrow
        · exact hrow
        · exact (KeyedTable.mem_deleteWhere.mp hrow).1
      · cases hstep
  | touchSession c fault =>
      simp only [step] at hstep
      split at hstep
      · rename_i sessionID session now hphase
        cases hstep
        cases fault with
        | true => exact .call c _ _ (hphase ▸ .touchFails sessionID session now)
        | false => exact .call c _ _ (hphase ▸ .touchSession sessionID session now)
      · cases hstep
  | getUser c fault =>
      simp only [step] at hstep
      split at hstep
      · rename_i sessionID session now hphase
        cases hstep
        exact .call c _ _ (hphase ▸ .getUser sessionID session now fault)
      · cases hstep
  -- the deletions take no part in a call and only remove rows
  | logout ctx cookieHeader reqHeader fault =>
      cases hstep
      exact .shrunk _ fun row => mem_of_mem_logout
  | revokeSession ctx sessionID fault =>
      cases hstep
      exact .shrunk _ fun row => mem_of_mem_revokeSession
  | revokeAllOtherSessions ctx fault =>
      cases hstep
      exact .shrunk _ fun row => mem_of_mem_revokeAllOtherSessions
  | purge t fault =>
      simp only [step] at hstep
      split at hstep
      · cases hstep
        exact .shrunk _ fun row => mem_of_mem_sessionPurgeFunc
      · cases hstep

/-! ## A call that is not interrupted -/

/-- The phase a call ends in when `authenticate` returns this result. -/
def Ends (now : Int) (result : Except ConnectError Ctx) (phase : Phase) : Prop :=
  match result with
  | .ok ctx => ∃ session, phase = .accepted session now ctx
  | .error err => phase = .refused err

theorem ends_getUserPhase (users : Users) (sessionID : GoString) (session : Session) (now : Int)
    (fault : Option GoString) :
    Ends now
      (match fault with
      | some cause => .error (wrapError .internal "failed to query user" cause)
      | none =>
        match users.getUser session.userID with
        | none => .error (newError .unauthenticated "user not found")
        | some user => .ok { Ctx.background with user := some user, sessionID := some sessionID })
      (getUserPhase users sessionID session now fault) := by
  cases fault with
  | some cause => rfl
  | none =>
      simp only [getUserPhase]
      cases users.getUser session.userID with
      | none => rfl
      | some user => exact ⟨session, rfl⟩

/-- A call that takes its steps without interruption does what `authenticate` does. -/
theorem exec_of_authenticate (w : World) (s : State) (c : Nat) (faults : Faults) (cookieHeader : GoString)
    (hidle : s.calls c = .idle) :
    ∃ labels phase,
      exec (step w) s labels =
        some { s.setCall c phase with
          sessions := (authenticate ⟨w.idleTimeout, true⟩ faults ⟨s.users, s.sessions⟩ s.now Ctx.background
            cookieHeader).1.sessions } ∧
      Ends s.now (authenticate ⟨w.idleTimeout, true⟩ faults ⟨s.users, s.sessions⟩ s.now Ctx.background
        cookieHeader).2 phase := by
  simp only [authenticate]
  split
  · rename_i hempty
    refine ⟨[.start c cookieHeader], _, ?_, rfl⟩
    simp [exec, step, hidle, startPhase, hempty, State.setCall]
  · rename_i hsid
    have hstart : startPhase cookieHeader = .begun (parseSessionCookie cookieHeader) := by
      simp [startPhase, hsid]
    split
    · rename_i cause hfault
      refine ⟨[.start c cookieHeader, .getSession c faults.getSession], _, ?_, rfl⟩
      simp [exec, step, hidle, hstart, State.setCall, getSessionPhase, hfault]
    · split
      · rename_i hrow
        refine ⟨[.start c cookieHeader, .getSession c none], _, ?_, rfl⟩
        simp [exec, step, hidle, hstart, State.setCall, getSessionPhase, hrow]
      · rename_i session hrow
        split
        · rename_i hexpired
          refine ⟨[.start c cookieHeader, .getSession c none, .decide c,
            .deleteSession c faults.deleteSession], _, ?_, rfl⟩
          simp [exec, step, hidle, hstart, State.setCall, getSessionPhase, hrow, decidePhase, hexpired]
        · rename_i hlive
          -- the touch is skipped when the deadline is far enough, `GetUser` is executed in any case
          have hends : Ends s.now _ (getUserPhase s.users (parseSessionCookie cookieHeader) session s.now
              faults.getUser) := ends_getUserPhase s.users _ session s.now faults.getUser
          by_cases hslide : needsSlide w.idleTimeout s.now session = true
          · refine ⟨[.start c cookieHeader, .getSession c none, .decide c,
              .touchSession c faults.touchSession, .getUser c faults.getUser], _, ?_, hends⟩
            cases htouch : faults.touchSession <;>
              simp [exec, step, hidle, hstart, State.setCall, getSessionPhase, hrow, decidePhase, hlive,
                hslide]
          · refine ⟨[.start c cookieHeader, .getSession c none, .decide c, .getUser c faults.getUser], _,
              ?_, hends⟩
            simp [exec, step, hidle, hstart, State.setCall, getSessionPhase, hrow, decidePhase, hlive,
              hslide]
end SessionInterleaving
end Auth
end Dmanager
