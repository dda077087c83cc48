import Dmanager.Auth.Interceptor
import Dmanager.Auth.SlidingSession
import Dmanager.Lib.TransitionSystem

/-!
# The browser's cookie and the session row

A browser keeps the session cookie until `Max-Age` seconds after the response that set it.  The server
keeps the session row until its deadlines, and `authenticate` moves the idle deadline forward.  The cookie
is sent by the login and logout handlers only: `WrapUnary` slides the row without sending it again.

A run is a list of requests of one browser, each through `WrapUnary` with the cookie the browser holds
(`serve`, `step`).  `CookieAlive` says that the cookie outlives the row, allowing a second for the whole
seconds of `Max-Age`.  `cookieAlive_iff` says exactly in which runs it holds: those in which no request
slides the row past the end of the cookie (`SlidesWithin`).  With the default configuration the first
slide of a session already does (`cookie_lost_defaults`).

Requests that log in, log out or revoke sessions run their handlers; every other request (`call`) stands
for any procedure whose handler leaves the sessions table alone.
-/

namespace Dmanager
namespace Auth
namespace BrowserCookie

open Go Db Lib Server
open SlidingSession (aliceStore sampleToken)

/-- The accepted configuration, and the conversion of the idle timeout to seconds. -/
structure World where
  cfg : Config
  conversion : SecondsConversion

/-- The service and the interceptor, as `cmd/serve` wires them. -/
def World.service (w : World) : AuthConfig := newServiceConfig w.cfg.auth

def World.interceptor (w : World) : Interceptor := newInterceptor w.cfg.auth.sessionIdleTimeout true

/-- The session cookie in the browser: its value, when it was set, and its `Max-Age`. -/
structure Jar where
  sessionID : GoString
  setAt : Int
  maxAge : Int
  deriving DecidableEq, Repr

/-- The cookie has not expired up to this instant, a second of truncation allowed. -/
def Jar.keptUntil (jar : Jar) : Int := jar.setAt + jar.maxAge * second + second

/-- The database, the browser and the time of the last request. -/
structure State where
  store : Store
  jar : Option Jar
  now : Int

/-- The requests of the browser, with the time they arrive at. -/
inductive Label where
  | login (t : Int) (userID : Int) (rememberMe : Bool) (token : Token) (reqHeader : Header)
  | logout (t : Int) (reqHeader : Header)
  | revokeSession (t : Int) (sessionID : GoString)
  | revokeAllOtherSessions (t : Int)
  | call (t : Int) (procedure : GoString)

def Label.time : Label → Int
  | .login t _ _ _ _ => t
  | .logout t _ => t
  | .revokeSession t _ => t
  | .revokeAllOtherSessions t => t
  | .call t _ => t

def Label.procedure : Label → GoString
  | .login _ _ _ _ _ => authProcedure "Login"
  | .logout _ _ => authProcedure "Logout"
  | .revokeSession _ _ => authProcedure "RevokeSession"
  | .revokeAllOtherSessions _ => authProcedure "RevokeAllOtherSessions"
  | .call _ procedure => procedure

/-- The `Cookie` header the browser sends. -/
def State.cookieHeader (s : State) : GoString :=
  match s.jar with
  | some jar => cookieHeaderOf jar.sessionID
  | none => []

/-- The handler of a request.  A login is one whose credentials have been verified. -/
def Label.handler (w : World) (cookieHeader : GoString) (label : Label) (store : Store) (ctx : Ctx) :
    HandlerRun AnyResponse :=
  match label with
  | .login t userID rememberMe token reqHeader =>
    match issueSession w.conversion w.service store userID rememberMe token reqHeader t with
    | none => ⟨store, .error (newError .internal "failed to save session"), none, []⟩
    | some (store', cookie) => ⟨store', .ok .other, some cookie, []⟩
  | .logout _ reqHeader =>
    let result := Auth.logout w.service false store.sessions ctx cookieHeader reqHeader
    ⟨{ store with sessions := result.1 }, .ok .other, some result.2, []⟩
  | .revokeSession _ sessionID =>
    let result := Auth.revokeSession none store.sessions ctx sessionID
    ⟨{ store with sessions := result.1 }, result.2.map fun _ => .other, none, []⟩
  | .revokeAllOtherSessions _ =>
    let result := Auth.revokeAllOtherSessions none store.sessions ctx
    ⟨{ store with sessions := result.1 }, result.2.map fun _ => .other, none, []⟩
  | .call _ _ => ⟨store, .ok .other, none, []⟩

/-- The wrapped request. -/
def serve (w : World) (s : State) (label : Label) : Served AnyResponse :=
  wrapUnary w.interceptor Faults.none (label.handler w s.cookieHeader) s.store label.time Ctx.background
    label.procedure s.cookieHeader .other

/-- The browser's cookie after a response. -/
def jarAfter (jar : Option Jar) (t : Int) : Option SetCookie → Option Jar
  | some cookie => some ⟨cookie.sessionID, t, cookie.maxAge⟩
  | none => jar

/-- One request, not before the last one. -/
def step (w : World) (s : State) (label : Label) : Option State :=
  if s.now ≤ label.time then
    some
      { store := (serve w s label).store
        jar := jarAfter s.jar label.time (serve w s label).setCookie
        now := label.time }
  else none

/-- `authenticate` accepts the session of the cookie at instant `t`. -/
def Accepts (w : World) (s : State) (jar : Jar) (t : Int) : Prop :=
  ∃ ctx, (authenticate w.interceptor Faults.none s.store t Ctx.background
    (cookieHeaderOf jar.sessionID)).2 = .ok ctx

/-- Whenever from now on the server accepts the session, the browser still has its cookie. -/
def CookieAlive (w : World) (s : State) : Prop :=
  ∀ jar t, s.jar = some jar → s.now ≤ t → Accepts w s jar t → t ≤ jar.keptUntil

/-- The request ends the session or replaces the cookie: a logout, a revocation of the browser's own
session, a login for an existing user whose token is not taken. -/
def EndsCookie (s : State) (jar : Jar) : Label → Prop
  | .login _ userID _ token _ =>
    (∃ user, s.store.users.getUser userID = some user) ∧
      Sessions.getSession s.store.sessions (hexEncode token) = none
  | .logout _ _ => True
  | .revokeSession _ sessionID => sessionID = jar.sessionID
  | .revokeAllOtherSessions _ => False
  | .call _ _ => False

/-- The request slides the row of the cookie, and neither ends the session nor replaces the cookie. -/
structure Slides (w : World) (s : State) (jar : Jar) (row : Session) (label : Label) : Prop where
  jar_eq : s.jar = some jar
  sessionID_ne : jar.sessionID ≠ []
  row_eq : Sessions.getSession s.store.sessions jar.sessionID = some row
  registered : getProcedureRole label.procedure ≠ none
  not_ends : ¬ EndsCookie s jar label
  le_absolute : label.time ≤ row.absoluteExpiresAt
  le_idle : label.time ≤ row.expiresAt
  halfway : row.expiresAt - w.cfg.auth.sessionIdleTimeout / 2 < label.time

/-- If the request slides the row of the cookie, it slides it no further than the cookie lasts. -/
def SlidesWithin (w : World) (s : State) (label : Label) : Prop :=
  ∀ jar row, s.now ≤ label.time → Slides w s jar row label →
    min (label.time + w.cfg.auth.sessionIdleTimeout) row.absoluteExpiresAt ≤ jar.keptUntil

/-- The cookie, if it has a value, is that of an issued session, and the owner of its row exists. -/
def Issued (s : State) : Prop :=
  ∀ jar, s.jar = some jar → jar.sessionID ≠ [] →
    (∃ token : Token, jar.sessionID = hexEncode token) ∧
    ∀ row, Sessions.getSession s.store.sessions jar.sessionID = some row →
      ∃ user, s.store.users.getUser row.userID = some user

variable {w : World} {s next : State} {jar : Jar} {label : Label} {row : Session} {t : Int}

/-! ## What `authenticate` does to the row of the cookie -/

theorem interceptor_idleTimeout (hvalid : w.cfg.auth.Valid) :
    w.interceptor.idleTimeout = w.cfg.auth.sessionIdleTimeout := by
  have hpos := hvalid.idle_pos
  simp [World.interceptor, newInterceptor, hpos]

/-- The browser's cookie is read back from its header. -/
theorem parse_cookieHeader (hissued : Issued s) (hjar : s.jar = some jar) :
    parseSessionCookie s.cookieHeader = jar.sessionID := by
  have hheader : s.cookieHeader = cookieHeaderOf jar.sessionID := by simp [State.cookieHeader, hjar]
  rw [hheader]
  by_cases hne : jar.sessionID = []
  · rw [hne]
    decide
  · obtain ⟨⟨token, htoken⟩, -⟩ := hissued jar hjar hne
    rw [htoken]
    exact parseSessionCookie_hexEncode token

/-- A session is accepted exactly while its row, both deadlines and its owner last. -/
theorem accepts_iff (hissued : Issued s) (hjar : s.jar = some jar) :
    Accepts w s jar t ↔ jar.sessionID ≠ [] ∧
      ∃ row, Sessions.getSession s.store.sessions jar.sessionID = some row ∧
        t ≤ row.absoluteExpiresAt ∧ t ≤ row.expiresAt := by
  have hparse : parseSessionCookie (cookieHeaderOf jar.sessionID) = jar.sessionID := by
    have hheader : s.cookieHeader = cookieHeaderOf jar.sessionID := by simp [State.cookieHeader, hjar]
    rw [← hheader]
    exact parse_cookieHeader hissued hjar
  constructor
  · rintro ⟨ctx, hok⟩
    have hne : jar.sessionID ≠ [] := by
      intro hempty
      rw [authenticate_of_no_cookie (hparse.trans hempty)] at hok
      cases hok
    obtain ⟨row, user, hrow, -, hlive, -⟩ := authenticate_eq_ok hok
    rw [hparse] at hrow
    exact ⟨hne, row, hrow, (sessionExpired_eq_false_iff t row).mp hlive⟩
  · rintro ⟨hne, row, hrow, hlive⟩
    -- the owner of an issued row exists, so the deadlines are all that can refuse the call
    obtain ⟨user, huser⟩ := (hissued jar hjar hne).2 row hrow
    have hexpired : sessionExpired t row = false := (sessionExpired_eq_false_iff t row).mpr hlive
    unfold Accepts
    rw [authenticate_of_live Ctx.background hparse hne hrow hexpired huser]
    exact ⟨_, rfl⟩

/-! ## One request -/

/-- The decision of the interceptor on a request. -/
def decision (w : World) (s : State) (label : Label) : Store × Except ConnectError Ctx :=
  decideAccess w.interceptor Faults.none s.store label.time Ctx.background label.procedure s.cookieHeader

/-- What a request does. -/
theorem step_eq_some (hstep : step w s label = some next) :
    s.now ≤ label.time ∧ next.store = (serve w s label).store ∧
      next.jar = jarAfter s.jar label.time (serve w s label).setCookie ∧ next.now = label.time := by
  unfold step at hstep
  split at hstep
  · rename_i htime
    cases hstep
    exact ⟨htime, rfl, rfl, rfl⟩
  · cases hstep

theorem step_time (hstep : step w s label = some next) : s.now ≤ label.time ∧ next.now = label.time := by
  obtain ⟨htime, -, -, hnow⟩ := step_eq_some hstep
  exact ⟨htime, hnow⟩

/-- An admitted request does what its handler does. -/
theorem step_of_admitted {store : Store} {ctx : Ctx} (hdecision : decision w s label = (store, .ok ctx))
    (hstep : step w s label = some next) :
    next.store = (label.handler w s.cookieHeader store ctx).store ∧
      next.jar = jarAfter s.jar label.time (label.handler w s.cookieHeader store ctx).setCookie := by
  have hserve : serve w s label = _ := wrapUnary_eq _
  rw [show decideAccess _ _ _ _ _ _ _ = _ from hdecision] at hserve
  obtain ⟨-, hstore, hjar, -⟩ := step_eq_some hstep
  rw [hserve] at hstore hjar
  exact ⟨hstore, hjar⟩

/-- A request that is not admitted leaves the store that `authenticate` left, and the cookie. -/
theorem step_of_not_admitted {store : Store} {err : ConnectError}
    (hdecision : decision w s label = (store, .error err)) (hstep : step w s label = some next) :
    next.store = store ∧ next.jar = s.jar := by
  have hserve : serve w s label = _ := wrapUnary_eq _
  rw [show decideAccess _ _ _ _ _ _ _ = _ from hdecision] at hserve
  obtain ⟨-, hstore, hjar, -⟩ := step_eq_some hstep
  rw [hserve] at hstore hjar
  exact ⟨hstore, hjar⟩

/-- The browser holds no session, or one whose row runs out before its cookie does. -/
def Fresh (s : State) : Prop :=
  ∀ jar, s.jar = some jar → jar.sessionID ≠ [] →
    ∃ (token : Token) (row : Session) (user : User), jar.sessionID = hexEncode token ∧
      Sessions.getSession s.store.sessions jar.sessionID = some row ∧
      s.store.users.getUser row.userID = some user ∧ row.expiresAt ≤ jar.keptUntil

theorem Fresh.issued (hfresh : Fresh s) : Issued s := by
  intro jar hjar hne
  obtain ⟨token, row, user, htoken, hrow, huser, -⟩ := hfresh jar hjar hne
  refine ⟨⟨token, htoken⟩, fun row' hrow' => ⟨user, ?_⟩⟩
  rw [hrow] at hrow'
  cases hrow'
  exact huser

theorem Fresh.cookieAlive (hfresh : Fresh s) : CookieAlive w s := by
  intro jar t hjar _ haccepts
  obtain ⟨hne, row, hrow, -, hidle⟩ := (accepts_iff hfresh.issued hjar).mp haccepts
  obtain ⟨token, row', user, -, hrow', -, hkept⟩ := hfresh jar hjar hne
  rw [hrow] at hrow'
  cases hrow'
  exact hidle.trans hkept

/-- No handler writes to the users table. -/
theorem handler_users (cookieHeader : GoString) (store : Store) (ctx : Ctx) :
    (label.handler w cookieHeader store ctx).store.users = store.users := by
  cases label with
  | login t userID rememberMe token reqHeader =>
      simp only [Label.handler]
      split
      · rfl
      · rename_i hissue
        exact (issueSession_eq_some hissue).1
  | logout t reqHeader => rfl
  | revokeSession t sessionID => rfl
  | revokeAllOtherSessions t => rfl
  | call t procedure => rfl

theorem step_users (hstep : step w s label = some next) : next.store.users = s.store.users := by
  have hadmit : (decision w s label).1.users = s.store.users := by
    unfold decision
    by_cases hrole : getProcedureRole label.procedure = none
    · rw [decideAccess_of_unregistered hrole]
    · rw [decideAccess_store hrole]
      exact authenticate_users
  rcases hdecision : decision w s label with ⟨store, err | ctx⟩
  · rw [hdecision] at hadmit
    rw [(step_of_not_admitted hdecision hstep).1]
    exact hadmit
  · rw [hdecision] at hadmit
    rw [(step_of_admitted hdecision hstep).1, handler_users]
    exact hadmit

theorem role_login (t userID : Int) (rememberMe : Bool) (token : Token) (reqHeader : Header) :
    getProcedureRole (Label.login t userID rememberMe token reqHeader).procedure =
      some .unauthenticated := by
  show getProcedureRole (authProcedure "Login") = _
  decide +kernel

/-- The other procedures of the session are for every user. -/
theorem role_session : ∀ name ∈ ["Logout", "RevokeSession", "RevokeAllOtherSessions"],
    getProcedureRole (authProcedure name) = some .viewer := by
  decide +kernel

/-- A login that is not refused leaves a fresh session in the browser. -/
theorem fresh_of_login (hvalid : w.cfg.auth.Valid) {userID : Int} {rememberMe : Bool} {token : Token}
    {reqHeader : Header} {store store' : Store} {cookie : SetCookie}
    (hissue : issueSession w.conversion w.service store userID rememberMe token reqHeader t =
      some (store', cookie))
    (hstore : next.store = store') (hjar : next.jar = some ⟨cookie.sessionID, t, cookie.maxAge⟩) :
    Fresh next := by
  obtain ⟨husers, ⟨user, huser⟩, hrow, rfl⟩ := issueSession_eq_some hissue
  intro jar hjar' _
  rw [hjar] at hjar'
  cases hjar'
  refine ⟨token, _, user, rfl, hstore ▸ hrow, ?_, ?_⟩
  · rw [hstore, husers]
    exact huser
  · have hpos : 0 ≤ tierIdle w.service rememberMe := by
      rw [World.service, tierIdle_newServiceConfig hvalid]
      exact (tierIdle_pos hvalid rememberMe).le
    have hseconds := w.conversion.lt_seconds_add_one hpos
    show t + tierIdle w.service rememberMe ≤
      t + w.conversion.seconds (tierIdle w.service rememberMe) * second + second
    omega

/-- A login for an existing user with a free session id leaves a fresh session; any other one changes no
more than `authenticate` does. -/
theorem step_login (hvalid : w.cfg.auth.Valid) {userID : Int} {rememberMe : Bool} {token : Token}
    {reqHeader : Header}
    (hstep : step w s (.login t userID rememberMe token reqHeader) = some next) :
    let store :=
      (authenticate w.interceptor Faults.none s.store t Ctx.background s.cookieHeader).1
    if store.users.getUser userID = none ∨ Sessions.getSession store.sessions (hexEncode token) ≠ none then
      next.jar = s.jar ∧ next.store = store
    else Fresh next := by
  intro store
  obtain ⟨hstore, hjar⟩ :=
    step_of_admitted (decideAccess_of_unauthenticated (role_login t userID rememberMe token reqHeader)) hstep
  simp only [Label.handler, Label.time] at hstore hjar
  split
  · rename_i hrefused
    rw [← issueSession_eq_none_iff] at hrefused
    rw [hrefused] at hstore hjar
    exact ⟨hjar, hstore⟩
  · rename_i hfree
    rw [← issueSession_eq_none_iff] at hfree
    obtain ⟨result, hissue⟩ := Option.ne_none_iff_exists'.mp hfree
    rw [hissue] at hstore hjar
    exact fresh_of_login hvalid hissue hstore hjar

/-- Any other request changes no more of the sessions table than `authenticate` does. -/
theorem step_call {procedure : GoString} (hstep : step w s (.call t procedure) = some next) :
    next.jar = s.jar ∧ next.store =
      if getProcedureRole procedure = none then s.store
      else (authenticate w.interceptor Faults.none s.store t Ctx.background s.cookieHeader).1 := by
  have hsame : next.jar = s.jar ∧ next.store = (decision w s (.call t procedure)).1 := by
    rcases hdecision : decision w s (.call t procedure) with ⟨store, err | ctx⟩
    · exact (step_of_not_admitted hdecision hstep).symm
    · exact (step_of_admitted hdecision hstep).symm
  refine ⟨hsame.1, hsame.2.trans ?_⟩
  split
  · rename_i hrole
    exact congrArg Prod.fst (decideAccess_of_unregistered hrole)
  · rename_i hrole
    exact decideAccess_store hrole

/-- A request that `authenticate` refuses changes no more than `authenticate` does, unless it logs in. -/
theorem step_of_refused (hvalid : w.cfg.auth.Valid) {store : Store} {err : ConnectError}
    (hauth : authenticate w.interceptor Faults.none s.store label.time Ctx.background s.cookieHeader =
      (store, .error err))
    (hstep : step w s label = some next) :
    Fresh next ∨ next.jar = s.jar ∧ (next.store = s.store ∨ next.store = store) := by
  have hviewer (hrole : getProcedureRole label.procedure = some .viewer) :
      Fresh next ∨ next.jar = s.jar ∧ (next.store = s.store ∨ next.store = store) := by
    obtain ⟨hstore, hjar⟩ := step_of_not_admitted ((decideAccess_of_viewer hrole).trans hauth) hstep
    exact Or.inr ⟨hjar, Or.inr hstore⟩
  cases label with
  | login t userID rememberMe token reqHeader =>
      have hcases := step_login hvalid hstep
      dsimp only at hcases
      split at hcases
      · refine Or.inr ⟨hcases.1, Or.inr ?_⟩
        rw [hcases.2]
        exact congrArg Prod.fst hauth
      · exact Or.inl hcases
  | logout t reqHeader => exact hviewer (role_session "Logout" (by simp))
  | revokeSession t sessionID => exact hviewer (role_session "RevokeSession" (by simp))
  | revokeAllOtherSessions t => exact hviewer (role_session "RevokeAllOtherSessions" (by simp))
  | call t procedure =>
      obtain ⟨hjar, hstore⟩ := step_call hstep
      refine Or.inr ⟨hjar, ?_⟩
      rw [hstore]
      split
      · exact Or.inl rfl
      · exact Or.inr (congrArg Prod.fst hauth)

/-- Deleting the row of one session by id and owner. -/
theorem getSession_revokeSession {sessions : Sessions} {ctx : Ctx} {user : User} {other : GoString}
    (huser : ctx.user = some user) (hne : other ≠ []) (sessionID : GoString) :
    Sessions.getSession (revokeSession none sessions ctx other).1 sessionID =
      (Sessions.getSession sessions sessionID).filter
        fun row => !decide (row.sessionID = other ∧ row.userID = user.id) := by
  have hsame : (revokeSession none sessions ctx other).1 =
      Sessions.deleteSessionByIDAndUser sessions other user.id := by
    unfold revokeSession
    rw [huser]
    simp only [hne, if_false]
    split <;> rfl
  rw [hsame]
  exact KeyedTable.get?_deleteWhere sessionID

/-- A request to a registered procedure while the row is live: unless it ends the session or replaces the
cookie, the cookie stays and the row slides. -/
theorem step_of_live (hvalid : w.cfg.auth.Valid) (hissued : Issued s) (hjar : s.jar = some jar)
    (hne : jar.sessionID ≠ []) (hrow : Sessions.getSession s.store.sessions jar.sessionID = some row)
    (hlive : sessionExpired label.time row = false) (hrole : getProcedureRole label.procedure ≠ none)
    (hstep : step w s label = some next) :
    (EndsCookie s jar label →
      Fresh next ∨ next.jar = s.jar ∧ Sessions.getSession next.store.sessions jar.sessionID = none) ∧
    (¬ EndsCookie s jar label →
      next.jar = s.jar ∧ Sessions.getSession next.store.sessions jar.sessionID =
        some (slidRow w.interceptor row label.time)) := by
  obtain ⟨user, huser⟩ := (hissued jar hjar hne).2 row hrow
  have hauth := authenticate_of_live (i := w.interceptor) Ctx.background
    (parse_cookieHeader hissued hjar) hne hrow hlive huser
  have hslid : Sessions.getSession (slide w.interceptor s.store.sessions row label.time) jar.sessionID =
      some (slidRow w.interceptor row label.time) := getSession_slide_self hrow
  have hdecision (hviewer : getProcedureRole label.procedure = some .viewer) :
      decision w s label = ({ s.store with
        sessions := slide w.interceptor s.store.sessions row label.time },
        .ok ⟨some user, some jar.sessionID⟩) := (decideAccess_of_viewer hviewer).trans hauth
  have hid : (slidRow w.interceptor row label.time).sessionID = jar.sessionID :=
    Sessions.sessionID_of_getSession hslid
  have howner : (slidRow w.interceptor row label.time).userID = user.id := by
    rw [(Users.getUser_eq_some huser).2]
    unfold slidRow
    split <;> rfl
  cases label with
  | login t userID rememberMe token reqHeader =>
      have hcases := step_login hvalid hstep
      dsimp only [Label.time] at hcases hauth hslid
      rw [hauth] at hcases
      -- the slide neither adds nor removes rows, so the login is refused exactly as before it
      simp only [ne_eq, getSession_slide_eq_none_iff] at hcases
      split at hcases
      · rename_i hrefused
        constructor
        · rintro ⟨⟨owner, howner⟩, hfree⟩
          rcases hrefused with hnone | htaken
          · rw [howner] at hnone
            cases hnone
          · exact absurd hfree htaken
        · intro _
          refine ⟨hcases.1, ?_⟩
          rw [hcases.2]
          exact hslid
      · rename_i hfree
        rw [not_or, not_not] at hfree
        refine ⟨fun _ => Or.inl hcases, fun hnot => absurd ?_ hnot⟩
        exact ⟨Option.ne_none_iff_exists'.mp hfree.1, hfree.2⟩
  | logout t reqHeader =>
      obtain ⟨hstore, hcookie⟩ := step_of_admitted (hdecision (role_session "Logout" (by simp))) hstep
      refine ⟨fun _ => Or.inl ?_, fun hnot => absurd trivial hnot⟩
      intro jar' hjar' hne'
      rw [hcookie] at hjar'
      cases hjar'
      exact absurd rfl hne'
  | revokeSession t other =>
      obtain ⟨hstore, hcookie⟩ := step_of_admitted (hdecision (role_session "RevokeSession" (by simp))) hstep
      constructor
      · rintro rfl
        refine Or.inr ⟨hcookie, ?_⟩
        rw [hstore]
        refine (getSession_revokeSession rfl hne jar.sessionID).trans ?_
        simp [hslid, hid, howner]
      · intro hother
        refine ⟨hcookie, ?_⟩
        rw [hstore]
        by_cases hempty : other = []
        · subst hempty
          exact hslid
        · refine (getSession_revokeSession rfl hempty jar.sessionID).trans ?_
          have hdiffers : jar.sessionID ≠ other := fun hsame => hother hsame.symm
          simp [hslid, hid, hdiffers]
  | revokeAllOtherSessions t =>
      obtain ⟨hstore, hcookie⟩ := step_of_admitted (hdecision (role_session "RevokeAllOtherSessions" (by simp))) hstep
      refine ⟨fun hends => absurd hends id, fun _ => ⟨hcookie, ?_⟩⟩
      rw [hstore]
      refine (KeyedTable.get?_deleteWhere jar.sessionID).trans ?_
      rw [show KeyedTable.get? _ _ = _ from hslid]
      simp [hid]
  | call t procedure =>
      obtain ⟨hcookie, hstore⟩ := step_call hstep
      refine ⟨fun hends => absurd hends id, fun _ => ⟨hcookie, ?_⟩⟩
      dsimp only [Label.time, Label.procedure] at hauth hrole hslid
      rw [hstore, if_neg hrole, hauth]
      exact hslid

/-- Without a live row `authenticate` refuses the request, and the row is not there afterwards. -/
theorem refused_of_not_live (hissued : Issued s)
    (hdead : ¬ ∃ jar row, s.jar = some jar ∧ jar.sessionID ≠ [] ∧
      Sessions.getSession s.store.sessions jar.sessionID = some row ∧ sessionExpired t row = false) :
    ∃ store err, authenticate w.interceptor Faults.none s.store t Ctx.background s.cookieHeader =
        (store, .error err) ∧
      ∀ jar, s.jar = some jar → jar.sessionID ≠ [] →
        Sessions.getSession store.sessions jar.sessionID = none := by
  cases hjar : s.jar with
  | none =>
      have hparse : parseSessionCookie s.cookieHeader = [] := by
        simp only [State.cookieHeader, hjar]
        decide
      refine ⟨_, _, authenticate_of_no_cookie hparse, ?_⟩
      intro jar hsome
      cases hsome
  | some jar =>
      have hparse := parse_cookieHeader hissued hjar
      by_cases hne : jar.sessionID = []
      · refine ⟨_, _, authenticate_of_no_cookie (hparse.trans hne), ?_⟩
        intro jar' hsome hne'
        cases hsome
        exact absurd hne hne'
      · cases hrow : Sessions.getSession s.store.sessions jar.sessionID with
        | none =>
            refine ⟨_, _, authenticate_of_missing Ctx.background hparse hne hrow, ?_⟩
            intro jar' hsome _
            cases hsome
            exact hrow
        | some row =>
            -- an expired row is deleted on the way out
            have hexpired : sessionExpired t row = true := by
              rw [← Bool.not_eq_false]
              exact fun hlive => hdead ⟨jar, row, hjar, hne, hrow, hlive⟩
            refine ⟨_, _, authenticate_of_expired Ctx.background hparse hne hrow hexpired, ?_⟩
            intro jar' hsome _
            cases hsome
            exact Sessions.getSession_deleteSession_self jar.sessionID

/-- The slide of a request, in the terms of `Slides`. -/
theorem slides_of_needsSlide (hvalid : w.cfg.auth.Valid) (hjar : s.jar = some jar)
    (hne : jar.sessionID ≠ []) (hrow : Sessions.getSession s.store.sessions jar.sessionID = some row)
    (hlive : sessionExpired label.time row = false) (hrole : getProcedureRole label.procedure ≠ none)
    (hends : ¬ EndsCookie s jar label) :
    slidRow w.interceptor row label.time = row ∨
      Slides w s jar row label ∧ slidRow w.interceptor row label.time =
        (touchParams w.cfg.auth.sessionIdleTimeout label.time row).apply row := by
  obtain ⟨habsolute, hidle⟩ := (sessionExpired_eq_false_iff label.time row).mp hlive
  unfold slidRow
  rw [interceptor_idleTimeout hvalid]
  split
  · rename_i hslide
    rw [needsSlide_eq_true_iff, tdiv_two_eq_ediv hvalid.idle_pos.le] at hslide
    exact Or.inr ⟨⟨hjar, hne, hrow, hrole, hends, habsolute, hidle, hslide⟩, rfl⟩
  · exact Or.inl rfl

/-- Everything a request can do to the browser and to the row of its cookie. -/
theorem step_cases (hvalid : w.cfg.auth.Valid) (hissued : Issued s) (hstep : step w s label = some next) :
    Fresh next ∨ next.jar = s.jar ∧ ∀ jar row', s.jar = some jar → jar.sessionID ≠ [] →
      Sessions.getSession next.store.sessions jar.sessionID = some row' →
      ∃ row, Sessions.getSession s.store.sessions jar.sessionID = some row ∧
        (row' = row ∨ Slides w s jar row label ∧
          row' = (touchParams w.cfg.auth.sessionIdleTimeout label.time row).apply row) := by
  by_cases hlive : ∃ jar row, s.jar = some jar ∧ jar.sessionID ≠ [] ∧
      Sessions.getSession s.store.sessions jar.sessionID = some row ∧
      sessionExpired label.time row = false
  · obtain ⟨jar, row, hjar, hne, hrow, hlive⟩ := hlive
    by_cases hrole : getProcedureRole label.procedure = none
    · obtain ⟨hstore, hkept⟩ := step_of_not_admitted (decideAccess_of_unregistered hrole) hstep
      refine Or.inr ⟨hkept, fun jar' row' _ _ hrow' => ⟨row', ?_, Or.inl rfl⟩⟩
      rw [← hstore]
      exact hrow'
    -- the row is live and the procedure known: the request ends the cookie, or at most slides the row
    · obtain ⟨hended, hslid⟩ := step_of_live hvalid hissued hjar hne hrow hlive hrole hstep
      by_cases hends : EndsCookie s jar label
      · refine (hended hends).imp_right fun hgone => ⟨hgone.1, ?_⟩
        intro jar' row' hjar' _ hrow'
        rw [hjar] at hjar'
        cases hjar'
        rw [hgone.2] at hrow'
        cases hrow'
      · obtain ⟨hkept, hnext⟩ := hslid hends
        refine Or.inr ⟨hkept, ?_⟩
        intro jar' row' hjar' _ hrow'
        rw [hjar] at hjar'
        cases hjar'
        rw [hnext] at hrow'
        cases hrow'
        exact ⟨row, hrow, slides_of_needsSlide hvalid hjar hne hrow hlive hrole hends⟩
  -- without a live row the request is refused, which leaves no row that was not there
  · obtain ⟨store, err, hauth, hgone⟩ := refused_of_not_live (w := w) hissued hlive
    refine (step_of_refused hvalid hauth hstep).imp_right fun hkept => ⟨hkept.1, ?_⟩
    intro jar row' hjar hne hrow'
    rcases hkept.2 with hsame | hleft
    · rw [hsame] at hrow'
      exact ⟨row', hrow', Or.inl rfl⟩
    · rw [hleft, hgone jar hjar hne] at hrow'
      cases hrow'

/-- Every request leaves an issued session, or none, in the browser. -/
theorem issued_step (hvalid : w.cfg.auth.Valid) (hissued : Issued s) (hstep : step w s label = some next) :
    Issued next := by
  rcases step_cases hvalid hissued hstep with hfresh | ⟨hkept, hrows⟩
  · exact hfresh.issued
  · intro jar hjar hne
    rw [hkept] at hjar
    obtain ⟨htoken, howner⟩ := hissued jar hjar hne
    refine ⟨htoken, fun row' hrow' => ?_⟩
    obtain ⟨row, hrow, hcase⟩ := hrows jar row' hjar hne hrow'
    have hsame : row'.userID = row.userID := by
      rcases hcase with rfl | ⟨-, rfl⟩
      · rfl
      · rfl
    rw [step_users hstep, hsame]
    exact howner row hrow

/-- A request that slides the row no further than the cookie lasts keeps the cookie alive. -/
theorem cookieAlive_step (hvalid : w.cfg.auth.Valid) (hissued : Issued s) (halive : CookieAlive w s)
    (hwithin : SlidesWithin w s label) (hstep : step w s label = some next) : CookieAlive w next := by
  obtain ⟨htime, hnow⟩ := step_time hstep
  rcases step_cases hvalid hissued hstep with hfresh | ⟨hkept, hrows⟩
  · exact hfresh.cookieAlive
  · intro jar t hjar ht haccepts
    obtain ⟨hne, row', hrow', habsolute, hidle⟩ :=
      (accepts_iff (issued_step hvalid hissued hstep) hjar).mp haccepts
    rw [hkept] at hjar
    obtain ⟨row, hrow, rfl | ⟨hslides, rfl⟩⟩ := hrows jar row' hjar hne hrow'
    · have hbefore : Accepts w s jar t := (accepts_iff hissued hjar).mpr ⟨hne, _, hrow, habsolute, hidle⟩
      exact halive jar t hjar (by omega) hbefore
    · have hidle' : t ≤ newIdle w.cfg.auth.sessionIdleTimeout label.time row := hidle
      rw [newIdle_eq_min] at hidle'
      exact hidle'.trans (hwithin jar row htime hslides)

/-- And one that slides it further does not: the row is accepted up to the new idle deadline. -/
theorem slidesWithin_of_cookieAlive (hvalid : w.cfg.auth.Valid) (hissued : Issued s)
    (hafter : ∀ next, step w s label = some next → CookieAlive w next) : SlidesWithin w s label := by
  intro jar row htime hslides
  obtain ⟨next, hstep⟩ : ∃ next, step w s label = some next := by
    unfold step
    rw [if_pos htime]
    exact ⟨_, rfl⟩
  have hlive : sessionExpired label.time row = false :=
    (sessionExpired_eq_false_iff label.time row).mpr ⟨hslides.le_absolute, hslides.le_idle⟩
  obtain ⟨hkept, hrow'⟩ := (step_of_live hvalid hissued hslides.jar_eq hslides.sessionID_ne
    hslides.row_eq hlive hslides.registered hstep).2 hslides.not_ends
  have hjar : next.jar = some jar := hkept.trans hslides.jar_eq
  have hslid : slidRow w.interceptor row label.time =
      (touchParams w.cfg.auth.sessionIdleTimeout label.time row).apply row := by
    unfold slidRow
    rw [interceptor_idleTimeout hvalid, if_pos]
    rw [needsSlide_eq_true_iff, tdiv_two_eq_ediv hvalid.idle_pos.le]
    exact hslides.halfway
  have hidle := hvalid.idle_pos
  have habsolute := hslides.le_absolute
  -- the server accepts the session up to this instant, so the cookie must last that long
  set deadline := min (label.time + w.cfg.auth.sessionIdleTimeout) row.absoluteExpiresAt with hdeadline
  have haccepts : Accepts w next jar deadline := by
    refine (accepts_iff (issued_step hvalid hissued hstep) hjar).mpr
      ⟨hslides.sessionID_ne, _, hrow', ?_, ?_⟩
    · rw [hslid]
      exact min_le_right _ _
    · rw [hslid]
      exact (newIdle_eq_min w.cfg.auth.sessionIdleTimeout label.time row).ge
  have hnow : next.now ≤ deadline := by
    rw [(step_time hstep).2]
    omega
  exact hafter next hstep jar deadline hjar hnow haccepts

/-! ## Runs -/

/-- For every accepted configuration and every run of requests of a browser that starts without a cookie:
in every state of the run the cookie outlives the row, exactly when no request of the run slides the row
past the end of the cookie. -/
theorem cookieAlive_iff (cfg : Config) (w : World) (haccepted : cfg.validate = .ok w.cfg) (store : Store)
    (start : Int) (labels : List Label) :
    (∀ earlier later s, labels = earlier ++ later →
      exec (step w) ⟨store, none, start⟩ earlier = some s → CookieAlive w s) ↔
      Guarded (step w) (SlidesWithin w) ⟨store, none, start⟩ labels := by
  obtain ⟨hsame, hvalidCfg⟩ := Config.validate_auth haccepted
  have hvalid : w.cfg.auth.Valid := hsame ▸ hvalidCfg
  have hfresh : Fresh ⟨store, none, start⟩ := by
    intro jar hjar
    cases hjar
  rw [forall_reached_iff_guarded, and_iff_right hfresh.cookieAlive]
  refine guarded_congr (fun s => Issued s ∧ CookieAlive w s) ?_ ?_ labels
    ⟨hfresh.issued, hfresh.cookieAlive⟩
  · rintro s label ⟨hissued, halive⟩
    exact ⟨slidesWithin_of_cookieAlive hvalid hissued,
      fun hwithin next hstep => cookieAlive_step hvalid hissued halive hwithin hstep⟩
  · rintro s label next ⟨hissued, halive⟩ hwithin hstep
    exact ⟨issued_step hvalid hissued hstep, cookieAlive_step hvalid hissued halive hwithin hstep⟩

/-- The cookie, if there is one, lasts until the absolute deadline of its row. -/
def Capped (s : State) : Prop :=
  ∀ jar ∈ s.jar, ∀ row ∈ Sessions.getSession s.store.sessions jar.sessionID, row.absoluteExpiresAt ≤ jar.keptUntil

instance (s : State) : Decidable (Capped s) := inferInstanceAs (Decidable (∀ _ ∈ s.jar, ∀ _ ∈ _, _))

/-- No request slides a row past its absolute deadline. -/
theorem Capped.slidesWithin (hcapped : Capped s) : SlidesWithin w s label := by
  intro jar row _ hslides
  exact (min_le_right _ _).trans (hcapped jar hslides.jar_eq row hslides.row_eq)

/-- The absolute timeout of a standard session is a second more than its idle timeout. -/
def cappedWorld : World where
  cfg := { Config.defaults with auth := { Config.defaults.auth with sessionAbsoluteTimeout := 168 * hour + second } }
  conversion := .truncating

/-- A standard login, a request before half of the idle timeout is used up, one after it, which slides the row by the
second that is left, and the logout. -/
def cappedRun : List Label :=
  [.login 0 1 false sampleToken none, .call (24 * hour) (authProcedure "GetMe"),
    .call (100 * hour) (authProcedure "GetMe"), .logout (160 * hour) none]

/-- The idle deadline of the row after the first requests. -/
def deadlineAfter (count : Nat) : Option Int := do
  let s ← exec (step cappedWorld) ⟨aliceStore, none, 0⟩ (cappedRun.take count)
  let jar ← s.jar
  let row ← Sessions.getSession s.store.sessions jar.sessionID
  some row.expiresAt

theorem cookieAlive_cappedRun :
    cappedWorld.cfg.validate = .ok cappedWorld.cfg ∧
      deadlineAfter 2 = some (168 * hour) ∧ deadlineAfter 3 = some (168 * hour + second) ∧
      ∀ earlier later s, cappedRun = earlier ++ later →
        exec (step cappedWorld) ⟨aliceStore, none, 0⟩ earlier = some s → CookieAlive cappedWorld s := by
  have hvalid : cappedWorld.cfg.validate = .ok cappedWorld.cfg := by decide +kernel
  have hcapped : Guarded (step cappedWorld) (fun s _ => Capped s) ⟨aliceStore, none, 0⟩ cappedRun := by
    decide +kernel
  refine ⟨hvalid, by decide +kernel, by decide +kernel, ?_⟩
  exact (cookieAlive_iff cappedWorld.cfg cappedWorld hvalid aliceStore 0 cappedRun).mpr
    (hcapped.imp fun _ _ => Capped.slidesWithin)

/-- The default configuration. -/
def defaultWorld : World := ⟨Config.defaults, .truncating⟩

/-- The server accepts the session at `t`, and the browser has dropped its cookie. -/
def lostAt (w : World) (t : Int) (s : State) : Bool :=
  match s.jar with
  | none => false
  | some jar =>
    decide (s.now ≤ t) && decide (jar.keptUntil < t) &&
      (authenticate w.interceptor Faults.none s.store t Ctx.background
        (cookieHeaderOf jar.sessionID)).2.toOption.isSome

theorem not_cookieAlive_of_lostAt (hlost : lostAt w t s = true) : ¬ CookieAlive w s := by
  intro halive
  unfold lostAt at hlost
  split at hlost
  · cases hlost
  · rename_i jar hjar
    simp only [Bool.and_eq_true, decide_eq_true_eq] at hlost
    obtain ⟨⟨hnow, hdropped⟩, haccepted⟩ := hlost
    have haccepts : Accepts w s jar t := by
      unfold Accepts
      cases hauth : (authenticate w.interceptor Faults.none s.store t Ctx.background
          (cookieHeaderOf jar.sessionID)).2 with
      | error err =>
          rw [hauth] at haccepted
          cases haccepted
      | ok ctx => exact ⟨ctx, rfl⟩
    have hkept := halive jar t hjar hnow haccepts
    omega

/-- With the default configuration the first slide already outlives the cookie: a standard login, a request
after 100 hours that slides the row to 268 hours, and after 200 hours the session is accepted while its
cookie was dropped after 168. -/
theorem cookie_lost_defaults :
    ∃ s, exec (step defaultWorld) ⟨aliceStore, none, 0⟩
        [.login 0 1 false sampleToken none, .call (100 * hour) (authProcedure "GetMe")] = some s ∧
      lostAt defaultWorld (200 * hour) s = true ∧ ¬ CookieAlive defaultWorld s := by
  have hrun : (exec (step defaultWorld) ⟨aliceStore, none, 0⟩
      [.login 0 1 false sampleToken none, .call (100 * hour) (authProcedure "GetMe")]).map
      (lostAt defaultWorld (200 * hour)) = some true := by decide +kernel
  obtain ⟨s, hexec, hlost⟩ := Option.map_eq_some_iff.mp hrun
  exact ⟨s, hexec, hlost, not_cookieAlive_of_lostAt hlost⟩

end BrowserCookie
end Auth
end Dmanager
