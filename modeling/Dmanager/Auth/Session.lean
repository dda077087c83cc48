import Dmanager.Db.Sessions
import Dmanager.Go.Connect
import Dmanager.Go.Time
import Dmanager.Server.Config

/-!
# Sessions: the cookie, `issueSession` and `authenticate`

`issueSession` writes a row with two clocks, the sliding idle deadline `expires_at` and the fixed
`absolute_expires_at`; `authenticate` reads the row back on every request, deletes it when one of the
clocks has run out, and otherwise slides the idle deadline when half of the idle window is used up.

The pieces of `authenticate` that only compute (`sessionExpired`, `needsSlide`, `newIdle`) are separate
definitions, because the same computation is interleaved with other requests in
`Dmanager.Auth.SessionInterleaving`.  `authenticate` itself is the sequential function: one call that runs
alone, with the outcome of each database statement given by `Faults`.
-/

namespace Dmanager
namespace Auth

open Go Db Lib Server

/-- `adminRole`. -/
def adminRole : GoString := str "admin"

/-! ## The cookie -/

/-- `parseSessionCookie`: the value of the first part that starts with `session_id=`. -/
def parseSessionCookie (cookieHeader : GoString) : GoString :=
  let parts := (split cookieHeader 0x3B).map trimSpace
  match parts.find? fun part => hasPrefix part (str "session_id=") with
  | some part => trimPrefix part (str "session_id=")
  | none => []

/-- The `Cookie` header of a browser that holds the session cookie. -/
def cookieHeaderOf (sessionID : GoString) : GoString := str "session_id=" ++ sessionID

/-- A request header: `none` is a nil `http.Header`, otherwise `Get` by canonical name. -/
abbrev Header := Option (GoString → GoString)

/-- `strings.EqualFold(s, target)` for a lower-case ASCII target.  Simple folding also maps the long s
(U+017F) to `s` and the Kelvin sign (U+212A) to `k`. -/
def equalFoldAscii : GoString → GoString → Bool
  | [], [] => true
  | _, [] => false
  | s, target :: rest =>
      match s with
      | 0xC5 :: 0xBF :: tail => target == 0x73 && equalFoldAscii tail rest
      | 0xE2 :: 0x84 :: 0xAA :: tail => target == 0x6B && equalFoldAscii tail rest
      | c :: tail =>
          (c == target || (0x41 ≤ c && c ≤ 0x5A && c + 0x20 == target)) && equalFoldAscii tail rest
      | [] => false

/-- The `Set-Cookie` header of the session cookie, before it is printed. -/
structure SetCookie where
  sessionID : GoString
  maxAge : Int
  secure : Bool
  deriving DecidableEq, Repr

/-- The printed form of the header. -/
def SetCookie.header (cookie : SetCookie) : GoString :=
  str "session_id=" ++ cookie.sessionID ++ str "; Path=/; HttpOnly; SameSite=Lax; Max-Age=" ++
    intString cookie.maxAge ++ (if cookie.secure then str "; Secure" else [])

/-- `formatSessionCookie`. -/
def formatSessionCookie (sessionID : GoString) (maxAge : Int) (secureCookies : GoString)
    (reqHeader : Header) : SetCookie where
  sessionID := sessionID
  maxAge := maxAge
  secure :=
    if secureCookies = secureCookiesAlways then true
    else if secureCookies = secureCookiesNever then false
    else if secureCookies = secureCookiesAuto then
      match reqHeader with
      | none => false
      | some get => equalFoldAscii (get (str "X-Forwarded-Proto")) (str "https")
    else false

/-! ## The service and `issueSession` -/

/-- The defaults `NewService` fills in for values that are not set. -/
def newServiceConfig (cfg : AuthConfig) : AuthConfig where
  sessionIdleTimeout := if cfg.sessionIdleTimeout ≤ 0 then 168 * hour else cfg.sessionIdleTimeout
  sessionAbsoluteTimeout :=
    if cfg.sessionAbsoluteTimeout ≤ 0 then 720 * hour else cfg.sessionAbsoluteTimeout
  rememberMeIdleTimeout :=
    if cfg.rememberMeIdleTimeout ≤ 0 then 720 * hour else cfg.rememberMeIdleTimeout
  rememberMeAbsoluteTimeout :=
    if cfg.rememberMeAbsoluteTimeout ≤ 0 then 2160 * hour else cfg.rememberMeAbsoluteTimeout
  secureCookies := if cfg.secureCookies = [] then secureCookiesAuto else cfg.secureCookies
  bcryptCost := if cfg.bcryptCost = 0 then 12 else cfg.bcryptCost
  breachedPasswordCheck := cfg.breachedPasswordCheck

/-- The idle timeout of the tier a session is issued with. -/
def tierIdle (cfg : AuthConfig) (rememberMe : Bool) : Int :=
  if rememberMe then cfg.rememberMeIdleTimeout else cfg.sessionIdleTimeout

/-- The absolute timeout of the tier a session is issued with. -/
def tierAbsolute (cfg : AuthConfig) (rememberMe : Bool) : Int :=
  if rememberMe then cfg.rememberMeAbsoluteTimeout else cfg.sessionAbsoluteTimeout

/-- The lower-case hexadecimal digit of a number below sixteen. -/
def hexDigit (n : UInt8) : UInt8 := if n < 10 then 0x30 + n else 0x57 + n

/-- `hex.EncodeToString`. -/
def hexEncode : List UInt8 → GoString
  | [] => []
  | b :: rest => hexDigit (b / 16) :: hexDigit (b % 16) :: hexEncode rest

/-- What `rand.Read` puts into the token buffer of `issueSession`. -/
abbrev Token := { bytes : List UInt8 // bytes.length = 32 }

/-- The row `issueSession` asks the database to create at instant `now`. -/
def issueParams (cfg : AuthConfig) (userID : Int) (rememberMe : Bool) (tokenBytes : Token)
    (reqHeader : Header) (now : Int) : CreateSessionParams where
  sessionID := hexEncode tokenBytes
  userID := userID
  userAgent :=
    match reqHeader with
    | none => []
    | some get => get (str "User-Agent")
  expiresAt := now + tierIdle cfg rememberMe
  lastSeenAt := now
  absoluteExpiresAt := now + tierAbsolute cfg rememberMe

/-- `issueSession` run alone: the store with the new row, and the cookie; `none` when the insert fails. -/
def issueSession (conversion : SecondsConversion) (cfg : AuthConfig) (store : Store) (userID : Int)
    (rememberMe : Bool) (tokenBytes : Token) (reqHeader : Header) (now : Int) :
    Option (Store × SetCookie) :=
  let arg := issueParams cfg userID rememberMe tokenBytes reqHeader now
  match Sessions.createSession store.users store.sessions arg now with
  | none => none
  | some sessions =>
      some ({ store with sessions := sessions },
        formatSessionCookie arg.sessionID (conversion.seconds (tierIdle cfg rememberMe))
          cfg.secureCookies reqHeader)

/-! ## `authenticate` -/

/-- `auth.Interceptor`; `auditor` is whether one was passed. -/
structure Interceptor where
  idleTimeout : Int
  auditor : Bool
  deriving DecidableEq, Repr

/-- `NewInterceptor`. -/
def newInterceptor (idleTimeout : Int) (auditor : Bool) : Interceptor where
  idleTimeout := if idleTimeout ≤ 0 then 168 * hour else idleTimeout
  auditor := auditor

/-- The values of the request context that this package sets. -/
structure Ctx where
  user : Option User
  sessionID : Option GoString
  deriving DecidableEq, Repr

/-- The context of a request before the interceptor. -/
def Ctx.background : Ctx := ⟨none, none⟩

/-- `now.After(session.AbsoluteExpiresAt)` or `now.After(session.ExpiresAt)`. -/
def sessionExpired (now : Int) (session : Session) : Bool :=
  after now session.absoluteExpiresAt || after now session.expiresAt

/-- The slide condition `now.After(session.ExpiresAt.Add(-i.idleTimeout / 2))`. -/
def needsSlide (idleTimeout now : Int) (session : Session) : Bool :=
  after now (session.expiresAt + Int.tdiv (-idleTimeout) 2)

/-- The new idle deadline, clamped to the absolute one. -/
def newIdle (idleTimeout now : Int) (session : Session) : Int :=
  if after (now + idleTimeout) session.absoluteExpiresAt then session.absoluteExpiresAt
  else now + idleTimeout

/-- The parameters of the `TouchSession` statement. -/
def touchParams (idleTimeout now : Int) (session : Session) : TouchSessionParams where
  sessionID := session.sessionID
  expiresAt := newIdle idleTimeout now session
  lastSeenAt := now

/-- Which database statements of a request fail, and the texts of the errors that are reported. -/
structure Faults where
  getSession : Option GoString
  deleteSession : Bool
  touchSession : Bool
  getUser : Option GoString
  deriving DecidableEq, Repr

/-- Every statement succeeds. -/
def Faults.none : Faults := ⟨.none, false, false, .none⟩

/-- `Interceptor.authenticate` at instant `now`: the store afterwards, and the error or the context.
Errors of `DeleteSession` and `TouchSession` are ignored by the source. -/
def authenticate (i : Interceptor) (faults : Faults) (store : Store) (now : Int) (ctx : Ctx)
    (cookieHeader : GoString) : Store × Except ConnectError Ctx :=
  let sessionID := parseSessionCookie cookieHeader
  if sessionID = [] then
    (store, .error (newError .unauthenticated "unauthenticated"))
  else
    match faults.getSession with
    | some cause => (store, .error (wrapError .internal "failed to query session" cause))
    | none =>
      match Sessions.getSession store.sessions sessionID with
      | none => (store, .error (newError .unauthenticated "unauthenticated"))
      | some session =>
        if sessionExpired now session then
          let sessions :=
            if faults.deleteSession then store.sessions
            else Sessions.deleteSession store.sessions sessionID
          ({ store with sessions := sessions },
            .error (newError .unauthenticated "session expired"))
        else
          let sessions :=
            if needsSlide i.idleTimeout now session && !faults.touchSession then
              Sessions.touchSession store.sessions (touchParams i.idleTimeout now session)
            else store.sessions
          ({ store with sessions := sessions },
            match faults.getUser with
            | some cause => .error (wrapError .internal "failed to query user" cause)
            | none =>
              match store.users.getUser session.userID with
              | none => .error (newError .unauthenticated "user not found")
              | some user => .ok { ctx with user := some user, sessionID := some sessionID })

/-! ## The handlers that delete sessions

Each of them sends one statement to the sessions table; the writes to `auth_events` are left out. -/

/-- The session id `Logout` works on: that of the context, else that of the cookie. -/
def logoutSessionID (ctx : Ctx) (cookieHeader : GoString) : GoString :=
  match ctx.sessionID with
  | some sessionID => sessionID
  | none => parseSessionCookie cookieHeader

/-- `Logout`; an error of `DeleteSession` is ignored by the source. -/
def logout (cfg : AuthConfig) (fault : Bool) (sessions : Sessions) (ctx : Ctx) (cookieHeader : GoString)
    (reqHeader : Header) : Sessions × SetCookie :=
  let sessionID := logoutSessionID ctx cookieHeader
  (if sessionID ≠ [] ∧ fault = false then Sessions.deleteSession sessions sessionID else sessions,
    formatSessionCookie [] 0 cfg.secureCookies reqHeader)

/-- `RevokeSession`. -/
def revokeSession (fault : Option GoString) (sessions : Sessions) (ctx : Ctx) (sessionID : GoString) :
    Sessions × Except ConnectError Unit :=
  match ctx.user with
  | none => (sessions, .error (newError .unauthenticated "unauthenticated"))
  | some user =>
    if sessionID = [] then
      (sessions, .error (newError .invalidArgument "session_id is required"))
    else
      match fault with
      | some cause => (sessions, .error (wrapError .internal "failed to revoke session" cause))
      | none =>
        let next := Sessions.deleteSessionByIDAndUser sessions sessionID user.id
        if sessions.rows.length - next.rows.length = 0 then
          (next, .error (newError .notFound "session not found"))
        else (next, .ok ())

/-- `RevokeAllOtherSessions`, with the `RevokedCount` of its response. -/
def revokeAllOtherSessions (fault : Option GoString) (sessions : Sessions) (ctx : Ctx) :
    Sessions × Except ConnectError Nat :=
  match ctx.user with
  | none => (sessions, .error (newError .unauthenticated "unauthenticated"))
  | some user =>
    match fault with
    | some cause => (sessions, .error (wrapError .internal "failed to revoke other sessions" cause))
    | none =>
      let next := Sessions.deleteSessionsByUser sessions user.id (ctx.sessionID.getD [])
      (next, .ok (sessions.rows.length - next.rows.length))

/-- `SessionPurgeFunc`: both clocks are compared with one reading of the time. -/
def sessionPurgeFunc (sqlLess : Int → Int → Bool) (fault : Bool) (sessions : Sessions) (now : Int) :
    Sessions :=
  if fault then sessions else Sessions.purgeExpiredSessions sqlLess sessions now now

theorem mem_of_mem_logout {cfg : AuthConfig} {fault : Bool} {sessions : Sessions} {ctx : Ctx}
    {cookieHeader : GoString} {reqHeader : Header} {row : Session}
    (hrow : row ∈ (logout cfg fault sessions ctx cookieHeader reqHeader).1) : row ∈ sessions := by
  unfold logout at hrow
  dsimp only at hrow
  split at hrow
  · exact (KeyedTable.mem_deleteWhere.mp hrow).1
  · exact hrow

theorem mem_of_mem_revokeSession {fault : Option GoString} {sessions : Sessions} {ctx : Ctx}
    {sessionID : GoString} {row : Session}
    (hrow : row ∈ (revokeSession fault sessions ctx sessionID).1) : row ∈ sessions := by
  unfold revokeSession at hrow
  split at hrow
  · exact hrow
  · split at hrow
    · exact hrow
    · split at hrow
      · exact hrow
      · dsimp only at hrow
        split at hrow
        · exact (KeyedTable.mem_deleteWhere.mp hrow).1
        · exact (KeyedTable.mem_deleteWhere.mp hrow).1

theorem mem_of_mem_revokeAllOtherSessions {fault : Option GoString} {sessions : Sessions} {ctx : Ctx}
    {row : Session} (hrow : row ∈ (revokeAllOtherSessions fault sessions ctx).1) : row ∈ sessions := by
  unfold revokeAllOtherSessions at hrow
  split at hrow
  · exact hrow
  · split at hrow
    · exact hrow
    · exact (KeyedTable.mem_deleteWhere.mp hrow).1

theorem mem_of_mem_sessionPurgeFunc {sqlLess : Int → Int → Bool} {fault : Bool} {sessions : Sessions}
    {now : Int} {row : Session} (hrow : row ∈ sessionPurgeFunc sqlLess fault sessions now) :
    row ∈ sessions := by
  unfold sessionPurgeFunc at hrow
  split at hrow
  · exact hrow
  · exact (KeyedTable.mem_deleteWhere.mp hrow).1

/-! ## What `issueSession` and `authenticate` do -/

theorem hexDigit_toNat {n : UInt8} (hn : n.toNat < 16) :
    (hexDigit n).toNat = if n.toNat < 10 then 48 + n.toNat else 87 + n.toNat := by
  have hlt : n < 10 ↔ n.toNat < 10 := UInt8.lt_iff_toNat_lt
  unfold hexDigit
  by_cases hsmall : n.toNat < 10
  · rw [if_pos (hlt.mpr hsmall), if_pos hsmall, UInt8.toNat_add]
    show (48 + n.toNat) % 256 = 48 + n.toNat
    omega
  · rw [if_neg (fun h => hsmall (hlt.mp h)), if_neg hsmall, UInt8.toNat_add]
    show (87 + n.toNat) % 256 = 87 + n.toNat
    omega

theorem hexDigit_injOn {n m : UInt8} (hn : n.toNat < 16) (hm : m.toNat < 16)
    (hdigit : hexDigit n = hexDigit m) : n.toNat = m.toNat := by
  have hvalues := congrArg UInt8.toNat hdigit
  rw [hexDigit_toNat hn, hexDigit_toNat hm] at hvalues
  split at hvalues <;> split at hvalues <;> omega

/-- Different tokens have different hexadecimal forms. -/
theorem hexEncode_injective : Function.Injective hexEncode := by
  intro first
  induction first with
  | nil =>
      intro second hsame
      cases second with
      | nil => rfl
      | cons c rest => cases hsame
  | cons b rest ih =>
      intro second hsame
      cases second with
      | nil => cases hsame
      | cons c rest' =>
          obtain ⟨hhigh, hlow, htail⟩ : hexDigit (b / 16) = hexDigit (c / 16) ∧
              hexDigit (b % 16) = hexDigit (c % 16) ∧ hexEncode rest = hexEncode rest' := by
            simpa [hexEncode] using hsame
          -- the two digits of a byte are its quotient and remainder by sixteen, and determine it
          have hquotient : ∀ x : UInt8, (x / 16).toNat = x.toNat / 16 := fun _ => rfl
          have hremainder : ∀ x : UInt8, (x % 16).toNat = x.toNat % 16 := fun _ => rfl
          have hbound : ∀ x : UInt8, x.toNat < 256 := fun x => x.toNat_lt
          have hb := hbound b
          have hc := hbound c
          have hhighNat := hexDigit_injOn (by rw [hquotient]; omega) (by rw [hquotient]; omega) hhigh
          have hlowNat := hexDigit_injOn (by rw [hremainder]; omega) (by rw [hremainder]; omega) hlow
          rw [hquotient, hquotient] at hhighNat
          rw [hremainder, hremainder] at hlowNat
          have hbyte : b = c := UInt8.toNat_inj.mp (by omega)
          rw [hbyte, ih htail]

/-- A session id without separators and blanks is read back from its cookie. -/
theorem parseSessionCookie_cookieHeaderOf {sessionID : GoString}
    (hclean : ∀ c ∈ sessionID, visible c = true ∧ c ≠ 0x3B) :
    parseSessionCookie (cookieHeaderOf sessionID) = sessionID := by
  have hname : ∀ c ∈ str "session_id=", visible c = true ∧ c ≠ 0x3B := by decide +kernel
  have hheader : ∀ c ∈ cookieHeaderOf sessionID, visible c = true ∧ c ≠ 0x3B :=
    fun c hc => (List.mem_append.mp hc).elim (hname c) (hclean c)
  have hsplit : split (cookieHeaderOf sessionID) 0x3B = [cookieHeaderOf sessionID] :=
    List.splitOn_eq_singleton fun hsep => (hheader 0x3B hsep).2 rfl
  have htrim : trimSpace (cookieHeaderOf sessionID) = cookieHeaderOf sessionID :=
    trimSpace_of_unpadded (unpadded_of_visible fun c hc => (hheader c hc).1)
  have hpre : hasPrefix (cookieHeaderOf sessionID) (str "session_id=") = true := by
    simp [hasPrefix, cookieHeaderOf]
  unfold parseSessionCookie
  rw [hsplit]
  simp only [List.map_singleton, htrim, List.find?_singleton, hpre, if_true, trimPrefix]
  simp [cookieHeaderOf]

theorem hexDigit_clean {n : UInt8} (hn : n.toNat < 16) : visible (hexDigit n) = true ∧ hexDigit n ≠ 0x3B := by
  have hvalue := hexDigit_toNat hn
  constructor
  · simp only [visible, Bool.and_eq_true, decide_eq_true_eq, UInt8.lt_iff_toNat_lt, hvalue]
    show 32 < _ ∧ _ < 128
    split <;> omega
  · intro heq
    rw [heq] at hvalue
    change 59 = _ at hvalue
    split at hvalue <;> omega

theorem hexEncode_clean (bytes : List UInt8) :
    ∀ c ∈ hexEncode bytes, visible c = true ∧ c ≠ 0x3B := by
  induction bytes with
  | nil =>
      intro c hc
      cases hc
  | cons b rest ih =>
      intro c hc
      have hb : b.toNat < 256 := b.toNat_lt
      rcases List.mem_cons.mp hc with rfl | hc
      · exact hexDigit_clean (show b.toNat / 16 < 16 by omega)
      · rcases List.mem_cons.mp hc with rfl | hc
        · exact hexDigit_clean (show b.toNat % 16 < 16 by omega)
        · exact ih c hc

/-- The id of an issued session is read back from the browser's cookie. -/
theorem parseSessionCookie_hexEncode (tokenBytes : List UInt8) :
    parseSessionCookie (cookieHeaderOf (hexEncode tokenBytes)) = hexEncode tokenBytes :=
  parseSessionCookie_cookieHeaderOf (hexEncode_clean tokenBytes)

theorem hexEncode_token_ne_nil (tokenBytes : Token) : hexEncode tokenBytes ≠ [] := by
  obtain ⟨bytes, hlength⟩ := tokenBytes
  cases bytes with
  | nil => cases hlength
  | cons b rest => exact List.cons_ne_nil _ _

/-- Valid timeouts pass `NewService` unchanged. -/
theorem tierIdle_newServiceConfig {cfg : AuthConfig} (hvalid : cfg.Valid) (rememberMe : Bool) :
    tierIdle (newServiceConfig cfg) rememberMe = tierIdle cfg rememberMe := by
  have hidle := hvalid.idle_pos
  have hremember := hvalid.rememberMe_idle_pos
  cases rememberMe with
  | false => simp [tierIdle, newServiceConfig, hidle]
  | true => simp [tierIdle, newServiceConfig, hremember]

theorem tierAbsolute_newServiceConfig {cfg : AuthConfig} (hvalid : cfg.Valid) (rememberMe : Bool) :
    tierAbsolute (newServiceConfig cfg) rememberMe = tierAbsolute cfg rememberMe := by
  have habsolute : 0 < cfg.sessionAbsoluteTimeout := hvalid.idle_pos.trans_le hvalid.idle_le_absolute
  have hremember : 0 < cfg.rememberMeAbsoluteTimeout :=
    hvalid.rememberMe_idle_pos.trans_le hvalid.rememberMe_idle_le_absolute
  cases rememberMe with
  | false => simp [tierAbsolute, newServiceConfig, habsolute]
  | true => simp [tierAbsolute, newServiceConfig, hremember]

theorem tierIdle_pos {cfg : AuthConfig} (hvalid : cfg.Valid) (rememberMe : Bool) :
    0 < tierIdle cfg rememberMe := by
  cases rememberMe with
  | false => exact hvalid.idle_pos
  | true => exact hvalid.rememberMe_idle_pos

theorem tierIdle_le_tierAbsolute {cfg : AuthConfig} (hvalid : cfg.Valid) (rememberMe : Bool) :
    tierIdle cfg rememberMe ≤ tierAbsolute cfg rememberMe := by
  cases rememberMe with
  | false => exact hvalid.idle_le_absolute
  | true => exact hvalid.rememberMe_idle_le_absolute

theorem sessionExpired_eq_false_iff (now : Int) (session : Session) :
    sessionExpired now session = false ↔
      now ≤ session.absoluteExpiresAt ∧ now ≤ session.expiresAt := by
  simp [sessionExpired]

theorem needsSlide_eq_true_iff (idleTimeout now : Int) (session : Session) :
    needsSlide idleTimeout now session = true ↔
      session.expiresAt - Int.tdiv idleTimeout 2 < now := by
  simp [needsSlide, sub_eq_add_neg]

theorem newIdle_eq_min (idleTimeout now : Int) (session : Session) :
    newIdle idleTimeout now session = min (now + idleTimeout) session.absoluteExpiresAt := by
  unfold newIdle
  split
  · rename_i hlate
    rw [after_eq_true_iff] at hlate
    omega
  · rename_i hearly
    rw [Bool.not_eq_true, after_eq_false_iff] at hearly
    omega

/-- What an `issueSession` that was not refused leaves: the owner of the session exists, its row is in the
table, and the cookie carries its id and the seconds of its idle timeout. -/
theorem issueSession_eq_some {conversion : SecondsConversion} {cfg : AuthConfig} {store store' : Store}
    {userID : Int} {rememberMe : Bool} {tokenBytes : Token} {reqHeader : Header} {now : Int}
    {cookie : SetCookie}
    (hissue : issueSession conversion cfg store userID rememberMe tokenBytes reqHeader now =
      some (store', cookie)) :
    store'.users = store.users ∧ (∃ user, store.users.getUser userID = some user) ∧
      Sessions.getSession store'.sessions (hexEncode tokenBytes) =
        some ((issueParams cfg userID rememberMe tokenBytes reqHeader now).row now) ∧
      cookie = formatSessionCookie (hexEncode tokenBytes) (conversion.seconds (tierIdle cfg rememberMe))
        cfg.secureCookies reqHeader := by
  unfold issueSession at hissue
  dsimp only at hissue
  split at hissue
  · cases hissue
  · rename_i sessions hcreate
    cases hissue
    obtain ⟨huser, hinsert⟩ := Sessions.createSession_eq_some hcreate
    refine ⟨rfl, huser, ?_, rfl⟩
    unfold Sessions.getSession
    rw [KeyedTable.get?_of_insert? hinsert]
    exact if_pos rfl

/-- It is refused exactly when the user does not exist or the session id is taken. -/
theorem issueSession_eq_none_iff {conversion : SecondsConversion} {cfg : AuthConfig} {store : Store}
    {userID : Int} {rememberMe : Bool} {tokenBytes : Token} {reqHeader : Header} {now : Int} :
    issueSession conversion cfg store userID rememberMe tokenBytes reqHeader now = none ↔
      store.users.getUser userID = none ∨
        Sessions.getSession store.sessions (hexEncode tokenBytes) ≠ none := by
  have hid : ((issueParams cfg userID rememberMe tokenBytes reqHeader now).row now).sessionID =
      hexEncode tokenBytes := rfl
  have howner : (issueParams cfg userID rememberMe tokenBytes reqHeader now).userID = userID := rfl
  have hrefused : issueSession conversion cfg store userID rememberMe tokenBytes reqHeader now = none ↔
      Sessions.createSession store.users store.sessions
        (issueParams cfg userID rememberMe tokenBytes reqHeader now) now = none := by
    unfold issueSession
    dsimp only
    split
    · rename_i hnone
      simp [hnone]
    · rename_i sessions hcreate
      simp [hcreate]
  rw [hrefused]
  unfold Sessions.createSession
  rw [howner]
  cases huser : store.users.getUser userID with
  | none => simp
  | some user =>
      have hinsert : store.sessions.insert?
          ((issueParams cfg userID rememberMe tokenBytes reqHeader now).row now) = none ↔ _ :=
        KeyedTable.insert?_eq_none_iff
      simp only [hinsert, hid, Sessions.getSession, ne_eq, KeyedTable.get?_eq_none_iff]
      simp

/-- A successful `authenticate`: the row it read, its owner, and the context it returns. -/
theorem authenticate_eq_ok {i : Interceptor} {faults : Faults} {store : Store} {now : Int}
    {ctx authCtx : Ctx} {cookieHeader : GoString}
    (hok : (authenticate i faults store now ctx cookieHeader).2 = .ok authCtx) :
    ∃ session user,
      Sessions.getSession store.sessions (parseSessionCookie cookieHeader) = some session ∧
      store.users.getUser session.userID = some user ∧
      sessionExpired now session = false ∧
      authCtx = { ctx with user := some user, sessionID := some (parseSessionCookie cookieHeader) } := by
  -- six branches in the order of the source; only the last one succeeds
  simp only [authenticate] at hok
  split at hok
  · cases hok
  · split at hok
    · cases hok
    · split at hok
      · cases hok
      · rename_i session hsession
        split at hok
        · cases hok
        · rename_i hlive
          dsimp only at hok
          split at hok
          · cases hok
          · split at hok
            · cases hok
            · rename_i user huser
              cases hok
              exact ⟨session, user, hsession, huser, by simpa using hlive, rfl⟩

/-- `authenticate` never writes to the users table. -/
theorem authenticate_users {i : Interceptor} {faults : Faults} {store : Store} {now : Int} {ctx : Ctx}
    {cookieHeader : GoString} :
    (authenticate i faults store now ctx cookieHeader).1.users = store.users := by
  simp only [authenticate]
  split
  · rfl
  · split
    · rfl
    · split
      · rfl
      · split <;> rfl

section NoFaults

variable {i : Interceptor} {store : Store} {t : Int} {cookieHeader sessionID : GoString}

/-- The sessions table after a request on a live row: slid when half of the idle timeout is used up. -/
def slide (i : Interceptor) (sessions : Sessions) (row : Session) (t : Int) : Sessions :=
  if needsSlide i.idleTimeout t row then
    Sessions.touchSession sessions (touchParams i.idleTimeout t row)
  else sessions

/-- The row after it. -/
def slidRow (i : Interceptor) (row : Session) (t : Int) : Session :=
  if needsSlide i.idleTimeout t row then (touchParams i.idleTimeout t row).apply row else row

theorem getSession_slide_self {sessions : Sessions} {row : Session}
    (hrow : Sessions.getSession sessions sessionID = some row) :
    Sessions.getSession (slide i sessions row t) sessionID = some (slidRow i row t) := by
  have hid : (touchParams i.idleTimeout t row).sessionID = sessionID :=
    Sessions.sessionID_of_getSession hrow
  unfold slide slidRow
  split
  · rw [Sessions.getSession_touchSession, hid, if_pos rfl, hrow]
    rfl
  · exact hrow

/-- A slide neither adds nor removes rows. -/
theorem getSession_slide_eq_none_iff {sessions : Sessions} {row : Session} (other : GoString) :
    Sessions.getSession (slide i sessions row t) other = none ↔ Sessions.getSession sessions other = none := by
  unfold slide
  split
  · rw [Sessions.getSession_touchSession]
    split
    · exact Option.map_eq_none_iff
    · exact Iff.rfl
  · exact Iff.rfl

/-- `authenticate` on a live row whose owner exists. -/
theorem authenticate_of_live (ctx : Ctx) {row : Session} {user : User}
    (hcookie : parseSessionCookie cookieHeader = sessionID) (hne : sessionID ≠ [])
    (hrow : Sessions.getSession store.sessions sessionID = some row)
    (hlive : sessionExpired t row = false) (huser : store.users.getUser row.userID = some user) :
    authenticate i Faults.none store t ctx cookieHeader =
      ({ store with sessions := slide i store.sessions row t },
        .ok { ctx with user := some user, sessionID := some sessionID }) := by
  subst hcookie
  simp [authenticate, slide, hne, Faults.none, hrow, hlive, huser]

/-- `authenticate` on a row that has expired. -/
theorem authenticate_of_expired (ctx : Ctx) {row : Session}
    (hcookie : parseSessionCookie cookieHeader = sessionID)
    (hne : sessionID ≠ []) (hrow : Sessions.getSession store.sessions sessionID = some row)
    (hexpired : sessionExpired t row = true) :
    authenticate i Faults.none store t ctx cookieHeader =
      ({ store with sessions := Sessions.deleteSession store.sessions sessionID },
        .error (newError .unauthenticated "session expired")) := by
  subst hcookie
  simp [authenticate, hne, Faults.none, hrow, hexpired]

/-- `authenticate` without a row. -/
theorem authenticate_of_missing (ctx : Ctx) (hcookie : parseSessionCookie cookieHeader = sessionID)
    (hne : sessionID ≠ []) (hrow : Sessions.getSession store.sessions sessionID = none) :
    authenticate i Faults.none store t ctx cookieHeader =
      (store, .error (newError .unauthenticated "unauthenticated")) := by
  subst hcookie
  simp [authenticate, hne, Faults.none, hrow]

end NoFaults

end Auth
end Dmanager
