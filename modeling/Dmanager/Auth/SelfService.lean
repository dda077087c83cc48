import Dmanager.Auth.Handlers
import Dmanager.Db.AuthEvents
import Dmanager.Go.Runes
import Dmanager.Lib.Alone

/-!
# The handlers with which users look after themselves

`ListAuthEvents`, `ListSessions`, `RevokeSession`, `RevokeAllOtherSessions`, `ListPasskeys` and `RenamePasskey` of
`internal/auth/service.go`, as programs over `SelfCall`: the statements that only they send, and the calls of
`Dmanager.Auth.Calls`.  `DeletePasskey` is the program of `Dmanager.Auth.Handlers`.

`selfStep` is what one call does to the database.  It is a relation: the order of rows that compare equal is open,
a statement may fail, and the record of an auth event may be written or not.
-/

namespace Dmanager
namespace Auth

open Go Db Lib Server
open Program (perform orFail ensure)

/-! ## Calls and answers -/

inductive SelfCall where
  | listAuthEvents (limit offset : Int)
  | countAuthEvents
  | listAuthEventsByUser (userID limit offset : Int)
  | countAuthEventsByUser (userID : Int)
  | listSessionsByUser (userID : Int)
  | deleteSessionByIDAndUser (sessionID : GoString) (userID : Int)
  | deleteSessionsByUser (userID : Int) (sessionID : GoString)
  | renameWebAuthnCredential (name : GoString) (credentialID : List UInt8) (userID : Int)
  | auth (op : AuthCall)
  deriving DecidableEq, Repr

/-- The answer to a call; that to an `:execrows` statement is the number of rows. -/
@[reducible] def SelfAnswer : SelfCall → Type
  | .listAuthEvents _ _ => Except GoString (List Db.AuthEvent)
  | .countAuthEvents => Except GoString Nat
  | .listAuthEventsByUser _ _ _ => Except GoString (List Db.AuthEvent)
  | .countAuthEventsByUser _ => Except GoString Nat
  | .listSessionsByUser _ => Except GoString (List ListSessionsByUserRow)
  | .deleteSessionByIDAndUser _ _ => Except GoString Nat
  | .deleteSessionsByUser _ _ => Except GoString Nat
  | .renameWebAuthnCredential _ _ _ => Except GoString Nat
  | .auth op => AuthAnswer op

/-- A handler of this module. -/
abbrev SelfHandler (α : Type) := Program SelfCall SelfAnswer ConnectError α

/-- One call of a handler, with its answer. -/
abbrev SelfEvent := Event SelfCall SelfAnswer

/-- A handler of `Dmanager.Auth.Handlers` among those of this module. -/
def liftAuth {α : Type} : AuthHandler α → SelfHandler α
  | .done a => .done a
  | .fail e => .fail e
  | .call op next => .call (.auth op) fun answer => liftAuth (next answer)

namespace Handlers

/-! ## ListAuthEvents -/

/-- `v1.ListAuthEventsRequest`. -/
structure ListAuthEventsRequest where
  limit : Int
  offset : Int
  deriving DecidableEq, Repr

/-- `v1.AuthEvent`. -/
structure AuthEventProto where
  id : Int
  userID : Option Int
  username : GoString
  eventType : GoString
  detail : GoString
  createdAt : Int
  deriving DecidableEq, Repr

/-- `v1.ListAuthEventsResponse`. -/
structure ListAuthEventsResponse where
  events : List AuthEventProto
  totalCount : Nat
  deriving DecidableEq, Repr

/-- The limit of a page: 50 unless it is given, and at most 100. -/
def pageLimit (limit : Int) : Int := if limit ≤ 0 then 50 else if 100 < limit then 100 else limit

/-- An offset is not negative. -/
def pageOffset (offset : Int) : Int := if offset < 0 then 0 else offset

/-- An event of the response. -/
def authEventProto (e : Db.AuthEvent) : AuthEventProto where
  id := e.id
  userID := e.userID
  username := e.username
  eventType := e.event
  detail := e.detail
  createdAt := e.createdAt

/-- `ListAuthEvents`. -/
def listAuthEvents (ctx : Ctx) (req : ListAuthEventsRequest) : SelfHandler ListAuthEventsResponse := do
  let user ← liftAuth (requireUser ctx)
  let limit := pageLimit req.limit
  let offset := pageOffset req.offset
  if user.role = adminRole then do
    let events ← orFail (wrapError .internal "failed to list auth events")
      (← perform (.listAuthEvents limit offset))
    let totalCount ← orFail (wrapError .internal "failed to count auth events") (← perform .countAuthEvents)
    .done ⟨events.map authEventProto, totalCount⟩
  else do
    let events ← orFail (wrapError .internal "failed to list user auth events")
      (← perform (.listAuthEventsByUser user.id limit offset))
    let totalCount ← orFail (wrapError .internal "failed to count user auth events")
      (← perform (.countAuthEventsByUser user.id))
    .done ⟨events.map authEventProto, totalCount⟩

/-! ## Sessions -/

/-- The operating system in a lower-case user agent. -/
def deviceOS (uaLower : GoString) : GoString :=
  let has := fun word => contains uaLower (str word)
  if has "windows" then str "Windows"
  else if has "android" then str "Android"
  else if has "iphone" || has "ipad" || has "ipod" || has "ios" then str "iOS"
  else if has "macintosh" || has "mac os" then str "macOS"
  else if has "linux" then str "Linux"
  else str "Unknown OS"

/-- The label for a browser on an operating system; when neither is known it is the front of the user agent. -/
def deviceLabel (ua os browser : GoString) : GoString :=
  if os = str "Unknown OS" ∧ browser = str "Browser" then
    if 30 < ua.length then ua.take 30 ++ str "..." else ua
  else browser ++ str " · " ++ os

/-- `formatDeviceLabel`. -/
def formatDeviceLabel (ua : GoString) : GoString :=
  let uaLower := toLower ua
  let has := fun word => contains uaLower (str word)
  let label := deviceLabel ua (deviceOS uaLower)
  if ua = [] then str "Unknown Device"
  else if has "edg/" || has "edge/" then label (str "Edge")
  else if has "opr/" || has "opera/" then label (str "Opera")
  else if has "chrome/" || has "crios/" then label (str "Chrome")
  else if has "firefox/" || has "fxios/" then label (str "Firefox")
  else if has "safari/" && !has "chrome" then label (str "Safari")
  else if has "curl/" then str "curl"
  else if has "postman" then str "Postman"
  else label (str "Browser")

/-- `v1.Session`. -/
structure SessionProto where
  sessionID : GoString
  userAgent : GoString
  deviceLabel : GoString
  createdAt : Int
  lastSeenAt : Int
  expiresAt : Int
  absoluteExpiresAt : Int
  isCurrent : Bool
  deriving DecidableEq, Repr

/-- A session of the response. -/
def sessionProto (currentSessionID : GoString) (r : Session) : SessionProto where
  sessionID := r.sessionID
  userAgent := r.userAgent
  deviceLabel := formatDeviceLabel r.userAgent
  createdAt := r.createdAt
  lastSeenAt := r.lastSeenAt
  expiresAt := r.expiresAt
  absoluteExpiresAt := r.absoluteExpiresAt
  isCurrent := decide (r.sessionID = currentSessionID)

/-- `SessionIDFromContext`, the empty string if there is none. -/
def currentSessionID (ctx : Ctx) : GoString := ctx.sessionID.getD []

/-- `ListSessions`. -/
def listSessions (ctx : Ctx) : SelfHandler (List SessionProto) := do
  let user ← liftAuth (requireUser ctx)
  let rows ← orFail (wrapError .internal "failed to list sessions") (← perform (.listSessionsByUser user.id))
  .done (rows.map fun r => sessionProto (currentSessionID ctx) r.session)

/-- `s.recordAuthEvent` for the user of the request. -/
def recordOwnEvent (user : User) (event detail : String) : SelfHandler Unit :=
  perform (SelfCall.auth (.recordAuthEvent (some user.id) user.username (str event) (str detail)))

/-- `RevokeSession`. -/
def revokeSession (ctx : Ctx) (sessionID : GoString) : SelfHandler Unit := do
  let user ← liftAuth (requireUser ctx)
  ensure (sessionID ≠ []) (newError .invalidArgument "session_id is required")
  let rowsAffected ← orFail (wrapError .internal "failed to revoke session")
    (← perform (.deleteSessionByIDAndUser sessionID user.id))
  ensure (rowsAffected ≠ 0) (newError .notFound "session not found")
  recordOwnEvent user "session_revoked" "action: revoke_single"

/-- `RevokeAllOtherSessions`, with the `RevokedCount` of its response. -/
def revokeAllOtherSessions (ctx : Ctx) : SelfHandler Nat := do
  let user ← liftAuth (requireUser ctx)
  let rowsAffected ← orFail (wrapError .internal "failed to revoke other sessions")
    (← perform (.deleteSessionsByUser user.id (currentSessionID ctx)))
  recordOwnEvent user "session_revoked" "action: revoke_all_other"
  .done rowsAffected

/-! ## Passkeys -/

/-- `ListPasskeys`. -/
def listPasskeys (ctx : Ctx) : SelfHandler (List Passkey) := do
  let user ← liftAuth (requireUser ctx)
  let rows ← orFail (wrapError .internal "failed to list passkeys")
    (← perform (.auth (.listWebAuthnCredentialsByUser user.id)))
  .done (rows.map formatPasskeyProto)

/-- `v1.RenamePasskeyRequest`. -/
structure RenamePasskeyRequest where
  id : GoString
  name : GoString
  deriving DecidableEq, Repr

/-- `RenamePasskey`. -/
def renamePasskey (ctx : Ctx) (req : RenamePasskeyRequest) : SelfHandler Passkey := do
  let user ← liftAuth (requireUser ctx)
  let id := trimSpace req.id
  let name := trimSpace req.name
  ensure (id ≠ [] ∧ name ≠ []) (newError .invalidArgument "id and name are required")
  let credID ← orFail (wrapError .invalidArgument "invalid credential id hex") (hexDecode id)
  let rowsAffected ← orFail (wrapError .internal "failed to rename passkey")
    (← perform (.renameWebAuthnCredential name credID user.id))
  ensure (rowsAffected ≠ 0) (newError .notFound "passkey not found")
  let updated ← orFail (fun err => wrapError .internal "failed to retrieve updated passkey" (QueryError.text err))
    (← perform (.auth (.getWebAuthnCredential credID)))
  .done (formatPasskeyProto updated)

end Handlers

/-! ## Requests -/

/-- A request to one of the handlers. -/
inductive SelfRequest where
  | listAuthEvents (req : Handlers.ListAuthEventsRequest)
  | listSessions
  | revokeSession (sessionID : GoString)
  | revokeAllOtherSessions
  | listPasskeys
  | renamePasskey (req : Handlers.RenamePasskeyRequest)
  | deletePasskey (id : GoString)
  deriving DecidableEq, Repr

/-- The response of the handler that a request is for. -/
inductive SelfResponse where
  | authEvents (response : Handlers.ListAuthEventsResponse)
  | sessions (sessions : List Handlers.SessionProto)
  | sessionRevoked
  | othersRevoked (revokedCount : Nat)
  | passkeys (passkeys : List Handlers.Passkey)
  | passkeyRenamed (passkey : Handlers.Passkey)
  | passkeyDeleted
  deriving DecidableEq, Repr

/-- The handler of a request. -/
def SelfRequest.handler (ctx : Ctx) : SelfRequest → SelfHandler SelfResponse
  | .listAuthEvents req => do .done (.authEvents (← Handlers.listAuthEvents ctx req))
  | .listSessions => do .done (.sessions (← Handlers.listSessions ctx))
  | .revokeSession sessionID => do
    Handlers.revokeSession ctx sessionID
    .done .sessionRevoked
  | .revokeAllOtherSessions => do .done (.othersRevoked (← Handlers.revokeAllOtherSessions ctx))
  | .listPasskeys => do .done (.passkeys (← Handlers.listPasskeys ctx))
  | .renamePasskey req => do .done (.passkeyRenamed (← Handlers.renamePasskey ctx req))
  | .deletePasskey id => do
    liftAuth (Handlers.deletePasskey ctx id)
    .done .passkeyDeleted

/-! ## What a call does -/

/-- The tables with the auth events, and the clock. -/
structure SelfState where
  auth : AuthState
  authEvents : AuthEvents

/-- As `AuthWorld`, for the calls of this module as well. -/
structure SelfWorld where
  auth : AuthWorld
  faults : SelfCall → Bool

/-- The answers that the state may give to a call. -/
def SelfState.Allows (w : SelfWorld) (s : SelfState) : SelfEvent → Prop
  | ⟨.listAuthEvents limit offset, .ok rows⟩ =>
    AuthEvents.IsPage w.auth.sqlLess s.authEvents.table.rows limit.toNat offset.toNat rows
  | ⟨.countAuthEvents, .ok count⟩ => count = s.authEvents.countAuthEvents
  | ⟨.listAuthEventsByUser userID limit offset, .ok rows⟩ =>
    AuthEvents.IsPage w.auth.sqlLess (s.authEvents.ofUser userID) limit.toNat offset.toNat rows
  | ⟨.countAuthEventsByUser userID, .ok count⟩ => count = s.authEvents.countAuthEventsByUser userID
  | ⟨.listSessionsByUser userID, .ok rows⟩ =>
    Sessions.IsListOfUser w.auth.sqlLess s.auth.users s.auth.sessions userID rows
  | ⟨.deleteSessionByIDAndUser sessionID userID, .ok rows⟩ =>
    rows = s.auth.sessions.rows.length - (s.auth.sessions.deleteSessionByIDAndUser sessionID userID).rows.length
  | ⟨.deleteSessionsByUser userID sessionID, .ok rows⟩ =>
    rows = s.auth.sessions.rows.length - (s.auth.sessions.deleteSessionsByUser userID sessionID).rows.length
  | ⟨.renameWebAuthnCredential name credentialID userID, .ok rows⟩ =>
    rows = (s.auth.credentials.renameWebAuthnCredential name credentialID userID).2
  | ⟨.auth op, answer⟩ => s.auth.allowed w.auth ⟨op, answer⟩ = true
  | ⟨op, _⟩ => w.faults op = true

/-- The tables after a call and its answer. -/
def SelfState.afterAuth (w : SelfWorld) (s : SelfState) : SelfEvent → AuthState
  | ⟨.deleteSessionByIDAndUser sessionID userID, .ok _⟩ =>
    { s.auth with sessions := s.auth.sessions.deleteSessionByIDAndUser sessionID userID }
  | ⟨.deleteSessionsByUser userID sessionID, .ok _⟩ =>
    { s.auth with sessions := s.auth.sessions.deleteSessionsByUser userID sessionID }
  | ⟨.renameWebAuthnCredential name credentialID userID, .ok _⟩ =>
    { s.auth with credentials := (s.auth.credentials.renameWebAuthnCredential name credentialID userID).1 }
  | ⟨.auth op, answer⟩ => s.auth.after w.auth ⟨op, answer⟩
  | _ => s.auth

/-- What a call may leave of the auth events: a record is written, or it is not and a warning is logged. -/
def SelfState.MayRecord (s : SelfState) (op : SelfCall) (authEvents : AuthEvents) : Prop :=
  authEvents = s.authEvents ∨
    ∃ userID username event detail, op = .auth (.recordAuthEvent userID username event detail) ∧
      s.authEvents.createAuthEvent s.auth.users ⟨userID, username, event, detail⟩ s.auth.clock = some authEvents

/-- One call with its answer. -/
def selfStep (w : SelfWorld) (s : SelfState) (event : SelfEvent) (next : SelfState) : Prop :=
  s.Allows w event ∧ next.auth = s.afterAuth w event ∧ s.MayRecord event.op next.authEvents

end Auth
end Dmanager
