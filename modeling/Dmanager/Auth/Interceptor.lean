import Dmanager.Auth.Session
import Dmanager.Server.Api

/-!
# The interceptor

`WrapUnary` and `WrapStreamingHandler` decide for every request whether its handler runs, and with which
context.  Both are written out here as the source has them: the role of the procedure is looked up, a
public procedure is let through with or without a session, every other one needs `authenticate` to
succeed, and an administrative one needs the role `admin` on top.  `WrapUnary` also writes the audit
entries, from a static table (`auditSpecs`).

`interceptor_decides` is the access control law of both wrappers.
-/

namespace Dmanager
namespace Auth

open Go Db Lib Server

/-! ## Roles of procedures -/

/-- `ProcedureRole`. -/
inductive ProcedureRole where
  | unauthenticated
  | viewer
  | admin
  deriving DecidableEq, Repr

/-- `procedureRoles`. -/
def procedureRoles : List (GoString × ProcedureRole) :=
  [ -- unauthenticated allowlist
    (authProcedure "GetServerStatus", .unauthenticated),
    (authProcedure "SetupAdmin", .unauthenticated),
    (authProcedure "Login", .unauthenticated),
    (authProcedure "BeginPasskeyLogin", .unauthenticated),
    (authProcedure "FinishPasskeyLogin", .unauthenticated),
    -- any authenticated user
    (authProcedure "Logout", .viewer),
    (authProcedure "GetMe", .viewer),
    (authProcedure "ListAuthEvents", .viewer),
    (authProcedure "ListSessions", .viewer),
    (authProcedure "RevokeSession", .viewer),
    (authProcedure "RevokeAllOtherSessions", .viewer),
    (authProcedure "BeginPasskeyRegistration", .viewer),
    (authProcedure "FinishPasskeyRegistration", .viewer),
    (authProcedure "ListPasskeys", .viewer),
    (authProcedure "RenamePasskey", .viewer),
    (authProcedure "DeletePasskey", .viewer),
    (containerProcedure "ListContainers", .viewer),
    (containerProcedure "GetContainerLogs", .viewer),
    (containerProcedure "StreamContainers", .viewer),
    (settingsProcedure "GetSettings", .viewer),
    (settingsProcedure "GetRegistryStatus", .viewer),
    (logProcedure "GetSystemLogs", .viewer),
    (logProcedure "SyncLogs", .viewer),
    (adminProcedure "ListImages", .viewer),
    (adminProcedure "ListVolumes", .viewer),
    (adminProcedure "GetVolumeUsage", .viewer),
    (adminProcedure "ListNetworks", .viewer),
    (adminProcedure "GetBuildCacheStats", .viewer),
    (adminProcedure "ListBuildCacheRecords", .viewer),
    (adminProcedure "CheckEngine", .viewer),
    (adminProcedure "GetTailscaleStatus", .viewer),
    -- users with the role admin
    (deleteImageProcedure, .admin),
    (startContainerProcedure, .admin),
    (pruneImagesProcedure, .admin),
    (pruneBuildCacheProcedure, .admin),
    (pruneBuildCacheRecordProcedure, .admin),
    (pruneVolumesProcedure, .admin),
    (deleteNetworkProcedure, .admin),
    (pruneNetworksProcedure, .admin),
    (stopContainerProcedure, .admin),
    (upgradeContainerProcedure, .admin),
    (setContainerAutoUpdateProcedure, .admin),
    (checkContainerUpdatesProcedure, .admin),
    (updateSettingsProcedure, .admin),
    (testGotifyNotificationProcedure, .admin),
    (listAuditLogsProcedure, .admin)]

/-- `getProcedureRole`. -/
def getProcedureRole (procedure : GoString) : Option ProcedureRole :=
  (procedureRoles.find? fun entry => decide (entry.1 = procedure)).map Prod.snd

/-! ## The audit table -/

/-- `auditSpec`. -/
structure AuditSpec where
  action : GoString
  resourceType : GoString
  deriving DecidableEq, Repr

/-- `auditSpecs`.  The upgrade procedure is left out on purpose: its handler records its own entries. -/
def auditSpecs : List (GoString × AuditSpec) :=
  [(deleteImageProcedure, ⟨str "image.delete", str "image"⟩),
    (pruneImagesProcedure, ⟨str "image.prune", str "image"⟩),
    (pruneBuildCacheProcedure, ⟨str "builder.prune", str "builder"⟩),
    (pruneBuildCacheRecordProcedure, ⟨str "builder.record_prune", str "builder"⟩),
    (pruneVolumesProcedure, ⟨str "volume.prune", str "volume"⟩),
    (deleteNetworkProcedure, ⟨str "network.delete", str "network"⟩),
    (pruneNetworksProcedure, ⟨str "network.prune", str "network"⟩),
    (startContainerProcedure, ⟨str "container.start", str "container"⟩),
    (stopContainerProcedure, ⟨str "container.stop", str "container"⟩),
    (setContainerAutoUpdateProcedure, ⟨str "container.auto_update_set", str "container"⟩),
    (checkContainerUpdatesProcedure, ⟨str "container.update_check", str "container"⟩),
    (updateSettingsProcedure, ⟨str "settings.update", str "settings"⟩),
    (testGotifyNotificationProcedure, ⟨str "settings.gotify_test", str "settings"⟩)]

/-- `auditSpecs[procedure]`. -/
def getAuditSpec (procedure : GoString) : Option AuditSpec :=
  (auditSpecs.find? fun entry => decide (entry.1 = procedure)).map Prod.snd

/-- `truncateNames`. -/
def truncateNames (names : List GoString) : GoString :=
  if names.length ≤ 3 then join names (str ", ")
  else join (names.take 3) (str ", ") ++ str ", +" ++ natString (names.length - 3) ++ str " more"

/-- `auditSuccessDetail`: the resource id and a summary.  A message of an unexpected type degrades to
empty strings. -/
def auditSuccessDetail (procedure : GoString) (req : AnyRequest) (resp : AnyResponse) :
    GoString × GoString :=
  if procedure = deleteImageProcedure then
    match req with
    | .deleteImage id force => (id, if force then str "image deleted (force)" else str "image deleted")
    | _ => ([], str "image deleted")
  else if procedure = pruneImagesProcedure then
    match resp with
    | .pruneImages imagesDeleted spaceReclaimed =>
      ([], str "pruned " ++ natString imagesDeleted.length ++ str " image(s), reclaimed " ++
        natString spaceReclaimed ++ str " bytes")
    | _ => ([], [])
  else if procedure = pruneBuildCacheProcedure then
    match resp with
    | .pruneBuildCache cachesDeleted spaceReclaimed =>
      ([], str "pruned " ++ natString cachesDeleted ++ str " cache record(s), reclaimed " ++
        natString spaceReclaimed ++ str " bytes")
    | _ => ([], [])
  else if procedure = pruneBuildCacheRecordProcedure then
    let detail :=
      match resp with
      | .pruneBuildCacheRecord cachesDeleted _ =>
        str "pruned " ++ natString cachesDeleted ++ str " record(s)"
      | _ => []
    match req with
    | .pruneBuildCacheRecord id => (id, detail)
    | _ => ([], detail)
  else if procedure = pruneVolumesProcedure then
    match resp with
    | .pruneVolumes volumesDeleted names spaceReclaimed =>
      ([], str "pruned " ++ natString volumesDeleted ++ str " volume(s) (" ++ truncateNames names ++
        str "), reclaimed " ++ natString spaceReclaimed ++ str " bytes")
    | _ => ([], [])
  else if procedure = deleteNetworkProcedure then
    match req with
    | .deleteNetwork id => (id, str "network deleted")
    | _ => ([], str "network deleted")
  else if procedure = pruneNetworksProcedure then
    match resp with
    | .pruneNetworks networksDeleted names =>
      ([], str "pruned " ++ natString networksDeleted ++ str " network(s) (" ++ truncateNames names ++
        str ")")
    | _ => ([], [])
  else if procedure = startContainerProcedure ∨ procedure = stopContainerProcedure then
    let id :=
      match req with
      | .startContainer id => id
      | .stopContainer id => id
      | _ => []
    let detail :=
      match resp with
      | .startContainer _ previousState _ => str "previous state: " ++ previousState
      | .stopContainer _ previousState _ => str "previous state: " ++ previousState
      | _ => []
    (id, detail)
  else if procedure = setContainerAutoUpdateProcedure then
    match req with
    | .setContainerAutoUpdate id autoUpdate =>
      (id, if autoUpdate then str "auto-update enabled" else str "auto-update disabled")
    | _ => ([], str "auto-update toggled")
  else if procedure = checkContainerUpdatesProcedure then
    let detail :=
      match resp with
      | .checkContainerUpdates _ updateAvailable latestImageDigest =>
        if updateAvailable then str "update available: " ++ latestImageDigest
        else str "container up to date"
      | _ => []
    match req with
    | .checkContainerUpdates id => (id, detail)
    | _ => ([], detail)
  else if procedure = updateSettingsProcedure then ([], str "settings updated")
  else if procedure = testGotifyNotificationProcedure then ([], str "notification test succeeded")
  else ([], [])

/-- `recordDenied`: the entries it passes to the auditor. -/
def recordDenied (i : Interceptor) (procedure : GoString) (u : User) : List Entry :=
  match getAuditSpec procedure with
  | none => []
  | some spec =>
    if i.auditor then
      [{ actor := u.username, actorRole := u.role, source := .user, action := spec.action,
         resourceType := spec.resourceType, resourceID := [], outcome := .denied,
         detail := str "admin role required" }]
    else []

/-- `recordOutcome`: the entries it passes to the auditor. -/
def recordOutcome (i : Interceptor) (procedure : GoString) (req : AnyRequest)
    (result : Except ConnectError AnyResponse) (u : User) : List Entry :=
  match getAuditSpec procedure with
  | none => []
  | some spec =>
    if i.auditor then
      match result with
      | .error err =>
        [{ actor := u.username, actorRole := u.role, source := .user, action := spec.action,
           resourceType := spec.resourceType, resourceID := [], outcome := .failure,
           detail := err.message }]
      | .ok resp =>
        let summary := auditSuccessDetail procedure req resp
        [{ actor := u.username, actorRole := u.role, source := .user, action := spec.action,
           resourceType := spec.resourceType, resourceID := summary.1, outcome := .success,
           detail := summary.2 }]
    else []

/-! ## The wrappers -/

/-- What a handler does: the store it leaves, its response or error, the `Set-Cookie` header of the
response, and the audit entries it writes itself. -/
structure HandlerRun (ρ : Type) where
  store : Store
  result : Except ConnectError ρ
  setCookie : Option SetCookie
  entries : List Entry

/-- What a wrapped request does.  `invoked` is the context the handler was called with, if it was. -/
structure Served (ρ : Type) where
  store : Store
  invoked : Option Ctx
  result : Except ConnectError ρ
  setCookie : Option SetCookie
  entries : List Entry

/-- The role of the user in the context; `UserFromContext` yields a zero user when there is none. -/
def roleOf (ctx : Ctx) : GoString :=
  match ctx.user with
  | some u => u.role
  | none => []

/-- `WrapUnary`. -/
def wrapUnary (i : Interceptor) (faults : Faults) (next : Store → Ctx → HandlerRun AnyResponse)
    (store : Store) (now : Int) (ctx : Ctx) (procedure cookieHeader : GoString) (req : AnyRequest) :
    Served AnyResponse :=
  let invoke (store : Store) (authCtx : Ctx) : Served AnyResponse :=
    let run := next store authCtx
    { store := run.store
      invoked := some authCtx
      result := run.result
      setCookie := run.setCookie
      entries := run.entries ++
        match authCtx.user with
        | some u => recordOutcome i procedure req run.result u
        | none => [] }
  match getProcedureRole procedure with
  | none =>
    ⟨store, none, .error (newError .internal "procedure is not registered in access control matrix"),
      none, []⟩
  | some .unauthenticated =>
    if parseSessionCookie cookieHeader ≠ [] then
      match authenticate i faults store now ctx cookieHeader with
      | (store, .ok authCtx) => invoke store authCtx
      | (store, .error _) => invoke store ctx
    else invoke store ctx
  | some requiredRole =>
    match authenticate i faults store now ctx cookieHeader with
    | (store, .error err) => ⟨store, none, .error err, none, []⟩
    | (store, .ok authCtx) =>
      if requiredRole = .admin ∧ roleOf authCtx ≠ adminRole then
        { store := store
          invoked := none
          result := .error (newError .permissionDenied "admin role required")
          setCookie := none
          entries :=
            match authCtx.user with
            | some u => recordDenied i procedure u
            | none => recordDenied i procedure ⟨0, [], [], []⟩ }
      else invoke store authCtx

/-- `WrapStreamingHandler`; it records nothing. -/
def wrapStreamingHandler (i : Interceptor) (faults : Faults) (next : Store → Ctx → HandlerRun Unit)
    (store : Store) (now : Int) (ctx : Ctx) (procedure cookieHeader : GoString) : Served Unit :=
  let invoke (store : Store) (authCtx : Ctx) : Served Unit :=
    let run := next store authCtx
    ⟨run.store, some authCtx, run.result, run.setCookie, run.entries⟩
  match getProcedureRole procedure with
  | none =>
    ⟨store, none, .error (newError .internal "procedure is not registered in access control matrix"),
      none, []⟩
  | some .unauthenticated =>
    if parseSessionCookie cookieHeader ≠ [] then
      match authenticate i faults store now ctx cookieHeader with
      | (store, .ok authCtx) => invoke store authCtx
      | (store, .error _) => invoke store ctx
    else invoke store ctx
  | some requiredRole =>
    match authenticate i faults store now ctx cookieHeader with
    | (store, .error err) => ⟨store, none, .error err, none, []⟩
    | (store, .ok authCtx) =>
      if requiredRole = .admin ∧ roleOf authCtx ≠ adminRole then
        ⟨store, none, .error (newError .permissionDenied "admin role required"), none, []⟩
      else invoke store authCtx

/-- The handler of a stream that does to the store what a unary handler does. -/
def streamOf (next : Store → Ctx → HandlerRun AnyResponse) (store : Store) (ctx : Ctx) :
    HandlerRun Unit where
  store := (next store ctx).store
  result := (next store ctx).result.map fun _ => ()
  setCookie := (next store ctx).setCookie
  entries := (next store ctx).entries

/-! ## The decision -/

/-- The decision both wrappers come to, with the store `authenticate` leaves: the context to call the
handler with, or the error to return without calling it. -/
def decideAccess (i : Interceptor) (faults : Faults) (store : Store) (now : Int) (ctx : Ctx)
    (procedure cookieHeader : GoString) : Store × Except ConnectError Ctx :=
  let auth := authenticate i faults store now ctx cookieHeader
  match getProcedureRole procedure with
  | none =>
    (store, .error (newError .internal "procedure is not registered in access control matrix"))
  | some .unauthenticated => (auth.1, .ok (auth.2.toOption.getD ctx))
  | some requiredRole =>
    match auth.2 with
    | .error err => (auth.1, .error err)
    | .ok authCtx =>
      if requiredRole = .admin ∧ roleOf authCtx ≠ adminRole then
        (auth.1, .error (newError .permissionDenied "admin role required"))
      else (auth.1, .ok authCtx)

variable {i : Interceptor} {faults : Faults} {store : Store} {now : Int} {ctx : Ctx}
variable {procedure cookieHeader : GoString} {req : AnyRequest}

theorem authenticate_of_no_cookie (hcookie : parseSessionCookie cookieHeader = []) :
    authenticate i faults store now ctx cookieHeader =
      (store, .error (newError .unauthenticated "unauthenticated")) := by
  simp [authenticate, hcookie]

/-- Without a cookie a wrapper does not call `authenticate`, which would have refused: either way it goes on with the
context of the request. -/
theorem invoke_unauthenticated {β : Type} (invoke : Store → Ctx → β) :
    (if parseSessionCookie cookieHeader ≠ [] then
        match authenticate i faults store now ctx cookieHeader with
        | (store, .ok authCtx) => invoke store authCtx
        | (store, .error _) => invoke store ctx
      else invoke store ctx) =
      invoke (authenticate i faults store now ctx cookieHeader).1
        ((authenticate i faults store now ctx cookieHeader).2.toOption.getD ctx) := by
  split
  · rcases authenticate i faults store now ctx cookieHeader with ⟨store', err | authCtx⟩
    · rfl
    · rfl
  · rename_i hcookie
    rw [authenticate_of_no_cookie (not_not.mp hcookie)]
    rfl

/-- The entry for a denied request: `WrapUnary` records one before it refuses a user without the role. -/
def denialEntries (i : Interceptor) (procedure : GoString) (auth : Except ConnectError Ctx) :
    List Entry :=
  match getProcedureRole procedure, auth with
  | some .admin, .ok authCtx =>
    match authCtx.user with
    | some u => recordDenied i procedure u
    | none => recordDenied i procedure ⟨0, [], [], []⟩
  | _, _ => []

/-- `WrapUnary` follows the decision. -/
theorem wrapUnary_eq (next : Store → Ctx → HandlerRun AnyResponse) :
    wrapUnary i faults next store now ctx procedure cookieHeader req =
      match decideAccess i faults store now ctx procedure cookieHeader with
      | (store', .ok authCtx) =>
        { store := (next store' authCtx).store
          invoked := some authCtx
          result := (next store' authCtx).result
          setCookie := (next store' authCtx).setCookie
          entries := (next store' authCtx).entries ++
            match authCtx.user with
            | some u => recordOutcome i procedure req (next store' authCtx).result u
            | none => [] }
      | (store', .error err) =>
        { store := store'
          invoked := none
          result := .error err
          setCookie := none
          entries := denialEntries i procedure
            (authenticate i faults store now ctx cookieHeader).2 } := by
  unfold wrapUnary decideAccess denialEntries
  cases hrole : getProcedureRole procedure with
  | none => rfl
  | some role =>
      cases role with
      | unauthenticated => exact invoke_unauthenticated _
      | viewer =>
          rcases authenticate i faults store now ctx cookieHeader with ⟨store', err | authCtx⟩
          · rfl
          · simp
      | admin =>
          rcases authenticate i faults store now ctx cookieHeader with ⟨store', err | authCtx⟩
          · rfl
          · by_cases hadmin : roleOf authCtx = adminRole
            · simp [hadmin]
            · simp [hadmin]

/-- `WrapStreamingHandler` follows the same decision. -/
theorem wrapStreamingHandler_eq (next : Store → Ctx → HandlerRun Unit) :
    wrapStreamingHandler i faults next store now ctx procedure cookieHeader =
      match decideAccess i faults store now ctx procedure cookieHeader with
      | (store', .ok authCtx) =>
        ⟨(next store' authCtx).store, some authCtx, (next store' authCtx).result,
          (next store' authCtx).setCookie, (next store' authCtx).entries⟩
      | (store', .error err) => ⟨store', none, .error err, none, []⟩ := by
  unfold wrapStreamingHandler decideAccess
  cases hrole : getProcedureRole procedure with
  | none => rfl
  | some role =>
      cases role with
      | unauthenticated => exact invoke_unauthenticated _
      | viewer =>
          rcases authenticate i faults store now ctx cookieHeader with ⟨store', err | authCtx⟩
          · rfl
          · simp
      | admin =>
          rcases authenticate i faults store now ctx cookieHeader with ⟨store', err | authCtx⟩
          · rfl
          · by_cases hadmin : roleOf authCtx = adminRole
            · simp [hadmin]
            · simp [hadmin]

theorem decideAccess_of_unregistered (hrole : getProcedureRole procedure = none) :
    decideAccess i faults store now ctx procedure cookieHeader =
      (store, .error (newError .internal "procedure is not registered in access control matrix")) := by
  simp [decideAccess, hrole]

theorem decideAccess_of_unauthenticated (hrole : getProcedureRole procedure = some .unauthenticated) :
    decideAccess i faults store now ctx procedure cookieHeader =
      ((authenticate i faults store now ctx cookieHeader).1,
        .ok ((authenticate i faults store now ctx cookieHeader).2.toOption.getD ctx)) := by
  simp [decideAccess, hrole]

theorem decideAccess_of_viewer (hrole : getProcedureRole procedure = some .viewer) :
    decideAccess i faults store now ctx procedure cookieHeader =
      authenticate i faults store now ctx cookieHeader := by
  unfold decideAccess
  rw [hrole]
  rcases authenticate i faults store now ctx cookieHeader with ⟨store', err | authCtx⟩
  · rfl
  · simp

theorem decideAccess_of_admin (hrole : getProcedureRole procedure = some .admin) :
    decideAccess i faults store now ctx procedure cookieHeader =
      ((authenticate i faults store now ctx cookieHeader).1,
        (authenticate i faults store now ctx cookieHeader).2.bind fun authCtx =>
          if roleOf authCtx = adminRole then .ok authCtx
          else .error (newError .permissionDenied "admin role required")) := by
  unfold decideAccess
  rw [hrole]
  rcases authenticate i faults store now ctx cookieHeader with ⟨store', err | authCtx⟩
  · rfl
  · by_cases hadmin : roleOf authCtx = adminRole
    · simp [hadmin, Except.bind]
    · simp [hadmin, Except.bind]

/-- A request is admitted exactly when its procedure is public, or `authenticate` succeeds and the role is
sufficient. -/
theorem decideAccess_ok_iff :
    (∃ authCtx, (decideAccess i faults store now ctx procedure cookieHeader).2 = .ok authCtx) ↔
      ∃ role, getProcedureRole procedure = some role ∧
        (role = .unauthenticated ∨
          ∃ authCtx, (authenticate i faults store now ctx cookieHeader).2 = .ok authCtx ∧
            (role = .viewer ∨ roleOf authCtx = adminRole)) := by
  cases hrole : getProcedureRole procedure with
  | none =>
      rw [decideAccess_of_unregistered hrole]
      simp
  | some role =>
      cases role with
      | unauthenticated =>
          rw [decideAccess_of_unauthenticated hrole]
          simp
      | viewer =>
          rw [decideAccess_of_viewer hrole]
          simp
      | admin =>
          rw [decideAccess_of_admin hrole]
          cases (authenticate i faults store now ctx cookieHeader).2 with
          | error err => simp [Except.bind]
          | ok authCtx =>
              by_cases hadmin : roleOf authCtx = adminRole
              · simp [Except.bind, hadmin]
              · simp [Except.bind, hadmin]

/-- The context of an admitted request is the one `authenticate` made, if it succeeded, and the incoming
one otherwise. -/
theorem decideAccess_ctx {authCtx : Ctx}
    (hadmitted : (decideAccess i faults store now ctx procedure cookieHeader).2 = .ok authCtx) :
    authCtx = (authenticate i faults store now ctx cookieHeader).2.toOption.getD ctx := by
  cases hrole : getProcedureRole procedure with
  | none =>
      rw [decideAccess_of_unregistered hrole] at hadmitted
      cases hadmitted
  | some role =>
      cases role with
      | unauthenticated =>
          rw [decideAccess_of_unauthenticated hrole] at hadmitted
          cases hadmitted
          rfl
      | viewer =>
          rw [decideAccess_of_viewer hrole] at hadmitted
          rw [hadmitted]
          rfl
      | admin =>
          rw [decideAccess_of_admin hrole] at hadmitted
          cases hauth : (authenticate i faults store now ctx cookieHeader).2 with
          | error err =>
              rw [hauth] at hadmitted
              cases hadmitted
          | ok authCtx' =>
              rw [hauth] at hadmitted
              simp only [Except.bind] at hadmitted
              split at hadmitted
              · cases hadmitted
                rfl
              · cases hadmitted

/-- The store of a registered procedure is the one `authenticate` leaves. -/
theorem decideAccess_store (hrole : getProcedureRole procedure ≠ none) :
    (decideAccess i faults store now ctx procedure cookieHeader).1 =
      (authenticate i faults store now ctx cookieHeader).1 := by
  obtain ⟨role, hsome⟩ := Option.ne_none_iff_exists'.mp hrole
  cases role with
  | unauthenticated => rw [decideAccess_of_unauthenticated hsome]
  | viewer => rw [decideAccess_of_viewer hsome]
  | admin => rw [decideAccess_of_admin hsome]

/-- The handler is invoked with the context of the decision, if there is one. -/
theorem wrapUnary_invoked (next : Store → Ctx → HandlerRun AnyResponse) :
    (wrapUnary i faults next store now ctx procedure cookieHeader req).invoked =
      (decideAccess i faults store now ctx procedure cookieHeader).2.toOption := by
  rw [wrapUnary_eq]
  rcases decideAccess i faults store now ctx procedure cookieHeader with ⟨store', err | authCtx⟩
  · rfl
  · rfl

theorem toOption_eq_some_iff {ε α : Type} {result : Except ε α} {a : α} :
    result.toOption = some a ↔ result = .ok a := by
  cases result with
  | error err => simp [Except.toOption]
  | ok b => simp [Except.toOption]

/-- The role in the context that `authenticate` makes is that of the owner of the row. -/
theorem authenticate_role_iff {P : GoString → Prop} :
    (∃ authCtx, (authenticate i faults store now ctx cookieHeader).2 = .ok authCtx ∧ P (roleOf authCtx)) ↔
      ∃ authCtx session owner, (authenticate i faults store now ctx cookieHeader).2 = .ok authCtx ∧
        Sessions.getSession store.sessions (parseSessionCookie cookieHeader) = some session ∧
        store.users.getUser session.userID = some owner ∧ P owner.role := by
  constructor
  · rintro ⟨authCtx, hok, hrole⟩
    obtain ⟨session, owner, hsession, howner, -, hctx⟩ := authenticate_eq_ok hok
    refine ⟨authCtx, session, owner, hok, hsession, howner, ?_⟩
    rw [hctx] at hrole
    exact hrole
  · rintro ⟨authCtx, session, owner, hok, hsession, howner, hrole⟩
    refine ⟨authCtx, hok, ?_⟩
    obtain ⟨session', owner', hsession', howner', -, hctx⟩ := authenticate_eq_ok hok
    have hsame : session' = session := Option.some.inj (hsession'.symm.trans hsession)
    subst hsame
    have hsameOwner : owner' = owner := Option.some.inj (howner'.symm.trans howner)
    subst hsameOwner
    rw [hctx]
    exact hrole

/-- The context of an admitted request carries the owner and the id of the row that the cookie names,
exactly when `authenticate` succeeded. -/
theorem decideAccess_carries {authCtx : Ctx}
    (hadmitted : (decideAccess i faults store now Ctx.background procedure cookieHeader).2 = .ok authCtx) :
    (authCtx.user.isSome ↔
      ∃ ctx, (authenticate i faults store now Ctx.background cookieHeader).2 = .ok ctx) ∧
    (authCtx.sessionID.isSome ↔
      ∃ ctx, (authenticate i faults store now Ctx.background cookieHeader).2 = .ok ctx) ∧
    ((∃ ctx, (authenticate i faults store now Ctx.background cookieHeader).2 = .ok ctx) →
      ∃ session owner,
        Sessions.getSession store.sessions (parseSessionCookie cookieHeader) = some session ∧
        store.users.getUser session.userID = some owner ∧
        authCtx.user = some owner ∧ authCtx.sessionID = some session.sessionID) := by
  have hsource := decideAccess_ctx hadmitted
  cases hauth : (authenticate i faults store now Ctx.background cookieHeader).2 with
  | error err =>
      rw [hauth] at hsource
      rw [hsource]
      simp [Except.toOption, Ctx.background]
  | ok ctx =>
      obtain ⟨session, owner, hsession, howner, -, hshape⟩ := authenticate_eq_ok hauth
      have hid : session.sessionID = parseSessionCookie cookieHeader :=
        Sessions.sessionID_of_getSession hsession
      rw [hauth] at hsource
      rw [hsource, hshape]
      refine ⟨by simp [Except.toOption], by simp [Except.toOption], fun _ => ?_⟩
      exact ⟨session, owner, hsession, howner, rfl, congrArg some hid.symm⟩

/-- For every procedure string, cookie, database and instant.  The handler is invoked exactly when the
procedure is registered and is public, or `authenticate` succeeds and the procedure is for viewers or the
owner of the session is an admin.  The context it is invoked with carries a user and a session id exactly
when `authenticate` succeeded, namely the owner and the id of the row that the cookie names.  The two
wrappers invoke the handler with the same context or refuse with the same code, and leave the same
store. -/
theorem interceptor_decides (i : Interceptor) (faults : Faults)
    (next : Store → Ctx → HandlerRun AnyResponse) (store : Store) (now : Int)
    (procedure cookieHeader : GoString) (req : AnyRequest) :
    let auth := (authenticate i faults store now Ctx.background cookieHeader).2
    let unary := wrapUnary i faults next store now Ctx.background procedure cookieHeader req
    let streaming :=
      wrapStreamingHandler i faults (streamOf next) store now Ctx.background procedure cookieHeader
    (unary.invoked.isSome ↔
      ∃ role, getProcedureRole procedure = some role ∧
        (role = .unauthenticated ∨
          ∃ authCtx session owner, auth = .ok authCtx ∧
            Sessions.getSession store.sessions (parseSessionCookie cookieHeader) = some session ∧
            store.users.getUser session.userID = some owner ∧
            (role = .viewer ∨ owner.role = adminRole))) ∧
    (∀ ctx, unary.invoked = some ctx →
      (ctx.user.isSome ↔ ∃ authCtx, auth = .ok authCtx) ∧
      (ctx.sessionID.isSome ↔ ∃ authCtx, auth = .ok authCtx) ∧
      ((∃ authCtx, auth = .ok authCtx) →
        ∃ session owner,
          Sessions.getSession store.sessions (parseSessionCookie cookieHeader) = some session ∧
          store.users.getUser session.userID = some owner ∧
          ctx.user = some owner ∧ ctx.sessionID = some session.sessionID)) ∧
    (streaming.invoked = unary.invoked ∧ streaming.store.sessions = unary.store.sessions ∧
      (unary.invoked = none → ∃ err err', unary.result = .error err ∧ streaming.result = .error err' ∧
        err.code = err'.code)) := by
  intro auth unary streaming
  have hinvoked : unary.invoked = _ := wrapUnary_invoked next
  refine ⟨?_, ?_, ?_⟩
  · rw [hinvoked, Option.isSome_iff_exists]
    simp only [toOption_eq_some_iff]
    rw [decideAccess_ok_iff]
    refine exists_congr fun role => and_congr_right fun _ => or_congr_right ?_
    exact authenticate_role_iff (P := fun ownerRole => role = .viewer ∨ ownerRole = adminRole)
  · intro ctx hctx
    rw [hinvoked, toOption_eq_some_iff] at hctx
    exact decideAccess_carries hctx
  · have hunary : unary = _ := wrapUnary_eq next
    have hstreaming : streaming = _ := wrapStreamingHandler_eq (streamOf next)
    rw [hunary, hstreaming]
    rcases decideAccess i faults store now Ctx.background procedure cookieHeader with
      ⟨store', err | authCtx⟩
    · exact ⟨rfl, rfl, fun _ => ⟨err, err, rfl, rfl, rfl⟩⟩
    · refine ⟨rfl, rfl, fun hnone => ?_⟩
      cases hnone

end Auth
end Dmanager
