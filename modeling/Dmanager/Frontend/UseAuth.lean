import Dmanager.Auth.SetupAdmin
import Dmanager.Lib.TransitionSystem

/-!
# The shell of the console

`AuthProvider` of `useAuth.tsx`, the guards of `router.tsx`, `AppContent` of `App.tsx` and the two forms `Login` and
`Setup`, as one page that talks to the server: which page is shown, what it knows of the server, and what the forms say.

While an operation of the provider runs, `AppContent` shows a spinner in place of the router, so the form from which
the operation was begun is unmounted; when the operation is over a new one is mounted, with a state of its own.  A state
that is set on a form that is no longer mounted is lost.

The server is the users table with the `SetupAdmin` requests of all clients (`Dmanager.Auth.SetupAdmin`).  A login, a
passkey ceremony or `GetMe` succeeds for a user of the table or fails in any way.  What the fields of a form contain is
left out, except that a submit stands for one whose fields pass the form's own check.

The URLs are those of the nine routes, and the page is that of the production build: in development `StrictMode` mounts
the provider twice and so runs `checkAuth` twice.
-/

namespace Dmanager
namespace Frontend
namespace Shell

open Go Db Lib
open Auth (SetupAdmin.State SetupAdmin.Env SetupAdmin.SetupAdminRequest)

/-! ## The provider -/

/-- `User` of the provider. -/
structure ShellUser where
  username : GoString
  role : GoString
  deriving DecidableEq, Repr

structure ServerInfo where
  version : GoString
  commit : GoString
  buildDate : GoString
  deriving DecidableEq, Repr

/-- What `useAuth` hands out, without the operations. -/
structure AuthContext where
  user : Option ShellUser
  isAuthenticated : Bool
  isLoading : Bool
  needsSetup : Bool
  passkeyLoginEnabled : Bool
  serverInfo : Option ServerInfo
  deriving DecidableEq, Repr

/-- `dmanager_user`, and whether `dmanager_token` is there. -/
structure LocalStorage where
  user : Option ShellUser
  token : Bool
  deriving DecidableEq, Repr

/-- The initial state of the provider. -/
def AuthContext.initial (storage : LocalStorage) : AuthContext where
  user := storage.user
  isAuthenticated := storage.token
  isLoading := true
  needsSetup := false
  passkeyLoginEnabled := false
  serverInfo := none

/-- `GetServerStatusResponse`, the fields that the provider reads. -/
structure ServerStatus where
  needsSetup : Bool
  passkeyLoginEnabled : Bool
  info : ServerInfo
  deriving DecidableEq, Repr

/-- `GetServerStatus`. -/
def getServerStatus (users : Users) (webauthn : Bool) (info : ServerInfo) : ServerStatus :=
  ⟨decide (users.countUsers = 0), webauthn, info⟩

/-! ## The router -/

/-- The nine routes; a URL that is none of them is not considered. -/
inductive Path where
  | dashboard
  | login
  | setup
  | logs
  | auditLogs
  | administration
  | administrationTab (tab : GoString)
  | settings
  | settingsTab (tab : GoString)
  deriving DecidableEq, Repr

def administrationTabs : List GoString := [str "images", str "builder", str "volumes", str "networks"]

def settingsTabs : List GoString := [str "general", str "security"]

/-- The two checks that most routes begin with. -/
def protect (auth : AuthContext) (otherwise : Option Path) : Option Path :=
  if auth.needsSetup then some .setup else if ¬ auth.isAuthenticated then some .login else otherwise

/-- `beforeLoad` of each route: where it redirects to, if it does. -/
def beforeLoad (auth : AuthContext) : Path → Option Path
  | .dashboard => protect auth none
  | .login => if auth.needsSetup then some .setup else if auth.isAuthenticated then some .dashboard else none
  | .setup =>
      if ¬ auth.needsSetup then if auth.isAuthenticated then some .dashboard else some .login else none
  | .logs => protect auth none
  | .auditLogs => protect auth (if auth.user.map ShellUser.role ≠ some (str "admin") then some .dashboard else none)
  | .administration => protect auth (some (.administrationTab (str "images")))
  | .administrationTab tab =>
      protect auth (if tab ∉ administrationTabs then some (.administrationTab (str "images")) else none)
  | .settings => protect auth (some (.settingsTab (str "general")))
  | .settingsTab tab => protect auth (if tab ∉ settingsTabs then some (.settingsTab (str "general")) else none)

/-- Follow the redirects, for at most `fuel` routes. -/
def follow (auth : AuthContext) : Nat → Path → Option Path
  | 0, _ => none
  | fuel + 1, path =>
      match beforeLoad auth path with
      | none => some path
      | some target => follow auth fuel target

/-! ## The page -/

inductive FormKind where
  | login
  | setup
  deriving DecidableEq, Repr

/-- A mounted `Login` or `Setup`. -/
structure Form where
  kind : FormKind
  id : Nat
  error : Option GoString
  deriving DecidableEq, Repr

/-- The form that a route shows; `none` is a page inside `DashboardLayout`. -/
def Path.form? : Path → Option FormKind
  | .login => some .login
  | .setup => some .setup
  | _ => none

/-- The await at which an operation of the provider stands, with the form that has begun it. -/
inductive Await where
  | checkStatus
  | checkMe
  | login (form : Nat)
  | passkeyBegin (form : Nat)
  | passkeyGet (form : Nat)
  | passkeyFinish (form : Nat)
  | setupAdmin (form request : Nat)
  | setupLogin (form : Nat)
  | logout
  | logoutStatus
  deriving DecidableEq, Repr

/-- What an await comes back with.  A status carries the table it was read from, which no code looks at. -/
inductive Reply where
  | status (status : ServerStatus) (seen : List User)
  | user (user : ShellUser)
  | done
  | failed (unauthenticated : Bool) (message : GoString)
  deriving DecidableEq, Repr

/-- An operation that runs, with the reply if it is there. -/
structure Operation where
  await : Await
  reply : Option Reply
  deriving DecidableEq, Repr

/-- The page, the storage of its origin, and the server.  `effectDue` is the effect of `AppContent` that invalidates
the router; `lastStatus` is the table that the last status was read from. -/
structure Page where
  auth : AuthContext
  storage : LocalStorage
  operation : Option Operation
  url : Path
  route : Option Path
  effectDue : Bool
  form : Option Form
  nextForm : Nat
  lastStatus : Option (List User)
  server : SetupAdmin.State

namespace Page

/-- A page that has been loaded: the provider has called `checkAuth`. -/
def load (storage : LocalStorage) (url : Path) (nextForm : Nat) (server : SetupAdmin.State) : Page where
  auth := .initial storage
  storage := storage
  operation := some ⟨.checkStatus, none⟩
  url := url
  route := none
  effectDue := false
  form := none
  nextForm := nextForm
  lastStatus := none
  server := server

/-- What is mounted: nothing below the spinner, and else the form of the route, the same one as long as it is shown. -/
def render (s : Page) : Page :=
  if s.auth.isLoading then { s with form := none }
  else
    match s.route.bind Path.form? with
    | none => { s with form := none }
    | some kind =>
        match s.form with
        | some form =>
            if form.kind = kind then s
            else { s with form := some ⟨kind, s.nextForm, none⟩, nextForm := s.nextForm + 1 }
        | none => { s with form := some ⟨kind, s.nextForm, none⟩, nextForm := s.nextForm + 1 }

/-- `setError` of a form, which is lost if the form is not mounted. -/
def setError (s : Page) (form : Nat) (message : GoString) : Page :=
  match s.form with
  | some mounted => if mounted.id = form then { s with form := some { mounted with error := some message } } else s
  | none => s

/-- An operation is begun: the provider is loading, and the router is unmounted. -/
def begin (s : Page) (await : Await) : Page :=
  render { s with auth := { s.auth with isLoading := true }, operation := some ⟨await, none⟩ }

/-- The operation goes on to its next await. -/
def goOn (s : Page) (await : Await) : Page := { s with operation := some ⟨await, none⟩ }

/-- The operation is over: the router is mounted again, and the effect will invalidate it. -/
def finish (s : Page) : Page :=
  render { s with auth := { s.auth with isLoading := false }, operation := none, effectDue := true }

def signIn (s : Page) (user : ShellUser) : Page :=
  { s with
    auth := { s.auth with user := some user, isAuthenticated := true }
    storage := ⟨some user, true⟩ }

def signOut (s : Page) : Page :=
  { s with
    auth := { s.auth with user := none, isAuthenticated := false }
    storage := ⟨none, false⟩ }

def setNeedsSetup (s : Page) (needsSetup : Bool) : Page := { s with auth := { s.auth with needsSetup := needsSetup } }

/-- A status is taken over. -/
def setStatus (s : Page) (status : ServerStatus) (seen : List User) : Page :=
  { s with
    auth :=
      { s.auth with
        needsSetup := status.needsSetup
        passkeyLoginEnabled := status.passkeyLoginEnabled
        serverInfo := some status.info }
    lastStatus := some seen }

/-- The `catch` of the three ways to log in, and that of the form after it. -/
def reject (s : Page) (form : Nat) (message : GoString) : Page := (s.signOut.finish).setError form message

/-- The code after an await. -/
def settle (s : Page) : Await → Reply → Option Page
  -- `checkAuth`
  | .checkStatus, .status status seen => some ((s.setStatus status seen).goOn .checkMe)
  | .checkStatus, .failed _ _ => some (s.goOn .checkMe)
  | .checkMe, .user user =>
      some (((if user.username ≠ [] then s.signIn user else s).setNeedsSetup false).finish)
  | .checkMe, .failed unauthenticated _ => some ((if unauthenticated then s.signOut else s).finish)
  -- `login`
  | .login _, .user user => some (((s.signIn user).setNeedsSetup false).finish)
  | .login form, .failed _ message => some (s.reject form message)
  -- `loginWithPasskey`
  | .passkeyBegin form, .done => some (s.goOn (.passkeyGet form))
  | .passkeyBegin form, .failed _ message => some (s.reject form message)
  | .passkeyGet form, .done => some (s.goOn (.passkeyFinish form))
  | .passkeyGet form, .failed _ message => some (s.reject form message)
  | .passkeyFinish _, .user user => some (((s.signIn user).setNeedsSetup false).finish)
  | .passkeyFinish form, .failed _ message => some (s.reject form message)
  -- `setupAdmin`
  | .setupAdmin form _, .done => some ((s.setNeedsSetup false).goOn (.setupLogin form))
  | .setupAdmin form _, .failed _ message => some (s.reject form message)
  | .setupLogin _, .user user => some ((s.signIn user).finish)
  | .setupLogin form, .failed _ message => some (s.reject form message)
  -- `logout`
  | .logout, .done => some (s.signOut.goOn .logoutStatus)
  | .logout, .failed _ _ => some (s.signOut.goOn .logoutStatus)
  | .logoutStatus, .status status seen => some ((s.setStatus status seen).finish)
  | .logoutStatus, .failed _ _ => some s.finish
  | _, _ => none

/-- The router goes to a route and follows its redirects. -/
def navigate (s : Page) (path : Path) : Option Page :=
  (follow s.auth 3 path).map fun target => render { s with url := target, route := some target }

/-- A reply arrives. -/
def answer (s : Page) (reply : Reply) : Page :=
  { s with operation := s.operation.map fun operation => { operation with reply := some reply } }

end Page

/-- What the user does, what becomes of calls, and what the server does for any client. -/
inductive ShellLabel where
  -- the forms and the layout, which are there while nothing is loading
  | submitLogin
  | submitPasskey
  | submitSetup (request : Nat)
  | clickLogout
  -- the router
  | navigate (path : Path)
  | invalidate
  -- replies: a status, a user, anything else that is well, a failure
  | answerStatus (webauthn : Bool) (info : ServerInfo)
  | answerUser (user : User)
  | answerSetup
  | answerDone
  | fail (unauthenticated : Bool) (message : GoString)
  | settle
  -- a new page, other tabs, and the requests of all clients
  | reload (url : Path)
  | otherTab (storage : LocalStorage)
  | serve (label : Auth.SetupAdmin.Label)

/-- The await for which no reply is there yet. -/
def Page.waiting (s : Page) : Option Await :=
  s.operation.bind fun operation => if operation.reply.isNone then some operation.await else none

/-- One step. -/
def shellStep (env : SetupAdmin.Env) (reqs : Nat → SetupAdmin.SetupAdminRequest) (s : Page) :
    ShellLabel → Option Page
  | .submitLogin =>
      match s.form with
      | some ⟨.login, id, _⟩ => some (s.begin (.login id))
      | _ => none
  | .submitPasskey =>
      match s.form with
      | some ⟨.login, id, _⟩ => if s.auth.passkeyLoginEnabled then some (s.begin (.passkeyBegin id)) else none
      | _ => none
  | .submitSetup request =>
      match s.form, s.server.phase request with
      | some ⟨.setup, id, _⟩, .pending => some (s.begin (.setupAdmin id request))
      | _, _ => none
  | .clickLogout =>
      if ¬ s.auth.isLoading ∧ s.route.isSome ∧ s.route.bind Path.form? = none then some (s.begin .logout) else none
  | .navigate path => if s.auth.isLoading then none else s.navigate path
  | .invalidate =>
      if s.effectDue ∧ ¬ s.auth.isLoading then Page.navigate { s with effectDue := false } s.url else none
  | .answerStatus webauthn info =>
      match s.waiting with
      | some .checkStatus =>
          some (s.answer (.status (getServerStatus s.server.users webauthn info) s.server.users.rows))
      | some .logoutStatus =>
          some (s.answer (.status (getServerStatus s.server.users webauthn info) s.server.users.rows))
      | _ => none
  | .answerUser user =>
      if user ∈ s.server.users.rows then
        match s.waiting with
        | some .checkMe => some (s.answer (.user ⟨user.username, user.role⟩))
        | some (.login _) => some (s.answer (.user ⟨user.username, user.role⟩))
        | some (.passkeyFinish _) => some (s.answer (.user ⟨user.username, user.role⟩))
        | some (.setupLogin _) => some (s.answer (.user ⟨user.username, user.role⟩))
        | _ => none
      else none
  | .answerSetup =>
      match s.waiting with
      | some (.setupAdmin _ request) =>
          match s.server.phase request with
          | .done (.ok _) => some (s.answer .done)
          | .done (.error err) => some (s.answer (.failed false err.message))
          | _ => none
      | _ => none
  | .answerDone =>
      match s.waiting with
      | some (.passkeyBegin _) => some (s.answer .done)
      | some (.passkeyGet _) => some (s.answer .done)
      | some .logout => some (s.answer .done)
      | _ => none
  | .fail unauthenticated message =>
      match s.waiting with
      | some _ => some (s.answer (.failed unauthenticated message))
      | none => none
  | .settle =>
      match s.operation with
      | some ⟨await, some reply⟩ => s.settle await reply
      | _ => none
  | .reload url => some (Page.load s.storage url s.nextForm s.server)
  | .otherTab storage => some { s with storage := storage }
  | .serve label => (Auth.SetupAdmin.step env reqs s.server label).map fun server => { s with server := server }

end Shell
end Frontend
end Dmanager
