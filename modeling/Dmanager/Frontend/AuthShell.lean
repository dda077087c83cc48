import Dmanager.Frontend.UseAuth

/-!
# What the shell knows and what it shows

Runs of the page of `Dmanager.Frontend.UseAuth`, on its nine routes and in the production build, with the setup
requests of all clients.

* `follow_settles` — where the redirects of the router end.
* `settle_cases` — all that the code after an await can do.
* `shell_agrees` — which page is shown, and what that says of the server.
* `formError_unseen` — no form ever shows why a login or a setup has failed.
* `setup_stuck` — a page for the first setup stays, once someone else has done it.
-/

namespace Dmanager
namespace Frontend
namespace Shell

open Go Db Lib
open Auth (SetupAdmin.State SetupAdmin.Env SetupAdmin.SetupAdminRequest)

variable {env : SetupAdmin.Env} {reqs : Nat → SetupAdmin.SetupAdminRequest} {s t next : Page} {auth : AuthContext}

/-! ## Redirects -/

/-- The route that is shown, when all redirects have been followed. -/
structure Settled (auth : AuthContext) (path : Path) : Prop where
  stays : beforeLoad auth path = none
  setup_iff : path = .setup ↔ auth.needsSetup = true
  login_iff : path = .login ↔ auth.needsSetup = false ∧ auth.isAuthenticated = false

/-- A route that does not redirect is the right one. -/
theorem settled_of_stays {path : Path} (hstays : beforeLoad auth path = none) : Settled auth path := by
  refine ⟨hstays, ?_, ?_⟩ <;> cases path <;> cases hsetup : auth.needsSetup <;> cases hin : auth.isAuthenticated <;>
    simp_all [beforeLoad, protect]

/-- One redirect leads to a route that does not redirect. -/
theorem beforeLoad_beforeLoad {path target : Path} (hredirect : beforeLoad auth path = some target) :
    beforeLoad auth target = none := by
  cases hsetup : auth.needsSetup with
  | true =>
      have htarget : target = .setup := by
        cases path <;> simp_all [beforeLoad, protect]
      rw [htarget]
      simp [beforeLoad, hsetup]
  | false =>
      cases hin : auth.isAuthenticated with
      | false =>
          have htarget : target = .login := by
            cases path <;> simp_all [beforeLoad, protect]
          rw [htarget]
          simp [beforeLoad, hsetup, hin]
      | true =>
          have htarget : target = .dashboard ∨ target = .administrationTab (str "images") ∨
              target = .settingsTab (str "general") := by
            cases path <;> simp_all [beforeLoad, protect]
          rcases htarget with rfl | rfl | rfl <;>
            simp [beforeLoad, protect, hsetup, hin, administrationTabs, settingsTabs]

theorem follow_settles (auth : AuthContext) (path : Path) :
    ∃ target, follow auth 3 path = some target ∧ Settled auth target := by
  cases hpath : beforeLoad auth path with
  | none => exact ⟨path, by simp [follow, hpath], settled_of_stays hpath⟩
  | some target =>
      have hstays := beforeLoad_beforeLoad hpath
      exact ⟨target, by simp [follow, hpath, hstays], settled_of_stays hstays⟩

/-! ## Operations on the page -/

namespace Page

/-- Rendering changes the mounted form and nothing else. -/
theorem render_cases (s : Page) :
    (s.auth.isLoading = true ∧ s.render = { s with form := none }) ∨
      (s.auth.isLoading = false ∧
        ((s.route.bind Path.form? = none ∧ s.render = { s with form := none }) ∨
          ∃ kind, s.route.bind Path.form? = some kind ∧
            ((s.render = s ∧ ∃ form, s.form = some form ∧ form.kind = kind) ∨
              s.render = { s with form := some ⟨kind, s.nextForm, none⟩, nextForm := s.nextForm + 1 }))) := by
  unfold render
  cases hloading : s.auth.isLoading with
  | true => exact Or.inl ⟨rfl, if_pos rfl⟩
  | false =>
      refine Or.inr ⟨rfl, ?_⟩
      rw [if_neg Bool.false_ne_true]
      cases hkind : s.route.bind Path.form? with
      | none => exact Or.inl ⟨rfl, rfl⟩
      | some kind =>
          refine Or.inr ⟨kind, rfl, ?_⟩
          cases hform : s.form with
          | none => exact Or.inr rfl
          | some form =>
              by_cases hsame : form.kind = kind
              · exact Or.inl ⟨if_pos hsame, form, rfl, hsame⟩
              · exact Or.inr (if_neg hsame)

section Fields

variable (s : Page)

@[simp] theorem render_auth : s.render.auth = s.auth := by
  rcases s.render_cases with ⟨-, h⟩ | ⟨-, ⟨-, h⟩ | ⟨_, -, ⟨h, -⟩ | h⟩⟩ <;> rw [h]

@[simp] theorem render_operation : s.render.operation = s.operation := by
  rcases s.render_cases with ⟨-, h⟩ | ⟨-, ⟨-, h⟩ | ⟨_, -, ⟨h, -⟩ | h⟩⟩ <;> rw [h]

@[simp] theorem render_route : s.render.route = s.route := by
  rcases s.render_cases with ⟨-, h⟩ | ⟨-, ⟨-, h⟩ | ⟨_, -, ⟨h, -⟩ | h⟩⟩ <;> rw [h]

@[simp] theorem render_effectDue : s.render.effectDue = s.effectDue := by
  rcases s.render_cases with ⟨-, h⟩ | ⟨-, ⟨-, h⟩ | ⟨_, -, ⟨h, -⟩ | h⟩⟩ <;> rw [h]

@[simp] theorem render_lastStatus : s.render.lastStatus = s.lastStatus := by
  rcases s.render_cases with ⟨-, h⟩ | ⟨-, ⟨-, h⟩ | ⟨_, -, ⟨h, -⟩ | h⟩⟩ <;> rw [h]

@[simp] theorem render_server : s.render.server = s.server := by
  rcases s.render_cases with ⟨-, h⟩ | ⟨-, ⟨-, h⟩ | ⟨_, -, ⟨h, -⟩ | h⟩⟩ <;> rw [h]

@[simp] theorem begin_auth (await : Await) : (s.begin await).auth = { s.auth with isLoading := true } := by
  simp [begin]

@[simp] theorem begin_operation (await : Await) : (s.begin await).operation = some ⟨await, none⟩ := by simp [begin]

@[simp] theorem begin_route (await : Await) : (s.begin await).route = s.route := by simp [begin]

@[simp] theorem begin_lastStatus (await : Await) : (s.begin await).lastStatus = s.lastStatus := by simp [begin]

@[simp] theorem begin_server (await : Await) : (s.begin await).server = s.server := by simp [begin]

@[simp] theorem finish_auth : s.finish.auth = { s.auth with isLoading := false } := by simp [finish]

@[simp] theorem finish_operation : s.finish.operation = none := by simp [finish]

@[simp] theorem finish_route : s.finish.route = s.route := by simp [finish]

@[simp] theorem finish_effectDue : s.finish.effectDue = true := by simp [finish]

@[simp] theorem finish_lastStatus : s.finish.lastStatus = s.lastStatus := by simp [finish]

@[simp] theorem finish_server : s.finish.server = s.server := by simp [finish]

end Fields

/-- `setError` changes the mounted form and nothing else. -/
theorem setError_cases (s : Page) (form : Nat) (message : GoString) :
    s.setError form message = s ∨
      ∃ mounted, s.form = some mounted ∧ mounted.id = form ∧
        s.setError form message = { s with form := some { mounted with error := some message } } := by
  unfold setError
  cases hform : s.form with
  | none => exact Or.inl rfl
  | some mounted =>
      by_cases hsame : mounted.id = form
      · exact Or.inr ⟨mounted, rfl, hsame, if_pos hsame⟩
      · exact Or.inl (if_neg hsame)

/-- `setError` leaves everything but the form as it is. -/
theorem setError_frame (s : Page) (form : Nat) (message : GoString) :
    ∃ mounted, s.setError form message = { s with form := mounted } := by
  rcases s.setError_cases form message with hsame | ⟨mounted, -, -, hsame⟩
  · exact ⟨s.form, hsame⟩
  · exact ⟨_, hsame⟩

/-- A form that is not mounted cannot show an error. -/
theorem setError_of_unmounted {form : Nat} {message : GoString} (hunmounted : ∀ mounted, s.form = some mounted →
    mounted.id ≠ form) : s.setError form message = s := by
  rcases s.setError_cases form message with hsame | ⟨mounted, hform, hid, -⟩
  · exact hsame
  · exact absurd hid (hunmounted mounted hform)

end Page

/-- The form that has begun an operation. -/
def Await.form? : Await → Option Nat
  | .login form => some form
  | .passkeyBegin form => some form
  | .passkeyGet form => some form
  | .passkeyFinish form => some form
  | .setupAdmin form _ => some form
  | .setupLogin form => some form
  | _ => none

/-- What an operation sets before it goes on or ends: who is signed in, and what is known of the server. -/
structure Sets (s t : Page) : Prop where
  isLoading : t.auth.isLoading = s.auth.isLoading
  operation : t.operation = s.operation
  route : t.route = s.route
  form : t.form = s.form
  nextForm : t.nextForm = s.nextForm
  server : t.server = s.server

/-- What becomes of `needsSetup`. -/
inductive Learns (s t : Page) (await : Await) : Reply → Prop where
  | nothing {reply} : t.auth.needsSetup = s.auth.needsSetup → t.lastStatus = s.lastStatus → Learns s t await reply
  | user {user} : t.auth.needsSetup = false → t.lastStatus = s.lastStatus → Learns s t await (.user user)
  | setup {form request} : await = .setupAdmin form request → t.auth.needsSetup = false →
      t.lastStatus = s.lastStatus → Learns s t await .done
  | status {status seen} : t.auth.needsSetup = status.needsSetup → t.lastStatus = some seen →
      Learns s t await (.status status seen)

/-- All that the code after an await can do: go on, end, or end with an error for the form. -/
theorem settle_cases {await : Await} {reply : Reply} (hsettle : s.settle await reply = some next) :
    ∃ t, Sets s t ∧ Learns s t await reply ∧
      ((∃ await', next = t.goOn await' ∧ ∀ form, await'.form? = some form → await.form? = some form) ∨
        next = t.finish ∨ ∃ form message, await.form? = some form ∧ next = t.finish.setError form message) := by
  have hsets : Sets s s := ⟨rfl, rfl, rfl, rfl, rfl, rfl⟩
  have hout : Sets s s.signOut := ⟨rfl, rfl, rfl, rfl, rfl, rfl⟩
  have hin (user : ShellUser) : Sets s (s.signIn user) := ⟨rfl, rfl, rfl, rfl, rfl, rfl⟩
  have hstatus (status : ServerStatus) (seen : List User) : Sets s (s.setStatus status seen) :=
    ⟨rfl, rfl, rfl, rfl, rfl, rfl⟩
  have hfalse {t : Page} (ht : Sets s t) : Sets s (t.setNeedsSetup false) :=
    ⟨ht.isLoading, ht.operation, ht.route, ht.form, ht.nextForm, ht.server⟩
  have hreject {form : Nat} {message : GoString} (hform : await.form? = some form)
      (hnext : s.reject form message = next) : ∃ t, Sets s t ∧ Learns s t await reply ∧
      ((∃ await', next = t.goOn await' ∧ ∀ form, await'.form? = some form → await.form? = some form) ∨
        next = t.finish ∨ ∃ form message, await.form? = some form ∧ next = t.finish.setError form message) :=
    ⟨s.signOut, hout, .nothing rfl rfl, Or.inr (Or.inr ⟨form, message, hform, hnext.symm⟩)⟩
  unfold Page.settle at hsettle
  split at hsettle <;> cases hsettle
  · exact ⟨_, hstatus _ _, .status rfl rfl, Or.inl ⟨_, rfl, nofun⟩⟩
  · exact ⟨_, hsets, .nothing rfl rfl, Or.inl ⟨_, rfl, nofun⟩⟩
  · refine ⟨_, hfalse ?_, .user rfl ?_, Or.inr (Or.inl rfl)⟩
    · split
      · exact hin _
      · exact hsets
    · split <;> rfl
  · refine ⟨_, ?_, .nothing ?_ ?_, Or.inr (Or.inl rfl)⟩
    · split
      · exact hout
      · exact hsets
    · split <;> rfl
    · split <;> rfl
  · exact ⟨_, hfalse (hin _), .user rfl rfl, Or.inr (Or.inl rfl)⟩
  · exact hreject rfl rfl
  · exact ⟨_, hsets, .nothing rfl rfl, Or.inl ⟨_, rfl, fun _ => id⟩⟩
  · exact hreject rfl rfl
  · exact ⟨_, hsets, .nothing rfl rfl, Or.inl ⟨_, rfl, fun _ => id⟩⟩
  · exact hreject rfl rfl
  · exact ⟨_, hfalse (hin _), .user rfl rfl, Or.inr (Or.inl rfl)⟩
  · exact hreject rfl rfl
  · exact ⟨_, hfalse hsets, .setup rfl rfl rfl, Or.inl ⟨_, rfl, fun _ => id⟩⟩
  · exact hreject rfl rfl
  · exact ⟨_, hin _, .nothing rfl rfl, Or.inr (Or.inl rfl)⟩
  · exact hreject rfl rfl
  · exact ⟨_, hout, .nothing rfl rfl, Or.inl ⟨_, rfl, nofun⟩⟩
  · exact ⟨_, hout, .nothing rfl rfl, Or.inl ⟨_, rfl, nofun⟩⟩
  · exact ⟨_, hstatus _ _, .status rfl rfl, Or.inr (Or.inl rfl)⟩
  · exact ⟨_, hsets, .nothing rfl rfl, Or.inr (Or.inl rfl)⟩

/-! ## What a step can do -/

/-- What a form or the layout begins. -/
inductive Begins (s : Page) : Await → Prop where
  | login {id error} : s.form = some ⟨.login, id, error⟩ → Begins s (.login id)
  | passkey {id error} : s.form = some ⟨.login, id, error⟩ → Begins s (.passkeyBegin id)
  | setup {id error request} : s.form = some ⟨.setup, id, error⟩ → s.server.phase request = .pending →
      Begins s (.setupAdmin id request)
  | logout : s.route.isSome = true → s.route.bind Path.form? = none → Begins s .logout

/-- What a reply says of the server. -/
inductive Answers (s : Page) (await : Await) : Reply → Prop where
  | status {webauthn info} :
      Answers s await (.status (getServerStatus s.server.users webauthn info) s.server.users.rows)
  | user {user} : user ∈ s.server.users.rows → Answers s await (.user ⟨user.username, user.role⟩)
  | setup {form request response} : await = .setupAdmin form request →
      s.server.phase request = .done (.ok response) → Answers s await .done
  | done : (∀ form request, await ≠ .setupAdmin form request) → Answers s await .done
  | failed {unauthenticated message} : Answers s await (.failed unauthenticated message)

/-- Everything an enabled step can do. -/
inductive Happens (env : SetupAdmin.Env) (reqs : Nat → SetupAdmin.SetupAdminRequest) (s : Page) (label : ShellLabel) :
    Page → Prop where
  | begin {await} : Begins s await → Happens env reqs s label (s.begin await)
  | navigate {effectDue path next} : s.auth.isLoading = false →
      Page.navigate { s with effectDue := effectDue } path = some next → Happens env reqs s label next
  | answer {await reply} : s.operation = some ⟨await, none⟩ → Answers s await reply →
      Happens env reqs s label (s.answer reply)
  | settle {await reply next} : s.operation = some ⟨await, some reply⟩ → s.settle await reply = some next →
      Happens env reqs s label next
  | load {url} : label = .reload url → Happens env reqs s label (.load s.storage url s.nextForm s.server)
  | otherTab {storage} : Happens env reqs s label { s with storage := storage }
  | serve {request server} : Auth.SetupAdmin.step env reqs s.server request = some server →
      Happens env reqs s label { s with server := server }

theorem Page.waiting_eq_some {await : Await} (hwaiting : s.waiting = some await) : s.operation = some ⟨await, none⟩ := by
  obtain ⟨⟨await', reply⟩, hoperation, hsilent⟩ := Option.bind_eq_some_iff.mp hwaiting
  cases reply with
  | some reply => cases hsilent
  | none =>
      cases hsilent
      exact hoperation

theorem happens_of_step {label : ShellLabel} (hstep : shellStep env reqs s label = some next) :
    Happens env reqs s label next := by
  cases label with
  | submitLogin =>
      simp only [shellStep] at hstep
      split at hstep <;> cases hstep
      exact .begin (.login ‹_›)
  | submitPasskey =>
      simp only [shellStep] at hstep
      split at hstep
      · split at hstep <;> cases hstep
        exact .begin (.passkey ‹_›)
      · cases hstep
  | submitSetup request =>
      simp only [shellStep] at hstep
      split at hstep <;> cases hstep
      exact .begin (.setup ‹_› ‹_›)
  | clickLogout =>
      simp only [shellStep] at hstep
      split at hstep <;> cases hstep
      rename_i hshown
      exact .begin (.logout hshown.2.1 hshown.2.2)
  | navigate path =>
      simp only [shellStep] at hstep
      split at hstep
      · cases hstep
      · rename_i hidle
        exact .navigate (Bool.eq_false_of_not_eq_true hidle) hstep
  | invalidate =>
      simp only [shellStep] at hstep
      split at hstep
      · rename_i hdue
        exact .navigate (Bool.eq_false_of_not_eq_true hdue.2) hstep
      · cases hstep
  | answerStatus webauthn info =>
      simp only [shellStep] at hstep
      split at hstep <;> cases hstep
      · exact .answer (Page.waiting_eq_some ‹_›) .status
      · exact .answer (Page.waiting_eq_some ‹_›) .status
  | answerUser user =>
      simp only [shellStep] at hstep
      split at hstep
      · rename_i hin
        split at hstep <;> cases hstep <;> exact .answer (Page.waiting_eq_some ‹_›) (.user hin)
      · cases hstep
  | answerSetup =>
      simp only [shellStep] at hstep
      split at hstep
      · rename_i hwaiting
        split at hstep <;> cases hstep
        · exact .answer (Page.waiting_eq_some hwaiting) (.setup rfl ‹_›)
        · exact .answer (Page.waiting_eq_some hwaiting) .failed
      · cases hstep
  | answerDone =>
      simp only [shellStep] at hstep
      split at hstep <;> cases hstep <;>
        refine .answer (Page.waiting_eq_some ‹_›) (.done fun form request heq => ?_) <;> cases heq
  | fail unauthenticated message =>
      simp only [shellStep] at hstep
      split at hstep <;> cases hstep
      exact .answer (Page.waiting_eq_some ‹_›) .failed
  | settle =>
      simp only [shellStep] at hstep
      split at hstep
      · exact .settle ‹_› hstep
      · cases hstep
  | reload url =>
      cases hstep
      exact .load rfl
  | otherTab storage =>
      cases hstep
      exact .otherTab
  | serve label =>
      obtain ⟨server, hserver, rfl⟩ := Option.map_eq_some_iff.mp hstep
      exact .serve hserver

/-! ## Forms -/

/-- A form is mounted only while nothing is loading, on its own route, without an error, and it is a later one than any
form whose operation is running. -/
structure FormInv (s : Page) : Prop where
  loading : s.operation.isSome = s.auth.isLoading
  unmounted : s.auth.isLoading = true → s.form = none
  form : ∀ {form}, s.form = some form →
    form.id < s.nextForm ∧ form.error = none ∧ s.route.bind Path.form? = some form.kind
  begun : ∀ {operation form}, s.operation = some operation → operation.await.form? = some form → form < s.nextForm

theorem formInv_load (storage : LocalStorage) (url : Path) (nextForm : Nat) (server : SetupAdmin.State) :
    FormInv (.load storage url nextForm server) where
  loading := rfl
  unmounted _ := rfl
  form := nofun
  begun hoperation hform := by
    cases hoperation
    cases hform

/-- Rendering mounts a new form or keeps the one that is mounted. -/
theorem formInv_render (hloading : s.operation.isSome = s.auth.isLoading)
    (hform : ∀ {form}, s.form = some form → form.id < s.nextForm ∧ form.error = none)
    (hbegun : ∀ {operation form}, s.operation = some operation → operation.await.form? = some form →
      form < s.nextForm) : FormInv s.render := by
  have hrest : s.render.operation.isSome = s.render.auth.isLoading := by simpa using hloading
  rcases s.render_cases with ⟨-, heq⟩ | ⟨hidle, ⟨-, heq⟩ | ⟨kind, hkind, ⟨heq, mounted, hmounted, hsame⟩ | heq⟩⟩
  · refine ⟨hrest, fun _ => by rw [heq], ?_, ?_⟩
    · intro form h
      rw [heq] at h
      cases h
    · rw [heq]
      exact hbegun
  · refine ⟨hrest, fun _ => by rw [heq], ?_, ?_⟩
    · intro form h
      rw [heq] at h
      cases h
    · rw [heq]
      exact hbegun
  · rw [heq]
    refine ⟨hloading, fun h => ?_, fun {form} h => ?_, hbegun⟩
    · rw [hidle] at h
      cases h
    · rw [hmounted] at h
      cases h
      exact ⟨(hform hmounted).1, (hform hmounted).2, hsame ▸ hkind⟩
  · rw [heq]
    refine ⟨hloading, fun h => ?_, fun {form} h => ?_, fun hoperation h => Nat.lt_succ_of_lt (hbegun hoperation h)⟩
    · rw [show s.auth.isLoading = true from h] at hidle
      cases hidle
    · cases h
      exact ⟨Nat.lt_succ_self _, rfl, hkind⟩

theorem FormInv.begin (hinv : FormInv s) {await : Await} (hform : ∀ form, await.form? = some form → form < s.nextForm) :
    FormInv (s.begin await) := by
  refine formInv_render rfl (fun h => ⟨(hinv.form h).1, (hinv.form h).2.1⟩) fun {operation form} hoperation h => ?_
  cases hoperation
  exact hform form h

/-- The form that is mounted at the end of an operation is a new one. -/
theorem Page.id_of_finish {form : Form} (hunmounted : s.form = none) (hform : s.finish.form = some form) :
    form.id = s.nextForm := by
  unfold Page.finish at hform
  rcases Page.render_cases { s with
    auth := { s.auth with isLoading := false }, operation := none, effectDue := true } with
    ⟨-, heq⟩ | ⟨-, ⟨-, heq⟩ | ⟨_, -, ⟨heq, mounted, hmounted, -⟩ | heq⟩⟩
  · rw [heq] at hform
    cases hform
  · rw [heq] at hform
    cases hform
  · rw [show s.form = some mounted from hmounted] at hunmounted
    cases hunmounted
  · rw [heq] at hform
    cases hform
    rfl

theorem FormInv.finish (hinv : FormInv s) (hsets : Sets s t) : FormInv t.finish := by
  refine formInv_render rfl (fun {form} h => ?_) nofun
  have hold := hinv.form (hsets.form ▸ h)
  exact ⟨by rw [hsets.nextForm]; exact hold.1, hold.2.1⟩

theorem FormInv.goOn (hinv : FormInv s) (hsets : Sets s t) (hrunning : s.operation.isSome = true) {await : Await}
    (hform : ∀ form, await.form? = some form → form < s.nextForm) : FormInv (t.goOn await) := by
  refine ⟨?_, fun h => ?_, fun {form} h => ?_, fun {operation form} hoperation h => ?_⟩
  · show true = t.auth.isLoading
    rw [hsets.isLoading, ← hinv.loading, hrunning]
  · show t.form = none
    rw [hsets.form]
    exact hinv.unmounted (hsets.isLoading ▸ h)
  · show form.id < t.nextForm ∧ _
    rw [hsets.nextForm]
    have hold := hinv.form (hsets.form ▸ h)
    exact ⟨hold.1, hold.2.1, hsets.route ▸ hold.2.2⟩
  · cases hoperation
    show form < t.nextForm
    rw [hsets.nextForm]
    exact hform form h

/-- The error of an operation is set on a form that is no longer mounted. -/
theorem FormInv.setError_finish (hinv : FormInv s) (hsets : Sets s t) {await : Await} {reply : Option Reply}
    (hoperation : s.operation = some ⟨await, reply⟩) {form : Nat} (hform : await.form? = some form)
    (message : GoString) : t.finish.setError form message = t.finish := by
  have hlt : form < s.nextForm := hinv.begun hoperation hform
  have hunmounted : t.form = none := by
    rw [hsets.form]
    refine hinv.unmounted ?_
    rw [← hinv.loading, hoperation]
    rfl
  refine Page.setError_of_unmounted fun mounted hmounted heq => ?_
  have hid := Page.id_of_finish hunmounted hmounted
  rw [heq, hsets.nextForm] at hid
  exact Nat.lt_irrefl _ (hid ▸ hlt)

theorem FormInv.navigate (hinv : FormInv s) {path : Path} (hnext : s.navigate path = some next) : FormInv next := by
  obtain ⟨target, -, rfl⟩ := Option.map_eq_some_iff.mp hnext
  exact formInv_render hinv.loading (fun h => ⟨(hinv.form h).1, (hinv.form h).2.1⟩) hinv.begun

theorem FormInv.answer (hinv : FormInv s) (reply : Reply) : FormInv (s.answer reply) := by
  refine ⟨?_, hinv.unmounted, hinv.form, fun {operation form} hoperation h => ?_⟩
  · show (s.operation.map _).isSome = _
    rw [Option.isSome_map]
    exact hinv.loading
  · obtain ⟨operation', hoperation', rfl⟩ := Option.map_eq_some_iff.mp hoperation
    exact hinv.begun hoperation' h

theorem formInv_step {label : ShellLabel} (hinv : FormInv s) (hstep : Happens env reqs s label next) :
    FormInv next := by
  cases hstep with
  | begin hbegins =>
      refine hinv.begin fun form hform => ?_
      cases hbegins with
      | login hmounted =>
          cases hform
          exact (hinv.form hmounted).1
      | passkey hmounted =>
          cases hform
          exact (hinv.form hmounted).1
      | setup hmounted =>
          cases hform
          exact (hinv.form hmounted).1
      | logout => cases hform
  | @navigate effectDue path _ _ hnext =>
      have hdue : FormInv { s with effectDue := effectDue } := ⟨hinv.loading, hinv.unmounted, hinv.form, hinv.begun⟩
      exact hdue.navigate hnext
  | answer => exact hinv.answer _
  | settle hoperation hsettle =>
      obtain ⟨t, hsets, -, ⟨await', rfl, hsame⟩ | rfl | ⟨form, message, hform, rfl⟩⟩ := settle_cases hsettle
      · exact hinv.goOn hsets (by rw [hoperation]; rfl) fun form hform => hinv.begun hoperation (hsame form hform)
      · exact hinv.finish hsets
      · rw [hinv.setError_finish hsets hoperation hform]
        exact hinv.finish hsets
  | load => exact formInv_load _ _ _ _
  | otherTab => exact ⟨hinv.loading, hinv.unmounted, hinv.form, hinv.begun⟩
  | serve => exact ⟨hinv.loading, hinv.unmounted, hinv.form, hinv.begun⟩

/-- Whatever the server answers to a login, a passkey or the first setup, no form that is shown ever says why it has
failed: the form from which it was begun is gone by then. -/
theorem formError_unseen {storage : LocalStorage} {url : Path} {nextForm : Nat} {users : Users}
    {labels : List ShellLabel}
    (hrun : exec (shellStep env reqs) (.load storage url nextForm ⟨users, fun _ => .pending⟩) labels = some s) :
    ∀ form, s.form = some form → form.error = none := by
  have hinv : FormInv s :=
    exec_invariant FormInv (fun _ _ _ hinv hstep => formInv_step hinv (happens_of_step hstep)) hrun
      (formInv_load storage url nextForm _)
  exact fun form hform => (hinv.form hform).2.1

/-- What the server says of itself. -/
def sampleInfo : ServerInfo := ⟨str "1.0.0", str "0123abc", str "2026-07-05T17:00:00Z"⟩

/-- A console that is opened for the first time. -/
def firstVisit : Page := .load ⟨none, false⟩ .dashboard 0 ⟨Users.empty, fun _ => .pending⟩

/-- It learns that there is no user, and shows the setup. -/
def untilSetup : List ShellLabel :=
  [.answerStatus false sampleInfo, .settle, .fail true (str "unauthenticated"), .settle, .invalidate]

/-- A setup that does not reach the server. -/
def lostSetup : List ShellLabel := untilSetup ++ [.submitSetup 0, .fail false (str "Failed to fetch"), .settle]

theorem exec_lostSetup :
    (exec (shellStep Auth.SetupAdmin.sampleEnv Auth.SetupAdmin.sampleReqs) firstVisit lostSetup).map
        (fun s => s.form.map Form.kind) = some (some .setup) := by
  decide +kernel

/-- The form is there again, and says nothing. -/
theorem formError_unseen_lostSetup :
    ∃ s form, exec (shellStep Auth.SetupAdmin.sampleEnv Auth.SetupAdmin.sampleReqs) firstVisit lostSetup = some s ∧
      s.form = some form ∧ form.kind = .setup ∧ form.error = none := by
  obtain ⟨s, hrun, hend⟩ := Option.map_eq_some_iff.mp exec_lostSetup
  obtain ⟨form, hform, hkind⟩ := Option.map_eq_some_iff.mp hend
  exact ⟨s, form, hrun, hform, hkind, formError_unseen hrun form hform⟩

/-! ## The status of the server -/

/-- The requests of the server never take a user away, and one that has succeeded has left a user. -/
theorem users_of_step {server server' : SetupAdmin.State} {label : Auth.SetupAdmin.Label}
    (hstep : Auth.SetupAdmin.step env reqs server label = some server')
    (hwinner : ∀ i, (server.phase i).Succeeded → server.users.rows ≠ []) :
    (server.users.rows ≠ [] → server'.users.rows ≠ []) ∧
      ∀ i, (server'.phase i).Succeeded → server'.users.rows ≠ [] := by
  have hother {i : Nat} {phase : Auth.SetupAdmin.Phase} (hphase : ¬ phase.Succeeded) (j : Nat)
      (hwon : ((server.setPhase i phase).phase j).Succeeded) : server.users.rows ≠ [] := by
    rw [Auth.SetupAdmin.State.setPhase_phase] at hwon
    split at hwon
    · exact absurd hwon hphase
    · exact hwinner j hwon
  rcases Auth.SetupAdmin.step_cases hstep with ⟨i, err, rfl, -⟩ | ⟨i, fault, -, -, rfl, -⟩ | ⟨i, hash, -, rfl⟩ |
    ⟨i, users, user, response, -, hrows, -, -, rfl⟩
  · exact ⟨id, hother (by simp [Auth.SetupAdmin.Phase.Succeeded])⟩
  · exact ⟨id, hother (by simp [Auth.SetupAdmin.Phase.Succeeded])⟩
  · exact ⟨id, hother (by simp [Auth.SetupAdmin.Phase.Succeeded])⟩
  · have hne : users.rows ≠ [] := by
      rw [hrows]
      exact List.append_ne_nil_of_right_ne_nil _ (List.cons_ne_nil _ _)
    exact ⟨fun _ => hne, fun _ _ => hne⟩

/-- What a reply that has arrived says of the table. -/
def ReplyInv (users : List User) : Reply → Prop
  | .status status seen => status.needsSetup = decide (seen = []) ∧ (seen ≠ [] → users ≠ [])
  | .user _ => users ≠ []
  | .done => True
  | .failed _ _ => True

/-- The setup request of the operation has succeeded, if that is what has arrived. -/
def SetupDone (users : List User) (operation : Operation) : Prop :=
  ∀ form request, operation.await = .setupAdmin form request → operation.reply = some .done → users ≠ []

/-- What the page knows of the users of the server. -/
structure StatusInv (s : Page) : Prop where
  winner : ∀ i, (s.server.phase i).Succeeded → s.server.users.rows ≠ []
  needed : s.auth.needsSetup = true → s.lastStatus = some []
  known : s.auth.needsSetup = false → s.lastStatus ≠ none → s.server.users.rows ≠ []
  reply : ∀ {operation reply}, s.operation = some operation → operation.reply = some reply →
    ReplyInv s.server.users.rows reply
  setup : ∀ {operation}, s.operation = some operation → SetupDone s.server.users.rows operation

theorem ReplyInv.mono {users users' : List User} {reply : Reply} (hinv : ReplyInv users reply)
    (hmono : users ≠ [] → users' ≠ []) : ReplyInv users' reply := by
  cases reply with
  | status status seen => exact ⟨hinv.1, fun hseen => hmono (hinv.2 hseen)⟩
  | user user => exact hmono hinv
  | done => trivial
  | failed unauthenticated message => trivial

theorem statusInv_load (storage : LocalStorage) (url : Path) (nextForm : Nat) {server : SetupAdmin.State}
    (hwinner : ∀ i, (server.phase i).Succeeded → server.users.rows ≠ []) :
    StatusInv (.load storage url nextForm server) where
  winner := hwinner
  needed hneeds := by
    cases hneeds
  known _ hseen := absurd rfl hseen
  reply hoperation hreply := by
    cases hoperation
    cases hreply
  setup hoperation := by
    cases hoperation
    intro form request _ hgone
    cases hgone

/-- The code after an await learns from the reply only. -/
theorem StatusInv.learns {await : Await} {reply : Reply} (hinv : StatusInv s)
    (hoperation : s.operation = some ⟨await, some reply⟩) (hlearns : Learns s t await reply) :
    (t.auth.needsSetup = true → t.lastStatus = some []) ∧
      (t.auth.needsSetup = false → t.lastStatus ≠ none → s.server.users.rows ≠ []) := by
  have hreply : ReplyInv s.server.users.rows reply := hinv.reply hoperation rfl
  cases hlearns with
  | nothing hneeds hlast =>
      rw [hneeds, hlast]
      exact ⟨hinv.needed, hinv.known⟩
  | user hneeds hlast =>
      rw [hneeds]
      exact ⟨fun htrue => absurd htrue Bool.false_ne_true, fun _ _ => hreply⟩
  | setup hawait hneeds hlast =>
      rw [hneeds]
      exact ⟨fun htrue => absurd htrue Bool.false_ne_true, fun _ _ => hinv.setup hoperation _ _ hawait rfl⟩
  | status hneeds hlast =>
      obtain ⟨hempty, hgrown⟩ := hreply
      rw [hneeds, hlast, hempty]
      refine ⟨fun h => congrArg some (of_decide_eq_true h), fun h _ => hgrown (of_decide_eq_false h)⟩

theorem statusInv_finish (hwinner : ∀ i, (t.server.phase i).Succeeded → t.server.users.rows ≠ [])
    (hneeded : t.auth.needsSetup = true → t.lastStatus = some [])
    (hknown : t.auth.needsSetup = false → t.lastStatus ≠ none → t.server.users.rows ≠ []) : StatusInv t.finish := by
  refine ⟨?_, ?_, ?_, fun hoperation => ?_, fun hoperation => ?_⟩
  · simpa using hwinner
  · simpa using hneeded
  · simpa using hknown
  · simp at hoperation
  · simp at hoperation

theorem StatusInv.setError (hinv : StatusInv s) (form : Nat) (message : GoString) :
    StatusInv (s.setError form message) := by
  obtain ⟨mounted, hsame⟩ := s.setError_frame form message
  rw [hsame]
  exact ⟨hinv.winner, hinv.needed, hinv.known, hinv.reply, hinv.setup⟩

theorem statusInv_step {label : ShellLabel} (hinv : StatusInv s) (hstep : Happens env reqs s label next) :
    StatusInv next := by
  cases hstep with
  | begin =>
      refine ⟨?_, ?_, ?_, fun {operation reply} hoperation hreply => ?_, fun {operation} hoperation => ?_⟩
      · simpa using hinv.winner
      · simpa using hinv.needed
      · simpa using hinv.known
      · rw [Page.begin_operation, Option.some.injEq] at hoperation
        subst hoperation
        cases hreply
      · rw [Page.begin_operation, Option.some.injEq] at hoperation
        subst hoperation
        intro form request _ hgone
        cases hgone
  | navigate _ hnext =>
      obtain ⟨target, -, rfl⟩ := Option.map_eq_some_iff.mp hnext
      refine ⟨?_, ?_, ?_, fun hoperation hreply => ?_, fun hoperation => ?_⟩
      · simpa using hinv.winner
      · simpa using hinv.needed
      · simpa using hinv.known
      · simpa using hinv.reply (by simpa using hoperation) hreply
      · simpa using hinv.setup (by simpa using hoperation)
  | @answer await reply hwaiting hanswers =>
      have hanswered {operation : Operation} (hoperation : (s.answer reply).operation = some operation) :
          operation = ⟨await, some reply⟩ := by
        obtain ⟨operation', hoperation', rfl⟩ := Option.map_eq_some_iff.mp hoperation
        rw [hwaiting] at hoperation'
        cases hoperation'
        rfl
      refine ⟨hinv.winner, hinv.needed, hinv.known, fun {operation reply'} hoperation hreply => ?_,
        fun {operation} hoperation form request hawait hdone => ?_⟩
      · rw [hanswered hoperation] at hreply
        cases hreply
        cases hanswers with
        | status => exact ⟨by simp [getServerStatus, Users.countUsers], id⟩
        | user hin => exact List.ne_nil_of_mem hin
        | setup => trivial
        | done => trivial
        | failed => trivial
      · rw [hanswered hoperation] at hawait hdone
        cases hdone
        cases hanswers with
        | setup _ hphase => exact hinv.winner _ (by rw [hphase]; trivial)
        | done hnot => exact absurd hawait (hnot form request)
  | settle hoperation hsettle =>
      obtain ⟨t, hsets, hlearns, hend⟩ := settle_cases hsettle
      obtain ⟨hneeded, hknown⟩ := hinv.learns hoperation hlearns
      have hfinish : StatusInv t.finish := statusInv_finish (hsets.server ▸ hinv.winner) hneeded (hsets.server ▸ hknown)
      rcases hend with ⟨await', rfl, -⟩ | rfl | ⟨form, message, -, rfl⟩
      · refine ⟨hsets.server ▸ hinv.winner, hneeded, hsets.server ▸ hknown, fun {operation reply} hgone hreply => ?_,
          fun {operation} hgone => ?_⟩
        · cases hgone
          cases hreply
        · cases hgone
          intro form request _ hgone
          cases hgone
      · exact hfinish
      · exact hfinish.setError form message
  | load _ => exact statusInv_load _ _ _ hinv.winner
  | otherTab => exact ⟨hinv.winner, hinv.needed, hinv.known, hinv.reply, hinv.setup⟩
  | serve hserver =>
      obtain ⟨hmono, hwinner⟩ := users_of_step hserver hinv.winner
      exact ⟨hwinner, hinv.needed, fun hneeds hseen => hmono (hinv.known hneeds hseen),
        fun hoperation hreply => (hinv.reply hoperation hreply).mono hmono,
        fun hoperation form request hawait hdone => hmono (hinv.setup hoperation form request hawait hdone)⟩

/-! ## The page that is shown -/

/-- While nothing is loading and the router has been invalidated, the route is one that does not redirect. -/
def RouteInv (s : Page) : Prop :=
  s.auth.isLoading = false → s.effectDue = false → ∃ path, s.route = some path ∧ Settled s.auth path

theorem routeInv_navigate {path : Path} (hnext : s.navigate path = some next) :
    ∃ target, next.route = some target ∧ Settled next.auth target := by
  obtain ⟨target, hfollow, rfl⟩ := Option.map_eq_some_iff.mp hnext
  obtain ⟨target', hfollow', hsettled⟩ := follow_settles s.auth path
  rw [hfollow] at hfollow'
  cases hfollow'
  exact ⟨target, by simp, by simpa using hsettled⟩

theorem routeInv_step {label : ShellLabel} (hform : FormInv s) (hinv : RouteInv s)
    (hstep : Happens env reqs s label next) : RouteInv next := by
  cases hstep with
  | begin =>
      intro hidle
      simp at hidle
  | navigate _ hnext => exact fun _ _ => routeInv_navigate hnext
  | answer => exact hinv
  | settle hoperation hsettle =>
      obtain ⟨t, hsets, -, hend⟩ := settle_cases hsettle
      rcases hend with ⟨await', rfl, -⟩ | rfl | ⟨form, message, -, rfl⟩
      · intro hidle
        have hloading : t.auth.isLoading = true := by
          rw [hsets.isLoading, ← hform.loading, hoperation]
          rfl
        rw [show t.auth.isLoading = false from hidle] at hloading
        cases hloading
      · intro _ hdue
        simp at hdue
      · intro _ hdue
        obtain ⟨mounted, hsame⟩ := t.finish.setError_frame form message
        rw [hsame] at hdue
        simp at hdue
  | load _ => exact nofun
  | otherTab => exact hinv
  | serve => exact hinv

/-- What the route that is shown says of the server: the setup is shown only if the table was empty when the status was
read, and anything else, if the status has been read at all, only if there is a user by now; and the login is shown
exactly to those who are not signed in. -/
structure Shows (s : Page) (path : Path) : Prop where
  stays : beforeLoad s.auth path = none
  setup : path = .setup → s.lastStatus = some []
  other : path ≠ .setup → s.lastStatus ≠ none → s.server.users.rows ≠ []
  login_iff : path = .login ↔ s.auth.needsSetup = false ∧ s.auth.isAuthenticated = false

/-- In every run of the page, whoever else sets up the server in the meantime and whatever fails: something is loading
exactly while one operation runs, and as soon as nothing is and the router has followed, the page shows a route that
agrees with what the server has said. -/
theorem shell_agrees {storage : LocalStorage} {url : Path} {nextForm : Nat} {users : Users} {labels : List ShellLabel}
    (hrun : exec (shellStep env reqs) (.load storage url nextForm ⟨users, fun _ => .pending⟩) labels = some s) :
    s.operation.isSome = s.auth.isLoading ∧
      (s.auth.isLoading = false → s.effectDue = false → ∃ path, s.route = some path ∧ Shows s path) := by
  have hinv : FormInv s ∧ StatusInv s ∧ RouteInv s :=
    exec_invariant (fun s => FormInv s ∧ StatusInv s ∧ RouteInv s)
      (fun _ _ _ hinv hstep =>
        have hhappens := happens_of_step hstep
        ⟨formInv_step hinv.1 hhappens, statusInv_step hinv.2.1 hhappens, routeInv_step hinv.1 hinv.2.2 hhappens⟩)
      hrun ⟨formInv_load _ _ _ _, statusInv_load _ _ _ (fun _ => False.elim), nofun⟩
  obtain ⟨hform, hstatus, hroute⟩ := hinv
  refine ⟨hform.loading, fun hidle hdue => ?_⟩
  obtain ⟨path, hpath, hsettled⟩ := hroute hidle hdue
  refine ⟨path, hpath, hsettled.stays, fun hsetup => hstatus.needed (hsettled.setup_iff.mp hsetup), fun hother => ?_,
    hsettled.login_iff⟩
  exact hstatus.known (Bool.eq_false_of_not_eq_true (mt hsettled.setup_iff.mpr hother))

/-- The setup is done and followed by a login. -/
def doneSetup : List ShellLabel :=
  untilSetup ++ [.submitSetup 0, .serve (.count 0 none), .serve (.hash 0), .serve (.create 0 none), .answerSetup,
    .settle,
    .answerUser ⟨1, str "alice", str "$2a$12$R9h/cIPz0gi.URNNX3kh2OPST9/PgBkqquzi.Ss7KIUgO2t0jWMUW", Auth.adminRole⟩,
    .settle, .invalidate]

theorem exec_doneSetup :
    (exec (shellStep Auth.SetupAdmin.sampleEnv Auth.SetupAdmin.sampleReqs) firstVisit doneSetup).map
        (fun s => (s.auth.isLoading, s.effectDue, s.route, s.lastStatus)) =
      some (false, false, some .dashboard, some []) := by
  decide +kernel

theorem shell_agrees_doneSetup :
    ∃ s, exec (shellStep Auth.SetupAdmin.sampleEnv Auth.SetupAdmin.sampleReqs) firstVisit doneSetup = some s ∧
      s.route = some .dashboard ∧ Shows s .dashboard := by
  obtain ⟨s, hrun, hend⟩ := Option.map_eq_some_iff.mp exec_doneSetup
  simp only [Prod.mk.injEq] at hend
  obtain ⟨hidle, hdue, hroute, -⟩ := hend
  obtain ⟨path, hpath, hshows⟩ := (shell_agrees hrun).2 hidle hdue
  rw [hroute] at hpath
  cases hpath
  exact ⟨s, hrun, hroute, hshows⟩

/-! ## A setup that someone else has done -/

/-- The request has not been counted yet, or it has failed. -/
def Refusing : Auth.SetupAdmin.Phase → Prop
  | .pending => True
  | .done (.error _) => True
  | _ => False

/-- Once there is a user, a request that has not been counted fails. -/
theorem refusing_of_step {server server' : SetupAdmin.State} {label : Auth.SetupAdmin.Label} {request : Nat}
    (hstep : Auth.SetupAdmin.step env reqs server label = some server') (husers : server.users.rows ≠ [])
    (hrefusing : Refusing (server.phase request)) : Refusing (server'.phase request) := by
  have hother {i : Nat} {phase : Auth.SetupAdmin.Phase} (hphase : i = request → Refusing phase) :
      Refusing ((server.setPhase i phase).phase request) := by
    rw [Auth.SetupAdmin.State.setPhase_phase]
    split
    · rename_i heq
      exact hphase heq.symm
    · exact hrefusing
  rcases Auth.SetupAdmin.step_cases hstep with ⟨i, err, rfl, -⟩ | ⟨i, fault, -, hempty, -, -⟩ | ⟨i, hash, hphase, rfl⟩ |
    ⟨i, users, user, response, hflight, -, -, -, rfl⟩
  · exact hother fun _ => trivial
  · exact absurd hempty husers
  · refine hother fun heq => ?_
    rw [← heq, hphase] at hrefusing
    exact hrefusing.elim
  · rw [Auth.SetupAdmin.State.setPhase_phase]
    split
    · rename_i heq
      rw [heq] at hrefusing
      cases hphase : server.phase i <;> rw [hphase] at hflight hrefusing
      · exact hflight.elim
      · exact hrefusing.elim
      · exact hrefusing.elim
      · exact hflight.elim
    · exact hrefusing

/-- The page shows the setup, and all it does is a request that is refused. -/
structure StuckInv (s : Page) : Prop where
  needed : s.auth.needsSetup = true
  users : s.server.users.rows ≠ []
  route : s.route = some .setup
  operation : ∀ {operation}, s.operation = some operation → ∃ form request,
    operation.await = .setupAdmin form request ∧ operation.reply ≠ some .done ∧ Refusing (s.server.phase request)

theorem stuckInv_step {label : ShellLabel} (hform : FormInv s) (hinv : StuckInv s) (hstay : ∀ url, label ≠ .reload url)
    (hstep : Happens env reqs s label next) : StuckInv next := by
  have hkind {form : Form} (hmounted : s.form = some form) : form.kind = .setup := by
    have hshown := (hform.form hmounted).2.2
    rw [hinv.route] at hshown
    exact (Option.some.inj hshown).symm
  cases hstep with
  | begin hbegins =>
      cases hbegins with
      | login hmounted => cases hkind hmounted
      | passkey hmounted => cases hkind hmounted
      | @setup id error request _ hpending =>
          refine ⟨by simpa using hinv.needed, by simpa using hinv.users, by simpa using hinv.route,
            fun {operation} hoperation => ⟨id, request, ?_⟩⟩
          rw [Page.begin_operation, Option.some.injEq] at hoperation
          subst hoperation
          refine ⟨rfl, nofun, ?_⟩
          rw [Page.begin_server, hpending]
          trivial
      | logout _ hshown =>
          rw [hinv.route] at hshown
          cases hshown
  | @navigate effectDue path _ _ hnext =>
      obtain ⟨target, hroute, hsettled⟩ := routeInv_navigate hnext
      obtain ⟨target', -, rfl⟩ := Option.map_eq_some_iff.mp hnext
      have hneeded : Page.auth (Page.render
          { s with effectDue := effectDue, url := target', route := some target' }) = s.auth := by simp
      refine ⟨by simpa using hinv.needed, by simpa using hinv.users, ?_, fun hoperation => ?_⟩
      · rw [hroute, hsettled.setup_iff.mpr (by simpa using hinv.needed)]
      · simpa using hinv.operation (by simpa using hoperation)
  | @answer await reply hwaiting hanswers =>
      refine ⟨hinv.needed, hinv.users, hinv.route, fun {operation} hoperation => ?_⟩
      obtain ⟨form, request, hawait, -, hrefusing⟩ := hinv.operation hwaiting
      obtain ⟨operation', hoperation', rfl⟩ := Option.map_eq_some_iff.mp hoperation
      rw [hwaiting] at hoperation'
      cases hoperation'
      refine ⟨form, request, hawait, fun hdone => ?_, hrefusing⟩
      cases hdone
      cases hanswers with
      | setup hsame hphase =>
          rw [show await = _ from hawait] at hsame
          cases hsame
          rw [hphase] at hrefusing
          exact hrefusing
      | done hnot => exact hnot form request hawait
  | @settle await reply _ hoperation hsettle =>
      obtain ⟨form, request, hawait, hreply, -⟩ := hinv.operation hoperation
      rw [show await = _ from hawait] at hsettle
      cases reply with
      | status status seen => cases hsettle
      | user user => cases hsettle
      | done => exact absurd rfl hreply
      | failed unauthenticated message =>
          cases hsettle
          have hfinish : StuckInv s.signOut.finish := by
            refine ⟨?_, ?_, ?_, fun hgone => ?_⟩
            · simpa [Page.signOut] using hinv.needed
            · simpa [Page.signOut] using hinv.users
            · simpa [Page.signOut] using hinv.route
            · simp at hgone
          unfold Page.reject
          obtain ⟨mounted, hsame⟩ := s.signOut.finish.setError_frame form message
          rw [hsame]
          exact ⟨hfinish.needed, hfinish.users, hfinish.route, hfinish.operation⟩
  | load hreload => exact absurd hreload (hstay _)
  | otherTab => exact ⟨hinv.needed, hinv.users, hinv.route, hinv.operation⟩
  | serve hserver =>
      refine ⟨hinv.needed, ?_, hinv.route, fun hoperation => ?_⟩
      · rcases Auth.SetupAdmin.step_cases hserver with ⟨_, _, rfl, -⟩ | ⟨_, _, -, hempty, -, -⟩ | ⟨_, _, -, rfl⟩ |
          ⟨_, users, user, _, -, hrows, -, -, rfl⟩
        · exact hinv.users
        · exact absurd hempty hinv.users
        · exact hinv.users
        · show users.rows ≠ []
          rw [hrows]
          exact List.append_ne_nil_of_right_ne_nil _ (List.cons_ne_nil _ _)
      · obtain ⟨form, request, hawait, hreply, hrefusing⟩ := hinv.operation hoperation
        exact ⟨form, request, hawait, hreply, refusing_of_step hserver hinv.users hrefusing⟩

/-- A page that shows the setup while there is a user, since someone else has done it, shows nothing else from then on,
whatever is submitted and answered, until it is loaded anew. -/
theorem setup_stuck {storage : LocalStorage} {url : Path} {nextForm : Nat} {users : Users}
    {labels later : List ShellLabel} {final : Page}
    (hrun : exec (shellStep env reqs) (.load storage url nextForm ⟨users, fun _ => .pending⟩) labels = some s)
    (hidle : s.auth.isLoading = false) (hdue : s.effectDue = false) (hneeded : s.auth.needsSetup = true)
    (husers : s.server.users.rows ≠ []) (hlater : exec (shellStep env reqs) s later = some final)
    (hstay : ∀ label ∈ later, ∀ url, label ≠ .reload url) :
    final.auth.needsSetup = true ∧ final.route = some .setup := by
  have hinv : FormInv s ∧ RouteInv s :=
    exec_invariant (fun s => FormInv s ∧ RouteInv s)
      (fun _ _ _ hinv hstep =>
        have hhappens := happens_of_step hstep
        ⟨formInv_step hinv.1 hhappens, routeInv_step hinv.1 hinv.2 hhappens⟩)
      hrun ⟨formInv_load _ _ _ _, nofun⟩
  obtain ⟨hform, hroute⟩ := hinv
  obtain ⟨path, hpath, hsettled⟩ := hroute hidle hdue
  have hstart : StuckInv s := by
    refine ⟨hneeded, husers, hpath.trans (congrArg some (hsettled.setup_iff.mpr hneeded)), fun hoperation => ?_⟩
    have hnone := hform.loading
    rw [hoperation, hidle] at hnone
    cases hnone
  have hfinal : FormInv final ∧ StuckInv final :=
    exec_invariant_of_guarded (fun s => FormInv s ∧ StuckInv s)
      (fun _ _ _ hinv hlabel hstep =>
        have hhappens := happens_of_step hstep
        ⟨formInv_step hinv.1 hhappens, stuckInv_step hinv.1 hinv.2 hlabel hhappens⟩)
      (guarded_of_forall (fun label hlabel _ => hstay label hlabel) _) hlater ⟨hform, hstart⟩
  exact ⟨hfinal.2.needed, hfinal.2.route⟩

/-- Another client sets the server up while this one shows the form. -/
def rivalSetup : List ShellLabel :=
  untilSetup ++ [.serve (.count 1 none), .serve (.hash 1), .serve (.create 1 none)]

/-- Then the form is submitted. -/
def lateSetup : List ShellLabel :=
  [.submitSetup 0, .serve (.count 0 none), .answerSetup, .settle, .invalidate, .navigate .login]

theorem exec_rivalSetup :
    (exec (shellStep Auth.SetupAdmin.sampleEnv Auth.SetupAdmin.sampleReqs) firstVisit rivalSetup).bind (fun s =>
        (exec (shellStep Auth.SetupAdmin.sampleEnv Auth.SetupAdmin.sampleReqs) s lateSetup).map fun _ =>
          (s.auth.isLoading, s.effectDue, s.auth.needsSetup, s.server.users.rows.length)) =
      some (false, false, true, 1) := by
  decide +kernel

theorem setup_stuck_rivalSetup :
    ∃ s final, exec (shellStep Auth.SetupAdmin.sampleEnv Auth.SetupAdmin.sampleReqs) firstVisit rivalSetup = some s ∧
      exec (shellStep Auth.SetupAdmin.sampleEnv Auth.SetupAdmin.sampleReqs) s lateSetup = some final ∧
        s.server.users.rows ≠ [] ∧ final.auth.needsSetup = true ∧ final.route = some .setup := by
  obtain ⟨s, hrun, hrest⟩ := Option.bind_eq_some_iff.mp exec_rivalSetup
  obtain ⟨final, hlater, hend⟩ := Option.map_eq_some_iff.mp hrest
  simp only [Prod.mk.injEq] at hend
  obtain ⟨hidle, hdue, hneeded, hlength⟩ := hend
  have husers : s.server.users.rows ≠ [] := by
    intro hempty
    rw [hempty] at hlength
    cases hlength
  exact ⟨s, final, hrun, hlater, husers, setup_stuck hrun hidle hdue hneeded husers hlater (by simp [lateSetup])⟩

end Shell
end Frontend
end Dmanager
