import Dmanager.Auth.PasskeyLogin
import Dmanager.Auth.SetupAdmin

/-!
# First-run setup and the login after it

`SetupAdmin` and `Login` of `internal/auth/service.go` one after the other, on an installation without users.  Two
components decide whether a password is good: `PasswordValidator.Validate` asks for at least twelve bytes, and
`bcrypt.GenerateFromPassword` refuses more than seventy-two.

* `setupAdmin` — the handler with nothing between its steps; `setupAdmin_of_run` ties it to the transition system of
  `Dmanager.Auth.SetupAdmin`.
* `LoginIssues` — every login with the request ends in a session for the user of that name.
* `setup_then_login_iff` — for a password that the validator accepts, setup and login compose exactly if it is no
  longer than seventy-two bytes; `setup_refuses_longPassphrase` is a passphrase that is longer.
-/

namespace Dmanager
namespace Auth
namespace FirstLogin

open Go Db Lib Server Handlers SetupAdmin PasskeyLogin
open Program (perform)

/-! ## SetupAdmin alone -/

/-- `SetupAdmin` when no other request comes between its steps and no statement fails. -/
def setupAdmin (env : Env) (req : SetupAdminRequest) (users : Users) : Users × Phase :=
  match countUsersPhase env req users none with
  | .counted =>
    match hashPhase env req with
    | .hashed passwordHash => createUserPhase req passwordHash users none
    | phase => (users, phase)
  | phase => (users, phase)

/-- The steps of one request, without faults. -/
def Undisturbed (i : Nat) : SetupAdmin.Label → Prop
  | .count j fault => j = i ∧ fault = none
  | .hash j => j = i
  | .create j fault => j = i ∧ fault = none

/-- How far a request on `users` has come when it leaves the table `table`. -/
def Progress (env : Env) (req : SetupAdminRequest) (users table : Users) : Phase → Prop
  | .pending => table = users
  | .counted => table = users ∧ countUsersPhase env req users none = .counted
  | .hashed passwordHash =>
    table = users ∧ countUsersPhase env req users none = .counted ∧ hashPhase env req = .hashed passwordHash
  | .done result => setupAdmin env req users = (table, .done result)

section Alone

variable {env : Env} {reqs : Nat → SetupAdminRequest} {users : Users} {s next : State} {i : Nat}

theorem progress_setPhase {phase : Phase} {table : Users} (hphase : Progress env (reqs i) users table phase) :
    Progress env (reqs i) users table ((State.setPhase { s with users := table } i phase).phase i) := by
  rw [State.setPhase_phase, if_pos rfl]
  exact hphase

/-- One step of the request. -/
theorem progress_step {label : SetupAdmin.Label} (hinv : Progress env (reqs i) users s.users (s.phase i))
    (halone : Undisturbed i label) (hstep : SetupAdmin.step env reqs s label = some next) :
    Progress env (reqs i) users next.users (next.phase i) := by
  cases label with
  | count j fault =>
      obtain ⟨rfl, rfl⟩ := halone
      cases hphase : s.phase j with
      | pending =>
          -- the request ends here if it is refused, and then `setupAdmin` ends so
          simp only [SetupAdmin.step, hphase, Option.some.injEq] at hstep
          have husers : s.users = users := by simpa only [Progress, hphase] using hinv
          subst hstep husers
          refine progress_setPhase ?_
          rcases countUsersPhase_cases env (reqs j) s.users none with ⟨hcounted, -⟩ | ⟨err, hfailed⟩
          · rw [hcounted]
            exact ⟨rfl, hcounted⟩
          · rw [hfailed]
            show setupAdmin env (reqs j) s.users = (s.users, .done (.error err))
            simp only [setupAdmin, hfailed]
      | counted => simp [SetupAdmin.step, hphase] at hstep
      | hashed passwordHash => simp [SetupAdmin.step, hphase] at hstep
      | done result => simp [SetupAdmin.step, hphase] at hstep
  | hash j =>
      obtain rfl : j = i := halone
      cases hphase : s.phase j with
      | counted =>
          simp only [SetupAdmin.step, hphase, Option.some.injEq] at hstep
          obtain ⟨husers, hcounted⟩ : s.users = users ∧ countUsersPhase env (reqs j) users none = .counted := by
            simpa only [Progress, hphase] using hinv
          subst hstep husers
          refine progress_setPhase ?_
          rcases hashPhase_cases env (reqs j) with ⟨passwordHash, hhashed⟩ | ⟨err, hfailed⟩
          · rw [hhashed]
            exact ⟨rfl, hcounted, hhashed⟩
          · rw [hfailed]
            show setupAdmin env (reqs j) s.users = (s.users, .done (.error err))
            simp only [setupAdmin, hcounted, hfailed]
      | pending => simp [SetupAdmin.step, hphase] at hstep
      | hashed passwordHash => simp [SetupAdmin.step, hphase] at hstep
      | done result => simp [SetupAdmin.step, hphase] at hstep
  | create j fault =>
      obtain ⟨rfl, rfl⟩ := halone
      cases hphase : s.phase j with
      | hashed passwordHash =>
          simp only [SetupAdmin.step, hphase, Option.some.injEq] at hstep
          obtain ⟨husers, hcounted, hhashed⟩ : s.users = users ∧ countUsersPhase env (reqs j) users none = .counted ∧
              hashPhase env (reqs j) = .hashed passwordHash := by
            simpa only [Progress, hphase] using hinv
          subst hstep husers
          refine progress_setPhase ?_
          have hwhole : setupAdmin env (reqs j) s.users = createUserPhase (reqs j) passwordHash s.users none := by
            simp only [setupAdmin, hcounted, hhashed]
          rcases createUserPhase_cases (reqs j) passwordHash s.users none with ⟨_, _, -, -, -, hdone⟩ | ⟨-, _, hdone⟩
          · rw [hdone]
            exact hwhole.trans (Prod.ext rfl hdone)
          · rw [hdone]
            exact hwhole.trans (Prod.ext rfl hdone)
      | pending => simp [SetupAdmin.step, hphase] at hstep
      | counted => simp [SetupAdmin.step, hphase] at hstep
      | done result => simp [SetupAdmin.step, hphase] at hstep

/-- A request that runs alone and is done has done what `setupAdmin` says. -/
theorem setupAdmin_of_run {labels : List SetupAdmin.Label} {final : State}
    {result : Except ConnectError SetupAdminResponse}
    (halone : ∀ label ∈ labels, Undisturbed i label)
    (hrun : exec (SetupAdmin.step env reqs) ⟨users, fun _ => .pending⟩ labels = some final)
    (hdone : final.phase i = .done result) : setupAdmin env (reqs i) users = (final.users, .done result) := by
  have hinv : Progress env (reqs i) users final.users (final.phase i) :=
    exec_invariant_of_guarded (fun s : State => Progress env (reqs i) users s.users (s.phase i))
      (fun _ _ _ hinv hlabel hstep => progress_step hinv hlabel hstep)
      (guarded_of_forall (fun label hlabel _ => halone label hlabel) _) hrun rfl
  rw [hdone] at hinv
  exact hinv

/-- And there is such a run, for every request and every table. -/
theorem exists_run_setupAdmin (env : Env) (reqs : Nat → SetupAdminRequest) (users : Users) (i : Nat) :
    ∃ labels final result, (∀ label ∈ labels, Undisturbed i label) ∧
      exec (SetupAdmin.step env reqs) ⟨users, fun _ => .pending⟩ labels = some final ∧
        final.phase i = .done result := by
  let start : State := ⟨users, fun _ => .pending⟩
  have hcount : SetupAdmin.step env reqs start (.count i none) =
      some (start.setPhase i (countUsersPhase env (reqs i) users none)) := rfl
  rcases countUsersPhase_cases env (reqs i) users none with ⟨hcounted, -⟩ | ⟨err, hfailed⟩
  · rw [hcounted] at hcount
    let counted := start.setPhase i .counted
    have hhash : SetupAdmin.step env reqs counted (.hash i) = some (counted.setPhase i (hashPhase env (reqs i))) := by
      simp [SetupAdmin.step, counted, State.setPhase_phase]
    rcases hashPhase_cases env (reqs i) with ⟨passwordHash, hhashed⟩ | ⟨err, hfailed⟩
    · rw [hhashed] at hhash
      let hashed := counted.setPhase i (.hashed passwordHash)
      have hcreate : SetupAdmin.step env reqs hashed (.create i none) =
          some (State.setPhase { hashed with users := (createUserPhase (reqs i) passwordHash users none).1 } i
            (createUserPhase (reqs i) passwordHash users none).2) := by
        simp [SetupAdmin.step, hashed, counted, start, State.setPhase_phase]
      have hdone : ∃ result, (createUserPhase (reqs i) passwordHash users none).2 = .done result := by
        rcases createUserPhase_cases (reqs i) passwordHash users none with
          ⟨_, response, -, -, -, hdone⟩ | ⟨-, err, hdone⟩
        · exact ⟨_, hdone⟩
        · exact ⟨_, hdone⟩
      obtain ⟨result, hdone⟩ := hdone
      rw [hdone] at hcreate
      exact ⟨[.count i none, .hash i, .create i none], _, result, by simp [Undisturbed],
        exec_cons_eq_some_iff.mpr ⟨_, hcount, exec_cons_eq_some_iff.mpr ⟨_, hhash,
          exec_cons_eq_some_iff.mpr ⟨_, hcreate, rfl⟩⟩⟩, by rw [State.setPhase_phase, if_pos rfl]⟩
    · refine ⟨[.count i none, .hash i], _, .error err, by simp [Undisturbed],
        exec_cons_eq_some_iff.mpr ⟨_, hcount, exec_cons_eq_some_iff.mpr ⟨_, hhash, rfl⟩⟩, ?_⟩
      rw [State.setPhase_phase, if_pos rfl, hfailed]
  · refine ⟨[.count i none], _, .error err, by simp [Undisturbed], exec_cons_eq_some_iff.mpr ⟨_, hcount, rfl⟩, ?_⟩
    rw [State.setPhase_phase, if_pos rfl, hfailed]

end Alone

/-! ## What is known of the parts outside -/

/-- The documented behaviour of bcrypt: with a valid cost it refuses exactly the passwords that are too long, and a
hash compares with the password it was made from. -/
structure Bcrypt (env : Env) (w : AuthWorld) : Prop where
  generate_fails_iff : ∀ password cost, 4 ≤ cost → cost ≤ 31 →
    ((∃ err, env.generateFromPassword password cost = .error err) ↔ 72 < password.length)
  compare_ok : ∀ password cost hash, env.generateFromPassword password cost = .ok hash →
    w.possible ⟨.compareHashAndPassword hash password, .ok ()⟩ = true
  compare_not_error : ∀ password cost hash err, env.generateFromPassword password cost = .ok hash →
    w.possible ⟨.compareHashAndPassword hash password, .error err⟩ = false

/-- No statement fails without a reason in the tables, and the random source can be read. -/
structure Calm (w : AuthWorld) : Prop where
  faults : ∀ op, w.faults op = false
  random_ok : ∃ token, w.possible ⟨.randRead, .ok token⟩ = true
  random_not_error : ∀ err, w.possible ⟨.randRead, .error err⟩ = false

/-- An installation that has just been started for the first time. -/
structure FirstRun (s : AuthState) : Prop where
  noUsers : s.users.rows = []
  foreignKey : ∀ session ∈ s.sessions, ∃ user, s.users.getUser session.userID = some user
  freshLimiter : s.limiter = newRateLimiter

/-- A session would need a user. -/
theorem FirstRun.noSessions {s : AuthState} (hfirst : FirstRun s) : s.sessions = KeyedTable.empty := by
  cases hsessions : s.sessions with
  | mk rows hnodup =>
      cases rows with
      | nil => rfl
      | cons row rest =>
          have hrow : row ∈ s.sessions := by
            rw [hsessions]
            exact List.mem_cons_self
          obtain ⟨owner, howner⟩ := hfirst.foreignKey row hrow
          simp [Users.getUser, hfirst.noUsers] at howner

/-! ## Login -/

/-- Every login with the request ends in a session for the user of that name, and there is one. -/
def LoginIssues (w : AuthWorld) (service : AuthService) (s : AuthState) (req : LoginRequest) : Prop :=
  (∃ r, MayEnd (aloneStep w) [] s (login service req) r) ∧
    ∀ r, MayEnd (aloneStep w) [] s (login service req) r →
      ∃ user response, ∃ session : Session, s.users.getUserByUsername req.username = some user ∧
        r.result = .ok response ∧ response.username = req.username ∧ session.userID = user.id ∧
          s.sessions.insert? session = some r.shared.sessions

section Login

variable {w : AuthWorld} {service : AuthService} {s mid next : AuthState} {req : LoginRequest} {user : User}
variable {past : List AuthEvent} {rememberMe : Bool} {reqHeader : Header} {method clientIP : GoString}

/-- A fresh limiter locks nobody out. -/
theorem unlocked_of_fresh (hfresh : s.limiter = newRateLimiter) (username clientIP : GoString) (now : Int) :
    ¬ (s.limiter.UserLocked username now ∨ s.limiter.IPLocked clientIP now) := by
  have hnone (key : GoString) : RateLimiter.checkKey (fun _ => none) key now = 0 := by
    unfold RateLimiter.checkKey
    split
    · rfl
    · rfl
  rw [hfresh]
  simp [RateLimiter.UserLocked, RateLimiter.IPLocked, newRateLimiter, hnone]

/-- Without sessions in the way, the insert of one is not refused. -/
theorem createSession_of_noSessions {users : Users} (arg : CreateSessionParams) (now : Int)
    (hnone : s.sessions = KeyedTable.empty) (hknown : users.getUser arg.userID = some user) :
    ∃ sessions, Sessions.createSession users s.sessions arg now = some sessions ∧
      s.sessions.insert? (arg.row now) = some sessions := by
  cases hinsert : s.sessions.insert? (arg.row now) with
  | none =>
      obtain ⟨other, hother, -⟩ := KeyedTable.insert?_eq_none_iff.mp hinsert
      rw [hnone] at hother
      exact absurd hother (KeyedTable.not_mem_empty other)
  | some sessions =>
      refine ⟨sessions, ?_, rfl⟩
      unfold Sessions.createSession
      rw [hknown]
      exact hinsert

/-- The end of a login, when there are no sessions yet. -/
theorem ensures_completeLogin_first (hcalm : Calm w) (hnone : s.sessions = KeyedTable.empty)
    (hknown : s.users.getUser user.id = some user) :
    (completeLogin service user rememberMe reqHeader method clientIP).Ensures (aloneStep w)
      (fun _ final response => response.username = user.username ∧ Issued s final user.id) (fun _ _ _ => False)
      past s := by
  refine ensures_completeLogin (fun _ _ _ hstep => hstep) ?_ ?_
  · rintro _ err _ ⟨_, -, hallowed, -⟩
    exact absurd (hallowed.symm.trans (hcalm.random_not_error err)) (by decide)
  · rintro mid arg answer _ hmid hid ⟨clock, hclock, hallowed, rfl⟩
    have hknown' : mid.users.getUser arg.userID = some user := by rw [hmid.users, hid, hknown]
    obtain ⟨sessions, hcreated, hinsert⟩ :=
      createSession_of_noSessions arg clock (hmid.sessions.trans hnone) hknown'
    cases answer with
    | error err => simp [AuthState.allowed, hcreated, hcalm.faults] at hallowed
    | ok _ =>
        refine ⟨rfl, ?_⟩
        simp only [AuthState.after, hcreated]
        exact ⟨⟨arg.row clock, rfl, hinsert⟩, rfl, hclock⟩

/-- Every login of the user of an installation without sessions, and with a limiter that is fresh, succeeds. -/
theorem ensures_login (hcalm : Calm w) (hfresh : s.limiter = newRateLimiter) (hnone : s.sessions = KeyedTable.empty)
    (hnames : req.username ≠ [] ∧ req.password ≠ [])
    (hfound : s.users.getUserByUsername req.username = some user) (hknown : s.users.getUser user.id = some user)
    (hcompare : ∀ err, w.possible ⟨.compareHashAndPassword user.passwordHash req.password, .error err⟩ = false) :
    (login service req).Ensures (aloneStep w)
      (fun _ final response => response.username = req.username ∧
        ∃ session : Session, session.userID = user.id ∧ s.sessions.insert? session = some final.sessions)
      (fun _ _ _ => False) past s := by
  have hname : user.username = req.username := by simpa using List.find?_some hfound
  unfold login Program.ensure
  rw [if_pos hnames, Program.done_bind, Program.ensures_bind]
  refine ensures_requireUnlocked.imp ?_ ?_
  · rintro _ unlocked _ ⟨hunlocked, -⟩
    refine Program.ensures_perform_bind.mpr fun found asked hask => ?_
    have hasked : Kept s asked := hunlocked.trans (kept_of_step id id hask)
    have hrow : unlocked.users.getUserByUsername req.username = some user := by rw [hunlocked.users, hfound]
    obtain ⟨_, -, hallowed, -⟩ := hask
    rcases found with err | other
    · cases err with
      | noRows => simp [AuthState.allowed, queryAllowed, hrow] at hallowed
      | other message => simp [AuthState.allowed, queryAllowed, hcalm.faults] at hallowed
    · obtain rfl : user = other := Option.some.inj (hrow.symm.trans (of_decide_eq_true hallowed))
      refine Program.ensures_perform_bind.mpr fun compared verified hverify => ?_
      have hverified : Kept s verified := hasked.trans (kept_of_step id id hverify)
      obtain ⟨_, -, hallowed, -⟩ := hverify
      rcases compared with err | _
      · exact absurd (hallowed.symm.trans (hcompare err)) (by decide)
      · refine Program.ensures_perform_bind.mpr fun _ cleared hclear => ?_
        have hcleared : Kept s cleared := hverified.trans (kept_of_step id id hclear)
        have hknown' : cleared.users.getUser user.id = some user := by rw [hcleared.users, hknown]
        refine (ensures_completeLogin_first hcalm (hcleared.sessions.trans hnone) hknown').imp ?_ fun _ _ _ hno => hno
        rintro _ final response ⟨husername, hissued⟩
        exact ⟨husername.trans hname, hcleared.sessions ▸ hissued.session⟩
  · -- the only refusal that is left, by the limiter, does not happen
    rintro _ locked err ⟨-, checked, hlocked⟩
    exact unlocked_of_fresh hfresh _ _ checked hlocked

/-- A call that is answered at once. -/
theorem canEnd_call {α : Type} {op : AuthCall} {rest : AuthAnswer op → AuthHandler α} (answer : AuthAnswer op)
    (hallowed : s.allowed w ⟨op, answer⟩ = true)
    (hrest : ∃ r, MayEnd (aloneStep w) (⟨op, answer⟩ :: past) (s.after w ⟨op, answer⟩) (rest answer) r) :
    ∃ r, MayEnd (aloneStep w) past s (.call op rest) r := by
  obtain ⟨r, hrest⟩ := hrest
  exact ⟨r, .call ⟨s.clock, le_rfl, hallowed, rfl⟩ hrest⟩

/-- One login of that user can be answered to its end. -/
theorem canLogin (hcalm : Calm w) (hfresh : s.limiter = newRateLimiter) (hnone : s.sessions = KeyedTable.empty)
    (hnames : req.username ≠ [] ∧ req.password ≠ [])
    (hfound : s.users.getUserByUsername req.username = some user) (hknown : s.users.getUser user.id = some user)
    (hcompare : w.possible ⟨.compareHashAndPassword user.passwordHash req.password, .ok ()⟩ = true) :
    ∃ r, MayEnd (aloneStep w) [] s (login service req) r := by
  obtain ⟨token, htoken⟩ := hcalm.random_ok
  have hcheck : (s.limiter.check req.username req.clientIP s.clock).2 = (false, 0) :=
    RateLimiter.check_of_unlocked (Bool.eq_false_iff.mpr fun hlocked =>
      unlocked_of_fresh hfresh _ _ _ (RateLimiter.check_locked_iff.mp hlocked))
  obtain ⟨sessions, hcreated, -⟩ := createSession_of_noSessions
    (issueParams service.cfg user.id req.rememberMe token req.reqHeader s.clock) s.clock hnone hknown
  have hcreate : s.allowed w ⟨.createSession
      (issueParams service.cfg user.id req.rememberMe token req.reqHeader s.clock), .ok ()⟩ = true := by
    simp [AuthState.allowed, hcreated]
  unfold login Program.ensure
  rw [if_pos hnames, Program.done_bind]
  -- `timeNow`, `check`, `getUserByUsername`, `compareHashAndPassword`, `recordSuccess`, then the session
  refine canEnd_call s.clock (decide_eq_true rfl) ?_
  refine canEnd_call (false, 0) (decide_eq_true hcheck.symm) ?_
  refine canEnd_call (.ok user) (decide_eq_true hfound) ?_
  refine canEnd_call (.ok ()) hcompare ?_
  refine canEnd_call () rfl ?_
  refine canEnd_call (.ok token) htoken ?_
  refine canEnd_call s.clock (decide_eq_true rfl) ?_
  refine canEnd_call (.ok ()) hcreate ?_
  refine canEnd_call () rfl ?_
  exact ⟨_, .done _ _ _⟩

end Login

/-! ## Setup, then login -/

section Compose

variable {env : Env} {w : AuthWorld} {service : AuthService} {s : AuthState} {req : SetupAdminRequest}
variable {users : Users}

/-- The cost that is handed to bcrypt. -/
def costOf (env : Env) : Int := if env.bcryptCost = 0 then 12 else env.bcryptCost

/-- The configured cost is one that bcrypt takes, or the zero that stands for the default. -/
def ValidCost (env : Env) : Prop := env.bcryptCost = 0 ∨ 4 ≤ env.bcryptCost ∧ env.bcryptCost ≤ 31

theorem costOf_bounds (hcost : ValidCost env) : 4 ≤ costOf env ∧ costOf env ≤ 31 := by
  unfold costOf
  rcases hcost with hzero | hvalid
  · rw [if_pos hzero]
    decide
  · split
    · decide
    · exact hvalid

/-- What the validator accepts gets past the count of the users. -/
theorem countUsersPhase_accepted (hempty : users.rows = []) (hname : req.username ≠ [])
    (haccepted : env.validator.validate req.password = .ok ()) : countUsersPhase env req users none = .counted := by
  have hpassword : req.password ≠ [] := by
    intro hnil
    rw [hnil] at haccepted
    exact absurd haccepted nofun
  simp [countUsersPhase, hname, hpassword, haccepted, Users.countUsers, hempty]

/-- Setup fails when bcrypt does. -/
theorem setupAdmin_of_unhashable {err : GoString} (hempty : users.rows = []) (hname : req.username ≠ [])
    (haccepted : env.validator.validate req.password = .ok ())
    (hhash : env.generateFromPassword req.password (costOf env) = .error err) :
    setupAdmin env req users = (users, .done (.error (wrapError .internal "failed to hash password" err))) := by
  have hphase : hashPhase env req = .done (.error (wrapError .internal "failed to hash password" err)) := by
    simp only [hashPhase]
    rw [← costOf, hhash]
  simp only [setupAdmin, countUsersPhase_accepted hempty hname haccepted, hphase]

/-- Otherwise it creates the one user. -/
theorem setupAdmin_of_hashed {hash : GoString} (hempty : users.rows = []) (hname : req.username ≠ [])
    (haccepted : env.validator.validate req.password = .ok ())
    (hhash : env.generateFromPassword req.password (costOf env) = .ok hash) :
    ∃ next, setupAdmin env req users = (next, .done (.ok ⟨req.username, adminRole⟩)) ∧
      next.rows = [⟨users.seq + 1, req.username, hash, adminRole⟩] := by
  have hphase : hashPhase env req = .hashed hash := by
    simp only [hashPhase]
    rw [← costOf, hhash]
  cases hcreate : users.createUser ⟨req.username, hash, adminRole⟩ with
  | none =>
      obtain ⟨user, huser, -⟩ := Users.createUser_eq_none_iff.mp hcreate
      rw [hempty] at huser
      cases huser
  | some result =>
      obtain ⟨next, user⟩ := result
      obtain ⟨hrows, -, -⟩ := Users.createUser_eq_some hcreate
      have huser := Users.createUser_row hcreate
      subst huser
      refine ⟨next, ?_, by rw [hrows, hempty]; rfl⟩
      simp only [setupAdmin, countUsersPhase_accepted hempty hname haccepted, hphase, createUserPhase, hcreate]

/-- For a password that the validator accepts, `SetupAdmin` and a `Login` after it compose exactly if the password
has at most seventy-two bytes. -/
theorem setup_then_login_iff (hbcrypt : Bcrypt env w) (hcost : ValidCost env) (hcalm : Calm w) (hfirst : FirstRun s)
    (hname : req.username ≠ []) (haccepted : env.validator.validate req.password = .ok ()) {request : LoginRequest}
    (husername : request.username = req.username) (hpassword : request.password = req.password) :
    (∃ users response, setupAdmin env req s.users = (users, .done (.ok response)) ∧
        response.username = req.username ∧ LoginIssues w service { s with users := users } request) ↔
      req.password.length ≤ 72 := by
  have hbound := costOf_bounds hcost
  have hlong := hbcrypt.generate_fails_iff req.password (costOf env) hbound.1 hbound.2
  cases hhash : env.generateFromPassword req.password (costOf env) with
  | error err =>
      have hlength : 72 < req.password.length := hlong.mp ⟨err, hhash⟩
      refine iff_of_false ?_ (not_le.mpr hlength)
      rintro ⟨users, response, hsetup, -⟩
      rw [setupAdmin_of_unhashable hfirst.noUsers hname haccepted hhash] at hsetup
      cases hsetup
  | ok hash =>
      have hlength : req.password.length ≤ 72 := by
        rw [← not_lt, ← hlong, hhash]
        rintro ⟨err, ⟨⟩⟩
      refine iff_of_true ?_ hlength
      obtain ⟨users, hsetup, hrows⟩ := setupAdmin_of_hashed hfirst.noUsers hname haccepted hhash
      let user : User := ⟨s.users.seq + 1, req.username, hash, adminRole⟩
      have hfound : users.getUserByUsername request.username = some user := by
        simp [Users.getUserByUsername, hrows, husername, user]
      have hknown : users.getUser user.id = some user := by
        simp [Users.getUser, hrows, user]
      have hnone := hfirst.noSessions
      have hnames : request.username ≠ [] ∧ request.password ≠ [] := by
        rw [husername, hpassword]
        refine ⟨hname, fun hnil => ?_⟩
        rw [hnil] at haccepted
        exact absurd haccepted nofun
      refine ⟨users, _, hsetup, rfl, ?_, fun r hrun => ?_⟩
      · exact canLogin hcalm hfirst.freshLimiter hnone hnames hfound hknown
          (hpassword ▸ hbcrypt.compare_ok _ _ _ hhash)
      · have hends := hrun.ensured (ensures_login hcalm hfirst.freshLimiter hnone hnames hfound hknown
          fun err => hpassword ▸ hbcrypt.compare_not_error _ _ _ err hhash)
        cases hresult : r.result with
        | error err => exact (hends.2 err hresult).elim
        | ok response =>
            obtain ⟨hresponse, session, howner, hinsert⟩ := hends.1 response hresult
            exact ⟨user, response, session, hfound, rfl, hresponse, howner, hinsert⟩

end Compose

/-! ## Two passphrases -/

/-- A stand-in for a hash, from which the password can be read off. -/
def hashOf (password : GoString) : GoString := str "$2a$12$" ++ password

/-- The service with default settings; bcrypt refuses what is too long. -/
def bcryptEnv : Env where
  validator := ⟨false, fun _ => false⟩
  bcryptCost := 12
  generateFromPassword := fun password _ =>
    if 72 < password.length then .error (str "bcrypt: password length exceeds 72 bytes") else .ok (hashOf password)

/-- A comparison succeeds for the password of the hash, and every read of the random source succeeds. -/
def bcryptWorld : AuthWorld where
  conversion := .amd64
  sqlLess := fun s t => decide (s < t)
  faults := fun _ => false
  possible := fun event =>
    match event with
    | ⟨.compareHashAndPassword hash password, .ok _⟩ => decide (hash = hashOf password)
    | ⟨.compareHashAndPassword hash password, .error _⟩ => decide (hash ≠ hashOf password)
    | ⟨.randRead, .error _⟩ => false
    | _ => true

theorem bcrypt_bcryptWorld : Bcrypt bcryptEnv bcryptWorld := by
  have hhash {password hash : GoString} {cost : Int}
      (hgenerated : bcryptEnv.generateFromPassword password cost = .ok hash) : hash = hashOf password := by
    unfold bcryptEnv at hgenerated
    dsimp only at hgenerated
    split at hgenerated
    · cases hgenerated
    · exact (Except.ok.inj hgenerated).symm
  refine ⟨fun password cost _ _ => ?_, fun password cost hash hgenerated => ?_,
    fun password cost hash err hgenerated => ?_⟩
  · unfold bcryptEnv
    dsimp only
    split
    · rename_i hlong
      exact iff_of_true ⟨_, rfl⟩ hlong
    · rename_i hshort
      exact iff_of_false (fun ⟨_, herror⟩ => nomatch herror) hshort
  · exact decide_eq_true (hhash hgenerated)
  · exact decide_eq_false (not_not.mpr (hhash hgenerated))

theorem calm_bcryptWorld : Calm bcryptWorld :=
  ⟨fun _ => rfl, ⟨⟨List.replicate 32 7, by decide⟩, rfl⟩, fun _ => rfl⟩

/-- Nothing has happened yet. -/
def emptyInstallation : AuthState := { passkeyState with users := Users.empty }

theorem firstRun_emptyInstallation : FirstRun emptyInstallation :=
  ⟨rfl, fun session hsession => absurd hsession (KeyedTable.not_mem_empty session), rfl⟩

def setupRequest : SetupAdminRequest := ⟨str "admin", str "correct horse battery staple"⟩

def loginRequest : LoginRequest := ⟨str "admin", str "correct horse battery staple", false, none, str "192.0.2.1"⟩

theorem setup_then_login_iff_passphrase :
    (∃ users response, setupAdmin bcryptEnv setupRequest emptyInstallation.users = (users, .done (.ok response)) ∧
        response.username = setupRequest.username ∧
          LoginIssues bcryptWorld defaultService { emptyInstallation with users := users } loginRequest) ↔
      setupRequest.password.length ≤ 72 :=
  setup_then_login_iff bcrypt_bcryptWorld (Or.inr (by decide)) calm_bcryptWorld firstRun_emptyInstallation (by decide)
    rfl rfl rfl

/-- Twelve words of a passphrase. -/
def longRequest : SetupAdminRequest :=
  ⟨str "admin", str "correct horse battery staple correct horse battery staple correct horse battery staple"⟩

/-- The validator accepts the passphrase, with the breach check off; the setup fails. -/
theorem setup_refuses_longPassphrase :
    Bcrypt bcryptEnv bcryptWorld ∧ ValidCost bcryptEnv ∧ Calm bcryptWorld ∧ FirstRun emptyInstallation ∧
      bcryptEnv.validator.checkBreached = false ∧ longRequest.username ≠ [] ∧
      bcryptEnv.validator.validate longRequest.password = .ok () ∧
      setupAdmin bcryptEnv longRequest emptyInstallation.users = (emptyInstallation.users, .done (.error
        (wrapError .internal "failed to hash password" (str "bcrypt: password length exceeds 72 bytes")))) := by
  have hname : longRequest.username ≠ [] := by decide
  have haccepted : bcryptEnv.validator.validate longRequest.password = .ok () := by decide +kernel
  have hlong : 72 < longRequest.password.length := by decide +kernel
  have hhash : bcryptEnv.generateFromPassword longRequest.password (costOf bcryptEnv) =
      .error (str "bcrypt: password length exceeds 72 bytes") := by
    simp only [bcryptEnv, if_pos hlong]
  exact ⟨bcrypt_bcryptWorld, Or.inr (by decide), calm_bcryptWorld, firstRun_emptyInstallation, rfl, hname, haccepted,
    setupAdmin_of_unhashable rfl hname haccepted hhash⟩

end FirstLogin

end Auth
end Dmanager
