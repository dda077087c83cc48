import Dmanager.Auth.Session
import Dmanager.Lib.TransitionSystem

/-!
# First-run setup: `SetupAdmin` under concurrency

`SetupAdmin` is open to anyone as long as the `users` table is empty.  One request runs three steps that
other requests can come between: `CountUsers`, the slow `bcrypt.GenerateFromPassword`, and `CreateUser`.
The model is a transition system over any number of requests: request `i` is `reqs i`, and a label names
the request that takes its next step.

The emptiness check and the insert are not one statement, so two requests with different usernames that
both count before either inserts both create an admin (`setupAdmin_race`); only the uniqueness of
`users.username` stops requests that ask for the same name.  `NoRival` is the condition on a `CountUsers`
step that excludes this: no request for another name is between its own `CountUsers` and `CreateUser`.
Every run that meets it creates at most one user (`setupAdmin_atMostOne`), and a run that has not met it
can always go on to create two (`setupAdmin_race_of_rival`).
-/

namespace Dmanager
namespace Auth
namespace SetupAdmin

open Go Db Lib

/-- `MinPasswordLength`. -/
def minPasswordLength : Nat := 12

/-- `PasswordValidator`: whether the breach lookup is on, and what it decides about a password (`false`
also when the lookup fails, since it fails open). -/
structure PasswordValidator where
  checkBreached : Bool
  breached : GoString → Bool

/-- `PasswordValidator.Validate`; `len` counts bytes. -/
def PasswordValidator.validate (v : PasswordValidator) (password : GoString) : Except ConnectError Unit :=
  if password.length < minPasswordLength then
    .error ⟨.invalidArgument,
      str "password must be at least " ++ natString minPasswordLength ++ str " characters"⟩
  else if !v.checkBreached then .ok ()
  else if v.breached password then
    .error (newError .invalidArgument
      "the chosen password appears in a known data breach; please choose a different password")
  else .ok ()

/-- What the handler uses of the service: the validator, the configured cost, and
`bcrypt.GenerateFromPassword` with the texts of its errors. -/
structure Env where
  validator : PasswordValidator
  bcryptCost : Int
  generateFromPassword : GoString → Int → Except GoString GoString

structure SetupAdminRequest where
  username : GoString
  password : GoString
  deriving DecidableEq, Repr

structure SetupAdminResponse where
  username : GoString
  role : GoString
  deriving DecidableEq, Repr

/-- How far a request has come. -/
inductive Phase where
  | pending
  | counted
  | hashed (passwordHash : GoString)
  | done (result : Except ConnectError SetupAdminResponse)

/-- Between `CountUsers`, which returned 0, and `CreateUser`. -/
def Phase.InFlight : Phase → Prop
  | .counted => True
  | .hashed _ => True
  | _ => False

def Phase.Succeeded : Phase → Prop
  | .done (.ok _) => True
  | _ => False

/-- The users table, and the phase of every request. -/
structure State where
  users : Users
  phase : Nat → Phase

/-- Fresh requests on an empty table. -/
def State.init : State := ⟨Users.empty, fun _ => .pending⟩

def State.setPhase (s : State) (i : Nat) (phase : Phase) : State :=
  { s with phase := Function.update s.phase i phase }

@[simp] theorem State.setPhase_users (s : State) (i : Nat) (phase : Phase) :
    (s.setPhase i phase).users = s.users := rfl

theorem State.setPhase_phase (s : State) (i j : Nat) (phase : Phase) :
    (s.setPhase i phase).phase j = if j = i then phase else s.phase j := by
  simp [State.setPhase, Function.update_apply]

/-- The handler up to and including `CountUsers`; `fault` is the error of the statement, if it fails. -/
def countUsersPhase (env : Env) (req : SetupAdminRequest) (users : Users) (fault : Option GoString) :
    Phase :=
  if req.username = [] ∨ req.password = [] then
    .done (.error (newError .invalidArgument "username and password are required"))
  else
    match env.validator.validate req.password with
    | .error e => .done (.error e)
    | .ok _ =>
      match fault with
      | some cause => .done (.error (wrapError .internal "failed to check existing users" cause))
      | none =>
        if 0 < users.countUsers then
          .done (.error (newError .failedPrecondition "admin account already setup"))
        else .counted

/-- The hashing step; a cost of 0 means 12. -/
def hashPhase (env : Env) (req : SetupAdminRequest) : Phase :=
  let cost := if env.bcryptCost = 0 then 12 else env.bcryptCost
  match env.generateFromPassword req.password cost with
  | .error cause => .done (.error (wrapError .internal "failed to hash password" cause))
  | .ok passwordHash => .hashed passwordHash

/-- `CreateUser` and the response. -/
def createUserPhase (req : SetupAdminRequest) (passwordHash : GoString) (users : Users)
    (fault : Option GoString) : Users × Phase :=
  match fault with
  | some cause => (users, .done (.error (wrapError .internal "failed to create admin" cause)))
  | none =>
    match users.createUser ⟨req.username, passwordHash, adminRole⟩ with
    | none =>
      (users, .done (.error (wrapError .internal "failed to create admin"
        (str "UNIQUE constraint failed: users.username"))))
    | some (next, user) => (next, .done (.ok ⟨user.username, user.role⟩))

/-- The step a request takes; `fault` makes the statement of the step fail with that text. -/
inductive Label where
  | count (i : Nat) (fault : Option GoString)
  | hash (i : Nat)
  | create (i : Nat) (fault : Option GoString)
  deriving DecidableEq, Repr

/-- One atomic step of one request. -/
def step (env : Env) (reqs : Nat → SetupAdminRequest) (s : State) : Label → Option State
  | .count i fault =>
      match s.phase i with
      | .pending => some (s.setPhase i (countUsersPhase env (reqs i) s.users fault))
      | _ => none
  | .hash i =>
      match s.phase i with
      | .counted => some (s.setPhase i (hashPhase env (reqs i)))
      | _ => none
  | .create i fault =>
      match s.phase i with
      | .hashed passwordHash =>
          let result := createUserPhase (reqs i) passwordHash s.users fault
          some (State.setPhase { s with users := result.1 } i result.2)
      | _ => none

/-- At most one user exists, it was created by the one request that succeeded, and nothing else added a
row: there is a row exactly when some request has succeeded. -/
structure AtMostOneAdmin (s : State) : Prop where
  rows_le_one : s.users.rows.length ≤ 1
  winner_unique : ∀ i j, (s.phase i).Succeeded → (s.phase j).Succeeded → i = j
  row_iff_winner : s.users.rows ≠ [] ↔ ∃ i, (s.phase i).Succeeded

/-- When `CountUsers` of request `i` finds no user, no request for another name is in flight. -/
def NoRival (reqs : Nat → SetupAdminRequest) (s : State) : Label → Prop
  | .count i _ =>
      s.users.rows = [] → ∀ j, (s.phase j).InFlight → (reqs j).username = (reqs i).username
  | _ => True

/-! ## What a step can do -/

/-- `CountUsers` lets a request through only on an empty table. -/
theorem countUsersPhase_cases (env : Env) (req : SetupAdminRequest) (users : Users)
    (fault : Option GoString) :
    (countUsersPhase env req users fault = .counted ∧ users.rows = []) ∨
      ∃ e, countUsersPhase env req users fault = .done (.error e) := by
  unfold countUsersPhase
  split
  · exact Or.inr ⟨_, rfl⟩
  · split
    · exact Or.inr ⟨_, rfl⟩
    · split
      · exact Or.inr ⟨_, rfl⟩
      · split
        · exact Or.inr ⟨_, rfl⟩
        · rename_i hcount
          left
          exact ⟨rfl, List.length_eq_zero_iff.mp (Nat.eq_zero_of_not_pos hcount)⟩

theorem hashPhase_cases (env : Env) (req : SetupAdminRequest) :
    (∃ passwordHash, hashPhase env req = .hashed passwordHash) ∨
      ∃ e, hashPhase env req = .done (.error e) := by
  simp only [hashPhase]
  split
  · exact Or.inr ⟨_, rfl⟩
  · exact Or.inl ⟨_, rfl⟩

/-- `CreateUser` either adds one row with the requested, so far unused name, or changes nothing. -/
theorem createUserPhase_cases (req : SetupAdminRequest) (passwordHash : GoString) (users : Users)
    (fault : Option GoString) :
    (∃ user response, (createUserPhase req passwordHash users fault).1.rows = users.rows ++ [user] ∧
        user.username = req.username ∧ req.username ∉ users.rows.map User.username ∧
        (createUserPhase req passwordHash users fault).2 = .done (.ok response)) ∨
      ((createUserPhase req passwordHash users fault).1 = users ∧
        ∃ e, (createUserPhase req passwordHash users fault).2 = .done (.error e)) := by
  unfold createUserPhase
  split
  · exact Or.inr ⟨rfl, _, rfl⟩
  · split
    · exact Or.inr ⟨rfl, _, rfl⟩
    · rename_i next user hcreate
      obtain ⟨hrows, hname, hfree⟩ := Users.createUser_eq_some hcreate
      exact Or.inl ⟨user, _, hrows, hname, hfree, rfl⟩

/-- Everything an enabled step can do: fail one request, let it through the count on an empty table, move
it past the hash, or create its user. -/
theorem step_cases {env : Env} {reqs : Nat → SetupAdminRequest} {s next : State} {label : Label}
    (hstep : step env reqs s label = some next) :
    (∃ i e, next = s.setPhase i (.done (.error e)) ∧ ¬ (s.phase i).Succeeded) ∨
      (∃ i fault, label = .count i fault ∧ s.users.rows = [] ∧ next = s.setPhase i .counted ∧
        ¬ (s.phase i).Succeeded) ∨
      (∃ i passwordHash, s.phase i = .counted ∧ next = s.setPhase i (.hashed passwordHash)) ∨
      (∃ i users user response, (s.phase i).InFlight ∧
        users.rows = s.users.rows ++ [user] ∧ user.username = (reqs i).username ∧
        (reqs i).username ∉ s.users.rows.map User.username ∧
        next = State.setPhase { s with users := users } i (.done (.ok response))) := by
  cases label with
  | count i fault =>
      cases hphase : s.phase i with
      | pending =>
          simp only [step, hphase, Option.some.injEq] at hstep
          subst hstep
          rcases countUsersPhase_cases env (reqs i) s.users fault with ⟨hcounted, hempty⟩ | ⟨e, he⟩
          · exact Or.inr (Or.inl ⟨i, fault, rfl, hempty, by rw [hcounted], by simp [hphase, Phase.Succeeded]⟩)
          · exact Or.inl ⟨i, e, by rw [he], by simp [hphase, Phase.Succeeded]⟩
      | counted => simp [step, hphase] at hstep
      | hashed passwordHash => simp [step, hphase] at hstep
      | done result => simp [step, hphase] at hstep
  | hash i =>
      cases hphase : s.phase i with
      | counted =>
          simp only [step, hphase, Option.some.injEq] at hstep
          subst hstep
          rcases hashPhase_cases env (reqs i) with ⟨passwordHash, hh⟩ | ⟨e, he⟩
          · exact Or.inr (Or.inr (Or.inl ⟨i, passwordHash, hphase, by rw [hh]⟩))
          · exact Or.inl ⟨i, e, by rw [he], by simp [hphase, Phase.Succeeded]⟩
      | pending => simp [step, hphase] at hstep
      | hashed passwordHash => simp [step, hphase] at hstep
      | done result => simp [step, hphase] at hstep
  | create i fault =>
      cases hphase : s.phase i with
      | hashed passwordHash =>
          simp only [step, hphase, Option.some.injEq] at hstep
          subst hstep
          rcases createUserPhase_cases (reqs i) passwordHash s.users fault with
            ⟨user, response, hrows, hname, hfree, hdone⟩ | ⟨hsame, e, he⟩
          · refine Or.inr (Or.inr (Or.inr ⟨i, _, user, response, ?_, hrows, hname, hfree, by rw [hdone]⟩))
            simp [hphase, Phase.InFlight]
          · exact Or.inl ⟨i, e, by rw [hsame, he], by simp [hphase, Phase.Succeeded]⟩
      | pending => simp [step, hphase] at hstep
      | counted => simp [step, hphase] at hstep
      | done result => simp [step, hphase] at hstep

/-! ## Runs without rivals -/

/-- The invariant of the runs that meet `NoRival`: all requests in flight ask for one name, and so does
the user, once there is one. -/
structure Inv (reqs : Nat → SetupAdminRequest) (s : State) : Prop where
  atMostOne : AtMostOneAdmin s
  same_name : ∀ i j, (s.phase i).InFlight → (s.phase j).InFlight →
    (reqs i).username = (reqs j).username
  name_taken : ∀ i, (s.phase i).InFlight → ∀ row ∈ s.users.rows, row.username = (reqs i).username

theorem inv_init (reqs : Nat → SetupAdminRequest) : Inv reqs State.init where
  atMostOne :=
    { rows_le_one := by simp [State.init, Users.empty]
      winner_unique := by simp [State.init, Phase.Succeeded]
      row_iff_winner := by simp [State.init, Users.empty, Phase.Succeeded] }
  same_name := by simp [State.init, Phase.InFlight]
  name_taken := by simp [State.init, Phase.InFlight]

/-- Moving a request that had not succeeded to a phase that is no success keeps the winner. -/
theorem atMostOneAdmin_setPhase {s : State} {i : Nat} {phase : Phase} (h : AtMostOneAdmin s)
    (hold : ¬ (s.phase i).Succeeded) (hnew : ¬ phase.Succeeded) :
    AtMostOneAdmin (s.setPhase i phase) := by
  have hsame : ∀ j, ((s.setPhase i phase).phase j).Succeeded ↔ (s.phase j).Succeeded := by
    intro j
    rw [State.setPhase_phase]
    by_cases hj : j = i
    · subst hj
      simp [hold, hnew]
    · simp [hj]
  refine ⟨h.rows_le_one, ?_, ?_⟩
  · intro j k hj hk
    exact h.winner_unique j k ((hsame j).mp hj) ((hsame k).mp hk)
  · rw [State.setPhase_users, h.row_iff_winner]
    exact exists_congr fun j => (hsame j).symm

/-- The invariant survives a change of one request's phase if the request is, or was, for the name of
everyone else in flight. -/
theorem inv_setPhase {reqs : Nat → SetupAdminRequest} {s : State} {i : Nat} {phase : Phase}
    (h : Inv reqs s) (hold : ¬ (s.phase i).Succeeded) (hnew : ¬ phase.Succeeded)
    (hname : phase.InFlight → ∀ j, (s.phase j).InFlight → (reqs j).username = (reqs i).username)
    (htaken : phase.InFlight → ∀ row ∈ s.users.rows, row.username = (reqs i).username) :
    Inv reqs (s.setPhase i phase) := by
  refine ⟨atMostOneAdmin_setPhase h.atMostOne hold hnew, ?_, ?_⟩
  · intro j k hj hk
    rw [State.setPhase_phase] at hj hk
    -- two requests in flight afterwards: the one that moved, or old ones
    by_cases hji : j = i <;> by_cases hki : k = i
    · rw [hji, hki]
    · rw [if_pos hji] at hj
      rw [if_neg hki] at hk
      rw [hji]
      exact (hname hj k hk).symm
    · rw [if_neg hji] at hj
      rw [if_pos hki] at hk
      rw [hki]
      exact hname hk j hj
    · rw [if_neg hji] at hj
      rw [if_neg hki] at hk
      exact h.same_name j k hj hk
  · intro j hj row hrow
    rw [State.setPhase_phase] at hj
    by_cases hji : j = i
    · rw [if_pos hji] at hj
      rw [hji]
      exact htaken hj row hrow
    · rw [if_neg hji] at hj
      exact h.name_taken j hj row hrow

/-- The insert of a user, from a state of the invariant: the table was empty, so this is the winner. -/
theorem inv_create {reqs : Nat → SetupAdminRequest} {s : State} {i : Nat} {users : Users} {user : User}
    {response : SetupAdminResponse} (h : Inv reqs s) (hflight : (s.phase i).InFlight)
    (hrows : users.rows = s.users.rows ++ [user]) (huser : user.username = (reqs i).username)
    (hfree : (reqs i).username ∉ s.users.rows.map User.username) :
    Inv reqs (State.setPhase { s with users := users } i (.done (.ok response))) := by
  -- a row would have the name of this request, and the insert would have been refused
  have hempty : s.users.rows = [] := by
    rw [List.eq_nil_iff_forall_not_mem]
    intro row hrow
    apply hfree
    rw [← h.name_taken i hflight row hrow]
    exact List.mem_map_of_mem hrow
  have hnone : ∀ j, ¬ (s.phase j).Succeeded := by
    intro j hj
    exact (h.atMostOne.row_iff_winner.mpr ⟨j, hj⟩) hempty
  rw [hempty, List.nil_append] at hrows
  have hwinner : ∀ j, ((State.setPhase { s with users := users } i (.done (.ok response))).phase j).Succeeded
      ↔ j = i := by
    intro j
    rw [State.setPhase_phase]
    by_cases hji : j = i
    · simp [hji, Phase.Succeeded]
    · simp [hji, hnone j]
  refine ⟨⟨?_, ?_, ?_⟩, ?_, ?_⟩
  · simp [hrows]
  · intro j k hj hk
    rw [(hwinner j).mp hj, (hwinner k).mp hk]
  · constructor
    · intro _
      exact ⟨i, (hwinner i).mpr rfl⟩
    · intro _
      simp [hrows]
  · intro j k hj hk
    rw [State.setPhase_phase] at hj hk
    split at hj
    · cases hj
    · split at hk
      · cases hk
      · exact h.same_name j k hj hk
  · intro j hj row hrow
    rw [State.setPhase_phase] at hj
    split at hj
    · cases hj
    · rw [State.setPhase_users, hrows, List.mem_singleton] at hrow
      rw [hrow, huser]
      exact h.same_name i j hflight hj

/-- One step of a run without rivals. -/
theorem inv_step {env : Env} {reqs : Nat → SetupAdminRequest} (s : State) (label : Label) (next : State)
    (h : Inv reqs s) (hrival : NoRival reqs s label) (hstep : step env reqs s label = some next) :
    Inv reqs next := by
  rcases step_cases hstep with ⟨i, e, rfl, hold⟩ | ⟨i, fault, rfl, hempty, rfl, hold⟩ |
    ⟨i, passwordHash, hcounted, rfl⟩ | ⟨i, users, user, response, hflight, hrows, huser, hfree, rfl⟩
  · exact inv_setPhase h hold (by simp [Phase.Succeeded]) (fun hf => hf.elim) (fun hf => hf.elim)
  · refine inv_setPhase h hold (by simp [Phase.Succeeded]) ?_ ?_
    · intro _ j hj
      exact hrival hempty j hj
    · intro _ row hrow
      simp [hempty] at hrow
  · have hflight : (s.phase i).InFlight := by simp [hcounted, Phase.InFlight]
    refine inv_setPhase h (by simp [hcounted, Phase.Succeeded]) (by simp [Phase.Succeeded]) ?_ ?_
    · intro _ j hj
      exact h.same_name j i hj hflight
    · intro _ row hrow
      exact h.name_taken i hflight row hrow
  · exact inv_create h hflight hrows huser hfree

/-- In every run on an empty table in which `CountUsers` never lets a request through while one for
another name is in flight, at most one user is ever created, by the one request that succeeds. -/
theorem setupAdmin_atMostOne (env : Env) (reqs : Nat → SetupAdminRequest) (labels : List Label) (s : State)
    (hrival : Guarded (step env reqs) (NoRival reqs) State.init labels)
    (hrun : exec (step env reqs) State.init labels = some s) :
    AtMostOneAdmin s :=
  (exec_invariant_of_guarded (Inv reqs) inv_step hrival hrun (inv_init reqs)).atMostOne

/-- A service with default settings; every hash is one of the sixty-byte strings bcrypt can return. -/
def sampleEnv : Env where
  validator := ⟨false, fun _ => false⟩
  bcryptCost := 12
  generateFromPassword := fun _ _ =>
    .ok (str "$2a$12$R9h/cIPz0gi.URNNX3kh2OPST9/PgBkqquzi.Ss7KIUgO2t0jWMUW")

/-- Request 0 is for `alice`, every other one for `bob`. -/
def sampleReqs (i : Nat) : SetupAdminRequest :=
  ⟨if i = 0 then str "alice" else str "bob", str "correct horse battery staple"⟩

/-- A second request that counts after the first has inserted is turned away. -/
theorem setupAdmin_atMostOne_sequential :
    ∃ s, exec (step sampleEnv sampleReqs) State.init
        [.count 0 none, .hash 0, .create 0 none, .count 1 none] = some s ∧ AtMostOneAdmin s := by
  refine ⟨_, rfl, setupAdmin_atMostOne sampleEnv sampleReqs
    [.count 0 none, .hash 0, .create 0 none, .count 1 none] _ ?_ rfl⟩
  refine ⟨?_, fun _ hcount => ⟨trivial, fun _ hhash => ⟨trivial, fun _ hcreate => ⟨?_, ?_⟩⟩⟩⟩
  · intro _ j hj
    simp [State.init, Phase.InFlight] at hj
  · cases hcount
    cases hhash
    cases hcreate
    intro hempty
    exact absurd hempty (by decide)
  · intro _ _
    trivial

/-- Two requests for different names that both count before either inserts: both succeed. -/
theorem setupAdmin_race :
    ∃ s, exec (step sampleEnv sampleReqs) State.init
        [.count 0 none, .count 1 none, .hash 0, .hash 1, .create 0 none, .create 1 none] = some s ∧
      (∀ i, (sampleReqs i).username ≠ [] ∧
        sampleEnv.validator.validate (sampleReqs i).password = .ok ()) ∧
      s.users.rows.length = 2 ∧ (s.phase 0).Succeeded ∧ (s.phase 1).Succeeded := by
  refine ⟨_, rfl, ?_, by decide, trivial, trivial⟩
  intro i
  constructor
  · unfold sampleReqs
    split <;> decide
  · rfl

/-! ## The condition is sharp -/

/-- A request the handler does not turn away before or while hashing. -/
structure Acceptable (env : Env) (req : SetupAdminRequest) : Prop where
  username_ne : req.username ≠ []
  password_ne : req.password ≠ []
  validated : env.validator.validate req.password = .ok ()
  hashable : ∃ passwordHash,
    env.generateFromPassword req.password (if env.bcryptCost = 0 then 12 else env.bcryptCost) =
      .ok passwordHash

section Sharp

variable (env : Env) (reqs : Nat → SetupAdminRequest) {s : State}

theorem step_count_of_acceptable {i : Nat} (hreq : Acceptable env (reqs i)) (hphase : s.phase i = .pending)
    (hempty : s.users.rows = []) :
    step env reqs s (.count i none) = some (s.setPhase i .counted) := by
  simp [step, hphase, countUsersPhase, hreq.username_ne, hreq.password_ne, hreq.validated,
    Users.countUsers, hempty]

theorem step_hash_of_acceptable {i : Nat} (hreq : Acceptable env (reqs i)) (hphase : s.phase i = .counted) :
    ∃ passwordHash, step env reqs s (.hash i) = some (s.setPhase i (.hashed passwordHash)) := by
  obtain ⟨passwordHash, hhash⟩ := hreq.hashable
  exact ⟨passwordHash, by simp [step, hphase, hashPhase, hhash]⟩

/-- `CreateUser` for a name that is not taken adds one row, with that name. -/
theorem step_create_of_free {i : Nat} {passwordHash : GoString} (hphase : s.phase i = .hashed passwordHash)
    (hfree : ∀ row ∈ s.users.rows, row.username ≠ (reqs i).username) :
    ∃ users user response,
      step env reqs s (.create i none) =
        some (State.setPhase { s with users := users } i (.done (.ok response))) ∧
      users.rows = s.users.rows ++ [user] ∧ user.username = (reqs i).username := by
  cases hcreate : s.users.createUser ⟨(reqs i).username, passwordHash, adminRole⟩ with
  | none =>
      obtain ⟨row, hrow, hname⟩ := Users.createUser_eq_none_iff.mp hcreate
      exact absurd hname (hfree row hrow)
  | some result =>
      obtain ⟨users, user⟩ := result
      obtain ⟨hrows, hname, -⟩ := Users.createUser_eq_some hcreate
      refine ⟨users, user, ⟨user.username, user.role⟩, ?_, hrows, hname⟩
      simp only [step, hphase, createUserPhase, hcreate]

/-- Two requests for different names that are both hashed while there is no user end with two users. -/
theorem two_users_of_two_hashed {i j : Nat} {hashI hashJ : GoString} (hempty : s.users.rows = [])
    (hi : s.phase i = .hashed hashI) (hj : s.phase j = .hashed hashJ)
    (hname : (reqs j).username ≠ (reqs i).username) :
    ∃ final, exec (step env reqs) s [.create j none, .create i none] = some final ∧
      final.users.rows.length = 2 := by
  have hij : i ≠ j := fun h => hname (by rw [h])
  obtain ⟨users, user, response, hstepJ, hrows, huser⟩ :=
    step_create_of_free env reqs hj (by simp [hempty])
  -- the insert of one does not hinder the other, whose name is still free
  let afterJ := State.setPhase { s with users := users } j (.done (.ok response))
  have hphaseI : afterJ.phase i = .hashed hashI := by
    simp [afterJ, State.setPhase_phase, hij, hi]
  have hfreeI : ∀ row ∈ afterJ.users.rows, row.username ≠ (reqs i).username := by
    intro row hrow
    change row ∈ users.rows at hrow
    rw [hrows, hempty, List.nil_append, List.mem_singleton] at hrow
    rw [hrow, huser]
    exact hname
  obtain ⟨users', user', response', hstepI, hrows', -⟩ :=
    step_create_of_free env reqs hphaseI hfreeI
  refine ⟨_, exec_cons_eq_some_iff.mpr ⟨_, hstepJ, exec_cons_eq_some_iff.mpr ⟨_, hstepI, rfl⟩⟩, ?_⟩
  change users'.rows.length = 2
  rw [hrows', List.length_append]
  change users.rows.length + 1 = 2
  rw [hrows, hempty]
  rfl

/-- Where a `CountUsers` step of an acceptable request does not meet `NoRival`, because an acceptable
request for another name is in flight, the run can go on to create two users. -/
theorem setupAdmin_race_of_rival {i j : Nat} (hempty : s.users.rows = [])
    (hi : Acceptable env (reqs i)) (hpending : s.phase i = .pending)
    (hj : Acceptable env (reqs j)) (hflight : (s.phase j).InFlight)
    (hname : (reqs j).username ≠ (reqs i).username) :
    ∃ rest final, exec (step env reqs) s (.count i none :: rest) = some final ∧
      final.users.rows.length = 2 := by
  have hij : j ≠ i := fun h => hname (by rw [h])
  let counted := s.setPhase i .counted
  have hcount : step env reqs s (.count i none) = some counted :=
    step_count_of_acceptable env reqs hi hpending hempty
  obtain ⟨hashI, hhashI⟩ := step_hash_of_acceptable env reqs (s := counted) (i := i) hi
    (by simp [counted, State.setPhase_phase])
  let hashedI := counted.setPhase i (.hashed hashI)
  have hkeepJ : hashedI.phase j = s.phase j := by
    simp [hashedI, counted, State.setPhase_phase, hij]
  have hphaseI : hashedI.phase i = .hashed hashI := by
    simp [hashedI, State.setPhase_phase]
  -- the rival has its hash already, or computes it next
  cases hphaseJ : s.phase j with
  | hashed hashJ =>
      obtain ⟨final, hrun, htwo⟩ := two_users_of_two_hashed env reqs (s := hashedI) (by exact hempty)
        hphaseI (hkeepJ.trans hphaseJ) hname
      refine ⟨.hash i :: [.create j none, .create i none], final, ?_, htwo⟩
      exact exec_cons_eq_some_iff.mpr ⟨_, hcount, exec_cons_eq_some_iff.mpr ⟨_, hhashI, hrun⟩⟩
  | counted =>
      obtain ⟨hashJ, hhashJ⟩ := step_hash_of_acceptable env reqs (s := hashedI) hj (hkeepJ.trans hphaseJ)
      obtain ⟨final, hrun, htwo⟩ := two_users_of_two_hashed env reqs
        (s := hashedI.setPhase j (.hashed hashJ)) (i := i) (j := j) (by exact hempty)
        (by rw [State.setPhase_phase, if_neg hij.symm, hphaseI])
        (by rw [State.setPhase_phase, if_pos rfl]) hname
      refine ⟨.hash i :: .hash j :: [.create j none, .create i none], final, ?_, htwo⟩
      exact exec_cons_eq_some_iff.mpr ⟨_, hcount, exec_cons_eq_some_iff.mpr ⟨_, hhashI,
        exec_cons_eq_some_iff.mpr ⟨_, hhashJ, hrun⟩⟩⟩
  | pending => simp [hphaseJ, Phase.InFlight] at hflight
  | done result => simp [hphaseJ, Phase.InFlight] at hflight

end Sharp

end SetupAdmin
end Auth
end Dmanager
