import Dmanager.Auth.Handlers

/-!
# The last login method of a user

`DeletePasskey` refuses to delete the last passkey of a user without a password.  It counts the passkeys of
the user, reads the user, and deletes, in three statements; any number of requests run at the same time.

A request is pending from a count of two or more until its delete or its failure.  What each request checks
for itself, the number of passkeys, says nothing about what the pending ones will leave.
`loginMethod_kept` is the condition under which the user keeps a login method in every state of a run: when
the passkeys are counted, one of them is neither the one to be deleted nor that of a pending request.

`deletes_lock_out` is a run in which two requests delete the two passkeys of a user without a password.
-/

namespace Dmanager
namespace Auth

open Go Db Lib Server
open Handlers (hexDecode deletePasskey requireUser)

/-- `v1.DeletePasskeyRequest`, with its context. -/
structure DeletePasskeyRequest where
  ctx : Ctx
  id : GoString

/-- The passkey that a request names. -/
def DeletePasskeyRequest.target (request : DeletePasskeyRequest) : Option (List UInt8) :=
  (hexDecode (trimSpace request.id)).toOption

/-- The requests before their first call. -/
def deletesStart {ι : Type} (s : AuthState) (requests : ι → DeletePasskeyRequest) : Requests ι Unit :=
  requestsStart s fun i => deletePasskey (requests i).ctx (requests i).id

/-- The user has no password. -/
def Passwordless (users : Users) (userID : Int) : Prop :=
  ∀ user, users.getUser userID = some user → user.passwordHash = []

/-- The user has a password or a passkey. -/
def HasLoginMethod (s : AuthState) (userID : Int) : Prop :=
  (∃ user, s.users.getUser userID = some user ∧ user.passwordHash ≠ []) ∨
    ∃ row ∈ s.credentials, row.userID = userID

/-! ## The text of `DeletePasskey` -/

/-- The call is the delete. -/
def IsDelete (event : AuthEvent) : Prop := ∃ credID userID, event.op = .deleteWebAuthnCredential credID userID

/-- What a request calls, after which calls and answers. -/
def DeleteCall (request : DeletePasskeyRequest) (past : List AuthEvent) : AuthCall → Prop
  | .countWebAuthnCredentialsByUser _ => past = []
  | .getUser userID => ∃ count, past = [⟨.countWebAuthnCredentialsByUser userID, .ok count⟩]
  | .deleteWebAuthnCredential credID userID =>
    request.target = some credID ∧ ∃ count user,
      past = [⟨.getUser userID, .ok user⟩, ⟨.countWebAuthnCredentialsByUser userID, .ok count⟩] ∧
        ¬ (count ≤ 1 ∧ user.passwordHash = [])
  | .recordAuthEvent _ _ _ _ => ∃ event ∈ past, IsDelete event
  | _ => False

variable {w : AuthWorld} {request : DeletePasskeyRequest} {userID : Int}

theorem along_deletePasskey (request : DeletePasskeyRequest) :
    ((deletePasskey request.ctx request.id).attempt : Program _ _ ConnectError _).Along (DeleteCall request)
      (fun _ _ => True) [] := by
  rw [Program.along_attempt]
  unfold deletePasskey requireUser
  split
  · trivial
  · simp only [Program.alongOr_bind, Program.alongOr_done, Program.alongOr_ensure, Program.alongOr_orFail,
      Program.alongOr_perform, implies_true, and_true]
    intro _ credID hcredID
    refine ⟨rfl, fun counted count hcount => ⟨⟨count, ?_⟩, fun found user huser => ?_⟩⟩
    · rw [hcount]
    · subst hcount huser
      intro hallowed
      refine ⟨⟨?_, count, user, rfl, hallowed⟩, fun deleted rows hrows _ => ?_⟩
      · rw [DeletePasskeyRequest.target, hcredID]
        rfl
      · exact ⟨⟨_, List.mem_cons_self, _, _, rfl⟩, fun _ => trivial⟩

/-! ## Pending requests -/

/-- A request that is admitted, or is about to be, and has not sent its delete. -/
def Pending (userID : Int) (past : List AuthEvent)
    (rest : Program AuthCall AuthAnswer ConnectError (Except ConnectError Unit)) : Prop :=
  rest.isOver = false ∧ ∃ count, 2 ≤ count ∧
    (past = [⟨.countWebAuthnCredentialsByUser userID, .ok count⟩] ∨
      ∃ found, past = [⟨.getUser userID, found⟩, ⟨.countWebAuthnCredentialsByUser userID, .ok count⟩])

variable {ι : Type} [DecidableEq ι] {requests : ι → DeletePasskeyRequest}
variable {c next : Requests ι Unit} {i : ι} {event : AuthEvent}

/-- The passkey is a passkey of the user that no pending request names. -/
def Spared (requests : ι → DeletePasskeyRequest) (userID : Int) (c : Requests ι Unit)
    (row : WebauthnCredential) : Prop :=
  row ∈ c.shared.credentials ∧ row.userID = userID ∧
    ∀ i, Pending userID (c.past i) (c.threads i) → (requests i).target ≠ some row.credentialID

/-- When a request counts two or more passkeys of the user, who has no password, it leaves one that is
spared. -/
def LeavesPasskey (requests : ι → DeletePasskeyRequest) (userID : Int) (c : Requests ι Unit) :
    AuthLabel ι → Prop
  | .call i ⟨.countWebAuthnCredentialsByUser counted, .ok count⟩ =>
    counted = userID → 2 ≤ count → Passwordless c.shared.users userID →
      ∃ row, Spared requests userID c row ∧ (requests i).target ≠ some row.credentialID
  | _ => True

/-- What holds of every state of a run: the texts, the answers about users, and a passkey that is spared. -/
structure MethodInv (requests : ι → DeletePasskeyRequest) (users : Users) (userID : Int)
    (c : Requests ι Unit) : Prop where
  follows : Follows (fun i => DeleteCall (requests i)) (fun _ _ _ => True) c
  users_eq : c.shared.users = users
  read : ∀ i id user, ⟨.getUser id, .ok user⟩ ∈ c.past i → users.getUser id = some user
  spared : ∃ row, Spared requests userID c row

/-- No call but a delete removes a passkey, and a delete removes only the one it names. -/
theorem mem_credentials_after {s : AuthState} {past : List AuthEvent} {row : WebauthnCredential}
    (hcall : DeleteCall request past event.op) (hrow : row ∈ s.credentials)
    (hkept : ∀ credID, event.op = .deleteWebAuthnCredential credID row.userID → credID ≠ row.credentialID) :
    row ∈ (s.after w event).credentials := by
  obtain ⟨op, answer⟩ := event
  cases op with
  | deleteWebAuthnCredential credID deleted =>
      cases answer with
      | error err => exact hrow
      | ok rows =>
          show row ∈ (s.credentials.deleteWebAuthnCredential credID deleted).1
          refine KeyedTable.mem_deleteWhere.mpr ⟨hrow, ?_⟩
          rw [decide_eq_false_iff_not]
          rintro ⟨hid, huser⟩
          subst huser
          exact hkept credID rfl hid.symm
  | createWebAuthnCredential arg => exact absurd hcall id
  | updateWebAuthnCredentialUsage arg => exact absurd hcall id
  | _ =>
      rw [credentials_after id]
      exact hrow

/-- A request that deletes a passkey of a user without a password is pending. -/
theorem MethodInv.pending_of_delete {users : Users} (hinv : MethodInv requests users userID c)
    (hpassword : Passwordless users userID) {rest : AuthAnswer event.op → _}
    (hcall : c.threads i = .call event.op rest) {credID : List UInt8}
    (hop : event.op = .deleteWebAuthnCredential credID userID) :
    Pending userID (c.past i) (c.threads i) ∧ (requests i).target = some credID := by
  have htext : DeleteCall (requests i) (c.past i) event.op := hinv.follows.call hcall
  rw [hop] at htext
  obtain ⟨htarget, count, user, hpast, hallowed⟩ := htext
  have huser : users.getUser userID = some user := by
    apply hinv.read i userID user
    rw [hpast]
    exact List.mem_cons_self
  have hcount : 2 ≤ count := by
    by_contra hless
    exact hallowed ⟨by omega, hpassword user huser⟩
  refine ⟨⟨?_, count, hcount, Or.inr ⟨_, hpast⟩⟩, htarget⟩
  rw [hcall]
  rfl

/-- A passkey that is spared stays so, unless a request that names it becomes pending. -/
theorem Spared.step_call {users : Users} {row : WebauthnCredential} (hrow : Spared requests userID c row)
    (hinv : MethodInv requests users userID c) (hpassword : Passwordless users userID)
    (hstep : (authBackend w).step c (.call i event) = some next)
    (henter : Pending userID (next.past i) (next.threads i) → ¬ Pending userID (c.past i) (c.threads i) →
      (requests i).target ≠ some row.credentialID) :
    Spared requests userID next row := by
  obtain ⟨hmem, huser, hspared⟩ := hrow
  obtain ⟨rest, hcall, -, hnext⟩ := requests_step_call hstep
  refine ⟨?_, huser, fun j hpending => ?_⟩
  · rw [hnext]
    refine mem_credentials_after (hinv.follows.call hcall) hmem fun credID hop => ?_
    rw [huser] at hop
    obtain ⟨hpending, htarget⟩ := hinv.pending_of_delete hpassword hcall hop
    intro hsame
    exact hspared i hpending (htarget.trans (congrArg some hsame))
  · by_cases hj : j = i
    · subst hj
      by_cases hbefore : Pending userID (c.past j) (c.threads j)
      · exact hspared j hbefore
      · exact henter hpending hbefore
    · rw [(past_of_step_call hstep).2 j hj, threads_of_step_call hstep j hj] at hpending
      exact hspared j hpending

/-- A request becomes pending by counting two or more passkeys. -/
theorem eq_count_of_pending
    (hstep : (authBackend w).step c (.call i event) = some next)
    (hafter : Pending userID (next.past i) (next.threads i))
    (hbefore : ¬ Pending userID (c.past i) (c.threads i)) :
    ∃ count, 2 ≤ count ∧ event = ⟨.countWebAuthnCredentialsByUser userID, .ok count⟩ := by
  obtain ⟨-, count, hcount, hpast⟩ := hafter
  rw [(past_of_step_call hstep).1] at hpast
  rcases hpast with hpast | ⟨found, hpast⟩
  · exact ⟨count, hcount, (List.cons.inj hpast).1⟩
  · obtain ⟨rest, hcall, -, -⟩ := requests_step_call hstep
    refine absurd ⟨?_, count, hcount, Or.inl (List.cons.inj hpast).2⟩ hbefore
    rw [hcall]
    rfl

/-- What one step preserves. -/
theorem methodInv_step {users : Users} (hpassword : Passwordless users userID) {label : AuthLabel ι}
    (hinv : MethodInv requests users userID c) (hguard : LeavesPasskey requests userID c label)
    (hstep : (authBackend w).step c label = some next) : MethodInv requests users userID next := by
  obtain ⟨row, hrow⟩ := hinv.spared
  cases label with
  | env now =>
      obtain ⟨-, hnext⟩ := requests_step_env hstep
      refine ⟨hinv.follows.step hstep, ?_, ?_, row, ?_⟩
      · rw [hnext]
        exact hinv.users_eq
      · rw [hnext]
        exact hinv.read
      · rw [hnext]
        exact hrow
  | call i event =>
      obtain ⟨rest, hcall, hallowed, hnext⟩ := requests_step_call hstep
      refine ⟨hinv.follows.step hstep, ?_, ?_, ?_⟩
      · rw [hnext]
        exact (users_after event).trans hinv.users_eq
      · intro j id user hread
        by_cases hj : j = i
        · subst hj
          rw [(past_of_step_call hstep).1] at hread
          rcases List.mem_cons.mp hread with rfl | hold
          · rw [← hinv.users_eq]
            simpa [AuthState.allowed, queryAllowed] using hallowed
          · exact hinv.read j id user hold
        · rw [(past_of_step_call hstep).2 j hj] at hread
          exact hinv.read j id user hread
      · by_cases henters : Pending userID (next.past i) (next.threads i) ∧
            ¬ Pending userID (c.past i) (c.threads i)
        · -- the request has counted: the guard gives a passkey that it does not name either
          obtain ⟨count, hcount, rfl⟩ := eq_count_of_pending hstep henters.1 henters.2
          rw [← hinv.users_eq] at hpassword
          obtain ⟨other, hother, htarget⟩ := hguard rfl hcount hpassword
          rw [hinv.users_eq] at hpassword
          exact ⟨other, hother.step_call hinv hpassword hstep fun _ _ => htarget⟩
        · exact ⟨row, hrow.step_call hinv hpassword hstep fun hafter hbefore =>
            absurd ⟨hafter, hbefore⟩ henters⟩

/-- A user with a login method keeps one in every run in which every count of two or more passkeys leaves
one that no pending request deletes. -/
theorem loginMethod_kept (w : AuthWorld) (s : AuthState) (requests : ι → DeletePasskeyRequest) (userID : Int)
    (labels : List (AuthLabel ι)) (final : Requests ι Unit) (hmethod : HasLoginMethod s userID)
    (hguard : Guarded (authBackend w).step (LeavesPasskey requests userID) (deletesStart s requests) labels)
    (hrun : exec (authBackend w).step (deletesStart s requests) labels = some final) :
    HasLoginMethod final.shared userID := by
  have husers : final.shared.users = s.users := by
    refine exec_invariant (fun c => c.shared.users = s.users) ?_ hrun rfl
    intro c label next hc hstep
    cases label with
    | env now =>
        rw [(requests_step_env hstep).2]
        exact hc
    | call i event =>
        obtain ⟨rest, -, -, hnext⟩ := requests_step_call hstep
        rw [hnext]
        exact (users_after event).trans hc
  by_cases hpassword : Passwordless s.users userID
  · obtain ⟨user, huser, hset⟩ | ⟨row, hmem, hrow⟩ := hmethod
    · exact absurd (hpassword user huser) hset
    · have hinit : MethodInv requests s.users userID (deletesStart s requests) := by
        refine ⟨follows_start fun i => along_deletePasskey (requests i), rfl, nofun, row, hmem, hrow, ?_⟩
        rintro i ⟨-, count, -, hpast | ⟨found, hpast⟩⟩
        · cases hpast
        · cases hpast
      have hfinal : MethodInv requests s.users userID final :=
        exec_invariant_of_guarded (MethodInv requests s.users userID)
          (fun c label next => methodInv_step hpassword) hguard hrun hinit
      obtain ⟨kept, hkept, huser, -⟩ := hfinal.spared
      exact Or.inr ⟨kept, hkept, huser⟩
  · -- the password stays
    obtain ⟨user, hpassword⟩ := not_forall.mp hpassword
    obtain ⟨huser, hset⟩ := Classical.not_imp.mp hpassword
    exact Or.inl ⟨user, by rw [husers, huser], hset⟩

/-! ## Two requests that delete the last two passkeys -/

/-- The user deletes both passkeys. -/
def deleteBoth (i : Fin 2) : DeletePasskeyRequest :=
  ⟨⟨some passkeyUser, none⟩, if i = 0 then str "01" else str "02"⟩

def countTwo : AuthEvent := ⟨.countWebAuthnCredentialsByUser 1, .ok 2⟩

def readUser : AuthEvent := ⟨.getUser 1, .ok passkeyUser⟩

def deleteOne (credID : List UInt8) : AuthEvent := ⟨.deleteWebAuthnCredential credID 1, .ok 1⟩

def recordRemoval (id : String) : AuthEvent :=
  ⟨.recordAuthEvent (some 1) (str "admin") (str "passkey_removed")
    (str "credential_id: " ++ str id ++ str "..."), ()⟩

/-- One request after the other: the second one is refused. -/
def oneAfterTheOther : List (AuthLabel (Fin 2)) :=
  [.call 0 countTwo, .call 0 readUser, .call 0 (deleteOne [1]), .call 0 (recordRemoval "01"),
    .call 1 ⟨.countWebAuthnCredentialsByUser 1, .ok 1⟩, .call 1 readUser]

theorem exec_oneAfterTheOther :
    (exec (authBackend calmWorld).step (deletesStart passkeyState deleteBoth) oneAfterTheOther).map
      (fun c => ((c.threads 0).isOver, (c.threads 1).isOver, c.shared.credentials.rows)) =
      some (true, true, [passkeyRow [2] 0]) := by
  decide +kernel

theorem loginMethod_kept_oneAfterTheOther :
    ∃ final, exec (authBackend calmWorld).step (deletesStart passkeyState deleteBoth) oneAfterTheOther =
        some final ∧ HasLoginMethod final.shared 1 := by
  obtain ⟨final, hfinal, -⟩ := Option.map_eq_some_iff.mp exec_oneAfterTheOther
  have hmethod : HasLoginMethod passkeyState 1 :=
    Or.inr ⟨passkeyRow [1] 5, List.mem_cons_self, rfl⟩
  have hguard : Guarded (authBackend calmWorld).step (LeavesPasskey deleteBoth 1)
      (deletesStart passkeyState deleteBoth) oneAfterTheOther := by
    refine ⟨?_, fun _ _ => ⟨trivial, fun _ _ => ⟨trivial, fun _ _ => ⟨trivial, fun _ _ => ⟨?_, fun _ _ =>
      ⟨trivial, fun _ _ => trivial⟩⟩⟩⟩⟩⟩
    · -- the second passkey is spared
      intro _ _ _
      refine ⟨passkeyRow [2] 0, ⟨List.mem_cons_of_mem _ List.mem_cons_self, rfl, ?_⟩, by decide⟩
      rintro i ⟨-, count, -, hpast | ⟨found, hpast⟩⟩
      · cases hpast
      · cases hpast
    · intro _ hcount
      omega
  exact ⟨final, hfinal, loginMethod_kept _ _ _ _ _ _ hmethod hguard hfinal⟩

/-- Both requests count two passkeys before either deletes one. -/
def deletesRun : List (AuthLabel (Fin 2)) :=
  [.call 0 countTwo, .call 0 readUser, .call 1 countTwo, .call 1 readUser,
    .call 0 (deleteOne [1]), .call 0 (recordRemoval "01"),
    .call 1 (deleteOne [2]), .call 1 (recordRemoval "02")]

theorem exec_deletesRun :
    (exec (authBackend calmWorld).step (deletesStart passkeyState deleteBoth) deletesRun).map
      (fun c => (c.shared.users.rows, c.shared.credentials.rows)) = some ([passkeyUser], []) := by
  decide +kernel

/-- The user had two passkeys, and has no login method after the run. -/
theorem deletes_lock_out :
    HasLoginMethod passkeyState 1 ∧
      ∃ final, exec (authBackend calmWorld).step (deletesStart passkeyState deleteBoth) deletesRun =
          some final ∧ ¬ HasLoginMethod final.shared 1 := by
  obtain ⟨final, hfinal, hend⟩ := Option.map_eq_some_iff.mp exec_deletesRun
  obtain ⟨husers, hcredentials⟩ := Prod.mk.inj hend
  refine ⟨Or.inr ⟨passkeyRow [1] 5, List.mem_cons_self, rfl⟩, final, hfinal, ?_⟩
  rintro (⟨user, huser, hset⟩ | ⟨row, hrow, -⟩)
  · have hmem : user ∈ final.shared.users.rows := (Users.getUser_eq_some huser).1
    rw [husers, List.mem_singleton] at hmem
    subst hmem
    exact hset rfl
  · rw [KeyedTable.mem_iff_mem_rows, hcredentials] at hrow
    cases hrow

end Auth
end Dmanager
