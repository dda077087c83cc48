import Dmanager.Auth.SelfService

/-!
# The rows of a user, and the others

What a request of a user reads and writes is the user's own: `Own` are the calls that a request may make, and the
texts of the handlers make no others.  Two statements have no user in their `WHERE`: `ListAuthEvents` of an
administrator, and `GetWebAuthnCredential` in `RenamePasskey`, which is `Own` only right after a rename that has
found the passkey to be the user's.

`selfService_isolated` draws the conclusions: the rows of other users stay as they are, databases that agree on
the user's rows give the same answers and the same response, and `RevokeAllOtherSessions` deletes all the user's
sessions but the current one.
-/

namespace Dmanager
namespace Auth

open Go Db Lib Server
open Handlers (currentSessionID requireUser hexDecode)

/-! ## The calls of a user -/

/-- A record of an auth event has been tried. -/
def Recorded (past : List SelfEvent) : Prop :=
  ∃ event ∈ past, ∃ userID username name detail, event.op = .auth (.recordAuthEvent userID username name detail)

/-- The calls of `Dmanager.Auth.Calls` that touch only rows of the user. -/
def OwnAuth (u : Int) : AuthCall → Prop
  | .listWebAuthnCredentialsByUser userID => userID = u
  | .countWebAuthnCredentialsByUser userID => userID = u
  | .getUser id => id = u
  | .deleteWebAuthnCredential _ userID => userID = u
  | .recordAuthEvent _ _ _ _ => True
  | _ => False

/-- The calls that a request of the user may make, after which calls and answers. -/
def Own (u : Int) (past : List SelfEvent) : SelfCall → Prop
  | .listAuthEventsByUser userID _ _ => userID = u ∧ ¬ Recorded past
  | .countAuthEventsByUser userID => userID = u ∧ ¬ Recorded past
  | .listSessionsByUser userID => userID = u
  | .deleteSessionByIDAndUser _ userID => userID = u
  | .deleteSessionsByUser userID _ => userID = u
  | .renameWebAuthnCredential _ _ userID => userID = u
  | .auth (.getWebAuthnCredential credentialID) =>
    ∃ name rows earlier, past = ⟨.renameWebAuthnCredential name credentialID u, .ok rows⟩ :: earlier ∧ rows ≠ 0
  | .auth op => OwnAuth u op
  | _ => False

variable {w : SelfWorld} {ctx : Ctx} {user : User} {u : Int} {past : List SelfEvent} {s t : SelfState}
variable {event : SelfEvent}

theorem own_auth {op : AuthCall} (hop : OwnAuth u op) : Own u past (.auth op) := by
  cases op with
  | getWebAuthnCredential credentialID => cases hop
  | _ => exact hop

/-! ## The texts of the handlers -/

theorem liftAuth_requireUser (hctx : ctx.user = some user) : liftAuth (requireUser ctx) = .done user := by
  unfold requireUser
  rw [hctx]
  rfl

/-- What the text of a handler says about its calls it says here as well. -/
theorem alongOr_liftAuth {α : Type} {P : List SelfEvent → SelfCall → Prop} {P' : AuthCall → Prop}
    (hP : ∀ past op, P' op → P past (.auth op)) {p : AuthHandler α} {authPast : List AuthEvent}
    (htext : p.AlongOr (fun _ op => P' op) (fun _ _ => True) (fun _ _ => True) authPast) :
    (liftAuth p).AlongOr P (fun _ _ => True) (fun _ _ => True) past := by
  induction p generalizing past authPast with
  | done a => trivial
  | fail e => trivial
  | call op next ih => exact ⟨hP past op htext.1, fun answer => ih answer (htext.2 answer)⟩

theorem alongOr_deletePasskey (hctx : ctx.user = some user) (id : GoString) :
    (Handlers.deletePasskey ctx id).AlongOr (fun _ op => OwnAuth user.id op) (fun _ _ => True) (fun _ _ => True)
      [] := by
  unfold Handlers.deletePasskey requireUser
  rw [hctx]
  simp only [Program.alongOr_bind, Program.alongOr_done, Program.alongOr_ensure, Program.alongOr_orFail,
    Program.alongOr_perform, OwnAuth, implies_true, and_true, true_and]
  intros
  exact ⟨trivial, fun _ => trivial⟩

theorem alongOr_recordOwnEvent {Q : List SelfEvent → Unit → Prop} {E : List SelfEvent → ConnectError → Prop}
    {name detail : String} (hQ : ∀ past, Q past ()) :
    (Handlers.recordOwnEvent user name detail).AlongOr (Own u) Q E past := ⟨trivial, fun _ => hQ _⟩

/-- Every call of every request is one of the user's. -/
theorem alongOr_handler (hctx : ctx.user = some user) (request : SelfRequest)
    (hrole : ∀ req, request = .listAuthEvents req → user.role ≠ adminRole) :
    (request.handler ctx).AlongOr (Own user.id) (fun _ _ => True) (fun _ _ => True) [] := by
  cases request with
  | listAuthEvents req =>
      have hnone : ∀ answer, ¬ Recorded [⟨.listAuthEventsByUser user.id (Handlers.pageLimit req.limit)
          (Handlers.pageOffset req.offset), answer⟩] := by
        rintro answer ⟨event, hevent, _, _, _, _, hop⟩
        rw [List.mem_singleton.mp hevent] at hop
        cases hop
      simp only [SelfRequest.handler, Handlers.listAuthEvents, liftAuth_requireUser hctx, Program.done_bind,
        if_neg (hrole req rfl), Program.alongOr_bind, Program.alongOr_perform, Program.alongOr_orFail,
        Program.alongOr_done, Own, implies_true, and_true, true_and]
      refine ⟨fun hrecorded => ?_, fun answer _ _ => hnone answer⟩
      obtain ⟨event, hevent, -⟩ := hrecorded
      cases hevent
  | listSessions =>
      simp only [SelfRequest.handler, Handlers.listSessions, liftAuth_requireUser hctx, Program.done_bind,
        Program.alongOr_bind, Program.alongOr_perform, Program.alongOr_orFail, Program.alongOr_done, Own,
        implies_true, and_true]
  | revokeSession sessionID =>
      simp only [SelfRequest.handler, Handlers.revokeSession, liftAuth_requireUser hctx, Program.done_bind,
        Program.alongOr_bind, Program.alongOr_perform, Program.alongOr_orFail, Program.alongOr_ensure,
        Program.alongOr_done, Own, implies_true, and_true, true_and]
      exact fun _ _ _ _ _ => alongOr_recordOwnEvent fun _ => trivial
  | revokeAllOtherSessions =>
      simp only [SelfRequest.handler, Handlers.revokeAllOtherSessions, liftAuth_requireUser hctx,
        Program.done_bind, Program.alongOr_bind, Program.alongOr_perform, Program.alongOr_orFail,
        Program.alongOr_done, Own, implies_true, and_true, true_and]
      exact fun _ _ _ => alongOr_recordOwnEvent fun _ => trivial
  | listPasskeys =>
      simp only [SelfRequest.handler, Handlers.listPasskeys, liftAuth_requireUser hctx, Program.done_bind,
        Program.alongOr_bind, Program.alongOr_perform, Program.alongOr_orFail, Program.alongOr_done, Own, OwnAuth,
        implies_true, and_true]
  | renamePasskey req =>
      simp only [SelfRequest.handler, Handlers.renamePasskey, liftAuth_requireUser hctx, Program.done_bind,
        Program.alongOr_bind, Program.alongOr_perform, Program.alongOr_orFail, Program.alongOr_ensure,
        Program.alongOr_done, Own, implies_true, and_true, true_and]
      -- the read without a user comes right after the rename
      intro _ credID _ answer rows hrows hfound
      subst hrows
      exact ⟨_, rows, [], rfl, hfound⟩
  | deletePasskey id =>
      simp only [SelfRequest.handler, Program.alongOr_bind, Program.alongOr_done]
      exact alongOr_liftAuth (fun _ _ => own_auth) (alongOr_deletePasskey hctx id)

/-! ## What the calls of a user change -/

/-- The ways in which a call of the user changes the tables. -/
inductive OwnChange (u : Int) : (AuthState → AuthState) → Prop
  | nothing : OwnChange u fun s => s
  | deleteSessions (doomed : Session → Bool) (hdoomed : ∀ row, doomed row = true → row.userID = u) :
    OwnChange u fun s => { s with sessions := s.sessions.deleteWhere doomed }
  | deleteCredential (credentialID : List UInt8) :
    OwnChange u fun s => { s with credentials := (s.credentials.deleteWebAuthnCredential credentialID u).1 }
  | renameCredential (name : GoString) (credentialID : List UInt8) :
    OwnChange u fun s => { s with credentials := (s.credentials.renameWebAuthnCredential name credentialID u).1 }

/-- A call of the user and its answer change every database in the same way. -/
theorem ownChange_afterAuth (hown : Own u past event.op) :
    ∃ change, OwnChange u change ∧ ∀ s : SelfState, s.afterAuth w event = change s.auth := by
  obtain ⟨op, answer⟩ := event
  cases op with
  | listAuthEvents limit offset => cases hown
  | countAuthEvents => cases hown
  | listAuthEventsByUser userID limit offset => exact ⟨_, .nothing, fun _ => rfl⟩
  | countAuthEventsByUser userID => exact ⟨_, .nothing, fun _ => rfl⟩
  | listSessionsByUser userID => exact ⟨_, .nothing, fun _ => rfl⟩
  | deleteSessionByIDAndUser sessionID userID =>
      cases answer with
      | error err => exact ⟨_, .nothing, fun _ => rfl⟩
      | ok rows =>
          refine ⟨_, .deleteSessions _ fun row hrow => ?_, fun _ => rfl⟩
          exact (of_decide_eq_true hrow).2.trans hown
  | deleteSessionsByUser userID sessionID =>
      cases answer with
      | error err => exact ⟨_, .nothing, fun _ => rfl⟩
      | ok rows =>
          refine ⟨_, .deleteSessions _ fun row hrow => ?_, fun _ => rfl⟩
          exact (of_decide_eq_true hrow).1.trans hown
  | renameWebAuthnCredential name credentialID userID =>
      cases answer with
      | error err => exact ⟨_, .nothing, fun _ => rfl⟩
      | ok rows =>
          obtain rfl : userID = u := hown
          exact ⟨_, .renameCredential name credentialID, fun _ => rfl⟩
  | auth op =>
      cases op with
      | deleteWebAuthnCredential credentialID userID =>
          cases answer with
          | error err => exact ⟨_, .nothing, fun _ => rfl⟩
          | ok rows =>
              obtain rfl : userID = u := hown
              exact ⟨_, .deleteCredential credentialID, fun _ => rfl⟩
      | listWebAuthnCredentialsByUser userID => exact ⟨_, .nothing, fun _ => rfl⟩
      | countWebAuthnCredentialsByUser userID => exact ⟨_, .nothing, fun _ => rfl⟩
      | getUser id => exact ⟨_, .nothing, fun _ => rfl⟩
      | getWebAuthnCredential credentialID => exact ⟨_, .nothing, fun _ => rfl⟩
      | recordAuthEvent userID username name detail => exact ⟨_, .nothing, fun _ => rfl⟩
      | _ => cases hown

/-- The sessions and credentials of the other users are the same. -/
structure OthersKept (u : Int) (before after : AuthState) : Prop where
  sessions : before.sessions.AgreeOn (fun row => row.userID ≠ u) after.sessions
  credentials : before.credentials.AgreeOn (fun row => row.userID ≠ u) after.credentials

theorem OthersKept.trans {first second third : AuthState} (hfirst : OthersKept u first second)
    (hsecond : OthersKept u second third) : OthersKept u first third :=
  ⟨hfirst.sessions.trans hsecond.sessions, hfirst.credentials.trans hsecond.credentials⟩

/-- A rename touches only a row of the user. -/
theorem agreeOn_renameWebAuthnCredential (credentials : Credentials) (name : GoString) (credentialID : List UInt8) :
    credentials.AgreeOn (fun row => row.userID ≠ u) (credentials.renameWebAuthnCredential name credentialID u).1 := by
  intro row hother
  rw [Credentials.mem_renameWebAuthnCredential]
  constructor
  · intro hrow
    exact Or.inr ⟨hrow, fun hnamed => hother hnamed.2⟩
  · rintro (⟨old, -, -, howner, rfl⟩ | ⟨hrow, -⟩)
    · exact absurd howner hother
    · exact hrow

theorem OwnChange.othersKept {change : AuthState → AuthState} (hchange : OwnChange u change) (s : AuthState) :
    OthersKept u s (change s) := by
  cases hchange with
  | nothing => exact ⟨.refl _, .refl _⟩
  | deleteSessions doomed hdoomed =>
      exact ⟨KeyedTable.agreeOn_deleteWhere _ fun row hrow hother => hother (hdoomed row hrow), .refl _⟩
  | deleteCredential credentialID =>
      refine ⟨.refl _, KeyedTable.agreeOn_deleteWhere _ fun row hrow hother => ?_⟩
      exact hother (of_decide_eq_true hrow).2
  | renameCredential name credentialID => exact ⟨.refl _, agreeOn_renameWebAuthnCredential _ _ _⟩

/-- No request changes a session or a credential of another user. -/
theorem othersKept_of_mayEnd {α : Type} {p : SelfHandler α}
    {r : Lib.Served SelfState SelfCall SelfAnswer ConnectError α}
    (htext : p.AlongOr (Own u) (fun _ _ => True) (fun _ _ => True) []) (hrun : MayEnd (selfStep w) [] s p r) :
    OthersKept u s.auth r.shared.auth := by
  refine (hrun.invariant (fun _ now => OthersKept u s.auth now.auth) ?_ htext ⟨.refl _, .refl _⟩).1
  intro past now event next hown hkept hstep
  obtain ⟨change, hchange, hafter⟩ := ownChange_afterAuth (w := w) hown
  rw [hstep.2.1, hafter now]
  exact hkept.trans (hchange.othersKept now.auth)

/-! ## Databases that agree on the rows of a user -/

/-- The same user, sessions and credentials of the user. -/
structure SameTables (u : Int) (s t : AuthState) : Prop where
  user : s.users.getUser u = t.users.getUser u
  sessions : s.sessions.AgreeOn (fun row => row.userID = u) t.sessions
  credentials : s.credentials.AgreeOn (fun row => row.userID = u) t.credentials

/-- The same auth events of the user. -/
def SameEvents (u : Int) (s t : AuthEvents) : Prop := s.table.AgreeOn (fun row => row.userID = some u) t.table

/-- The databases agree on the user's row, sessions, credentials and auth events. -/
structure SameRows (u : Int) (s t : SelfState) : Prop where
  tables : SameTables u s.auth t.auth
  authEvents : SameEvents u s.authEvents t.authEvents

theorem SameTables.symm {s t : AuthState} (hsame : SameTables u s t) : SameTables u t s :=
  ⟨hsame.user.symm, hsame.sessions.symm, hsame.credentials.symm⟩

theorem SameRows.symm (hsame : SameRows u s t) : SameRows u t s := ⟨hsame.tables.symm, hsame.authEvents.symm⟩

theorem agreeOn_rename_both {first second : Credentials}
    (hagree : first.AgreeOn (fun row => row.userID = u) second) (name : GoString) (credentialID : List UInt8) :
    (first.renameWebAuthnCredential name credentialID u).1.AgreeOn (fun row => row.userID = u)
      (second.renameWebAuthnCredential name credentialID u).1 := by
  intro row howner
  rw [Credentials.mem_renameWebAuthnCredential, Credentials.mem_renameWebAuthnCredential, hagree row howner]
  refine or_congr_left ?_
  constructor
  · rintro ⟨old, hold, hid, holdOwner, hrow⟩
    exact ⟨old, (hagree old holdOwner).mp hold, hid, holdOwner, hrow⟩
  · rintro ⟨old, hold, hid, holdOwner, hrow⟩
    exact ⟨old, (hagree old holdOwner).mpr hold, hid, holdOwner, hrow⟩

theorem OwnChange.sameTables {change : AuthState → AuthState} (hchange : OwnChange u change) {s t : AuthState}
    (hsame : SameTables u s t) : SameTables u (change s) (change t) := by
  cases hchange with
  | nothing => exact hsame
  | deleteSessions doomed hdoomed => exact { hsame with sessions := hsame.sessions.deleteWhere doomed }
  | deleteCredential credentialID => exact { hsame with credentials := hsame.credentials.deleteWhere _ }
  | renameCredential name credentialID =>
      exact { hsame with credentials := agreeOn_rename_both hsame.credentials name credentialID }

/-! ## The same answers -/

theorem SameTables.ofUser_sessions {s t : AuthState} (hsame : SameTables u s t) :
    (s.sessions.ofUser u).Perm (t.sessions.ofUser u) :=
  hsame.sessions.filter_perm fun _ hrow => of_decide_eq_true hrow

theorem SameTables.ofUser_credentials {s t : AuthState} (hsame : SameTables u s t) :
    (s.credentials.ofUser u).Perm (t.credentials.ofUser u) :=
  hsame.credentials.filter_perm fun _ hrow => of_decide_eq_true hrow

theorem SameEvents.ofUser {s t : AuthEvents} (hsame : SameEvents u s t) : (s.ofUser u).Perm (t.ofUser u) :=
  hsame.filter_perm fun _ hrow => of_decide_eq_true hrow

theorem isPage_congr {sqlLess : Int → Int → Bool} {first second : List Db.AuthEvent} (hperm : first.Perm second)
    {limit offset : Nat} {rows : List Db.AuthEvent} (hpage : AuthEvents.IsPage sqlLess first limit offset rows) :
    AuthEvents.IsPage sqlLess second limit offset rows := by
  obtain ⟨ordered, hordered, hsorted, hrows⟩ := hpage
  exact ⟨ordered, hordered.trans hperm, hsorted, hrows⟩

/-- The passkey that the last call has renamed is one of the user's. -/
def RenamedOwn (u : Int) (past : List SelfEvent) (credentials : Credentials) : Prop :=
  ∀ name credentialID rows earlier,
    past = ⟨.renameWebAuthnCredential name credentialID u, .ok rows⟩ :: earlier → rows ≠ 0 →
      ∃ row ∈ credentials, row.credentialID = credentialID ∧ row.userID = u

/-- An answer of the calls of `Dmanager.Auth.Calls` that touch only rows of the user. -/
theorem allowed_of_sameTables {s t : AuthState} {event : AuthEvent} (hown : OwnAuth u event.op)
    (hsame : SameTables u s t) (hallowed : s.allowed w.auth event = true) : t.allowed w.auth event = true := by
  obtain ⟨op, answer⟩ := event
  cases op with
  | listWebAuthnCredentialsByUser userID =>
      obtain rfl : userID = u := hown
      cases answer with
      | error err => exact hallowed
      | ok rows =>
          obtain ⟨hperm, hsorted⟩ := of_decide_eq_true hallowed
          exact decide_eq_true ⟨hperm.trans hsame.ofUser_credentials, hsorted⟩
  | countWebAuthnCredentialsByUser userID =>
      obtain rfl : userID = u := hown
      cases answer with
      | error err => exact hallowed
      | ok count =>
          have hcount : count = ((s.credentials.ofUser userID).length : Int) := of_decide_eq_true hallowed
          rw [hsame.ofUser_credentials.length_eq] at hcount
          exact decide_eq_true hcount
  | getUser id =>
      obtain rfl : id = u := hown
      show queryAllowed _ (t.users.getUser id) answer = true
      rw [← hsame.user]
      exact hallowed
  | deleteWebAuthnCredential credentialID userID =>
      obtain rfl : userID = u := hown
      cases answer with
      | error err => exact hallowed
      | ok rows =>
          refine decide_eq_true ((of_decide_eq_true hallowed).trans ?_)
          exact hsame.credentials.length_sub_deleteWhere fun row hrow => (of_decide_eq_true hrow).2
  | recordAuthEvent userID username name detail => rfl
  | _ => cases hown

/-- The read without a user finds the passkey that the user has just renamed. -/
theorem getWebAuthnCredential_eq {s t : AuthState} (hsame : SameTables u s t) {credentialID : List UInt8}
    (hrow : ∃ row ∈ s.credentials, row.credentialID = credentialID ∧ row.userID = u) :
    s.credentials.getWebAuthnCredential credentialID = t.credentials.getWebAuthnCredential credentialID := by
  obtain ⟨row, hmem, hid, howner⟩ := hrow
  have hleft : s.credentials.get? credentialID = some row := KeyedTable.get?_eq_some_iff.mpr ⟨hmem, hid⟩
  have hright : t.credentials.get? credentialID = some row :=
    KeyedTable.get?_eq_some_iff.mpr ⟨(hsame.credentials row howner).mp hmem, hid⟩
  exact hleft.trans hright.symm

/-- What one database answers to a call of the user, the other may answer as well. -/
theorem allows_of_sameTables (hown : Own u past event.op) (hsame : SameTables u s.auth t.auth)
    (hevents : ¬ Recorded past → SameEvents u s.authEvents t.authEvents)
    (hrenamed : RenamedOwn u past s.auth.credentials) (hallows : s.Allows w event) : t.Allows w event := by
  obtain ⟨op, answer⟩ := event
  cases op with
  | listAuthEvents limit offset => cases hown
  | countAuthEvents => cases hown
  | listAuthEventsByUser userID limit offset =>
      obtain ⟨rfl, hnone⟩ := hown
      cases answer with
      | error err => exact hallows
      | ok rows => exact isPage_congr (hevents hnone).ofUser hallows
  | countAuthEventsByUser userID =>
      obtain ⟨rfl, hnone⟩ := hown
      cases answer with
      | error err => exact hallows
      | ok count =>
          have hcount : count = (s.authEvents.ofUser userID).length := hallows
          exact hcount.trans (hevents hnone).ofUser.length_eq
  | listSessionsByUser userID =>
      obtain rfl : userID = u := hown
      cases answer with
      | error err => exact hallows
      | ok rows =>
          obtain ⟨hperm, hsorted⟩ := hallows
          refine ⟨?_, hsorted⟩
          rw [← hsame.user]
          cases huser : s.auth.users.getUser userID with
          | none =>
              rw [huser] at hperm
              exact hperm
          | some user =>
              rw [huser] at hperm
              exact hperm.trans (hsame.ofUser_sessions.map _)
  | deleteSessionByIDAndUser sessionID userID =>
      obtain rfl : userID = u := hown
      cases answer with
      | error err => exact hallows
      | ok rows =>
          refine Eq.trans hallows ?_
          exact hsame.sessions.length_sub_deleteWhere fun row hrow => (of_decide_eq_true hrow).2
  | deleteSessionsByUser userID sessionID =>
      obtain rfl : userID = u := hown
      cases answer with
      | error err => exact hallows
      | ok rows =>
          refine Eq.trans hallows ?_
          exact hsame.sessions.length_sub_deleteWhere fun row hrow => (of_decide_eq_true hrow).1
  | renameWebAuthnCredential name credentialID userID =>
      obtain rfl : userID = u := hown
      cases answer with
      | error err => exact hallows
      | ok rows =>
          refine Eq.trans hallows (hsame.credentials.filter_perm fun row hrow => ?_).length_eq
          exact (of_decide_eq_true hrow).2
  | auth op =>
      cases op with
      | getWebAuthnCredential credentialID =>
          -- read by its id alone, but only after a rename has found it among the credentials of the user
          obtain ⟨name, rows, earlier, hpast, hfound⟩ := hown
          show queryAllowed _ (t.auth.credentials.getWebAuthnCredential credentialID) answer = true
          rw [← getWebAuthnCredential_eq hsame (hrenamed name credentialID rows earlier hpast hfound)]
          exact hallows
      | _ => exact allowed_of_sameTables hown hsame hallows

/-! ## Two databases, call by call -/

/-- How two databases are related after the same calls of the user. -/
structure SelfRel (u : Int) (past : List SelfEvent) (s t : SelfState) : Prop where
  tables : SameTables u s.auth t.auth
  authEvents : ¬ Recorded past → SameEvents u s.authEvents t.authEvents
  renamed : RenamedOwn u past s.auth.credentials

theorem selfRel_nil (hsame : SameRows u s t) : SelfRel u [] s t := by
  refine ⟨hsame.tables, fun _ => hsame.authEvents, ?_⟩
  intro name credentialID rows earlier hpast
  cases hpast

variable {next : SelfState}

/-- Only the record of an auth event writes one. -/
theorem authEvents_of_not_recorded (hstep : selfStep w s event next) (hnone : ¬ Recorded (event :: past)) :
    next.authEvents = s.authEvents := by
  obtain ⟨-, -, hkept | ⟨userID, username, name, detail, hop, -⟩⟩ := hstep
  · exact hkept
  · exact absurd ⟨event, List.mem_cons_self, userID, username, name, detail, hop⟩ hnone

/-- A rename that has found a row leaves a passkey of the user under that id. -/
theorem renamedOwn_of_step (hstep : selfStep w s event next) : RenamedOwn u (event :: past) next.auth.credentials := by
  intro name credentialID rows earlier hpast hfound
  cases hpast
  obtain ⟨hallows, hafter, -⟩ := hstep
  have hrows : rows = (s.auth.credentials.rows.filter fun row =>
      decide (row.credentialID = credentialID ∧ row.userID = u)).length := hallows
  rw [hrows, ← Nat.pos_iff_ne_zero] at hfound
  obtain ⟨old, hold⟩ := List.exists_mem_of_length_pos hfound
  obtain ⟨hmem, hboth⟩ := List.mem_filter.mp hold
  obtain ⟨hid, howner⟩ := of_decide_eq_true hboth
  refine ⟨{ old with name := name }, ?_, hid, howner⟩
  rw [hafter]
  exact Credentials.mem_renameWebAuthnCredential.mpr (Or.inl ⟨old, hmem, hid, howner, rfl⟩)

/-- A call of the user on one database can be repeated on the other, with the same answer. -/
theorem selfRel_step (hown : Own u past event.op) (hrel : SelfRel u past s t) (hstep : selfStep w s event next) :
    ∃ next', selfStep w t event next' ∧ SelfRel u (event :: past) next next' := by
  obtain ⟨change, hchange, hafter⟩ := ownChange_afterAuth (w := w) hown
  refine ⟨⟨t.afterAuth w event, t.authEvents⟩, ⟨?_, rfl, Or.inl rfl⟩, ?_, ?_, renamedOwn_of_step hstep⟩
  · exact allows_of_sameTables hown hrel.tables hrel.authEvents hrel.renamed hstep.1
  · rw [hstep.2.1, hafter s, hafter t]
    exact hchange.sameTables hrel.tables
  · intro hnone
    rw [authEvents_of_not_recorded hstep hnone]
    refine hrel.authEvents fun hrecorded => hnone ?_
    obtain ⟨earlier, hearlier, hop⟩ := hrecorded
    exact ⟨earlier, List.mem_cons_of_mem _ hearlier, hop⟩

/-- The request can end with this result, after these calls and answers, the latest one first. -/
def SelfRequest.CanEnd (w : SelfWorld) (ctx : Ctx) (request : SelfRequest) (s : SelfState) (calls : List SelfEvent)
    (result : Except ConnectError SelfResponse) : Prop :=
  ∃ final, MayEnd (selfStep w) [] s (request.handler ctx) ⟨final, calls, result⟩

theorem canEnd_of_sameRows (hctx : ctx.user = some user) {request : SelfRequest}
    (hrole : ∀ req, request = .listAuthEvents req → user.role ≠ adminRole) (hsame : SameRows user.id s t)
    {calls : List SelfEvent} {result : Except ConnectError SelfResponse}
    (hend : request.CanEnd w ctx s calls result) : request.CanEnd w ctx t calls result := by
  obtain ⟨final, hrun⟩ := hend
  have hstep : ∀ past s t event next, Own user.id past event.op → SelfRel user.id past s t →
      selfStep w s event next → ∃ next', selfStep w t event next' ∧ SelfRel user.id (event :: past) next next' :=
    fun _ _ _ _ _ => selfRel_step
  obtain ⟨final', hother, -⟩ :=
    hrun.transfer (SelfRel user.id) hstep (alongOr_handler hctx request hrole) (selfRel_nil hsame)
  exact ⟨final', hother⟩

/-! ## The handlers that delete sessions -/

/-- The end of a handler with an auth event leaves the tables as they are. -/
theorem ends_recordOwnEvent {response : SelfResponse} {name detail : String}
    {r : Lib.Served SelfState SelfCall SelfAnswer ConnectError SelfResponse}
    (hrun : MayEnd (selfStep w) past s (Handlers.recordOwnEvent user name detail >>= fun _ => .done response) r) :
    r.shared.auth = s.auth ∧ r.result = .ok response := by
  obtain ⟨_, final, hrecord, hdone⟩ := MayEnd.perform_bind_iff.mp hrun
  obtain rfl := MayEnd.done_iff.mp hdone
  exact ⟨hrecord.2.1, rfl⟩

/-- `RevokeSession` deletes and answers as in `Dmanager.Auth.Session`. -/
theorem ends_revokeSession {sessionID : GoString}
    {r : Lib.Served SelfState SelfCall SelfAnswer ConnectError SelfResponse}
    (hctx : ctx.user = some user)
    (hrun : MayEnd (selfStep w) [] s ((SelfRequest.revokeSession sessionID).handler ctx) r) :
    ∃ fault, r.shared.auth.sessions = (revokeSession fault s.auth.sessions ctx sessionID).1 ∧
      r.result = (revokeSession fault s.auth.sessions ctx sessionID).2.map fun _ => .sessionRevoked := by
  simp only [SelfRequest.handler, Handlers.revokeSession, liftAuth_requireUser hctx, Program.done_bind,
    bind_assoc] at hrun
  by_cases hempty : sessionID = []
  · subst hempty
    obtain rfl := MayEnd.fail_iff.mp hrun
    exact ⟨none, by simp [revokeSession, hctx], by simp [revokeSession, hctx, Except.map]⟩
  · rw [Program.ensure, if_pos hempty, Program.done_bind, MayEnd.perform_bind_iff] at hrun
    obtain ⟨answer, mid, hdelete, hrun⟩ := hrun
    cases answer with
    | error err =>
        obtain rfl := MayEnd.fail_iff.mp hrun
        refine ⟨some err, ?_, by simp [revokeSession, hctx, hempty, Except.map]⟩
        rw [hdelete.2.1]
        simp [revokeSession, hctx, hempty, SelfState.afterAuth]
    | ok rows =>
        obtain ⟨hrows, hafter, -⟩ := hdelete
        replace hrows : rows = s.auth.sessions.rows.length -
            (s.auth.sessions.deleteSessionByIDAndUser sessionID user.id).rows.length := hrows
        have hsessions : mid.auth.sessions = s.auth.sessions.deleteSessionByIDAndUser sessionID user.id := by
          rw [hafter]
          rfl
        by_cases hnone : rows = 0
        · replace hrun : MayEnd _ _ _ (Program.ensure (rows ≠ 0) _ >>= _) r := hrun
          rw [Program.ensure, if_neg (not_not_intro hnone)] at hrun
          obtain rfl := MayEnd.fail_iff.mp hrun
          refine ⟨none, ?_, ?_⟩
          · simp [revokeSession, hctx, hempty, ← hrows, hnone, hsessions]
          · simp [revokeSession, hctx, hempty, ← hrows, hnone, Except.map]
        · replace hrun : MayEnd _ _ _ (Program.ensure (rows ≠ 0) _ >>= _) r := hrun
          rw [Program.ensure, if_pos hnone] at hrun
          obtain ⟨hauth, hresult⟩ := ends_recordOwnEvent hrun
          refine ⟨none, ?_, ?_⟩
          · simp [revokeSession, hctx, hempty, ← hrows, hnone, hauth, hsessions]
          · simp [revokeSession, hctx, hempty, ← hrows, hnone, hresult, Except.map]

/-- `RevokeAllOtherSessions` deletes and answers as in `Dmanager.Auth.Session`. -/
theorem ends_revokeAllOtherSessions {r : Lib.Served SelfState SelfCall SelfAnswer ConnectError SelfResponse}
    (hctx : ctx.user = some user)
    (hrun : MayEnd (selfStep w) [] s (SelfRequest.revokeAllOtherSessions.handler ctx) r) :
    ∃ fault, r.shared.auth.sessions = (revokeAllOtherSessions fault s.auth.sessions ctx).1 ∧
      r.result = (revokeAllOtherSessions fault s.auth.sessions ctx).2.map .othersRevoked := by
  simp only [SelfRequest.handler, Handlers.revokeAllOtherSessions, liftAuth_requireUser hctx, Program.done_bind,
    bind_assoc, MayEnd.perform_bind_iff] at hrun
  obtain ⟨answer, mid, hdelete, hrun⟩ := hrun
  cases answer with
  | error err =>
      obtain rfl := MayEnd.fail_iff.mp hrun
      refine ⟨some err, ?_, by simp [revokeAllOtherSessions, hctx, Except.map]⟩
      rw [hdelete.2.1]
      simp [revokeAllOtherSessions, hctx, SelfState.afterAuth]
  | ok rows =>
      obtain ⟨hrows, hafter, -⟩ := hdelete
      replace hrows : rows = s.auth.sessions.rows.length -
          (s.auth.sessions.deleteSessionsByUser user.id (currentSessionID ctx)).rows.length := hrows
      obtain ⟨hauth, hresult⟩ := ends_recordOwnEvent hrun
      refine ⟨none, ?_, ?_⟩
      · rw [hauth, hafter]
        simp [revokeAllOtherSessions, hctx, SelfState.afterAuth, currentSessionID]
      · rw [hresult, hrows]
        simp [revokeAllOtherSessions, hctx, Except.map, currentSessionID]

theorem mem_revokeAllOtherSessions {sessions : Sessions} {row : Session} (hctx : ctx.user = some user) :
    row ∈ (revokeAllOtherSessions none sessions ctx).1 ↔
      row ∈ sessions ∧ ¬ (row.userID = user.id ∧ row.sessionID ≠ currentSessionID ctx) := by
  simp only [revokeAllOtherSessions, hctx]
  exact KeyedTable.mem_deleteWhere.trans (and_congr_right fun _ => decide_eq_false_iff_not)

/-! ## Isolation -/

/-- For a request of a user, on every database: the sessions and credentials of the other users stay as they are;
on a database with the same rows of the user the request has the same calls, answers and results; and
`RevokeAllOtherSessions` deletes all the user's sessions but the current one, or fails and deletes none. -/
theorem selfService_isolated (hctx : ctx.user = some user) (request : SelfRequest)
    (hrole : ∀ req, request = .listAuthEvents req → user.role ≠ adminRole) (s : SelfState) :
    (∀ r, MayEnd (selfStep w) [] s (request.handler ctx) r → OthersKept user.id s.auth r.shared.auth) ∧
    (∀ t, SameRows user.id s t → ∀ calls result,
      request.CanEnd w ctx s calls result ↔ request.CanEnd w ctx t calls result) ∧
    (request = .revokeAllOtherSessions → ∀ r, MayEnd (selfStep w) [] s (request.handler ctx) r →
      (∀ response, r.result = .ok response → ∀ row, row ∈ r.shared.auth.sessions ↔
        row ∈ s.auth.sessions ∧ ¬ (row.userID = user.id ∧ row.sessionID ≠ currentSessionID ctx)) ∧
      ∀ err, r.result = .error err → r.shared.auth.sessions = s.auth.sessions) := by
  refine ⟨fun r hrun => ?_, fun t hsame calls result => ?_, ?_⟩
  · exact othersKept_of_mayEnd (alongOr_handler hctx request hrole) hrun
  · exact ⟨canEnd_of_sameRows hctx hrole hsame, canEnd_of_sameRows hctx hrole hsame.symm⟩
  · rintro rfl r hrun
    obtain ⟨fault, hsessions, hresult⟩ := ends_revokeAllOtherSessions hctx hrun
    cases fault with
    | none =>
        refine ⟨fun response _ row => ?_, fun err herr => ?_⟩
        · rw [hsessions]
          exact mem_revokeAllOtherSessions hctx
        · rw [hresult] at herr
          simp [revokeAllOtherSessions, hctx, Except.map] at herr
    | some cause =>
        refine ⟨fun response hresponse => ?_, fun err _ => ?_⟩
        · rw [hresult] at hresponse
          simp [revokeAllOtherSessions, hctx, Except.map] at hresponse
        · rw [hsessions]
          simp [revokeAllOtherSessions, hctx]

/-! ## Two users -/

def alice : User := ⟨1, str "alice", [], str "user"⟩

def bob : User := ⟨2, str "bob", [], str "user"⟩

/-- A session of a user. -/
def sessionOf (user : User) (sessionID : String) : Session := ⟨str sessionID, user.id, 9, 0, 0, 9, []⟩

/-- Only Alice, with a laptop and a phone. -/
def aliceAlone : SelfState where
  auth :=
    { passkeyState with
      users := ⟨[alice], 1, by decide, by decide, by decide⟩
      sessions := ⟨[sessionOf alice "laptop", sessionOf alice "phone"], by decide⟩
      credentials := KeyedTable.empty }
  authEvents := ⟨KeyedTable.empty, 0, by simp⟩

/-- The same with Bob, who has a desktop and a passkey. -/
def aliceAndBob : SelfState where
  auth :=
    { passkeyState with
      users := ⟨[alice, bob], 2, by decide, by decide, by decide⟩
      sessions :=
        ⟨[sessionOf bob "desktop", sessionOf alice "laptop", sessionOf alice "phone"], by decide⟩
      credentials := ⟨[{ passkeyRow [1] 5 with userID := 2 }], by decide⟩ }
  authEvents := ⟨KeyedTable.empty, 0, by simp⟩

/-- Alice on the phone. -/
def aliceCtx : Ctx := ⟨some alice, some (str "phone")⟩

def calmSelfWorld : SelfWorld := ⟨calmWorld, fun _ => false⟩

theorem sameRows_alice : SameRows alice.id aliceAlone aliceAndBob where
  tables :=
    { user := by decide
      sessions := by
        intro row howner
        refine (List.mem_cons.trans (or_iff_right ?_)).symm
        rintro rfl
        exact absurd howner (by decide)
      credentials := by
        intro row howner
        refine (List.mem_cons.trans (or_iff_right ?_)).symm
        rintro rfl
        exact absurd howner (by decide) }
  authEvents := .refl _

/-- The delete of Alice's other sessions. -/
def revokeOthers : SelfEvent := ⟨.deleteSessionsByUser 1 (str "phone"), .ok 1⟩

/-- The record of it, which fails. -/
def recordRevoked : SelfEvent :=
  ⟨.auth (.recordAuthEvent (some 1) (str "alice") (str "session_revoked") (str "action: revoke_all_other")), ()⟩

/-- Alice logs her other devices out. -/
theorem aliceAlone_canEnd : SelfRequest.revokeAllOtherSessions.CanEnd calmSelfWorld aliceCtx aliceAlone
    [recordRevoked, revokeOthers] (.ok (.othersRevoked 1)) := by
  have hdelete : selfStep calmSelfWorld aliceAlone revokeOthers
      ⟨aliceAlone.afterAuth calmSelfWorld revokeOthers, aliceAlone.authEvents⟩ := by
    refine ⟨?_, rfl, Or.inl rfl⟩
    show (1 : Nat) = 2 - (aliceAlone.auth.sessions.deleteSessionsByUser 1 (str "phone")).rows.length
    decide
  have hrecord : ∀ s, selfStep calmSelfWorld s recordRevoked s := fun s => ⟨rfl, rfl, Or.inl rfl⟩
  exact ⟨_, .call hdelete (.call (hrecord _) (.done _ _ _))⟩

/-- With Bob around she does the same: her laptop is logged out, and Bob's session stays. -/
theorem selfService_isolated_twoUsers :
    ∃ r, MayEnd (selfStep calmSelfWorld) [] aliceAndBob (SelfRequest.revokeAllOtherSessions.handler aliceCtx) r ∧
      r.result = .ok (.othersRevoked 1) ∧ sessionOf bob "desktop" ∈ r.shared.auth.sessions ∧
      sessionOf alice "phone" ∈ r.shared.auth.sessions ∧ sessionOf alice "laptop" ∉ r.shared.auth.sessions := by
  have hctx : aliceCtx.user = some alice := rfl
  have hrole : ∀ req, SelfRequest.revokeAllOtherSessions = .listAuthEvents req → alice.role ≠ adminRole := nofun
  obtain ⟨-, hsame, -⟩ := selfService_isolated (w := calmSelfWorld) hctx .revokeAllOtherSessions hrole aliceAlone
  obtain ⟨final, hrun⟩ := (hsame aliceAndBob sameRows_alice _ _).mp aliceAlone_canEnd
  obtain ⟨-, -, hexact⟩ := selfService_isolated (w := calmSelfWorld) hctx .revokeAllOtherSessions hrole aliceAndBob
  have hmem : ∀ row, row ∈ final.auth.sessions ↔
      row ∈ aliceAndBob.auth.sessions ∧ ¬ (row.userID = 1 ∧ row.sessionID ≠ str "phone") := (hexact rfl _ hrun).1 _ rfl
  refine ⟨_, hrun, rfl, ?_, ?_, ?_⟩
  · exact (hmem _).mpr ⟨KeyedTable.mem_iff_mem_rows.mpr (by decide), by decide⟩
  · exact (hmem _).mpr ⟨KeyedTable.mem_iff_mem_rows.mpr (by decide), by decide⟩
  · intro hlaptop
    exact absurd ((hmem _).mp hlaptop).2 (by decide)

end Auth
end Dmanager
