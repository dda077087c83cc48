import Dmanager.Auth.ChallengeUse

/-!
# The clone warning and the counter of a passkey

`FinishPasskeyLogin` reads the row of the credential, lets the library verify the assertion against it, and
writes the counter, the warning and the other columns of the usage back.  A warning is raised when the
asserted counter is not beyond the counter of the row.  What is written is made of the row that was read and
of the assertion, so it can be older than the row that is there by then.

`cloneState_monotone_iff` says exactly when a run keeps the state of a credential going forward: whenever
usage is written, the counter that is there is at most the greater one of the counter read and the counter
asserted, and a warning that is there was read or is raised again.

`login_drops_warning` is a run in which a login takes back the warning that another one has just raised.
-/

namespace Dmanager
namespace Auth

open Go Db Lib Server
open Handlers

/-- The counter that go-webauthn hands back for the stored counter it was given and the asserted one. -/
def UpdatedCounter (given asserted updated : UInt32) : Prop :=
  updated = if given < asserted ∨ (given = 0 ∧ asserted = 0) then asserted else given

instance (given asserted updated : UInt32) : Decidable (UpdatedCounter given asserted updated) :=
  inferInstanceAs (Decidable (_ = _))

/-- The library updates counters this way. -/
def UpdatesCounters (w : AuthWorld) : Prop :=
  ∀ user session response validCred given, user.credentials = [given] →
    w.possible ⟨.validateDiscoverableLogin user session response, .ok validCred⟩ = true →
      UpdatedCounter given.signCount response.counter validCred.signCount

/-- The row of a credential is still there, with a counter that is not smaller, and with the warning if it had
one. -/
def CloneStateKept (credID : List UInt8) (before later : Credentials) : Prop :=
  ∀ row, before.getWebAuthnCredential credID = some row →
    ∃ row', later.getWebAuthnCredential credID = some row' ∧ row.signCount ≤ row'.signCount ∧
      (row.cloneWarning = 1 → row'.cloneWarning = 1)

/-- The counter that a request writes: the greater one of the counter it has read and the counter asserted. -/
def writtenCount (credRow : WebauthnCredential) (response : ParsedAssertion) : Int :=
  max (storedSignCount credRow.signCount).toNat response.counter.toNat

/-- When a request writes the usage of the credential, the row has no greater counter than the one written,
and no warning that the request has neither read nor raised. -/
def FreshUsage {ι : Type} [DecidableEq ι] (credID : List UInt8) (c : Requests ι LoginResponse) :
    AuthLabel ι → Prop
  | .call i ⟨.updateWebAuthnCredentialUsage _, .ok _⟩ =>
    ∀ credRow response row, readRow (c.past i) = some credRow → verifiedAssertion (c.past i) = some response →
      credRow.credentialID = credID → c.shared.credentials.getWebAuthnCredential credID = some row →
        row.signCount ≤ writtenCount credRow response ∧
          (row.cloneWarning = 1 → credRow.cloneWarning = 1 ∨ CounterRegressed credRow response.counter)
  | _ => True

/-- The logins before their first call. -/
def loginsStart {ι : Type} (svc : AuthService) (s : AuthState) (requests : ι → FinishPasskeyLoginRequest) :
    Requests ι LoginResponse :=
  requestsStart s fun i => finishPasskeyLogin svc (requests i)

/-! ## What a request writes -/

variable {w : AuthWorld} {credRow row : WebauthnCredential} {response : ParsedAssertion}

theorem UpdatedCounter.toNat_eq {given asserted updated : UInt32} (h : UpdatedCounter given asserted updated) :
    updated.toNat = max given.toNat asserted.toNat := by
  unfold UpdatedCounter at h
  rw [h]
  split
  · rename_i hgreater
    rcases hgreater with hless | ⟨rfl, rfl⟩
    · have hlessNat : given.toNat < asserted.toNat := UInt32.lt_iff_toNat_lt.mp hless
      omega
    · rfl
  · rename_i hnot
    have hle : asserted.toNat ≤ given.toNat := by
      by_contra hless
      exact hnot (Or.inl (UInt32.lt_iff_toNat_lt.mpr (not_le.mp hless)))
    omega

/-- When the counter has regressed, the one that is written back is the one that was read. -/
theorem writtenCount_of_regressed (hregressed : CounterRegressed credRow response.counter) :
    writtenCount credRow response = credRow.signCount := by
  obtain ⟨hpos, hle, hcounter, -⟩ := hregressed
  have hstored : storedSignCount credRow.signCount = UInt32.ofNat credRow.signCount.toNat := if_pos ⟨hpos, hle⟩
  have hcounterNat := UInt32.le_iff_toNat_le.mp hcounter
  have hsmall : credRow.signCount.toNat < 2 ^ 32 := by
    simp only [maxUint32] at hle
    omega
  rw [UInt32.toNat_ofNat_of_lt' hsmall] at hcounterNat
  rw [writtenCount, hstored, UInt32.toNat_ofNat_of_lt' hsmall]
  omega

/-- What a login writes: to the row it has read, the greater counter, and a warning if it has read or raised
one. -/
theorem written_of_call {past : List AuthEvent} {arg : UpdateWebAuthnCredentialUsageParams}
    (hcounts : UpdatesCounters w) (hpossible : ∀ user session response validCred,
      ⟨.validateDiscoverableLogin user session response, .ok validCred⟩ ∈ past →
        w.possible ⟨.validateDiscoverableLogin user session response, .ok validCred⟩ = true)
    (htext : FinishLoginCall past (.updateWebAuthnCredentialUsage arg)) :
    ∃ credRow response, readRow past = some credRow ∧ verifiedAssertion past = some response ∧
      arg.credentialID = credRow.credentialID ∧ arg.signCount = writtenCount credRow response ∧
      (arg.cloneWarning = 1 ↔ credRow.cloneWarning = 1 ∨ CounterRegressed credRow response.counter) := by
  obtain ⟨credRow, user, session, response, validCred, hread, hverified, hvalid, hwritten⟩ := htext
  refine ⟨credRow, response, hread, hverified, ?_⟩
  obtain ⟨hregressed, rfl⟩ | ⟨hadvanced, now, rfl⟩ := hwritten
  · refine ⟨rfl, (writtenCount_of_regressed hregressed).symm, ?_⟩
    exact iff_of_true rfl (Or.inr hregressed)
  · refine ⟨rfl, ?_, (or_iff_left hadvanced).symm⟩
    have hupdated := hcounts _ _ _ _ (dbCredToWebAuthn credRow) rfl (hpossible _ _ _ _ hvalid)
    show (validCred.signCount.toNat : Int) = _
    rw [hupdated.toNat_eq, Nat.cast_max]
    rfl

theorem CloneStateKept.refl (credID : List UInt8) (credentials : Credentials) :
    CloneStateKept credID credentials credentials :=
  fun row hrow => ⟨row, hrow, le_rfl, id⟩

theorem CloneStateKept.trans {credID : List UInt8} {first second third : Credentials}
    (hfirst : CloneStateKept credID first second) (hsecond : CloneStateKept credID second third) :
    CloneStateKept credID first third := by
  intro row hrow
  obtain ⟨row', hrow', hcount, hwarning⟩ := hfirst row hrow
  obtain ⟨row'', hrow'', hcount', hwarning'⟩ := hsecond row' hrow'
  exact ⟨row'', hrow'', hcount.trans hcount', fun h => hwarning' (hwarning h)⟩

/-! ## Steps and runs -/

section Runs

variable {ι : Type} [DecidableEq ι] {credID : List UInt8} {c next : Requests ι LoginResponse} {i : ι}

/-- What holds of every state of a run: the texts, and that the library has answered as it may. -/
structure UsageInv (w : AuthWorld) (c : Requests ι LoginResponse) : Prop where
  follows : Follows (fun _ => FinishLoginCall) (fun _ _ _ => True) c
  possible : ∀ i, ∀ event ∈ c.past i, ∀ user session response validCred,
    event = ⟨.validateDiscoverableLogin user session response, .ok validCred⟩ → w.possible event = true

theorem usageInv_step {label : AuthLabel ι} (hinv : UsageInv w c)
    (hstep : (authBackend w).step c label = some next) : UsageInv w next := by
  refine ⟨hinv.follows.step hstep, ?_⟩
  refine forall_past_step hinv.possible ?_ hstep
  rintro i event rfl user session response validCred rfl
  obtain ⟨rest, -, hallowed, -⟩ := requests_step_call hstep
  exact hallowed

/-- A write of usage keeps the state of the credential exactly when it is fresh. -/
theorem cloneStateKept_update_iff {arg : UpdateWebAuthnCredentialUsageParams} {u : Unit}
    (hcounts : UpdatesCounters w) (hinv : UsageInv w c)
    (htext : FinishLoginCall (c.past i) (.updateWebAuthnCredentialUsage arg)) :
    CloneStateKept credID c.shared.credentials (c.shared.credentials.updateWebAuthnCredentialUsage arg) ↔
      FreshUsage credID c (.call i ⟨.updateWebAuthnCredentialUsage arg, .ok u⟩) := by
  obtain ⟨credRow, response, hread, hverified, hid, hcount, hwarning⟩ :=
    written_of_call hcounts (fun user session response validCred hmem =>
      hinv.possible i _ hmem user session response validCred rfl) htext
  -- the guard is about the one row that the request has read
  have hguard : FreshUsage credID c (.call i ⟨.updateWebAuthnCredentialUsage arg, .ok u⟩) ↔
      (arg.credentialID = credID → ∀ row, c.shared.credentials.getWebAuthnCredential credID = some row →
        row.signCount ≤ arg.signCount ∧ (row.cloneWarning = 1 → arg.cloneWarning = 1)) := by
    rw [hid, hcount, hwarning]
    constructor
    · intro hfresh hcred row hrow
      exact hfresh credRow response row hread hverified hcred hrow
    · intro hall credRow' response' row hread' hverified' hcred hrow
      cases hread.symm.trans hread'
      cases hverified.symm.trans hverified'
      exact hall hcred row hrow
  rw [hguard]
  unfold CloneStateKept
  simp only [Credentials.get?_updateWebAuthnCredentialUsage]
  by_cases hcred : credID = arg.credentialID
  · subst hcred
    simp only [if_true, forall_true_left]
    refine forall_congr' fun row => forall_congr' fun hrow => ?_
    simp only [hrow, Option.map_some, Option.some.injEq, exists_eq_left']
    exact Iff.rfl
  · simp only [if_neg hcred]
    refine iff_of_true (CloneStateKept.refl credID _) ?_
    intro hsame
    exact absurd hsame.symm hcred

/-- A login writes credentials only by writing their usage. -/
theorem credentials_after_of_call {s : AuthState} {past : List AuthEvent} {event : AuthEvent}
    (htext : FinishLoginCall past event.op)
    (hother : ∀ arg u, event ≠ ⟨.updateWebAuthnCredentialUsage arg, .ok u⟩) :
    (s.after w event).credentials = s.credentials := by
  obtain ⟨op, answer⟩ := event
  cases op with
  | updateWebAuthnCredentialUsage arg =>
      cases answer with
      | ok u => exact absurd rfl (hother arg u)
      | error err => rfl
  | createWebAuthnCredential arg => exact absurd htext id
  | deleteWebAuthnCredential credID userID => exact absurd htext id
  | _ => exact credentials_after id

/-- A step keeps the state of the credential exactly when it is not a write of outdated usage. -/
theorem cloneStateKept_step_iff {label : AuthLabel ι} (hcounts : UpdatesCounters w) (hinv : UsageInv w c)
    (hstep : (authBackend w).step c label = some next) :
    CloneStateKept credID c.shared.credentials next.shared.credentials ↔ FreshUsage credID c label := by
  cases label with
  | env now =>
      obtain ⟨-, hnext⟩ := requests_step_env hstep
      subst hnext
      exact iff_of_true (CloneStateKept.refl _ _) trivial
  | call i event =>
      obtain ⟨rest, hcall, hallowed, hnext⟩ := requests_step_call hstep
      have htext : FinishLoginCall (c.past i) event.op := hinv.follows.call hcall
      subst hnext
      by_cases hupdate : ∃ arg u, event = ⟨.updateWebAuthnCredentialUsage arg, .ok u⟩
      · obtain ⟨arg, u, rfl⟩ := hupdate
        exact cloneStateKept_update_iff hcounts hinv htext
      · have hother : ∀ arg u, event ≠ ⟨.updateWebAuthnCredentialUsage arg, .ok u⟩ := by
          intro arg u heq
          exact hupdate ⟨arg, u, heq⟩
        have hfresh : FreshUsage credID c (.call i event) := by
          unfold FreshUsage
          split
          · rename_i heq
            cases heq
            exact absurd rfl (hother _ _)
          · trivial
        refine iff_of_true ?_ hfresh
        show CloneStateKept credID c.shared.credentials (c.shared.after w event).credentials
        rw [credentials_after_of_call htext hother]
        exact CloneStateKept.refl _ _

/-- The state of a credential goes forward between any two states of a run, if and only if every write of
usage in the run is fresh. -/
theorem cloneState_monotone_iff (w : AuthWorld) (svc : AuthService) (s : AuthState)
    (requests : ι → FinishPasskeyLoginRequest) (credID : List UInt8) (labels : List (AuthLabel ι))
    (final : Requests ι LoginResponse) (hcounts : UpdatesCounters w)
    (hrun : exec (authBackend w).step (loginsStart svc s requests) labels = some final) :
    (∀ earlier between later first second, labels = earlier ++ between ++ later →
        exec (authBackend w).step (loginsStart svc s requests) earlier = some first →
        exec (authBackend w).step first between = some second →
          CloneStateKept credID first.shared.credentials second.shared.credentials) ↔
      Guarded (authBackend w).step (FreshUsage credID) (loginsStart svc s requests) labels := by
  have hinit : UsageInv w (loginsStart svc s requests) := by
    refine ⟨follows_start fun i => ?_, ?_⟩
    · exact Program.along_attempt.mpr (alongOr_finishPasskeyLogin svc (requests i))
    · intro i event hevent
      cases hevent
  rw [forall_later_iff_guarded
    (fun first second : Requests ι LoginResponse =>
      CloneStateKept credID first.shared.credentials second.shared.credentials)
    (fun c => CloneStateKept.refl credID _) (fun _ _ _ => CloneStateKept.trans)]
  refine guarded_congr_of_exec (UsageInv w) ?_ (fun c label next hinv _ => usageInv_step hinv) hrun hinit
  intro c label next hinv hnext
  simp only [hnext, Option.some.injEq, forall_eq']
  exact cloneStateKept_step_iff hcounts hinv hnext

end Runs

/-! ## A login that takes a warning back -/

/-- The library updates counters as documented, and answers as it likes otherwise. -/
def countingWorld : AuthWorld where
  conversion := .amd64
  sqlLess := fun s t => decide (s < t)
  faults := fun _ => false
  possible
    | ⟨.validateDiscoverableLogin user _ response, .ok validCred⟩ =>
      user.credentials.all fun given =>
        decide (UpdatedCounter given.signCount response.counter validCred.signCount)
    | _ => true

theorem updatesCounters_countingWorld : UpdatesCounters countingWorld := by
  intro user session response validCred given hgiven hpossible
  simpa [countingWorld, hgiven] using hpossible

/-- The first login is of the owner, the second one of a clone. -/
def ownerAndClone (i : Fin 2) : FinishPasskeyLoginRequest :=
  if i = 0 then ⟨str "owner", false, none, str "10.0.0.1"⟩ else ⟨str "clone", false, none, str "10.0.0.2"⟩

/-- The owner's counter is beyond the stored one, which is five, and the clone's is not. -/
def ownerAssertion : ParsedAssertion := ⟨[1], str "first", 6, []⟩

def cloneAssertion : ParsedAssertion := ⟨[1], str "second", 3, []⟩

/-- A request up to the verification of its assertion. -/
def untilVerified (i : Fin 2) (body ip : String) (response : ParsedAssertion) (challenge : WebauthnChallenge)
    (row : WebauthnCredential) (validCred : Credential) : List (AuthLabel (Fin 2)) :=
  [.call i ⟨.parseCredentialRequestResponseBody (str body), .ok response⟩, .call i ⟨.timeNow, 0⟩,
    .call i ⟨.getUnconsumedWebAuthnChallenge ⟨response.challenge, challengeKindLogin, 0⟩, .ok challenge⟩,
    .call i ⟨.consumeWebAuthnChallenge challenge.id, .ok ()⟩,
    .call i ⟨.getWebAuthnCredential [1], .ok row⟩, .call i ⟨.getUser 1, .ok passkeyUser⟩,
    .call i ⟨.timeNow, 0⟩, .call i ⟨.check (str "admin") (str ip) 0, (false, 0)⟩,
    .call i ⟨.validateDiscoverableLogin (assertionUser passkeyUser row)
      (assertionSession defaultService response.challenge none) response, .ok validCred⟩]

/-- The credential, and what the library makes of it for the owner. -/
def storedRow : WebauthnCredential := passkeyRow [1] 5

def ownerVerified : Credential := { dbCredToWebAuthn storedRow with signCount := 6 }

/-- The clone raises a warning after the owner has read the row. -/
def warningRaised : List (AuthLabel (Fin 2)) :=
  untilVerified 0 "owner" "10.0.0.1" ownerAssertion (loginChallenge 1 "first") storedRow ownerVerified ++
    untilVerified 1 "clone" "10.0.0.2" cloneAssertion (loginChallenge 2 "second") storedRow
      (dbCredToWebAuthn storedRow) ++
    [.call 1 ⟨.updateWebAuthnCredentialUsage (cloneUsage storedRow), .ok ()⟩]

/-- The owner writes the usage. -/
def ownerWrites : List (AuthLabel (Fin 2)) :=
  [.call 0 ⟨.timeNow, 0⟩, .call 0 ⟨.updateWebAuthnCredentialUsage (loginUsage storedRow ownerVerified 0), .ok ()⟩]

/-- The counter and the warning of the credential. -/
def cloneStateOf (c : Requests (Fin 2) LoginResponse) : Option (Int × Int) :=
  (c.shared.credentials.getWebAuthnCredential [1]).map fun row => (row.signCount, row.cloneWarning)

theorem exec_warningRaised :
    ((exec (authBackend countingWorld).step (loginsStart defaultService passkeyState ownerAndClone)
        warningRaised).bind fun before =>
      (exec (authBackend countingWorld).step before ownerWrites).map fun after =>
        (cloneStateOf before, cloneStateOf after)) = some (some (5, 1), some (6, 0)) := by
  decide +kernel

theorem cloneState_monotone_iff_warningRaised :
    ∃ final, exec (authBackend countingWorld).step (loginsStart defaultService passkeyState ownerAndClone)
        warningRaised = some final ∧
      ((∀ earlier between later first second, warningRaised = earlier ++ between ++ later →
          exec (authBackend countingWorld).step (loginsStart defaultService passkeyState ownerAndClone) earlier =
            some first →
          exec (authBackend countingWorld).step first between = some second →
            CloneStateKept [1] first.shared.credentials second.shared.credentials) ↔
        Guarded (authBackend countingWorld).step (FreshUsage [1])
          (loginsStart defaultService passkeyState ownerAndClone) warningRaised) := by
  obtain ⟨before, hbefore, -⟩ := Option.bind_eq_some_iff.mp exec_warningRaised
  exact ⟨before, hbefore,
    cloneState_monotone_iff _ _ _ _ _ _ _ updatesCounters_countingWorld hbefore⟩

/-- The owner's write takes the warning back. -/
theorem login_drops_warning :
    UpdatesCounters countingWorld ∧ ∃ before after,
      exec (authBackend countingWorld).step (loginsStart defaultService passkeyState ownerAndClone)
        warningRaised = some before ∧
      exec (authBackend countingWorld).step before ownerWrites = some after ∧
      ¬ CloneStateKept [1] before.shared.credentials after.shared.credentials := by
  obtain ⟨before, hbefore, hrest⟩ := Option.bind_eq_some_iff.mp exec_warningRaised
  obtain ⟨after, hafter, hstates⟩ := Option.map_eq_some_iff.mp hrest
  obtain ⟨hraised, hdropped⟩ := Prod.mk.inj hstates
  refine ⟨updatesCounters_countingWorld, before, after, hbefore, hafter, fun hkept => ?_⟩
  obtain ⟨row, hrow, hpair⟩ := Option.map_eq_some_iff.mp hraised
  obtain ⟨-, hwarned⟩ := Prod.mk.inj hpair
  obtain ⟨row', hrow', -, hwarning⟩ := hkept row hrow
  rw [cloneStateOf, hrow', Option.map_some, Option.some.injEq] at hdropped
  obtain ⟨-, hgone⟩ := Prod.mk.inj hdropped
  have hstill := hwarning hwarned
  omega

end Auth
end Dmanager
