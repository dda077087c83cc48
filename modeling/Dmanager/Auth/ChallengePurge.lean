import Dmanager.Auth.Ceremonies
import Dmanager.Lib.HiddenSteps

/-!
# The purge of challenges

Once an hour `PurgeExpiredWebAuthnChallenges` deletes the challenges that have expired or been consumed.  A lookup
takes no such challenge anyway, so the requests should not notice: they run the same way without the purge job.

They do when no lookup is behind a purge (`purge_unnoticed`): the instant that a lookup compares with is not, for
SQLite, before that of a purge that has come before it.  A handler reads the clock and then asks the database, and a
purge that comes in between may be ahead of it; `purge_noticed` is such a run.
-/

namespace Dmanager
namespace Auth

open Go Db Lib Server

/-! ## Two tables of challenges -/

/-- No lookup finds the row any more, now that purges at these instants have come. -/
def Spent (sqlLess : Int → Int → Bool) (purges : List Int) (row : WebauthnChallenge) : Prop :=
  row.consumed = 1 ∨ ∃ purge ∈ purges, sqlLess row.expiresAt purge = true

/-- The left table has been purged, and the right one has not: the right one has all rows of the left one, and more of
them that are spent. -/
structure Purged (sqlLess : Int → Int → Bool) (purges : List Int) (left right : Challenges) : Prop where
  seq : left.seq = right.seq
  kept : ∀ row ∈ left.table, row ∈ right.table
  spent : ∀ row ∈ right.table, row ∈ left.table ∨ Spent sqlLess purges row

/-- The states differ in their challenges, and there only by the purges. -/
structure PurgedState (sqlLess : Int → Int → Bool) (purges : List Int) (left right : AuthState) : Prop where
  users : left.users = right.users
  sessions : left.sessions = right.sessions
  credentials : left.credentials = right.credentials
  challenges : Purged sqlLess purges left.challenges right.challenges
  limiter : left.limiter = right.limiter
  clock : left.clock = right.clock

/-- A lookup compares with an instant that is not before that of a purge. -/
def NotBehind (sqlLess : Int → Int → Bool) (purges : List Int) : CeremonyCall → Prop
  | .auth (.getUnconsumedWebAuthnChallenge arg) => ∀ purge ∈ purges, sqlLess arg.expiresAt purge = false
  | _ => True

variable {sqlLess : Int → Int → Bool} {purges : List Int} {left right : Challenges}

theorem Purged.refl (challenges : Challenges) : Purged sqlLess purges challenges challenges :=
  ⟨rfl, fun _ hrow => hrow, fun _ hrow => Or.inl hrow⟩

theorem Spent.cons {row : WebauthnChallenge} (purge : Int) (hspent : Spent sqlLess purges row) :
    Spent sqlLess (purge :: purges) row :=
  hspent.imp_right fun ⟨earlier, hearlier, hless⟩ => ⟨earlier, List.mem_cons_of_mem _ hearlier, hless⟩

/-- A lookup that is not behind passes over the rows that are spent. -/
theorem Spent.not_unconsumed (htrans : ∀ a b c, sqlLess a b = true → sqlLess b c = true → sqlLess a c = true)
    {arg : GetUnconsumedWebAuthnChallengeParams} (hahead : ∀ purge ∈ purges, sqlLess arg.expiresAt purge = false)
    {row : WebauthnChallenge} (hspent : Spent sqlLess purges row) : ¬ Challenges.Unconsumed sqlLess arg row := by
  rintro ⟨-, -, hunconsumed, hlater⟩
  obtain hconsumed | ⟨purge, hpurge, hexpired⟩ := hspent
  · omega
  · have hless := htrans _ _ _ hlater hexpired
    rw [hahead purge hpurge] at hless
    cases hless

/-- One more purge, of the left table. -/
theorem Purged.purge (hpurged : Purged sqlLess purges left right) (now : Int) :
    Purged sqlLess (now :: purges) (purgeExpiredWebAuthnChallenges sqlLess left now) right where
  seq := hpurged.seq
  kept row hrow := hpurged.kept row (KeyedTable.mem_deleteWhere.mp hrow).1
  spent row hrow := by
    obtain hleft | hspent := hpurged.spent row hrow
    · cases hdoomed : sqlLess row.expiresAt now || decide (row.consumed = 1) with
      | false => exact Or.inl (KeyedTable.mem_deleteWhere.mpr ⟨hleft, hdoomed⟩)
      | true =>
          rcases Bool.or_eq_true_iff.mp hdoomed with hexpired | hconsumed
          · exact Or.inr (Or.inr ⟨now, List.mem_cons_self, hexpired⟩)
          · exact Or.inr (Or.inl (of_decide_eq_true hconsumed))
    · exact Or.inr (hspent.cons now)

/-- A new challenge gets the same id in both tables. -/
theorem Purged.create (hpurged : Purged sqlLess purges left right) (arg : CreateWebAuthnChallengeParams) :
    (left.createWebAuthnChallenge arg).2 = (right.createWebAuthnChallenge arg).2 ∧
      Purged sqlLess purges (left.createWebAuthnChallenge arg).1 (right.createWebAuthnChallenge arg).1 := by
  have hrow : (left.createWebAuthnChallenge arg).2 = (right.createWebAuthnChallenge arg).2 := by
    show issuedRow (left.seq + 1) arg = issuedRow (right.seq + 1) arg
    rw [hpurged.seq]
  refine ⟨hrow, ?_, fun row hmem => ?_, fun row hmem => ?_⟩
  · show left.seq + 1 = right.seq + 1
    rw [hpurged.seq]
  · rcases List.mem_append.mp hmem with hold | hnew
    · exact List.mem_append_left _ (hpurged.kept row hold)
    · rw [List.mem_singleton.mp hnew]
      exact List.mem_append_right _ (List.mem_singleton.mpr hrow)
  · rcases List.mem_append.mp hmem with hold | hnew
    · exact (hpurged.spent row hold).imp_left fun hleft => List.mem_append_left _ hleft
    · rw [List.mem_singleton.mp hnew]
      exact Or.inl (List.mem_append_right _ (List.mem_singleton.mpr hrow.symm))

theorem mem_consume {challenges : Challenges} {id : Int} {row : WebauthnChallenge} :
    row ∈ (challenges.consumeWebAuthnChallenge id).table ↔
      ∃ old ∈ challenges.table, (old.id = id ∧ row = { old with consumed := 1 }) ∨ (old.id ≠ id ∧ row = old) := by
  show row ∈ challenges.table.update id (fun row => { row with consumed := 1 }) (fun _ => rfl) ↔ _
  exact KeyedTable.mem_update

theorem Purged.consume (hpurged : Purged sqlLess purges left right) (id : Int) :
    Purged sqlLess purges (left.consumeWebAuthnChallenge id) (right.consumeWebAuthnChallenge id) where
  seq := hpurged.seq
  kept row hrow := by
    obtain ⟨old, hold, hnew⟩ := mem_consume.mp hrow
    exact mem_consume.mpr ⟨old, hpurged.kept old hold, hnew⟩
  spent row hrow := by
    obtain ⟨old, hold, hnew⟩ := mem_consume.mp hrow
    obtain hleft | hspent := hpurged.spent old hold
    · exact Or.inl (mem_consume.mpr ⟨old, hleft, hnew⟩)
    · rcases hnew with ⟨-, rfl⟩ | ⟨-, rfl⟩
      · exact Or.inr (Or.inl rfl)
      · exact Or.inr hspent

/-- A lookup that is not behind may find the same rows in both tables, or none in both. -/
theorem Purged.isUnconsumed_iff (htrans : ∀ a b c, sqlLess a b = true → sqlLess b c = true → sqlLess a c = true)
    (hpurged : Purged sqlLess purges left right) {arg : GetUnconsumedWebAuthnChallengeParams}
    (hahead : ∀ purge ∈ purges, sqlLess arg.expiresAt purge = false) (row : WebauthnChallenge) :
    Challenges.IsUnconsumed sqlLess left arg row ↔ Challenges.IsUnconsumed sqlLess right arg row := by
  refine ⟨fun ⟨hrow, hmatch⟩ => ⟨hpurged.kept row hrow, hmatch⟩, fun ⟨hrow, hmatch⟩ => ⟨?_, hmatch⟩⟩
  obtain hleft | hspent := hpurged.spent row hrow
  · exact hleft
  · exact absurd hmatch (hspent.not_unconsumed htrans hahead)

theorem Purged.none_iff (htrans : ∀ a b c, sqlLess a b = true → sqlLess b c = true → sqlLess a c = true)
    (hpurged : Purged sqlLess purges left right) {arg : GetUnconsumedWebAuthnChallengeParams}
    (hahead : ∀ purge ∈ purges, sqlLess arg.expiresAt purge = false) :
    (left.table.rows.all fun row => decide (¬ Challenges.Unconsumed sqlLess arg row)) =
      right.table.rows.all fun row => decide (¬ Challenges.Unconsumed sqlLess arg row) := by
  rw [Bool.eq_iff_iff, List.all_eq_true, List.all_eq_true]
  simp only [decide_eq_true_eq]
  constructor
  · intro hnone row hrow hmatch
    exact hnone row ((hpurged.isUnconsumed_iff htrans hahead row).mpr ⟨hrow, hmatch⟩).1 hmatch
  · intro hnone row hrow hmatch
    exact hnone row (hpurged.kept row hrow) hmatch

/-! ## Two states -/

section States

variable {w : AuthWorld} {s t : AuthState}

/-- A call that is not a lookup behind a purge is answered the same way by both states. -/
theorem PurgedState.allowed_eq
    (htrans : ∀ a b c, w.sqlLess a b = true → w.sqlLess b c = true → w.sqlLess a c = true)
    (hpurged : PurgedState w.sqlLess purges s t) {event : AuthEvent}
    (hahead : NotBehind w.sqlLess purges (.auth event.op)) : s.allowed w event = t.allowed w event := by
  obtain ⟨users, sessions, credentials, challenges, limiter, clock⟩ := s
  obtain ⟨_, _, _, challenges', _, _⟩ := t
  obtain ⟨rfl, rfl, rfl, hchallenges, rfl, rfl⟩ := hpurged
  obtain ⟨op, answer⟩ := event
  cases op with
  | createWebAuthnChallenge arg =>
      cases answer with
      | error err => rfl
      | ok row =>
          show decide (row = _) = decide (row = _)
          rw [(hchallenges.create arg).1]
  | getUnconsumedWebAuthnChallenge arg =>
      rcases answer with (_ | message) | row
      · exact hchallenges.none_iff htrans hahead
      · rfl
      · exact decide_eq_decide.mpr (hchallenges.isUnconsumed_iff htrans hahead row)
  | _ => rfl

/-- What a call does, it does to both states. -/
theorem PurgedState.after (hpurged : PurgedState w.sqlLess purges s t) (event : AuthEvent) :
    PurgedState w.sqlLess purges (s.after w event) (t.after w event) := by
  obtain ⟨users, sessions, credentials, challenges, limiter, clock⟩ := s
  obtain ⟨_, _, _, challenges', _, _⟩ := t
  obtain ⟨rfl, rfl, rfl, hchallenges, rfl, rfl⟩ := hpurged
  dsimp only at hchallenges
  obtain ⟨op, answer⟩ := event
  cases op with
  | createWebAuthnChallenge arg =>
      cases answer with
      | error err => exact ⟨rfl, rfl, rfl, hchallenges, rfl, rfl⟩
      | ok row => exact ⟨rfl, rfl, rfl, (hchallenges.create arg).2, rfl, rfl⟩
  | consumeWebAuthnChallenge id =>
      cases answer with
      | error err => exact ⟨rfl, rfl, rfl, hchallenges, rfl, rfl⟩
      | ok _ => exact ⟨rfl, rfl, rfl, hchallenges.consume id, rfl, rfl⟩
  | createSession arg =>
      cases answer with
      | error err => exact ⟨rfl, rfl, rfl, hchallenges, rfl, rfl⟩
      | ok _ =>
          unfold AuthState.after
          dsimp only
          cases Sessions.createSession users sessions arg clock with
          | none => exact ⟨rfl, rfl, rfl, hchallenges, rfl, rfl⟩
          | some created => exact ⟨rfl, rfl, rfl, hchallenges, rfl, rfl⟩
  | createWebAuthnCredential arg =>
      cases answer with
      | error err => exact ⟨rfl, rfl, rfl, hchallenges, rfl, rfl⟩
      | ok row =>
          unfold AuthState.after
          dsimp only
          cases Credentials.createWebAuthnCredential users credentials arg with
          | none => exact ⟨rfl, rfl, rfl, hchallenges, rfl, rfl⟩
          | some created => exact ⟨rfl, rfl, rfl, hchallenges, rfl, rfl⟩
  | deleteWebAuthnCredential credentialID userID =>
      cases answer with
      | error err => exact ⟨rfl, rfl, rfl, hchallenges, rfl, rfl⟩
      | ok rows => exact ⟨rfl, rfl, rfl, hchallenges, rfl, rfl⟩
  | updateWebAuthnCredentialUsage arg =>
      cases answer with
      | error err => exact ⟨rfl, rfl, rfl, hchallenges, rfl, rfl⟩
      | ok _ => exact ⟨rfl, rfl, rfl, hchallenges, rfl, rfl⟩
  | _ => exact ⟨rfl, rfl, rfl, hchallenges, rfl, rfl⟩

end States

/-! ## Runs -/

section Runs

variable {ι : Type}

/-- A purge. -/
def isPurge : CeremonyLabel ι → Bool
  | .env (.purge _) => true
  | _ => false

/-- The instants of the purges so far. -/
def notePurge (purges : List Int) : CeremonyLabel ι → List Int
  | .env (.purge now) => now :: purges
  | _ => purges

/-- A step that is not a lookup behind a purge. -/
def LookupAhead (sqlLess : Int → Int → Bool) (purges : List Int) : CeremonyLabel ι → Prop
  | .call _ event => NotBehind sqlLess purges event.op
  | .env _ => True

variable [DecidableEq ι] {w : CeremonyWorld} {s t : AuthState}

/-- A call is answered by both states or by neither. -/
theorem PurgedState.answer
    (htrans : ∀ a b c, w.auth.sqlLess a b = true → w.auth.sqlLess b c = true → w.auth.sqlLess a c = true)
    (hpurged : PurgedState w.auth.sqlLess purges s t) {event : CeremonyEvent}
    (hahead : NotBehind w.auth.sqlLess purges event.op) :
    Option.Rel (PurgedState w.auth.sqlLess purges) ((ceremonyBackend w).answer s event)
      ((ceremonyBackend w).answer t event) := by
  obtain ⟨op, answer⟩ := event
  cases op with
  | beginRegistration user uv =>
      show Option.Rel _ (if w.begins user uv answer then some s else none)
        (if w.begins user uv answer then some t else none)
      split
      · exact Option.Rel.some hpurged
      · exact Option.Rel.none
  | auth op =>
      show Option.Rel _ (if s.allowed w.auth ⟨op, answer⟩ then _ else none)
        (if t.allowed w.auth ⟨op, answer⟩ then _ else none)
      rw [hpurged.allowed_eq htrans hahead]
      split
      · exact Option.Rel.some (hpurged.after ⟨op, answer⟩)
      · exact Option.Rel.none

/-- Time passes in both states or in neither. -/
theorem PurgedState.tick (hpurged : PurgedState sqlLess purges s t) (now : Int) :
    Option.Rel (PurgedState sqlLess purges) (s.tick now) (t.tick now) := by
  unfold AuthState.tick
  rw [hpurged.clock]
  split
  · exact Option.Rel.some
      ⟨hpurged.users, hpurged.sessions, hpurged.credentials, hpurged.challenges, hpurged.limiter, rfl⟩
  · exact Option.Rel.none

theorem rel_exec_purge
    (htrans : ∀ a b c, w.auth.sqlLess a b = true → w.auth.sqlLess b c = true → w.auth.sqlLess a c = true)
    {c : Ceremonies ι} {labels : List (CeremonyLabel ι)}
    (hahead : Heeds notePurge (LookupAhead w.auth.sqlLess) [] labels) :
    Option.Rel (Lib.Config.Alike (PurgedState w.auth.sqlLess (labels.foldl notePurge [])))
      (exec (ceremonyBackend w).step c labels) (exec (ceremonyBackend w).step c (shown isPurge labels)) := by
  refine exec_rel_of_hidden (R := fun purges => Lib.Config.Alike (PurgedState w.auth.sqlLess purges)) ?_ ?_ hahead ?_
  · intro purges c d label hshown hguard halike
    cases label with
    | call i event => exact halike.step_call (halike.shared.answer htrans hguard)
    | env e =>
        cases e with
        | tick now => exact halike.step_env (halike.shared.tick now)
        | purge now => cases hshown
  · intro purges c d label hhidden _ halike
    cases label with
    | call i event => cases hhidden
    | env e =>
        cases e with
        | tick now => cases hhidden
        | purge now =>
            refine ⟨_, rfl, ?_, halike.threads, halike.log⟩
            have hpurged := halike.shared
            exact ⟨hpurged.users, hpurged.sessions, hpurged.credentials, hpurged.challenges.purge now, hpurged.limiter,
              hpurged.clock⟩
  · exact ⟨⟨rfl, rfl, rfl, Purged.refl _, rfl, rfl⟩, rfl, rfl⟩

/-- When no lookup is behind a purge, the requests run with the purge job exactly as they run without it: they make the
same calls, get the same answers and end alike, and only spent challenges are missing from the table. -/
theorem purge_unnoticed (w : CeremonyWorld)
    (htrans : ∀ a b c, w.auth.sqlLess a b = true → w.auth.sqlLess b c = true → w.auth.sqlLess a c = true)
    (svc : AuthService) (s : AuthState) (requests : ι → CeremonyRequest) (labels : List (CeremonyLabel ι))
    (hahead : Heeds notePurge (LookupAhead w.auth.sqlLess) [] labels) :
    (∀ final, exec (ceremonyBackend w).step (ceremoniesStart svc s requests) labels = some final →
      ∃ unpurged,
        exec (ceremonyBackend w).step (ceremoniesStart svc s requests) (shown isPurge labels) = some unpurged ∧
        Lib.Config.Alike (PurgedState w.auth.sqlLess (labels.foldl notePurge [])) final unpurged) ∧
      ∀ unpurged,
        exec (ceremonyBackend w).step (ceremoniesStart svc s requests) (shown isPurge labels) = some unpurged →
        ∃ final, exec (ceremonyBackend w).step (ceremoniesStart svc s requests) labels = some final ∧
          Lib.Config.Alike (PurgedState w.auth.sqlLess (labels.foldl notePurge [])) final unpurged := by
  obtain ⟨hpurging, hquiet⟩ | ⟨final, unpurged, hpurging, hquiet, halike⟩ :=
    cases_of_rel (rel_exec_purge htrans (c := ceremoniesStart svc s requests) hahead)
  · refine ⟨fun final hrun => ?_, fun unpurged hrun => ?_⟩
    · rw [hpurging] at hrun
      cases hrun
    · rw [hquiet] at hrun
      cases hrun
  · refine ⟨fun other hrun => ?_, fun other hrun => ?_⟩
    · rw [hpurging] at hrun
      cases hrun
      exact ⟨unpurged, hquiet, halike⟩
    · rw [hquiet] at hrun
      cases hrun
      exact ⟨final, hpurging, halike⟩

end Runs

/-! ## A purge that is ahead of a lookup -/

/-- A login that presents the first challenge. -/
def lateLogin (_ : Fin 1) : CeremonyRequest := .finishLogin ⟨str "response", false, none, str "10.0.0.1"⟩

/-- The user with two challenges, one of them consumed. -/
def oneSpent : AuthState :=
  { passkeyState with challenges := passkeyState.challenges.consumeWebAuthnChallenge 2 }

/-- The login reads the clock, a purge comes at instant `now`, and the login looks its challenge up. -/
def purgeBetween (now : Int) (found : Except QueryError WebauthnChallenge) : List (CeremonyLabel (Fin 1)) :=
  [.call 0 ((AuthCall.parseCredentialRequestResponseBody (str "response")).event (.ok ⟨[2], str "first", 0, []⟩)),
    .call 0 (AuthCall.timeNow.event 0), .env (.tick now), .env (.purge now),
    .call 0 ((AuthCall.getUnconsumedWebAuthnChallenge ⟨str "first", challengeKindLogin, 0⟩).event found)]

theorem exec_purgeBetween :
    ((exec (ceremonyBackend calmCeremonies).step (ceremoniesStart defaultService oneSpent lateLogin)
      (purgeBetween 0 (.ok (loginChallenge 1 "first")))).map fun c => c.shared.challenges.table.rows.length) =
      some 1 := by
  decide +kernel

/-- A purge of the same instant deletes the consumed challenge, and the login finds its own all the same. -/
theorem purge_unnoticed_between :
    ∃ final unpurged,
      exec (ceremonyBackend calmCeremonies).step (ceremoniesStart defaultService oneSpent lateLogin)
        (purgeBetween 0 (.ok (loginChallenge 1 "first"))) = some final ∧
      exec (ceremonyBackend calmCeremonies).step (ceremoniesStart defaultService oneSpent lateLogin)
        (shown isPurge (purgeBetween 0 (.ok (loginChallenge 1 "first")))) = some unpurged ∧
      Lib.Config.Alike (PurgedState calmCeremonies.auth.sqlLess [0]) final unpurged := by
  obtain ⟨final, hfinal, -⟩ := Option.map_eq_some_iff.mp exec_purgeBetween
  have htrans : ∀ a b c, calmCeremonies.auth.sqlLess a b = true → calmCeremonies.auth.sqlLess b c = true →
      calmCeremonies.auth.sqlLess a c = true := by
    intro a b c hab hbc
    exact decide_eq_true (lt_trans (of_decide_eq_true hab) (of_decide_eq_true hbc))
  have hahead : Heeds notePurge (LookupAhead calmCeremonies.auth.sqlLess) []
      (purgeBetween 0 (.ok (loginChallenge 1 "first"))) := by
    refine ⟨trivial, trivial, trivial, trivial, fun purge hpurge => ?_, trivial⟩
    rw [List.mem_singleton.mp hpurge]
    rfl
  obtain ⟨unpurged, hunpurged, halike⟩ :=
    (purge_unnoticed calmCeremonies htrans defaultService oneSpent lateLogin _ hahead).1 final hfinal
  exact ⟨final, unpurged, hfinal, hunpurged, halike⟩

/-- A purge 130 seconds after the login read its clock deletes the challenge that the login then asks for; without the
purge the login would have found it. -/
theorem purge_noticed :
    (exec (ceremonyBackend calmCeremonies).step (ceremoniesStart defaultService oneSpent lateLogin)
      (purgeBetween (130 * second) (.error .noRows))).isSome = true ∧
      (exec (ceremonyBackend calmCeremonies).step (ceremoniesStart defaultService oneSpent lateLogin)
        (shown isPurge (purgeBetween (130 * second) (.error .noRows)))).isSome = false := by
  constructor
  · decide +kernel
  · decide +kernel

end Auth
end Dmanager
