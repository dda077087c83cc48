import Dmanager.Auth.SessionInterleaving

/-!
# The clocks of a session, and deleted sessions

Two results about every interleaving of `Dmanager.Auth.SessionInterleaving`:

* `clocks_of_run` — the deadlines of every row are ordered, its absolute deadline is the one written at
  its creation, and no call accepts a session past either deadline.
* `no_accept_after_delete` — a call that reads its row after a deletion of that row is never accepted.

A call that still holds an old copy of a row may write to the table at any time.  What makes this harmless
is that the write is an `UPDATE` by session id: it never inserts a row (so nothing comes back), and the
row it hits is the one the copy was taken from, because ids are never drawn twice.  Hence the invariant
`Inv`: every row and every copy is *written by* the one entry of `created` with its id.
-/

namespace Dmanager
namespace Auth
namespace SessionInterleaving

open Go Db Lib Server

variable {w : World} {s next : State}

/-- The session id of an issue. -/
def Issue.sessionID (w : World) (issue : Issue) : GoString := hexEncode (w.rand issue.draw)

/-- The row, or the copy of it, goes back to this issue. -/
def WrittenBy (w : World) (issue : Issue) (row : Session) : Prop :=
  row.sessionID = issue.sessionID w ∧
    row.absoluteExpiresAt = issue.issuedAt + tierAbsolute w.cfg.auth issue.rememberMe

/-- The row goes back to an issue whose insert has been executed. -/
def Written (w : World) (created : List Issue) (row : Session) : Prop :=
  ∃ issue ∈ created, WrittenBy w issue row

/-- `last_seen_at <= expires_at <= absolute_expires_at`. -/
def Ordered (row : Session) : Prop :=
  row.lastSeenAt ≤ row.expiresAt ∧ row.expiresAt ≤ row.absoluteExpiresAt

/-- A copy of a row that was found live at `now`. -/
def FoundLive (w : World) (created : List Issue) (session : Session) (now : Int) : Prop :=
  Written w created session ∧ now ≤ session.absoluteExpiresAt ∧ now ≤ session.expiresAt

/-- What a call holds. -/
def PhaseOk (w : World) (created : List Issue) : Phase → Prop
  | .read _ session => Written w created session
  | .sliding _ session now => FoundLive w created session now
  | .live _ session now => FoundLive w created session now
  | .accepted session now _ => FoundLive w created session now
  | _ => True

/-- The draws of the issues in flight and of the inserted ones are all different. -/
structure Draws (s : State) : Prop where
  issue_drawn : ∀ k issue, s.issues k = some issue → issue.draw < s.draws
  issues_distinct : ∀ k k' issue issue', s.issues k = some issue → s.issues k' = some issue' →
    issue.draw = issue'.draw → k = k'
  created_drawn : ∀ issue ∈ s.created, issue.draw < s.draws
  created_distinct : (s.created.map Issue.draw).Nodup
  created_ended : ∀ issue ∈ s.created, ∀ k issue', s.issues k = some issue' →
    issue.draw ≠ issue'.draw

/-- The tokens drawn so far are pairwise different. -/
def DistinctTokens (w : World) (s : State) : Prop :=
  ∀ i j, i < s.draws → j < s.draws → w.rand i = w.rand j → i = j

/-- The invariant of every interleaving in which no token repeats. -/
structure Inv (w : World) (s : State) : Prop where
  draws : Draws s
  rows : ∀ row ∈ s.sessions, Written w s.created row ∧ Ordered row
  calls : ∀ c, PhaseOk w s.created (s.calls c)

/-! ## The draws -/

theorem draws_init (now : Int) : Draws (State.init now) where
  issue_drawn := by
    intro k issue hissue
    cases hissue
  issues_distinct := by
    intro k k' issue issue' hissue
    cases hissue
  created_drawn := by
    intro issue hissue
    cases hissue
  created_distinct := List.nodup_nil
  created_ended := by
    intro issue hissue
    cases hissue

/-- The rest of the state does not matter. -/
theorem Draws.of_eq (hdraws : Draws s) (hissues : next.issues = s.issues) (hcount : next.draws = s.draws)
    (hcreated : next.created = s.created) : Draws next where
  issue_drawn := by
    rw [hissues, hcount]
    exact hdraws.issue_drawn
  issues_distinct := by
    rw [hissues]
    exact hdraws.issues_distinct
  created_drawn := by
    rw [hcreated, hcount]
    exact hdraws.created_drawn
  created_distinct := by
    rw [hcreated]
    exact hdraws.created_distinct
  created_ended := by
    rw [hcreated, hissues]
    exact hdraws.created_ended

/-- A new issue takes the next draw. -/
theorem Draws.begun (hdraws : Draws s) {k : Nat} {issue : Issue} (hdraw : issue.draw = s.draws) :
    Draws { s.setIssue k (some issue) with draws := s.draws + 1 } where
  issue_drawn := by
    intro j other hother
    show other.draw < s.draws + 1
    by_cases hj : j = k
    · have hsame : issue = other := by simpa [State.setIssue, hj] using hother
      subst hsame
      omega
    · have hold := hdraws.issue_drawn j other (by simpa [State.setIssue, hj] using hother)
      omega
  issues_distinct := by
    intro j j' other other' hother hother' hequal
    -- a new issue has the largest draw so far, so only two old ones can agree
    by_cases hj : j = k
    · by_cases hj' : j' = k
      · rw [hj, hj']
      · have hsame : issue = other := by simpa [State.setIssue, hj] using hother
        have hold := hdraws.issue_drawn j' other' (by simpa [State.setIssue, hj'] using hother')
        subst hsame
        omega
    · have hold := hdraws.issue_drawn j other (by simpa [State.setIssue, hj] using hother)
      by_cases hj' : j' = k
      · have hsame : issue = other' := by simpa [State.setIssue, hj'] using hother'
        subst hsame
        omega
      · exact hdraws.issues_distinct j j' other other' (by simpa [State.setIssue, hj] using hother)
          (by simpa [State.setIssue, hj'] using hother') hequal
  created_drawn := by
    intro other hother
    have hold := hdraws.created_drawn other hother
    show other.draw < s.draws + 1
    omega
  created_distinct := hdraws.created_distinct
  created_ended := by
    intro other hother j issue' hissue'
    have hold := hdraws.created_drawn other hother
    by_cases hj : j = k
    · have hsame : issue = issue' := by simpa [State.setIssue, hj] using hissue'
      subst hsame
      omega
    · exact hdraws.created_ended other hother j issue' (by simpa [State.setIssue, hj] using hissue')

theorem eq_some_of_setIssue_none {k j : Nat} {issue : Issue}
    (hissue : (s.setIssue k none).issues j = some issue) : j ≠ k ∧ s.issues j = some issue := by
  by_cases hj : j = k
  · simp [State.setIssue, hj] at hissue
  · exact ⟨hj, by simpa [State.setIssue, hj] using hissue⟩

theorem Draws.dropped (hdraws : Draws s) (k : Nat) : Draws (s.setIssue k none) where
  issue_drawn := by
    intro j issue hissue
    exact hdraws.issue_drawn j issue (eq_some_of_setIssue_none hissue).2
  issues_distinct := by
    intro j j' issue issue' hissue hissue'
    exact hdraws.issues_distinct j j' issue issue' (eq_some_of_setIssue_none hissue).2
      (eq_some_of_setIssue_none hissue').2
  created_drawn := hdraws.created_drawn
  created_distinct := hdraws.created_distinct
  created_ended := by
    intro issue hcreated j issue' hissue'
    exact hdraws.created_ended issue hcreated j issue' (eq_some_of_setIssue_none hissue').2

/-- An executed insert moves its issue from the ones in flight to the inserted ones. -/
theorem Draws.inserted (hdraws : Draws s) {k : Nat} {issue : Issue} (hissue : s.issues k = some issue)
    (sessions : Sessions) :
    Draws { s.setIssue k none with sessions := sessions, created := s.created ++ [issue] } where
  issue_drawn := (hdraws.dropped k).issue_drawn
  issues_distinct := (hdraws.dropped k).issues_distinct
  created_drawn := by
    intro other hother
    rcases List.mem_append.mp hother with hold | hnew
    · exact hdraws.created_drawn other hold
    · rw [List.mem_singleton.mp hnew]
      exact hdraws.issue_drawn k issue hissue
  created_distinct := by
    show ((s.created ++ [issue]).map Issue.draw).Nodup
    rw [List.map_append, List.map_singleton, List.nodup_append]
    refine ⟨hdraws.created_distinct, by simp, ?_⟩
    intro draw hdraw fresh hfresh hequal
    obtain ⟨other, hother, rfl⟩ := List.mem_map.mp hdraw
    -- the issue was still in flight, and no inserted one has its draw
    have hended := hdraws.created_ended other hother k issue hissue
    exact hended (hequal.trans (List.mem_singleton.mp hfresh))
  created_ended := by
    intro other hother j issue' hissue'
    obtain ⟨hj, hold'⟩ := eq_some_of_setIssue_none hissue'
    rcases List.mem_append.mp hother with hold | hnew
    · exact hdraws.created_ended other hold j issue' hold'
    · rw [List.mem_singleton.mp hnew]
      intro hequal
      exact hj (hdraws.issues_distinct k j issue issue' hissue hold' hequal).symm

/-! ## Where a row comes from -/

theorem Written.mono {created created' : List Issue} {row : Session} (hwritten : Written w created row)
    (hsub : created ⊆ created') : Written w created' row := by
  obtain ⟨issue, hissue, hby⟩ := hwritten
  exact ⟨issue, hsub hissue, hby⟩

theorem PhaseOk.mono {created created' : List Issue} {phase : Phase} (hok : PhaseOk w created phase)
    (hsub : created ⊆ created') : PhaseOk w created' phase := by
  cases phase with
  | read _ session => exact Written.mono hok hsub
  | sliding _ session now => exact ⟨Written.mono hok.1 hsub, hok.2⟩
  | live _ session now => exact ⟨Written.mono hok.1 hsub, hok.2⟩
  | accepted session now _ => exact ⟨Written.mono hok.1 hsub, hok.2⟩
  | idle => trivial
  | begun _ => trivial
  | expired _ => trivial
  | refused _ => trivial

/-- A session id determines its draw. -/
theorem draw_eq_of_sessionID_eq (htokens : DistinctTokens w s) {issue issue' : Issue}
    (hissue : issue.draw < s.draws) (hissue' : issue'.draw < s.draws)
    (hid : issue.sessionID w = issue'.sessionID w) : issue.draw = issue'.draw :=
  htokens _ _ hissue hissue' (Subtype.ext (hexEncode_injective hid))

/-- Two rows, or copies, with the same id have the same absolute deadline. -/
theorem absolute_eq_of_written (htokens : DistinctTokens w s) (hdraws : Draws s) {row row' : Session}
    (hrow : Written w s.created row) (hrow' : Written w s.created row')
    (hid : row.sessionID = row'.sessionID) : row.absoluteExpiresAt = row'.absoluteExpiresAt := by
  obtain ⟨issue, hissue, hsession, habsolute⟩ := hrow
  obtain ⟨issue', hissue', hsession', habsolute'⟩ := hrow'
  have hdraw : issue.draw = issue'.draw := by
    apply draw_eq_of_sessionID_eq htokens (hdraws.created_drawn issue hissue)
      (hdraws.created_drawn issue' hissue')
    rw [← hsession, ← hsession', hid]
  have hsame : issue = issue' :=
    List.inj_on_of_nodup_map hdraws.created_distinct hissue hissue' hdraw
  rw [habsolute, habsolute', hsame]

/-- The row an issue inserts is written by it, and its deadlines are ordered. -/
theorem written_row (hvalid : w.cfg.auth.Valid) (issue : Issue) (now : Int) :
    WrittenBy w issue ((issue.params w).row now) ∧ Ordered ((issue.params w).row now) := by
  have hidle := tierIdle_newServiceConfig hvalid issue.rememberMe
  have habsolute := tierAbsolute_newServiceConfig hvalid issue.rememberMe
  have hpos := tierIdle_pos hvalid issue.rememberMe
  have hle := tierIdle_le_tierAbsolute hvalid issue.rememberMe
  refine ⟨⟨rfl, ?_⟩, ?_, ?_⟩
  · show issue.issuedAt + tierAbsolute w.service issue.rememberMe = _
    rw [World.service, habsolute]
  · show issue.issuedAt ≤ issue.issuedAt + tierIdle w.service issue.rememberMe
    rw [World.service, hidle]
    omega
  · show issue.issuedAt + tierIdle w.service issue.rememberMe ≤
      issue.issuedAt + tierAbsolute w.service issue.rememberMe
    rw [World.service, hidle, habsolute]
    omega

/-- A slide computed from a copy found live leaves the row it hits ordered. -/
theorem ordered_touch (hidle : 0 < w.idleTimeout) {session old : Session} {now : Int}
    (hnow : now ≤ session.absoluteExpiresAt)
    (habsolute : old.absoluteExpiresAt = session.absoluteExpiresAt) :
    Ordered ((touchParams w.idleTimeout now session).apply old) := by
  have hnew := newIdle_eq_min w.idleTimeout now session
  constructor
  · show now ≤ newIdle w.idleTimeout now session
    omega
  · show newIdle w.idleTimeout now session ≤ old.absoluteExpiresAt
    omega

/-- A valid idle timeout passes `NewInterceptor` unchanged. -/
theorem idleTimeout_eq (hvalid : w.cfg.auth.Valid) : w.idleTimeout = w.cfg.auth.sessionIdleTimeout := by
  have hpos := hvalid.idle_pos
  simp [World.idleTimeout, newInterceptor, hpos]

/-! ## One step -/

/-- What a call holds after one of its steps. -/
theorem phaseOk_of_phaseStep {phase phase' : Phase} {sessions : Sessions} (hinv : Inv w s)
    (hok : PhaseOk w s.created phase) (hphase : PhaseStep w s phase sessions phase') :
    PhaseOk w s.created phase' := by
  cases hphase with
  | start cookieHeader =>
      unfold startPhase
      dsimp only
      split
      · trivial
      · trivial
  | getSession sessionID fault =>
      cases fault with
      | some cause => trivial
      | none =>
          simp only [getSessionPhase]
          split
          · trivial
          · rename_i session hget
            -- the copy that a call reads is a row of the table
            exact (hinv.rows session (KeyedTable.get?_eq_some_iff.mp hget).1).1
  | decide sessionID session =>
      unfold decidePhase
      split
      · trivial
      · rename_i hlive
        have hbounds := (sessionExpired_eq_false_iff s.now session).mp (by simpa using hlive)
        split
        · exact ⟨hok, hbounds⟩
        · exact ⟨hok, hbounds⟩
  | deleteSession sessionID sessions err hsub => trivial
  | touchSession sessionID session now => exact hok
  | touchFails sessionID session now => exact hok
  | getUser sessionID session now fault =>
      cases fault with
      | some cause => trivial
      | none =>
          simp only [getUserPhase]
          split
          · trivial
          · exact hok

/-- The rows after a step of a call. -/
theorem rows_of_phaseStep (htokens : DistinctTokens w s) (hidle : 0 < w.idleTimeout)
    {phase phase' : Phase} {sessions : Sessions} (hinv : Inv w s) (hok : PhaseOk w s.created phase)
    (hphase : PhaseStep w s phase sessions phase') :
    ∀ row ∈ sessions, Written w s.created row ∧ Ordered row := by
  cases hphase with
  | start cookieHeader => exact hinv.rows
  | getSession sessionID fault => exact hinv.rows
  | decide sessionID session => exact hinv.rows
  | deleteSession sessionID sessions err hsub =>
      intro row hrow
      exact hinv.rows row (hsub row hrow)
  | touchSession sessionID session now =>
      intro row hrow
      obtain ⟨hwritten, hnow, -⟩ := hok
      obtain ⟨old, hold, ⟨hid, rfl⟩ | ⟨-, rfl⟩⟩ := Sessions.mem_touchSession.mp hrow
      · -- the stale copy and the row it overwrites go back to the same issue
        obtain ⟨hwrittenOld, -⟩ := hinv.rows old hold
        have habsolute := absolute_eq_of_written htokens hinv.draws hwrittenOld hwritten hid
        exact ⟨hwrittenOld, ordered_touch hidle hnow habsolute⟩
      · exact hinv.rows row hold
  | touchFails sessionID session now => exact hinv.rows
  | getUser sessionID session now fault => exact hinv.rows

theorem inv_init (now : Int) : Inv w (State.init now) where
  draws := draws_init now
  rows := by
    intro row hrow
    exact absurd hrow (KeyedTable.not_mem_empty row)
  calls := fun _ => trivial

theorem draws_step {label : Label} (hdraws : Draws s) (hstep : step w s label = some next) :
    Draws next := by
  cases change_of_step hstep with
  | tick t => exact hdraws.of_eq rfl rfl rfl
  | users users => exact hdraws.of_eq rfl rfl rfl
  | begun k issue hdraw => exact hdraws.begun hdraw
  | dropped k => exact hdraws.dropped k
  | inserted k issue sessions hissue hinsert => exact hdraws.inserted hissue sessions
  | shrunk sessions hsub => exact hdraws.of_eq rfl rfl rfl
  | call c sessions phase hphase => exact hdraws.of_eq rfl rfl rfl

theorem draws_of_run {start : Int} {labels : List Label}
    (hrun : exec (step w) (State.init start) labels = some s) : Draws s :=
  exec_invariant Draws (fun _ _ _ hdraws hstep => draws_step hdraws hstep) hrun (draws_init start)

/-- Tokens that do not repeat later have not repeated before. -/
theorem distinctTokens_of_step {label : Label} (hstep : step w s label = some next)
    (htokens : DistinctTokens w next) : DistinctTokens w s := by
  have hcount : s.draws ≤ next.draws := by
    cases change_of_step hstep with
    | tick t => exact le_rfl
    | users users => exact le_rfl
    | begun k issue hdraw => exact Nat.le_succ _
    | dropped k => exact le_rfl
    | inserted k issue sessions hissue hinsert => exact le_rfl
    | shrunk sessions hsub => exact le_rfl
    | call c sessions phase hphase => exact le_rfl
  intro i j hi hj
  exact htokens i j (hi.trans_le hcount) (hj.trans_le hcount)

/-- Every step keeps the invariant. -/
theorem inv_step (hvalid : w.cfg.auth.Valid) (htokens : DistinctTokens w s) {label : Label}
    (hinv : Inv w s) (hstep : step w s label = some next) : Inv w next := by
  have hidle : 0 < w.idleTimeout := by
    rw [idleTimeout_eq hvalid]
    exact hvalid.idle_pos
  refine ⟨draws_step hinv.draws hstep, ?_, ?_⟩
  · cases change_of_step hstep with
    | tick t => exact hinv.rows
    | users users => exact hinv.rows
    | begun k issue hdraw => exact hinv.rows
    | dropped k => exact hinv.rows
    | inserted k issue sessions hissue hinsert =>
        intro row hrow
        -- an old row keeps its issue; the new one is the row of the issue just inserted
        rcases (KeyedTable.mem_of_insert? hinsert).mp hrow with hold | rfl
        · obtain ⟨hwritten, hordered⟩ := hinv.rows row hold
          exact ⟨hwritten.mono (List.subset_append_left _ _), hordered⟩
        · obtain ⟨hby, hordered⟩ := written_row hvalid issue s.now
          exact ⟨⟨issue, by simp, hby⟩, hordered⟩
    | shrunk sessions hsub => exact fun row hrow => hinv.rows row (hsub row hrow)
    | call c sessions phase hphase =>
        have hrows := rows_of_phaseStep htokens hidle hinv (hinv.calls c) hphase
        exact hrows
  · cases change_of_step hstep with
    | tick t => exact hinv.calls
    | users users => exact hinv.calls
    | begun k issue hdraw => exact hinv.calls
    | dropped k => exact hinv.calls
    | inserted k issue sessions hissue hinsert =>
        exact fun c => (hinv.calls c).mono (List.subset_append_left _ _)
    | shrunk sessions hsub => exact hinv.calls
    | call c sessions phase hphase =>
        intro c'
        by_cases hc : c' = c
        · have hnew := phaseOk_of_phaseStep hinv (hinv.calls c) hphase
          simpa [State.setCall, hc] using hnew
        · simpa [State.setCall, hc] using hinv.calls c'

/-- The invariant of whole runs.  Whether tokens repeat is known only at the end of a run, so the
induction carries the invariant under that condition. -/
theorem inv_of_run (hvalid : w.cfg.auth.Valid) {start : Int} {labels : List Label}
    (hrun : exec (step w) (State.init start) labels = some s) (htokens : DistinctTokens w s) :
    Inv w s := by
  have hconditional : DistinctTokens w s → Inv w s := by
    refine exec_invariant (fun state => DistinctTokens w state → Inv w state) ?_ hrun
      fun _ => inv_init start
    intro before label after hbefore hstep hafter
    have htokensBefore := distinctTokens_of_step hstep hafter
    exact inv_step hvalid htokensBefore (hbefore htokensBefore) hstep
  exact hconditional htokens

/-- In every state of every interleaving: no two inserted sessions have the same id; every row has its
deadlines ordered and the absolute deadline that was written when it was created; and an accepted call
compared at an instant not past the deadlines it read, hence not past the issue time plus the absolute
timeout of the tier the session was issued with. -/
theorem clocks_of_run (cfg : Config) (w : World) (haccepted : cfg.validate = .ok w.cfg)
    (start : Int) (labels : List Label) (s : State)
    (hrun : exec (step w) (State.init start) labels = some s) (htokens : DistinctTokens w s) :
    (s.created.map fun issue => (issue.params w).sessionID).Nodup ∧
    (∀ row ∈ s.sessions,
      row.lastSeenAt ≤ row.expiresAt ∧ row.expiresAt ≤ row.absoluteExpiresAt ∧
      ∃ issue ∈ s.created, (issue.params w).sessionID = row.sessionID ∧
        (issue.params w).absoluteExpiresAt = row.absoluteExpiresAt) ∧
    (∀ c session now ctx, s.calls c = .accepted session now ctx →
      now ≤ session.expiresAt ∧ now ≤ session.absoluteExpiresAt ∧
      ∃ issue ∈ s.created, (issue.params w).sessionID = session.sessionID ∧
        (issue.params w).absoluteExpiresAt = session.absoluteExpiresAt ∧
        now ≤ issue.issuedAt + tierAbsolute cfg.auth issue.rememberMe) := by
  obtain ⟨hsame, hvalidCfg⟩ := Config.validate_auth haccepted
  have hvalid : w.cfg.auth.Valid := hsame ▸ hvalidCfg
  have hinv : Inv w s := inv_of_run hvalid hrun htokens
  have hparams : ∀ issue : Issue, (issue.params w).absoluteExpiresAt =
      issue.issuedAt + tierAbsolute w.cfg.auth issue.rememberMe := by
    intro issue
    exact (written_row hvalid issue 0).1.2
  refine ⟨?_, ?_, ?_⟩
  · -- equal ids come from equal draws, and these are all different
    apply List.Nodup.map_on _ (List.Nodup.of_map _ hinv.draws.created_distinct)
    intro issue hissue issue' hissue' hid
    have hdraw := draw_eq_of_sessionID_eq htokens (hinv.draws.created_drawn issue hissue)
      (hinv.draws.created_drawn issue' hissue') hid
    exact List.inj_on_of_nodup_map hinv.draws.created_distinct hissue hissue' hdraw
  · intro row hrow
    obtain ⟨⟨issue, hissue, hid, habsolute⟩, hseen, hidle⟩ := hinv.rows row hrow
    exact ⟨hseen, hidle, issue, hissue, hid.symm, (hparams issue).trans habsolute.symm⟩
  -- an accepted call still holds the copy whose deadlines it compared
  · intro c session now ctx hcall
    have hok := hinv.calls c
    rw [hcall] at hok
    obtain ⟨⟨issue, hissue, hid, habsolute⟩, hbefore, hidle⟩ := hok
    refine ⟨hidle, hbefore, issue, hissue, hid.symm, (hparams issue).trans habsolute.symm, ?_⟩
    rw [habsolute, hsame] at hbefore
    exact hbefore

/-- The default configuration, tokens that count up, and a comparison of instants. -/
def sampleWorld : World where
  cfg := Config.defaults
  rand n := ⟨List.replicate 31 0 ++ [UInt8.ofNat n], by simp⟩
  sqlLess t u := decide (t < u)

/-- The cookie of the first session. -/
def sampleCookie : GoString := cookieHeaderOf (hexEncode (sampleWorld.rand 0))

/-- A login, and a request five days later that slides the session. -/
def slidingRun : List Label :=
  [.createUser ⟨str "alice", [], adminRole⟩, .issueBegin 0 1 false none, .issueInsert 0 false,
    .tick (120 * hour), .start 0 sampleCookie, .getSession 0 none, .decide 0, .touchSession 0 false,
    .getUser 0 none]

theorem clocks_of_run_slidingRun :
    ∃ s session ctx, exec (step sampleWorld) (State.init 0) slidingRun = some s ∧
      s.calls 0 = .accepted session (120 * hour) ctx ∧ 120 * hour ≤ session.expiresAt ∧
      ∀ row ∈ s.sessions, row.lastSeenAt ≤ row.expiresAt ∧ row.expiresAt ≤ row.absoluteExpiresAt := by
  obtain ⟨s, hrun⟩ : ∃ s, exec (step sampleWorld) (State.init 0) slidingRun = some s :=
    Option.isSome_iff_exists.mp (by decide +kernel)
  have hdraws : (exec (step sampleWorld) (State.init 0) slidingRun).map State.draws = some 1 := by
    decide +kernel
  have hcall : (exec (step sampleWorld) (State.init 0) slidingRun).map (fun s => s.calls 0) =
      some (.accepted ⟨hexEncode (sampleWorld.rand 0), 1, 168 * hour, 0, 0, 720 * hour, []⟩ (120 * hour)
        ⟨some ⟨1, str "alice", [], adminRole⟩, some (hexEncode (sampleWorld.rand 0))⟩) := by
    decide +kernel
  rw [hrun, Option.map_some, Option.some.injEq] at hdraws hcall
  have htokens : DistinctTokens sampleWorld s := by
    intro i j hi hj _
    omega
  obtain ⟨-, hrows, hcalls⟩ := clocks_of_run Config.defaults sampleWorld
    Config.validate_defaults 0 slidingRun s hrun htokens
  refine ⟨s, _, _, hrun, hcall, (hcalls 0 _ _ _ hcall).1, ?_⟩
  intro row hrow
  exact ⟨(hrows row hrow).1, (hrows row hrow).2.1⟩

/-! ## Deleted sessions -/

/-- The session was inserted once and is not in the table. -/
structure Gone (w : World) (s : State) (sessionID : GoString) : Prop where
  inserted : ∃ issue ∈ s.created, issue.sessionID w = sessionID
  no_row : ∀ row ∈ s.sessions, row.sessionID ≠ sessionID

/-- The call holds no copy of a row with this id. -/
def HoldsNo (sessionID : GoString) : Phase → Prop
  | .read id _ => id ≠ sessionID
  | .sliding id _ _ => id ≠ sessionID
  | .live id _ _ => id ≠ sessionID
  | .accepted _ _ ctx => ctx.sessionID ≠ some sessionID
  | _ => True

/-- No step of a call brings a row into the table. -/
theorem mem_of_phaseStep {phase phase' : Phase} {sessions : Sessions}
    (hphase : PhaseStep w s phase sessions phase') :
    ∀ row ∈ sessions, ∃ old ∈ s.sessions, old.sessionID = row.sessionID := by
  intro row hrow
  cases hphase with
  | start cookieHeader => exact ⟨row, hrow, rfl⟩
  | getSession sessionID fault => exact ⟨row, hrow, rfl⟩
  | decide sessionID session => exact ⟨row, hrow, rfl⟩
  | deleteSession sessionID sessions err hsub => exact ⟨row, hsub row hrow, rfl⟩
  | touchSession sessionID session now =>
      -- an `UPDATE` rewrites rows that are there
      obtain ⟨old, hold, ⟨-, rfl⟩ | ⟨-, rfl⟩⟩ := Sessions.mem_touchSession.mp hrow
      · exact ⟨old, hold, rfl⟩
      · exact ⟨row, hold, rfl⟩
  | touchFails sessionID session now => exact ⟨row, hrow, rfl⟩
  | getUser sessionID session now fault => exact ⟨row, hrow, rfl⟩

/-- Every row in the table was inserted by an issue. -/
def RowsInserted (w : World) (s : State) : Prop :=
  ∀ row ∈ s.sessions, ∃ issue ∈ s.created, issue.sessionID w = row.sessionID

theorem rowsInserted_step {label : Label} (hrows : RowsInserted w s)
    (hstep : step w s label = some next) : RowsInserted w next := by
  cases change_of_step hstep with
  | tick t => exact hrows
  | users users => exact hrows
  | begun k issue hdraw => exact hrows
  | dropped k => exact hrows
  | inserted k issue sessions hissue hinsert =>
      intro row hrow
      rcases (KeyedTable.mem_of_insert? hinsert).mp hrow with hold | rfl
      · obtain ⟨first, hfirst, hid⟩ := hrows row hold
        exact ⟨first, List.mem_append_left _ hfirst, hid⟩
      · exact ⟨issue, by simp, rfl⟩
  | shrunk sessions hsub => exact fun row hrow => hrows row (hsub row hrow)
  | call c sessions phase hphase =>
      intro row hrow
      obtain ⟨old, hold, hsame⟩ := mem_of_phaseStep hphase row hrow
      obtain ⟨issue, hissue, hid⟩ := hrows old hold
      exact ⟨issue, hissue, hid.trans hsame⟩

theorem created_subset_of_step {label : Label} (hstep : step w s label = some next) :
    s.created ⊆ next.created := by
  cases change_of_step hstep with
  | inserted k issue sessions hissue hinsert => exact List.subset_append_left _ _
  | tick t => exact List.Subset.refl _
  | users users => exact List.Subset.refl _
  | begun k issue hdraw => exact List.Subset.refl _
  | dropped k => exact List.Subset.refl _
  | shrunk sessions hsub => exact List.Subset.refl _
  | call c sessions phase hphase => exact List.Subset.refl _

/-- A session that is gone stays gone: a touch inserts nothing, and no issue in flight has its id. -/
theorem gone_step {label : Label} {sessionID : GoString} (htokens : DistinctTokens w s)
    (hdraws : Draws s) (hgone : Gone w s sessionID) (hstep : step w s label = some next) :
    Gone w next sessionID := by
  cases change_of_step hstep with
  | tick t => exact ⟨hgone.inserted, hgone.no_row⟩
  | users users => exact ⟨hgone.inserted, hgone.no_row⟩
  | begun k issue hdraw => exact ⟨hgone.inserted, hgone.no_row⟩
  | dropped k => exact ⟨hgone.inserted, hgone.no_row⟩
  | inserted k issue sessions hissue hinsert =>
      obtain ⟨first, hfirst, hid⟩ := hgone.inserted
      refine ⟨⟨first, List.mem_append_left _ hfirst, hid⟩, ?_⟩
      intro row hrow
      rcases (KeyedTable.mem_of_insert? hinsert).mp hrow with hold | rfl
      · exact hgone.no_row row hold
      · intro hequal
        -- a second issue with this id would have drawn the same token
        have hsame : first.sessionID w = issue.sessionID w := hid.trans hequal.symm
        have hdraw := draw_eq_of_sessionID_eq htokens (hdraws.created_drawn first hfirst)
          (hdraws.issue_drawn k issue hissue) hsame
        exact hdraws.created_ended first hfirst k issue hissue hdraw
  | shrunk sessions hsub => exact ⟨hgone.inserted, fun row hrow => hgone.no_row row (hsub row hrow)⟩
  | call c sessions phase hphase =>
      refine ⟨hgone.inserted, ?_⟩
      intro row hrow
      obtain ⟨old, hold, hsame⟩ := mem_of_phaseStep hphase row hrow
      rw [← hsame]
      exact hgone.no_row old hold

/-- A call that holds no copy of a row that is gone does not get one. -/
theorem holdsNo_of_phaseStep {sessionID : GoString} {phase phase' : Phase} {sessions : Sessions}
    (hgone : Gone w s sessionID) (hholds : HoldsNo sessionID phase)
    (hphase : PhaseStep w s phase sessions phase') : HoldsNo sessionID phase' := by
  cases hphase with
  | start cookieHeader =>
      unfold startPhase
      dsimp only
      split
      · trivial
      · trivial
  | getSession id fault =>
      cases fault with
      | some cause => trivial
      | none =>
          simp only [getSessionPhase]
          split
          · trivial
          · rename_i session hget
            -- a read finds only rows that are there
            obtain ⟨hrow, hkey⟩ := KeyedTable.get?_eq_some_iff.mp hget
            show id ≠ sessionID
            rw [← hkey]
            exact hgone.no_row session hrow
  | decide id session =>
      unfold decidePhase
      split
      · trivial
      · split
        · exact hholds
        · exact hholds
  | deleteSession id sessions err hsub => trivial
  | touchSession id session now => exact hholds
  | touchFails id session now => exact hholds
  | getUser id session now fault =>
      cases fault with
      | some cause => trivial
      | none =>
          simp only [getUserPhase]
          split
          · trivial
          · show some id ≠ some sessionID
            exact fun hequal => hholds (Option.some.inj hequal)

theorem holdsNo_step {label : Label} {sessionID : GoString} {c : Nat} (hgone : Gone w s sessionID)
    (hholds : HoldsNo sessionID (s.calls c)) (hstep : step w s label = some next) :
    HoldsNo sessionID (next.calls c) := by
  cases change_of_step hstep with
  | tick t => exact hholds
  | users users => exact hholds
  | begun k issue hdraw => exact hholds
  | dropped k => exact hholds
  | inserted k issue sessions hissue hinsert => exact hholds
  | shrunk sessions hsub => exact hholds
  | call c' sessions phase hphase =>
      by_cases hc : c = c'
      · subst hc
        have hnew := holdsNo_of_phaseStep hgone hholds hphase
        simpa [State.setCall] using hnew
      · simpa [State.setCall, hc] using hholds

/-- A session row is there in some reachable state and a step later it is not.  From then on, however the
run goes on and whatever calls in flight write, a call that had not read its row by then is never accepted
for that session id. -/
theorem no_accept_after_delete (w : World) (start : Int) (before later : List Label) (label : Label)
    (s deleted final : State) (sessionID : GoString)
    (hbefore : exec (step w) (State.init start) before = some s)
    (hthere : Sessions.getSession s.sessions sessionID ≠ none)
    (hstep : step w s label = some deleted)
    (hgone : Sessions.getSession deleted.sessions sessionID = none)
    (hlater : exec (step w) deleted later = some final) (htokens : DistinctTokens w final) (c : Nat)
    (hunread : deleted.calls c = .idle ∨ ∃ id, deleted.calls c = .begun id) :
    ∀ session now ctx, final.calls c = .accepted session now ctx → ctx.sessionID ≠ some sessionID := by
  have hdraws : Draws deleted := draws_step (draws_of_run hbefore) hstep
  have hrowsInserted : RowsInserted w s := by
    refine exec_invariant (RowsInserted w) (fun _ _ _ hrows hnext => rowsInserted_step hrows hnext)
      hbefore ?_
    intro row hrow
    exact absurd hrow (KeyedTable.not_mem_empty row)
  have hstart : Gone w deleted sessionID := by
    obtain ⟨row, hget⟩ := Option.ne_none_iff_exists'.mp hthere
    obtain ⟨hrow, hkey⟩ := KeyedTable.get?_eq_some_iff.mp hget
    obtain ⟨issue, hissue, hid⟩ := hrowsInserted row hrow
    exact ⟨⟨issue, created_subset_of_step hstep hissue, hid.trans hkey⟩,
      KeyedTable.get?_eq_none_iff.mp hgone⟩
  have hholds : HoldsNo sessionID (deleted.calls c) := by
    rcases hunread with hidle | ⟨id, hbegun⟩
    · rw [hidle]
      trivial
    · rw [hbegun]
      trivial
  -- the three facts travel together: the first two keep the session gone, the third is about the call
  have hconditional : DistinctTokens w final →
      Draws final ∧ Gone w final sessionID ∧ HoldsNo sessionID (final.calls c) := by
    refine exec_invariant
      (fun state => DistinctTokens w state →
        Draws state ∧ Gone w state sessionID ∧ HoldsNo sessionID (state.calls c))
      ?_ hlater fun _ => ⟨hdraws, hstart, hholds⟩
    intro state label next hstate hnext hnextTokens
    have hstateTokens := distinctTokens_of_step hnext hnextTokens
    obtain ⟨hstateDraws, hstateGone, hstateHolds⟩ := hstate hstateTokens
    exact ⟨draws_step hstateDraws hnext, gone_step hstateTokens hstateDraws hstateGone hnext,
      holdsNo_step hstateGone hstateHolds hnext⟩
  obtain ⟨-, -, hfinal⟩ := hconditional htokens
  intro session now ctx haccepted
  rw [haccepted] at hfinal
  exact hfinal

/-- Call 0 has read the row and is about to slide it, call 1 has only parsed its cookie. -/
def beforeLogout : List Label :=
  [.createUser ⟨str "alice", [], adminRole⟩, .issueBegin 0 1 false none, .issueInsert 0 false,
    .tick (120 * hour), .start 0 sampleCookie, .getSession 0 none, .decide 0, .start 1 sampleCookie]

/-- Both calls go on after the session has been logged out. -/
def afterLogout : List Label := [.touchSession 0 false, .getSession 1 none, .getUser 0 none]

theorem no_accept_after_delete_logout :
    ∃ s deleted final, exec (step sampleWorld) (State.init 0) beforeLogout = some s ∧
      step sampleWorld s (.logout Ctx.background sampleCookie none false) = some deleted ∧
      exec (step sampleWorld) deleted afterLogout = some final ∧
      ∀ session now ctx, final.calls 1 = .accepted session now ctx →
        ctx.sessionID ≠ some (hexEncode (sampleWorld.rand 0)) := by
  obtain ⟨s, hbefore⟩ : ∃ s, exec (step sampleWorld) (State.init 0) beforeLogout = some s :=
    Option.isSome_iff_exists.mp (by decide +kernel)
  have hrow : (exec (step sampleWorld) (State.init 0) beforeLogout).map (fun s =>
      decide (Sessions.getSession s.sessions (hexEncode (sampleWorld.rand 0)) ≠ none)) = some true := by
    decide +kernel
  have hdeletedRow : ((exec (step sampleWorld) (State.init 0) beforeLogout).bind fun s =>
      step sampleWorld s (.logout Ctx.background sampleCookie none false)).map (fun s =>
        (Sessions.getSession s.sessions (hexEncode (sampleWorld.rand 0)), s.calls 1)) =
      some (none, .begun (hexEncode (sampleWorld.rand 0))) := by
    decide +kernel
  have hfinalDraws : (((exec (step sampleWorld) (State.init 0) beforeLogout).bind fun s =>
      step sampleWorld s (.logout Ctx.background sampleCookie none false)).bind fun s =>
        exec (step sampleWorld) s afterLogout).map State.draws = some 1 := by
    decide +kernel
  rw [hbefore, Option.map_some, Option.some.injEq, decide_eq_true_eq] at hrow
  rw [hbefore, Option.bind_some] at hdeletedRow hfinalDraws
  obtain ⟨deleted, hlogout, hpair⟩ := Option.map_eq_some_iff.mp hdeletedRow
  obtain ⟨hnone, hbegun⟩ := Prod.mk.inj hpair
  rw [hlogout, Option.bind_some] at hfinalDraws
  obtain ⟨final, hfinal, hdraws⟩ := Option.map_eq_some_iff.mp hfinalDraws
  have htokens : DistinctTokens sampleWorld final := by
    intro i j hi hj _
    omega
  exact ⟨s, deleted, final, hbefore, hlogout, hfinal,
    no_accept_after_delete sampleWorld 0 beforeLogout afterLogout _ s deleted final _ hbefore hrow
      hlogout hnone hfinal htokens 1 (Or.inr ⟨_, hbegun⟩)⟩

end SessionInterleaving
end Auth
end Dmanager
