import Dmanager.Auth.Session
import Dmanager.Db.AuthEvents
import Dmanager.Db.WebAuthn
import Dmanager.Go.Timestamps

/-!
# Expiry in the database

The purge of the sessions, that of the authentication events and the lookup of a challenge leave it to SQLite to
compare times.  The driver binds a time as its RFC 3339 text in the time zone of the process, and SQLite compares
texts.

* `expiresTogether_iff` — the purge deletes the sessions that `authenticate` rejects as expired, and a challenge is
  found while it is not over, as far as the texts are read right.
* `eventsPurgedWhenOld_iff` — the purge of events compares two layouts, and goes wrong on the day of the cutoff.

The tables here keep the offset of each time; without it they are those of `Dmanager.Db`
(`scan_sessionPurgeFunc`, `unconsumed_scan_iff`).
-/

namespace Dmanager
namespace Auth

open Go Db Lib Server
open Go.Stamp (Misread MisreadAhead)

/-- The offset of the local time from UTC at each instant. -/
abbrev Zone := Int → Int

/-- `time.Now()`. -/
def localTime (zone : Zone) (now : Int) : Stamp := ⟨now, zone now⟩

/-- UTC. -/
def utc : Zone := fun _ => 0

/-- The comparison of the database for times that were all bound in one zone. -/
def textLess (zone : Zone) (t u : Int) : Bool := (localTime zone t).rfc3339Nano < (localTime zone u).rfc3339Nano

theorem textLess_read_left {zone : Zone} {t : Stamp} (hzone : t = localTime zone t.read) (now : Int) :
    textLess zone t.read now = decide (t.rfc3339Nano < (localTime zone now).rfc3339Nano) := by
  unfold textLess
  rw [← hzone]

theorem textLess_read_right {zone : Zone} {t : Stamp} (hzone : t = localTime zone t.read) (now : Int) :
    textLess zone now t.read = decide ((localTime zone now).rfc3339Nano < t.rfc3339Nano) := by
  unfold textLess
  rw [← hzone]

/-! ## Sessions as they are stored -/

/-- A row of `sessions`. -/
structure StoredSession where
  sessionID : GoString
  userID : Int
  expiresAt : Stamp
  createdAt : Int
  lastSeenAt : Stamp
  absoluteExpiresAt : Stamp
  userAgent : GoString
  deriving DecidableEq, Repr

/-- `row.Scan`. -/
def StoredSession.scan (row : StoredSession) : Session where
  sessionID := row.sessionID
  userID := row.userID
  expiresAt := row.expiresAt.read
  createdAt := row.createdAt
  lastSeenAt := row.lastSeenAt.read
  absoluteExpiresAt := row.absoluteExpiresAt.read
  userAgent := row.userAgent

/-- The table. -/
abbrev StoredSessions := KeyedTable StoredSession.sessionID

namespace StoredSessions

/-- The table as the queries return it. -/
def scan (sessions : StoredSessions) : Sessions where
  rows := sessions.rows.map StoredSession.scan
  nodup := by
    rw [List.map_map]
    exact sessions.nodup

/-- `DELETE FROM sessions WHERE expires_at < ? OR absolute_expires_at < ?`. -/
def purgeExpiredSessions (sessions : StoredSessions) (expiresAt absoluteExpiresAt : Stamp) : StoredSessions :=
  sessions.deleteWhere fun row =>
    decide (row.expiresAt.rfc3339Nano < expiresAt.rfc3339Nano) ||
      decide (row.absoluteExpiresAt.rfc3339Nano < absoluteExpiresAt.rfc3339Nano)

/-- `SessionPurgeFunc`, when the statement succeeds. -/
def sessionPurgeFunc (zone : Zone) (sessions : StoredSessions) (now : Int) : StoredSessions :=
  sessions.purgeExpiredSessions (localTime zone now) (localTime zone now)

theorem getSession_scan {sessions : StoredSessions} {row : StoredSession} (hrow : row ∈ sessions) :
    Sessions.getSession sessions.scan row.sessionID = some row.scan :=
  KeyedTable.get?_eq_some_iff.mpr ⟨List.mem_map_of_mem hrow, rfl⟩

/-- A purged row had a clock whose text is before that of the time. -/
theorem not_mem_sessionPurgeFunc_iff {zone : Zone} {sessions : StoredSessions} {row : StoredSession} {now : Int}
    (hrow : row ∈ sessions) :
    row ∉ sessions.sessionPurgeFunc zone now ↔
      row.expiresAt.Before (localTime zone now) ∨ row.absoluteExpiresAt.Before (localTime zone now) := by
  unfold sessionPurgeFunc purgeExpiredSessions
  rw [KeyedTable.mem_deleteWhere, not_and, Bool.not_eq_false, Bool.or_eq_true, decide_eq_true_eq, decide_eq_true_eq,
    Stamp.rfc3339Nano_lt_iff, Stamp.rfc3339Nano_lt_iff]
  exact ⟨fun hdoomed => hdoomed hrow, fun hdoomed _ => hdoomed⟩

/-- Rows that were all written in one zone are purged by a comparison of instants. -/
theorem scan_sessionPurgeFunc {zone : Zone} {sessions : StoredSessions} (now : Int)
    (hzone : ∀ row ∈ sessions.rows, row.expiresAt = localTime zone row.expiresAt.read ∧
      row.absoluteExpiresAt = localTime zone row.absoluteExpiresAt.read) :
    (sessions.sessionPurgeFunc zone now).scan = Auth.sessionPurgeFunc (textLess zone) false sessions.scan now := by
  apply KeyedTable.eq_of_rows_eq
  show List.map StoredSession.scan (sessions.rows.filter _) = (sessions.rows.map StoredSession.scan).filter _
  rw [List.filter_map]
  refine congrArg _ (List.filter_congr fun row hrow => ?_)
  obtain ⟨hexpires, habsolute⟩ := hzone row hrow
  show (!(_ || _)) = !(textLess zone row.expiresAt.read now || textLess zone row.absoluteExpiresAt.read now)
  rw [textLess_read_left hexpires, textLess_read_left habsolute]

end StoredSessions

/-- `authenticate` rejects a session as expired when one of its clocks is over. -/
theorem authenticate_eq_expired_iff {i : Interceptor} {faults : Faults} {store : Store} {now : Int} {ctx : Ctx}
    {cookieHeader : GoString} {row : Session} (hfaults : faults.getSession = none)
    (hcookie : parseSessionCookie cookieHeader = row.sessionID) (hid : row.sessionID ≠ [])
    (hrow : Sessions.getSession store.sessions row.sessionID = some row) :
    (authenticate i faults store now ctx cookieHeader).2 = .error (newError .unauthenticated "session expired") ↔
      row.expiresAt < now ∨ row.absoluteExpiresAt < now := by
  have hexpired : sessionExpired now row = true ↔ row.expiresAt < now ∨ row.absoluteExpiresAt < now := by
    unfold sessionExpired
    rw [Bool.or_eq_true, after_eq_true_iff, after_eq_true_iff, or_comm]
  rw [← hexpired]
  simp only [authenticate, hcookie, if_neg hid, hfaults, hrow]
  split
  · rename_i hover
    exact iff_of_true rfl hover
  · rename_i hlive
    refine iff_of_false (fun herror => ?_) hlive
    cases hfault : faults.getUser with
    | some cause =>
        rw [hfault] at herror
        have hcode : Code.internal = Code.unauthenticated := congrArg ConnectError.code (Except.error.inj herror)
        exact absurd hcode (by decide)
    | none =>
        rw [hfault] at herror
        cases huser : store.users.getUser row.userID with
        | none =>
            rw [huser] at herror
            exact absurd (congrArg ConnectError.message (Except.error.inj herror)) (by decide)
        | some user =>
            rw [huser] at herror
            exact absurd herror (by simp)

/-- The errors of SQLite do not show in whether the session is over: both clocks are read right, or the one that is
misread does not matter, or two errors make up for each other. -/
def DecidedAlike (row : StoredSession) (now : Stamp) : Prop :=
  (Misread row.expiresAt now → ¬ Misread row.absoluteExpiresAt now → row.absoluteExpiresAt.read < now.instant) ∧
    (¬ Misread row.expiresAt now → Misread row.absoluteExpiresAt now → row.expiresAt.read < now.instant) ∧
    (Misread row.expiresAt now → Misread row.absoluteExpiresAt now →
      (row.expiresAt.read < now.instant ↔ ¬ row.absoluteExpiresAt.read < now.instant))

instance decidableDecidedAlike (row : StoredSession) (now : Stamp) : Decidable (DecidedAlike row now) :=
  inferInstanceAs (Decidable ((_ → _ → _) ∧ (_ → _ → _) ∧ (_ → _ → _)))

theorem decidedAlike_iff (row : StoredSession) (now : Stamp) :
    (row.expiresAt.Before now ∨ row.absoluteExpiresAt.Before now ↔
        row.expiresAt.read < now.instant ∨ row.absoluteExpiresAt.read < now.instant) ↔ DecidedAlike row now := by
  unfold DecidedAlike Misread
  -- a matter of the four comparisons alone
  generalize row.expiresAt.Before now = idleBefore
  generalize (row.expiresAt.read < now.instant) = idleOver
  generalize row.absoluteExpiresAt.Before now = capBefore
  generalize (row.absoluteExpiresAt.read < now.instant) = capOver
  by_cases hidle : idleOver
  · by_cases hcap : capOver
    · simp only [hidle, hcap, or_true, iff_true, not_not, imp_true_iff, not_true_eq_false, true_and]
      tauto
    · simp only [hidle, hcap, or_false, iff_true, iff_false, not_not, imp_true_iff, not_false_eq_true, and_true]
      tauto
  · by_cases hcap : capOver
    · simp only [hidle, hcap, or_true, iff_true, iff_false, not_not, imp_true_iff, not_true_eq_false, true_and,
        and_true]
      tauto
    · simp only [hidle, hcap, or_false, iff_false, not_not, not_false_eq_true, iff_true, imp_false]
      tauto

/-! ## Challenges as they are stored -/

/-- A row of `webauthn_challenges`. -/
structure StoredChallenge where
  id : Int
  challenge : GoString
  kind : GoString
  userID : Option Int
  expiresAt : Stamp
  consumed : Int
  extensions : GoString
  deriving DecidableEq, Repr

/-- `row.Scan`. -/
def StoredChallenge.scan (row : StoredChallenge) : WebauthnChallenge where
  id := row.id
  challenge := row.challenge
  kind := row.kind
  userID := row.userID
  expiresAt := row.expiresAt.read
  consumed := row.consumed
  extensions := row.extensions

/-- `WHERE challenge = ? AND kind = ? AND consumed = 0 AND expires_at > ?`. -/
def StoredChallenge.Unconsumed (challenge kind : GoString) (expiresAt : Stamp) (row : StoredChallenge) : Prop :=
  row.challenge = challenge ∧ row.kind = kind ∧ row.consumed = 0 ∧ expiresAt.rfc3339Nano < row.expiresAt.rfc3339Nano

instance decidableUnconsumed (challenge kind : GoString) (expiresAt : Stamp) (row : StoredChallenge) :
    Decidable (row.Unconsumed challenge kind expiresAt) :=
  inferInstanceAs (Decidable (_ ∧ _ ∧ _ ∧ _))

/-- The table. -/
abbrev StoredChallenges := KeyedTable StoredChallenge.id

/-- `SELECT ... FROM webauthn_challenges WHERE ... LIMIT 1`: the result is any of the rows that match. -/
def StoredChallenges.IsUnconsumed (challenges : StoredChallenges) (challenge kind : GoString) (expiresAt : Stamp)
    (row : StoredChallenge) : Prop :=
  row ∈ challenges.rows ∧ row.Unconsumed challenge kind expiresAt

instance decidableIsUnconsumed (challenges : StoredChallenges) (challenge kind : GoString) (expiresAt : Stamp)
    (row : StoredChallenge) : Decidable (challenges.IsUnconsumed challenge kind expiresAt row) :=
  inferInstanceAs (Decidable (_ ∧ _))

/-- A row that was written in one zone is looked up by a comparison of instants. -/
theorem unconsumed_scan_iff {zone : Zone} {row : StoredChallenge} {challenge kind : GoString} {now : Int}
    (hzone : row.expiresAt = localTime zone row.expiresAt.read) :
    Challenges.Unconsumed (textLess zone) ⟨challenge, kind, now⟩ row.scan ↔
      row.Unconsumed challenge kind (localTime zone now) := by
  have hless : textLess zone now row.scan.expiresAt = _ := textLess_read_right hzone now
  unfold Challenges.Unconsumed StoredChallenge.Unconsumed
  rw [hless, decide_eq_true_eq]
  rfl

/-- SQLite decides about the expiry of sessions and challenges as Go does, as far as it reads the times right. -/
theorem expiresTogether_iff {zone : Zone} {now : Int} {sessions : StoredSessions} {row : StoredSession}
    {users : Users} {i : Interceptor} {faults : Faults} {ctx : Ctx} {cookieHeader : GoString}
    {challenges : StoredChallenges} {challenge : StoredChallenge} (hrow : row ∈ sessions) (hid : row.sessionID ≠ [])
    (hfaults : faults.getSession = none) (hcookie : parseSessionCookie cookieHeader = row.sessionID)
    (hchallenge : challenge ∈ challenges.rows) (hconsumed : challenge.consumed = 0) :
    ((row ∉ sessions.sessionPurgeFunc zone now ↔
        (authenticate i faults ⟨users, sessions.scan⟩ now ctx cookieHeader).2 =
          .error (newError .unauthenticated "session expired")) ↔
      DecidedAlike row (localTime zone now)) ∧
    ((challenges.IsUnconsumed challenge.challenge challenge.kind (localTime zone now) challenge ↔
        now < challenge.expiresAt.read) ↔
      ¬ MisreadAhead challenge.expiresAt (localTime zone now)) := by
  constructor
  · have hscan : Sessions.getSession sessions.scan row.scan.sessionID = some row.scan :=
      StoredSessions.getSession_scan hrow
    rw [StoredSessions.not_mem_sessionPurgeFunc_iff hrow, ← decidedAlike_iff,
      authenticate_eq_expired_iff hfaults hcookie hid hscan]
    rfl
  · unfold StoredChallenges.IsUnconsumed StoredChallenge.Unconsumed MisreadAhead
    rw [not_not, Stamp.rfc3339Nano_lt_iff]
    simp only [hchallenge, hconsumed, true_and]
    rfl

/-- 17:00:00 on July 5, 2026. -/
def fiveOClock : Int := 63918867600 * second

/-- A session whose idle clock runs out at 17:00:00, local time; a whole second has no fraction in its text. -/
def sessionUntilFive (zone : Zone) : StoredSession :=
  ⟨str "ab", 1, localTime zone fiveOClock, fiveOClock - 168 * hour, localTime zone (fiveOClock - 168 * hour),
    localTime zone (fiveOClock + 552 * hour), []⟩

/-- A challenge that is over half a second later. -/
def challengeAfterFive (zone : Zone) : StoredChallenge :=
  ⟨1, str "cd", str "login", none, localTime zone (fiveOClock + 500000000), 0, []⟩

/-- A table of one row. -/
def onlySession (row : StoredSession) : StoredSessions := ⟨[row], List.nodup_singleton _⟩

/-- A table of one row. -/
def onlyChallenge (row : StoredChallenge) : StoredChallenges := ⟨[row], List.nodup_singleton _⟩

/-- In UTC, half a second after a session ran out, `authenticate` rejects it and the purge leaves it; and half a second
before a challenge is over, it is not found.  `Z` is greater than a period. -/
theorem wholeSecondMisread :
    ¬ (sessionUntilFive utc ∉
          StoredSessions.sessionPurgeFunc utc (onlySession (sessionUntilFive utc)) (fiveOClock + 500000000) ↔
        (authenticate (newInterceptor (168 * hour) true) Faults.none
          ⟨Users.empty, StoredSessions.scan (onlySession (sessionUntilFive utc))⟩ (fiveOClock + 500000000)
          Ctx.background (str "session_id=ab")).2 = .error (newError .unauthenticated "session expired")) ∧
    ¬ (StoredChallenges.IsUnconsumed (onlyChallenge (challengeAfterFive utc)) (str "cd") (str "login")
          (localTime utc fiveOClock) (challengeAfterFive utc) ↔
        fiveOClock < (challengeAfterFive utc).expiresAt.read) := by
  constructor
  · intro hagree
    have hpurged := (StoredSessions.not_mem_sessionPurgeFunc_iff List.mem_cons_self).mp (hagree.mpr rfl)
    revert hpurged
    decide +kernel
  · intro hagree
    have hfound := (hagree.mpr (by decide)).2.2.2.2
    revert hfound
    decide +kernel

/-- Two hours to the east the same times are read right. -/
theorem expiresTogether_east :
    (sessionUntilFive (fun _ => 7200) ∉ StoredSessions.sessionPurgeFunc (fun _ => 7200)
          (onlySession (sessionUntilFive fun _ => 7200)) (fiveOClock + 500000000) ↔
        (authenticate (newInterceptor (168 * hour) true) Faults.none
          ⟨Users.empty, StoredSessions.scan (onlySession (sessionUntilFive fun _ => 7200))⟩ (fiveOClock + 500000000)
          Ctx.background (str "session_id=ab")).2 = .error (newError .unauthenticated "session expired")) ∧
    (StoredChallenges.IsUnconsumed (onlyChallenge (challengeAfterFive fun _ => 7200)) (str "cd") (str "login")
          (localTime (fun _ => 7200) (fiveOClock + 500000000)) (challengeAfterFive fun _ => 7200) ↔
        fiveOClock + 500000000 < (challengeAfterFive fun _ => 7200).expiresAt.read) := by
  have hrow : sessionUntilFive (fun _ => 7200) ∈ onlySession (sessionUntilFive fun _ => 7200) := List.mem_cons_self
  have hchallenge : challengeAfterFive (fun _ => 7200) ∈ (onlyChallenge (challengeAfterFive fun _ => 7200)).rows :=
    List.mem_cons_self
  have hfaults : Faults.none.getSession = none := rfl
  have hcookie : parseSessionCookie (str "session_id=ab") = str "ab" := by decide
  refine And.imp (fun hiff => hiff.mpr ?_) (fun hiff => hiff.mpr ?_)
    (expiresTogether_iff hrow (by decide) hfaults hcookie hchallenge rfl)
  · decide +kernel
  · decide +kernel

/-! ## Events -/

/-- `AuthEventsPurgeFunc`, when the statement succeeds. -/
def authEventsPurgeFunc (zone : Zone) (retention : Int) (events : AuthEvents) (now : Int) : AuthEvents :=
  let retention := if retention ≤ 0 then 90 * 24 * hour else retention
  events.purgeExpiredAuthEvents (localTime zone (now - retention)).rfc3339Nano

/-- In UTC the purge deletes the events up to the end of the day of the cutoff. -/
theorem not_mem_authEventsPurgeFunc_iff {retention now : Int} {events : AuthEvents} {event : Db.AuthEvent}
    (hretention : 0 < retention) (hevent : event ∈ events.table) (hcreated : FourDigitYear event.createdAt)
    (hcutoff : FourDigitYear (now - retention)) :
    event ∉ (authEventsPurgeFunc utc retention events now).table ↔ event.createdAt / day ≤ (now - retention) / day := by
  have hwall : (localTime utc (now - retention)).wall = now - retention := by
    show now - retention + 0 * second = now - retention
    omega
  unfold authEventsPurgeFunc AuthEvents.purgeExpiredAuthEvents
  simp only [if_neg (not_le.mpr hretention)]
  rw [KeyedTable.mem_deleteWhere, not_and, Bool.not_eq_false, decide_eq_true_eq, Stamp.rfc3339Nano, hwall,
    dateTime_space_lt_iff hcreated hcutoff]
  exact ⟨fun hdoomed => hdoomed hevent, fun hdoomed _ => hdoomed⟩

/-- In UTC the purge deletes the events from before the cutoff, and no others, unless there are later ones from the
day of the cutoff. -/
theorem eventsPurgedWhenOld_iff {retention now : Int} {events : AuthEvents} {event : Db.AuthEvent}
    (hretention : 0 < retention) (hevent : event ∈ events.table) (hcreated : FourDigitYear event.createdAt)
    (hcutoff : FourDigitYear (now - retention)) :
    (event ∉ (authEventsPurgeFunc utc retention events now).table ↔ event.createdAt < now - retention) ↔
      ¬ (event.createdAt / day = (now - retention) / day ∧ now - retention ≤ event.createdAt) := by
  rw [not_mem_authEventsPurgeFunc_iff hretention hevent hcreated hcutoff]
  unfold day hour minute second
  omega

/-- The login of a user, at 17:00:00. -/
def recordedLogin : Db.AuthEvent := ⟨1, none, str "user1", str "login_success", str "ip: 127.0.0.1", fiveOClock⟩

/-- A table of one event. -/
def onlyEvent : AuthEvents where
  table := ⟨[recordedLogin], List.nodup_singleton _⟩
  seq := 1
  ids_le_seq := by
    intro row hrow
    rw [List.mem_singleton.mp hrow]
    exact le_refl _

/-- An hour before the ninety days are over, on the day when they are, an event is deleted. -/
theorem eventPurgedEarly :
    ¬ (recordedLogin ∉ (authEventsPurgeFunc utc (90 * 24 * hour) onlyEvent (fiveOClock + 90 * 24 * hour - hour)).table ↔
      recordedLogin.createdAt < fiveOClock + 90 * 24 * hour - hour - 90 * 24 * hour) := by
  intro hagree
  have hevent : recordedLogin ∈ onlyEvent.table := List.mem_cons_self
  have hday : recordedLogin.createdAt / day ≤ (fiveOClock + 90 * 24 * hour - hour - 90 * 24 * hour) / day := by decide
  have hdoomed := (not_mem_authEventsPurgeFunc_iff (by decide) hevent (by decide) (by decide)).mpr hday
  exact absurd (hagree.mp hdoomed) (by decide)

/-- A day later than ninety days after it, an event is deleted as it should be. -/
theorem eventsPurgedWhenOld_nextDay :
    recordedLogin ∉ (authEventsPurgeFunc utc (90 * 24 * hour) onlyEvent (fiveOClock + 91 * 24 * hour)).table ↔
      recordedLogin.createdAt < fiveOClock + 91 * 24 * hour - 90 * 24 * hour := by
  have hevent : recordedLogin ∈ onlyEvent.table := List.mem_cons_self
  exact (eventsPurgedWhenOld_iff (by decide) hevent (by decide) (by decide)).mpr (by decide)

end Auth
end Dmanager
