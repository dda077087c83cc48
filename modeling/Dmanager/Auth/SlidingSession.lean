import Dmanager.Auth.Session
import Dmanager.Lib.RenewableLease
import Dmanager.Lib.TransitionSystem

/-!
# Sliding sessions as leases

A session row is a lease (`Dmanager.Lib.RenewableLease`): `expires_at` is its deadline, the fixed
`absolute_expires_at` its cap.  `authenticate` renews it lazily, with the idle timeout of the interceptor
and half of that as the slack (`request_of_live`); a request on a lease that has run out deletes the row
(`request_of_not_live`).

* `lazy_follows_eager` — a standard session: over every run the stored deadline stays within half an idle
  timeout of the deadline that is renewed on every request, and requests at most half an idle timeout
  apart are all accepted up to the absolute deadline.
* `rememberMeKept_iff` — a remember-me session is issued with its own idle timeout but renewed with the
  standard one, so the analogous law fails for it except for the configurations named there.

The requests of a run do not overlap, and no database statement of them fails.
-/

namespace Dmanager
namespace Auth
namespace SlidingSession

open Go Db Lib Server

/-- The two deadlines of a row. -/
def leaseOf (row : Session) : Lease Int := ⟨row.expiresAt, row.absoluteExpiresAt⟩

/-- A request with the cookie of the session, at instant `t`: the store after it, and whether
`authenticate` accepted it. -/
def request (i : Interceptor) (sessionID : GoString) (store : Store) (t : Int) : Store × Bool :=
  let result := authenticate i Faults.none store t Ctx.background (cookieHeaderOf sessionID)
  (result.1,
    match result.2 with
    | .ok _ => true
    | .error _ => false)

/-- The session is in the table with these deadlines, and its owner exists. -/
def Holds (store : Store) (sessionID : GoString) (lease : Lease Int) : Prop :=
  ∃ row user, Sessions.getSession store.sessions sessionID = some row ∧ leaseOf row = lease ∧
    store.users.getUser row.userID = some user

/-- The stored idle deadline, while the session is in the table. -/
def deadline? (store : Store) (sessionID : GoString) : Option Int :=
  (Sessions.getSession store.sessions sessionID).map Session.expiresAt

variable {i : Interceptor} {token : Token} {store : Store} {lease : Lease Int} {t : Int}

theorem Holds.deadline (hholds : Holds store (hexEncode token) lease) :
    deadline? store (hexEncode token) = some lease.deadline := by
  obtain ⟨row, user, hrow, rfl, -⟩ := hholds
  simp [deadline?, hrow, leaseOf]

/-! ## One request -/

/-- The slide of `authenticate` renews the lease. -/
theorem leaseOf_slidRow (row : Session) :
    leaseOf (slidRow i row t) = (leaseOf row).renew i.idleTimeout (Int.tdiv i.idleTimeout 2) t := by
  have hiff := needsSlide_eq_true_iff i.idleTimeout t row
  unfold slidRow
  split
  · rename_i hslide
    have hlt : (leaseOf row).deadline - Int.tdiv i.idleTimeout 2 < t := hiff.mp hslide
    ext
    · rw [Lease.renew_of_lt hlt]
      exact newIdle_eq_min i.idleTimeout t row
    · rw [Lease.renew_cap]
      rfl
  · rename_i hslide
    have hge : t ≤ (leaseOf row).deadline - Int.tdiv i.idleTimeout 2 := not_lt.mp (hiff.not.mp hslide)
    rw [Lease.renew_of_le hge]

/-- A request on a live lease is accepted and renews it. -/
theorem request_of_live (hholds : Holds store (hexEncode token) lease) (hlive : lease.Live t) :
    (request i (hexEncode token) store t).2 = true ∧
      Holds (request i (hexEncode token) store t).1 (hexEncode token)
        (lease.renew i.idleTimeout (Int.tdiv i.idleTimeout 2) t) := by
  obtain ⟨row, user, hrow, rfl, huser⟩ := hholds
  have hexpired : sessionExpired t row = false := (sessionExpired_eq_false_iff t row).mpr hlive
  have hauth := authenticate_of_live (i := i) Ctx.background (parseSessionCookie_hexEncode token)
    (hexEncode_token_ne_nil token) hrow hexpired huser
  have howner : (slidRow i row t).userID = row.userID := by
    unfold slidRow
    split <;> rfl
  unfold request
  rw [hauth]
  refine ⟨rfl, slidRow i row t, user, getSession_slide_self hrow, leaseOf_slidRow row, ?_⟩
  rw [howner]
  exact huser

/-- A request on a lease that has run out is refused and deletes the row. -/
theorem request_of_not_live (hholds : Holds store (hexEncode token) lease) (hdead : ¬ lease.Live t) :
    (request i (hexEncode token) store t).2 = false ∧
      deadline? (request i (hexEncode token) store t).1 (hexEncode token) = none := by
  obtain ⟨row, user, hrow, rfl, -⟩ := hholds
  have hexpired : sessionExpired t row = true := by
    rw [← Bool.not_eq_false, sessionExpired_eq_false_iff]
    exact hdead
  have hauth := authenticate_of_expired (i := i) Ctx.background
    (parseSessionCookie_hexEncode token) (hexEncode_token_ne_nil token) hrow hexpired
  unfold request
  rw [hauth]
  refine ⟨rfl, ?_⟩
  simp [deadline?]

/-- A request for a session that is not there is refused and changes nothing. -/
theorem request_of_none (hnone : deadline? store (hexEncode token) = none) :
    request i (hexEncode token) store t = (store, false) := by
  have hrow : Sessions.getSession store.sessions (hexEncode token) = none := by
    simpa [deadline?] using hnone
  have hauth := authenticate_of_missing (i := i) (t := t) Ctx.background
    (parseSessionCookie_hexEncode token) (hexEncode_token_ne_nil token) hrow
  unfold request
  rw [hauth]

/-- A new session holds the lease of its tier. -/
theorem holds_of_issueSession {conversion : SecondsConversion} {cfg : AuthConfig} {before : Store}
    {userID issuedAt : Int} {rememberMe : Bool} {reqHeader : Header} {cookie : SetCookie}
    (hissue : issueSession conversion cfg before userID rememberMe token reqHeader issuedAt =
      some (store, cookie)) :
    Holds store (hexEncode token)
      ⟨issuedAt + tierIdle cfg rememberMe, issuedAt + tierAbsolute cfg rememberMe⟩ := by
  obtain ⟨husers, ⟨user, huser⟩, hrow, -⟩ := issueSession_eq_some hissue
  refine ⟨_, user, hrow, rfl, ?_⟩
  rw [husers]
  exact huser

/-! ## Requests that come often enough -/

/-- At least `half` is left of the lease at `clock`, up to the cap; and this lasts, because renewals leave
as much or because the lease reaches up to the cap already. -/
structure Kept (half slack clock : Int) (lease : Lease Int) : Prop where
  left : min (clock + half) lease.cap ≤ lease.deadline
  le_cap : lease.deadline ≤ lease.cap
  lasting : half ≤ slack ∨ lease.deadline = lease.cap

/-- The slack of the interceptor: Go's half of the idle timeout. -/
def slackOf (i : Interceptor) : Int := Int.tdiv i.idleTimeout 2

theorem slackOf_bounds (hidle : 0 < i.idleTimeout) :
    0 ≤ slackOf i ∧ slackOf i ≤ i.idleTimeout ∧ i.idleTimeout - slackOf i = (i.idleTimeout + 1) / 2 := by
  have hhalf : slackOf i = i.idleTimeout / 2 := tdiv_two_eq_ediv hidle.le
  rw [hhalf]
  omega

variable {half absolute clock : Int}

theorem Kept.renew (hidle : 0 < i.idleTimeout) (hkept : Kept half (slackOf i) clock lease) :
    Kept half (slackOf i) t (lease.renew i.idleTimeout (slackOf i) t) := by
  obtain ⟨-, hslack, -⟩ := slackOf_bounds hidle
  rcases hkept.lasting with hhalf | hpinned
  · refine ⟨?_, ?_, Or.inl hhalf⟩
    · have hleft : min (t + slackOf i) lease.cap ≤ (lease.renew i.idleTimeout (slackOf i) t).deadline :=
        Lease.min_slack_le_renew hslack
      rw [Lease.renew_cap]
      omega
    · rw [Lease.renew_cap]
      exact Lease.renew_le_cap hkept.le_cap
  · have hstays : (lease.renew i.idleTimeout (slackOf i) t).deadline = lease.cap :=
      Lease.renew_eq_cap hslack hpinned
    refine ⟨?_, ?_, Or.inr ?_⟩
    · rw [Lease.renew_cap, hstays]
      exact min_le_right _ _
    · rw [Lease.renew_cap, hstays]
    · rw [Lease.renew_cap, hstays]

/-- The session is in the table with a lease that is kept, or it is gone. -/
def KeptOrGone (half slack absolute : Int) (token : Token) (clock : Int) (store : Store) : Prop :=
  deadline? store (hexEncode token) = none ∨
    ∃ lease, Holds store (hexEncode token) lease ∧ lease.cap = absolute ∧ Kept half slack clock lease

/-- One request: when it is accepted, at least `half` is left; and the run goes on in the same way. -/
theorem request_keptOrGone (hidle : 0 < i.idleTimeout)
    (hkept : KeptOrGone half (slackOf i) absolute token clock store) :
    ((request i (hexEncode token) store t).2 = true →
      ∃ stored, deadline? (request i (hexEncode token) store t).1 (hexEncode token) = some stored ∧
        min (t + half) absolute ≤ stored) ∧
    KeptOrGone half (slackOf i) absolute token t (request i (hexEncode token) store t).1 := by
  rcases hkept with hnone | ⟨lease, hholds, rfl, hlease⟩
  · have hrequest : request i (hexEncode token) store t = (store, false) := request_of_none hnone
    rw [hrequest]
    constructor
    · intro haccepted
      cases haccepted
    · exact Or.inl hnone
  · by_cases hlive : lease.Live t
    -- an accepted request renews the lease, lazily
    · obtain ⟨-, hnext⟩ := request_of_live (i := i) hholds hlive
      have hrenewed : Kept half (slackOf i) t (lease.renew i.idleTimeout (slackOf i) t) :=
        hlease.renew hidle
      have hleft := hrenewed.left
      rw [Lease.renew_cap] at hleft
      constructor
      · intro _
        exact ⟨_, hnext.deadline, hleft⟩
      · exact Or.inr ⟨_, hnext, Lease.renew_cap, hrenewed⟩
    · obtain ⟨hrefused, hgone⟩ := request_of_not_live (i := i) hholds hlive
      constructor
      · intro haccepted
        rw [hrefused] at haccepted
        cases haccepted
      · exact Or.inl hgone

/-- The run: every accepted request leaves at least `half`, up to the absolute deadline. -/
theorem left_of_run (hidle : 0 < i.idleTimeout)
    (hstart : KeptOrGone half (slackOf i) absolute token clock store) (earlier : List Int) (t : Int)
    (haccepted : (request i (hexEncode token)
      (finalState (request i (hexEncode token)) store earlier) t).2 = true) :
    ∃ stored, deadline? (request i (hexEncode token)
        (finalState (request i (hexEncode token)) store earlier) t).1 (hexEncode token) = some stored ∧
      min (t + half) absolute ≤ stored := by
  have hreached : ∃ clock, KeptOrGone half (slackOf i) absolute token clock
      (finalState (request i (hexEncode token)) store earlier) := by
    refine finalState_invariant
      (fun _ store => ∃ clock, KeptOrGone half (slackOf i) absolute token clock store)
      ?_ [] ⟨clock, hstart⟩
    rintro t rest store ⟨clock, hkept⟩
    exact ⟨t, (request_keptOrGone hidle hkept).2⟩
  obtain ⟨clock', hkept⟩ := hreached
  exact (request_keptOrGone hidle hkept).1 haccepted

/-- Requests at most `half` apart: each of them up to the absolute deadline is accepted. -/
theorem accepted_of_gaps (hidle : 0 < i.idleTimeout)
    (hstart : Holds store (hexEncode token) lease) (hcap : lease.cap = absolute)
    (hkept : Kept half (slackOf i) clock lease) (earlier : List Int) (t : Int) (later : List Int)
    (hgaps : (clock :: (earlier ++ t :: later)).IsChain fun last next => last ≤ next ∧ next ≤ last + half)
    (habsolute : t ≤ absolute) :
    (request i (hexEncode token) (finalState (request i (hexEncode token)) store earlier) t).2 = true := by
  -- past the absolute deadline nothing is claimed, and no later request comes before it
  have hreached : ∃ clock,
      (clock :: t :: later).IsChain (fun last next => last ≤ next ∧ next ≤ last + half) ∧
      (absolute < clock ∨ ∃ lease, Holds (finalState (request i (hexEncode token)) store earlier)
        (hexEncode token) lease ∧ lease.cap = absolute ∧ Kept half (slackOf i) clock lease) := by
    refine finalState_invariant
      (fun rest store => ∃ clock,
        (clock :: rest).IsChain (fun last next => last ≤ next ∧ next ≤ last + half) ∧
        (absolute < clock ∨ ∃ lease, Holds store (hexEncode token) lease ∧ lease.cap = absolute ∧
          Kept half (slackOf i) clock lease))
      ?_ (t :: later) ⟨clock, hgaps, Or.inr ⟨lease, hstart, hcap, hkept⟩⟩
    rintro t rest store ⟨clock, hchain, hstate⟩
    obtain ⟨⟨hle, hgap⟩, hrest⟩ := List.isChain_cons_cons.mp hchain
    refine ⟨t, hrest, ?_⟩
    rcases hstate with hpast | ⟨lease, hholds, rfl, hlease⟩
    · exact Or.inl (hpast.trans_le hle)
    · rcases le_or_gt t lease.cap with hbefore | hpast
      · have hlive : lease.Live t := Lease.live_of_min_slack_le hlease.left hgap hbefore
        obtain ⟨-, hnext⟩ := request_of_live (i := i) hholds hlive
        exact Or.inr ⟨_, hnext, Lease.renew_cap, hlease.renew hidle⟩
      · exact Or.inl hpast
  obtain ⟨last, hchain, hstate⟩ := hreached
  obtain ⟨⟨hle, hgap⟩, -⟩ := List.isChain_cons_cons.mp hchain
  rcases hstate with hpast | ⟨lease, hholds, rfl, hlease⟩
  · omega
  · have hlive : lease.Live t := Lease.live_of_min_slack_le hlease.left hgap habsolute
    exact (request_of_live hholds hlive).1

/-! ## Standard sessions -/

/-- A store, and the eager deadline that goes with it. -/
structure Compared where
  store : Store
  eager : Int

/-- A request on both sides: the eager reference is set on every accepted request. -/
def compare (i : Interceptor) (sessionID : GoString) (absolute : Int) (s : Compared) (t : Int) :
    Compared × Bool :=
  let result := request i sessionID s.store t
  (⟨result.1, if result.2 then min (t + i.idleTimeout) absolute else s.eager⟩, result.2)

/-- The session is gone, or its deadline lies at most an idle timeout ahead of `clock`. -/
def Follows (idle absolute : Int) (token : Token) (clock : Int) (s : Compared) : Prop :=
  deadline? s.store (hexEncode token) = none ∨
    ∃ lease, Holds s.store (hexEncode token) lease ∧ lease.cap = absolute ∧ lease.deadline ≤ absolute ∧
      lease.deadline ≤ clock + idle

/-- One request of the comparison: the stored deadline does not decrease, after an accepted request it is
at most half an idle timeout, rounded up, below the eager one, and the run goes on in the same way. -/
theorem compare_step {s : Compared} (hidle : 0 < i.idleTimeout) (hclock : clock ≤ t)
    (hfollows : Follows i.idleTimeout absolute token clock s) :
    (∀ old new, deadline? s.store (hexEncode token) = some old →
      deadline? (compare i (hexEncode token) absolute s t).1.store (hexEncode token) = some new →
        old ≤ new) ∧
    ((compare i (hexEncode token) absolute s t).2 = true →
      ∃ stored, deadline? (compare i (hexEncode token) absolute s t).1.store (hexEncode token) =
          some stored ∧
        stored ≤ (compare i (hexEncode token) absolute s t).1.eager ∧
        (compare i (hexEncode token) absolute s t).1.eager ≤ stored + (i.idleTimeout + 1) / 2) ∧
    Follows i.idleTimeout absolute token t (compare i (hexEncode token) absolute s t).1 := by
  obtain ⟨-, hslack, hhalf⟩ := slackOf_bounds hidle
  unfold compare
  rcases hfollows with hnone | ⟨lease, hholds, rfl, hcap, hreach⟩
  · rw [request_of_none hnone]
    refine ⟨?_, ?_, Or.inl hnone⟩
    · intro old new hold
      rw [hnone] at hold
      cases hold
    · intro haccepted
      cases haccepted
  · by_cases hlive : lease.Live t
    · obtain ⟨haccepted, hnext⟩ := request_of_live (i := i) hholds hlive
      -- the lazy deadline is between the old one and the eager one, and at most half a timeout late
      have hmono : lease.deadline ≤ (lease.renew i.idleTimeout (slackOf i) t).deadline :=
        Lease.deadline_le_renew hslack hcap
      have hbehind : (lease.renew i.idleTimeout (slackOf i) t).deadline ≤
          min (t + i.idleTimeout) lease.cap := Lease.renew_le_eager hcap (by omega)
      have hahead : min (t + i.idleTimeout) lease.cap ≤
          (lease.renew i.idleTimeout (slackOf i) t).deadline + (i.idleTimeout - slackOf i) :=
        Lease.eager_le_renew_add hslack
      refine ⟨?_, ?_, Or.inr ⟨_, hnext, Lease.renew_cap, Lease.renew_le_cap hcap, ?_⟩⟩
      · intro old new hold hnew
        rw [hholds.deadline] at hold
        rw [hnext.deadline] at hnew
        cases hold
        cases hnew
        exact hmono
      · intro _
        refine ⟨_, hnext.deadline, ?_⟩
        simp only [haccepted, if_true]
        rw [← hhalf]
        exact ⟨hbehind, hahead⟩
      · exact hbehind.trans (min_le_left _ _)
    · obtain ⟨hrefused, hgone⟩ := request_of_not_live (i := i) hholds hlive
      refine ⟨?_, ?_, Or.inl hgone⟩
      · intro old new _ hnew
        rw [hgone] at hnew
        cases hnew
      · intro haccepted
        rw [hrefused] at haccepted
        cases haccepted

/-- A standard session, issued with the idle timeout of the interceptor, over every run of requests at
non-decreasing times.  Along the run the stored deadline never decreases, and after each accepted request
it is at most half an idle timeout, rounded up, below the deadline that is set on every accepted request.
If the requests are at most half an idle timeout apart, each of them up to the absolute deadline is
accepted. -/
theorem lazy_follows_eager (conversion : SecondsConversion) (cfg : AuthConfig) (i : Interceptor)
    (before store : Store) (userID issuedAt : Int) (token : Token) (reqHeader : Header)
    (cookie : SetCookie) (times : List Int) (hidle : 0 < i.idleTimeout)
    (hwired : i.idleTimeout = cfg.sessionIdleTimeout)
    (habsolute : cfg.sessionIdleTimeout ≤ cfg.sessionAbsoluteTimeout)
    (hissue : issueSession conversion cfg before userID false token reqHeader issuedAt =
      some (store, cookie))
    (hordered : (issuedAt :: times).IsChain (· ≤ ·)) :
    (∀ earlier t later, times = earlier ++ t :: later →
      ∀ s next, s = finalState (compare i (hexEncode token) (issuedAt + cfg.sessionAbsoluteTimeout))
          ⟨store, issuedAt + i.idleTimeout⟩ earlier →
        next = compare i (hexEncode token) (issuedAt + cfg.sessionAbsoluteTimeout) s t →
        (∀ old new, deadline? s.store (hexEncode token) = some old →
          deadline? next.1.store (hexEncode token) = some new → old ≤ new) ∧
        (next.2 = true → ∃ stored, deadline? next.1.store (hexEncode token) = some stored ∧
          stored ≤ next.1.eager ∧ next.1.eager ≤ stored + (i.idleTimeout + 1) / 2)) ∧
    ((issuedAt :: times).IsChain (fun last next => last ≤ next ∧ next ≤ last + i.idleTimeout / 2) →
      ∀ earlier t later, times = earlier ++ t :: later → t ≤ issuedAt + cfg.sessionAbsoluteTimeout →
        (request i (hexEncode token)
          (finalState (request i (hexEncode token)) store earlier) t).2 = true) := by
  have hholds := holds_of_issueSession hissue
  simp only [tierIdle, tierAbsolute, Bool.false_eq_true, if_false] at hholds
  obtain ⟨hnonneg, hslack, -⟩ := slackOf_bounds hidle
  constructor
  · rintro earlier t later rfl s next rfl rfl
    have hreached : ∃ clock, (clock :: t :: later).IsChain (· ≤ ·) ∧
        Follows i.idleTimeout (issuedAt + cfg.sessionAbsoluteTimeout) token clock
          (finalState (compare i (hexEncode token) (issuedAt + cfg.sessionAbsoluteTimeout))
            ⟨store, issuedAt + i.idleTimeout⟩ earlier) := by
      -- the clock is the time of the last request; the requests still to come are not before it
      refine finalState_invariant
        (fun rest s => ∃ clock, (clock :: rest).IsChain (· ≤ ·) ∧
          Follows i.idleTimeout (issuedAt + cfg.sessionAbsoluteTimeout) token clock s)
        ?_ (t :: later) ⟨issuedAt, hordered, Or.inr ⟨_, hholds, rfl, ?_, ?_⟩⟩
      · rintro t rest s ⟨clock, hchain, hfollows⟩
        obtain ⟨hle, hrest⟩ := List.isChain_cons_cons.mp hchain
        exact ⟨t, hrest, (compare_step hidle hle hfollows).2.2⟩
      · show issuedAt + cfg.sessionIdleTimeout ≤ issuedAt + cfg.sessionAbsoluteTimeout
        omega
      · show issuedAt + cfg.sessionIdleTimeout ≤ issuedAt + i.idleTimeout
        omega
    obtain ⟨clock, hchain, hfollows⟩ := hreached
    obtain ⟨hle, -⟩ := List.isChain_cons_cons.mp hchain
    obtain ⟨hmono, hclose, -⟩ := compare_step hidle hle hfollows
    exact ⟨hmono, hclose⟩
  · rintro hgaps earlier t later rfl ht
    have hhalf : i.idleTimeout / 2 = slackOf i := (tdiv_two_eq_ediv hidle.le).symm
    rw [hhalf] at hgaps
    have hkept : Kept (slackOf i) (slackOf i) issuedAt
        ⟨issuedAt + cfg.sessionIdleTimeout, issuedAt + cfg.sessionAbsoluteTimeout⟩ := by
      refine ⟨?_, ?_, Or.inl le_rfl⟩
      · show min (issuedAt + slackOf i) (issuedAt + cfg.sessionAbsoluteTimeout) ≤
          issuedAt + cfg.sessionIdleTimeout
        omega
      · show issuedAt + cfg.sessionIdleTimeout ≤ issuedAt + cfg.sessionAbsoluteTimeout
        omega
    exact accepted_of_gaps hidle hholds rfl hkept earlier t later hgaps ht

/-- A database with the user `alice`, whose id is 1. -/
def aliceStore : Store where
  users := ((Users.empty.createUser ⟨str "alice", [], adminRole⟩).map Prod.fst).getD Users.empty
  sessions := KeyedTable.empty

def sampleToken : Token := ⟨List.replicate 32 7, rfl⟩

theorem lazy_follows_eager_defaults :
    ∃ store cookie,
      issueSession .truncating Config.defaults.auth aliceStore 1 false sampleToken none 0 =
        some (store, cookie) ∧
      (request ⟨168 * hour, true⟩ (hexEncode sampleToken)
        (finalState (request ⟨168 * hour, true⟩ (hexEncode sampleToken)) store [84 * hour])
        (168 * hour)).2 = true := by
  obtain ⟨⟨store, cookie⟩, hissue⟩ := Option.isSome_iff_exists.mp
    (show (issueSession .truncating Config.defaults.auth aliceStore 1 false sampleToken none 0).isSome =
      true by decide +kernel)
  refine ⟨store, cookie, hissue, ?_⟩
  exact (lazy_follows_eager .truncating Config.defaults.auth ⟨168 * hour, true⟩ aliceStore store 1 0
    sampleToken none cookie [84 * hour, 168 * hour] (by decide) rfl (by decide) hissue (by decide)).2
    (by decide) [84 * hour] (168 * hour) [] rfl (by decide)

/-! ## Remember-me sessions -/

/-- The interceptor of `cmd/serve`: its idle timeout is that of standard sessions. -/
def servedInterceptor (cfg : Config) : Interceptor := newInterceptor cfg.auth.sessionIdleTimeout true

/-- Over every run on every session issued with `remember_me`: an accepted request leaves at least half of
the remember-me idle timeout, up to the absolute deadline; and requests at most that far apart are all
accepted up to it. -/
def RememberMeKept (cfg : Config) : Prop :=
  ∀ conversion before store userID issuedAt token reqHeader cookie times,
    issueSession conversion (newServiceConfig cfg.auth) before userID true token reqHeader issuedAt =
      some (store, cookie) →
    (issuedAt :: times).IsChain (· ≤ ·) →
    (∀ earlier t later, times = earlier ++ t :: later →
      ∀ next, next = request (servedInterceptor cfg) (hexEncode token)
          (finalState (request (servedInterceptor cfg) (hexEncode token)) store earlier) t →
        next.2 = true → ∃ stored, deadline? next.1 (hexEncode token) = some stored ∧
          min (t + cfg.auth.rememberMeIdleTimeout / 2) (issuedAt + cfg.auth.rememberMeAbsoluteTimeout) ≤
            stored) ∧
    ((issuedAt :: times).IsChain
        (fun last next => last ≤ next ∧ next ≤ last + cfg.auth.rememberMeIdleTimeout / 2) →
      ∀ earlier t later, times = earlier ++ t :: later →
        t ≤ issuedAt + cfg.auth.rememberMeAbsoluteTimeout →
        (request (servedInterceptor cfg) (hexEncode token)
          (finalState (request (servedInterceptor cfg) (hexEncode token)) store earlier) t).2 = true)

theorem servedInterceptor_idleTimeout {cfg : Config} (hvalid : cfg.auth.Valid) :
    (servedInterceptor cfg).idleTimeout = cfg.auth.sessionIdleTimeout := by
  have hpos := hvalid.idle_pos
  simp [servedInterceptor, newInterceptor, hpos]

/-- The lease of a remember-me session. -/
theorem holds_rememberMe {cfg : Config} (hvalid : cfg.auth.Valid) {conversion : SecondsConversion}
    {before : Store} {userID issuedAt : Int} {reqHeader : Header} {cookie : SetCookie}
    (hissue : issueSession conversion (newServiceConfig cfg.auth) before userID true token reqHeader
      issuedAt = some (store, cookie)) :
    Holds store (hexEncode token)
      ⟨issuedAt + cfg.auth.rememberMeIdleTimeout, issuedAt + cfg.auth.rememberMeAbsoluteTimeout⟩ := by
  have hholds := holds_of_issueSession hissue
  rw [tierIdle_newServiceConfig hvalid, tierAbsolute_newServiceConfig hvalid] at hholds
  exact hholds

/-- The law holds when half of the standard idle timeout is long enough, or when the session reaches up to
its absolute deadline from the start. -/
theorem rememberMeKept_of_cond {cfg : Config} (hvalid : cfg.auth.Valid)
    (hcond : cfg.auth.rememberMeIdleTimeout / 2 ≤ cfg.auth.sessionIdleTimeout / 2 ∨
      cfg.auth.rememberMeIdleTimeout = cfg.auth.rememberMeAbsoluteTimeout) :
    RememberMeKept cfg := by
  intro conversion before store userID issuedAt token reqHeader cookie times hissue hordered
  have hholds := holds_rememberMe hvalid hissue
  have hservedIdle := servedInterceptor_idleTimeout hvalid
  have hidle : 0 < (servedInterceptor cfg).idleTimeout := hservedIdle ▸ hvalid.idle_pos
  have hslack : slackOf (servedInterceptor cfg) = cfg.auth.sessionIdleTimeout / 2 := by
    rw [slackOf, tdiv_two_eq_ediv hidle.le, hservedIdle]
  have hpos := hvalid.rememberMe_idle_pos
  have hle := hvalid.rememberMe_idle_le_absolute
  have hkept : Kept (cfg.auth.rememberMeIdleTimeout / 2) (slackOf (servedInterceptor cfg)) issuedAt
      ⟨issuedAt + cfg.auth.rememberMeIdleTimeout, issuedAt + cfg.auth.rememberMeAbsoluteTimeout⟩ := by
    rw [hslack]
    refine ⟨?_, ?_, ?_⟩
    · show min (issuedAt + cfg.auth.rememberMeIdleTimeout / 2) _ ≤
        issuedAt + cfg.auth.rememberMeIdleTimeout
      omega
    · show issuedAt + cfg.auth.rememberMeIdleTimeout ≤ issuedAt + cfg.auth.rememberMeAbsoluteTimeout
      omega
    -- either the slack covers half of the timeout, or there is nothing left to slide
    · exact hcond.imp_right fun hequal => congrArg (issuedAt + ·) hequal
  constructor
  · rintro earlier t later - next rfl haccepted
    exact left_of_run hidle (Or.inr ⟨_, hholds, rfl, hkept⟩) earlier t haccepted
  · rintro hgaps earlier t later rfl ht
    exact accepted_of_gaps hidle hholds rfl hkept earlier t later hgaps ht

/-- Otherwise the request that comes half a standard idle timeout before the first deadline is accepted
and leaves no more than that. -/
theorem not_rememberMeKept_of_not_cond {cfg : Config} (hvalid : cfg.auth.Valid)
    (hhalf : cfg.auth.sessionIdleTimeout / 2 < cfg.auth.rememberMeIdleTimeout / 2)
    (hne : cfg.auth.rememberMeIdleTimeout ≠ cfg.auth.rememberMeAbsoluteTimeout) :
    ¬ RememberMeKept cfg := by
  intro hkept
  obtain ⟨⟨store, cookie⟩, hissue⟩ : ∃ result, issueSession .truncating (newServiceConfig cfg.auth)
      aliceStore 1 true sampleToken none 0 = some result := ⟨_, rfl⟩
  have hholds := holds_rememberMe hvalid hissue
  have hservedIdle := servedInterceptor_idleTimeout hvalid
  have hidlePos := hvalid.idle_pos
  have hpos := hvalid.rememberMe_idle_pos
  have hle := hvalid.rememberMe_idle_le_absolute
  have hslack : Int.tdiv (servedInterceptor cfg).idleTimeout 2 = cfg.auth.sessionIdleTimeout / 2 := by
    rw [hservedIdle, tdiv_two_eq_ediv hidlePos.le]
  set t : Int := cfg.auth.rememberMeIdleTimeout - cfg.auth.sessionIdleTimeout / 2 with ht
  have hlive : Lease.Live (⟨0 + cfg.auth.rememberMeIdleTimeout,
      0 + cfg.auth.rememberMeAbsoluteTimeout⟩ : Lease Int) t := by
    constructor
    · show t ≤ 0 + cfg.auth.rememberMeAbsoluteTimeout
      omega
    · show t ≤ 0 + cfg.auth.rememberMeIdleTimeout
      omega
  obtain ⟨haccepted, hnext⟩ := request_of_live (i := servedInterceptor cfg) hholds hlive
  -- the request is exactly at the threshold, so the deadline is not renewed
  rw [hslack, Lease.renew_of_le (show t ≤ _ - cfg.auth.sessionIdleTimeout / 2 by simp [ht])] at hnext
  have hordered : ([0, t] : List Int).IsChain (· ≤ ·) := by
    simp only [List.isChain_cons_cons, List.isChain_singleton, and_true]
    omega
  obtain ⟨stored, hstored, hleft⟩ := (hkept .truncating aliceStore store 1 0 sampleToken none cookie [t]
    hissue hordered).1 [] t [] rfl _ rfl haccepted
  have hsame : some stored = some (0 + cfg.auth.rememberMeIdleTimeout) :=
    hstored.symm.trans hnext.deadline
  have hdeadline : stored = 0 + cfg.auth.rememberMeIdleTimeout := Option.some.inj hsame
  omega

/-- For an accepted configuration the law of remember-me sessions holds exactly when half of the
remember-me idle timeout does not exceed half of the standard one, or when the two timeouts of the
remember-me tier are equal. -/
theorem rememberMeKept_iff (cfg served : Config) (haccepted : cfg.validate = .ok served) :
    RememberMeKept served ↔
      served.auth.rememberMeIdleTimeout / 2 ≤ served.auth.sessionIdleTimeout / 2 ∨
        served.auth.rememberMeIdleTimeout = served.auth.rememberMeAbsoluteTimeout := by
  obtain ⟨hsame, hvalidCfg⟩ := Config.validate_auth haccepted
  have hvalid : served.auth.Valid := hsame ▸ hvalidCfg
  constructor
  · intro hkept
    by_contra hcond
    rw [not_or, not_le] at hcond
    exact not_rememberMeKept_of_not_cond hvalid hcond.1 hcond.2 hkept
  · exact rememberMeKept_of_cond hvalid

theorem rememberMeKept_iff_defaults :
    Config.defaults.validate = .ok Config.defaults ∧
      (RememberMeKept Config.defaults ↔
        (720 * hour) / 2 ≤ (168 * hour) / 2 ∨ 720 * hour = 2160 * hour) :=
  ⟨Config.validate_defaults, rememberMeKept_iff Config.defaults Config.defaults Config.validate_defaults⟩

/-- With the default configuration a remember-me session used every fifteen days at most is lost: the
request after 640 hours slides the deadline to 808 hours only, and the one 360 hours later is refused. -/
theorem rememberMe_lost_defaults :
    (issueSession .truncating (newServiceConfig Config.defaults.auth) aliceStore 1 true sampleToken none
        0).map (fun result => outputs (request (servedInterceptor Config.defaults) (hexEncode sampleToken))
          result.1 [360 * hour, 640 * hour, 1000 * hour]) = some [true, true, false] ∧
      (issueSession .truncating (newServiceConfig Config.defaults.auth) aliceStore 1 true sampleToken none
        0).bind (fun result => deadline? (finalState
          (request (servedInterceptor Config.defaults) (hexEncode sampleToken)) result.1
            [360 * hour, 640 * hour]) (hexEncode sampleToken)) = some (808 * hour) ∧
      ¬ RememberMeKept Config.defaults := by
  refine ⟨by decide +kernel, by decide +kernel, ?_⟩
  exact not_rememberMeKept_of_not_cond (Config.validate_auth Config.validate_defaults).2 (by decide)
    (by decide)

end SlidingSession
end Auth
end Dmanager
