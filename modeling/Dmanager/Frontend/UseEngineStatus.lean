import Dmanager.Go.Strings
import Dmanager.Lib.TransitionSystem

/-!
# `useEngineStatus`

The hook behind the engine pill asks `CheckEngine` on a timer, on focus and when the page becomes visible.  Checks
overlap, and their answers come back in any order.  A check takes the next number of `inFlight` as its ticket, and
what it comes back with is dropped unless the ticket is still the current one; unmounting takes a number as well.

The model numbers the checks by their starts, apart from the tickets, and keeps a log of the state updates: `number`
is the check an update comes from, `newest` the check that was started last at that moment.

* `Ticketed` — what the tickets, the numbers and the log have to do with each other.
* `engineStatus_newest` — in every run, every update comes from the check that was started last; so they are in the
  order of the starts, the state is the result of the last check once none is in flight, and after unmounting
  nothing is applied.
-/

namespace Dmanager
namespace Frontend

open Go Lib

inductive EngineStatus where
  | checking
  | online
  | offline
  deriving DecidableEq, Repr

structure EngineStatusState where
  status : EngineStatus
  detail : GoString
  deriving DecidableEq, Repr

/-- `CheckEngineResponse`. -/
structure CheckEngineResponse where
  connected : Bool
  apiVersion : GoString
  error : GoString
  deriving DecidableEq, Repr

/-- How a call of `checkEngine` ends: a response, or a failure of the transport. -/
abbrev CheckResult := Except Unit CheckEngineResponse

/-- The state that a check sets. -/
def shownBy : CheckResult → EngineStatusState
  | .ok resp =>
    if resp.connected then
      ⟨.online, if resp.apiVersion ≠ [] then str "Docker Engine API v" ++ resp.apiVersion else str "Docker Engine"⟩
    else ⟨.offline, if resp.error ≠ [] then resp.error else str "Docker Engine unreachable"⟩
  | .error _ => ⟨.offline, str "Backend unreachable"⟩

/-- The pill is online exactly when the daemon was reached, with its version or its error as far as it gives one. -/
structure EngineStatusState.Shows (result : CheckResult) (state : EngineStatusState) : Prop where
  online : state.status = .online ↔ ∃ resp, result = .ok resp ∧ resp.connected = true
  offline : state.status = .offline ↔ ∀ resp, result = .ok resp → resp.connected = false
  version : ∀ resp, result = .ok resp → resp.connected = true →
    state.detail = str "Docker Engine API v" ++ resp.apiVersion ∨
      resp.apiVersion = [] ∧ state.detail = str "Docker Engine"
  reason : ∀ resp, result = .ok resp → resp.connected = false →
    state.detail = resp.error ∨ resp.error = [] ∧ state.detail = str "Docker Engine unreachable"
  unanswered : ∀ failure, result = .error failure → state.detail = str "Backend unreachable"

theorem shows_shownBy (result : CheckResult) : (shownBy result).Shows result := by
  cases result with
  | error failure => constructor <;> simp [shownBy]
  | ok resp =>
      obtain ⟨connected, apiVersion, error⟩ := resp
      cases connected with
      | true =>
          by_cases hversion : apiVersion = []
          · constructor <;> simp [shownBy, hversion]
          · constructor <;> simp [shownBy, hversion]
      | false =>
          by_cases herror : error = []
          · constructor <;> simp [shownBy, herror]
          · constructor <;> simp [shownBy, herror]

/-- A check whose call has not come back: the how-manieth it is, and its ticket. -/
structure Check where
  number : Nat
  ticket : Nat
  deriving DecidableEq, Repr

/-- A call of `setState`: by which check, which one was started last then, and the result. -/
structure StateUpdate where
  number : Nat
  newest : Nat
  result : CheckResult
  deriving DecidableEq

inductive Mounting where
  | before
  | mounted
  | unmounted
  deriving DecidableEq, Repr

/-- The state and the refs of the hook, the visibility of the page, the checks in flight, and the log. -/
structure StatusHook where
  state : EngineStatusState
  inFlight : Nat
  timerRef : Bool
  mounting : Mounting
  hidden : Bool
  pending : List Check
  started : Nat
  updates : List StateUpdate
  deriving DecidableEq

namespace StatusHook

/-- Before the effect has run. -/
def start (hidden : Bool) : StatusHook := ⟨⟨.checking, []⟩, 0, false, .before, hidden, [], 0, []⟩

/-- `check`, up to its await. -/
def check (s : StatusHook) : StatusHook :=
  { s with
    inFlight := s.inFlight + 1
    started := s.started + 1
    pending := s.pending ++ [⟨s.started + 1, s.inFlight + 1⟩] }

/-- `check`, from its await on, for either way in which the call comes back. -/
def settle (s : StatusHook) (c : Check) (result : CheckResult) : StatusHook :=
  if c.ticket ≠ s.inFlight then { s with pending := s.pending.erase c }
  else
    { s with
      pending := s.pending.erase c
      state := shownBy result
      updates := ⟨c.number, s.started, result⟩ :: s.updates }

/-- `onVisibility`. -/
def onVisibility (s : StatusHook) : StatusHook :=
  if s.hidden then { s with timerRef := false } else { s.check with timerRef := true }

end StatusHook

/-- The events of the hook; `settled` is the end of a check in flight. -/
inductive StatusEvent where
  | mount
  | poll
  | visibility (hidden : Bool)
  | focus
  | settled (c : Check) (result : CheckResult)
  | unmount
  deriving DecidableEq

/-- One event.  The timer and the listeners exist while the hook is mounted. -/
def StatusHook.step (s : StatusHook) : StatusEvent → Option StatusHook
  | .mount =>
    match s.mounting with
    | .before => some { s.check with timerRef := true, mounting := .mounted }
    | _ => none
  | .poll => if s.timerRef then some (if s.hidden then s else s.check) else none
  | .visibility hidden =>
    match s.mounting with
    | .mounted => some (StatusHook.onVisibility { s with hidden := hidden })
    | _ => some { s with hidden := hidden }
  | .focus =>
    match s.mounting with
    | .mounted => some s.check
    | _ => some s
  | .settled c result => if c ∈ s.pending then some (s.settle c result) else none
  | .unmount =>
    match s.mounting with
    | .mounted => some { s with timerRef := false, mounting := .unmounted, inFlight := s.inFlight + 1 }
    | _ => none

/-- The current ticket is held by the check that was started last, if by any; until it comes back, no update comes
from it, and afterwards the state is its result. -/
structure Ticketed (s : StatusHook) : Prop where
  nodup : s.pending.Nodup
  ticket_le : ∀ c ∈ s.pending, c.ticket ≤ s.inFlight
  newest : ∀ c ∈ s.pending, c.ticket = s.inFlight →
    s.mounting = .mounted ∧ c.number = s.started ∧ ∀ u ∈ s.updates, u.number < s.started
  logged : ∀ u ∈ s.updates, u.number = u.newest ∧ u.number ≤ s.started
  ordered : s.updates.Pairwise fun later earlier => earlier.number < later.number
  current : s.mounting = .mounted → (∃ c ∈ s.pending, c.ticket = s.inFlight) ∨
    ∃ u rest, s.updates = u :: rest ∧ u.number = s.started ∧ s.state = shownBy u.result
  timer : s.timerRef = true → s.mounting = .mounted

theorem ticketed_start (hidden : Bool) : Ticketed (StatusHook.start hidden) where
  nodup := List.nodup_nil
  ticket_le := nofun
  newest := nofun
  logged := nofun
  ordered := List.Pairwise.nil
  current := nofun
  timer := nofun

/-- A check takes the current ticket away from all others. -/
theorem Ticketed.check {s next : StatusHook} (hs : Ticketed s) (hmounted : next.mounting = .mounted)
    (hpending : next.pending = s.check.pending) (hinFlight : next.inFlight = s.check.inFlight)
    (hstarted : next.started = s.check.started) (hupdates : next.updates = s.updates) : Ticketed next := by
  have hpending : next.pending = s.pending ++ [⟨s.started + 1, s.inFlight + 1⟩] := hpending
  have hinFlight : next.inFlight = s.inFlight + 1 := hinFlight
  have hstarted : next.started = s.started + 1 := hstarted
  refine ⟨?_, ?_, ?_, ?_, hupdates ▸ hs.ordered, fun _ => Or.inl ?_, fun _ => hmounted⟩
  · rw [hpending, List.nodup_append]
    refine ⟨hs.nodup, List.nodup_singleton _, fun c hc d hd => ?_⟩
    rw [List.mem_singleton] at hd
    rintro rfl
    have hle := hs.ticket_le c hc
    rw [hd] at hle
    exact absurd hle (Nat.not_succ_le_self _)
  · intro c hc
    rw [hinFlight]
    rcases List.mem_append.mp (hpending ▸ hc) with hold | hnew
    · exact (hs.ticket_le c hold).trans (Nat.le_succ _)
    · rw [List.mem_singleton.mp hnew]
  · intro c hc hticket
    rcases List.mem_append.mp (hpending ▸ hc) with hold | hnew
    · -- an older check has an older ticket
      have hle := hs.ticket_le c hold
      omega
    · rw [List.mem_singleton.mp hnew, hstarted, hupdates]
      exact ⟨hmounted, rfl, fun u hu => Nat.lt_succ_of_le (hs.logged u hu).2⟩
  · intro u hu
    have hlogged := hs.logged u (hupdates ▸ hu)
    exact ⟨hlogged.1, by omega⟩
  · refine ⟨⟨s.started + 1, s.inFlight + 1⟩, ?_, hinFlight.symm⟩
    rw [hpending]
    exact List.mem_append_right _ List.mem_cons_self

/-- What a check comes back with counts only if it holds the current ticket. -/
theorem Ticketed.settle {s : StatusHook} (hs : Ticketed s) {c : Check} (hc : c ∈ s.pending) (result : CheckResult) :
    Ticketed (s.settle c result) := by
  have hmem : ∀ d ∈ s.pending.erase c, d ∈ s.pending := fun d hd => List.mem_of_mem_erase hd
  by_cases hticket : c.ticket = s.inFlight
  · obtain ⟨hmounted, hnumber, hlater⟩ := hs.newest c hc hticket
    have hsettle : s.settle c result =
        { s with
          pending := s.pending.erase c
          state := shownBy result
          updates := ⟨c.number, s.started, result⟩ :: s.updates } := by
      simp [StatusHook.settle, hticket]
    rw [hsettle]
    refine ⟨hs.nodup.erase c, fun d hd => hs.ticket_le d (hmem d hd), fun d hd hcurrent => ?_, ?_, ?_,
      fun _ => Or.inr ⟨_, _, rfl, hnumber, rfl⟩, hs.timer⟩
    · -- nobody else holds the ticket
      have hsame : d = c := by
        have hd' := (hs.newest d (hmem d hd) hcurrent).2.1
        have hc' : d.ticket = c.ticket := hcurrent.trans hticket.symm
        cases d
        cases c
        simp_all
      rw [hsame] at hd
      exact absurd hd hs.nodup.not_mem_erase
    · rintro u hu
      rcases List.mem_cons.mp hu with rfl | hold
      · exact ⟨hnumber, hnumber.le⟩
      · exact hs.logged u hold
    · refine List.pairwise_cons.mpr ⟨fun u hu => ?_, hs.ordered⟩
      rw [hnumber]
      exact hlater u hu
  · -- an overtaken check only leaves the flight
    have hsettle : s.settle c result = { s with pending := s.pending.erase c } := by
      simp [StatusHook.settle, hticket]
    rw [hsettle]
    refine ⟨hs.nodup.erase c, fun d hd => hs.ticket_le d (hmem d hd), fun d hd => hs.newest d (hmem d hd), hs.logged,
      hs.ordered, fun hmounted => ?_, hs.timer⟩
    rcases hs.current hmounted with ⟨d, hd, hcurrent⟩ | hshown
    · left
      refine ⟨d, ?_, hcurrent⟩
      have hne : d ≠ c := by
        rintro rfl
        exact hticket hcurrent
      exact (List.mem_erase_of_ne hne).mpr hd
    · exact Or.inr hshown

/-- After unmounting nobody holds the current ticket. -/
theorem Ticketed.unmount {s : StatusHook} (hs : Ticketed s) :
    Ticketed { s with timerRef := false, mounting := .unmounted, inFlight := s.inFlight + 1 } where
  nodup := hs.nodup
  ticket_le c hc := (hs.ticket_le c hc).trans (Nat.le_succ _)
  newest c hc hticket := by
    -- every check in flight holds a ticket from before
    have hle := hs.ticket_le c hc
    have heq : c.ticket = s.inFlight + 1 := hticket
    omega
  logged := hs.logged
  ordered := hs.ordered
  current := nofun
  timer := nofun

/-- Neither the timer nor the visibility of the page matters to the tickets. -/
theorem Ticketed.congr {s : StatusHook} (hs : Ticketed s) {timerRef hidden : Bool}
    (htimer : timerRef = true → s.mounting = .mounted) :
    Ticketed { s with timerRef := timerRef, hidden := hidden } :=
  ⟨hs.nodup, hs.ticket_le, hs.newest, hs.logged, hs.ordered, hs.current, htimer⟩

theorem ticketed_step (s : StatusHook) (event : StatusEvent) (next : StatusHook) (hs : Ticketed s)
    (hstep : s.step event = some next) : Ticketed next := by
  cases event with
  | mount =>
      simp only [StatusHook.step] at hstep
      split at hstep
      · cases hstep
        exact hs.check rfl rfl rfl rfl rfl
      · cases hstep
  | poll =>
      simp only [StatusHook.step, Option.ite_none_right_eq_some, Option.some.injEq] at hstep
      obtain ⟨htimer, rfl⟩ := hstep
      split
      · exact hs
      · exact hs.check (hs.timer htimer) rfl rfl rfl rfl
  | visibility hidden =>
      simp only [StatusHook.step] at hstep
      split at hstep
      · rename_i hmounted
        cases hstep
        unfold StatusHook.onVisibility
        split
        · refine hs.congr fun htimer => ?_
          cases htimer
        · exact hs.check hmounted rfl rfl rfl rfl
      · cases hstep
        exact hs.congr hs.timer
  | focus =>
      simp only [StatusHook.step] at hstep
      split at hstep
      · rename_i hmounted
        cases hstep
        exact hs.check hmounted rfl rfl rfl rfl
      · cases hstep
        exact hs
  | settled c result =>
      simp only [StatusHook.step, Option.ite_none_right_eq_some, Option.some.injEq] at hstep
      obtain ⟨hc, rfl⟩ := hstep
      exact hs.settle hc result
  | unmount =>
      simp only [StatusHook.step] at hstep
      split at hstep
      · cases hstep
        exact hs.unmount
      · cases hstep

/-- What was shown, and what had been applied, when the hook was unmounted. -/
structure Frozen (s next : StatusHook) : Prop where
  unmounted : next.mounting = .unmounted
  state_eq : next.state = s.state
  updates_eq : next.updates = s.updates

/-- Once the hook is unmounted, no event applies anything. -/
theorem frozen_step {s : StatusHook} {event : StatusEvent} {next : StatusHook} (hs : Ticketed s)
    (hunmounted : s.mounting = .unmounted) (hstep : s.step event = some next) : Frozen s next := by
  cases event with
  | mount => simp [StatusHook.step, hunmounted] at hstep
  | poll =>
      simp only [StatusHook.step, Option.ite_none_right_eq_some] at hstep
      have hmounted := hs.timer hstep.1
      rw [hunmounted] at hmounted
      cases hmounted
  | visibility hidden =>
      simp only [StatusHook.step, hunmounted, Option.some.injEq] at hstep
      subst hstep
      exact ⟨rfl, rfl, rfl⟩
  | focus =>
      simp only [StatusHook.step, hunmounted, Option.some.injEq] at hstep
      subst hstep
      exact ⟨hunmounted, rfl, rfl⟩
  | settled c result =>
      simp only [StatusHook.step, Option.ite_none_right_eq_some, Option.some.injEq] at hstep
      obtain ⟨hc, rfl⟩ := hstep
      have hother : c.ticket ≠ s.inFlight := by
        intro hticket
        have hmounted := (hs.newest c hc hticket).1
        rw [hunmounted] at hmounted
        cases hmounted
      simp only [StatusHook.settle, if_pos hother]
      exact ⟨hunmounted, rfl, rfl⟩
  | unmount => simp [StatusHook.step, hunmounted] at hstep

/-- In every run of the hook: an update comes from the check that was started last at that moment; the updates are
in the order in which their checks were started; while the hook is mounted and no check is in flight, the state is
the result of the last check that was started; and after unmounting nothing is applied. -/
theorem engineStatus_newest {hidden : Bool} {events : List StatusEvent} {s : StatusHook}
    (hrun : exec StatusHook.step (StatusHook.start hidden) events = some s) :
    (∀ u ∈ s.updates, u.number = u.newest) ∧
      (s.updates.Pairwise fun later earlier => earlier.number < later.number) ∧
      (s.mounting = .mounted → s.pending = [] →
        ∃ u rest, s.updates = u :: rest ∧ u.number = s.started ∧ s.state = shownBy u.result ∧
          s.state.Shows u.result) ∧
      (s.mounting = .unmounted → ∀ later final, exec StatusHook.step s later = some final →
        final.state = s.state ∧ final.updates = s.updates) := by
  have hs : Ticketed s := exec_invariant Ticketed ticketed_step hrun (ticketed_start hidden)
  refine ⟨fun u hu => (hs.logged u hu).1, hs.ordered, fun hmounted hnone => ?_, fun hunmounted later final hlater => ?_⟩
  · rcases hs.current hmounted with ⟨c, hc, -⟩ | hshown
    · rw [hnone] at hc
      cases hc
    · obtain ⟨u, rest, hupdates, hnumber, hstate⟩ := hshown
      exact ⟨u, rest, hupdates, hnumber, hstate, hstate ▸ shows_shownBy u.result⟩
  · have hfrozen : Ticketed final ∧ Frozen s final := by
      refine exec_invariant (fun next => Ticketed next ∧ Frozen s next) ?_ hlater ⟨hs, hunmounted, rfl, rfl⟩
      rintro mid event next ⟨hmid, hsame⟩ hstep
      have hnext := frozen_step hmid hsame.unmounted hstep
      exact ⟨ticketed_step mid event next hmid hstep, hnext.unmounted, hnext.state_eq.trans hsame.state_eq,
        hnext.updates_eq.trans hsame.updates_eq⟩
    exact ⟨hfrozen.2.state_eq, hfrozen.2.updates_eq⟩

/-- A slow first check, overtaken by one on focus; then the page goes away with a third one in flight. -/
def overtakenRun : List StatusEvent :=
  [.mount, .focus, .settled ⟨2, 2⟩ (.ok ⟨true, str "1.47", []⟩),
    .settled ⟨1, 1⟩ (.ok ⟨false, [], str "stale daemon down"⟩), .focus, .unmount, .settled ⟨3, 3⟩ (.error ())]

theorem exec_overtakenRun :
    (exec StatusHook.step (StatusHook.start false) overtakenRun).map (fun s => (s.mounting, s.state)) =
      some (.unmounted, ⟨.online, str "Docker Engine API v1.47"⟩) := by
  decide +kernel

theorem engineStatus_newest_overtakenRun :
    ∃ s, exec StatusHook.step (StatusHook.start false) overtakenRun = some s ∧
      s.state = ⟨.online, str "Docker Engine API v1.47"⟩ ∧ ∀ u ∈ s.updates, u.number = u.newest := by
  obtain ⟨s, hrun, hend⟩ := Option.map_eq_some_iff.mp exec_overtakenRun
  exact ⟨s, hrun, (Prod.mk.inj hend).2, (engineStatus_newest hrun).1⟩

end Frontend
end Dmanager
