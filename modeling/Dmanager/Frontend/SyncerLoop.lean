import Dmanager.Lib.TransitionSystem

/-!
# `startSyncer` and `stopSyncer`

The loop of `syncer.ts` goes through three phases: an idle callback is pending, `syncPendingLogs` runs, a timer is
pending that leads back to the first.  All that `startSyncer` and `stopSyncer` know of it is `syncTimeoutId`, which
is unset during the first round and keeps the id of the last timer, fired or not, afterwards.

So a second start during the first round begins a second loop, and a stop takes effect only while the timer is
pending: at any other moment it forgets the id and the loop goes on.

* `Controlled` — at most one loop is alive, and none that could run after a stop.
* `CallFits` — a start comes while the id is set or no loop is alive, a stop while every loop alive waits for the
  timer that the id names.
* `syncer_controlled` — if every call fits, every state of the run is controlled.
* `callFits_of_controlled` — and a call that does not fit lets the pending callbacks end in a state that is not.
* `startSyncer_twice`, `stopSyncer_during_sync` — one run for each of the two.
-/

namespace Dmanager
namespace Frontend

open Lib

/-- Where a loop is. -/
inductive LoopPhase where
  | idleCallback
  | syncing (entered : Bool)
  | timer (id : Nat)
  deriving DecidableEq, Repr

/-- The variables of the module, the next id of a timer, and the loops that are alive; `stopped` is only remembered:
whether `stopSyncer` has been called since the last `startSyncer`. -/
structure Syncer where
  isSyncing : Bool
  syncTimeoutId : Option Nat
  nextId : Nat
  loops : List LoopPhase
  stopped : Bool
  deriving DecidableEq, Repr

/-- The module has been loaded. -/
def Syncer.start : Syncer := ⟨false, none, 1, [], false⟩

namespace Syncer

/-- `startSyncer`. -/
def startSyncer (s : Syncer) : Syncer :=
  if s.syncTimeoutId.isSome then { s with stopped := false }
  else { s with loops := s.loops ++ [.idleCallback], stopped := false }

/-- `clearTimeout(id)`. -/
def clearTimeout (s : Syncer) (id : Nat) : List LoopPhase := s.loops.filter fun phase => phase ≠ .timer id

/-- `stopSyncer`. -/
def stopSyncer (s : Syncer) : Syncer :=
  match s.syncTimeoutId with
  | some id => { s with loops := s.clearTimeout id, syncTimeoutId := none, stopped := true }
  | none => { s with stopped := true }

end Syncer

/-- A call, or the callback of the `i`-th loop that is alive: its idle callback, the end of its
`syncPendingLogs`, its timer. -/
inductive SyncerLabel where
  | startSyncer
  | stopSyncer
  | idle (i : Nat)
  | completed (i : Nat)
  | fired (i : Nat)
  deriving DecidableEq, Repr

/-- One step.  A `syncPendingLogs` that finds another one running returns at once. -/
def Syncer.step (s : Syncer) : SyncerLabel → Option Syncer
  | .startSyncer => some s.startSyncer
  | .stopSyncer => some s.stopSyncer
  | .idle i =>
    match s.loops[i]? with
    | some .idleCallback => some { s with loops := s.loops.set i (.syncing (!s.isSyncing)), isSyncing := true }
    | _ => none
  | .completed i =>
    match s.loops[i]? with
    | some (.syncing entered) =>
      some { s with
        isSyncing := s.isSyncing && !entered
        loops := s.loops.set i (.timer s.nextId)
        syncTimeoutId := some s.nextId
        nextId := s.nextId + 1 }
    | _ => none
  | .fired i =>
    match s.loops[i]? with
    | some (.timer _) => some { s with loops := s.loops.set i .idleCallback }
    | _ => none

/-- At most one loop is alive, and after a stop no idle callback can begin another `syncPendingLogs`. -/
def Controlled (s : Syncer) : Prop :=
  s.loops.length ≤ 1 ∧ (s.stopped = true → ∀ i, s.step (.idle i) = none)

/-- The loop waits for the timer that `syncTimeoutId` names. -/
def Waits (s : Syncer) (phase : LoopPhase) : Prop := ∃ id, phase = .timer id ∧ s.syncTimeoutId = some id

/-- The moments at which a call does what its name says. -/
def CallFits (s : Syncer) : SyncerLabel → Prop
  | .startSyncer => s.syncTimeoutId = none → s.loops = []
  | .stopSyncer => ∀ phase ∈ s.loops, Waits s phase
  | _ => True

/-- No loop, and no id; or one loop, not stopped, whose timer, if it waits for one, has the id. -/
def Single (s : Syncer) : Prop :=
  (s.loops = [] ∧ s.syncTimeoutId = none) ∨
    ∃ phase, s.loops = [phase] ∧ s.stopped = false ∧ ∀ id, phase = .timer id → s.syncTimeoutId = some id

theorem single_start : Single Syncer.start := Or.inl ⟨rfl, rfl⟩

/-- A callback belongs to a loop that is alive. -/
theorem callback_cases {s next : Syncer} {label : SyncerLabel} (hstep : s.step label = some next) :
    label = .startSyncer ∨ label = .stopSyncer ∨
      ∃ i old new, s.loops[i]? = some old ∧ next.loops = s.loops.set i new ∧ next.stopped = s.stopped ∧
        ((∀ id, new ≠ .timer id) ∨ ∃ id, new = .timer id ∧ next.syncTimeoutId = some id) := by
  cases label with
  | startSyncer => exact Or.inl rfl
  | stopSyncer => exact Or.inr (Or.inl rfl)
  | idle i =>
      simp only [Syncer.step] at hstep
      split at hstep
      · rename_i hloop
        cases hstep
        exact Or.inr (Or.inr ⟨i, _, _, hloop, rfl, rfl, Or.inl nofun⟩)
      · cases hstep
  | completed i =>
      simp only [Syncer.step] at hstep
      split at hstep
      · rename_i entered hloop
        cases hstep
        exact Or.inr (Or.inr ⟨i, _, _, hloop, rfl, rfl, Or.inr ⟨_, rfl, rfl⟩⟩)
      · cases hstep
  | fired i =>
      simp only [Syncer.step] at hstep
      split at hstep
      · rename_i id hloop
        cases hstep
        exact Or.inr (Or.inr ⟨i, _, _, hloop, rfl, rfl, Or.inl nofun⟩)
      · cases hstep

/-- A stop that fits ends the loop. -/
theorem Single.stopSyncer {s : Syncer} (hs : Single s) (hfits : ∀ phase ∈ s.loops, Waits s phase) :
    s.stopSyncer.loops = [] ∧ s.stopSyncer.syncTimeoutId = none := by
  rcases hs with ⟨hnone, hid⟩ | ⟨phase, hloops, -, -⟩
  · simp [Syncer.stopSyncer, hid, hnone]
  · obtain ⟨id, rfl, hid⟩ := hfits phase (by rw [hloops]; exact List.mem_cons_self)
    simp [Syncer.stopSyncer, hid, Syncer.clearTimeout, hloops]

theorem single_step (s : Syncer) (label : SyncerLabel) (next : Syncer) (hs : Single s) (hfits : CallFits s label)
    (hstep : s.step label = some next) : Single next := by
  rcases callback_cases hstep with rfl | rfl | ⟨i, old, new, hold, hnext, hstopped, htimer⟩
  · cases hstep
    unfold Syncer.startSyncer
    split
    · rename_i hset
      rcases hs with ⟨-, hid⟩ | ⟨phase, hloops, -, hwaits⟩
      · rw [hid] at hset
        cases hset
      · exact Or.inr ⟨phase, hloops, rfl, hwaits⟩
    · rename_i hunset
      have hnone := hfits (Option.not_isSome_iff_eq_none.mp hunset)
      exact Or.inr ⟨.idleCallback, by simp [hnone], rfl, nofun⟩
  · cases hstep
    exact Or.inl (hs.stopSyncer hfits)
  · -- the only loop goes on to its next phase
    rcases hs with ⟨hnone, -⟩ | ⟨phase, hloops, hrunning, -⟩
    · simp [hnone] at hold
    · have hi : i = 0 := by
        have hlt := (List.getElem?_eq_some_iff.mp hold).1
        rw [hloops, List.length_singleton] at hlt
        omega
      subst hi
      rw [hloops, List.set_cons_zero] at hnext
      refine Or.inr ⟨new, hnext, hstopped.trans hrunning, fun id hnew => ?_⟩
      rcases htimer with hother | ⟨id', hnew', hid⟩
      · exact absurd hnew (hother id)
      · rw [hnew, LoopPhase.timer.injEq] at hnew'
        rw [hnew', hid]

theorem Single.controlled {s : Syncer} (hs : Single s) : Controlled s := by
  rcases hs with ⟨hnone, -⟩ | ⟨phase, hloops, hrunning, -⟩
  · simp [Controlled, hnone, Syncer.step]
  · simp [Controlled, hloops, hrunning]

/-- In every run whose calls all fit, at most one loop is alive in every state, and after a stop no
`syncPendingLogs` begins until the next start. -/
theorem syncer_controlled {labels : List SyncerLabel} {s : Syncer}
    (hfits : Guarded Syncer.step CallFits Syncer.start labels)
    (hrun : exec Syncer.step Syncer.start labels = some s) : Controlled s :=
  (exec_invariant_of_guarded Single single_step hfits hrun single_start).controlled

/-- A page that is loaded, stopped while the timer is pending, and started again. -/
def fittingRun : List SyncerLabel :=
  [.startSyncer, .idle 0, .completed 0, .startSyncer, .fired 0, .idle 0, .completed 0, .stopSyncer, .startSyncer]

instance (s : Syncer) (phase : LoopPhase) : Decidable (Waits s phase) :=
  match phase with
  | .timer id => decidable_of_iff (s.syncTimeoutId = some id) (by simp [Waits])
  | .idleCallback | .syncing _ => isFalse (by simp [Waits])

instance decidableCallFits (s : Syncer) : (label : SyncerLabel) → Decidable (CallFits s label)
  | .startSyncer => inferInstanceAs (Decidable (s.syncTimeoutId = none → s.loops = []))
  | .stopSyncer => inferInstanceAs (Decidable (∀ phase ∈ s.loops, Waits s phase))
  | .idle _ | .completed _ | .fired _ => isTrue trivial

theorem syncer_controlled_fittingRun :
    ∃ s, exec Syncer.step Syncer.start fittingRun = some s ∧ s.loops = [.idleCallback] ∧ Controlled s := by
  have hexec : (exec Syncer.step Syncer.start fittingRun).map Syncer.loops = some [.idleCallback] := by decide
  obtain ⟨s, hrun, hloops⟩ := Option.map_eq_some_iff.mp hexec
  exact ⟨s, hrun, hloops, syncer_controlled (by decide) hrun⟩

/-! ## The calls that do not fit -/

/-- The steps that nobody calls for. -/
def Callback : SyncerLabel → Prop
  | .startSyncer | .stopSyncer => False
  | .idle _ | .completed _ | .fired _ => True

/-- A loop that is alive comes to its idle callback again, stopped or not. -/
theorem reaches_idleCallback {s : Syncer} {i : Nat} {phase : LoopPhase} (hphase : s.loops[i]? = some phase) :
    ∃ final, Reaches Syncer.step Callback s final ∧ final.loops[i]? = some .idleCallback ∧
      final.stopped = s.stopped := by
  have hlt : i < s.loops.length := (List.getElem?_eq_some_iff.mp hphase).1
  have htimer : ∀ {t : Syncer} {id : Nat}, t.loops[i]? = some (.timer id) → t.stopped = s.stopped →
      ∃ final, Reaches Syncer.step Callback t final ∧ final.loops[i]? = some .idleCallback ∧
        final.stopped = s.stopped := by
    intro t id ht hsame
    have hi : i < t.loops.length := (List.getElem?_eq_some_iff.mp ht).1
    have hfired : t.step (.fired i) = some { t with loops := t.loops.set i .idleCallback } := by
      simp [Syncer.step, ht]
    exact ⟨_, Reaches.head hfired trivial .refl, by simp [hi], hsame⟩
  cases phase with
  | idleCallback => exact ⟨s, .refl, hphase, rfl⟩
  | timer id => exact htimer hphase rfl
  | syncing entered =>
      let t : Syncer :=
        { s with
          isSyncing := s.isSyncing && !entered
          loops := s.loops.set i (.timer s.nextId)
          syncTimeoutId := some s.nextId
          nextId := s.nextId + 1 }
      have hcompleted : s.step (.completed i) = some t := by simp [Syncer.step, hphase, t]
      obtain ⟨final, hreaches, hidle, hsame⟩ := @htimer t s.nextId (by simp [t, hlt]) rfl
      exact ⟨final, Reaches.head hcompleted trivial hreaches, hidle, hsame⟩

/-- A loop that does not wait for the timer with the id survives a stop. -/
theorem mem_stopSyncer {s : Syncer} {phase : LoopPhase} (hphase : phase ∈ s.loops) (hnot : ¬ Waits s phase) :
    phase ∈ s.stopSyncer.loops ∧ s.stopSyncer.stopped = true := by
  unfold Syncer.stopSyncer
  split
  · rename_i id hid
    refine ⟨List.mem_filter.mpr ⟨hphase, ?_⟩, rfl⟩
    simp only [ne_eq, decide_not, Bool.not_eq_true', decide_eq_false_iff_not]
    rintro rfl
    exact hnot ⟨id, rfl, hid⟩
  · exact ⟨hphase, rfl⟩

/-- A call fits if no callbacks that may follow lead to a state that is not controlled. -/
theorem callFits_of_controlled {s next : Syncer} {label : SyncerLabel} (hstep : s.step label = some next)
    (hcontrolled : ∀ final, Reaches Syncer.step Callback next final → Controlled final) : CallFits s label := by
  cases label with
  | startSyncer =>
      -- a loop that was alive and the new one are two already
      intro hunset
      cases hstep
      have hlength := (hcontrolled _ .refl).1
      simp only [Syncer.startSyncer, hunset, Option.isSome_none, Bool.false_eq_true, if_false, List.length_append,
        List.length_singleton] at hlength
      exact List.length_eq_zero_iff.mp (by omega)
  | stopSyncer =>
      intro phase hphase
      cases hstep
      by_contra hnot
      -- the loop that survives comes to its idle callback, where it begins another round
      obtain ⟨hmem, hstopped⟩ := mem_stopSyncer hphase hnot
      obtain ⟨i, hi⟩ := List.mem_iff_getElem?.mp hmem
      obtain ⟨final, hreaches, hidle, hsame⟩ := reaches_idleCallback hi
      have hnone := (hcontrolled final hreaches).2 (hsame.trans hstopped) i
      simp [Syncer.step, hidle] at hnone
  | idle i => trivial
  | completed i => trivial
  | fired i => trivial

/-- Two starts in a row: the second does not see the first, whose timer does not exist yet. -/
theorem startSyncer_twice :
    ∃ s, exec Syncer.step Syncer.start [.startSyncer, .startSyncer] = some s ∧
      s.loops = [.idleCallback, .idleCallback] ∧ ¬ Controlled s := by
  refine ⟨⟨false, none, 1, [.idleCallback, .idleCallback], false⟩, by decide, rfl, ?_⟩
  rintro ⟨hlength, -⟩
  exact absurd hlength (by decide)

/-- A stop while the first round is syncing: the loop goes on, and another `syncPendingLogs` begins. -/
theorem stopSyncer_during_sync :
    ∃ s next, exec Syncer.step Syncer.start [.startSyncer, .idle 0, .stopSyncer, .completed 0, .fired 0] = some s ∧
      s.stopped = true ∧ s.step (.idle 0) = some next ∧ ¬ Controlled s := by
  refine ⟨⟨false, some 1, 2, [.idleCallback], true⟩, ⟨true, some 1, 2, [.syncing true], true⟩, by decide, rfl, rfl, ?_⟩
  rintro ⟨-, hnone⟩
  have hbegins := hnone rfl 0
  cases hbegins

end Frontend
end Dmanager
