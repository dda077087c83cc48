import Dmanager.Frontend.AdminSingleFlight

/-!
# The measurement of the volumes

A measurement is begun by its button and by `pruneVolumes`, which goes by what the hook showed when it was called.  That
the two do not meet is due to the button, which is disabled while a prune is in flight; `pruneVolumes` has no such guard,
and one that is called while a measurement is in flight does not measure again.

* `Measuring` — the gate of the measurements, and what the usage that is shown has to do with the volume prunes.
* `measurement_singleFlight` — in the runs that use the button, one measurement is in flight at a time.
* `volumeUsage_fresh` — in these runs the usage has been read after every volume prune that was called while nothing was
  being measured, unless the user has been told that a measurement has failed.
-/

namespace Dmanager
namespace Frontend

open Go Lib Server Admin

variable {σ η : Type}

/-- The measure button, which is disabled while something is measured or pruned. -/
def ByButton (s : AdminPage σ) : AdminEvent η → Prop
  | .act .measureVolumeUsage => s.hook.measuring = false ∧ s.hook.pruning = false
  | _ => True

instance (s : AdminPage σ) (event : AdminEvent η) : Decidable (ByButton s event) :=
  match event with
  | .act .measureVolumeUsage => inferInstanceAs (Decidable (_ ∧ _))
  | .act (.setKind _) => isTrue trivial
  | .act .refresh => isTrue trivial
  | .act (.deleteImage _) => isTrue trivial
  | .act (.deleteNetwork _) => isTrue trivial
  | .act (.pruneImages _) => isTrue trivial
  | .act .pruneBuildCache => isTrue trivial
  | .act (.pruneBuildCacheRecord _) => isTrue trivial
  | .act .pruneVolumes => isTrue trivial
  | .act .pruneNetworks => isTrue trivial
  | .serve _ => isTrue trivial
  | .landed _ => isTrue trivial
  | .lost _ _ => isTrue trivial
  | .unmount => isTrue trivial

/-- The prunes of volumes that were called while nothing was being measured. -/
def AdminPurpose.prunesVolumes : AdminPurpose → Bool
  | .mutation (.pruneVolumes _ measuring) => !measuring
  | _ => false

theorem prunesVolumes_iff {k : AdminPurpose} :
    k.prunesVolumes = true ↔ ∃ measured, k = .mutation (.pruneVolumes measured false) := by
  cases k with
  | resources kind => simp [AdminPurpose.prunesVolumes]
  | records => simp [AdminPurpose.prunesVolumes]
  | mutation m => cases m <;> simp [AdminPurpose.prunesVolumes]
  | measure => simp [AdminPurpose.prunesVolumes]

/-- Those of them that have come back. -/
def prunedVolumes (s : AdminPage σ) : List ℕ :=
  (s.succeeded.filter fun f => f.purpose.prunesVolumes).map Flight.number

/-- The user has been told that a measurement has failed. -/
def MeasurementFailed (s : AdminPage σ) : Prop :=
  ∃ message, Toast.error (str "Failed to measure volume usage: " ++ message) ∈ s.toasts

/-- The usage, and the measurement that fetches it. -/
def UsageSlice (s : AdminPage σ) : Prop :=
  Remote.Slice AdminPurpose.handler s.remote (prunedVolumes s) AdminPurpose.isMeasure .measure s.hook.measuring
    (fun resp => ∃ usage, s.hook.volumeUsage = some usage ∧ resp = .usage usage)
    (s.hook.volumeUsage = none ∨ MeasurementFailed s)

/-- One measurement at a time, none while a prune of volumes waits that was called without one; and such a prune knows
whether a usage is shown. -/
structure Measuring (s : AdminPage σ) : Prop where
  gate : s.remote.flights.Gate AdminPurpose.isMeasure (fun _ => s.mounted = true → s.hook.measuring = true)
    (s.mounted = true → s.hook.measuring = false)
  uncancelled : ∀ f ∈ s.remote.flights.pending, f.purpose = .measure → f.cancelled = false
  waiting : ∀ f ∈ s.remote.flights.pending, f.purpose.prunesVolumes = true →
    s.remote.flights.live AdminPurpose.isMeasure = []
  captured : s.mounted = true → ∀ f ∈ s.remote.flights.pending, f.purpose = .mutation (.pruneVolumes false false) →
    s.hook.volumeUsage = none
  slice : s.mounted = true → UsageSlice s

/-! ## The hook -/

section Hook

variable {s : AdminPage σ}

theorem Measuring.set (hs : Measuring s) {f : AdminHook → AdminHook} (hmeasuring : (f s.hook).measuring = s.hook.measuring)
    (husage : (f s.hook).volumeUsage = s.hook.volumeUsage) : Measuring (s.set f) := by
  unfold AdminPage.set
  split
  · refine ⟨?_, hs.uncancelled, hs.waiting, ?_, ?_⟩
    · simp only [hmeasuring]
      exact hs.gate
    · simp only [husage]
      exact hs.captured
    · intro hmounted
      have hslice := hs.slice hmounted
      simp only [UsageSlice, hmeasuring, husage] at hslice ⊢
      exact hslice
  · exact hs

/-- A call that is no measurement is started. -/
theorem Measuring.launch (hs : Measuring s) {k : AdminPurpose} (hk : k.isMeasure = false)
    (hwaiting : k.prunesVolumes = true → s.remote.flights.live AdminPurpose.isMeasure = [])
    (hcaptured : k = .mutation (.pruneVolumes false false) → s.mounted = true → s.hook.volumeUsage = none) :
    Measuring (s.launch k) := by
  have hlive : (s.launch k).remote.flights.live AdminPurpose.isMeasure =
      s.remote.flights.live AdminPurpose.isMeasure := Flights.live_launch_of_other hk
  refine ⟨hs.gate.launch_other hk, fun f hf hpurpose => ?_, fun f hf hpurpose => ?_, fun hmounted f hf hpurpose => ?_,
    fun hmounted => (hs.slice hmounted).launch_other hk⟩
  · rcases List.mem_append.mp hf with hold | hnew
    · exact hs.uncancelled f hold hpurpose
    · rw [List.mem_singleton.mp hnew]
      rfl
  · rw [hlive]
    rcases List.mem_append.mp hf with hold | hnew
    · exact hs.waiting f hold hpurpose
    · rw [List.mem_singleton.mp hnew] at hpurpose
      exact hwaiting hpurpose
  · rcases List.mem_append.mp hf with hold | hnew
    · exact hs.captured hmounted f hold hpurpose
    · rw [List.mem_singleton.mp hnew] at hpurpose
      exact hcaptured hpurpose hmounted

theorem Measuring.cleanup (hs : Measuring s) : Measuring s.cleanup := by
  have hother : ∀ k : AdminPurpose, k.isMeasure = true → k.isResources = false ∧ k.isRecords = false := by
    intro k hk
    cases k with
    | resources kind => cases hk
    | records => cases hk
    | mutation m => cases hk
    | measure => exact ⟨rfl, rfl⟩
  have hlive : s.cleanup.remote.flights.live AdminPurpose.isMeasure =
      s.remote.flights.live AdminPurpose.isMeasure :=
    (Flights.live_cancel_of_disjoint fun k hk => (hother k hk).2).trans
      (Flights.live_cancel_of_disjoint fun k hk => (hother k hk).1)
  have hpending : ∀ f ∈ s.cleanup.remote.flights.pending, ∃ old ∈ s.remote.flights.pending, old.purpose = f.purpose ∧
      (old.purpose = .measure → f.cancelled = old.cancelled) := by
    intro f hf
    obtain ⟨mid, hmid, rfl⟩ := List.mem_map.mp hf
    obtain ⟨old, hold, rfl⟩ := List.mem_map.mp hmid
    refine ⟨old, hold, rfl, fun hpurpose => ?_⟩
    simp [hpurpose, AdminPurpose.isResources, AdminPurpose.isRecords]
  refine ⟨hs.gate.of_live hlive, fun f hf hpurpose => ?_, fun f hf hpurpose => ?_, fun hmounted f hf hpurpose => ?_,
    fun hmounted => ?_⟩
  · obtain ⟨old, hold, hsame, hcancelled⟩ := hpending f hf
    have hmeasure : old.purpose = .measure := hsame.trans hpurpose
    rw [hcancelled hmeasure]
    exact hs.uncancelled old hold hmeasure
  · obtain ⟨old, hold, hsame, -⟩ := hpending f hf
    rw [hlive]
    exact hs.waiting old hold (hsame ▸ hpurpose)
  · obtain ⟨old, hold, hsame, -⟩ := hpending f hf
    exact hs.captured hmounted old hold (hsame.trans hpurpose)
  · exact ((hs.slice hmounted).cancel_other fun k hk => (hother k hk).1).cancel_other fun k hk => (hother k hk).2

theorem Measuring.effects (hs : Measuring s) : Measuring s.effects := by
  have hfetching : Measuring s.cleanup.fetchResources := (hs.cleanup.set rfl rfl).launch rfl nofun nofun
  unfold AdminPage.effects
  split
  · exact (hfetching.set rfl rfl).launch rfl nofun nofun
  · exact hfetching

theorem Measuring.refresh (hs : Measuring s) : Measuring s.refresh := by
  unfold AdminPage.refresh
  split
  · exact hs.effects
  · exact hs

/-- A measurement begins while none is live and no prune of volumes waits. -/
theorem measuring_measure (hcoherent : Remote.Coherent AdminPurpose.handler s.remote)
    (huncancelled : ∀ f ∈ s.remote.flights.pending, f.purpose = .measure → f.cancelled = false)
    (hlive : s.remote.flights.live AdminPurpose.isMeasure = [])
    (hnone : ∀ f ∈ s.remote.flights.pending, f.purpose.prunesVolumes = false) :
    Measuring (s.measureVolumeUsage false) := by
  have hpending : ∀ f ∈ (s.remote.launch AdminPurpose.handler .measure).flights.pending,
      f.purpose.prunesVolumes = false ∧ (f.purpose = .measure → f.cancelled = false) := by
    intro f hf
    rcases List.mem_append.mp hf with hold | hnew
    · exact ⟨hnone f hold, huncancelled f hold⟩
    · rw [List.mem_singleton.mp hnew]
      exact ⟨rfl, fun _ => rfl⟩
  have hwaiting : ∀ f ∈ (s.remote.launch AdminPurpose.handler .measure).flights.pending,
      f.purpose.prunesVolumes ≠ true := by
    intro f hf
    simp [(hpending f hf).1]
  have hcaptured : ∀ f ∈ (s.remote.launch AdminPurpose.handler .measure).flights.pending,
      f.purpose ≠ .mutation (.pruneVolumes false false) := by
    intro f hf hpurpose
    exact hwaiting f hf (by rw [hpurpose]; rfl)
  change Measuring ((s.set fun h => { h with measuring := true }).launch .measure)
  unfold AdminPage.set
  split
  · exact ⟨Flights.Gate.of_launch hlive rfl fun _ => rfl, fun f hf => (hpending f hf).2,
      fun f hf htrue => absurd htrue (hwaiting f hf), fun _ f hf hpurpose => absurd hpurpose (hcaptured f hf),
      fun _ => Remote.Slice.of_launch hcoherent hlive rfl _⟩
  · rename_i hmounted
    exact ⟨Flights.Gate.of_launch hlive rfl fun htrue => absurd htrue hmounted, fun f hf => (hpending f hf).2,
      fun f hf htrue => absurd htrue (hwaiting f hf), fun _ f hf hpurpose => absurd hpurpose (hcaptured f hf),
      fun htrue => absurd htrue hmounted⟩

/-- A mutation begins; that of the volumes takes along what the hook shows. -/
theorem Measuring.mutate (hs : Measuring s) (hmounted : s.mounted = true) (m : AdminMutation)
    (hm : ∀ measured measuring, m = .pruneVolumes measured measuring →
      measured = s.hook.volumeUsage.isSome ∧ measuring = s.hook.measuring) : Measuring (s.mutate m) := by
  unfold AdminPage.mutate
  split
  · refine (hs.set ?_ ?_).launch rfl (fun hprunes => ?_) fun hpurpose _ => ?_
    · cases m <;> rfl
    · cases m <;> rfl
    · rw [set_remote]
      refine hs.gate.live_eq_nil fun k hup => ?_
      obtain ⟨measured, hk⟩ := prunesVolumes_iff.mp hprunes
      cases hk
      have hfalse : false = s.hook.measuring := (hm measured false rfl).2
      rw [← hfalse] at hup
      cases hup hmounted
    · cases hpurpose
      rw [set_of_mounted hmounted]
      have hmeasured : false = s.hook.volumeUsage.isSome := (hm false false rfl).1
      exact Option.isSome_eq_false_iff.mp hmeasured.symm |> Option.isNone_iff_eq_none.mp
  · exact hs

/-- While the button is enabled, no prune is in flight. -/
theorem Gates.no_prune (hs : Gates s) (hmounted : s.mounted = true) (hpruning : s.hook.pruning = false) :
    ∀ f ∈ s.remote.flights.pending, f.purpose.prunesVolumes = false := by
  intro f hf
  rw [← Bool.not_eq_true]
  intro hprunes
  obtain ⟨measured, hpurpose⟩ := prunesVolumes_iff.mp hprunes
  have hlive : f ∈ s.remote.flights.live AdminGate.prune.guards :=
    Flights.mem_live.mpr ⟨hf, by rw [hpurpose]; rfl, hs.uncancelled f hf _ hpurpose⟩
  obtain ⟨m, hm, -, hnamed⟩ := (hs.gate .prune).up_of_live hlive hmounted
  rw [hpurpose] at hm
  cases hm
  have htrue : s.hook.pruning = true := hnamed.1
  rw [hpruning] at htrue
  cases htrue

theorem Measuring.act (hs : Measuring s) (hfresh : Fresh s) (hgates : Gates s) (hmounted : s.mounted = true)
    {a : AdminAction} (hbutton : ByButton s (.act a : AdminEvent η)) : Measuring (s.act a) := by
  cases a with
  | setKind kind =>
      change Measuring (if kind = s.hook.kind then s else AdminPage.effects (s.set fun h => { h with kind := kind }))
      split
      · exact hs
      · exact Measuring.effects (hs.set rfl rfl)
  | refresh => exact hs.refresh
  | deleteImage id => exact hs.mutate hmounted _ nofun
  | deleteNetwork id => exact hs.mutate hmounted _ nofun
  | pruneImages danglingOnly => exact hs.mutate hmounted _ nofun
  | pruneBuildCache => exact hs.mutate hmounted _ nofun
  | pruneBuildCacheRecord id => exact hs.mutate hmounted _ nofun
  | pruneVolumes =>
      refine hs.mutate hmounted _ fun measured measuring hm => ?_
      cases hm
      exact ⟨rfl, rfl⟩
  | pruneNetworks => exact hs.mutate hmounted _ nofun
  | measureVolumeUsage =>
      obtain ⟨hmeasuring, hpruning⟩ := hbutton
      change Measuring (s.measureVolumeUsage s.hook.measuring)
      rw [hmeasuring]
      refine measuring_measure hfresh.coherent hs.uncancelled ?_ (hgates.no_prune hmounted hpruning)
      refine hs.gate.live_eq_nil fun k hup => ?_
      rw [hup hmounted] at hmeasuring
      cases hmeasuring

end Hook

/-! ## Calls that come back -/

section Step

variable {formatBytes : Nat → GoString} {sys : System σ η ResourceCall ResourceAnswer} {s next : AdminPage σ}
variable {f : Flight AdminPurpose}

theorem MeasurementFailed.mono (hfailed : MeasurementFailed s) {toasts : List Toast} (htoasts : s.toasts ⊆ toasts) :
    MeasurementFailed { s with toasts := toasts } := by
  obtain ⟨message, hmem⟩ := hfailed
  exact ⟨message, htoasts hmem⟩

/-- A call that is no measurement comes back. -/
theorem Measuring.land_other (hs : Measuring s) (hf : f.purpose.isMeasure = false) {toasts : List Toast}
    (htoasts : s.toasts ⊆ toasts) : Measuring (landing s f toasts) := by
  have hlive : f ∉ s.remote.flights.live AdminPurpose.isMeasure := not_mem_live_of_purpose hf
  have hsame : (s.remote.flights.land f).live AdminPurpose.isMeasure =
      s.remote.flights.live AdminPurpose.isMeasure := Flights.live_land_of_not_mem hlive
  refine ⟨hs.gate.land_other hlive, fun g hg => hs.uncancelled g (List.mem_of_mem_erase hg), fun g hg hpurpose => ?_,
    fun hmounted g hg => hs.captured hmounted g (List.mem_of_mem_erase hg), fun hmounted => ?_⟩
  · exact hsame.trans (hs.waiting g (List.mem_of_mem_erase hg) hpurpose)
  · exact ((hs.slice hmounted).land_other hlive).imp (fun _ h => h) (Or.imp_right fun hfailed => hfailed.mono htoasts)

/-- A measurement comes back, and the flag goes down. -/
theorem Measuring.land_measure (hs : Measuring s) (hf : f ∈ s.remote.flights.pending) (hpurpose : f.purpose = .measure)
    {change : AdminHook → AdminHook} {toasts : List Toast} (hmeasuring : (change s.hook).measuring = false)
    (hslice : s.mounted = true → UsageSlice { landing s f toasts with hook := change s.hook }) :
    Measuring ((landing s f toasts).set change) := by
  have hlive : f ∈ s.remote.flights.live AdminPurpose.isMeasure :=
    Flights.mem_live.mpr ⟨hf, by rw [hpurpose]; rfl, hs.uncancelled f hf hpurpose⟩
  -- no prune of volumes waits while a measurement is live
  have hnone : ∀ g ∈ (s.remote.flights.land f).pending, g.purpose.prunesVolumes ≠ true := by
    intro g hg hprunes
    rw [hs.waiting g (List.mem_of_mem_erase hg) hprunes] at hlive
    cases hlive
  have hcaptured : ∀ g ∈ (s.remote.flights.land f).pending, g.purpose ≠ .mutation (.pruneVolumes false false) :=
    fun g hg hk => hnone g hg (prunesVolumes_iff.mpr ⟨false, hk⟩)
  have huncancelled : ∀ g ∈ (s.remote.flights.land f).pending, g.purpose = .measure → g.cancelled = false :=
    fun g hg => hs.uncancelled g (List.mem_of_mem_erase hg)
  unfold AdminPage.set
  split
  · exact ⟨hs.gate.land_live hlive fun _ => hmeasuring, huncancelled, fun g hg h => absurd h (hnone g hg),
      fun _ g hg h => absurd h (hcaptured g hg), hslice⟩
  · rename_i hmounted
    have hmounted : ¬ s.mounted = true := hmounted
    exact ⟨hs.gate.land_live hlive fun htrue => absurd htrue hmounted, huncancelled,
      fun g hg h => absurd h (hnone g hg), fun _ g hg h => absurd h (hcaptured g hg),
      fun htrue => absurd htrue hmounted⟩

/-- When a prune of volumes has come back, no other one waits. -/
theorem Gates.no_other_prune (hs : Gates s) (hnumbered : s.remote.flights.Numbered) (hf : f ∈ s.remote.flights.pending)
    (hprunes : f.purpose.prunesVolumes = true) :
    ∀ g ∈ (s.remote.flights.land f).pending, g.purpose.prunesVolumes = false := by
  have hlive : ∀ g ∈ s.remote.flights.pending, g.purpose.prunesVolumes = true →
      g ∈ s.remote.flights.live AdminGate.prune.guards := by
    intro g hg hg'
    obtain ⟨measured, hpurpose⟩ := prunesVolumes_iff.mp hg'
    exact Flights.mem_live.mpr ⟨hg, by rw [hpurpose]; rfl, hs.uncancelled g hg _ hpurpose⟩
  intro g hg
  rw [← Bool.not_eq_true]
  intro hg'
  have hsame : g = f := (hs.gate .prune).eq_of_live (hlive g (List.mem_of_mem_erase hg) hg') (hlive f hf hprunes)
  rw [hsame] at hg
  exact hnumbered.not_mem_land f hg

/-- A mutation comes back with a response. -/
theorem Measuring.afterSuccess (hs : Measuring s) (hfresh : Fresh s) (hgates : Gates s)
    (hf : f ∈ s.remote.flights.pending) {m : AdminMutation} (hpurpose : f.purpose = .mutation m)
    {toasts : List Toast} (htoasts : s.toasts ⊆ toasts) :
    Measuring (AdminPage.afterSuccess
      (AdminPage.set { landing s f toasts with succeeded := f :: s.succeeded } m.unmark) m) := by
  have hland : Measuring (landing s f toasts) := hs.land_other (by rw [hpurpose]; rfl) htoasts
  have hkeeps : ∀ h, (m.unmark h).measuring = h.measuring ∧ (m.unmark h).volumeUsage = h.volumeUsage := by
    intro h
    cases m <;> exact ⟨rfl, rfl⟩
  cases hprunes : f.purpose.prunesVolumes with
  | false =>
      have hsame : prunedVolumes { landing s f toasts with succeeded := f :: s.succeeded } =
          prunedVolumes (landing s f toasts) := by
        simp [prunedVolumes, hprunes, landing]
      have hsucceeded : Measuring { landing s f toasts with succeeded := f :: s.succeeded } := by
        refine ⟨hland.gate, hland.uncancelled, hland.waiting, hland.captured, fun hmounted => ?_⟩
        have hslice := hland.slice hmounted
        unfold UsageSlice at hslice ⊢
        rw [hsame]
        exact hslice
      have hset := hsucceeded.set (f := m.unmark) (hkeeps _).1 (hkeeps _).2
      unfold AdminPage.afterSuccess
      split
      · rename_i measuring
        cases measuring with
        | true => exact hset.refresh
        | false =>
            rw [hpurpose] at hprunes
            cases hprunes
      · exact hset.refresh
  | true =>
      obtain ⟨measured, hk⟩ := prunesVolumes_iff.mp hprunes
      rw [hpurpose] at hk
      cases hk
      have hother := hgates.no_other_prune hfresh.coherent.numbered hf hprunes
      have hnone : (s.remote.flights.land f).live AdminPurpose.isMeasure = [] := by
        rw [Flights.live_land_of_not_mem (not_mem_live_of_purpose (by rw [hpurpose]; rfl))]
        exact hs.waiting f hf hprunes
      cases measured with
      | true =>
          refine Measuring.refresh (measuring_measure ?_ ?_ ?_ ?_)
          · rw [set_remote]
            exact hfresh.coherent.land f
          · rw [set_remote]
            exact hland.uncancelled
          · rw [set_remote]
            exact hnone
          · rw [set_remote]
            exact hother
      | false =>
          refine Measuring.refresh (Measuring.set ?_ rfl rfl)
          refine ⟨hland.gate, hland.uncancelled, hland.waiting, hland.captured, fun hmounted => ?_⟩
          refine .failed ?_ hnone (Or.inl (hs.captured hmounted f hf hpurpose))
          cases hland.gate with
          | idle _ hdown => exact hdown hmounted
          | busy g hlive _ =>
              have hnone : (landing s f toasts).remote.flights.live AdminPurpose.isMeasure = [] := hnone
              rw [hnone] at hlive
              cases hlive

theorem Measuring.succeed (hs : Measuring s) (hfresh : Fresh s) (hgates : Gates s)
    (hf : f ∈ s.remote.flights.pending) {resp : ResourceResponse} (hresult : s.remote.result? f = some (.ok resp))
    (hstep : s.succeed formatBytes f resp = some next) : Measuring next := by
  unfold AdminPage.succeed at hstep
  split at hstep
  · rename_i kind shown hpurpose
    cases hstep
    have hland : Measuring (landing s f s.toasts) := hs.land_other (by rw [hpurpose]; rfl) (fun _ h => h)
    split
    · exact hland
    · exact hland.set rfl rfl
  · rename_i shown hpurpose
    cases hstep
    have hland : Measuring (landing s f s.toasts) := hs.land_other (by rw [hpurpose]; rfl) (fun _ h => h)
    split
    · exact hland
    · exact hland.set rfl rfl
  · rename_i m resp hpurpose
    obtain ⟨message, -, rfl⟩ := Option.map_eq_some_iff.mp hstep
    exact hs.afterSuccess hfresh hgates hf hpurpose (List.subset_cons_self _ _)
  · rename_i usage hpurpose
    cases hstep
    refine hs.land_measure hf hpurpose rfl fun hmounted => ?_
    have hlive : f ∈ s.remote.flights.live AdminPurpose.isMeasure :=
      Flights.mem_live.mpr ⟨hf, by rw [hpurpose]; rfl, hs.uncancelled f hf hpurpose⟩
    exact (hs.slice hmounted).land_ok hfresh.coherent hlive hresult ⟨usage, rfl, rfl⟩
  · cases hstep

theorem Measuring.failed (hs : Measuring s) (hf : f ∈ s.remote.flights.pending) (message : GoString) :
    Measuring (s.failed f message) := by
  unfold AdminPage.failed
  split
  · rename_i kind hpurpose
    have hland : Measuring (landing s f s.toasts) := hs.land_other (by rw [hpurpose]; rfl) (fun _ h => h)
    split
    · exact hland
    · exact hland.set rfl rfl
  · rename_i hpurpose
    have hland : Measuring (landing s f s.toasts) := hs.land_other (by rw [hpurpose]; rfl) (fun _ h => h)
    split
    · exact hland
    · exact hland.set rfl rfl
  · rename_i m hpurpose
    have hland := hs.land_other (f := f) (by rw [hpurpose]; rfl)
      (List.subset_cons_self (.error (m.failure ++ message)) s.toasts)
    exact hland.set (by cases m <;> rfl) (by cases m <;> rfl)
  · rename_i hpurpose
    refine hs.land_measure hf hpurpose rfl fun hmounted => ?_
    have hlive : f ∈ s.remote.flights.live AdminPurpose.isMeasure :=
      Flights.mem_live.mpr ⟨hf, by rw [hpurpose]; rfl, hs.uncancelled f hf hpurpose⟩
    exact (hs.slice hmounted).land_error hlive (Or.inr ⟨message, List.mem_cons_self⟩)

/-- The page with all that is kept up along its runs. -/
structure Sound (s : AdminPage σ) : Prop where
  fresh : Fresh s
  gates : Gates s
  measuring : Measuring s

theorem sound_step (s : AdminPage σ) (event : AdminEvent η) (next : AdminPage σ) (hs : Sound s)
    (hbutton : ByButton s event) (hstep : s.step formatBytes sys event = some next) : Sound next := by
  refine ⟨fresh_step s event next hs.fresh hstep, gates_step s event next hs.gates hstep, ?_⟩
  cases event with
  | act a =>
      simp only [AdminPage.step, Option.ite_none_right_eq_some, Option.some.injEq] at hstep
      obtain ⟨hmounted, rfl⟩ := hstep
      exact hs.measuring.act hs.fresh hs.gates hmounted hbutton
  | serve label =>
      obtain ⟨server, hserver, rfl⟩ := Option.map_eq_some_iff.mp hstep
      refine ⟨hs.measuring.gate, hs.measuring.uncancelled, hs.measuring.waiting, hs.measuring.captured,
        fun hmounted => (hs.measuring.slice hmounted).serve (fun n hn => ?_) hserver⟩
      obtain ⟨f, hf, rfl⟩ := List.mem_map.mp hn
      exact (hs.fresh.ended f (List.mem_filter.mp hf).1).2
  | landed f =>
      simp only [AdminPage.step, Option.ite_none_right_eq_some] at hstep
      obtain ⟨hf, hstep⟩ := hstep
      split at hstep
      · rename_i resp hresult
        exact hs.measuring.succeed hs.fresh hs.gates hf hresult hstep
      · cases hstep
        exact hs.measuring.failed hf _
      · cases hstep
  | lost f message =>
      simp only [AdminPage.step, Option.ite_none_right_eq_some, Option.some.injEq] at hstep
      obtain ⟨hf, rfl⟩ := hstep
      exact hs.measuring.failed hf message
  | unmount =>
      simp only [AdminPage.step, Option.ite_none_right_eq_some, Option.some.injEq] at hstep
      obtain ⟨-, rfl⟩ := hstep
      have hclean := hs.measuring.cleanup
      refine ⟨hclean.gate.imp (fun k _ hmounted => ?_) fun _ hmounted => ?_, hclean.uncancelled, hclean.waiting,
        fun hmounted => ?_, fun hmounted => ?_⟩
      all_goals exact absurd hmounted Bool.false_ne_true

theorem sound_mount (shared : σ) (kind : AdminResourceKind) : Sound (AdminPage.mount shared kind) := by
  refine ⟨fresh_mount shared kind, gates_mount shared kind, Measuring.effects ?_⟩
  exact ⟨.idle rfl fun _ => rfl, nofun, nofun, nofun, fun _ => .failed rfl rfl (Or.inl rfl)⟩

/-- In the runs whose measurements are begun by the button, one measurement is in flight at a time, also of those that
`pruneVolumes` begins; and while the page is mounted the flag says whether one is. -/
theorem measurement_singleFlight {shared : σ} {kind : AdminResourceKind} {events : List (AdminEvent η)}
    (hbutton : Guarded (AdminPage.step formatBytes sys) ByButton (AdminPage.mount shared kind) events)
    (hrun : exec (AdminPage.step formatBytes sys) (AdminPage.mount shared kind) events = some s) :
    (s.remote.flights.pending.filter fun f => f.purpose.isMeasure).length ≤ 1 ∧
      (s.mounted = true → (s.hook.measuring = true ↔ ∃ f ∈ s.remote.flights.pending, f.purpose = .measure)) := by
  have hs : Sound s := exec_invariant_of_guarded Sound sound_step hbutton hrun (sound_mount shared kind)
  have hpurpose : ∀ f : Flight AdminPurpose, f.purpose.isMeasure = true → f.purpose = .measure := by
    rintro ⟨number, purpose, cancelled⟩ hmeasure
    cases purpose with
    | measure => rfl
    | resources kind => cases hmeasure
    | records => cases hmeasure
    | mutation m => cases hmeasure
  have hlive : s.remote.flights.pending.filter (fun f => f.purpose.isMeasure) =
      s.remote.flights.live AdminPurpose.isMeasure := by
    refine List.filter_congr fun f hf => ?_
    cases hmeasure : f.purpose.isMeasure with
    | false => rfl
    | true => simp [hs.measuring.uncancelled f hf (hpurpose f hmeasure)]
  refine ⟨by rw [hlive]; exact hs.measuring.gate.length_le_one, fun hmounted => ?_⟩
  have hslice := (hs.measuring.slice hmounted).loading_iff rfl
  rw [hslice]
  constructor
  · rintro ⟨f, hf, -, hmeasure⟩
    exact ⟨f, hf, hmeasure⟩
  · rintro ⟨f, hf, hmeasure⟩
    exact ⟨f, hf, hs.measuring.uncancelled f hf hmeasure, hmeasure⟩

/-- In the same runs, a usage that is shown while nothing is being measured is a response of `GetVolumeUsage` whose call
to the Docker host has come after those of every prune of volumes that has come back and was called while nothing was
being measured; or the user has been told that a measurement has failed. -/
theorem volumeUsage_fresh {shared : σ} {kind : AdminResourceKind} {events : List (AdminEvent η)}
    (hbutton : Guarded (AdminPage.step formatBytes sys) ByButton (AdminPage.mount shared kind) events)
    (hrun : exec (AdminPage.step formatBytes sys) (AdminPage.mount shared kind) events = some s)
    (hmounted : s.mounted = true) (hmeasuring : s.hook.measuring = false) {usage : VolumeUsageResponse}
    (husage : s.hook.volumeUsage = some usage) :
    MeasurementFailed s ∨
      ∃ n, AdminPurpose.measure.handler.through (s.remote.server.past n).reverse = some (.done (.usage usage)) ∧
        ∀ f ∈ s.succeeded, ∀ measured, f.purpose = .mutation (.pruneVolumes measured false) →
          DoneBefore s.remote.server.log f.number n := by
  have hs : Sound s := exec_invariant_of_guarded Sound sound_step hbutton hrun (sound_mount shared kind)
  rcases (hs.measuring.slice hmounted).settled hmeasuring with (hnone | hfailed) | hshown
  · rw [husage] at hnone
    cases hnone
  · exact Or.inl hfailed
  · obtain ⟨resp, ⟨shown, hshown, rfl⟩, n, hthrough, hlater⟩ := hshown
    rw [husage] at hshown
    cases hshown
    refine Or.inr ⟨n, hthrough, fun f hf measured hpurpose => hlater f.number ?_⟩
    refine List.mem_map_of_mem (List.mem_filter.mpr ⟨hf, ?_⟩)
    exact prunesVolumes_iff.mpr ⟨measured, hpurpose⟩

end Step

/-! ## Two runs -/

/-- A host that has only volumes, none of which is in use. -/
def volumeHost : System (List MeasuredVolume) Unit ResourceCall ResourceAnswer where
  answer volumes
    | ⟨.volumeUsage, .ok items⟩ => if items = volumes then some volumes else none
    | ⟨.mutation .volumePrune, .ok _⟩ => some []
    | _ => none
  env volumes _ := some volumes

def sampleVolume : MeasuredVolume := ⟨str "data", some ⟨7, 0⟩⟩

/-- The volumes are measured and pruned. -/
def prunedRun : List (AdminEvent Unit) :=
  [.act .measureVolumeUsage, .serve (.call 2 ⟨.volumeUsage, .ok [sampleVolume]⟩), .landed ⟨2, .measure, false⟩,
    .act .pruneVolumes, .serve (.call 3 ⟨.mutation .volumePrune, .ok ⟨[str "data"], 7⟩⟩),
    .landed ⟨3, .mutation (.pruneVolumes true false), false⟩, .serve (.call 4 ⟨.volumeUsage, .ok []⟩),
    .landed ⟨4, .measure, false⟩]

theorem guarded_prunedRun :
    Guarded (AdminPage.step (fun _ => []) volumeHost) ByButton (AdminPage.mount [sampleVolume] .volumes) prunedRun := by
  decide +kernel

theorem exec_prunedRun :
    (exec (AdminPage.step (fun _ => []) volumeHost) (AdminPage.mount [sampleVolume] .volumes) prunedRun).map
        (fun s => (s.mounted, s.hook.measuring, s.hook.volumeUsage)) =
      some (true, false, some ⟨[], 0, 0, 0⟩) := by
  decide +kernel

theorem measurement_singleFlight_pruned :
    ∃ s, exec (AdminPage.step (fun _ => []) volumeHost) (AdminPage.mount [sampleVolume] .volumes) prunedRun = some s ∧
      ¬ ∃ f ∈ s.remote.flights.pending, f.purpose = .measure := by
  obtain ⟨s, hs, hview⟩ := Option.map_eq_some_iff.mp exec_prunedRun
  simp only [Prod.mk.injEq] at hview
  obtain ⟨hmounted, hmeasuring, -⟩ := hview
  refine ⟨s, hs, fun hflight => ?_⟩
  have hflag := ((measurement_singleFlight guarded_prunedRun hs).2 hmounted).mpr hflight
  rw [hmeasuring] at hflag
  cases hflag

theorem volumeUsage_fresh_pruned :
    ∃ s, exec (AdminPage.step (fun _ => []) volumeHost) (AdminPage.mount [sampleVolume] .volumes) prunedRun = some s ∧
      (MeasurementFailed s ∨
        ∃ n, AdminPurpose.measure.handler.through (s.remote.server.past n).reverse =
            some (.done (.usage ⟨[], 0, 0, 0⟩)) ∧
          ∀ f ∈ s.succeeded, ∀ measured, f.purpose = .mutation (.pruneVolumes measured false) →
            DoneBefore s.remote.server.log f.number n) := by
  obtain ⟨s, hs, hview⟩ := Option.map_eq_some_iff.mp exec_prunedRun
  simp only [Prod.mk.injEq] at hview
  obtain ⟨hmounted, hmeasuring, husage⟩ := hview
  exact ⟨s, hs, volumeUsage_fresh guarded_prunedRun hs hmounted hmeasuring husage⟩

/-- The volumes are pruned while they are measured. -/
def overtakenPruneRun : List (AdminEvent Unit) :=
  [.act .measureVolumeUsage, .serve (.call 2 ⟨.volumeUsage, .ok [sampleVolume]⟩), .landed ⟨2, .measure, false⟩,
    .act .measureVolumeUsage, .serve (.call 3 ⟨.volumeUsage, .ok [sampleVolume]⟩), .act .pruneVolumes,
    .serve (.call 4 ⟨.mutation .volumePrune, .ok ⟨[str "data"], 7⟩⟩), .landed ⟨3, .measure, false⟩,
    .landed ⟨4, .mutation (.pruneVolumes true true), false⟩]

/-- A prune that is called while the volumes are measured leaves the old usage there, although it has come back, nothing
is being measured, and no measurement has failed. -/
theorem volumeUsage_overtaken :
    Guarded (AdminPage.step (fun _ => []) volumeHost) ByButton (AdminPage.mount [sampleVolume] .volumes)
        overtakenPruneRun ∧
      (exec (AdminPage.step (fun _ => []) volumeHost) (AdminPage.mount [sampleVolume] .volumes) overtakenPruneRun).map
          (fun s => (s.hook.measuring, s.hook.volumeUsage, s.toasts.length, s.remote.server.shared)) =
        some (false, some ⟨[⟨str "data", 7, 0⟩], 7, 7, 1⟩, 1, []) := by
  constructor <;> decide +kernel

end Frontend
end Dmanager
