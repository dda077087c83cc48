import Dmanager.Frontend.AdminFreshness

/-!
# One mutation at a time

The hook of the administration page lets one image deletion, one network deletion and one prune be in flight at a time,
the five kinds of prune together, and its flags name the one that is.

* `Gates` — the three gates, and that a mutation is never overtaken.
* `adminMutations_singleFlight` — in every run, whatever is called and whatever comes back.
-/

namespace Dmanager
namespace Frontend

open Go Lib Server Admin

variable {σ η : Type}

/-- The gates of the mutations. -/
inductive AdminGate where
  | image
  | network
  | prune
  deriving DecidableEq, Repr

/-- The gate of a mutation. -/
def AdminMutation.gate : AdminMutation → AdminGate
  | .deleteImage _ => .image
  | .deleteNetwork _ => .network
  | _ => .prune

/-- The purposes behind a gate. -/
def AdminGate.guards (g : AdminGate) : AdminPurpose → Bool
  | .mutation m => m.gate == g
  | _ => false

/-- The scope of a prune. -/
def AdminMutation.scope? : AdminMutation → Option PruneScope
  | .pruneImages danglingOnly => some (if danglingOnly then .dangling else .unused)
  | .pruneBuildCache => some .builder
  | .pruneVolumes _ _ => some .volumes
  | .pruneNetworks => some .networks
  | _ => none

/-- The record of a prune. -/
def AdminMutation.recordId? : AdminMutation → Option GoString
  | .pruneBuildCacheRecord id => some id
  | _ => none

/-- The flags name this mutation. -/
def Named (h : AdminHook) : AdminMutation → Prop
  | .deleteImage id => h.deletingId = some id
  | .deleteNetwork id => h.deletingNetworkId = some id
  | m => h.pruning = true ∧ h.pruningScope = m.scope? ∧ h.pruningRecordId = m.recordId?

/-- The flags of a gate are down. -/
def AdminGate.Down (h : AdminHook) : AdminGate → Prop
  | .image => h.deletingId = none
  | .network => h.deletingNetworkId = none
  | .prune => h.pruning = false ∧ h.pruningScope = none ∧ h.pruningRecordId = none

/-- The flags of a gate name the mutation that a call is for. -/
def AdminGate.Up (h : AdminHook) (g : AdminGate) (k : AdminPurpose) : Prop :=
  ∃ m, k = .mutation m ∧ m.gate = g ∧ Named h m

/-! ## Flags -/

section Flags

variable {h : AdminHook} {m : AdminMutation} {g : AdminGate}

theorem not_mayBegin_of_named (hnamed : Named h m) {m' : AdminMutation} (hgate : m'.gate = m.gate) :
    m'.mayBegin h = false := by
  cases m <;> cases m' <;> simp_all [Named, AdminMutation.gate, AdminMutation.mayBegin]

theorem named_mark (hdown : m.gate.Down h) : Named (m.mark h) m := by
  cases m <;> simp_all [Named, AdminMutation.gate, AdminGate.Down, AdminMutation.mark, AdminMutation.scope?,
    AdminMutation.recordId?]

theorem down_unmark (hnamed : Named h m) : m.gate.Down (m.unmark h) := by
  cases m <;> simp_all [Named, AdminMutation.gate, AdminGate.Down, AdminMutation.unmark, AdminMutation.scope?,
    AdminMutation.recordId?]

/-- The flags that the gates are about. -/
structure SameFlags (g : AdminGate) (h h' : AdminHook) : Prop where
  down : g.Down h → g.Down h'
  named : ∀ m, m.gate = g → Named h m → Named h' m

theorem sameFlags_mark (hgate : m.gate ≠ g) : SameFlags g h (m.mark h) := by
  refine ⟨fun hdown => ?_, fun m' hm' hnamed => ?_⟩
  · cases m <;> cases g <;> simp_all [AdminMutation.gate, AdminGate.Down, AdminMutation.mark]
  · cases m <;> cases m' <;> simp_all [AdminMutation.gate, Named, AdminMutation.mark]

theorem sameFlags_unmark (hgate : m.gate ≠ g) : SameFlags g h (m.unmark h) := by
  refine ⟨fun hdown => ?_, fun m' hm' hnamed => ?_⟩
  · cases m <;> cases g <;> simp_all [AdminMutation.gate, AdminGate.Down, AdminMutation.unmark]
  · cases m <;> cases m' <;> simp_all [AdminMutation.gate, Named, AdminMutation.unmark]

end Flags

/-- The gates, whose flags the hook keeps while it is mounted; a mutation is never overtaken. -/
structure Gates (s : AdminPage σ) : Prop where
  gate : ∀ g : AdminGate, s.remote.flights.Gate g.guards (fun k => s.mounted = true → g.Up s.hook k)
    (s.mounted = true → g.Down s.hook)
  uncancelled : ∀ f ∈ s.remote.flights.pending, ∀ m, f.purpose = .mutation m → f.cancelled = false

/-! ## The hook -/

section Hook

variable {s : AdminPage σ}

/-- The flags of the mutations are the same. -/
structure EqualFlags (h h' : AdminHook) : Prop where
  deletingId : h'.deletingId = h.deletingId
  deletingNetworkId : h'.deletingNetworkId = h.deletingNetworkId
  pruning : h'.pruning = h.pruning
  pruningScope : h'.pruningScope = h.pruningScope
  pruningRecordId : h'.pruningRecordId = h.pruningRecordId

theorem EqualFlags.sameFlags {h h' : AdminHook} (heq : EqualFlags h h') (g : AdminGate) : SameFlags g h h' := by
  obtain ⟨hdeleting, hnetwork, hpruning, hscope, hrecord⟩ := heq
  refine ⟨fun hdown => ?_, fun m _ hnamed => ?_⟩
  · cases g <;> simp_all [AdminGate.Down]
  · cases m <;> simp_all [Named]

/-- Other parts of the state are set. -/
theorem Gates.set (hs : Gates s) {f : AdminHook → AdminHook} (heq : EqualFlags s.hook (f s.hook)) :
    Gates (s.set f) := by
  have hsame := heq.sameFlags
  unfold AdminPage.set
  split
  · refine ⟨fun g => (hs.gate g).imp (fun k hup hmounted => ?_) fun hdown hmounted => ?_, hs.uncancelled⟩
    · obtain ⟨m, hk, hgate, hnamed⟩ := hup hmounted
      exact ⟨m, hk, hgate, (hsame g).named m hgate hnamed⟩
    · exact (hsame g).down (hdown hmounted)
  · exact hs

/-- A call that is no mutation is started. -/
theorem Gates.launch (hs : Gates s) {k : AdminPurpose} (hk : ∀ m, k ≠ .mutation m) : Gates (s.launch k) := by
  have houtside : ∀ g : AdminGate, g.guards k = false := by
    intro g
    cases k with
    | resources kind => rfl
    | records => rfl
    | mutation m => exact absurd rfl (hk m)
    | measure => rfl
  refine ⟨fun g => (hs.gate g).launch_other (houtside g), fun f hf m hpurpose => ?_⟩
  rcases List.mem_append.mp hf with hold | hnew
  · exact hs.uncancelled f hold m hpurpose
  · rw [List.mem_singleton.mp hnew]
    rfl

theorem Gates.cleanup (hs : Gates s) : Gates s.cleanup := by
  have hresources : ∀ (g : AdminGate) (k : AdminPurpose), g.guards k = true →
      k.isResources = false ∧ k.isRecords = false := by
    intro g k hk
    cases k with
    | resources kind => cases hk
    | records => cases hk
    | mutation m => exact ⟨rfl, rfl⟩
    | measure => cases hk
  refine ⟨fun g => ?_, fun f hf m hpurpose => ?_⟩
  · exact ((hs.gate g).cancel_other fun k hk => (hresources g k hk).1).cancel_other fun k hk => (hresources g k hk).2
  · obtain ⟨mid, hmid, rfl⟩ := List.mem_map.mp hf
    obtain ⟨old, hold, rfl⟩ := List.mem_map.mp hmid
    have hpurpose : old.purpose = .mutation m := hpurpose
    have hfalse := hs.uncancelled old hold m hpurpose
    simp [hfalse, hpurpose, AdminPurpose.isResources, AdminPurpose.isRecords]

theorem Gates.effects (hs : Gates s) : Gates s.effects := by
  have hfetching : Gates s.cleanup.fetchResources :=
    (hs.cleanup.set ⟨rfl, rfl, rfl, rfl, rfl⟩).launch nofun
  unfold AdminPage.effects
  split
  · exact (hfetching.set ⟨rfl, rfl, rfl, rfl, rfl⟩).launch nofun
  · exact hfetching

theorem Gates.refresh (hs : Gates s) : Gates s.refresh := by
  unfold AdminPage.refresh
  split
  · exact hs.effects
  · exact hs

theorem Gates.measureVolumeUsage (hs : Gates s) (measuring : Bool) : Gates (s.measureVolumeUsage measuring) := by
  unfold AdminPage.measureVolumeUsage
  split
  · exact hs
  · exact (hs.set ⟨rfl, rfl, rfl, rfl, rfl⟩).launch nofun

/-- A mutation begins only when its gate is down. -/
theorem Gates.mutate (hs : Gates s) (hmounted : s.mounted = true) (m : AdminMutation) : Gates (s.mutate m) := by
  unfold AdminPage.mutate
  split
  · rename_i hbegin
    have hdown : s.remote.flights.live m.gate.guards = [] ∧ m.gate.Down s.hook := by
      cases hs.gate m.gate with
      | idle hlive hdown => exact ⟨hlive, hdown hmounted⟩
      | busy f hlive hup =>
          obtain ⟨m', -, hgate, hnamed⟩ := hup hmounted
          rw [not_mayBegin_of_named hnamed hgate.symm] at hbegin
          cases hbegin
    rw [set_of_mounted hmounted]
    refine ⟨fun g => ?_, fun f hf m' hpurpose => ?_⟩
    · by_cases hg : m.gate = g
      · subst hg
        refine Flights.Gate.of_launch hdown.1 ?_ fun _ => ⟨m, rfl, rfl, named_mark hdown.2⟩
        simp [AdminGate.guards]
      · have hsame : SameFlags g s.hook (m.mark s.hook) := sameFlags_mark hg
        refine Flights.Gate.launch_other ((hs.gate g).imp (fun k hup hmounted => ?_) fun hdown hmounted => ?_) ?_
        · obtain ⟨m', hk, hgate, hnamed⟩ := hup hmounted
          exact ⟨m', hk, hgate, hsame.named m' hgate hnamed⟩
        · exact hsame.down (hdown hmounted)
        · simp [AdminGate.guards, hg]
    · rcases List.mem_append.mp hf with hold | hnew
      · exact hs.uncancelled f hold m' hpurpose
      · rw [List.mem_singleton.mp hnew]
        rfl
  · exact hs

theorem Gates.act (hs : Gates s) (hmounted : s.mounted = true) (a : AdminAction) : Gates (s.act a) := by
  cases a with
  | setKind kind =>
      change Gates (if kind = s.hook.kind then s else AdminPage.effects (s.set fun h => { h with kind := kind }))
      split
      · exact hs
      · exact Gates.effects (hs.set ⟨rfl, rfl, rfl, rfl, rfl⟩)
  | refresh => exact hs.refresh
  | deleteImage id => exact hs.mutate hmounted _
  | deleteNetwork id => exact hs.mutate hmounted _
  | pruneImages danglingOnly => exact hs.mutate hmounted _
  | pruneBuildCache => exact hs.mutate hmounted _
  | pruneBuildCacheRecord id => exact hs.mutate hmounted _
  | pruneVolumes => exact hs.mutate hmounted _
  | pruneNetworks => exact hs.mutate hmounted _
  | measureVolumeUsage => exact hs.measureVolumeUsage _

end Hook

/-! ## Calls that come back -/

section Step

variable {formatBytes : Nat → GoString} {sys : System σ η ResourceCall ResourceAnswer} {s next : AdminPage σ}
variable {f : Flight AdminPurpose}

theorem Gates.congr (hs : Gates s) (toasts : List Toast) (succeeded : List (Flight AdminPurpose)) :
    Gates { s with toasts := toasts, succeeded := succeeded } := ⟨hs.gate, hs.uncancelled⟩

/-- A call that is no mutation comes back. -/
theorem Gates.land_other (hs : Gates s) (hpurpose : ∀ m, f.purpose ≠ .mutation m) (toasts : List Toast) :
    Gates (landing s f toasts) := by
  refine ⟨fun g => (hs.gate g).land_other (not_mem_live_of_purpose ?_),
    fun g hg => hs.uncancelled g (List.mem_of_mem_erase hg)⟩
  obtain ⟨number, purpose, cancelled⟩ := f
  cases purpose with
  | resources kind => rfl
  | records => rfl
  | mutation m => exact absurd rfl (hpurpose m)
  | measure => rfl

/-- A mutation comes back, and its flags go down. -/
theorem Gates.land_mutation (hs : Gates s) (hf : f ∈ s.remote.flights.pending) {m : AdminMutation}
    (hpurpose : f.purpose = .mutation m) (toasts : List Toast) : Gates ((landing s f toasts).set m.unmark) := by
  have hlive : f ∈ s.remote.flights.live m.gate.guards :=
    Flights.mem_live.mpr ⟨hf, by simp [hpurpose, AdminGate.guards], hs.uncancelled f hf m hpurpose⟩
  have hother : ∀ g, m.gate ≠ g → f ∉ s.remote.flights.live g.guards := fun g hg =>
    not_mem_live_of_purpose (by simp [hpurpose, AdminGate.guards, hg])
  have huncancelled : ∀ g ∈ (s.remote.flights.land f).pending, ∀ m, g.purpose = .mutation m → g.cancelled = false :=
    fun g hg => hs.uncancelled g (List.mem_of_mem_erase hg)
  unfold AdminPage.set
  split
  · rename_i hmounted
    have hmounted : s.mounted = true := hmounted
    refine ⟨fun g => ?_, huncancelled⟩
    by_cases hg : m.gate = g
    · subst hg
      refine (hs.gate m.gate).land_live hlive fun _ => ?_
      obtain ⟨m', hk, -, hnamed⟩ := (hs.gate m.gate).up_of_live hlive hmounted
      rw [hpurpose] at hk
      cases hk
      exact down_unmark hnamed
    · have hsame : SameFlags g s.hook (m.unmark s.hook) := sameFlags_unmark hg
      refine Flights.Gate.land_other ((hs.gate g).imp (fun k hup hmounted => ?_) fun hdown hmounted => ?_) (hother g hg)
      · obtain ⟨m', hk, hgate, hnamed⟩ := hup hmounted
        exact ⟨m', hk, hgate, hsame.named m' hgate hnamed⟩
      · exact hsame.down (hdown hmounted)
  · rename_i hmounted
    have hmounted : ¬ s.mounted = true := hmounted
    refine ⟨fun g => ?_, huncancelled⟩
    by_cases hg : m.gate = g
    · subst hg
      exact (hs.gate m.gate).land_live hlive fun htrue => absurd htrue hmounted
    · exact (hs.gate g).land_other (hother g hg)

theorem Gates.afterSuccess (hs : Gates s) (m : AdminMutation) : Gates (s.afterSuccess m) := by
  unfold AdminPage.afterSuccess
  split
  · exact (hs.measureVolumeUsage _).refresh
  · exact hs.refresh

theorem Gates.succeed (hs : Gates s) (hf : f ∈ s.remote.flights.pending) {resp : ResourceResponse}
    (hstep : s.succeed formatBytes f resp = some next) : Gates next := by
  unfold AdminPage.succeed at hstep
  split at hstep
  · rename_i kind shown hpurpose
    cases hstep
    have hland : Gates (landing s f s.toasts) := hs.land_other (by simp [hpurpose]) _
    split
    · exact hland
    · exact hland.set ⟨rfl, rfl, rfl, rfl, rfl⟩
  · rename_i shown hpurpose
    cases hstep
    have hland : Gates (landing s f s.toasts) := hs.land_other (by simp [hpurpose]) _
    split
    · exact hland
    · exact hland.set ⟨rfl, rfl, rfl, rfl, rfl⟩
  · rename_i m resp hpurpose
    obtain ⟨message, -, rfl⟩ := Option.map_eq_some_iff.mp hstep
    refine Gates.afterSuccess ?_ m
    have hland := (hs.congr s.toasts (f :: s.succeeded)).land_mutation hf hpurpose (.success message :: s.toasts)
    exact hland
  · rename_i resp hpurpose
    cases hstep
    have hland : Gates (landing s f s.toasts) := hs.land_other (by simp [hpurpose]) _
    exact hland.set ⟨rfl, rfl, rfl, rfl, rfl⟩
  · cases hstep

theorem Gates.failed (hs : Gates s) (hf : f ∈ s.remote.flights.pending) (message : GoString) :
    Gates (s.failed f message) := by
  unfold AdminPage.failed
  split
  · rename_i kind hpurpose
    have hland : Gates (landing s f s.toasts) := hs.land_other (by simp [hpurpose]) _
    split
    · exact hland
    · exact hland.set ⟨rfl, rfl, rfl, rfl, rfl⟩
  · rename_i hpurpose
    have hland : Gates (landing s f s.toasts) := hs.land_other (by simp [hpurpose]) _
    split
    · exact hland
    · exact hland.set ⟨rfl, rfl, rfl, rfl, rfl⟩
  · rename_i m hpurpose
    exact hs.land_mutation hf hpurpose _
  · rename_i hpurpose
    exact (hs.land_other (by simp [hpurpose]) _).set ⟨rfl, rfl, rfl, rfl, rfl⟩

theorem gates_step (s : AdminPage σ) (event : AdminEvent η) (next : AdminPage σ) (hs : Gates s)
    (hstep : s.step formatBytes sys event = some next) : Gates next := by
  cases event with
  | act a =>
      simp only [AdminPage.step, Option.ite_none_right_eq_some, Option.some.injEq] at hstep
      obtain ⟨hmounted, rfl⟩ := hstep
      exact hs.act hmounted a
  | serve label =>
      obtain ⟨server, -, rfl⟩ := Option.map_eq_some_iff.mp hstep
      exact ⟨hs.gate, hs.uncancelled⟩
  | landed f =>
      simp only [AdminPage.step, Option.ite_none_right_eq_some] at hstep
      obtain ⟨hf, hstep⟩ := hstep
      split at hstep
      · exact hs.succeed hf hstep
      · cases hstep
        exact hs.failed hf _
      · cases hstep
  | lost f message =>
      simp only [AdminPage.step, Option.ite_none_right_eq_some, Option.some.injEq] at hstep
      obtain ⟨hf, rfl⟩ := hstep
      exact hs.failed hf message
  | unmount =>
      simp only [AdminPage.step, Option.ite_none_right_eq_some, Option.some.injEq] at hstep
      obtain ⟨-, rfl⟩ := hstep
      have hclean := hs.cleanup
      refine ⟨fun g => (hclean.gate g).imp (fun k _ hmounted => ?_) fun _ hmounted => ?_, hclean.uncancelled⟩
      · exact absurd hmounted Bool.false_ne_true
      · exact absurd hmounted Bool.false_ne_true

theorem gates_mount (shared : σ) (kind : AdminResourceKind) : Gates (AdminPage.mount shared kind) := by
  refine Gates.effects ⟨fun g => .idle rfl fun _ => ?_, nofun⟩
  cases g with
  | image => rfl
  | network => rfl
  | prune => exact ⟨rfl, rfl, rfl⟩

/-- In every run at most one image deletion, at most one network deletion and at most one prune of any kind is in
flight; and while the page is mounted the flags name exactly the mutations that are. -/
theorem adminMutations_singleFlight {shared : σ} {kind : AdminResourceKind} {events : List (AdminEvent η)}
    (hrun : exec (AdminPage.step formatBytes sys) (AdminPage.mount shared kind) events = some s) :
    (∀ g : AdminGate, (s.remote.flights.pending.filter fun f => g.guards f.purpose).length ≤ 1) ∧
      (s.mounted = true →
        (∀ f ∈ s.remote.flights.pending, ∀ m, f.purpose = .mutation m → Named s.hook m) ∧
          ∀ g : AdminGate, (∀ f ∈ s.remote.flights.pending, g.guards f.purpose = false) → g.Down s.hook) := by
  have hs : Gates s := exec_invariant Gates gates_step hrun (gates_mount shared kind)
  have hlive : ∀ g : AdminGate,
      s.remote.flights.pending.filter (fun f => g.guards f.purpose) = s.remote.flights.live g.guards := by
    intro g
    refine List.filter_congr fun f hf => ?_
    cases hguards : g.guards f.purpose with
    | false => rfl
    | true =>
        obtain ⟨number, purpose, cancelled⟩ := f
        cases purpose with
        | mutation m =>
            have hfalse := hs.uncancelled _ hf m rfl
            simp_all
        | resources kind => cases hguards
        | records => cases hguards
        | measure => cases hguards
  refine ⟨fun g => ?_, fun hmounted => ⟨fun f hf m hpurpose => ?_, fun g hnone => ?_⟩⟩
  · rw [hlive]
    exact (hs.gate g).length_le_one
  · have hmem : f ∈ s.remote.flights.live m.gate.guards := by
      rw [← hlive, List.mem_filter]
      exact ⟨hf, by simp [hpurpose, AdminGate.guards]⟩
    obtain ⟨m', hk, -, hnamed⟩ := (hs.gate m.gate).up_of_live hmem hmounted
    rw [hpurpose] at hk
    cases hk
    exact hnamed
  · cases hs.gate g with
    | idle _ hdown => exact hdown hmounted
    | busy f hbusy _ =>
        have hmem : f ∈ s.remote.flights.live g.guards := by rw [hbusy]; exact List.mem_singleton_self f
        obtain ⟨hf, hguards, -⟩ := Flights.mem_live.mp hmem
        rw [hnone f hf] at hguards
        cases hguards

/-- The build cache is being pruned; the prune of the networks is not let through, the deletion of an image is. -/
def gatedRun : List (AdminEvent Unit) :=
  [.act .pruneBuildCache, .act .pruneNetworks, .act (.deleteImage (str "a"))]

theorem adminMutations_singleFlight_gated :
    ∃ s, exec (AdminPage.step (fun _ => []) sampleHost) (AdminPage.mount [sampleImage] .images) gatedRun = some s ∧
      s.remote.flights.pending.map Flight.purpose =
        [.resources .images, .mutation .pruneBuildCache, .mutation (.deleteImage (str "a"))] ∧
      (∀ g : AdminGate, (s.remote.flights.pending.filter fun f => g.guards f.purpose).length ≤ 1) ∧
      ∀ f ∈ s.remote.flights.pending, ∀ m, f.purpose = .mutation m → Named s.hook m := by
  have hrun : (exec (AdminPage.step (fun _ => []) sampleHost) (AdminPage.mount [sampleImage] .images) gatedRun).map
      (fun s => (s.mounted, s.remote.flights.pending.map Flight.purpose)) =
        some (true, [.resources .images, .mutation .pruneBuildCache, .mutation (.deleteImage (str "a"))]) := by
    decide +kernel
  obtain ⟨s, hs, hview⟩ := Option.map_eq_some_iff.mp hrun
  simp only [Prod.mk.injEq] at hview
  obtain ⟨hmounted, hpending⟩ := hview
  obtain ⟨hone, hnamed⟩ := adminMutations_singleFlight hs
  exact ⟨s, hs, hpending, hone, (hnamed hmounted).1⟩

end Step

end Frontend
end Dmanager
