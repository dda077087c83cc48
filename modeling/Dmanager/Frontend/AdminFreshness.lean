import Dmanager.Frontend.UseAdminResources

/-!
# What the administration page shows

The lists of the page are read again after every mutation that the user has been told of: when nothing is being
fetched, all that is shown has been read from the Docker host after all that these mutations have done to it.  A call
for a list is overtaken by the next one, so at most one of them is live, and a mutation that comes back starts the next
one (`Remote.Slice`).

* `ReadAfter` — a response has been read after every mutation that has come back.
* `adminResources_fresh` — both lists, in every run of the page, the server and the host.
-/

namespace Dmanager
namespace Frontend

open Go Lib Server Admin

variable {σ η : Type}

/-- The response of a handler, all of whose calls to the host come after those of the mutations that have come back. -/
def ReadAfter (s : AdminPage σ) (k : AdminPurpose) (resp : ResourceResponse) : Prop :=
  ∃ n, k.handler.through (s.remote.server.past n).reverse = some (.done resp) ∧
    ∀ f ∈ s.succeeded, DoneBefore s.remote.server.log f.number n

/-- The list of the resources. -/
def ResourcesSlice (s : AdminPage σ) : Prop :=
  Remote.Slice AdminPurpose.handler s.remote (s.succeeded.map Flight.number) AdminPurpose.isResources
    (.resources s.hook.kind) s.hook.isLoading
    (fun resp => s.hook.error = none ∧ ∃ result, s.hook.result = some result ∧ resp = .resources result)
    (s.hook.error = some resourcesError ∧ s.hook.result = none)

/-- The list of the build cache records. -/
def RecordsSlice (s : AdminPage σ) : Prop :=
  Remote.Slice AdminPurpose.handler s.remote (s.succeeded.map Flight.number) AdminPurpose.isRecords .records
    s.hook.recordsLoading
    (fun resp => s.hook.recordsError = false ∧ resp = .records s.hook.builderRecords)
    (s.hook.recordsError = true ∧ s.hook.builderRecords = [])

/-- What the page, the server and the host have to do with each other. -/
structure Fresh (s : AdminPage σ) : Prop where
  coherent : Remote.Coherent AdminPurpose.handler s.remote
  ended : ∀ f ∈ s.succeeded,
    f.number ≤ s.remote.flights.started ∧ (s.remote.server.threads f.number).isOver = true
  resources : s.mounted = true → ResourcesSlice s
  records : s.mounted = true → s.hook.kind = .builder → RecordsSlice s
  error_none : s.mounted = true → s.hook.isLoading = true → s.hook.error = none
  recordsError_false : s.mounted = true → s.hook.recordsLoading = true → s.hook.recordsError = false

/-- What the effects need: the calls before them. -/
structure Steady (s : AdminPage σ) : Prop where
  coherent : Remote.Coherent AdminPurpose.handler s.remote
  ended : ∀ f ∈ s.succeeded,
    f.number ≤ s.remote.flights.started ∧ (s.remote.server.threads f.number).isOver = true
  recordsError_false : s.mounted = true → s.hook.recordsLoading = true → s.hook.recordsError = false

theorem Fresh.steady {s : AdminPage σ} (hs : Fresh s) : Steady s := ⟨hs.coherent, hs.ended, hs.recordsError_false⟩

/-! ## The hook -/

section Hook

variable {s : AdminPage σ}

theorem Steady.launch (hs : Steady s) (k : AdminPurpose) : Steady (s.launch k) where
  coherent := hs.coherent.launch k
  ended m hm := by
    obtain ⟨hle, hover⟩ := hs.ended m hm
    refine ⟨Nat.le_succ_of_le hle, ?_⟩
    rw [AdminPage.launch, Remote.threads_launch_of_le hle]
    exact hover
  recordsError_false := hs.recordsError_false

@[simp] theorem set_remote (f : AdminHook → AdminHook) : (s.set f).remote = s.remote := by
  unfold AdminPage.set
  split <;> rfl

@[simp] theorem set_succeeded (f : AdminHook → AdminHook) : (s.set f).succeeded = s.succeeded := by
  unfold AdminPage.set
  split <;> rfl

@[simp] theorem set_mounted (f : AdminHook → AdminHook) : (s.set f).mounted = s.mounted := by
  unfold AdminPage.set
  split <;> rfl

theorem set_of_mounted (hmounted : s.mounted = true) (f : AdminHook → AdminHook) :
    s.set f = { s with hook := f s.hook } := by
  rw [AdminPage.set, if_pos hmounted]

/-- The flags of the records are left alone. -/
def KeepsRecordsFlags (f : AdminHook → AdminHook) : Prop :=
  ∀ h, (f h).recordsLoading = h.recordsLoading ∧ (f h).recordsError = h.recordsError

theorem Steady.set (hs : Steady s) {f : AdminHook → AdminHook} (hf : KeepsRecordsFlags f) : Steady (s.set f) := by
  refine ⟨by rw [set_remote]; exact hs.coherent, by rw [set_remote, set_succeeded]; exact hs.ended, ?_⟩
  intro hmounted hloading
  rw [set_mounted] at hmounted
  rw [set_of_mounted hmounted] at hloading ⊢
  change (f s.hook).recordsLoading = true at hloading
  change (f s.hook).recordsError = false
  rw [(hf s.hook).1] at hloading
  rw [(hf s.hook).2]
  exact hs.recordsError_false hmounted hloading

theorem Steady.cleanup (hs : Steady s) : Steady s.cleanup :=
  ⟨(hs.coherent.cancel _).cancel _, hs.ended, hs.recordsError_false⟩

/-- The cleanups leave no call for a list live. -/
theorem live_cleanup : s.cleanup.remote.flights.live AdminPurpose.isResources = [] ∧
    s.cleanup.remote.flights.live AdminPurpose.isRecords = [] := by
  refine ⟨?_, Flights.live_cancel_self⟩
  refine (Flights.live_cancel_of_disjoint fun k hk => ?_).trans Flights.live_cancel_self
  cases k with
  | resources kind => rfl
  | records => cases hk
  | mutation m => cases hk
  | measure => cases hk

theorem fetchResources_of_mounted (hmounted : s.mounted = true) :
    s.fetchResources =
      { s with
        hook := { s.hook with isLoading := true, error := none }
        remote := s.remote.launch AdminPurpose.handler (.resources s.hook.kind) } := by
  rw [AdminPage.fetchResources, set_of_mounted hmounted]
  rfl

theorem fetchRecords_of_mounted (hmounted : s.mounted = true) :
    s.fetchRecords =
      { s with
        hook := { s.hook with recordsLoading := true, recordsError := false }
        remote := s.remote.launch AdminPurpose.handler .records } := by
  rw [AdminPage.fetchRecords, set_of_mounted hmounted]
  rfl

/-- After the effects both lists are being fetched. -/
theorem Steady.effects (hs : Steady s) (hmounted : s.mounted = true) : Fresh s.effects := by
  obtain ⟨hresources, hrecords⟩ := live_cleanup (s := s)
  have hclean : s.cleanup.mounted = true := hmounted
  have hfetching : Steady s.cleanup.fetchResources := by
    refine Steady.launch (hs.cleanup.set ?_) _
    exact fun _ => ⟨rfl, rfl⟩
  have hslice : ResourcesSlice s.cleanup.fetchResources := by
    rw [fetchResources_of_mounted hclean]
    exact Remote.Slice.of_launch hs.cleanup.coherent hresources rfl _
  have herror : s.cleanup.fetchResources.hook.error = none := by
    rw [fetchResources_of_mounted hclean]
  unfold AdminPage.effects
  split
  · have hstill : s.cleanup.fetchResources.mounted = true := by
      rw [fetchResources_of_mounted hclean]
      exact hclean
    have hlive : s.cleanup.fetchResources.remote.flights.live AdminPurpose.isRecords = [] := by
      rw [fetchResources_of_mounted hclean]
      exact (Flights.live_launch_of_other rfl).trans hrecords
    have hended := (hfetching.launch .records).ended
    simp only [fetchRecords_of_mounted hstill]
    exact ⟨hfetching.coherent.launch _, hended, fun _ => hslice.launch_other rfl,
      fun _ _ => Remote.Slice.of_launch hfetching.coherent hlive rfl _, fun _ _ => herror, fun _ _ => rfl⟩
  · rename_i hother
    refine ⟨hfetching.coherent, hfetching.ended, fun _ => hslice, fun _ hbuilder => ?_, fun _ _ => herror,
      hfetching.recordsError_false⟩
    rw [fetchResources_of_mounted hclean] at hbuilder
    exact absurd hbuilder hother

end Hook

/-! ## The events -/

section Step

variable {formatBytes : Nat → GoString} {sys : System σ η ResourceCall ResourceAnswer} {s next : AdminPage σ}

theorem Fresh.serve (hs : Fresh s)
    {server : Config ℕ σ ResourceCall ResourceAnswer ConnectError ResourceResponse}
    {label : Label ℕ η ResourceCall ResourceAnswer} (hstep : sys.step s.remote.server label = some server) :
    Fresh { s with remote := { s.remote with server := server } } where
  coherent := hs.coherent.serve hstep
  ended m hm := by
    obtain ⟨hle, hover⟩ := hs.ended m hm
    refine ⟨hle, ?_⟩
    change (server.threads m.number).isOver = true
    rw [threads_of_isOver hover hstep]
    exact hover
  resources hmounted := (hs.resources hmounted).serve (List.forall_mem_map.mpr fun m hm => (hs.ended m hm).2) hstep
  records hmounted hkind := (hs.records hmounted hkind).serve (List.forall_mem_map.mpr fun m hm => (hs.ended m hm).2) hstep
  error_none := hs.error_none
  recordsError_false := hs.recordsError_false

/-- Starting a call that is for neither list. -/
theorem Fresh.launch (hs : Fresh s) {k : AdminPurpose} (hresources : k.isResources = false)
    (hrecords : k.isRecords = false) : Fresh (s.launch k) :=
  ⟨(hs.steady.launch k).coherent, (hs.steady.launch k).ended,
    fun hmounted => (hs.resources hmounted).launch_other hresources,
    fun hmounted hkind => (hs.records hmounted hkind).launch_other hrecords, hs.error_none, hs.recordsError_false⟩

/-- The part of the state that the lists are about. -/
structure SameLists (h h' : AdminHook) : Prop where
  kind : h'.kind = h.kind
  result : h'.result = h.result
  isLoading : h'.isLoading = h.isLoading
  error : h'.error = h.error
  builderRecords : h'.builderRecords = h.builderRecords
  recordsLoading : h'.recordsLoading = h.recordsLoading
  recordsError : h'.recordsError = h.recordsError

theorem Fresh.set (hs : Fresh s) {f : AdminHook → AdminHook} (hsame : SameLists s.hook (f s.hook)) :
    Fresh (s.set f) := by
  unfold AdminPage.set
  split
  · refine ⟨hs.coherent, hs.ended, fun hmounted => ?_, fun hmounted hkind => ?_, fun hmounted hloading => ?_,
      fun hmounted hloading => ?_⟩
    · have hslice := hs.resources hmounted
      simp only [ResourcesSlice, hsame.kind, hsame.result, hsame.isLoading, hsame.error] at hslice ⊢
      exact hslice
    · have hslice := hs.records hmounted (hsame.kind ▸ hkind)
      simp only [RecordsSlice, hsame.builderRecords, hsame.recordsLoading, hsame.recordsError] at hslice ⊢
      exact hslice
    · exact hsame.error.trans (hs.error_none hmounted (hsame.isLoading.symm.trans hloading))
    · exact hsame.recordsError.trans (hs.recordsError_false hmounted (hsame.recordsLoading.symm.trans hloading))
  · exact hs

theorem sameLists_mark (m : AdminMutation) (h : AdminHook) : SameLists h (m.mark h) := by
  cases m <;> exact ⟨rfl, rfl, rfl, rfl, rfl, rfl, rfl⟩

theorem sameLists_unmark (m : AdminMutation) (h : AdminHook) : SameLists h (m.unmark h) := by
  cases m <;> exact ⟨rfl, rfl, rfl, rfl, rfl, rfl, rfl⟩

/-- Without a page there is nothing to be shown. -/
theorem Steady.of_unmounted (hs : Steady s) (hmounted : s.mounted = false) : Fresh s := by
  have hnot : s.mounted ≠ true := by simp [hmounted]
  exact ⟨hs.coherent, hs.ended, fun htrue => absurd htrue hnot, fun htrue => absurd htrue hnot,
    fun htrue => absurd htrue hnot, fun htrue => absurd htrue hnot⟩

theorem Steady.refresh (hs : Steady s) : Fresh s.refresh := by
  unfold AdminPage.refresh
  split
  · rename_i hmounted
    exact hs.effects hmounted
  · rename_i hmounted
    exact hs.of_unmounted (by simpa using hmounted)

theorem Steady.measureVolumeUsage (hs : Steady s) (measuring : Bool) : Steady (s.measureVolumeUsage measuring) := by
  unfold AdminPage.measureVolumeUsage
  split
  · exact hs
  · refine Steady.launch (hs.set ?_) _
    exact fun _ => ⟨rfl, rfl⟩

theorem Fresh.measureVolumeUsage (hs : Fresh s) (measuring : Bool) : Fresh (s.measureVolumeUsage measuring) := by
  unfold AdminPage.measureVolumeUsage
  split
  · exact hs
  · exact (hs.set ⟨rfl, rfl, rfl, rfl, rfl, rfl, rfl⟩).launch rfl rfl

theorem Fresh.mutate (hs : Fresh s) (m : AdminMutation) : Fresh (s.mutate m) := by
  unfold AdminPage.mutate
  split
  · exact (hs.set (sameLists_mark m _)).launch rfl rfl
  · exact hs

theorem Fresh.act (hs : Fresh s) (hmounted : s.mounted = true) (a : AdminAction) : Fresh (s.act a) := by
  cases a with
  | setKind kind =>
      change Fresh (if kind = s.hook.kind then s else AdminPage.effects (s.set fun h => { h with kind := kind }))
      split
      · exact hs
      · refine Steady.effects (hs.steady.set ?_) (by rw [set_mounted]; exact hmounted)
        exact fun _ => ⟨rfl, rfl⟩
  | refresh => exact hs.steady.refresh
  | deleteImage id => exact hs.mutate _
  | deleteNetwork id => exact hs.mutate _
  | pruneImages danglingOnly => exact hs.mutate _
  | pruneBuildCache => exact hs.mutate _
  | pruneBuildCacheRecord id => exact hs.mutate _
  | pruneVolumes => exact hs.mutate _
  | pruneNetworks => exact hs.mutate _
  | measureVolumeUsage => exact hs.measureVolumeUsage _

/-! ## Calls that come back -/

variable {f : Flight AdminPurpose}

/-- A call comes back, and other toasts are shown. -/
def landing (s : AdminPage σ) (f : Flight AdminPurpose) (toasts : List Toast) : AdminPage σ :=
  { s with remote := s.remote.land f, toasts := toasts }

/-- A call that is overtaken, or for neither list, comes back. -/
theorem Fresh.land_other (hs : Fresh s) (hresources : f ∉ s.remote.flights.live AdminPurpose.isResources)
    (hrecords : f ∉ s.remote.flights.live AdminPurpose.isRecords) (toasts : List Toast) :
    Fresh (landing s f toasts) :=
  ⟨hs.coherent.land f, hs.ended, fun hmounted => (hs.resources hmounted).land_other hresources,
    fun hmounted hkind => (hs.records hmounted hkind).land_other hrecords, hs.error_none, hs.recordsError_false⟩

/-- A call of neither list is not live for them. -/
theorem not_mem_live_of_purpose {p : AdminPurpose → Bool} (hpurpose : p f.purpose = false) :
    f ∉ s.remote.flights.live p := by
  intro hmem
  have htrue := (Flights.mem_live.mp hmem).2.1
  rw [hpurpose] at htrue
  cases htrue

theorem not_mem_live_of_cancelled {p : AdminPurpose → Bool} (hcancelled : f.cancelled = true) :
    f ∉ s.remote.flights.live p := by
  intro hmem
  have hfalse := (Flights.mem_live.mp hmem).2.2
  rw [hcancelled] at hfalse
  cases hfalse

/-- A call ends, and the hook shows it. -/
theorem Fresh.settle (hs : Fresh s) {change : AdminHook → AdminHook}
    (hresources : s.mounted = true → ResourcesSlice { landing s f s.toasts with hook := change s.hook })
    (hrecords : s.mounted = true → (change s.hook).kind = .builder →
      RecordsSlice { landing s f s.toasts with hook := change s.hook })
    (herror : s.mounted = true → (change s.hook).isLoading = true → (change s.hook).error = none)
    (hrecordsError : s.mounted = true → (change s.hook).recordsLoading = true →
      (change s.hook).recordsError = false) : Fresh ((landing s f s.toasts).set change) := by
  have hsteady : Steady (landing s f s.toasts) := ⟨hs.coherent.land f, hs.ended, hs.recordsError_false⟩
  unfold AdminPage.set
  split
  · exact ⟨hsteady.coherent, hsteady.ended, hresources, hrecords, herror, hrecordsError⟩
  · rename_i hmounted
    exact hsteady.of_unmounted (by simpa [landing] using hmounted)

theorem mem_live_of_purpose {p : AdminPurpose → Bool} (hf : f ∈ s.remote.flights.pending)
    (hpurpose : p f.purpose = true) (hcancelled : ¬ f.cancelled = true) : f ∈ s.remote.flights.live p :=
  Flights.mem_live.mpr ⟨hf, hpurpose, by simpa using hcancelled⟩

/-- A mutation comes back with a response, and both lists are fetched anew. -/
theorem Fresh.afterSuccess (hs : Fresh s) (hf : f ∈ s.remote.flights.pending) {resp : ResourceResponse}
    (hresult : s.remote.result? f = some (.ok resp)) (m : AdminMutation) (toasts : List Toast) :
    Fresh (AdminPage.afterSuccess
      (AdminPage.set { landing s f toasts with succeeded := f :: s.succeeded } m.unmark) m) := by
  have hover : (s.remote.server.threads f.number).isOver = true := by
    have hresult : (s.remote.server.threads f.number).result? = some (.ok resp) := hresult
    simp [Program.isOver, hresult]
  have hsteady : Steady { landing s f toasts with succeeded := f :: s.succeeded } := by
    refine ⟨hs.coherent.land f, fun n hn => ?_, hs.recordsError_false⟩
    rcases List.mem_cons.mp hn with heq | hold
    · rw [heq]
      exact ⟨hs.coherent.numbered.number_le f hf, hover⟩
    · exact hs.ended n hold
  have hset := hsteady.set (f := m.unmark) fun h => by cases m <;> exact ⟨rfl, rfl⟩
  unfold AdminPage.afterSuccess
  split
  · exact (hset.measureVolumeUsage _).refresh
  · exact hset.refresh

theorem Fresh.succeed (hs : Fresh s) (hf : f ∈ s.remote.flights.pending) {resp : ResourceResponse}
    (hresult : s.remote.result? f = some (.ok resp)) (hstep : s.succeed formatBytes f resp = some next) :
    Fresh next := by
  unfold AdminPage.succeed at hstep
  split at hstep
  · rename_i kind shown hpurpose
    cases hstep
    have hrecords : f ∉ s.remote.flights.live AdminPurpose.isRecords :=
      not_mem_live_of_purpose (by rw [hpurpose]; rfl)
    split
    · rename_i hcancelled
      exact hs.land_other (not_mem_live_of_cancelled hcancelled) hrecords s.toasts
    · rename_i hcancelled
      have hlive := mem_live_of_purpose (p := AdminPurpose.isResources) hf (by rw [hpurpose]; rfl) hcancelled
      refine hs.settle (fun hmounted => ?_) (fun hmounted hkind => ?_) nofun hs.recordsError_false
      · have hslice := hs.resources hmounted
        exact hslice.land_ok hs.coherent hlive hresult
          ⟨hs.error_none hmounted (hslice.loading_of_live hlive), shown, rfl, rfl⟩
      · exact (hs.records hmounted hkind).land_other hrecords
  · rename_i shown hpurpose
    cases hstep
    have hresources : f ∉ s.remote.flights.live AdminPurpose.isResources :=
      not_mem_live_of_purpose (by rw [hpurpose]; rfl)
    split
    · rename_i hcancelled
      exact hs.land_other hresources (not_mem_live_of_cancelled hcancelled) s.toasts
    · rename_i hcancelled
      have hlive := mem_live_of_purpose (p := AdminPurpose.isRecords) hf (by rw [hpurpose]; rfl) hcancelled
      refine hs.settle (fun hmounted => (hs.resources hmounted).land_other hresources) (fun hmounted hkind => ?_)
        hs.error_none nofun
      have hslice := hs.records hmounted hkind
      exact hslice.land_ok hs.coherent hlive hresult
        ⟨hs.recordsError_false hmounted (hslice.loading_of_live hlive), rfl⟩
  · rename_i m resp hpurpose
    obtain ⟨message, -, rfl⟩ := Option.map_eq_some_iff.mp hstep
    exact hs.afterSuccess hf hresult m (.success message :: s.toasts)
  · rename_i resp hpurpose
    cases hstep
    exact (hs.land_other (not_mem_live_of_purpose (by rw [hpurpose]; rfl))
      (not_mem_live_of_purpose (by rw [hpurpose]; rfl)) s.toasts).set ⟨rfl, rfl, rfl, rfl, rfl, rfl, rfl⟩
  · cases hstep

theorem Fresh.failed (hs : Fresh s) (hf : f ∈ s.remote.flights.pending) (message : GoString) :
    Fresh (s.failed f message) := by
  unfold AdminPage.failed
  split
  · rename_i kind hpurpose
    have hrecords : f ∉ s.remote.flights.live AdminPurpose.isRecords :=
      not_mem_live_of_purpose (by rw [hpurpose]; rfl)
    split
    · rename_i hcancelled
      exact hs.land_other (not_mem_live_of_cancelled hcancelled) hrecords s.toasts
    · rename_i hcancelled
      have hlive := mem_live_of_purpose (p := AdminPurpose.isResources) hf (by rw [hpurpose]; rfl) hcancelled
      exact hs.settle (fun hmounted => (hs.resources hmounted).land_error hlive ⟨rfl, rfl⟩)
        (fun hmounted hkind => (hs.records hmounted hkind).land_other hrecords) nofun hs.recordsError_false
  · rename_i hpurpose
    have hresources : f ∉ s.remote.flights.live AdminPurpose.isResources :=
      not_mem_live_of_purpose (by rw [hpurpose]; rfl)
    split
    · rename_i hcancelled
      exact hs.land_other hresources (not_mem_live_of_cancelled hcancelled) s.toasts
    · rename_i hcancelled
      have hlive := mem_live_of_purpose (p := AdminPurpose.isRecords) hf (by rw [hpurpose]; rfl) hcancelled
      exact hs.settle (fun hmounted => (hs.resources hmounted).land_other hresources)
        (fun hmounted hkind => (hs.records hmounted hkind).land_error hlive ⟨rfl, rfl⟩) hs.error_none nofun
  · rename_i m hpurpose
    exact (hs.land_other (not_mem_live_of_purpose (by rw [hpurpose]; rfl))
      (not_mem_live_of_purpose (by rw [hpurpose]; rfl)) _).set (sameLists_unmark m _)
  · rename_i hpurpose
    exact (hs.land_other (not_mem_live_of_purpose (by rw [hpurpose]; rfl))
      (not_mem_live_of_purpose (by rw [hpurpose]; rfl)) _).set ⟨rfl, rfl, rfl, rfl, rfl, rfl, rfl⟩

theorem fresh_step (s : AdminPage σ) (event : AdminEvent η) (next : AdminPage σ) (hs : Fresh s)
    (hstep : s.step formatBytes sys event = some next) : Fresh next := by
  cases event with
  | act a =>
      simp only [AdminPage.step, Option.ite_none_right_eq_some, Option.some.injEq] at hstep
      obtain ⟨hmounted, rfl⟩ := hstep
      exact hs.act hmounted a
  | serve label =>
      obtain ⟨server, hserver, rfl⟩ := Option.map_eq_some_iff.mp hstep
      exact hs.serve hserver
  | landed f =>
      simp only [AdminPage.step, Option.ite_none_right_eq_some] at hstep
      obtain ⟨hf, hstep⟩ := hstep
      split at hstep
      · rename_i resp hresult
        exact hs.succeed hf hresult hstep
      · cases hstep
        exact hs.failed hf _
      · cases hstep
  | lost f message =>
      simp only [AdminPage.step, Option.ite_none_right_eq_some, Option.some.injEq] at hstep
      obtain ⟨hf, rfl⟩ := hstep
      exact hs.failed hf message
  | unmount =>
      simp only [AdminPage.step, Option.ite_none_right_eq_some, Option.some.injEq] at hstep
      obtain ⟨hmounted, rfl⟩ := hstep
      exact Steady.of_unmounted ⟨hs.steady.cleanup.coherent, hs.ended, nofun⟩ rfl

theorem fresh_mount (shared : σ) (kind : AdminResourceKind) : Fresh (AdminPage.mount shared kind) :=
  Steady.effects ⟨Remote.coherent_start shared _, nofun, nofun⟩ rfl

end Step

/-! ## Responses -/

section Answers

variable {formatBytes : Nat → GoString}

/-- The response is one to such a call. -/
def AdminPurpose.Answered (formatBytes : Nat → GoString) : AdminPurpose → ResourceResponse → Prop
  | .resources kind, .resources next => next.kind = kind
  | .records, .records _ => True
  | .mutation m, .mutated resp => (m.success formatBytes resp).isSome = true
  | .measure, .usage _ => True
  | _, _ => False

theorem along_liftMutation {α : Type} {Q : α → Prop} {past : List CallEvent} {past' : List ResourceEvent}
    {p : Handler α} (halong : p.Along (fun _ _ => True) (fun _ a => Q a) past) :
    (liftMutation p).Along (fun _ _ => True) (fun _ a => Q a) past' := by
  induction p generalizing past past' with
  | done a => exact halong
  | fail e => trivial
  | call op next ih => exact ⟨trivial, fun answer => ih answer (halong.2 answer)⟩

theorem along_mutation (m : AdminMutation) :
    m.handler.Along (fun _ _ => True) (fun _ resp => (m.success formatBytes resp).isSome = true) [] := by
  cases m with
  | deleteImage id =>
      simp [AdminMutation.handler, Admin.deleteImage, AdminMutation.success, Program.along_true]
  | deleteNetwork id =>
      simp [AdminMutation.handler, Admin.deleteNetwork, AdminMutation.success, Program.along_true]
  | pruneImages danglingOnly =>
      simp [AdminMutation.handler, Admin.pruneImages, AdminMutation.success, Program.along_true]
  | pruneBuildCache =>
      simp [AdminMutation.handler, Admin.pruneBuildCache, AdminMutation.success, Program.along_true]
  | pruneBuildCacheRecord id =>
      simp [AdminMutation.handler, Admin.pruneBuildCacheRecord, AdminMutation.success, Program.along_true]
  | pruneVolumes measured measuring =>
      simp [AdminMutation.handler, Admin.pruneVolumes, AdminMutation.success, Program.along_true]
  | pruneNetworks =>
      simp [AdminMutation.handler, Admin.pruneNetworks, AdminMutation.success, Program.along_true]

/-- A handler answers its call. -/
theorem along_handler (formatBytes : Nat → GoString) (k : AdminPurpose) :
    k.handler.Along (fun _ _ => True) (fun _ resp => k.Answered formatBytes resp) [] := by
  have hwrap : ∀ {α : Type} {p : ResourceHandler α} {wrap : α → ResourceResponse},
      (∀ a, k.Answered formatBytes (wrap a)) →
        (p >>= fun a => .done (wrap a)).Along (fun _ _ => True) (fun _ resp => k.Answered formatBytes resp) [] := by
    intro α p wrap hwrap
    rw [Program.along_bind]
    exact (Program.along_true p).mono (fun _ _ _ => trivial) fun _ a _ => hwrap a
  cases k with
  | resources kind =>
      cases kind with
      | images => exact hwrap fun _ => rfl
      | volumes => exact hwrap fun _ => rfl
      | networks => exact hwrap fun _ => rfl
      | builder => exact hwrap fun _ => rfl
  | records => exact hwrap fun _ => trivial
  | mutation m =>
      have hprogram : (AdminPurpose.mutation m).handler =
          liftMutation m.handler >>= fun resp => .done (ResourceResponse.mutated resp) := rfl
      rw [hprogram, Program.along_bind]
      exact along_liftMutation (along_mutation m)
  | measure => exact hwrap fun _ => trivial

/-- A call that has been answered can come back. -/
theorem Fresh.exists_landed {s : AdminPage σ} (hs : Fresh s) (sys : System σ η ResourceCall ResourceAnswer)
    {f : Flight AdminPurpose} (hf : f ∈ s.remote.flights.pending) {result : Except ConnectError ResourceResponse}
    (hresult : s.remote.result? f = some result) : ∃ next, s.step formatBytes sys (.landed f) = some next := by
  simp only [AdminPage.step, if_pos hf, hresult]
  cases result with
  | error err => exact ⟨_, rfl⟩
  | ok resp =>
      have hdone : s.remote.server.threads f.number = .done resp := Program.eq_done_of_result? hresult
      have hthrough := hs.coherent.through f hf
      rw [hdone] at hthrough
      have hanswered := (along_handler formatBytes f.purpose).of_through hthrough
      unfold AdminPurpose.Answered at hanswered
      unfold AdminPage.succeed
      split at hanswered
      · rename_i hpurpose
        simp [hpurpose]
      · rename_i hpurpose
        simp [hpurpose]
      · rename_i m resp hpurpose
        obtain ⟨message, hmessage⟩ := Option.isSome_iff_exists.mp hanswered
        simp [hpurpose, hmessage]
      · rename_i hpurpose
        simp [hpurpose]
      · exact hanswered.elim

end Answers

/-! ## Every run -/

/-- In every run of the page, the server and the host: while nothing is being fetched, the list of the open tab is an
error, or it is a response of the handler of this tab all of whose calls to the Docker host have come after those of
every mutation that has come back to the page; so is the list of the build cache records on its tab.  And something is
being fetched exactly while a call for it is in flight that has not been overtaken. -/
theorem adminResources_fresh {formatBytes : Nat → GoString} {sys : System σ η ResourceCall ResourceAnswer}
    {shared : σ} {kind : AdminResourceKind} {events : List (AdminEvent η)} {s : AdminPage σ}
    (hrun : exec (AdminPage.step formatBytes sys) (AdminPage.mount shared kind) events = some s)
    (hmounted : s.mounted = true) :
    (s.hook.isLoading = false →
        s.hook.error = some resourcesError ∧ s.hook.result = none ∨
          s.hook.error = none ∧ ∃ result, s.hook.result = some result ∧ result.kind = s.hook.kind ∧
            ReadAfter s (.resources s.hook.kind) (.resources result)) ∧
      (s.hook.isLoading = true ↔
        ∃ f ∈ s.remote.flights.pending, f.cancelled = false ∧ f.purpose = .resources s.hook.kind) ∧
      (s.hook.kind = .builder →
        (s.hook.recordsLoading = false →
            s.hook.recordsError = true ∧ s.hook.builderRecords = [] ∨
              s.hook.recordsError = false ∧ ReadAfter s .records (.records s.hook.builderRecords)) ∧
          (s.hook.recordsLoading = true ↔
            ∃ f ∈ s.remote.flights.pending, f.cancelled = false ∧ f.purpose = .records)) := by
  have hs : Fresh s := exec_invariant Fresh fresh_step hrun (fresh_mount shared kind)
  have hresources := hs.resources hmounted
  refine ⟨fun hloading => ?_, hresources.loading_iff rfl, fun hbuilder => ?_⟩
  · refine (hresources.settled hloading).imp id ?_
    rintro ⟨resp, ⟨herror, result, hresult, rfl⟩, n, hthrough, hlater⟩
    have hkind := (along_handler formatBytes _).of_through hthrough
    exact ⟨herror, result, hresult, hkind, n, hthrough, fun f hf => hlater _ (List.mem_map_of_mem hf)⟩
  · have hrecords := hs.records hmounted hbuilder
    refine ⟨fun hloading => ?_, hrecords.loading_iff rfl⟩
    refine (hrecords.settled hloading).imp id ?_
    rintro ⟨resp, ⟨herror, rfl⟩, n, hthrough, hlater⟩
    exact ⟨herror, n, hthrough, fun f hf => hlater _ (List.mem_map_of_mem hf)⟩

/-! ## A run -/

/-- A host that has only images. -/
def sampleHost : System (List ImageSummary) Unit ResourceCall ResourceAnswer where
  answer images
    | ⟨.imageList, .ok items⟩ => if items = images then some images else none
    | ⟨.mutation (.imageRemove id _), .ok ()⟩ => some (images.filter fun image => image.id ≠ id)
    | _ => none
  env images _ := some images

def sampleImage : ImageSummary := ⟨str "a", [], 0, 1, 0⟩

/-- The image is deleted while the list is on its way: the old list comes back last but one, and is dropped. -/
def sampleAdminRun : List (AdminEvent Unit) :=
  [.serve (.call 1 ⟨.imageList, .ok [sampleImage]⟩), .act (.deleteImage (str "a")),
    .serve (.call 2 ⟨.mutation (.imageRemove (str "a") true), .ok ()⟩),
    .landed ⟨2, .mutation (.deleteImage (str "a")), false⟩, .serve (.call 3 ⟨.imageList, .ok []⟩),
    .landed ⟨1, .resources .images, true⟩, .landed ⟨3, .resources .images, false⟩]

theorem adminResources_fresh_sample :
    ∃ s, exec (AdminPage.step (fun _ => []) sampleHost) (AdminPage.mount [sampleImage] .images) sampleAdminRun =
        some s ∧
      s.succeeded.map Flight.number = [2] ∧ s.hook.result = some (.images []) ∧
      ReadAfter s (.resources .images) (.resources (.images [])) := by
  have hrun : (exec (AdminPage.step (fun _ => []) sampleHost) (AdminPage.mount [sampleImage] .images)
      sampleAdminRun).map (fun s => (s.mounted, s.succeeded.map Flight.number, s.hook)) =
        some (true, [2],
          { kind := .images, result := some (.images []), isLoading := false, error := none, deletingId := none,
            deletingNetworkId := none, pruning := false, pruningScope := none, pruningRecordId := none,
            builderRecords := [], recordsLoading := false, recordsError := false, volumeUsage := none,
            measuring := false }) := by
    decide +kernel
  obtain ⟨s, hs, hview⟩ := Option.map_eq_some_iff.mp hrun
  obtain ⟨hmounted, hsucceeded, hhook⟩ : s.mounted = true ∧ s.succeeded.map Flight.number = [2] ∧ s.hook = _ := by
    simpa [Prod.ext_iff] using hview
  obtain ⟨hshown, -⟩ := adminResources_fresh hs hmounted
  refine ⟨s, hs, hsucceeded, by rw [hhook], ?_⟩
  rcases hshown (by rw [hhook]) with ⟨herror, -⟩ | ⟨-, result, hresult, -, hread⟩
  · rw [hhook] at herror
    cases herror
  · rw [hhook] at hresult hread
    cases hresult
    exact hread

end Frontend
end Dmanager
