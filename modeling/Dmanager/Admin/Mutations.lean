import Dmanager.Server.Calls

/-!
# The mutations of the admin service

The procedures of `internal/admin/service.go` that change the Docker host.  Each is a single call to the
daemon; the deletions and the removal of one cache record check the id first.  The service does not look
at the user, which is left to the interceptor.

Each procedure has one lemma (`commits_…`): it succeeds exactly when the daemon accepts its call.  That is
all these handlers know, and for one of them it is too little: the daemon also accepts the prune of a cache
record that it then keeps (`occurs_pruneBuildCacheRecord`).
-/

namespace Dmanager
namespace Admin

open Go Lib Server
open Program (perform orFail ensure Succeeds Occurs)

/-- The error of a call whose failures are not told apart. -/
def unavailable (message : String) (err : DockerError) : ConnectError :=
  wrapError .unavailable message err.message

/-! ## Deletions -/

/-- The errors of `DeleteImage`. -/
def deleteImageError (err : DockerError) : ConnectError :=
  match err.kind with
  | .notFound => newError .notFound "image not found on Docker host"
  | .conflict => wrapError .failedPrecondition "image is in use or has a tag conflict" err.message
  | _ => unavailable "failed to delete image" err

/-- `DeleteImage`. -/
def deleteImage (id : GoString) (force : Bool) : Handler AnyResponse := do
  ensure (id ≠ []) (newError .invalidArgument "image ID is required")
  orFail deleteImageError (← perform (.imageRemove id force))
  .done .deleteImage

/-- The errors of `DeleteNetwork`. -/
def deleteNetworkError (err : DockerError) : ConnectError :=
  match err.kind with
  | .notFound => newError .notFound "network not found on Docker host"
  | .permissionDenied => wrapError .failedPrecondition "network is in use or pre-defined" err.message
  | _ => unavailable "failed to delete network" err

/-- `DeleteNetwork`. -/
def deleteNetwork (id : GoString) : Handler AnyResponse := do
  ensure (id ≠ []) (newError .invalidArgument "network ID is required")
  orFail deleteNetworkError (← perform (.networkRemove id))
  .done .deleteNetwork

/-! ## Prunes -/

/-- The conversion `uint32(n)` of a count. -/
def uint32 (n : Nat) : Nat := n % 2 ^ 32

/-- `PruneImages`. -/
def pruneImages (danglingOnly : Bool) : Handler AnyResponse := do
  let report ← orFail (unavailable "failed to prune images") (← perform (.imagePrune danglingOnly))
  .done (.pruneImages report.imagesDeleted report.spaceReclaimed)

/-- `PruneBuildCache`. -/
def pruneBuildCache (all : Bool) : Handler AnyResponse := do
  let report ← orFail (unavailable "failed to prune build cache") (← perform (.buildCachePrune all none))
  .done (.pruneBuildCache (uint32 report.cachesDeleted.length) report.spaceReclaimed)

/-- `PruneBuildCacheRecord`. -/
def pruneBuildCacheRecord (id : GoString) : Handler AnyResponse := do
  ensure (trimSpace id ≠ []) (newError .invalidArgument "record id is required")
  let report ← orFail (unavailable "failed to prune build cache record")
    (← perform (.buildCachePrune true (some id)))
  .done (.pruneBuildCacheRecord (uint32 report.cachesDeleted.length) report.spaceReclaimed)

/-- `PruneVolumes`. -/
def pruneVolumes : Handler AnyResponse := do
  let report ← orFail (unavailable "failed to prune volumes") (← perform .volumePrune)
  .done (.pruneVolumes (uint32 report.volumesDeleted.length) report.volumesDeleted report.spaceReclaimed)

/-- `PruneNetworks`; its count is a `uint64`. -/
def pruneNetworks : Handler AnyResponse := do
  let names ← orFail (unavailable "failed to prune networks") (← perform .networkPrune)
  .done (.pruneNetworks names.length names)

/-! ## When they succeed -/

variable {w : Outside} {id : GoString}

theorem commits_deleteImage {force : Bool} :
    (deleteImage id force).Commits fun event => ∃ u, event = ⟨.imageRemove id force, .ok u⟩ := by
  rw [deleteImage, Program.commits_ensure_bind]
  exact fun _ => Program.commits_of_deed (by simp) fun _ => trivial

theorem commits_deleteNetwork :
    (deleteNetwork id).Commits fun event => ∃ u, event = ⟨.networkRemove id, .ok u⟩ := by
  rw [deleteNetwork, Program.commits_ensure_bind]
  exact fun _ => Program.commits_of_deed (by simp) fun _ => trivial

theorem commits_pruneImages {danglingOnly : Bool} :
    (pruneImages danglingOnly).Commits
      fun event => ∃ report, event = ⟨.imagePrune danglingOnly, .ok report⟩ :=
  Program.commits_of_deed (by simp) fun _ => trivial

theorem commits_pruneBuildCache {all : Bool} :
    (pruneBuildCache all).Commits
      fun event => ∃ report, event = ⟨.buildCachePrune all none, .ok report⟩ :=
  Program.commits_of_deed (by simp) fun _ => trivial

theorem commits_pruneVolumes :
    pruneVolumes.Commits fun event => ∃ report, event = ⟨.volumePrune, .ok report⟩ :=
  Program.commits_of_deed (by simp) fun _ => trivial

theorem commits_pruneNetworks :
    pruneNetworks.Commits fun event => ∃ names, event = ⟨.networkPrune, .ok names⟩ :=
  Program.commits_of_deed (by simp) fun _ => trivial

theorem succeeds_pruneBuildCacheRecord :
    Succeeds w [] (pruneBuildCacheRecord id) ↔
      trimSpace id ≠ [] ∧ ∃ report, w (.buildCachePrune true (some id)) 0 = .ok report := by
  simp [pruneBuildCacheRecord]

/-! ## When a cache record is removed -/

/-- The daemon removes the cache record. -/
def RemovesRecord (id : GoString) (event : CallEvent) : Prop :=
  ∃ report : CachePruneReport,
    event = ⟨.buildCachePrune true (some id), .ok report⟩ ∧ report.cachesDeleted ≠ []

/-- The record is removed when, on top of that, the report of the daemon is not empty. -/
theorem occurs_pruneBuildCacheRecord :
    (∃ event, RemovesRecord id event ∧ Occurs w [] (pruneBuildCacheRecord id) event) ↔
      trimSpace id ≠ [] ∧
        ∃ report, w (.buildCachePrune true (some id)) 0 = .ok report ∧ report.cachesDeleted ≠ [] := by
  simp only [pruneBuildCacheRecord, Program.occurs_ensure_bind, Program.occurs_perform_bind,
    Program.occurs_orFail_bind, Program.not_occurs_done, List.count_nil, and_false, exists_false, or_false]
  constructor
  · rintro ⟨_, ⟨report, rfl, hdeleted⟩, hid, hevent⟩
    refine ⟨hid, report, ?_, hdeleted⟩
    cases hanswer : w (.buildCachePrune true (some id)) 0 with
    | error err => simp [hanswer] at hevent
    | ok report' => simp_all
  · rintro ⟨hid, report, hanswer, hdeleted⟩
    exact ⟨_, ⟨report, rfl, hdeleted⟩, hid, by rw [hanswer]⟩

end Admin
end Dmanager
