import Dmanager.Admin.Mutations
import Dmanager.Go.Rfc3339
import Dmanager.Lib.Paging
import Dmanager.Lib.RemoteCalls

/-!
# The inventories of the admin service

The procedures of `internal/admin/service.go` that read what the Docker host stores, as programs over `ResourceCall`:
the reads of the daemon that only they make, and the calls of `Dmanager.Admin.Mutations`.  `ListNetworks` makes one
call for the list and one for every network on it, so its rows are read one after another.

* `listBuildCacheRecords_unique` — the records come in one order, whatever order the daemon reports them in.
* `getVolumeUsage_used` — what a measurement reports before and after the unused volumes are removed, also when the
  sums leave the range of an `int64`.
-/

namespace Dmanager
namespace Admin

open Go Lib Server
open Program (perform orFail)

/-! ## Calls and answers -/

/-- `image.Summary`. -/
structure ImageSummary where
  id : GoString
  repoTags : List GoString
  created : Int
  size : Int
  containers : Int
  deriving DecidableEq, Repr

/-- `volume.Volume`; the creation time is a text. -/
structure DockerVolume where
  name : GoString
  driver : GoString
  mountpoint : GoString
  createdAt : GoString
  labels : List (GoString × GoString)
  deriving DecidableEq, Repr

/-- `network.Summary`. -/
structure NetworkSummary where
  id : GoString
  name : GoString
  driver : GoString
  scope : GoString
  internal : Bool
  created : Int
  deriving DecidableEq, Repr

/-- `build.CacheRecord`. -/
structure CacheRecord where
  id : GoString
  type : GoString
  description : GoString
  size : Int
  inUse : Bool
  shared : Bool
  usageCount : Int
  createdAt : Int
  lastUsedAt : Option Int
  deriving DecidableEq, Repr

/-- `DiskUsage` of the build cache.  The records come only with `Verbose`. -/
structure BuildCacheUsage where
  totalSize : Int
  reclaimable : Int
  totalCount : Int
  activeCount : Int
  items : List CacheRecord
  deriving DecidableEq, Repr

/-- `volume.UsageData`. -/
structure UsageData where
  size : Int
  refCount : Int
  deriving DecidableEq, Repr

/-- One volume of `DiskUsage`. -/
structure MeasuredVolume where
  name : GoString
  usageData : Option UsageData
  deriving DecidableEq, Repr

inductive ResourceCall where
  | imageList
  | volumeList
  | networkList
  | networkInspect (id : GoString)
  | buildCacheUsage (verbose : Bool)
  | volumeUsage
  | mutation (op : Call)
  deriving DecidableEq, Repr

/-- The answer to a call.  Of an inspected network only the number of its containers is read. -/
@[reducible] def ResourceAnswer : ResourceCall → Type
  | .imageList => Except DockerError (List ImageSummary)
  | .volumeList => Except DockerError (List DockerVolume)
  | .networkList => Except DockerError (List NetworkSummary)
  | .networkInspect _ => Except DockerError Nat
  | .buildCacheUsage _ => Except DockerError BuildCacheUsage
  | .volumeUsage => Except DockerError (List MeasuredVolume)
  | .mutation op => Answer op

/-- A handler of this module. -/
abbrev ResourceHandler (α : Type) := Program ResourceCall ResourceAnswer ConnectError α

/-- One call of a handler, with its answer. -/
abbrev ResourceEvent := Event ResourceCall ResourceAnswer

/-- A handler of `Dmanager.Admin.Mutations` among those of this module. -/
def liftMutation {α : Type} : Handler α → ResourceHandler α
  | .done a => .done a
  | .fail e => .fail e
  | .call op next => .call (.mutation op) fun answer => liftMutation (next answer)

/-! ## Responses -/

/-- `v1.Image`. -/
structure Image where
  id : GoString
  repoTags : List GoString
  createdUnix : Int
  sizeBytes : Int
  containersCount : Int
  deriving DecidableEq, Repr

/-- `v1.Volume`; the timestamp is the text that it has been parsed from. -/
structure Volume where
  name : GoString
  driver : GoString
  mountpoint : GoString
  createdAt : Option GoString
  labels : List (GoString × GoString)
  deriving DecidableEq, Repr

/-- `v1.Network`. -/
structure Network where
  id : GoString
  name : GoString
  driver : GoString
  scope : GoString
  internal : Bool
  createdAt : Option Int
  containersCount : Int
  predefined : Bool
  deriving DecidableEq, Repr

/-- `v1.BuildCacheRecord`. -/
structure BuildCacheRecord where
  id : GoString
  type : GoString
  description : GoString
  sizeBytes : Nat
  inUse : Bool
  shared : Bool
  usageCount : Nat
  createdAt : Int
  lastUsedAt : Option Int
  deriving DecidableEq, Repr

/-- `v1.GetBuildCacheStatsResponse`. -/
structure BuildCacheStats where
  totalBytes : Nat
  reclaimableBytes : Nat
  recordCount : Nat
  activeCount : Nat
  deriving DecidableEq, Repr

/-- `v1.VolumeUsage`. -/
structure VolumeUsage where
  name : GoString
  sizeBytes : Int
  refCount : Int
  deriving DecidableEq, Repr

/-- `v1.GetVolumeUsageResponse`. -/
structure VolumeUsageResponse where
  volumes : List VolumeUsage
  totalSizeBytes : Int
  reclaimableBytes : Int
  unusedCount : Nat
  deriving DecidableEq, Repr

/-! ## Images and volumes -/

/-- A row of `ListImages`. -/
def imageRow (summary : ImageSummary) : Image where
  id := summary.id
  repoTags := summary.repoTags
  createdUnix := summary.created
  sizeBytes := summary.size
  containersCount := summary.containers

/-- `ListImages`. -/
def listImages : ResourceHandler (List Image) := do
  let items ← orFail (unavailable "failed to list images") (← perform .imageList)
  .done (items.map imageRow)

/-- A row of `ListVolumes`. -/
def volumeRow (v : DockerVolume) : Volume where
  name := v.name
  driver := v.driver
  mountpoint := v.mountpoint
  createdAt := if parsesRFC3339Nano v.createdAt then some v.createdAt else none
  labels := v.labels

/-- `ListVolumes`. -/
def listVolumes : ResourceHandler (List Volume) := do
  let items ← orFail (unavailable "failed to list volumes") (← perform .volumeList)
  .done (items.map volumeRow)

/-! ## Networks -/

/-- `isPredefinedNetwork`. -/
def isPredefinedNetwork (name : GoString) : Bool := name ∈ [str "bridge", str "host", str "none"]

/-- A row of `ListNetworks`; a network that could not be inspected has the count -1. -/
def networkRow (summary : NetworkSummary) (inspect : Except DockerError Nat) : Network where
  id := summary.id
  name := summary.name
  driver := summary.driver
  scope := summary.scope
  internal := summary.internal
  createdAt := if summary.created = zeroTime then none else some summary.created
  containersCount :=
    match inspect with
    | .ok containers => containers
    | .error _ => -1
  predefined := isPredefinedNetwork summary.name

/-- The loop of `ListNetworks`. -/
def networkRows : List NetworkSummary → ResourceHandler (List Network)
  | [] => .done []
  | summary :: rest => do
    let inspect ← perform (.networkInspect summary.id)
    let rows ← networkRows rest
    .done (networkRow summary inspect :: rows)

/-- `ListNetworks`. -/
def listNetworks : ResourceHandler (List Network) := do
  let items ← orFail (unavailable "failed to list networks") (← perform .networkList)
  networkRows items

/-! ## The build cache -/

/-- The conversion `uint64(n)` of an `int64`. -/
def uint64 (n : Int) : Nat := (n % 2 ^ 64).toNat

/-- The conversion `uint32(n)` of an `int64`. -/
def uint32OfInt (n : Int) : Nat := (n % 2 ^ 32).toNat

/-- `GetBuildCacheStats`. -/
def getBuildCacheStats : ResourceHandler BuildCacheStats := do
  let bc ← orFail (unavailable "failed to read build cache stats") (← perform (.buildCacheUsage false))
  .done
    { totalBytes := uint64 bc.totalSize
      reclaimableBytes := uint64 bc.reclaimable
      recordCount := uint32OfInt bc.totalCount
      activeCount := uint32OfInt bc.activeCount }

/-- The comparison that sorts the records: the larger one first, and by id among those of one size. -/
def CacheRecord.before (a b : CacheRecord) : Bool :=
  if a.size ≠ b.size then decide (b.size < a.size) else decide (a.id < b.id)

/-- A row of `ListBuildCacheRecords`. -/
def cacheRecordRow (item : CacheRecord) : BuildCacheRecord where
  id := item.id
  type := item.type
  description := item.description
  sizeBytes := uint64 item.size
  inUse := item.inUse
  shared := item.shared
  usageCount := uint64 item.usageCount
  createdAt := item.createdAt
  lastUsedAt := item.lastUsedAt

/-- `slices.SortFunc` of the records.  It is not stable; only records of one size and id can tell. -/
def sortRecords (items : List CacheRecord) : List CacheRecord := items.mergeSort fun a b => !b.before a

/-- `ListBuildCacheRecords`. -/
def listBuildCacheRecords : ResourceHandler (List BuildCacheRecord) := do
  let bc ← orFail (unavailable "failed to list build cache records") (← perform (.buildCacheUsage true))
  .done ((sortRecords bc.items).map cacheRecordRow)

/-! ## Volume usage -/

/-- The addition of two `int64`. -/
def addInt64 (m n : Int) : Int := (m + n).bmod (2 ^ 64)

/-- A row of `GetVolumeUsage`. -/
def usageRow (v : MeasuredVolume) : VolumeUsage :=
  match v.usageData with
  | some usage => ⟨v.name, usage.size, usage.refCount⟩
  | none => ⟨v.name, 0, 0⟩

/-- The loop of `GetVolumeUsage`, for the sums and the count. -/
def addUsage (acc : VolumeUsageResponse) (row : VolumeUsage) : VolumeUsageResponse where
  volumes := acc.volumes ++ [row]
  totalSizeBytes := if 0 ≤ row.sizeBytes then addInt64 acc.totalSizeBytes row.sizeBytes else acc.totalSizeBytes
  reclaimableBytes :=
    if 0 ≤ row.sizeBytes ∧ row.refCount = 0 then addInt64 acc.reclaimableBytes row.sizeBytes
    else acc.reclaimableBytes
  unusedCount := if row.refCount = 0 then uint32 (acc.unusedCount + 1) else acc.unusedCount

/-- What `GetVolumeUsage` makes of the measured volumes. -/
def measured (items : List MeasuredVolume) : VolumeUsageResponse :=
  (items.map usageRow).foldl addUsage ⟨[], 0, 0, 0⟩

/-- `GetVolumeUsage`. -/
def getVolumeUsage : ResourceHandler VolumeUsageResponse := do
  let items ← orFail (unavailable "failed to measure volume usage") (← perform .volumeUsage)
  .done (measured items)

/-! ## The order of the records -/

theorem before_iff {a b : CacheRecord} :
    a.before b = true ↔ b.size < a.size ∨ a.size = b.size ∧ a.id < b.id := by
  unfold CacheRecord.before
  split
  · rename_i hne
    rw [decide_eq_true_iff]
    exact ⟨Or.inl, fun h => h.resolve_right fun hsame => hne hsame.1⟩
  · rename_i hne
    have hsame : a.size = b.size := not_not.mp hne
    rw [decide_eq_true_iff]
    exact ⟨fun h => Or.inr ⟨hsame, h⟩, fun h => (h.resolve_left (by omega)).2⟩

theorem before_eq_false_iff {a b : CacheRecord} :
    b.before a = false ↔ b.size < a.size ∨ a.size = b.size ∧ ¬ b.id < a.id := by
  rw [← Bool.not_eq_true, before_iff, not_or, not_and]
  constructor
  · rintro ⟨hle, hid⟩
    rcases lt_or_eq_of_le (not_lt.mp hle) with hlt | heq
    · exact Or.inl hlt
    · exact Or.inr ⟨heq.symm, hid heq⟩
  · rintro (hlt | ⟨heq, hid⟩)
    · exact ⟨by omega, fun heq => absurd hlt (by omega)⟩
    · exact ⟨by omega, fun _ => hid⟩

/-- The sorted records are in the order of the comparison. -/
theorem arranged_sortRecords (items : List CacheRecord) :
    Arranged (fun a b => CacheRecord.before a b = true) items (sortRecords items) := by
  refine ⟨List.mergeSort_perm _ _, ?_⟩
  have hsorted : (sortRecords items).Pairwise fun a b => (!b.before a) = true := by
    refine List.pairwise_mergeSort (fun a b c hab hbc => ?_) (fun a b => ?_) items
    · rw [Bool.not_eq_true', before_eq_false_iff] at *
      rcases hab with hab | ⟨hab, hid⟩ <;> rcases hbc with hbc | ⟨hbc, hid'⟩
      · exact Or.inl (by omega)
      · exact Or.inl (by omega)
      · exact Or.inl (by omega)
      · exact Or.inr ⟨hab.trans hbc, List.not_lt.mpr (List.le_trans (List.not_lt.mp hid) (List.not_lt.mp hid'))⟩
    · simp only [Bool.or_eq_true, Bool.not_eq_true', before_eq_false_iff]
      rcases lt_trichotomy a.size b.size with hlt | heq | hgt
      · exact Or.inr (Or.inl hlt)
      · rcases List.le_total a.id b.id with hle | hle
        · exact Or.inl (Or.inr ⟨heq, List.not_lt.mpr hle⟩)
        · exact Or.inr (Or.inr ⟨heq.symm, List.not_lt.mpr hle⟩)
      · exact Or.inl (Or.inl hgt)
  exact hsorted.imp fun h => by simpa using h

/-- Records that the comparison does not tell apart have one id. -/
theorem id_eq_of_not_before {a b : CacheRecord} (hab : ¬ a.before b = true) (hba : ¬ b.before a = true) :
    a.id = b.id := by
  rw [Bool.not_eq_true, before_eq_false_iff] at hab hba
  rcases hab with hlt | ⟨heq, hid⟩ <;> rcases hba with hlt' | ⟨heq', hid'⟩
  · omega
  · omega
  · omega
  · exact List.le_antisymm (List.not_lt.mp hid') (List.not_lt.mp hid)

/-- The row has the id, the texts, the flags and the times of its record, and its numbers in 64 bits. -/
structure BuildCacheRecord.Shows (item : CacheRecord) (row : BuildCacheRecord) : Prop where
  id : row.id = item.id
  type : row.type = item.type
  description : row.description = item.description
  sizeBytes : (row.sizeBytes : Int) = item.size % 2 ^ 64
  inUse : row.inUse = item.inUse
  shared : row.shared = item.shared
  usageCount : (row.usageCount : Int) = item.usageCount % 2 ^ 64
  createdAt : row.createdAt = item.createdAt
  lastUsedAt : row.lastUsedAt = item.lastUsedAt

theorem natCast_uint64 (n : Int) : (uint64 n : Int) = n % 2 ^ 64 :=
  Int.toNat_of_nonneg (Int.emod_nonneg n (by decide))

theorem shows_cacheRecordRow (item : CacheRecord) : BuildCacheRecord.Shows item (cacheRecordRow item) where
  id := rfl
  type := rfl
  description := rfl
  sizeBytes := natCast_uint64 item.size
  inUse := rfl
  shared := rfl
  usageCount := natCast_uint64 item.usageCount
  createdAt := rfl
  lastUsedAt := rfl

/-- The response lists the records of the daemon in the one order of the comparison, whatever the order in which the
daemon reports them and whatever the algorithm that sorts them, and each with what the daemon says of it. -/
theorem listBuildCacheRecords_unique {bc : BuildCacheUsage} {items arranged : List CacheRecord}
    (hreported : bc.items.Perm items) (hids : (items.map CacheRecord.id).Nodup)
    (harranged : Arranged (fun a b => CacheRecord.before a b = true) items arranged) :
    listBuildCacheRecords.through [⟨.buildCacheUsage true, .ok bc⟩] =
        some (.done (arranged.map cacheRecordRow)) ∧
      List.Forall₂ BuildCacheRecord.Shows arranged (arranged.map cacheRecordRow) := by
  have hsorted : Arranged (fun a b => CacheRecord.before a b = true) items (sortRecords bc.items) :=
    ⟨(arranged_sortRecords bc.items).1.trans hreported, (arranged_sortRecords bc.items).2⟩
  have hunique : sortRecords bc.items = arranged :=
    hsorted.unique harranged fun a ha b hb hab hba =>
      List.inj_on_of_nodup_map hids ha hb (id_eq_of_not_before hab hba)
  refine ⟨?_, List.forall₂_map_right_iff.mpr (List.forall₂_same.mpr fun item _ => shows_cacheRecordRow item)⟩
  rw [← hunique]
  rfl

def smallRecord : CacheRecord := ⟨str "b", [], [], 1, false, false, 0, 0, none⟩

def largeRecord : CacheRecord := ⟨str "a", [], [], 2, false, false, 0, 0, none⟩

theorem listBuildCacheRecords_unique_two :
    listBuildCacheRecords.through [⟨.buildCacheUsage true, .ok ⟨3, 3, 2, 0, [smallRecord, largeRecord]⟩⟩] =
        some (.done ([largeRecord, smallRecord].map cacheRecordRow)) ∧
      List.Forall₂ BuildCacheRecord.Shows [largeRecord, smallRecord]
        ([largeRecord, smallRecord].map cacheRecordRow) :=
  listBuildCacheRecords_unique (List.Perm.refl [smallRecord, largeRecord]) (by decide)
    ⟨List.Perm.swap _ _ _, by decide⟩

/-! ## The sums of a measurement -/

/-- The size of a volume, where it is known. -/
def knownSize (row : VolumeUsage) : Int := if 0 ≤ row.sizeBytes then row.sizeBytes else 0

/-- The size of a volume that no container refers to, where it is known. -/
def freeSize (row : VolumeUsage) : Int := if 0 ≤ row.sizeBytes ∧ row.refCount = 0 then row.sizeBytes else 0

/-- The sums are those of the known sizes, up to the range of an `int64`; a volume of unknown size is counted. -/
theorem foldl_addUsage (rows : List VolumeUsage) :
    rows.foldl addUsage ⟨[], 0, 0, 0⟩ =
      { volumes := rows
        totalSizeBytes := (rows.map knownSize).sum.bmod (2 ^ 64)
        reclaimableBytes := (rows.map freeSize).sum.bmod (2 ^ 64)
        unusedCount := uint32 (rows.countP fun row => row.refCount = 0) } := by
  induction rows using List.reverseRecOn with
  | nil => rfl
  | append_singleton rows row ih =>
      rw [List.foldl_append, ih, List.foldl_cons, List.foldl_nil]
      simp only [addUsage, List.map_append, List.map_cons, List.map_nil, List.sum_append, List.sum_cons,
        List.sum_nil, Int.add_zero, List.countP_append, List.countP_cons, List.countP_nil,
        VolumeUsageResponse.mk.injEq, true_and]
      refine ⟨?_, ?_, ?_⟩
      · by_cases hsize : 0 ≤ row.sizeBytes
        · simp [knownSize, hsize, addInt64]
        · simp [knownSize, hsize]
      · by_cases hfree : 0 ≤ row.sizeBytes ∧ row.refCount = 0
        · simp [freeSize, hfree, addInt64]
        · simp [freeSize, hfree]
      · by_cases hunused : row.refCount = 0
        · simp [hunused, uint32]
        · simp [hunused]

/-- What is known of the volumes in use is what is known of all of them less what is known of the unused ones. -/
theorem sum_knownSize_used (rows : List VolumeUsage) :
    ((rows.filter fun row => row.refCount != 0).map knownSize).sum =
      (rows.map knownSize).sum - (rows.map freeSize).sum := by
  induction rows with
  | nil => rfl
  | cons row rest ih =>
      by_cases hunused : row.refCount = 0
      · have hsame : knownSize row = freeSize row := by simp [knownSize, freeSize, hunused]
        simp [hunused, ih, hsame]
      · have hnone : freeSize row = 0 := by simp [freeSize, hunused]
        simp only [bne_iff_ne, ne_eq, hunused, not_false_eq_true, List.filter_cons_of_pos, List.map_cons,
          List.sum_cons, ih, hnone]
        ring

theorem sum_freeSize_used (rows : List VolumeUsage) :
    ((rows.filter fun row => row.refCount != 0).map freeSize).sum = 0 := by
  refine List.sum_eq_zero fun size hsize => ?_
  obtain ⟨row, hrow, rfl⟩ := List.mem_map.mp hsize
  have hused : row.refCount ≠ 0 := by simpa using (List.mem_filter.mp hrow).2
  simp [freeSize, hused]

theorem map_usageRow_used (items : List MeasuredVolume) :
    (items.filter fun v => (usageRow v).refCount != 0).map usageRow =
      (items.map usageRow).filter fun row => row.refCount != 0 := by
  rw [List.filter_map]
  rfl

/-- Before the unused volumes are removed a measurement counts them, and afterwards there are none, and the total is
less by what was reclaimable, also when the sums leave the range of an `int64`; a volume whose size is unknown counts as
unused but adds nothing to the sums. -/
theorem getVolumeUsage_used (items : List MeasuredVolume) :
    ∃ before after, getVolumeUsage.through [⟨.volumeUsage, .ok items⟩] = some (.done before) ∧
      getVolumeUsage.through [⟨.volumeUsage, .ok (items.filter fun v => (usageRow v).refCount != 0)⟩] =
        some (.done after) ∧
      after.volumes = before.volumes.filter (fun row => row.refCount != 0) ∧
      before.unusedCount = uint32 (before.volumes.length - after.volumes.length) ∧ after.unusedCount = 0 ∧
      after.reclaimableBytes = 0 ∧
      after.totalSizeBytes = (before.totalSizeBytes - before.reclaimableBytes).bmod (2 ^ 64) := by
  have hmeasured : ∀ items, measured items = _ := fun items => foldl_addUsage (items.map usageRow)
  refine ⟨measured items, measured (items.filter fun v => (usageRow v).refCount != 0), rfl, rfl, ?_, ?_, ?_, ?_, ?_⟩
  · simp only [hmeasured, map_usageRow_used]
  · simp only [hmeasured, map_usageRow_used]
    congr 1
    have hsplit := List.length_eq_countP_add_countP (fun row : VolumeUsage => row.refCount != 0)
      (l := items.map usageRow)
    rw [← List.countP_eq_length_filter]
    simp only [bne_iff_ne, ne_eq, Decidable.not_not] at hsplit
    omega
  · simp only [hmeasured, map_usageRow_used]
    have hnone : ((items.map usageRow).filter fun row => row.refCount != 0).countP
        (fun row => row.refCount = 0) = 0 := by
      rw [List.countP_eq_zero]
      intro row hrow
      simpa using (List.mem_filter.mp hrow).2
    rw [hnone]
    rfl
  · simp only [hmeasured, map_usageRow_used, sum_freeSize_used]
    rfl
  · simp only [hmeasured, map_usageRow_used, sum_knownSize_used, Int.bmod_sub_bmod, Int.sub_bmod_bmod]

end Admin
end Dmanager
