import Dmanager.Admin.Resources
import Dmanager.Lib.RemoteCalls

/-!
# `useAdminResources`

The hook behind the administration page, together with the server that answers it: every call of the hook is served by
the handler of `internal/admin/service.go`, which runs among the others and among whatever else happens to the Docker
host.  An answer can be lost on its way while the handler goes on.

A change of the state and the effects that it causes are one step.  The effects of the hook mark the calls they have
overtaken (`cancelled`), and what comes back to such a call, or after unmounting, changes nothing.  The callbacks are
those of the last render, except for what `pruneVolumes` does after its await: it goes by the usage and by the flag
`measuring` of the render in which it was called, so its call carries both.

`formatBytes` writes floating-point numbers, so it is a parameter.
-/

namespace Dmanager
namespace Frontend

open Go Lib Server Admin

/-! ## Data -/

/-- `AdminResourceKind`. -/
inductive AdminResourceKind where
  | images
  | volumes
  | networks
  | builder
  deriving DecidableEq, Repr

/-- `AdminResourcesResult`. -/
inductive AdminResourcesResult where
  | images (data : List Image)
  | volumes (data : List Volume)
  | networks (data : List Network)
  | builder (data : BuildCacheStats)
  deriving DecidableEq, Repr

/-- `result.kind`. -/
def AdminResourcesResult.kind : AdminResourcesResult → AdminResourceKind
  | .images _ => .images
  | .volumes _ => .volumes
  | .networks _ => .networks
  | .builder _ => .builder

/-- The values of `pruningScope`. -/
inductive PruneScope where
  | unused
  | dangling
  | builder
  | volumes
  | networks
  deriving DecidableEq, Repr

/-- The calls that change the host.  That of `pruneVolumes` carries whether a usage was shown and whether a measurement
was in flight when it was called. -/
inductive AdminMutation where
  | deleteImage (id : GoString)
  | deleteNetwork (id : GoString)
  | pruneImages (danglingOnly : Bool)
  | pruneBuildCache
  | pruneBuildCacheRecord (id : GoString)
  | pruneVolumes (measured measuring : Bool)
  | pruneNetworks
  deriving DecidableEq, Repr

/-- What a call of the hook is for. -/
inductive AdminPurpose where
  | resources (kind : AdminResourceKind)
  | records
  | mutation (m : AdminMutation)
  | measure
  deriving DecidableEq, Repr

inductive ResourceResponse where
  | resources (next : AdminResourcesResult)
  | records (records : List BuildCacheRecord)
  | mutated (resp : AnyResponse)
  | usage (resp : VolumeUsageResponse)
  deriving DecidableEq, Repr

/-- The handler of a mutation, with the arguments that the hook sends. -/
def AdminMutation.handler : AdminMutation → Handler AnyResponse
  | .deleteImage id => Admin.deleteImage id true
  | .deleteNetwork id => Admin.deleteNetwork id
  | .pruneImages danglingOnly => Admin.pruneImages danglingOnly
  | .pruneBuildCache => Admin.pruneBuildCache false
  | .pruneBuildCacheRecord id => Admin.pruneBuildCacheRecord id
  | .pruneVolumes _ _ => Admin.pruneVolumes
  | .pruneNetworks => Admin.pruneNetworks

/-- The handler that serves a call. -/
def AdminPurpose.handler : AdminPurpose → ResourceHandler ResourceResponse
  | .resources .images => do .done (.resources (.images (← listImages)))
  | .resources .volumes => do .done (.resources (.volumes (← listVolumes)))
  | .resources .networks => do .done (.resources (.networks (← listNetworks)))
  | .resources .builder => do .done (.resources (.builder (← getBuildCacheStats)))
  | .records => do .done (.records (← listBuildCacheRecords))
  | .mutation m => do .done (.mutated (← liftMutation m.handler))
  | .measure => do .done (.usage (← getVolumeUsage))

def AdminPurpose.isResources : AdminPurpose → Bool
  | .resources _ => true
  | _ => false

def AdminPurpose.isRecords : AdminPurpose → Bool
  | .records => true
  | _ => false

def AdminPurpose.isMeasure : AdminPurpose → Bool
  | .measure => true
  | _ => false

/-- The state of the hook. -/
structure AdminHook where
  kind : AdminResourceKind
  result : Option AdminResourcesResult
  isLoading : Bool
  error : Option GoString
  deletingId : Option GoString
  deletingNetworkId : Option GoString
  pruning : Bool
  pruningScope : Option PruneScope
  pruningRecordId : Option GoString
  builderRecords : List BuildCacheRecord
  recordsLoading : Bool
  recordsError : Bool
  volumeUsage : Option VolumeUsageResponse
  measuring : Bool
  deriving DecidableEq

inductive Toast where
  | success (message : GoString)
  | error (message : GoString)
  deriving DecidableEq, Repr

/-- The hook, whether it is mounted, the toasts, the latest one first, the calls, and the mutations that have come back
with a response. -/
structure AdminPage (σ : Type) where
  hook : AdminHook
  mounted : Bool
  toasts : List Toast
  remote : Remote AdminPurpose σ ResourceCall ResourceAnswer ConnectError ResourceResponse
  succeeded : List (Flight AdminPurpose)

/-! ## Texts -/

/-- The text that an error of the server has in the client: `ConnectError.message`. -/
def connectMessage (err : ConnectError) : GoString :=
  if err.message = [] then str "[" ++ err.code.text ++ str "]"
  else str "[" ++ err.code.text ++ str "] " ++ err.message

/-- The error of the list of resources. -/
def resourcesError : GoString := str "Unable to connect to the Docker monitor backend."

/-- What a failed mutation is called in its toast. -/
def AdminMutation.failure : AdminMutation → GoString
  | .deleteImage _ => str "Failed to delete image: "
  | .deleteNetwork _ => str "Failed to delete network: "
  | .pruneImages _ => str "Failed to prune images: "
  | .pruneBuildCache => str "Failed to prune build cache: "
  | .pruneBuildCacheRecord _ => str "Failed to delete cache record: "
  | .pruneVolumes _ _ => str "Failed to prune volumes: "
  | .pruneNetworks => str "Failed to prune networks: "

/-- A noun after a count. -/
def counted (count : Nat) (one many : String) : GoString := if count = 1 then str one else str many

/-- The names of up to three removed objects. -/
def namesSuffix (count : Nat) (names : List GoString) : GoString :=
  if 0 < count ∧ count ≤ 3 ∧ 0 < names.length then str " (" ++ join names (str ", ") ++ str ")" else []

/-- The toast of a mutation that has come back. -/
def AdminMutation.success (formatBytes : Nat → GoString) : AdminMutation → AnyResponse → Option GoString
  | .deleteImage _, .deleteImage => some (str "Image deleted successfully.")
  | .deleteNetwork _, .deleteNetwork => some (str "Network deleted successfully.")
  | .pruneImages danglingOnly, .pruneImages imagesDeleted spaceReclaimed =>
    let scope := if danglingOnly then str "dangling" else str "unused"
    some (str "Reclaimed " ++ formatBytes spaceReclaimed ++ str " from " ++ natString imagesDeleted.length ++
      str " " ++ scope ++ str " " ++ counted imagesDeleted.length "image" "images" ++ str ".")
  | .pruneBuildCache, .pruneBuildCache cachesDeleted spaceReclaimed =>
    some (str "Reclaimed " ++ formatBytes spaceReclaimed ++ str " from " ++ natString cachesDeleted ++ str " cache " ++
      counted cachesDeleted "record" "records" ++ str ".")
  | .pruneBuildCacheRecord _, .pruneBuildCacheRecord cachesDeleted spaceReclaimed =>
    some (str "Deleted " ++ natString cachesDeleted ++ str " cache " ++ counted cachesDeleted "record" "records" ++
      str ", reclaimed " ++ formatBytes spaceReclaimed ++ str ".")
  | .pruneVolumes _ _, .pruneVolumes volumesDeleted names spaceReclaimed =>
    some (str "Reclaimed " ++ formatBytes spaceReclaimed ++ str " from " ++ natString volumesDeleted ++
      str " unused " ++ counted volumesDeleted "volume" "volumes" ++ namesSuffix volumesDeleted names ++ str ".")
  | .pruneNetworks, .pruneNetworks networksDeleted names =>
    some (str "Deleted " ++ natString networksDeleted ++ str " unused " ++
      counted networksDeleted "network" "networks" ++ namesSuffix networksDeleted names ++ str ".")
  | _, _ => none

/-! ## What the hook does -/

/-- The flags that are up while a mutation is in flight. -/
def AdminMutation.mark (m : AdminMutation) (h : AdminHook) : AdminHook :=
  match m with
  | .deleteImage id => { h with deletingId := some id }
  | .deleteNetwork id => { h with deletingNetworkId := some id }
  | .pruneImages danglingOnly =>
    { h with pruning := true, pruningScope := some (if danglingOnly then .dangling else .unused) }
  | .pruneBuildCache => { h with pruning := true, pruningScope := some .builder }
  | .pruneBuildCacheRecord id => { h with pruning := true, pruningRecordId := some id }
  | .pruneVolumes _ _ => { h with pruning := true, pruningScope := some .volumes }
  | .pruneNetworks => { h with pruning := true, pruningScope := some .networks }

/-- The `finally` of a mutation. -/
def AdminMutation.unmark (m : AdminMutation) (h : AdminHook) : AdminHook :=
  match m with
  | .deleteImage _ => { h with deletingId := none }
  | .deleteNetwork _ => { h with deletingNetworkId := none }
  | .pruneBuildCacheRecord _ => { h with pruning := false, pruningRecordId := none }
  | _ => { h with pruning := false, pruningScope := none }

/-- Whether the guard of a mutation lets it begin. -/
def AdminMutation.mayBegin (m : AdminMutation) (h : AdminHook) : Bool :=
  match m with
  | .deleteImage _ => h.deletingId.isNone
  | .deleteNetwork _ => h.deletingNetworkId.isNone
  | _ => !h.pruning

namespace AdminPage

variable {σ η : Type}

/-- Calls of the setters; after unmounting they do nothing. -/
def set (s : AdminPage σ) (f : AdminHook → AdminHook) : AdminPage σ :=
  if s.mounted then { s with hook := f s.hook } else s

/-- A call to the server. -/
def launch (s : AdminPage σ) (k : AdminPurpose) : AdminPage σ :=
  { s with remote := s.remote.launch AdminPurpose.handler k }

/-- `fetchResources`, up to its await. -/
def fetchResources (s : AdminPage σ) : AdminPage σ :=
  (s.set fun h => { h with isLoading := true, error := none }).launch (.resources s.hook.kind)

/-- `fetchRecords`, up to its await. -/
def fetchRecords (s : AdminPage σ) : AdminPage σ :=
  (s.set fun h => { h with recordsLoading := true, recordsError := false }).launch .records

/-- The cleanups of the two effects. -/
def cleanup (s : AdminPage σ) : AdminPage σ :=
  { s with remote := (s.remote.cancel AdminPurpose.isResources).cancel AdminPurpose.isRecords }

/-- The two effects; that of the records does nothing on the other tabs. -/
def effects (s : AdminPage σ) : AdminPage σ :=
  let fetching := s.cleanup.fetchResources
  match s.hook.kind with
  | .builder => fetching.fetchRecords
  | _ => fetching

/-- `refresh`: another nonce, for which the effects run. -/
def refresh (s : AdminPage σ) : AdminPage σ := if s.mounted then s.effects else s

/-- A mutation, up to its await. -/
def mutate (s : AdminPage σ) (m : AdminMutation) : AdminPage σ :=
  if m.mayBegin s.hook then (s.set m.mark).launch (.mutation m) else s

def deleteImage (s : AdminPage σ) (id : GoString) : AdminPage σ := s.mutate (.deleteImage id)

def deleteNetwork (s : AdminPage σ) (id : GoString) : AdminPage σ := s.mutate (.deleteNetwork id)

def pruneImages (s : AdminPage σ) (danglingOnly : Bool) : AdminPage σ := s.mutate (.pruneImages danglingOnly)

def pruneBuildCache (s : AdminPage σ) : AdminPage σ := s.mutate .pruneBuildCache

def pruneBuildCacheRecord (s : AdminPage σ) (id : GoString) : AdminPage σ := s.mutate (.pruneBuildCacheRecord id)

def pruneVolumes (s : AdminPage σ) : AdminPage σ :=
  s.mutate (.pruneVolumes s.hook.volumeUsage.isSome s.hook.measuring)

def pruneNetworks (s : AdminPage σ) : AdminPage σ := s.mutate .pruneNetworks

/-- `measureVolumeUsage` of a render with this flag, up to its await. -/
def measureVolumeUsage (s : AdminPage σ) (measuring : Bool) : AdminPage σ :=
  if measuring then s else (s.set fun h => { h with measuring := true }).launch .measure

/-- What a mutation does when it comes back with a response, after its `finally`. -/
def afterSuccess (s : AdminPage σ) : AdminMutation → AdminPage σ
  -- the measurement is on its way before the effects run
  | .pruneVolumes true measuring => (s.measureVolumeUsage measuring).refresh
  | _ => s.refresh

/-- A call of the hook comes back with a response. -/
def succeed (formatBytes : Nat → GoString) (s : AdminPage σ) (f : Flight AdminPurpose) (resp : ResourceResponse) :
    Option (AdminPage σ) :=
  let landed := { s with remote := s.remote.land f }
  match f.purpose, resp with
  | .resources _, .resources next =>
    some (if f.cancelled then landed else landed.set fun h => { h with result := some next, isLoading := false })
  | .records, .records records =>
    some (if f.cancelled then landed
      else landed.set fun h => { h with builderRecords := records, recordsLoading := false })
  | .mutation m, .mutated resp =>
    (m.success formatBytes resp).map fun message =>
      afterSuccess
        (set { landed with toasts := .success message :: s.toasts, succeeded := f :: s.succeeded } m.unmark) m
  | .measure, .usage resp =>
    some (landed.set fun h => { h with volumeUsage := some resp, measuring := false })
  | _, _ => none

/-- A call of the hook fails. -/
def failed (s : AdminPage σ) (f : Flight AdminPurpose) (message : GoString) : AdminPage σ :=
  let landed := { s with remote := s.remote.land f }
  match f.purpose with
  | .resources _ =>
    if f.cancelled then landed
    else landed.set fun h => { h with error := some resourcesError, result := none, isLoading := false }
  | .records =>
    if f.cancelled then landed
    else landed.set fun h => { h with recordsError := true, builderRecords := [], recordsLoading := false }
  | .mutation m => set { landed with toasts := .error (m.failure ++ message) :: s.toasts } m.unmark
  | .measure =>
    set { landed with toasts := .error (str "Failed to measure volume usage: " ++ message) :: s.toasts }
      fun h => { h with measuring := false }

/-- The page is opened on a tab. -/
def mount (shared : σ) (kind : AdminResourceKind) : AdminPage σ :=
  effects
    { hook :=
        { kind := kind, result := none, isLoading := true, error := none, deletingId := none,
          deletingNetworkId := none, pruning := false, pruningScope := none, pruningRecordId := none,
          builderRecords := [], recordsLoading := false, recordsError := false, volumeUsage := none,
          measuring := false }
      mounted := true
      toasts := []
      remote := Remote.start shared (newError .unavailable "no call")
      succeeded := [] }

end AdminPage

/-- What the user does on the page. -/
inductive AdminAction where
  | setKind (kind : AdminResourceKind)
  | refresh
  | deleteImage (id : GoString)
  | deleteNetwork (id : GoString)
  | pruneImages (danglingOnly : Bool)
  | pruneBuildCache
  | pruneBuildCacheRecord (id : GoString)
  | pruneVolumes
  | pruneNetworks
  | measureVolumeUsage
  deriving DecidableEq, Repr

/-- The events: what the user does, the server and what else happens to the host, a response or an error of the server
that arrives, a call that fails on its way, and the end of the page. -/
inductive AdminEvent (η : Type) where
  | act (a : AdminAction)
  | serve (label : Label ℕ η ResourceCall ResourceAnswer)
  | landed (f : Flight AdminPurpose)
  | lost (f : Flight AdminPurpose) (message : GoString)
  | unmount

variable {σ η : Type}

/-- What an action of the user does. -/
def AdminPage.act (s : AdminPage σ) : AdminAction → AdminPage σ
  | .setKind kind => if kind = s.hook.kind then s else effects (s.set fun h => { h with kind := kind })
  | .refresh => s.refresh
  | .deleteImage id => s.deleteImage id
  | .deleteNetwork id => s.deleteNetwork id
  | .pruneImages danglingOnly => s.pruneImages danglingOnly
  | .pruneBuildCache => s.pruneBuildCache
  | .pruneBuildCacheRecord id => s.pruneBuildCacheRecord id
  | .pruneVolumes => s.pruneVolumes
  | .pruneNetworks => s.pruneNetworks
  | .measureVolumeUsage => s.measureVolumeUsage s.hook.measuring

/-- One event. -/
def AdminPage.step (formatBytes : Nat → GoString) (sys : System σ η ResourceCall ResourceAnswer)
    (s : AdminPage σ) : AdminEvent η → Option (AdminPage σ)
  | .act a => if s.mounted then some (s.act a) else none
  | .serve label =>
    (sys.step s.remote.server label).map fun server => { s with remote := { s.remote with server := server } }
  | .landed f =>
    if f ∈ s.remote.flights.pending then
      match s.remote.result? f with
      | some (.ok resp) => s.succeed formatBytes f resp
      | some (.error err) => some (s.failed f (connectMessage err))
      | none => none
    else none
  | .lost f message => if f ∈ s.remote.flights.pending then some (s.failed f message) else none
  | .unmount => if s.mounted then some { s.cleanup with mounted := false } else none

end Frontend
end Dmanager
