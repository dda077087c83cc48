import Dmanager.Go.Connect
import Dmanager.Lib.Program
import Dmanager.Server.Api

/-!
# The calls of the handlers

The handlers of the administrative procedures and the event monitor are programs (`Dmanager.Lib.Program`)
over the calls listed here: those to the Docker Engine, its event stream included, the statements on the
tables `containers` and `settings`, the request to the Gotify server, the clock, the broker of the streams
and the auditor.  Go leaves the iteration order of
a map open; it is answered like a call (`mapOrder`).

A call carries the arguments that the source computes.  Left out are the registry credentials of
`ImagePull` and `DistributionInspect`, which no modelled function reads, and the log lines.
-/

namespace Dmanager
namespace Db

open Go

/-- `db.Container`; the three nullable columns are options. -/
structure Container where
  id : GoString
  name : GoString
  image : GoString
  imageID : GoString
  state : GoString
  autoUpdate : Int
  updateAvailable : Int
  latestImageDigest : Option GoString
  lastCheckedAt : Option Int
  lastUpdatedAt : Option Int
  createdAt : Int
  updatedAt : Int
  deriving DecidableEq, Repr

/-- `db.SaveContainerParams`. -/
structure SaveContainerParams where
  id : GoString
  name : GoString
  image : GoString
  imageID : GoString
  state : GoString
  autoUpdate : Int
  updateAvailable : Int
  latestImageDigest : Option GoString
  lastCheckedAt : Option Int
  lastUpdatedAt : Option Int
  updatedAt : Int
  deriving DecidableEq, Repr

/-- `db.UpdateContainerUpdateStateParams`. -/
structure UpdateContainerUpdateStateParams where
  id : GoString
  updateAvailable : Int
  latestImageDigest : GoString
  lastCheckedAt : Int
  deriving DecidableEq, Repr

/-- `db.UpdateContainerForUpgradeParams`; `oldID` is `ID_2`, the id of the row to update. -/
structure UpdateContainerForUpgradeParams where
  id : GoString
  name : GoString
  image : GoString
  imageID : GoString
  state : GoString
  lastUpdatedAt : Int
  oldID : GoString
  deriving DecidableEq, Repr

/-- `db.UpsertContainerFromEventParams`. -/
structure UpsertContainerFromEventParams where
  id : GoString
  name : GoString
  image : GoString
  imageID : GoString
  state : GoString
  deriving DecidableEq, Repr

/-- The error of a query: `sql.ErrNoRows` or another one, with its text. -/
inductive QueryError where
  | noRows
  | other (message : GoString)
  deriving DecidableEq, Repr

/-- `err.Error()`. -/
def QueryError.text : QueryError → GoString
  | .noRows => str "sql: no rows in result set"
  | .other message => message

end Db

namespace Server

open Go Db Lib

/-! ## The Docker Engine -/

/-- The classes of errors that the handlers tell apart (`cerrdefs.IsNotFound` and so on). -/
inductive DockerErrorKind where
  | notFound
  | conflict
  | permissionDenied
  | other
  deriving DecidableEq, Repr

structure DockerError where
  kind : DockerErrorKind
  message : GoString
  deriving DecidableEq, Repr

/-- `container.Config`: the image reference, and the rest as one opaque value. -/
structure ContainerConfig where
  image : GoString
  rest : GoString
  deriving DecidableEq, Repr

/-- A map of networks: the entries in the order in which the source iterates over them, with pairwise
different names.  The endpoint settings of a network are one opaque value. -/
abbrev NetworkMap := { entries : List (GoString × GoString) // (entries.map Prod.fst).Nodup }

/-- What `ContainerInspect` reports.  The API fills `State`, `Config` and `NetworkSettings` of every
container it reports, so the nil checks of the source are always passed. -/
structure ContainerInspect where
  name : GoString
  image : GoString
  config : ContainerConfig
  hostConfig : GoString
  status : GoString
  running : Bool
  networks : NetworkMap
  deriving DecidableEq, Repr

/-- What `ImageInspect` reports. -/
structure ImageInspect where
  id : GoString
  repoDigests : List GoString
  deriving DecidableEq, Repr

/-- `client.ContainerCreateOptions`; `network` is the only endpoint of its `NetworkingConfig`. -/
structure ContainerCreateOptions where
  config : ContainerConfig
  hostConfig : GoString
  network : Option (GoString × GoString)
  name : GoString
  deriving DecidableEq, Repr

/-- One item of `ContainerList`. -/
structure ContainerSummary where
  id : GoString
  names : List GoString
  image : GoString
  imageID : GoString
  state : GoString
  deriving DecidableEq, Repr

/-- `events.Action` of the container events: the ones that lifecycle actions emit, and any other. -/
inductive Action where
  | create
  | start
  | stop
  | die
  | kill
  | restart
  | pause
  | unpause
  | rename
  | update
  | destroy
  | delete
  | other (name : GoString)
  deriving DecidableEq, Repr

/-- `events.Message`: the action, and the id of the container. -/
structure Message where
  action : Action
  actorID : GoString
  deriving DecidableEq, Repr

structure ImagePruneReport where
  imagesDeleted : List PrunedImage
  spaceReclaimed : Nat
  deriving DecidableEq, Repr

structure CachePruneReport where
  cachesDeleted : List GoString
  spaceReclaimed : Nat
  deriving DecidableEq, Repr

structure VolumePruneReport where
  volumesDeleted : List GoString
  spaceReclaimed : Nat
  deriving DecidableEq, Repr

/-- The status code and the body of an HTTP response. -/
structure HttpResponse where
  statusCode : Int
  body : GoString
  deriving DecidableEq, Repr

/-! ## Calls and answers -/

inductive Call where
  -- the Docker Engine
  | imageRemove (id : GoString) (force : Bool)
  | imagePrune (danglingOnly : Bool)
  | buildCachePrune (all : Bool) (id : Option GoString)
  | volumePrune
  | networkRemove (id : GoString)
  | networkPrune
  | containerInspect (id : GoString)
  | containerStart (id : GoString)
  | containerStop (id : GoString)
  | containerRemove (id : GoString)
  | containerCreate (options : ContainerCreateOptions)
  | networkConnect (network container endpoint : GoString)
  | imagePull (image : GoString)
  | copyProgress (image : GoString)
  | imageInspect (image : GoString)
  | distributionInspect (image : GoString)
  | containerList
  | receiveEvent
  | events
  | streamNext
  -- the database
  | listContainers
  | getContainer (id : GoString)
  | saveContainer (arg : SaveContainerParams)
  | setContainerAutoUpdate (id : GoString) (autoUpdate : Int)
  | updateContainerUpdateState (arg : UpdateContainerUpdateStateParams)
  | updateContainerForUpgrade (arg : UpdateContainerForUpgradeParams)
  | upsertContainerFromEvent (arg : UpsertContainerFromEventParams)
  | deleteContainer (id : GoString)
  | deleteOrphanContainers (activeIDs : List GoString)
  | getSetting (key : GoString)
  | updateSetting (key value : GoString)
  -- the Gotify server
  | newRequest (url : GoString)
  | postMessage (url token : GoString)
  | sendGotify (title message : GoString) (priority : Int)
  -- the process itself
  | timeNow
  | mapOrder (entries : List (GoString × GoString))
  | publishSave (record : Container)
  | publishDelete (id : GoString)
  | logInfo (message containerID : GoString)
  | record (entry : Entry)
  deriving DecidableEq, Repr

/-- The answer to a call.  A statement that fails reports its text; the three updates of a container report the number
of rows they changed otherwise, whether the code asks for it or not.  `imagePull` is answered when the daemon has
begun to pull, and `copyProgress` is the reading of the progress that it streams from then on, up to an error that
the daemon or the connection reports, or else to the end of the pull.  `events` subscribes to the events of the
Docker Engine, and `streamNext` is what comes next on the two channels of the subscription: an event, or a value of
the error channel, which may be `nil`.  `sendGotify` is the notifier, which logs its own failures.  `logInfo` is a
line of the log with the id of a container; of these lines there is only the one with which the scheduler announces
an upgrade. -/
@[reducible] def Answer : Call → Type
  | .imageRemove _ _ => Except DockerError Unit
  | .imagePrune _ => Except DockerError ImagePruneReport
  | .buildCachePrune _ _ => Except DockerError CachePruneReport
  | .volumePrune => Except DockerError VolumePruneReport
  | .networkRemove _ => Except DockerError Unit
  | .networkPrune => Except DockerError (List GoString)
  | .containerInspect _ => Except DockerError ContainerInspect
  | .containerStart _ => Except DockerError Unit
  | .containerStop _ => Except DockerError Unit
  | .containerRemove _ => Except DockerError Unit
  | .containerCreate _ => Except DockerError GoString
  | .networkConnect _ _ _ => Except DockerError Unit
  | .imagePull _ => Except DockerError Unit
  | .copyProgress _ => Except GoString Unit
  | .imageInspect _ => Except DockerError ImageInspect
  | .distributionInspect _ => Except DockerError GoString
  | .containerList => Except DockerError (List ContainerSummary)
  | .receiveEvent => Message
  | .events => Unit
  | .streamNext => Except (Option GoString) Message
  | .listContainers => Except GoString (List Container)
  | .getContainer _ => Except QueryError Container
  | .saveContainer _ => Except GoString Unit
  | .setContainerAutoUpdate _ _ => Except GoString Nat
  | .updateContainerUpdateState _ => Except GoString Nat
  | .updateContainerForUpgrade _ => Except GoString Nat
  | .upsertContainerFromEvent _ => Except GoString Unit
  | .deleteContainer _ => Except GoString Unit
  | .deleteOrphanContainers _ => Except GoString Unit
  | .getSetting _ => Except QueryError GoString
  | .updateSetting _ _ => Except GoString Unit
  | .newRequest _ => Except GoString Unit
  | .postMessage _ _ => Except GoString HttpResponse
  | .sendGotify _ _ _ => Unit
  | .timeNow => Int
  | .mapOrder entries => { order : List (GoString × GoString) // order.Perm entries }
  | .publishSave _ => Unit
  | .publishDelete _ => Unit
  | .logInfo _ _ => Unit
  | .record _ => Unit

/-- A handler: a program over these calls that may fail with a Connect error. -/
abbrev Handler (α : Type) := Program Call Answer ConnectError α

/-- The outside during one request. -/
abbrev Outside := World Call Answer

/-- One call of a request, with its answer. -/
abbrev CallEvent := Event Call Answer

/-- The entries that the calls of a request pass to the auditor. -/
def recordedEntries (trace : List CallEvent) : List Entry :=
  trace.filterMap fun event =>
    match event.op with
    | .record entry => some entry
    | _ => none

/-- The call is one to the auditor. -/
def IsRecord : Call → Prop
  | .record _ => True
  | _ => False

@[simp] theorem recordedEntries_append (first second : List CallEvent) :
    recordedEntries (first ++ second) = recordedEntries first ++ recordedEntries second :=
  List.filterMap_append

/-- A handler that has no auditor records nothing. -/
theorem recordedEntries_of_never {ε α : Type} {w : Outside} {past : List Call}
    {p : Program Call Answer ε α} (hnever : p.Never IsRecord) :
    recordedEntries (p.run w past).trace = [] := by
  refine hnever.filterMap_trace fun event hsome => ?_
  split at hsome
  · rename_i entry hop
    rw [hop]
    trivial
  · exact absurd rfl hsome

end Server
end Dmanager
