import Dmanager.Go.Strings

/-!
# Procedures, messages and audit entries

What the interceptor, the handlers and the audit trail have in common: the procedure names of the generated
code, the request and response messages of the administrative mutations, and `audit.Entry`.

A `connect.AnyRequest` holds one message of any type.  The messages of the mutations are the constructors
of `AnyRequest` and `AnyResponse`; every other message is `other`, because no modelled function looks into
it.
-/

namespace Dmanager
namespace Server

open Go

/-! ## Procedure names -/

def adminProcedure (method : String) : GoString := str "/dmanager.v1.AdminService/" ++ str method

def authProcedure (method : String) : GoString := str "/dmanager.v1.AuthService/" ++ str method

def containerProcedure (method : String) : GoString := str "/dmanager.v1.ContainerService/" ++ str method

def logProcedure (method : String) : GoString := str "/dmanager.v1.LogService/" ++ str method

def settingsProcedure (method : String) : GoString := str "/dmanager.v1.SettingsService/" ++ str method

def deleteImageProcedure : GoString := adminProcedure "DeleteImage"
def pruneImagesProcedure : GoString := adminProcedure "PruneImages"
def pruneBuildCacheProcedure : GoString := adminProcedure "PruneBuildCache"
def pruneBuildCacheRecordProcedure : GoString := adminProcedure "PruneBuildCacheRecord"
def pruneVolumesProcedure : GoString := adminProcedure "PruneVolumes"
def deleteNetworkProcedure : GoString := adminProcedure "DeleteNetwork"
def pruneNetworksProcedure : GoString := adminProcedure "PruneNetworks"
def listAuditLogsProcedure : GoString := adminProcedure "ListAuditLogs"
def startContainerProcedure : GoString := containerProcedure "StartContainer"
def stopContainerProcedure : GoString := containerProcedure "StopContainer"
def upgradeContainerProcedure : GoString := containerProcedure "UpgradeContainer"
def setContainerAutoUpdateProcedure : GoString := containerProcedure "SetContainerAutoUpdate"
def checkContainerUpdatesProcedure : GoString := containerProcedure "CheckContainerUpdates"
def updateSettingsProcedure : GoString := settingsProcedure "UpdateSettings"
def testGotifyNotificationProcedure : GoString := settingsProcedure "TestGotifyNotification"

/-! ## Messages -/

/-- The request messages of the mutations. -/
inductive AnyRequest where
  | deleteImage (id : GoString) (force : Bool)
  | pruneImages (danglingOnly : Bool)
  | pruneBuildCache (all : Bool)
  | pruneBuildCacheRecord (id : GoString)
  | pruneVolumes
  | deleteNetwork (id : GoString)
  | pruneNetworks
  | startContainer (id : GoString)
  | stopContainer (id : GoString)
  | upgradeContainer (id : GoString)
  | setContainerAutoUpdate (id : GoString) (autoUpdate : Bool)
  | checkContainerUpdates (id : GoString)
  | updateSettings (gotifyUrl gotifyToken : GoString) (auditRetentionDays : Int)
  | testGotifyNotification (gotifyUrl gotifyToken : GoString)
  | other
  deriving DecidableEq, Repr

/-- `PrunedImage`. -/
structure PrunedImage where
  deleted : GoString
  untagged : GoString
  deriving DecidableEq, Repr

/-- The response messages of the mutations.  Counts are the `uint32` and `uint64` fields. -/
inductive AnyResponse where
  | deleteImage
  | pruneImages (imagesDeleted : List PrunedImage) (spaceReclaimed : Nat)
  | pruneBuildCache (cachesDeleted spaceReclaimed : Nat)
  | pruneBuildCacheRecord (cachesDeleted spaceReclaimed : Nat)
  | pruneVolumes (volumesDeleted : Nat) (names : List GoString) (spaceReclaimed : Nat)
  | deleteNetwork
  | pruneNetworks (networksDeleted : Nat) (names : List GoString)
  | startContainer (id previousState currentState : GoString)
  | stopContainer (id previousState currentState : GoString)
  | upgradeContainer (id previousImageId currentImageId : GoString)
  | setContainerAutoUpdate (id : GoString) (autoUpdate : Bool)
  | checkContainerUpdates (id : GoString) (updateAvailable : Bool) (latestImageDigest : GoString)
  | updateSettings
  | testGotifyNotification (success : Bool) (errorMessage : GoString)
  | other
  deriving DecidableEq, Repr

/-! ## Audit entries -/

/-- `SourceUser`, `SourceSystem`. -/
inductive AuditSource where
  | user
  | system
  deriving DecidableEq, Repr

/-- `OutcomeSuccess`, `OutcomeFailure`, `OutcomeDenied`. -/
inductive AuditOutcome where
  | success
  | failure
  | denied
  deriving DecidableEq, Repr

/-- `audit.Entry`. -/
structure Entry where
  actor : GoString
  actorRole : GoString
  source : AuditSource
  action : GoString
  resourceType : GoString
  resourceID : GoString
  outcome : AuditOutcome
  detail : GoString
  deriving DecidableEq, Repr

end Server
end Dmanager
