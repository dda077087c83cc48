import Dmanager.Auth.Session
import Dmanager.Server.Calls

/-!
# The actions on containers

`StartContainer`, `StopContainer`, `SetContainerAutoUpdate` and `CheckContainerUpdates` of
`internal/container/actions.go`, as programs over the calls they make.  Starting and stopping are the same
code with different words and one different call, so they are one definition (`changeState`).

For each of them the module says when the request succeeds and when its action has been carried out, in
terms of the answers of the outside.  The two differ.  The daemon may have started or stopped the container
when one of the later calls fails (`succeeds_changeState`, `occurs_changeState`).  The other two end in a
statement that succeeds when there is no row to change any more (`succeeds_setContainerAutoUpdate`,
`occurs_setContainerAutoUpdate`, `succeeds_checkContainerUpdates`, `occurs_checkContainerUpdates`).
-/

namespace Dmanager
namespace Container

open Go Db Lib Server Auth
open Program (perform orFail ensure Succeeds Occurs)

/-- `container.Service`: whether there is a Docker client, and whether there is an auditor. -/
structure Service where
  dockerClient : Bool
  auditor : Bool
  deriving DecidableEq, Repr

/-- The authorization check at the top of each action. -/
def requireAdmin (ctx : Ctx) : Handler User :=
  match ctx.user with
  | none => .fail (newError .unauthenticated "unauthenticated")
  | some user =>
    if user.role ≠ adminRole then .fail (newError .permissionDenied "admin privilege required")
    else .done user

/-- The id check that follows it. -/
def requireContainerID (containerID : GoString) : Handler Unit :=
  ensure (containerID ≠ []) (newError .invalidArgument "container ID is required")

/-- The error of the first `GetContainer` of an action. -/
def getContainerError : QueryError → ConnectError
  | .noRows => newError .notFound "container not found"
  | .other message => wrapError .internal "failed to query container from DB" message

/-- The error of the first `ContainerInspect` of an action. -/
def inspectError (err : DockerError) : ConnectError :=
  if err.kind = .notFound then newError .notFound "container not found on Docker host"
  else wrapError .internal "failed to inspect container" err.message

/-- The check of the Docker client. -/
def requireDockerClient (s : Service) : Handler Unit :=
  ensure (s.dockerClient = true) (newError .internal "docker client not initialized")

/-- Publish the row as it is now, if it can be read. -/
def publishRow {ε : Type} (containerID : GoString) : Program Call Answer ε Unit := do
  let reread ← perform (Call.getContainer containerID)
  match reread with
  | .ok record => perform (Call.publishSave record)
  | .error _ => .done ()

/-! ## Starting and stopping -/

/-- What distinguishes `StartContainer` from `StopContainer`. -/
inductive Transition where
  | start
  | stop
  deriving DecidableEq, Repr

def Transition.word : Transition → String
  | .start => "start"
  | .stop => "stop"

/-- The call that changes the state. -/
def Transition.act (transition : Transition) (containerID : GoString) :
    Handler (Except DockerError Unit) :=
  match transition with
  | .start => perform (Call.containerStart containerID)
  | .stop => perform (Call.containerStop containerID)

def Transition.response (transition : Transition) (id previousState currentState : GoString) :
    AnyResponse :=
  match transition with
  | .start => .startContainer id previousState currentState
  | .stop => .stopContainer id previousState currentState

/-- The row that is written back after the change. -/
def changedRow (containerID : GoString) (existing : Db.Container) (currentState : GoString) (now : Int) :
    SaveContainerParams where
  id := containerID
  name := existing.name
  image := existing.image
  imageID := existing.imageID
  state := currentState
  autoUpdate := existing.autoUpdate
  updateAvailable := existing.updateAvailable
  latestImageDigest := existing.latestImageDigest
  lastCheckedAt := existing.lastCheckedAt
  lastUpdatedAt := existing.lastUpdatedAt
  updatedAt := now

/-- The common body of `StartContainer` and `StopContainer`. -/
def changeState (transition : Transition) (s : Service) (ctx : Ctx) (containerID : GoString) :
    Handler AnyResponse := do
  let _ ← requireAdmin ctx
  requireContainerID containerID
  let existing ← orFail getContainerError (← perform (.getContainer containerID))
  requireDockerClient s
  let inspectBefore ← orFail inspectError (← perform (.containerInspect containerID))
  orFail (fun err => wrapError .internal ("failed to " ++ transition.word ++ " container") err.message)
    (← transition.act containerID)
  let inspectAfter ← orFail
    (fun err => wrapError .internal ("failed to inspect container after " ++ transition.word) err.message)
    (← perform (.containerInspect containerID))
  let now ← perform .timeNow
  orFail (wrapError .internal "failed to update container state in DB")
    (← perform (.saveContainer (changedRow containerID existing inspectAfter.status now)))
  publishRow containerID
  .done (transition.response containerID inspectBefore.status inspectAfter.status)

/-- `StartContainer`. -/
def startContainer : Service → Ctx → GoString → Handler AnyResponse := changeState .start

/-- `StopContainer`. -/
def stopContainer : Service → Ctx → GoString → Handler AnyResponse := changeState .stop

/-! ## The auto-update flag -/

/-- `SetContainerAutoUpdate`. -/
def setContainerAutoUpdate (ctx : Ctx) (containerID : GoString) (autoUpdate : Bool) :
    Handler AnyResponse := do
  let _ ← requireAdmin ctx
  requireContainerID containerID
  let _ ← orFail getContainerError (← perform (.getContainer containerID))
  -- how many rows were changed is not asked for, here and below
  let _ ← orFail (wrapError .internal "failed to update auto-update setting")
    (← perform (.setContainerAutoUpdate containerID (if autoUpdate then 1 else 0)))
  publishRow containerID
  .done (.setContainerAutoUpdate containerID autoUpdate)

/-! ## The registry check -/

/-- `isUpdateAvailable`. -/
def isUpdateAvailable (localRepoDigests : List GoString) (remoteDigest : GoString) : Bool :=
  if remoteDigest = [] then false
  else !localRepoDigests.any fun digest =>
    match split digest 0x40 with
    | [_, value] => decide (value = remoteDigest)
    | _ => false

/-- The image reference and the image id that are checked: those of the running container, as far as the
daemon reports them. -/
def checkedImage (existing : Db.Container) : Except DockerError ContainerInspect → GoString × GoString
  | .error _ => (existing.image, existing.imageID)
  | .ok inspect =>
    (if inspect.config.image ≠ [] then inspect.config.image else existing.image,
      if inspect.image ≠ [] then inspect.image else existing.imageID)

/-- The digests of the local image, none if it cannot be inspected. -/
def repoDigestsOf : Except DockerError ImageInspect → List GoString
  | .ok image => image.repoDigests
  | .error _ => []

/-- `checkContainerUpdatesInternal`: whether an update is available, and the digest in the registry. -/
def checkContainerUpdatesInternal (s : Service) (containerID : GoString) :
    Program Call Answer QueryError (Bool × GoString) := do
  let existing ← orFail id (← perform (.getContainer containerID))
  -- without a client the container cannot be inspected either, which the source does first
  ensure (s.dockerClient = true) (.other (str "docker client not initialized"))
  let (imageRef, localImageID) := checkedImage existing (← perform (.containerInspect containerID))
  let remoteDigest ← orFail
    (fun err => .other (str "failed to query registry for image " ++ imageRef ++ str ": " ++ err.message))
    (← perform (.distributionInspect imageRef))
  ensure (remoteDigest ≠ []) (.other (str "registry returned empty digest for image " ++ imageRef))
  let updateAvailable :=
    isUpdateAvailable (repoDigestsOf (← perform (.imageInspect localImageID))) remoteDigest
  let now ← perform .timeNow
  let _ ← orFail (fun message => .other (str "failed to update container state in DB: " ++ message))
    (← perform (.updateContainerUpdateState
      ⟨containerID, if updateAvailable then 1 else 0, remoteDigest, now⟩))
  publishRow containerID
  .done (updateAvailable, remoteDigest)

/-- The error of a failed check. -/
def checkError : QueryError → ConnectError
  | .noRows => newError .notFound "container not found"
  | .other message => ⟨.internal, message⟩

/-- `CheckContainerUpdates`. -/
def checkContainerUpdates (s : Service) (ctx : Ctx) (containerID : GoString) : Handler AnyResponse := do
  let _ ← requireAdmin ctx
  requireContainerID containerID
  let (updateAvailable, remoteDigest) ← (checkContainerUpdatesInternal s containerID).mapError checkError
  .done (.checkContainerUpdates containerID updateAvailable remoteDigest)

/-! ## When the actions succeed, and when they are carried out -/

variable {w : Outside} {s : Service} {ctx : Ctx} {user : User} {containerID : GoString} {ε α : Type}
variable {R : Call → Prop} {D : CallEvent → Prop}

theorem requireAdmin_of_admin (huser : ctx.user = some user) (hadmin : user.role = adminRole) :
    requireAdmin ctx = .done user := by
  simp [requireAdmin, huser, hadmin]

theorem never_requireAdmin_bind {f : User → Handler α} (hf : ∀ user, (f user).Never R) :
    (requireAdmin ctx >>= f).Never R := by
  unfold requireAdmin
  split
  · trivial
  · split
    · trivial
    · exact hf _

/-- Publishing never fails. -/
theorem total_publishRow_bind {g : Unit → Program Call Answer ε α} (hg : (g ()).Total) :
    (publishRow containerID >>= g).Total := by
  refine Program.Total.bind ?_ fun _ => hg
  rintro (err | record)
  · trivial
  · intro _
    trivial

/-- Publishing reads the row and talks to the broker, nothing else. -/
theorem never_publishRow_bind {g : Unit → Program Call Answer ε α} :
    (publishRow containerID >>= g).Never R ↔
      ¬ R (.getContainer containerID) ∧ (∀ record, ¬ R (.publishSave record)) ∧ (g ()).Never R := by
  unfold publishRow
  simp only [bind_assoc, Program.never_perform_bind]
  refine and_congr_right fun _ => ⟨fun hall => ⟨fun record => ?_, hall (.error .noRows)⟩, ?_⟩
  · exact (hall (.ok record)).1
  · rintro ⟨hpublish, hg⟩ (err | record)
    · exact hg
    · exact ⟨hpublish record, fun _ => hg⟩

/-- What is neither of these does not come out of publishing. -/
theorem not_occurs_publishRow_bind {past : List Call} {event : CallEvent} {a : α}
    (hread : event.op ≠ .getContainer containerID) (hpublish : ∀ record, event.op ≠ .publishSave record) :
    ¬ Occurs w past ((publishRow containerID : Program Call Answer ε Unit) >>= fun _ => .done a) event := by
  refine Program.Never.not_occurs (R := fun op => op = event.op) ?_ rfl
  exact never_publishRow_bind.mpr ⟨hread.symm, fun record => (hpublish record).symm, trivial⟩

/-- The daemon accepts the change. -/
def Transition.Accepted (transition : Transition) (w : Outside) (containerID : GoString) : Prop :=
  match transition with
  | .start => w (.containerStart containerID) 0 = .ok ()
  | .stop => w (.containerStop containerID) 0 = .ok ()

/-- The call of a change that the daemon accepted. -/
def Transition.deed (transition : Transition) (containerID : GoString) : CallEvent :=
  match transition with
  | .start => ⟨.containerStart containerID, .ok ()⟩
  | .stop => ⟨.containerStop containerID, .ok ()⟩

/-- The request gets to the daemon, which accepts the change. -/
structure Changed (transition : Transition) (s : Service) (w : Outside) (containerID : GoString)
    (existing : Db.Container) : Prop where
  containerID_ne : containerID ≠ []
  existing_eq : w (.getContainer containerID) 0 = .ok existing
  dockerClient : s.dockerClient = true
  inspected : ∃ inspectBefore, w (.containerInspect containerID) 0 = .ok inspectBefore
  accepted : transition.Accepted w containerID

/-- The state after the change can be read, and written to the database. -/
def StateSaved (w : Outside) (containerID : GoString) (existing : Db.Container) : Prop :=
  ∃ inspectAfter, w (.containerInspect containerID) 1 = .ok inspectAfter ∧
    w (.saveContainer (changedRow containerID existing inspectAfter.status (w .timeNow 0))) 0 = .ok ()

/-- A start or stop succeeds when the daemon accepts it and the new state is saved. -/
theorem succeeds_changeState (transition : Transition) (huser : ctx.user = some user)
    (hadmin : user.role = adminRole) :
    Succeeds w [] (changeState transition s ctx containerID) ↔
      ∃ existing, Changed transition s w containerID existing ∧ StateSaved w containerID existing := by
  unfold changeState
  rw [requireAdmin_of_admin huser hadmin]
  cases transition
  -- the two programs differ in one call, and so do the two goals
  all_goals
    simp only [requireContainerID, requireDockerClient, Transition.act, Program.done_bind,
      Program.succeeds_ensure_bind, Program.succeeds_perform_bind, Program.succeeds_orFail_bind,
      List.count_nil, List.count_cons_self, List.count_cons_of_ne, ne_eq, reduceCtorEq, not_false_eq_true]
    constructor
    · rintro ⟨hid, existing, hget, hdocker, before, hbefore, _, haccepted, after, hafter, _, hsave, -⟩
      exact ⟨existing, ⟨hid, hget, hdocker, ⟨before, hbefore⟩, haccepted⟩, after, hafter, hsave⟩
    · rintro ⟨existing, ⟨hid, hget, hdocker, ⟨before, hbefore⟩, haccepted⟩, after, hafter, hsave⟩
      exact ⟨hid, existing, hget, hdocker, before, hbefore, (), haccepted, after, hafter, (), hsave,
        Program.Total.succeeds (total_publishRow_bind (g := fun _ => .done _) trivial)⟩

/-- It is carried out when the daemon accepts it, whether or not the new state is saved. -/
theorem occurs_changeState (transition : Transition) (huser : ctx.user = some user)
    (hadmin : user.role = adminRole) :
    Occurs w [] (changeState transition s ctx containerID) (transition.deed containerID) ↔
      ∃ existing, Changed transition s w containerID existing := by
  -- publishing comes last and is not the deed
  have hpublish (past : List Call) (response : AnyResponse) : ¬ Occurs w past
      ((publishRow containerID : Handler Unit) >>= fun _ => .done response) (transition.deed containerID) := by
    refine not_occurs_publishRow_bind ?_ fun record => ?_
    · cases transition <;> nofun
    · cases transition <;> nofun
  unfold changeState
  rw [requireAdmin_of_admin huser hadmin]
  cases transition
  all_goals
    simp only [Transition.deed] at hpublish
    simp only [requireContainerID, requireDockerClient, Transition.act, Transition.deed, Program.done_bind,
      Program.occurs_ensure_bind, Program.occurs_perform_bind, Program.occurs_orFail_bind, hpublish,
      List.count_nil, List.count_cons_of_ne, ne_eq, Event.mk.injEq, reduceCtorEq, heq_eq_eq,
      not_false_eq_true, false_and, true_and, false_or, and_false, exists_false, or_false]
    constructor
    · rintro ⟨hid, existing, hget, hdocker, before, hbefore, haccepted⟩
      exact ⟨existing, hid, hget, hdocker, ⟨before, hbefore⟩, haccepted.symm⟩
    · rintro ⟨existing, hid, hget, hdocker, ⟨before, hbefore⟩, haccepted⟩
      exact ⟨hid, existing, hget, hdocker, before, hbefore, Eq.symm haccepted⟩

theorem never_record_changeState (transition : Transition) :
    (changeState transition s ctx containerID).Never IsRecord := by
  refine never_requireAdmin_bind fun _ => ?_
  cases transition
  all_goals
    simp [requireContainerID, requireDockerClient, Transition.act, IsRecord,
      never_publishRow_bind]

/-- The request gets to its statement, which changes so many rows: none, if the container has been deleted since the
request has read it. -/
structure FlagSet (w : Outside) (containerID : GoString) (autoUpdate : Bool) (rows : Nat) : Prop where
  containerID_ne : containerID ≠ []
  existing : ∃ existing, w (.getContainer containerID) 0 = .ok existing
  changed : w (.setContainerAutoUpdate containerID (if autoUpdate then 1 else 0)) 0 = .ok rows

/-- The flag of a row is set. -/
def SetsFlag (containerID : GoString) (autoUpdate : Bool) (event : CallEvent) : Prop :=
  ∃ rows ≠ 0, event = ⟨.setContainerAutoUpdate containerID (if autoUpdate then 1 else 0), .ok rows⟩

/-- The request succeeds when its statement does, whether or not there is a row to change. -/
theorem succeeds_setContainerAutoUpdate {autoUpdate : Bool} (huser : ctx.user = some user)
    (hadmin : user.role = adminRole) :
    Succeeds w [] (setContainerAutoUpdate ctx containerID autoUpdate) ↔
      ∃ rows, FlagSet w containerID autoUpdate rows := by
  unfold setContainerAutoUpdate
  rw [requireAdmin_of_admin huser hadmin]
  simp only [requireContainerID, Program.done_bind, Program.succeeds_ensure_bind, Program.succeeds_perform_bind,
    Program.succeeds_orFail_bind, List.count_nil, List.count_cons_of_ne, ne_eq, reduceCtorEq, not_false_eq_true]
  constructor
  · rintro ⟨hid, existing, hget, rows, hset, -⟩
    exact ⟨rows, hid, ⟨existing, hget⟩, hset⟩
  · rintro ⟨rows, hid, ⟨existing, hget⟩, hset⟩
    exact ⟨hid, existing, hget, rows, hset,
      Program.Total.succeeds (total_publishRow_bind (g := fun _ => .done _) trivial)⟩

theorem occurs_setContainerAutoUpdate {autoUpdate : Bool} (huser : ctx.user = some user)
    (hadmin : user.role = adminRole) :
    (∃ event, SetsFlag containerID autoUpdate event ∧
        Occurs w [] (setContainerAutoUpdate ctx containerID autoUpdate) event) ↔
      ∃ rows, FlagSet w containerID autoUpdate rows ∧ rows ≠ 0 := by
  -- publishing comes last and sets nothing
  have hpublish (past : List Call) (response : AnyResponse) (answer) : ¬ Occurs w past
      ((publishRow containerID : Handler Unit) >>= fun _ => .done response)
      ⟨.setContainerAutoUpdate containerID (if autoUpdate then 1 else 0), answer⟩ :=
    not_occurs_publishRow_bind nofun nofun
  have hoccurs (rows : Nat) : Occurs w [] (setContainerAutoUpdate ctx containerID autoUpdate)
      ⟨.setContainerAutoUpdate containerID (if autoUpdate then 1 else 0), .ok rows⟩ ↔
        FlagSet w containerID autoUpdate rows := by
    unfold setContainerAutoUpdate
    rw [requireAdmin_of_admin huser hadmin]
    simp only [requireContainerID, Program.done_bind, Program.occurs_ensure_bind, Program.occurs_perform_bind,
      Program.occurs_orFail_bind, hpublish, List.count_nil, List.count_cons_of_ne, ne_eq, Event.mk.injEq,
      reduceCtorEq, heq_eq_eq, not_false_eq_true, false_and, true_and, false_or, and_false, exists_false, or_false]
    constructor
    · rintro ⟨hid, existing, hget, hset⟩
      exact ⟨hid, ⟨existing, hget⟩, hset.symm⟩
    · rintro ⟨hid, ⟨existing, hget⟩, hset⟩
      exact ⟨hid, existing, hget, hset.symm⟩
  constructor
  · rintro ⟨_, ⟨rows, hrows, rfl⟩, hset⟩
    exact ⟨rows, (hoccurs rows).mp hset, hrows⟩
  · rintro ⟨rows, hset, hrows⟩
    exact ⟨_, ⟨rows, hrows, rfl⟩, (hoccurs rows).mpr hset⟩

theorem never_record_setContainerAutoUpdate {autoUpdate : Bool} :
    (setContainerAutoUpdate ctx containerID autoUpdate).Never IsRecord := by
  refine never_requireAdmin_bind fun _ => ?_
  simp [requireContainerID, IsRecord, never_publishRow_bind]

/-- The check gets an answer from the registry. -/
structure CheckAnswered (s : Service) (w : Outside) (containerID : GoString) (existing : Db.Container)
    (remoteDigest : GoString) : Prop where
  existing_eq : w (.getContainer containerID) 0 = .ok existing
  dockerClient : s.dockerClient = true
  asked : w (.distributionInspect (checkedImage existing (w (.containerInspect containerID) 0)).1) 0 =
    .ok remoteDigest
  remoteDigest_ne : remoteDigest ≠ []

/-- What the check writes. -/
def checkedState (w : Outside) (containerID : GoString) (existing : Db.Container) (remoteDigest : GoString) :
    UpdateContainerUpdateStateParams where
  id := containerID
  updateAvailable :=
    if isUpdateAvailable (repoDigestsOf (w (.imageInspect
      (checkedImage existing (w (.containerInspect containerID) 0)).2) 0)) remoteDigest then 1 else 0
  latestImageDigest := remoteDigest
  lastCheckedAt := w .timeNow 0

/-- The check gets to its statement, which changes so many rows. -/
def CheckSaved (s : Service) (w : Outside) (containerID : GoString) (rows : Nat) : Prop :=
  ∃ existing remoteDigest, CheckAnswered s w containerID existing remoteDigest ∧
    w (.updateContainerUpdateState (checkedState w containerID existing remoteDigest)) 0 = .ok rows

/-- The statement of a check is carried out, whether or not there is a row to change. -/
def SavesCheck (event : CallEvent) : Prop := ∃ arg rows, event = ⟨.updateContainerUpdateState arg, .ok rows⟩

/-- The result of a check is stored in a row. -/
def StoresCheck (containerID : GoString) (event : CallEvent) : Prop :=
  ∃ arg rows, arg.id = containerID ∧ rows ≠ 0 ∧ event = ⟨.updateContainerUpdateState arg, .ok rows⟩

/-- The check succeeds exactly when its statement does. -/
theorem commits_checkContainerUpdatesInternal : (checkContainerUpdatesInternal s containerID).Commits SavesCheck := by
  refine Program.commits_of_other (by simp [SavesCheck]) fun _ => ?_
  simp only [Program.commits_orFail_bind, Program.commits_ensure_bind]
  intro existing _ _
  refine Program.commits_of_other (by simp [SavesCheck]) fun inspected => ?_
  refine Program.commits_of_other (by simp [SavesCheck]) fun _ => ?_
  simp only [Program.commits_orFail_bind, Program.commits_ensure_bind]
  intro remoteDigest _ _
  refine Program.commits_of_other (by simp [SavesCheck]) fun image => ?_
  refine Program.commits_of_other (by simp [SavesCheck]) fun now => ?_
  exact Program.commits_of_deed (by simp [SavesCheck]) fun _ => total_publishRow_bind trivial

/-- The one statement that a check can get to. -/
theorem occurs_checkContainerUpdatesInternal {arg : UpdateContainerUpdateStateParams} {rows : Nat} :
    Occurs w [] (checkContainerUpdatesInternal s containerID) ⟨.updateContainerUpdateState arg, .ok rows⟩ ↔
      ∃ existing remoteDigest, CheckAnswered s w containerID existing remoteDigest ∧
        arg = checkedState w containerID existing remoteDigest ∧
        w (.updateContainerUpdateState arg) 0 = .ok rows := by
  -- publishing comes last and writes nothing
  have hpublish (past : List Call) (found : Bool × GoString) : ¬ Occurs w past
      ((publishRow containerID : Program Call Answer QueryError Unit) >>= fun _ => .done found)
      ⟨.updateContainerUpdateState arg, .ok rows⟩ :=
    not_occurs_publishRow_bind nofun nofun
  unfold checkContainerUpdatesInternal
  simp only [Program.occurs_perform_bind, Program.occurs_orFail_bind, Program.occurs_ensure_bind, hpublish,
    List.count_nil, List.count_cons_of_ne, ne_eq, Event.mk.injEq, reduceCtorEq, not_false_eq_true, false_and,
    false_or, and_false, exists_false, or_false]
  constructor
  · rintro ⟨existing, hget, hdocker, remoteDigest, hasked, hdigest, harg, hanswer⟩
    obtain rfl := Call.updateContainerUpdateState.inj harg
    exact ⟨existing, remoteDigest, ⟨hget, hdocker, hasked, hdigest⟩, rfl, (eq_of_heq hanswer).symm⟩
  · rintro ⟨existing, remoteDigest, ⟨hget, hdocker, hasked, hdigest⟩, rfl, hanswer⟩
    exact ⟨existing, hget, hdocker, remoteDigest, hasked, hdigest, rfl, heq_of_eq hanswer.symm⟩

theorem exists_saved_checkContainerUpdatesInternal {rows : Nat} :
    (∃ arg, Occurs w [] (checkContainerUpdatesInternal s containerID)
        ⟨.updateContainerUpdateState arg, .ok rows⟩) ↔ CheckSaved s w containerID rows := by
  simp only [occurs_checkContainerUpdatesInternal]
  constructor
  · rintro ⟨_, existing, remoteDigest, hanswered, rfl, hrows⟩
    exact ⟨existing, remoteDigest, hanswered, hrows⟩
  · rintro ⟨existing, remoteDigest, hanswered, hrows⟩
    exact ⟨_, existing, remoteDigest, hanswered, rfl, hrows⟩

theorem checkSaved_unique (rows rows' : Nat) (hsaved : CheckSaved s w containerID rows)
    (hsaved' : CheckSaved s w containerID rows') : rows = rows' := by
  obtain ⟨existing, remoteDigest, hanswered, hrows⟩ := hsaved
  obtain ⟨existing', remoteDigest', hanswered', hrows'⟩ := hsaved'
  obtain rfl := Except.ok.inj (hanswered.existing_eq.symm.trans hanswered'.existing_eq)
  obtain rfl := Except.ok.inj (hanswered.asked.symm.trans hanswered'.asked)
  exact Except.ok.inj (hrows.symm.trans hrows')

/-- The request of an administrator is the check, with other words for its errors. -/
theorem checkContainerUpdates_of_admin (huser : ctx.user = some user) (hadmin : user.role = adminRole) :
    checkContainerUpdates s ctx containerID =
      requireContainerID containerID >>= fun _ =>
        (checkContainerUpdatesInternal s containerID).mapError checkError >>= fun found =>
          .done (.checkContainerUpdates containerID found.1 found.2) := by
  unfold checkContainerUpdates
  rw [requireAdmin_of_admin huser hadmin]
  rfl

/-- The request succeeds when its statement does, whether or not there is a row to change. -/
theorem succeeds_checkContainerUpdates (huser : ctx.user = some user) (hadmin : user.role = adminRole) :
    Succeeds w [] (checkContainerUpdates s ctx containerID) ↔
      ∃ rows, containerID ≠ [] ∧ CheckSaved s w containerID rows := by
  rw [checkContainerUpdates_of_admin huser hadmin, requireContainerID, Program.succeeds_ensure_bind,
    Program.succeeds_bind_done, Program.succeeds_mapError, commits_checkContainerUpdatesInternal.succeeds_iff,
    exists_and_left]
  refine and_congr_right fun _ => ?_
  simp only [← exists_saved_checkContainerUpdatesInternal]
  constructor
  · rintro ⟨_, ⟨arg, rows, rfl⟩, hsaved⟩
    exact ⟨rows, arg, hsaved⟩
  · rintro ⟨rows, arg, hsaved⟩
    exact ⟨_, ⟨arg, rows, rfl⟩, hsaved⟩

theorem occurs_checkContainerUpdates (huser : ctx.user = some user) (hadmin : user.role = adminRole) :
    (∃ event, StoresCheck containerID event ∧ Occurs w [] (checkContainerUpdates s ctx containerID) event) ↔
      ∃ rows, (containerID ≠ [] ∧ CheckSaved s w containerID rows) ∧ rows ≠ 0 := by
  have hoccurs (event : CallEvent) : Occurs w [] (checkContainerUpdates s ctx containerID) event ↔
      containerID ≠ [] ∧ Occurs w [] (checkContainerUpdatesInternal s containerID) event := by
    rw [checkContainerUpdates_of_admin huser hadmin, requireContainerID, Program.occurs_ensure_bind,
      Program.occurs_bind_done, Program.occurs_mapError]
  simp only [hoccurs]
  constructor
  · rintro ⟨_, ⟨arg, rows, -, hrows, rfl⟩, hid, hsaved⟩
    exact ⟨rows, ⟨hid, exists_saved_checkContainerUpdatesInternal.mp ⟨arg, hsaved⟩⟩, hrows⟩
  · rintro ⟨rows, ⟨hid, existing, remoteDigest, hanswered, hsaved⟩, hrows⟩
    exact ⟨_, ⟨_, rows, rfl, hrows, rfl⟩, hid,
      occurs_checkContainerUpdatesInternal.mpr ⟨existing, remoteDigest, hanswered, rfl, hsaved⟩⟩

theorem never_record_checkContainerUpdates :
    (checkContainerUpdates s ctx containerID).Never IsRecord := by
  refine never_requireAdmin_bind fun _ => ?_
  simp only [requireContainerID, Program.never_ensure_bind]
  refine fun hid => Program.Never.bind (Program.Never.mapError ?_) fun _ => trivial
  simp [checkContainerUpdatesInternal, IsRecord, never_publishRow_bind]

end Container
end Dmanager
