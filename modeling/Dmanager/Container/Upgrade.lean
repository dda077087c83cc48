import Dmanager.Container.Actions

/-!
# The upgrade of a container

`UpgradeContainer` of `internal/container/upgrade.go`.  `upgradeContainerInternal` pulls the image, removes
the old container and starts a new one in its place (`recreate`), and then writes the new container to the
database (`storeUpgraded`); `auditUpgrade` is the one place that records an upgrade.

* `returns_recreate` — when the new container is started, in terms of the answers of the outside.
* `succeeds_upgradeContainerInternal` — the upgrade succeeds when, on top of that, the database is written.
* `occurs_start_upgradeContainer` — the new container is started whether or not that is so.
* `occurs_pull_upgradeContainer` — it is also started when the pull breaks off, from the image of before.
* `occurs_pull_upgradeContainer` — it is also started when the pull breaks off, from the image of before.
* `recordedEntries_upgradeContainer` — the handler records one entry, unless the container id is empty.
-/

namespace Dmanager
namespace Container

open Go Db Lib Server Auth
open Program (perform orFail ensure Returns Succeeds Occurs)

/-! ## The old container is replaced -/

/-- One step of the loop over the networks: the first one with a name is set aside. -/
def takeNetwork (acc : (GoString × GoString) × List (GoString × GoString)) (entry : GoString × GoString) :
    (GoString × GoString) × List (GoString × GoString) :=
  if acc.1.1 = [] then (entry, acc.2) else (acc.1, acc.2 ++ [entry])

/-- The network that the new container is created with, and those it is connected to afterwards. -/
def splitNetworks (networks : NetworkMap) : (GoString × GoString) × List (GoString × GoString) :=
  networks.1.foldl takeNetwork (([], []), [])

/-- The parameters of the new container. -/
def createOptions (inspect : ContainerInspect) : ContainerCreateOptions where
  config := inspect.config
  hostConfig := inspect.hostConfig
  network :=
    if (splitNetworks inspect.networks).1.1 ≠ [] then some (splitNetworks inspect.networks).1 else none
  name := trimPrefix inspect.name (str "/")

/-- Stop the old container if it is running. -/
def stopRunning (containerID : GoString) (running : Bool) : Handler Unit :=
  if running then do
    orFail (fun err => wrapError .internal "failed to stop container before upgrade" err.message)
      (← perform (.containerStop containerID))
  else .done ()

/-- Connect the new container to the other networks; when that fails the new container is removed. -/
def connectNetworks (newID : GoString) : List (GoString × GoString) → Handler Unit
  | [] => .done ()
  | (name, endpoint) :: rest => do
    let answer ← perform (Call.networkConnect name newID endpoint)
    match answer with
    | .ok _ => connectNetworks newID rest
    | .error err =>
      let _ ← perform (Call.containerRemove newID)
      .fail ⟨.internal, str "failed to connect container to network " ++ name ++ str ": " ++ err.message⟩

/-- What the second half of the upgrade needs to know of the first. -/
structure Recreated where
  existing : Db.Container
  inspect : ContainerInspect
  newImageID : GoString
  newID : GoString
  deriving DecidableEq, Repr

/-- Steps 4 to 9 of `upgradeContainerInternal`: from the pull of the image to the start of the new
container. -/
def replaceContainer (containerID : GoString) (existing : Db.Container) (inspect : ContainerInspect) :
    Handler Recreated := do
  let imageRef := inspect.config.image
  ensure (imageRef ≠ []) (newError .internal "container does not have an associated image")
  orFail (fun err => ⟨.internal, str "failed to pull image " ++ imageRef ++ str ": " ++ err.message⟩)
    (← perform (.imagePull imageRef))
  -- `io.Copy` to `io.Discard`: neither its error nor what the daemon writes is looked at
  let _ ← perform (Call.copyProgress imageRef)
  let newImage ← orFail (fun err => wrapError .internal "failed to inspect pulled image" err.message)
    (← perform (.imageInspect imageRef))
  stopRunning containerID inspect.running
  orFail (fun err => wrapError .internal "failed to remove old container" err.message)
    (← perform (.containerRemove containerID))
  let newID ← orFail (fun err => wrapError .internal "failed to re-create container" err.message)
    (← perform (.containerCreate (createOptions inspect)))
  let order ← perform (Call.mapOrder (splitNetworks inspect.networks).2)
  connectNetworks newID order.1
  orFail (fun err => wrapError .internal "failed to start upgraded container" err.message)
    (← perform (.containerStart newID))
  .done ⟨existing, inspect, newImage.id, newID⟩

/-- Steps 2 to 9. -/
def recreate (s : Service) (containerID : GoString) : Handler Recreated := do
  let existing ← orFail getContainerError (← perform (.getContainer containerID))
  requireDockerClient s
  let inspect ← orFail inspectError (← perform (.containerInspect containerID))
  replaceContainer containerID existing inspect

/-! ## The new container is stored -/

/-- The state of the new container; it is taken to be running if it cannot be inspected. -/
def newState : Except DockerError ContainerInspect → GoString
  | .ok inspect => inspect.status
  | .error _ => str "running"

/-- The in-place update of the row. -/
def upgradedRow (containerID : GoString) (r : Recreated) (state : GoString) (now : Int) :
    UpdateContainerForUpgradeParams where
  id := r.newID
  name := (createOptions r.inspect).name
  image := r.inspect.config.image
  imageID := r.newImageID
  state := state
  lastUpdatedAt := now
  oldID := containerID

/-- The row that is written instead when the old one is gone. -/
def fallbackRow (r : Recreated) (state : GoString) (lastUpdatedAt updatedAt : Int) : SaveContainerParams where
  id := r.newID
  name := (createOptions r.inspect).name
  image := r.inspect.config.image
  imageID := r.newImageID
  state := state
  autoUpdate := r.existing.autoUpdate
  updateAvailable := 0
  latestImageDigest := r.existing.latestImageDigest
  lastCheckedAt := r.existing.lastCheckedAt
  lastUpdatedAt := some lastUpdatedAt
  updatedAt := updatedAt

/-- The upsert that follows an in-place update of `rows` rows. -/
def saveFallback (r : Recreated) (state : GoString) (rows : Nat) : Handler Unit :=
  if rows = 0 then do
    let lastUpdatedAt ← perform .timeNow
    let updatedAt ← perform .timeNow
    orFail (wrapError .internal "failed to save upgraded container to DB")
      (← perform (.saveContainer (fallbackRow r state lastUpdatedAt updatedAt)))
  else .done ()

/-- Step 10: the row of the old container becomes that of the new one. -/
def storeUpgraded (containerID : GoString) (r : Recreated) : Handler Unit := do
  let state := newState (← perform (.containerInspect r.newID))
  let now ← perform .timeNow
  let rows ← orFail (wrapError .internal "failed to update container record in DB")
    (← perform (.updateContainerForUpgrade (upgradedRow containerID r state now)))
  saveFallback r state rows

/-- Step 11: the streams are told. -/
def publishUpgraded (containerID newID : GoString) : Handler Unit := do
  if newID ≠ containerID then
    perform (Call.publishDelete containerID)
  publishRow newID

/-- `UpgradeContainerResponse`. -/
structure UpgradeContainerResponse where
  id : GoString
  previousImageID : GoString
  currentImageID : GoString
  deriving DecidableEq, Repr

/-- `upgradeContainerInternal`. -/
def upgradeContainerInternal (s : Service) (containerID : GoString) : Handler UpgradeContainerResponse := do
  let r ← recreate s containerID
  storeUpgraded containerID r
  publishUpgraded containerID r.newID
  .done ⟨r.newID, r.inspect.image, r.newImageID⟩

/-! ## The audit entry and the handler -/

/-- `shortDigest`. -/
def shortDigest (id : GoString) : GoString :=
  if 19 < id.length ∧ hasPrefix id (str "sha256:") then id.take 19 ++ str "…" else id

/-- The entry of an upgrade. -/
def upgradeEntry (source : AuditSource) (actor actorRole containerID : GoString) :
    Except ConnectError UpgradeContainerResponse → Entry
  | .error err => ⟨actor, actorRole, source, str "container.upgrade", str "container", containerID,
      .failure, err.message⟩
  | .ok resp => ⟨actor, actorRole, source, str "container.upgrade", str "container", containerID, .success,
      str "upgraded " ++ shortDigest resp.previousImageID ++ str " → " ++ shortDigest resp.currentImageID⟩

/-- `auditUpgrade`. -/
def auditUpgrade (s : Service) (source : AuditSource) (actor actorRole containerID : GoString)
    (result : Except ConnectError UpgradeContainerResponse) : Handler Unit :=
  if s.auditor = false then .done ()
  else perform (Call.record (upgradeEntry source actor actorRole containerID result))

/-- `UpgradeContainer`. -/
def upgradeContainer (s : Service) (ctx : Ctx) (containerID : GoString) : Handler AnyResponse := do
  let user ← requireAdmin ctx
  requireContainerID containerID
  let result ← (upgradeContainerInternal s containerID).attempt
  auditUpgrade s .user user.username user.role containerID result
  let resp ← orFail id result
  .done (.upgradeContainer resp.id resp.previousImageID resp.currentImageID)

/-! ## When the new container is started -/

variable {w : Outside} {s : Service} {ctx : Ctx} {user : User} {containerID newID : GoString}
variable {past : List Call} {r : Recreated}

/-- The loop over the networks keeps their order. -/
theorem sublist_foldl_takeNetwork (entries : List (GoString × GoString))
    (acc : (GoString × GoString) × List (GoString × GoString)) :
    (entries.foldl takeNetwork acc).2.Sublist (acc.2 ++ entries) := by
  induction entries generalizing acc with
  | nil => simp
  | cons entry rest ih =>
      refine (ih (takeNetwork acc entry)).trans ?_
      unfold takeNetwork
      split
      · exact List.Sublist.append_left (List.sublist_cons_self entry rest) acc.2
      · simp

theorem nodup_splitNetworks (networks : NetworkMap) :
    ((splitNetworks networks).2.map Prod.fst).Nodup :=
  ((sublist_foldl_takeNetwork networks.1 (([], []), [])).map Prod.fst).nodup networks.2

/-- The loop of `NetworkConnect` calls is done when each of them succeeds. -/
theorem returns_connectNetworks {order : List (GoString × GoString)} (hnodup : (order.map Prod.fst).Nodup)
    (hfresh : ∀ entry ∈ order, past.count (.networkConnect entry.1 newID entry.2) = 0) :
    Returns w past (connectNetworks newID order) () ↔
      ∀ entry ∈ order, w (.networkConnect entry.1 newID entry.2) 0 = .ok () := by
  induction order generalizing past with
  | nil => simp [connectNetworks]
  | cons entry rest ih =>
      obtain ⟨name, endpoint⟩ := entry
      rw [List.map_cons, List.nodup_cons] at hnodup
      have hzero := hfresh (name, endpoint) List.mem_cons_self
      dsimp only at hzero
      -- the names differ, so this call is none of the later ones
      have hrest : ∀ entry ∈ rest, (Call.networkConnect name newID endpoint :: past).count
          (.networkConnect entry.1 newID entry.2) = 0 := by
        intro entry hentry
        rw [List.count_cons_of_ne]
        · exact hfresh entry (List.mem_cons_of_mem _ hentry)
        · intro hsame
          have hname : name = entry.1 := (Call.networkConnect.inj hsame).1
          exact hnodup.1 (List.mem_map.mpr ⟨entry, hentry, hname.symm⟩)
      rw [connectNetworks, Program.returns_perform_bind, hzero, List.forall_mem_cons]
      cases hanswer : w (.networkConnect name newID endpoint) 0 with
      | ok _ =>
          simp only [true_and]
          exact ih hnodup.2 hrest
      | error err => simp

/-- The calls it makes then. -/
theorem after_connectNetworks {order : List (GoString × GoString)}
    (hdone : Returns w past (connectNetworks newID order) ()) :
    Program.after w past (connectNetworks newID order) =
      (order.map fun entry => Call.networkConnect entry.1 newID entry.2).reverse ++ past := by
  induction order generalizing past with
  | nil => simp [connectNetworks]
  | cons entry rest ih =>
      obtain ⟨name, endpoint⟩ := entry
      rw [connectNetworks, Program.returns_perform_bind] at hdone
      rw [connectNetworks, Program.after_perform_bind]
      cases hanswer : w (.networkConnect name newID endpoint)
          (past.count (.networkConnect name newID endpoint)) with
      | ok _ =>
          rw [hanswer] at hdone
          simp only at hdone
          simpa using ih hdone
      | error err =>
          rw [hanswer] at hdone
          simp at hdone

/-- The calls of `stopRunning`. -/
def stopCalls (containerID : GoString) (running : Bool) : List Call :=
  if running then [.containerStop containerID] else []

theorem returns_stopRunning_bind {α : Type} {running : Bool} {g : Unit → Handler α} {a : α} :
    Returns w past (stopRunning containerID running >>= g) a ↔
      (running = true → w (.containerStop containerID) (past.count (.containerStop containerID)) = .ok ()) ∧
        Returns w (stopCalls containerID running ++ past) (g ()) a := by
  cases running with
  | false => simp [stopRunning, stopCalls]
  | true =>
      have hread : stopRunning containerID true >>= g =
          perform (Call.containerStop containerID) >>= fun answer =>
            orFail (fun err => wrapError .internal "failed to stop container before upgrade" err.message)
              answer >>= g := by
        simp [stopRunning]
      rw [hread, Program.returns_perform_bind, Program.returns_orFail_bind]
      constructor
      · rintro ⟨_, hstop, hrest⟩
        exact ⟨fun _ => hstop, hrest⟩
      · rintro ⟨hstop, hrest⟩
        exact ⟨(), hstop rfl, hrest⟩

theorem count_stopCalls {running : Bool} {op : Call} (hop : op ≠ .containerStop containerID) :
    (stopCalls containerID running).count op = 0 := by
  cases running with
  | false => rfl
  | true => exact List.count_eq_zero.mpr (by simpa [stopCalls] using hop)

/-- The answers with which the new container is started. -/
structure Started (s : Service) (w : Outside) (containerID : GoString) (r : Recreated) : Prop where
  existing : w (.getContainer containerID) 0 = .ok r.existing
  dockerClient : s.dockerClient = true
  inspected : w (.containerInspect containerID) 0 = .ok r.inspect
  image_ne : r.inspect.config.image ≠ []
  pulled : w (.imagePull r.inspect.config.image) 0 = .ok ()
  newImage : ∃ digests, w (.imageInspect r.inspect.config.image) 0 = .ok ⟨r.newImageID, digests⟩
  stopped : r.inspect.running = true → w (.containerStop containerID) 0 = .ok ()
  removed : w (.containerRemove containerID) 0 = .ok ()
  created : w (.containerCreate (createOptions r.inspect)) 0 = .ok r.newID
  connected : ∀ entry ∈ (w (.mapOrder (splitNetworks r.inspect.networks).2) 0).1,
    w (.networkConnect entry.1 r.newID entry.2) 0 = .ok ()
  started : w (.containerStart r.newID) 0 = .ok ()

/-- The calls that are made before the networks are connected, the last one first. -/
def callsToCreate (containerID : GoString) (inspect : ContainerInspect) : List Call :=
  [.mapOrder (splitNetworks inspect.networks).2, .containerCreate (createOptions inspect),
      .containerRemove containerID] ++
    (stopCalls containerID inspect.running ++ [.imageInspect inspect.config.image,
      .copyProgress inspect.config.image, .imagePull inspect.config.image, .containerInspect containerID,
      .getContainer containerID])

/-- The end of `recreate`. -/
def connectAndStart (newID : GoString) (order : List (GoString × GoString)) (r : Recreated) :
    Handler Recreated := do
  connectNetworks newID order
  orFail (fun err => wrapError .internal "failed to start upgraded container" err.message)
    (← perform (.containerStart newID))
  .done r

/-- What the calls before the networks are connected leave open. -/
structure Untouched (newID : GoString) (past : List Call) : Prop where
  connect : ∀ name endpoint, past.count (.networkConnect name newID endpoint) = 0
  start : past.count (.containerStart newID) = 0

theorem untouched_callsToCreate (inspect : ContainerInspect) :
    Untouched newID (callsToCreate containerID inspect) := by
  constructor
  · intro name endpoint
    simp [callsToCreate, count_stopCalls]
  · simp [callsToCreate, count_stopCalls]

theorem returns_connectAndStart {order : List (GoString × GoString)} (hnodup : (order.map Prod.fst).Nodup)
    (huntouched : Untouched newID past) {r' : Recreated} :
    Returns w past (connectAndStart newID order r') r ↔
      (∀ entry ∈ order, w (.networkConnect entry.1 newID entry.2) 0 = .ok ()) ∧
        w (.containerStart newID) 0 = .ok () ∧ r' = r := by
  have hloop := returns_connectNetworks (w := w) hnodup fun entry _ => huntouched.connect entry.1 entry.2
  unfold connectAndStart
  rw [Program.returns_bind]
  constructor
  · rintro ⟨_, hdone, hrest⟩
    -- the loop over the networks makes no start
    have hcount : (Program.after w past (connectNetworks newID order)).count (.containerStart newID) = 0 := by
      rw [after_connectNetworks hdone]
      simp [huntouched.start, List.count_eq_zero]
    rw [Program.returns_perform_bind, hcount, Program.returns_orFail_bind] at hrest
    obtain ⟨_, hstart, hr⟩ := hrest
    exact ⟨hloop.mp hdone, hstart, by simpa using hr⟩
  · rintro ⟨hconnected, hstart, rfl⟩
    have hdone := hloop.mpr hconnected
    have hcount : (Program.after w past (connectNetworks newID order)).count (.containerStart newID) = 0 := by
      rw [after_connectNetworks hdone]
      simp [huntouched.start, List.count_eq_zero]
    refine ⟨(), hdone, ?_⟩
    rw [Program.returns_perform_bind, hcount, Program.returns_orFail_bind]
    exact ⟨(), hstart, rfl⟩

/-- The new container is started exactly with these answers. -/
theorem returns_recreate : Returns w [] (recreate s containerID) r ↔ Started s w containerID r := by
  have htail (existing : Db.Container) (inspect : ContainerInspect) (imageID newID : GoString) :
      Returns w (callsToCreate containerID inspect) (connectAndStart newID
          (w (.mapOrder (splitNetworks inspect.networks).2) 0).1 ⟨existing, inspect, imageID, newID⟩) r ↔ _ :=
    returns_connectAndStart
      (((w (.mapOrder (splitNetworks inspect.networks).2) 0).2.map Prod.fst).nodup_iff.mpr
        (nodup_splitNetworks inspect.networks))
      (untouched_callsToCreate inspect)
  unfold recreate
  simp only [requireDockerClient, replaceContainer, Program.returns_perform_bind, Program.returns_orFail_bind,
    Program.returns_ensure_bind, returns_stopRunning_bind, List.count_nil, List.count_cons_of_ne,
    List.count_append, count_stopCalls, ne_eq, reduceCtorEq, not_false_eq_true, Nat.add_zero]
  constructor
  · rintro ⟨existing, hget, hdocker, inspect, hinspect, himage, _, hpull, newImage, hnewImage, hstop, _, hremove,
      newID, hcreate, hrest⟩
    obtain ⟨hconnected, hstart, rfl⟩ := (htail existing inspect newImage.id newID).mp hrest
    exact ⟨hget, hdocker, hinspect, himage, hpull, ⟨newImage.repoDigests, hnewImage⟩, hstop, hremove, hcreate,
      hconnected, hstart⟩
  · rintro ⟨hget, hdocker, hinspect, himage, hpull, ⟨digests, hnewImage⟩, hstop, hremove, hcreate,
      hconnected, hstart⟩
    exact ⟨r.existing, hget, hdocker, r.inspect, hinspect, himage, (), hpull, ⟨r.newImageID, digests⟩,
      hnewImage, hstop, (), hremove, r.newID, hcreate,
      (htail r.existing r.inspect r.newImageID r.newID).mpr ⟨hconnected, hstart, rfl⟩⟩

/-! ## When the new container is stored -/

/-- The database is written: the row of the old container is updated, or else a new row is saved. -/
def RowStored (w : Outside) (containerID : GoString) (r : Recreated) : Prop :=
  ∃ state rows, state = newState (w (.containerInspect r.newID) (if r.newID = containerID then 1 else 0)) ∧
    w (.updateContainerForUpgrade (upgradedRow containerID r state (w .timeNow 0))) 0 = .ok rows ∧
    (rows = 0 → w (.saveContainer (fallbackRow r state (w .timeNow 1) (w .timeNow 2))) 0 = .ok ())

/-- The calls that `storeUpgraded` makes have not been made before, but for the inspection of the new
container when it has the id of the old one. -/
structure Unstored (containerID newID : GoString) (past : List Call) : Prop where
  timeNow : past.count .timeNow = 0
  update : ∀ arg, past.count (.updateContainerForUpgrade arg) = 0
  save : ∀ arg, past.count (.saveContainer arg) = 0
  inspect : past.count (.containerInspect newID) = if newID = containerID then 1 else 0

theorem succeeds_saveFallback {state : GoString} {rows : Nat}
    (hnow : past.count .timeNow = 1) (hsave : ∀ arg, past.count (.saveContainer arg) = 0) :
    Succeeds w past (saveFallback r state rows) ↔
      (rows = 0 → w (.saveContainer (fallbackRow r state (w .timeNow 1) (w .timeNow 2))) 0 = .ok ()) := by
  unfold saveFallback
  split
  · rename_i hrows
    have hnow' : (Call.timeNow :: past).count .timeNow = 2 := by rw [List.count_cons_self, hnow]
    have hsave' : ∀ arg, (Call.timeNow :: Call.timeNow :: past).count (.saveContainer arg) = 0 := by
      intro arg
      simp [hsave]
    rw [Program.succeeds_perform_bind, hnow, Program.succeeds_perform_bind, hnow',
      Program.succeeds_perform_bind, hsave', Program.succeeds_orFail]
    constructor
    · rintro ⟨_, hok⟩ _
      exact hok
    · intro hok
      exact ⟨(), hok hrows⟩
  · rename_i hrows
    simp [hrows]

theorem succeeds_storeUpgraded (hunstored : Unstored containerID r.newID past) :
    Succeeds w past (storeUpgraded containerID r) ↔ RowStored w containerID r := by
  have hnow : (Call.containerInspect r.newID :: past).count .timeNow = 0 := by
    simp [hunstored.timeNow]
  have hupdate : ∀ arg, (Call.timeNow :: Call.containerInspect r.newID :: past).count
      (.updateContainerForUpgrade arg) = 0 := by
    intro arg
    simp [hunstored.update]
  have hfallback (arg : UpdateContainerForUpgradeParams) (state : GoString) (rows : Nat) :
      Succeeds w (Call.updateContainerForUpgrade arg :: Call.timeNow ::
        Call.containerInspect r.newID :: past) (saveFallback r state rows) ↔ _ :=
    succeeds_saveFallback
      (by simp [hunstored.timeNow]) (by simp [hunstored.save])
  unfold storeUpgraded RowStored
  rw [Program.succeeds_perform_bind, hunstored.inspect, Program.succeeds_perform_bind, hnow,
    Program.succeeds_perform_bind, hupdate, Program.succeeds_orFail_bind]
  simp only [hfallback]
  constructor
  · rintro ⟨rows, hrows, hsaved⟩
    exact ⟨_, rows, rfl, hrows, hsaved⟩
  · rintro ⟨_, rows, rfl, hrows, hsaved⟩
    exact ⟨rows, hrows, hsaved⟩

/-- The calls that `storeUpgraded` makes. -/
def IsStoring : Call → Prop
  | .containerInspect _ => True
  | .timeNow => True
  | .updateContainerForUpgrade _ => True
  | .saveContainer _ => True
  | _ => False

theorem never_connectNetworks {R : Call → Prop} (order : List (GoString × GoString))
    (hconnect : ∀ network endpoint, ¬ R (.networkConnect network newID endpoint))
    (hremove : ¬ R (.containerRemove newID)) : (connectNetworks newID order).Never R := by
  induction order with
  | nil => trivial
  | cons entry rest ih =>
      refine ⟨hconnect _ _, ?_⟩
      rintro (err | _)
      · exact ⟨hremove, fun _ => trivial⟩
      · exact ih

theorem never_stopRunning {R : Call → Prop} {running : Bool} (hstop : ¬ R (.containerStop containerID)) :
    (stopRunning containerID running).Never R := by
  cases running with
  | false => trivial
  | true =>
      refine ⟨hstop, ?_⟩
      rintro (err | _)
      · trivial
      · trivial

/-- The calls that `replaceContainer` makes. -/
def IsReplacing : Call → Prop
  | .imagePull _ => True
  | .copyProgress _ => True
  | .imageInspect _ => True
  | .containerStop _ => True
  | .containerRemove _ => True
  | .containerCreate _ => True
  | .mapOrder _ => True
  | .networkConnect _ _ _ => True
  | .containerStart _ => True
  | _ => False

theorem never_replaceContainer {R : Call → Prop} (hR : ∀ op, IsReplacing op → ¬ R op)
    {existing : Db.Container} {inspect : ContainerInspect} :
    (replaceContainer containerID existing inspect).Never R := by
  simp only [replaceContainer, Program.never_ensure_bind, Program.never_perform_bind,
    Program.never_orFail_bind]
  refine fun himage => ⟨hR _ trivial, fun _ _ _ => ⟨hR _ trivial, fun _ => ⟨hR _ trivial, fun _ newImage _ => ?_⟩⟩⟩
  refine (never_stopRunning (hR _ trivial)).bind fun _ => ?_
  simp only [Program.never_perform_bind, Program.never_orFail_bind]
  refine ⟨hR _ trivial, fun _ _ _ => ⟨hR _ trivial, fun _ newID _ => ⟨hR _ trivial, fun order => ?_⟩⟩⟩
  refine (never_connectNetworks _ (fun _ _ => hR _ trivial) (hR _ trivial)).bind fun _ => ?_
  simp only [Program.never_perform_bind, Program.never_orFail_bind]
  exact ⟨hR _ trivial, fun _ _ _ => trivial⟩

/-- Nothing is stored while the container is replaced. -/
theorem not_storing_of_replacing (op : Call) (hop : IsReplacing op) : ¬ IsStoring op := by
  cases op <;> first | exact id | exact False.elim hop

/-- After the new container is started, nothing has been stored. -/
theorem unstored_recreate (hstarted : Started s w containerID r) :
    Unstored containerID r.newID (Program.after w [] (recreate s containerID)) := by
  have hafter : Program.after w [] (recreate s containerID) =
      Program.after w [.containerInspect containerID, .getContainer containerID]
        (replaceContainer containerID r.existing r.inspect) := by
    simp [recreate, requireDockerClient, ensure, orFail, hstarted.existing, hstarted.dockerClient,
      hstarted.inspected]
  -- only the two calls before the replacement can have been made, and one of them is an inspection
  have hcount {op : Call} (hop : IsStoring op) :
      (Program.after w [.containerInspect containerID, .getContainer containerID]
        (replaceContainer containerID r.existing r.inspect)).count op =
        [.containerInspect containerID, .getContainer containerID].count op :=
    Program.count_after_of_never (never_replaceContainer not_storing_of_replacing) hop
  rw [hafter]
  constructor
  · rw [hcount (show IsStoring .timeNow from trivial)]
    simp
  · intro arg
    rw [hcount (show IsStoring (.updateContainerForUpgrade arg) from trivial)]
    simp
  · intro arg
    rw [hcount (show IsStoring (.saveContainer arg) from trivial)]
    simp
  · rw [hcount (show IsStoring (.containerInspect r.newID) from trivial)]
    by_cases hsame : r.newID = containerID
    · simp [hsame]
    · simp [hsame, Ne.symm hsame]

theorem total_publishUpgraded : (publishUpgraded containerID newID).Total := by
  have hrow : (publishRow newID : Handler Unit).Total := by
    rw [← bind_pure (publishRow newID : Handler Unit)]
    exact total_publishRow_bind trivial
  unfold publishUpgraded
  split
  · intro _
    exact hrow
  · exact hrow

/-- The upgrade succeeds when the new container is started and stored. -/
theorem succeeds_upgradeContainerInternal :
    Succeeds w [] (upgradeContainerInternal s containerID) ↔
      ∃ r, Started s w containerID r ∧ RowStored w containerID r := by
  unfold upgradeContainerInternal
  rw [Program.succeeds_bind]
  refine exists_congr fun r => ?_
  rw [returns_recreate]
  refine and_congr_right fun hstarted => ?_
  rw [← succeeds_storeUpgraded (unstored_recreate hstarted), Program.succeeds_bind]
  refine exists_congr fun _ => and_iff_left ?_
  exact (total_publishUpgraded.bind fun _ => Program.total_done _).succeeds

/-! ## What the handler does -/

/-- A container is started. -/
def StartsContainer (event : CallEvent) : Prop := ∃ id u, event = ⟨.containerStart id, .ok u⟩

def IsStart : Call → Prop
  | .containerStart _ => True
  | _ => False

theorem isStart_of_startsContainer (event : CallEvent) (hevent : StartsContainer event) :
    IsStart event.op := by
  obtain ⟨id, u, rfl⟩ := hevent
  trivial

/-- The first half of the upgrade is done exactly when it starts a container. -/
theorem commits_recreate : (recreate s containerID).Commits StartsContainer := by
  have hother := isStart_of_startsContainer
  refine Program.commits_of_other (fun _ => hother _) fun _ => ?_
  simp only [requireDockerClient, Program.commits_orFail_bind, Program.commits_ensure_bind]
  intro existing _ _
  refine Program.commits_of_other (fun _ => hother _) fun _ => ?_
  simp only [replaceContainer, Program.commits_orFail_bind, Program.commits_ensure_bind]
  intro inspect _ _
  refine Program.commits_of_other (fun _ => hother _) fun _ => ?_
  rw [Program.commits_orFail_bind]
  intro _ _
  refine Program.commits_of_other (fun _ => hother _) fun _ => ?_
  refine Program.commits_of_other (fun _ => hother _) fun _ => ?_
  rw [Program.commits_orFail_bind]
  intro newImage _
  -- stopping the old container starts nothing
  refine (never_stopRunning (R := IsStart) id).bind_commits hother fun _ => ?_
  refine Program.commits_of_other (fun _ => hother _) fun _ => ?_
  rw [Program.commits_orFail_bind]
  intro _ _
  refine Program.commits_of_other (fun _ => hother _) fun _ => ?_
  rw [Program.commits_orFail_bind]
  intro newID _
  refine Program.commits_of_other (fun _ => hother _) fun order => ?_
  refine (never_connectNetworks (R := IsStart) _ (fun _ _ => id) id).bind_commits hother fun _ => ?_
  exact Program.commits_of_deed (by simp [StartsContainer]) fun _ => trivial

/-- The calls that the second half of the upgrade makes. -/
def IsFinishing : Call → Prop
  | .getContainer _ => True
  | .publishSave _ => True
  | .publishDelete _ => True
  | op => IsStoring op

/-- The second half of the upgrade. -/
theorem never_finish {R : Call → Prop} (hR : ∀ op, IsFinishing op → ¬ R op)
    {resp : UpgradeContainerResponse} :
    (storeUpgraded containerID r >>= fun _ => publishUpgraded containerID newID >>= fun _ =>
      (.done resp : Handler UpgradeContainerResponse)).Never R := by
  have hpublish : (publishUpgraded containerID newID >>= fun _ =>
      (.done resp : Handler UpgradeContainerResponse)).Never R := by
    have hrow : (publishRow newID >>= fun _ => (.done resp : Handler UpgradeContainerResponse)).Never R :=
      never_publishRow_bind.mpr ⟨hR _ trivial, fun _ => hR _ trivial, trivial⟩
    unfold publishUpgraded
    split
    · exact ⟨hR _ trivial, fun _ => hrow⟩
    · exact hrow
  have hsave (state : GoString) (rows : Nat) : (saveFallback r state rows).Never R := by
    unfold saveFallback
    split
    · refine ⟨hR _ trivial, fun _ => ⟨hR _ trivial, fun _ => ⟨hR _ trivial, ?_⟩⟩⟩
      rintro (err | _)
      · trivial
      · trivial
    · trivial
  refine Program.Never.bind ?_ fun _ => hpublish
  simp only [storeUpgraded, Program.never_perform_bind, Program.never_orFail_bind]
  exact ⟨hR _ trivial, fun _ => ⟨hR _ trivial, fun _ => ⟨hR _ trivial, fun _ rows _ => hsave _ rows⟩⟩⟩

/-- An upgrade by an administrator, cut at its audit entry. -/
theorem upgradeContainer_of_admin (huser : ctx.user = some user) (hadmin : user.role = adminRole) :
    upgradeContainer s ctx containerID =
      requireContainerID containerID >>= fun _ =>
        (upgradeContainerInternal s containerID).attempt >>= fun result =>
          auditUpgrade s .user user.username user.role containerID result >>= fun _ =>
            orFail id result >>= fun resp =>
              .done (.upgradeContainer resp.id resp.previousImageID resp.currentImageID) := by
  unfold upgradeContainer
  rw [requireAdmin_of_admin huser hadmin]
  rfl

/-- Calls that only the first half of the upgrade makes. -/
theorem occurs_upgradeContainer_iff {R : Call → Prop} {event : CallEvent} (huser : ctx.user = some user)
    (hadmin : user.role = adminRole) (hfinish : ∀ op, IsFinishing op → ¬ R op)
    (hrecord : ∀ entry, ¬ R (.record entry)) (hevent : R event.op) :
    Occurs w [] (upgradeContainer s ctx containerID) event ↔
      containerID ≠ [] ∧ Occurs w [] (recreate s containerID) event := by
  have haudit (result : Except ConnectError UpgradeContainerResponse) :
      (auditUpgrade s .user user.username user.role containerID result >>= fun _ =>
        orFail id result >>= fun resp => (.done (.upgradeContainer resp.id resp.previousImageID
          resp.currentImageID) : Handler AnyResponse)).Never R := by
    unfold auditUpgrade
    split
    · simp
    · simp [hrecord]
  rw [upgradeContainer_of_admin huser hadmin, requireContainerID, Program.occurs_ensure_bind,
    Program.occurs_bind_of_never haudit hevent, Program.occurs_attempt, upgradeContainerInternal,
    Program.occurs_bind_of_never (fun _ => never_finish hfinish) hevent]

/-- The new container is started whether or not the upgrade succeeds afterwards. -/
theorem occurs_start_upgradeContainer (huser : ctx.user = some user) (hadmin : user.role = adminRole) :
    (∃ event, StartsContainer event ∧ Occurs w [] (upgradeContainer s ctx containerID) event) ↔
      containerID ≠ [] ∧ ∃ r, Started s w containerID r := by
  have hfinish (op : Call) (hop : IsFinishing op) : ¬ IsStart op := by
    cases op <;> first | exact id | exact False.elim hop
  have hstarts : (∃ r, Started s w containerID r) ↔
      ∃ event, StartsContainer event ∧ Occurs w [] (recreate s containerID) event := by
    rw [← commits_recreate.succeeds_iff]
    exact exists_congr fun _ => returns_recreate.symm
  -- what follows the start of the container makes no further start, whatever it answers
  rw [hstarts, ← exists_and_left]
  refine exists_congr fun event => ?_
  rw [and_left_comm]
  refine and_congr_right fun hevent => ?_
  exact occurs_upgradeContainer_iff huser hadmin hfinish (fun _ => id) (isStart_of_startsContainer event hevent)

/-- The stream of the pull ends without an error. -/
def Pulled (w : Outside) (r : Recreated) : Prop := w (.copyProgress r.inspect.config.image) 0 = .ok ()

/-- The pull of an image is completed. -/
def CompletesPull (event : CallEvent) : Prop := ∃ image, event = ⟨.copyProgress image, .ok ()⟩

def IsCopy : Call → Prop
  | .copyProgress _ => True
  | _ => False

/-- The new container is started whether or not the pull has been completed. -/
theorem occurs_pull_upgradeContainer (huser : ctx.user = some user) (hadmin : user.role = adminRole)
    (hid : containerID ≠ []) (hstarted : Started s w containerID r) :
    (∃ event, CompletesPull event ∧ Occurs w [] (upgradeContainer s ctx containerID) event) ↔ Pulled w r := by
  have hfinish (op : Call) (hop : IsFinishing op) : ¬ IsCopy op := by
    cases op <;> first | exact id | exact False.elim hop
  have hoccurs (image : GoString) : Occurs w [] (upgradeContainer s ctx containerID) ⟨.copyProgress image, .ok ()⟩ ↔
      image = r.inspect.config.image ∧ Pulled w r := by
    have hcopy : IsCopy (Event.op (⟨.copyProgress image, .ok ()⟩ : CallEvent)) := trivial
    rw [occurs_upgradeContainer_iff huser hadmin hfinish (fun _ => id) hcopy, and_iff_right hid]
    simp only [recreate, requireDockerClient, replaceContainer, Program.occurs_perform_bind,
      Program.occurs_orFail_bind, Program.occurs_ensure_bind, List.count_nil, List.count_cons_of_ne, ne_eq,
      Event.mk.injEq, reduceCtorEq, not_false_eq_true, false_and, false_or]
    constructor
    · rintro ⟨existing, _, _, inspect, hinspect, _, _, _, ⟨hop, hanswer⟩ | ⟨newImage, _, hlater⟩⟩
      · obtain rfl := Except.ok.inj (hinspect.symm.trans hstarted.inspected)
        exact ⟨Call.copyProgress.inj hop, (eq_of_heq hanswer).symm⟩
      -- the old container is replaced without another pull
      · refine absurd hlater (Program.Never.not_occurs (R := IsCopy) ?_ hcopy)
        refine (never_stopRunning id).bind fun _ => ?_
        simp only [Program.never_perform_bind, Program.never_orFail_bind]
        refine ⟨id, fun _ _ _ => ⟨id, fun _ newID _ => ⟨id, fun order => ?_⟩⟩⟩
        refine (never_connectNetworks _ (fun _ _ => id) id).bind fun _ => ?_
        simp only [Program.never_perform_bind, Program.never_orFail_bind]
        exact ⟨id, fun _ _ _ => trivial⟩
    · rintro ⟨rfl, hpulled⟩
      exact ⟨r.existing, hstarted.existing, hstarted.dockerClient, r.inspect, hstarted.inspected, hstarted.image_ne,
        (), hstarted.pulled, Or.inl ⟨rfl, heq_of_eq hpulled.symm⟩⟩
  simp [CompletesPull, hoccurs]

/-- The upgrade itself records nothing. -/
theorem never_record_upgradeContainerInternal :
    (upgradeContainerInternal s containerID).Never IsRecord := by
  have hreplacing (op : Call) (hop : IsReplacing op) : ¬ IsRecord op := by
    cases op <;> first | exact id | exact False.elim hop
  have hfinish (op : Call) (hop : IsFinishing op) : ¬ IsRecord op := by
    cases op <;> first | exact id | exact False.elim hop
  refine Program.Never.bind ?_ fun _ => never_finish hfinish
  simp only [recreate, requireDockerClient, Program.never_perform_bind, Program.never_orFail_bind,
    Program.never_ensure_bind]
  exact ⟨id, fun _ _ _ _ => ⟨id, fun _ _ _ => never_replaceContainer hreplacing⟩⟩

/-- The handler records one entry, with the result of the upgrade, unless the container id is empty. -/
theorem recordedEntries_upgradeContainer (huser : ctx.user = some user) (hadmin : user.role = adminRole)
    (hauditor : s.auditor = true) :
    recordedEntries (Program.run w [] (upgradeContainer s ctx containerID)).trace =
      if containerID = [] then []
      else [upgradeEntry .user user.username user.role containerID
        (Program.run w [] (upgradeContainerInternal s containerID)).result] := by
  rw [upgradeContainer_of_admin huser hadmin]
  split
  · rename_i hid
    simp [requireContainerID, ensure, hid, recordedEntries]
  · rename_i hid
    have htail (past : List Call) (result : Except ConnectError UpgradeContainerResponse) :
        recordedEntries (Program.run w past
          (orFail id result >>= fun resp => (.done (.upgradeContainer resp.id resp.previousImageID
            resp.currentImageID) : Handler AnyResponse))).trace = [] :=
      recordedEntries_of_never (by simp)
    simp only [requireContainerID, ensure, if_pos hid, Program.done_bind]
    rw [Program.run_bind, Program.run_attempt]
    simp only [recordedEntries_append, recordedEntries_of_never never_record_upgradeContainerInternal,
      auditUpgrade, hauditor, Bool.true_eq_false, if_false, List.nil_append, Program.run_perform_bind]
    rw [recordedEntries, List.filterMap_cons]
    exact congrArg _ (htail _ _)

end Container
end Dmanager
