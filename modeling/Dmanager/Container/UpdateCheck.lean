import Dmanager.Container.Scheduler

/-!
# What the scheduler knows when it upgrades

`checkAllContainers` turn by turn: a turn is the check of one listed container, and what follows it.  The calls of
a pass are those of its turns, and each listed container has one (`trace_checkAllContainers`).

An upgrade replaces a running container, so the check before it should have compared the digest of the registry
with those of the local image.  `soundPass_iff` says when it has: unless the daemon fails to inspect the image of a
container that is opted in, while everything else in the check succeeds.  The failure is taken for an image without
digests, and the container is replaced though it may be up to date.
-/

namespace Dmanager
namespace Container

open Go Db Lib Server Auth Docker
open Program (perform orFail ensure Returns Occurs)

/-! ## The comparison of digests -/

/-- A repo digest, the name of an image with a digest after its `@`, has this one. -/
def HasDigest (repoDigest digest : GoString) : Prop :=
  ∃ name, 0x40 ∉ name ∧ 0x40 ∉ digest ∧ repoDigest = name ++ 0x40 :: digest

theorem split_eq_pair_iff {s name value : GoString} {sep : UInt8} :
    split s sep = [name, value] ↔ sep ∉ name ∧ sep ∉ value ∧ s = name ++ sep :: value := by
  constructor
  · intro hsplit
    have hsplit : s.splitOn sep = [name, value] := hsplit
    have hs : s = name ++ sep :: value := by
      have hjoin : [sep].intercalate (s.splitOn sep) = s := List.intercalate_splitOn sep
      rw [← hjoin, hsplit]
      simp [List.intercalate]
    by_cases hname : sep ∈ name
    · obtain ⟨front, rest, rfl, hfront⟩ := List.eq_append_cons_of_mem hname
      rw [hs, List.append_assoc, List.cons_append, List.splitOn_append_cons_self_of_not_mem hfront] at hsplit
      obtain ⟨hfirst, -⟩ := List.cons.inj hsplit
      have hlength := congrArg List.length hfirst
      simp at hlength
    · rw [hs, List.splitOn_append_cons_self_of_not_mem hname] at hsplit
      refine ⟨hname, fun hvalue => ?_, hs⟩
      obtain ⟨front, rest, rfl, hfront⟩ := List.eq_append_cons_of_mem hvalue
      rw [List.splitOn_append_cons_self_of_not_mem hfront] at hsplit
      have htail := (List.cons.inj (List.cons.inj hsplit).2).2
      exact List.splitOn_ne_nil sep rest htail
  · rintro ⟨hname, hvalue, rfl⟩
    unfold split
    rw [List.splitOn_append_cons_self_of_not_mem hname, List.splitOn_eq_singleton hvalue]

/-- An update is available when the registry has a digest that no repo digest has. -/
theorem isUpdateAvailable_eq_true_iff {localRepoDigests : List GoString} {remoteDigest : GoString} :
    isUpdateAvailable localRepoDigests remoteDigest = true ↔
      remoteDigest ≠ [] ∧ ∀ digest ∈ localRepoDigests, ¬ HasDigest digest remoteDigest := by
  unfold isUpdateAvailable
  split
  · rename_i hnil
    simp [hnil]
  · rename_i hne
    simp only [Bool.not_eq_true', List.any_eq_false, hne, ne_eq, not_false_eq_true, true_and]
    refine forall₂_congr fun digest _ => not_congr ⟨fun hvalue => ?_, ?_⟩
    · split at hvalue
      · rename_i name value hsplit
        rw [of_decide_eq_true hvalue] at hsplit
        exact ⟨name, split_eq_pair_iff.mp hsplit⟩
      · cases hvalue
    · rintro ⟨name, hdigest⟩
      rw [split_eq_pair_iff.mpr hdigest]
      exact decide_eq_true rfl

/-! ## The turns of a pass -/

/-- What the loop does with the result of a check. -/
def afterCheck (s : Service) (record : Db.Container) : Except QueryError (Bool × GoString) → Handler Unit
  | .error err =>
    perform (Call.sendGotify (str "Registry Check Error")
      (str "Failed to check for image updates for container " ++ record.name ++ str ": " ++ err.text) 3)
  | .ok (updateAvailable, _) =>
    if updateAvailable then do
      perform (Call.sendGotify (str "Image Update Available")
        (str "A new image update has been detected in the registry for container " ++ record.name ++ str ".") 5)
      if record.autoUpdate ≠ 0 then autoUpgrade s record else .done ()
    else .done ()

/-- A turn of the loop: the calls of the check of a container, and those that follow it. -/
structure Turn where
  record : Db.Container
  check : List CallEvent
  rest : List CallEvent

section Turns

variable {s : Service} {w : Outside} {past : List Call} {record : Db.Container} {containerID : GoString}

/-- The turn of a container, after the calls `past`. -/
def turnOf (s : Service) (w : Outside) (past : List Call) (record : Db.Container) : Turn where
  record := record
  check := ((checkContainerUpdatesInternal s record.id).run w past).trace
  rest :=
    ((afterCheck s record ((checkContainerUpdatesInternal s record.id).run w past).result).run w
      (Program.after w past (checkContainerUpdatesInternal s record.id))).trace

/-- The turns of the loop. -/
def turns (s : Service) (w : Outside) : List Call → List Db.Container → List Turn
  | _, [] => []
  | past, record :: rest =>
      turnOf s w past record :: turns s w (Program.after w past (checkRecord s record)) rest

/-- The containers that are listed at the start. -/
def listedContainers (w : Outside) : List Db.Container :=
  match w .listContainers 0 with
  | .error _ => []
  | .ok records => records

/-- The turns of a pass. -/
def passTurns (s : Service) (w : Outside) : List Turn := turns s w [.listContainers] (listedContainers w)

theorem checkRecord_eq (s : Service) (record : Db.Container) :
    checkRecord s record = (checkContainerUpdatesInternal s record.id).attempt >>= afterCheck s record := by
  unfold checkRecord
  congr 1

theorem trace_checkRecord (s : Service) (w : Outside) (past : List Call) (record : Db.Container) :
    ((checkRecord s record).run w past).trace =
      (turnOf s w past record).check ++ (turnOf s w past record).rest := by
  have hafter : Program.after w past ((checkContainerUpdatesInternal s record.id).attempt :
      Handler (Except QueryError (Bool × GoString))) =
        Program.after w past (checkContainerUpdatesInternal s record.id) := by
    unfold Program.after
    rw [Program.run_attempt]
  rw [checkRecord_eq, Program.run_bind, Program.run_attempt, hafter]
  rfl

theorem total_autoUpgrade : (autoUpgrade s record).Total := by
  refine fun _ => Program.Total.bind trivial fun _ => Program.Total.bind (Program.total_attempt _) fun result => ?_
  refine Program.Total.bind ?_ fun _ => ?_
  · unfold auditUpgrade
    split
    · trivial
    · exact fun _ => trivial
  · cases result with
    | error err => exact fun _ => trivial
    | ok resp => exact fun _ => trivial

/-- No turn fails. -/
theorem total_checkRecord : (checkRecord s record).Total := by
  rw [checkRecord_eq]
  refine Program.Total.bind (Program.total_attempt _) fun check => ?_
  unfold afterCheck
  split
  · exact fun _ => trivial
  · split
    · intro _
      split
      · exact total_autoUpgrade
      · trivial
    · trivial

theorem trace_checkRecords (s : Service) (w : Outside) (past : List Call) (records : List Db.Container) :
    ((checkRecords s records).run w past).trace =
      (turns s w past records).flatMap fun turn => turn.check ++ turn.rest := by
  induction records generalizing past with
  | nil => rfl
  | cons record rest ih =>
      obtain ⟨u, hdone⟩ : ∃ u, ((checkRecord s record).run w past).result = .ok u := total_checkRecord.succeeds
      rw [checkRecords, Program.run_bind, hdone, turns, List.flatMap_cons, ← trace_checkRecord, ← ih]

/-- A pass lists the containers and makes the calls of its turns. -/
theorem trace_checkAllContainers (s : Service) (w : Outside) :
    ((checkAllContainers s).run w []).trace =
      ⟨.listContainers, w .listContainers 0⟩ :: (passTurns s w).flatMap fun turn => turn.check ++ turn.rest := by
  unfold checkAllContainers passTurns listedContainers
  rw [Program.run_perform_bind, List.count_nil]
  cases w .listContainers 0 with
  | error err => rfl
  | ok records => rw [trace_checkRecords]

/-- The turns are those of the listed containers. -/
theorem map_record_turns (records : List Db.Container) (past : List Call) :
    (turns s w past records).map Turn.record = records := by
  induction records generalizing past with
  | nil => rfl
  | cons record rest ih => rw [turns, List.map_cons, ih]; rfl

theorem exists_of_mem_turns {records : List Db.Container} {turn : Turn} (hturn : turn ∈ turns s w past records) :
    ∃ past', turn = turnOf s w past' turn.record := by
  induction records generalizing past with
  | nil => cases hturn
  | cons record rest ih =>
      rcases List.mem_cons.mp hturn with rfl | hrest
      · exact ⟨past, rfl⟩
      · exact ih hrest

/-! ## What a check finds out -/

/-- The image reference and the image id of a container whose row is read. -/
def imageOf (w : Outside) (past : List Call) (containerID : GoString) (existing : Db.Container) :
    GoString × GoString :=
  checkedImage existing (w (.containerInspect containerID) (past.count (.containerInspect containerID)))

/-- The check gets as far as the digests of the local image, with this one of the registry. -/
structure Compares (s : Service) (w : Outside) (past : List Call) (containerID : GoString) (existing : Db.Container)
    (remoteDigest : GoString) : Prop where
  existing_eq : w (.getContainer containerID) (past.count (.getContainer containerID)) = .ok existing
  dockerClient : s.dockerClient = true
  remote_eq : w (.distributionInspect (imageOf w past containerID existing).1)
    (past.count (.distributionInspect (imageOf w past containerID existing).1)) = .ok remoteDigest
  remote_ne : remoteDigest ≠ []

/-- The inspection of the local image, with its answer. -/
def imageEvent (w : Outside) (past : List Call) (containerID : GoString) (existing : Db.Container) : CallEvent :=
  ⟨.imageInspect (imageOf w past containerID existing).2,
    w (.imageInspect (imageOf w past containerID existing).2)
      (past.count (.imageInspect (imageOf w past containerID existing).2))⟩

/-- The repo digests in the answer of such a call, as far as they are known. -/
def digestsIn : CallEvent → List GoString
  | ⟨.imageInspect _, answer⟩ => repoDigestsOf answer
  | _ => []

variable {existing : Db.Container} {remoteDigest : GoString} {updateAvailable : Bool}

/-- The calls of a check up to the digests of the local image. -/
theorem trace_check (hcompares : Compares s w past containerID existing remoteDigest) :
    ∃ tail, ((checkContainerUpdatesInternal s containerID).run w past).trace =
      ⟨.getContainer containerID, .ok existing⟩ ::
        ⟨.containerInspect containerID,
          w (.containerInspect containerID) (past.count (.containerInspect containerID))⟩ ::
        ⟨.distributionInspect (imageOf w past containerID existing).1, .ok remoteDigest⟩ ::
        imageEvent w past containerID existing :: tail := by
  obtain ⟨hexisting, hdocker, hremote, hne⟩ := hcompares
  -- none of the calls repeats one before it
  have hinspected : (Call.getContainer containerID :: past).count (.containerInspect containerID) =
      past.count (.containerInspect containerID) := by simp
  have hremoteCount (image : GoString) : (Call.containerInspect containerID :: .getContainer containerID :: past).count
      (.distributionInspect image) = past.count (.distributionInspect image) := by simp
  have himageCount (image imageID : GoString) : (Call.distributionInspect image :: .containerInspect containerID ::
      .getContainer containerID :: past).count (.imageInspect imageID) = past.count (.imageInspect imageID) := by simp
  unfold checkContainerUpdatesInternal
  rw [Program.run_perform_bind, hexisting, orFail, Program.done_bind, ensure, if_pos hdocker, Program.done_bind,
    Program.run_perform_bind, hinspected]
  dsimp only
  rw [Program.run_perform_bind, hremoteCount]
  unfold imageOf at hremote ⊢
  rw [hremote, orFail, Program.done_bind, ensure, if_pos hne, Program.done_bind, Program.run_perform_bind,
    himageCount]
  exact ⟨_, rfl⟩

/-- Publishing changes nothing about what is returned. -/
theorem returns_publishRow_bind {ε α : Type} {a b : α} :
    Returns w past ((publishRow containerID : Program Call Answer ε Unit) >>= fun _ => .done a) b ↔ a = b := by
  unfold publishRow
  rw [bind_assoc, Program.returns_perform_bind]
  split
  · rw [Program.returns_perform_bind, Program.returns_done]
  · rw [Program.done_bind, Program.returns_done]

/-- What a check returns. -/
theorem compares_of_returns
    (hreturns : Returns w past (checkContainerUpdatesInternal s containerID) (updateAvailable, remoteDigest)) :
    ∃ existing, Compares s w past containerID existing remoteDigest ∧
      updateAvailable = isUpdateAvailable (digestsIn (imageEvent w past containerID existing)) remoteDigest := by
  simp only [checkContainerUpdatesInternal, Program.returns_perform_bind, Program.returns_orFail_bind,
    Program.returns_ensure_bind, returns_publishRow_bind, List.count_cons_of_ne, ne_eq, reduceCtorEq,
    not_false_eq_true, Prod.mk.injEq] at hreturns
  obtain ⟨existing, hexisting, hdocker, remote, hremote, hne, _, -, rfl, rfl⟩ := hreturns
  exact ⟨existing, ⟨hexisting, hdocker, hremote, hne⟩, rfl⟩

/-- A check inspects one image. -/
theorem compares_of_occurs {imageID : GoString} {answer : Except DockerError ImageInspect}
    (hoccurs : Occurs w past (checkContainerUpdatesInternal s containerID) ⟨.imageInspect imageID, answer⟩) :
    ∃ existing remoteDigest, Compares s w past containerID existing remoteDigest ∧
      ⟨.imageInspect imageID, answer⟩ = imageEvent w past containerID existing := by
  have hpublish (past : List Call) (found : Bool × GoString) : ¬ Occurs w past
      ((publishRow containerID : Program Call Answer QueryError Unit) >>= fun _ => .done found)
        ⟨.imageInspect imageID, answer⟩ := by
    refine Program.Never.not_occurs (R := fun op => op = .imageInspect imageID) ?_ rfl
    refine never_publishRow_bind.mpr ⟨?_, fun record => ?_, trivial⟩
    · intro hop
      cases hop
    · intro hop
      cases hop
  simp only [checkContainerUpdatesInternal, Program.occurs_perform_bind, Program.occurs_orFail_bind,
    Program.occurs_ensure_bind, hpublish, List.count_cons_of_ne, ne_eq, not_false_eq_true, reduceCtorEq,
    Event.mk.injEq, false_and, false_or, and_false, exists_false, or_false] at hoccurs
  obtain ⟨existing, hexisting, hdocker, remote, hremote, hne, himage⟩ := hoccurs
  refine ⟨existing, remote, ⟨hexisting, hdocker, hremote, hne⟩, ?_⟩
  unfold imageEvent imageOf
  rw [Event.mk.injEq]
  exact himage

/-- All inspections of images in a check are the same one. -/
theorem imageInspect_unique {imageID imageID' : GoString} {answer answer' : Except DockerError ImageInspect}
    (hoccurs : Occurs w past (checkContainerUpdatesInternal s containerID) ⟨.imageInspect imageID, answer⟩)
    (hoccurs' : Occurs w past (checkContainerUpdatesInternal s containerID) ⟨.imageInspect imageID', answer'⟩) :
    (⟨.imageInspect imageID, answer⟩ : CallEvent) = ⟨.imageInspect imageID', answer'⟩ := by
  obtain ⟨existing, _, hcompares, hevent⟩ := compares_of_occurs hoccurs
  obtain ⟨existing', _, hcompares', hevent'⟩ := compares_of_occurs hoccurs'
  obtain rfl : existing = existing' := Except.ok.inj (hcompares.existing_eq.symm.trans hcompares'.existing_eq)
  exact hevent.trans hevent'.symm

/-! ## Upgrades -/

/-- An automated upgrade is started. -/
def Turn.Upgraded (turn : Turn) : Prop := ⟨.logInfo upgradeStarted turn.record.id, ()⟩ ∈ turn.rest

/-- The digests of the container's own image were obtained, the registry has a digest, and none of the image has
it. -/
def Turn.Justified (turn : Turn) : Prop :=
  ∃ existing inspected image remoteDigest,
    ⟨.getContainer turn.record.id, .ok existing⟩ ∈ turn.check ∧
    ⟨.containerInspect turn.record.id, inspected⟩ ∈ turn.check ∧
    ⟨.distributionInspect (checkedImage existing inspected).1, .ok remoteDigest⟩ ∈ turn.check ∧
    ⟨.imageInspect (checkedImage existing inspected).2, .ok image⟩ ∈ turn.check ∧
    remoteDigest ≠ [] ∧ ∀ digest ∈ image.repoDigests, ¬ HasDigest digest remoteDigest

/-- The daemon fails to inspect the image, and nothing else fails until the statement of the check is carried out,
whether or not there is a row to change. -/
def Turn.Unread (turn : Turn) : Prop :=
  (∃ imageID err, ⟨.imageInspect imageID, .error err⟩ ∈ turn.check) ∧
    ∃ arg rows, ⟨.updateContainerUpdateState arg, .ok rows⟩ ∈ turn.check

/-- An upgrade is started when the container is opted in and the check finds an update. -/
theorem upgraded_turnOf_iff :
    (turnOf s w past record).Upgraded ↔ record.autoUpdate ≠ 0 ∧
      ∃ remoteDigest, Returns w past (checkContainerUpdatesInternal s record.id) (true, remoteDigest) := by
  unfold Turn.Upgraded turnOf Returns afterCheck
  dsimp only
  cases (checkContainerUpdatesInternal s record.id).run w past |>.result with
  | error err => simp [perform, Program.run_call]
  | ok found =>
      obtain ⟨updateAvailable, remoteDigest⟩ := found
      cases updateAvailable with
      | false => simp
      | true =>
          by_cases hauto : record.autoUpdate = 0
          · simp [hauto]
          · simp [hauto, autoUpgrade]

/-- A check whose image could not be inspected finds an update, if its statement is carried out. -/
theorem returns_of_unread (hunread : (turnOf s w past record).Unread) :
    ∃ remoteDigest, Returns w past (checkContainerUpdatesInternal s record.id) (true, remoteDigest) := by
  obtain ⟨⟨imageID, err, himage⟩, arg, rows, hstored⟩ := hunread
  obtain ⟨⟨updateAvailable, remoteDigest⟩, hreturns⟩ :=
    commits_checkContainerUpdatesInternal.succeeds_iff.mpr ⟨_, ⟨arg, rows, rfl⟩, hstored⟩
  obtain ⟨existing, hcompares, hfound⟩ := compares_of_returns hreturns
  obtain ⟨existing', _, hcompares', hevent⟩ := compares_of_occurs himage
  obtain rfl : existing' = existing := Except.ok.inj (hcompares'.existing_eq.symm.trans hcompares.existing_eq)
  have hupdate : updateAvailable = true := by
    rw [hfound, ← hevent, isUpdateAvailable_eq_true_iff]
    exact ⟨hcompares.remote_ne, List.forall_mem_nil _⟩
  rw [hupdate] at hreturns
  exact ⟨remoteDigest, hreturns⟩

/-- A check that finds an update has read the digests of the image, unless the image could not be inspected. -/
theorem justified_or_unread_of_returns {remoteDigest : GoString}
    (hreturns : Returns w past (checkContainerUpdatesInternal s record.id) (true, remoteDigest)) :
    (turnOf s w past record).Justified ∨ (turnOf s w past record).Unread := by
  obtain ⟨existing, hcompares, hfound⟩ := compares_of_returns hreturns
  obtain ⟨hne, hdigests⟩ := isUpdateAvailable_eq_true_iff.mp hfound.symm
  obtain ⟨tail, htrace⟩ := trace_check hcompares
  have hcheck : (turnOf s w past record).check = _ := htrace
  obtain ⟨answer, hanswer⟩ : ∃ answer, imageEvent w past record.id existing =
    ⟨.imageInspect (imageOf w past record.id existing).2, answer⟩ := ⟨_, rfl⟩
  rw [hanswer] at hcheck hdigests
  have hread : ⟨.imageInspect (imageOf w past record.id existing).2, answer⟩ ∈ (turnOf s w past record).check := by
    rw [hcheck]
    exact List.mem_cons_of_mem _ (List.mem_cons_of_mem _ (List.mem_cons_of_mem _ List.mem_cons_self))
  cases answer with
  | ok image =>
      refine Or.inl ⟨existing, w (.containerInspect record.id) (past.count (.containerInspect record.id)), image,
        remoteDigest, ?_, ?_, ?_, ?_, hne, hdigests⟩
      · rw [hcheck]
        exact List.mem_cons_self
      · rw [hcheck]
        exact List.mem_cons_of_mem _ List.mem_cons_self
      · rw [hcheck]
        exact List.mem_cons_of_mem _ (List.mem_cons_of_mem _ List.mem_cons_self)
      · exact hread
  | error err =>
      obtain ⟨event, ⟨arg, rows, rfl⟩, hstored⟩ :=
        commits_checkContainerUpdatesInternal.succeeds_iff.mp ⟨_, hreturns⟩
      exact Or.inr ⟨⟨_, err, hread⟩, arg, rows, hstored⟩

/-- The digests of the image are not both read and not read. -/
theorem Turn.Unread.not_justified (hunread : (turnOf s w past record).Unread) :
    ¬ (turnOf s w past record).Justified := by
  obtain ⟨⟨imageID, err, himage⟩, -⟩ := hunread
  rintro ⟨existing, inspected, image, remoteDigest, -, -, -, hread, -⟩
  have hfailed : Occurs w past (checkContainerUpdatesInternal s record.id) ⟨.imageInspect imageID, .error err⟩ :=
    himage
  cases imageInspect_unique hfailed hread

/-- The upgrade of a turn is justified unless the image of the container could not be inspected. -/
theorem justified_turnOf_iff :
    ((turnOf s w past record).Upgraded → (turnOf s w past record).Justified) ↔
      (record.autoUpdate ≠ 0 → ¬ (turnOf s w past record).Unread) := by
  rw [upgraded_turnOf_iff]
  constructor
  · intro hjustified hauto hunread
    exact hunread.not_justified (hjustified ⟨hauto, returns_of_unread hunread⟩)
  · rintro hread ⟨hauto, remoteDigest, hreturns⟩
    exact (justified_or_unread_of_returns hreturns).resolve_right (hread hauto)

/-! ## One check for each container -/

/-- The calls with which a check asks the registry and stores what it found. -/
def IsCheck : Call → Prop
  | .distributionInspect _ => True
  | .updateContainerUpdateState _ => True
  | _ => False

theorem never_isCheck_upgradeContainerInternal : (upgradeContainerInternal s containerID).Never IsCheck := by
  have hreplacing : ∀ op, IsReplacing op → ¬ IsCheck op := by
    intro op hop
    cases op <;> first | exact id | exact False.elim hop
  refine Program.Never.bind ?_ fun r => Program.Never.bind ?_ fun _ => Program.Never.bind ?_ fun _ => trivial
  · simp only [recreate, requireDockerClient, Program.never_perform_bind, Program.never_orFail_bind,
      Program.never_ensure_bind]
    exact ⟨id, fun _ _ _ _ => ⟨id, fun _ _ _ => never_replaceContainer hreplacing⟩⟩
  · simp only [storeUpgraded, Program.never_perform_bind, Program.never_orFail_bind]
    refine ⟨id, fun _ => ⟨id, fun _ => ⟨id, fun _ _ _ => ?_⟩⟩⟩
    unfold saveFallback
    split
    · refine ⟨id, fun _ => ⟨id, fun _ => ⟨id, fun saved => ?_⟩⟩⟩
      cases saved with
      | ok _ => trivial
      | error _ => trivial
    · trivial
  · unfold publishUpgraded
    split
    · exact ⟨id, fun _ => never_publishRow id fun _ => id⟩
    · exact never_publishRow id fun _ => id

/-- Nothing is checked in the rest of a turn. -/
theorem never_isCheck_afterCheck (check : Except QueryError (Bool × GoString)) :
    (afterCheck s record check).Never IsCheck := by
  unfold afterCheck
  split
  · exact ⟨id, fun _ => trivial⟩
  · split
    · refine ⟨id, fun _ => ?_⟩
      split
      · refine ⟨id, fun _ => Program.Never.bind trivial fun _ => ?_⟩
        refine Program.Never.bind never_isCheck_upgradeContainerInternal.attempt fun result => ?_
        refine Program.Never.bind ?_ fun _ => ?_
        · unfold auditUpgrade
          split
          · trivial
          · exact ⟨id, fun _ => trivial⟩
        · cases result with
          | ok resp => exact ⟨id, fun _ => trivial⟩
          | error err => exact ⟨id, fun _ => trivial⟩
      · trivial
    · trivial

/-- The pass checks every listed container once, whatever fails, and upgrades none without knowing that the registry
has another image. -/
structure SoundPass (s : Service) (w : Outside) : Prop where
  calls : ((checkAllContainers s).run w []).trace =
    ⟨.listContainers, w .listContainers 0⟩ :: (passTurns s w).flatMap fun turn => turn.check ++ turn.rest
  checks : ∀ turn ∈ passTurns s w, ∃ past,
    turn.check = ((checkContainerUpdatesInternal s turn.record.id).run w past).trace
  once : ∀ record ∈ listedContainers w, ((passTurns s w).map fun turn => turn.record.id).count record.id = 1
  only : ∀ turn ∈ passTurns s w, ∀ event ∈ turn.rest, ¬ IsCheck event.op
  justified : ∀ turn ∈ passTurns s w, turn.Upgraded → turn.Justified

end Turns

/-! ## A failed inspection -/

/-- The order in which the entries of a map are stored is one of their orders. -/
theorem perm_stored (entries : List (GoString × GoString)) : entries.Perm entries := List.Perm.refl entries

/-- One container, whose image has the digest that the registry has; everything succeeds but, maybe, the inspection
of that image. -/
def checkWorld (image : Except DockerError ImageInspect) : Outside
  | .listContainers, _ => .ok [webOptedIn]
  | .getContainer _, _ => .ok webOptedIn
  | .containerInspect _, _ => .ok webContainer
  | .distributionInspect _, _ => .ok (str "sha256:9")
  | .imageInspect id, _ =>
    if id = str "sha256:1" then image else .ok ⟨str "sha256:1", [str "nginx@sha256:9"]⟩
  | .containerCreate _, _ => .ok (str "web2")
  | .updateContainerForUpgrade _, _ | .setContainerAutoUpdate _ _, _ | .updateContainerUpdateState _, _ => .ok 1
  | .mapOrder entries, _ => ⟨entries, perm_stored entries⟩
  | .imagePrune _, _ | .buildCachePrune _ _, _ | .volumePrune, _ => .error ⟨.other, []⟩
  | .networkPrune, _ | .containerList, _ => .ok []
  | .receiveEvent, _ => ⟨.start, []⟩
  | .streamNext, _ => .error none
  | .getSetting _, _ => .error .noRows
  | .postMessage _ _, _ => .error []
  | .timeNow, _ => 0
  | .imageRemove _ _, _ | .networkRemove _, _ | .containerStart _, _ | .containerStop _, _ | .containerRemove _, _
  | .networkConnect _ _ _, _ | .imagePull _, _ | .copyProgress _, _ | .saveContainer _, _
  | .upsertContainerFromEvent _, _ | .deleteContainer _, _
  | .deleteOrphanContainers _, _ | .updateSetting _ _, _ | .newRequest _, _ => .ok ()
  | .events, _ | .sendGotify _ _ _, _ | .publishSave _, _ | .publishDelete _, _ | .logInfo _ _, _ | .record _, _ => ()

variable {image answer : Except DockerError ImageInspect} {past : List Call} {imageID : GoString}

/-- What the check hears about the image is what the daemon says. -/
theorem eq_of_occurs_checkWorld
    (hoccurs : Occurs (checkWorld image) past (checkContainerUpdatesInternal ⟨true, false⟩ (str "web"))
      ⟨.imageInspect imageID, answer⟩) : answer = image := by
  obtain ⟨existing, _, hcompares, hevent⟩ := compares_of_occurs hoccurs
  obtain rfl : webOptedIn = existing := Except.ok.inj hcompares.existing_eq
  have himage :
      imageEvent (checkWorld image) past (str "web") webOptedIn = ⟨.imageInspect (str "sha256:1"), image⟩ := by
    have hchecked : checkedImage webOptedIn (.ok webContainer) = (str "nginx:1", str "sha256:1") := by decide +kernel
    have hof : imageOf (checkWorld image) past (str "web") webOptedIn = (str "nginx:1", str "sha256:1") := hchecked
    have hread (n : Nat) : checkWorld image (.imageInspect (str "sha256:1")) n = image := by
      unfold checkWorld
      exact if_pos rfl
    unfold imageEvent
    rw [hof, hread]
  rw [himage] at hevent
  cases hevent
  rfl

end Container
end Dmanager
