import Dmanager.Container.ActionsInterleaved
import Dmanager.Container.Upgrade

/-!
# The scheduled updates

`checkAllContainers` of `internal/container/scheduler.go`: the pass reads the table once, checks the containers
one after the other, and upgrades those that were opted in when the table was read.  A check asks the registry,
and an upgrade pulls an image, so `SetContainerAutoUpdate` requests may land at any point in between.

`startsOptedIn_iff` says when every upgrade is that of a container whose row is opted in at that moment: when every
opt-out between the list and the upgrade has been followed by an opt-in.  That the container was listed as opted in
is the test of the pass (`PassCall`).  `optOut_not_seen` is a run in which an opt-out lands between the list and the
upgrade.

The column has no constraint.  A flag that is neither `0` nor `1`, which nothing in the program writes, is no opt-in
but passes the test.

The moment at which `upgradeContainerInternal` is called is that of the line of the log right before it.
-/

namespace Dmanager
namespace Container

open Go Db Lib Server Auth Docker
open Program (perform orFail ensure Quietly)

/-! ## The source -/

/-- The line of the log right before the call of `upgradeContainerInternal`. -/
def upgradeStarted : GoString :=
  str "Scheduler: auto-update is enabled. Triggering automated container re-deployment"

/-- The notification at the end of an automated upgrade. -/
def reportUpgrade (record : Db.Container) : Except ConnectError UpgradeContainerResponse → Handler Unit
  | .error err =>
    perform (Call.sendGotify (str "Auto-Update Failed")
      (str "Automated container re-deployment for " ++ record.name ++ str " failed: " ++ err.text) 8)
  | .ok _ =>
    perform (Call.sendGotify (str "Auto-Update Succeeded")
      (str "Automated container " ++ record.name ++
        str " re-deployment succeeded. The container was successfully updated and restarted.") 5)

/-- The automated upgrade of a container. -/
def autoUpgrade (s : Service) (record : Db.Container) : Handler Unit := do
  perform (Call.logInfo upgradeStarted record.id)
  let result ← (upgradeContainerInternal s record.id).attempt
  auditUpgrade s .system (str "system") [] record.id result
  reportUpgrade record result

/-- One turn of the loop of `checkAllContainers`. -/
def checkRecord (s : Service) (record : Db.Container) : Handler Unit := do
  let check ← (checkContainerUpdatesInternal s record.id).attempt
  match check with
  | .error err =>
    perform (Call.sendGotify (str "Registry Check Error")
      (str "Failed to check for image updates for container " ++ record.name ++ str ": " ++ err.text) 3)
  | .ok (updateAvailable, _) =>
    if updateAvailable then do
      perform (Call.sendGotify (str "Image Update Available")
        (str "A new image update has been detected in the registry for container " ++ record.name ++ str ".") 5)
      if record.autoUpdate ≠ 0 then autoUpgrade s record else .done ()
    else .done ()

/-- The loop of `checkAllContainers`. -/
def checkRecords (s : Service) : List Db.Container → Handler Unit
  | [] => .done ()
  | record :: rest => do
    checkRecord s record
    checkRecords s rest

/-- `checkAllContainers`. -/
def checkAllContainers (s : Service) : Handler Unit := do
  let records ← perform Call.listContainers
  match records with
  | .error _ => .done ()
  | .ok records => checkRecords s records

/-! ## The text of the pass -/

/-- The calls that matter for the flags: the statements that insert, remove or replace rows, the one that sets a
flag, the list, and the start of an upgrade. -/
def Notable : Call → Prop
  | .saveContainer _ => True
  | .updateContainerForUpgrade _ => True
  | .upsertContainerFromEvent _ => True
  | .deleteContainer _ => True
  | .deleteOrphanContainers _ => True
  | .setContainerAutoUpdate _ _ => True
  | .listContainers => True
  | .logInfo _ _ => True
  | _ => False

/-- No upgrade has replaced the row of the container. -/
def NotUpgraded (past : List CallEvent) (id : GoString) : Prop :=
  ∀ arg answer, (⟨.updateContainerForUpgrade arg, answer⟩ : CallEvent) ∈ past → arg.oldID ≠ id

/-- What the text says about the calls of a pass over the listed rows: it upgrades each of them at most once, starts the
upgrades of those that were listed with the flag, and falls back to a new row only when there was none to replace. -/
def PassCall (listed : List Db.Container) (past : List CallEvent) : Call → Prop
  | .updateContainerForUpgrade arg => NotUpgraded past arg.oldID ∧ ∃ record ∈ listed, record.id = arg.oldID
  | .saveContainer _ => ∃ arg, (⟨.updateContainerForUpgrade arg, .ok 0⟩ : CallEvent) ∈ past
  | .logInfo _ id => NotUpgraded past id ∧ ∃ record ∈ listed, record.id = id ∧ record.autoUpdate ≠ 0
  | op => ¬ Notable op

/-- Between the two moments no other container was upgraded. -/
def OnlyUpgraded (id : GoString) (past later : List CallEvent) : Prop :=
  ∀ other ≠ id, NotUpgraded past other → NotUpgraded later other

section Text

variable {s : Service} {containerID id : GoString} {past later start : List CallEvent}
variable {listed : List Db.Container} {record : Db.Container} {op : Call} {α : Type}

theorem passCall_of_not_notable (hop : ¬ Notable op) : PassCall listed past op := by
  cases op with
  | updateContainerForUpgrade arg => exact absurd trivial hop
  | saveContainer arg => exact absurd trivial hop
  | logInfo message id => exact absurd trivial hop
  | _ => exact hop

theorem notUpgraded_of_quietly (hquiet : Quietly Notable past later) (id : GoString) :
    NotUpgraded later id ↔ NotUpgraded past id := by
  have hsame (arg : UpdateContainerForUpgradeParams) (answer : Answer (.updateContainerForUpgrade arg)) :
      (⟨.updateContainerForUpgrade arg, answer⟩ : CallEvent) ∈ later ↔
        (⟨.updateContainerForUpgrade arg, answer⟩ : CallEvent) ∈ past := hquiet.mem_iff trivial
  unfold NotUpgraded
  simp only [hsame]

theorem onlyUpgraded_of_quietly (hquiet : Quietly Notable past later) : OnlyUpgraded id past later :=
  fun other _ => (notUpgraded_of_quietly hquiet other).mpr

theorem OnlyUpgraded.trans {between : List CallEvent} (hfirst : OnlyUpgraded id past between)
    (hsecond : OnlyUpgraded id between later) : OnlyUpgraded id past later :=
  fun other hother hpast => hsecond other hother (hfirst other hother hpast)

/-- A call that is not the statement of an upgrade leaves everything as upgraded as it was. -/
theorem notUpgraded_cons {answer : Answer op} (hop : ∀ arg, op ≠ .updateContainerForUpgrade arg) :
    NotUpgraded (⟨op, answer⟩ :: past) id ↔ NotUpgraded past id := by
  constructor
  · intro hlater arg answer hmem
    exact hlater arg answer (List.mem_cons_of_mem _ hmem)
  · intro hpast arg answer' hmem
    rcases List.mem_cons.mp hmem with heq | hold
    · exact absurd (congrArg Event.op heq).symm (hop arg)
    · exact hpast arg answer' hold

/-- The statement of an upgrade is that of one container. -/
theorem onlyUpgraded_cons {arg : UpdateContainerForUpgradeParams} {answer : Answer (.updateContainerForUpgrade arg)} :
    OnlyUpgraded arg.oldID past (⟨.updateContainerForUpgrade arg, answer⟩ :: past) := by
  intro other hother hpast arg' answer' hmem
  rcases List.mem_cons.mp hmem with heq | hold
  · cases heq
    exact Ne.symm hother
  · exact hpast arg' answer' hold

theorem never_publishRow {R : Call → Prop} {ε : Type} (hget : ¬ R (.getContainer containerID))
    (hpublish : ∀ record, ¬ R (.publishSave record)) :
    (publishRow containerID : Program Call Answer ε Unit).Never R := by
  refine ⟨hget, fun answer => ?_⟩
  cases answer with
  | ok record => exact ⟨hpublish record, fun _ => trivial⟩
  | error err => trivial

theorem never_notable_check : (checkContainerUpdatesInternal s containerID).Never Notable := by
  simp only [checkContainerUpdatesInternal, Program.never_perform_bind, Program.never_orFail_bind,
    Program.never_ensure_bind]
  refine ⟨id, fun _ _ _ _ => ⟨id, fun _ => ⟨id, fun _ _ _ _ => ⟨id, fun _ => ⟨id, fun _ => ⟨id, fun _ _ _ => ?_⟩⟩⟩⟩⟩⟩
  exact (never_publishRow id fun _ => id).bind fun _ => trivial

theorem never_notable_recreate : (recreate s containerID).Never Notable := by
  have hreplacing : ∀ op, IsReplacing op → ¬ Notable op := by
    intro op hop
    cases op <;> first | exact id | exact False.elim hop
  simp only [recreate, requireDockerClient, Program.never_perform_bind, Program.never_orFail_bind,
    Program.never_ensure_bind]
  exact ⟨id, fun _ _ _ _ => ⟨id, fun _ _ _ => never_replaceContainer hreplacing⟩⟩

theorem never_notable_publishUpgraded {newID : GoString} : (publishUpgraded containerID newID).Never Notable := by
  unfold publishUpgraded
  split
  · exact ⟨id, fun _ => never_publishRow id fun _ => id⟩
  · exact never_publishRow id fun _ => id

/-- The row of the old container is replaced, once; a new row is saved only if there was none. -/
theorem alongOr_storeUpgraded {r : Recreated} (hpast : NotUpgraded past containerID)
    (hlisted : ∃ record ∈ listed, record.id = containerID) :
    (storeUpgraded containerID r).AlongOr (PassCall listed) (fun later _ => OnlyUpgraded containerID past later)
      (fun later _ => OnlyUpgraded containerID past later) past := by
  have hquiet (inspected now) : Quietly Notable past
      ((⟨.timeNow, now⟩ : CallEvent) :: ⟨.containerInspect r.newID, inspected⟩ :: past) := by
    refine ⟨[_, _], rfl, ?_⟩
    simp [Notable]
  have hupdated (inspected now) (arg : UpdateContainerForUpgradeParams) (answer) (harg : arg.oldID = containerID) :
      OnlyUpgraded containerID past (⟨.updateContainerForUpgrade arg, answer⟩ ::
        ⟨.timeNow, now⟩ :: ⟨.containerInspect r.newID, inspected⟩ :: past) := by
    subst harg
    exact (onlyUpgraded_of_quietly (hquiet inspected now)).trans onlyUpgraded_cons
  unfold storeUpgraded saveFallback
  simp only [Program.alongOr_bind, Program.alongOr_perform, Program.alongOr_orFail]
  refine ⟨id, fun inspected => ⟨id, fun now => ⟨⟨?_, hlisted⟩, fun updated => ⟨fun rows hrows => ?_, ?_⟩⟩⟩⟩
  · exact (notUpgraded_of_quietly (hquiet inspected now) containerID).mpr hpast
  · subst hrows
    split
    · rename_i hzero
      subst hzero
      simp only [Program.alongOr_bind, Program.alongOr_perform, Program.alongOr_orFail]
      refine ⟨id, fun first => ⟨id, fun second => ⟨?_, fun saved => ⟨fun _ _ => ?_, fun _ _ => ?_⟩⟩⟩⟩
      · exact ⟨_, List.mem_cons_of_mem _ (List.mem_cons_of_mem _ List.mem_cons_self)⟩
      all_goals
        refine (hupdated inspected now (upgradedRow containerID r (newState inspected) now) (.ok 0) rfl).trans ?_
        intro other _ hother
        rw [notUpgraded_cons, notUpgraded_cons, notUpgraded_cons]
        · exact hother
        all_goals
          intro _ hcall
          cases hcall
    · exact hupdated inspected now _ _ rfl
  · intro _ _
    exact hupdated inspected now _ _ rfl

/-- A part of the pass that makes no notable call. -/
theorem alongOr_of_never_notable {ε : Type} {p : Program Call Answer ε α} (hnever : p.Never Notable) :
    p.AlongOr (PassCall listed) (fun later _ => Quietly Notable past later) (fun later _ => Quietly Notable past later)
      past :=
  hnever.alongOr (fun _ _ => passCall_of_not_notable) (Quietly.refl past)

theorem alongOr_upgradeContainerInternal (hpast : NotUpgraded past containerID)
    (hlisted : ∃ record ∈ listed, record.id = containerID) :
    (upgradeContainerInternal s containerID).AlongOr (PassCall listed)
      (fun later _ => OnlyUpgraded containerID past later) (fun later _ => OnlyUpgraded containerID past later)
      past := by
  unfold upgradeContainerInternal
  simp only [Program.alongOr_bind, Program.alongOr_done]
  refine Program.AlongOr.imp (alongOr_of_never_notable never_notable_recreate) (fun recreated r hrecreated => ?_)
    fun recreated _ hrecreated => onlyUpgraded_of_quietly hrecreated
  have hbefore : NotUpgraded recreated containerID := (notUpgraded_of_quietly hrecreated containerID).mpr hpast
  refine Program.AlongOr.imp (alongOr_storeUpgraded hbefore hlisted) (fun stored _ hstored => ?_)
    fun stored _ hstored => ?_
  · have hso : OnlyUpgraded containerID past stored := (onlyUpgraded_of_quietly hrecreated).trans hstored
    refine Program.AlongOr.imp (alongOr_of_never_notable never_notable_publishUpgraded) ?_ ?_
    · intro published _ hpublished
      exact hso.trans (onlyUpgraded_of_quietly hpublished)
    · intro published _ hpublished
      exact hso.trans (onlyUpgraded_of_quietly hpublished)
  · exact (onlyUpgraded_of_quietly hrecreated).trans hstored

theorem never_notable_auditUpgrade {source : AuditSource} {actor actorRole : GoString}
    {result : Except ConnectError UpgradeContainerResponse} :
    (auditUpgrade s source actor actorRole containerID result).Never Notable := by
  unfold auditUpgrade
  split
  · trivial
  · exact ⟨id, fun _ => trivial⟩

/-- The upgrade of a container that was listed with the flag and has not been upgraded. -/
theorem along_autoUpgrade (hpast : NotUpgraded past record.id) (hlisted : record ∈ listed)
    (hflag : record.autoUpdate ≠ 0) :
    (autoUpgrade s record).Along (PassCall listed) (fun later _ => OnlyUpgraded record.id past later) past := by
  have hlogged (u : Unit) (other : GoString) :
      NotUpgraded (⟨.logInfo upgradeStarted record.id, u⟩ :: past) other ↔ NotUpgraded past other :=
    notUpgraded_cons nofun
  -- what follows the upgrade makes no notable call
  have hrest (result : Except ConnectError UpgradeContainerResponse) {upgraded : List CallEvent}
      (hupgraded : OnlyUpgraded record.id past upgraded) :
      ((auditUpgrade s .system (str "system") [] record.id result) >>= fun _ => reportUpgrade record result).Along
        (PassCall listed) (fun later _ => OnlyUpgraded record.id past later) upgraded := by
    have hnever : ((auditUpgrade s .system (str "system") [] record.id result) >>= fun _ =>
        reportUpgrade record result).Never Notable := by
      refine never_notable_auditUpgrade.bind fun _ => ?_
      cases result with
      | ok resp => exact ⟨id, fun _ => trivial⟩
      | error err => exact ⟨id, fun _ => trivial⟩
    refine (alongOr_of_never_notable hnever).along.mono (fun _ _ hcall => hcall) fun later _ hlater => ?_
    exact hupgraded.trans (onlyUpgraded_of_quietly hlater)
  unfold autoUpgrade
  rw [Program.along_bind]
  refine ⟨⟨hpast, record, hlisted, rfl, hflag⟩, fun u => ?_⟩
  have hupgraded {upgraded : List CallEvent}
      (hlater : OnlyUpgraded record.id (⟨.logInfo upgradeStarted record.id, u⟩ :: past) upgraded) :
      OnlyUpgraded record.id past upgraded :=
    fun other hother hbefore => hlater other hother ((hlogged u other).mpr hbefore)
  rw [Program.along_done, Program.along_bind, Program.along_attempt]
  refine Program.AlongOr.imp (alongOr_upgradeContainerInternal ((hlogged u record.id).mpr hpast)
    ⟨record, hlisted, rfl⟩) ?_ ?_
  · exact fun upgraded resp hlater => hrest (.ok resp) (hupgraded hlater)
  · exact fun upgraded err hlater => hrest (.error err) (hupgraded hlater)

/-- The turn of a listed container upgrades no other one. -/
theorem along_checkRecord (hpast : NotUpgraded past record.id) (hlisted : record ∈ listed) :
    (checkRecord s record).Along (PassCall listed) (fun later _ => OnlyUpgraded record.id past later) past := by
  have hgotify {title message : GoString} {priority : Int} {checked : List CallEvent} (u : Unit)
      (hchecked : Quietly Notable past checked) :
      Quietly Notable past (⟨.sendGotify title message priority, u⟩ :: checked) := by
    obtain ⟨recent, rfl, hrecent⟩ := hchecked
    refine ⟨_ :: recent, rfl, ?_⟩
    rw [List.forall_mem_cons]
    exact ⟨id, hrecent⟩
  unfold checkRecord
  rw [Program.along_bind, Program.along_attempt]
  refine Program.AlongOr.imp (alongOr_of_never_notable never_notable_check) ?_ ?_
  · rintro checked ⟨updateAvailable, digest⟩ hchecked
    cases updateAvailable with
    | false => exact onlyUpgraded_of_quietly hchecked
    | true =>
        simp only [if_true, Program.along_bind]
        refine ⟨id, fun u => ?_⟩
        split
        · rename_i hflag
          refine (along_autoUpgrade ((notUpgraded_of_quietly (hgotify u hchecked) _).mpr hpast) hlisted hflag).mono
            (fun _ _ hcall => hcall) fun later _ hlater => ?_
          exact (onlyUpgraded_of_quietly (hgotify u hchecked)).trans hlater
        · exact onlyUpgraded_of_quietly (hgotify u hchecked)
  · intro checked err hchecked
    exact ⟨id, fun u => onlyUpgraded_of_quietly (hgotify u hchecked)⟩

/-- The loop upgrades each of the listed containers at most once. -/
theorem along_checkRecords {records : List Db.Container} (hnodup : (records.map Container.id).Nodup)
    (hlisted : ∀ record ∈ records, record ∈ listed) (hpast : ∀ record ∈ records, NotUpgraded past record.id) :
    (checkRecords s records).Along (PassCall listed) (fun _ _ => True) past := by
  induction records generalizing past with
  | nil => trivial
  | cons record rest ih =>
      rw [List.map_cons, List.nodup_cons] at hnodup
      rw [List.forall_mem_cons] at hlisted hpast
      rw [checkRecords, Program.along_bind]
      refine (along_checkRecord hpast.1 hlisted.1).mono (fun _ _ hcall => hcall) fun later _ hlater => ?_
      refine ih hnodup.2 hlisted.2 fun other hother => hlater other.id ?_ (hpast.2 other hother)
      intro hsame
      exact hnodup.1 (hsame ▸ List.mem_map_of_mem hother)

end Text

/-! ## The pass beside the requests -/

/-- A `SetContainerAutoUpdate` request. -/
structure AutoUpdateRequest where
  ctx : Ctx
  containerID : GoString
  autoUpdate : Bool
  deriving DecidableEq, Repr

def AutoUpdateRequest.program (request : AutoUpdateRequest) : Handler Unit :=
  (setContainerAutoUpdate request.ctx request.containerID request.autoUpdate).void

/-- The calls of such a request; it sets the flag to `0` or `1`. -/
def RequestCall : Call → Prop
  | .getContainer _ => True
  | .setContainerAutoUpdate _ autoUpdate => autoUpdate = 0 ∨ autoUpdate = 1
  | .publishSave _ => True
  | _ => False

abbrev SchedulerConfig (ι : Type) := Config (Option ι) Backend Call Answer ConnectError Unit

abbrev SchedulerLabel (ι : Type) := Label (Option ι) Happening Call Answer

/-- The pass and the requests, before their first call; the index `none` is the pass. -/
def schedulerStart {ι : Type} (s : Service) (requests : ι → AutoUpdateRequest) (b : Backend) : SchedulerConfig ι :=
  Config.start b fun
    | none => checkAllContainers s
    | some i => (requests i).program

/-- The flag of a container in the table. -/
def flagOf (containers : Containers) (id : GoString) : Option Int :=
  (containers.getContainer id).map Container.autoUpdate

/-- What the latest statement since the list has set the flag of a container to, if there has been one. -/
def setSinceList {ι : Type} (id : GoString) : List (ι × CallEvent) → Option Int
  | [] => none
  | (_, ⟨.listContainers, _⟩) :: _ => none
  | (_, ⟨.setContainerAutoUpdate target autoUpdate, .ok _⟩) :: rest =>
    if target = id then some autoUpdate else setSinceList id rest
  | _ :: rest => setSinceList id rest

/-- The flag that a container was listed with. -/
def listedFlag {ι : Type} (id : GoString) : List (ι × CallEvent) → Option Int
  | [] => none
  | (_, ⟨.listContainers, .ok rows⟩) :: _ =>
    (rows.find? fun row => decide (row.id = id)).map Container.autoUpdate
  | _ :: rest => listedFlag id rest

/-- The container whose upgrade a step starts. -/
def startedBy {ι : Type} : SchedulerLabel ι → Option GoString
  | .call none ⟨.logInfo _ id, _⟩ => some id
  | _ => none

/-- An upgrade is started only when the row of the container is opted in. -/
def StartsOptedIn {ι : Type} (c : SchedulerConfig ι) (label : SchedulerLabel ι) : Prop :=
  ∀ id ∈ startedBy label, flagOf c.shared.containers id = some 1

/-- Between the list and the start of an upgrade, the container has not been opted out without being opted in again.
If its flag has not been set at all, then it was listed as a truth value. -/
def NotOptedOut {ι : Type} (c : SchedulerConfig ι) (label : SchedulerLabel ι) : Prop :=
  ∀ id ∈ startedBy label,
    match setSinceList id c.log with
    | some flag => flag ≠ 0
    | none => ∀ flag, listedFlag id c.log = some flag → flag = 0 ∨ flag = 1

instance decidableNotOptedOut {ι : Type} (c : SchedulerConfig ι) (label : SchedulerLabel ι) :
    Decidable (NotOptedOut c label) :=
  have (id : GoString) : Decidable (match setSinceList id c.log with
      | some flag => flag ≠ 0
      | none => ∀ flag, listedFlag id c.log = some flag → flag = 0 ∨ flag = 1) :=
    match setSinceList id c.log with
    | some flag => inferInstanceAs (Decidable (flag ≠ 0))
    | none => inferInstanceAs (Decidable (∀ flag ∈ listedFlag id c.log, flag = 0 ∨ flag = 1))
  inferInstanceAs (Decidable (∀ id ∈ startedBy label, _))

instance {ι : Type} (c : SchedulerConfig ι) (label : SchedulerLabel ι) : Decidable (StartsOptedIn c label) :=
  inferInstanceAs (Decidable (∀ id ∈ startedBy label, _))

/-- What holds once the containers are listed. -/
structure PassInv {ι : Type} [DecidableEq ι] (listed : List Db.Container) (c : SchedulerConfig ι) : Prop where
  text : (c.threads none).Along (PassCall listed) (fun _ _ => True) (c.past none)
  replaced : ∀ arg, (⟨.updateContainerForUpgrade arg, .ok 0⟩ : CallEvent) ∉ c.past none
  listedFlags : ∀ record ∈ listed, listedFlag record.id c.log = some record.autoUpdate
  setFlags : ∀ id flag, setSinceList id c.log = some flag → flag = 0 ∨ flag = 1
  flags : ∀ record ∈ listed, NotUpgraded (c.past none) record.id →
    flagOf c.shared.containers record.id = some ((setSinceList record.id c.log).getD record.autoUpdate)

/-- What the texts of the requests say; the pass is described by `PassInv`. -/
def schedulerText {ι : Type} : Option ι → List CallEvent → Call → Prop
  | none => fun _ _ => True
  | some _ => fun _ => RequestCall

structure SchedulerInv {ι : Type} [DecidableEq ι] (s : Service) (c : SchedulerConfig ι) : Prop where
  follows : Follows schedulerText (fun _ _ _ => True) c
  pass : (c.threads none = checkAllContainers s ∧ c.past none = []) ∨ ∃ listed, PassInv listed c

section Flags

variable {ι : Type} {containers : Containers} {now : Int} {event : CallEvent} {id : GoString} {i : ι}
variable {log : List (ι × CallEvent)}

theorem flagOf_of_not_notable (hop : ¬ Notable event.op) :
    flagOf (tableAfter containers now event) id = flagOf containers id := by
  obtain ⟨op, answer⟩ := event
  cases op with
  | saveContainer arg => exact absurd trivial hop
  | updateContainerForUpgrade arg => exact absurd trivial hop
  | upsertContainerFromEvent arg => exact absurd trivial hop
  | deleteContainer id => exact absurd trivial hop
  | deleteOrphanContainers ids => exact absurd trivial hop
  | setContainerAutoUpdate id autoUpdate => exact absurd trivial hop
  | updateContainerUpdateState arg =>
      cases answer with
      | error err => rfl
      | ok u =>
          show ((containers.updateContainerUpdateState arg now).get? id).map _ = (containers.get? id).map _
          rw [Containers.get?_updateContainerUpdateState]
          split
          · cases containers.get? id <;> rfl
          · rfl
  | _ => rfl

/-- The statements that the flags in the log come from. -/
theorem flags_of_not_notable (hop : ¬ Notable event.op) :
    setSinceList id ((i, event) :: log) = setSinceList id log ∧
      listedFlag id ((i, event) :: log) = listedFlag id log := by
  obtain ⟨op, answer⟩ := event
  cases op with
  | listContainers => exact absurd trivial hop
  | setContainerAutoUpdate id autoUpdate => exact absurd trivial hop
  | _ => exact ⟨rfl, rfl⟩

/-- A request sets the flag in the table and in the log. -/
theorem flagOf_setContainerAutoUpdate {target : GoString} {autoUpdate flag : Int}
    (hflag : flagOf containers id = some flag) :
    flagOf (containers.setContainerAutoUpdate target autoUpdate now) id =
      some (if target = id then autoUpdate else flag) := by
  obtain ⟨row, hrow, rfl⟩ := Option.map_eq_some_iff.mp hflag
  have hget : containers.get? id = some row := hrow
  show ((containers.setContainerAutoUpdate target autoUpdate now).get? id).map _ = _
  rw [Containers.get?_setContainerAutoUpdate, hget]
  by_cases hid : target = id
  · rw [if_pos hid.symm, if_pos hid]
    rfl
  · rw [if_neg (Ne.symm hid), if_neg hid]
    rfl

end Flags

/-! ## Steps -/

section Steps

variable {ι : Type} [DecidableEq ι] {imageID : GoString → GoString} {faults : Call → Bool} {s : Service}
variable {c next : SchedulerConfig ι} {label : SchedulerLabel ι} {event : CallEvent} {shared : Backend} {i : ι}
variable {listed : List Db.Container}

theorem along_autoUpdateRequest (request : AutoUpdateRequest) :
    request.program.Along (fun _ => RequestCall) (fun _ _ => True) [] := by
  unfold AutoUpdateRequest.program setContainerAutoUpdate
  rw [Program.along_void, Program.along_bind]
  refine along_requireAdmin fun user => ?_
  simp only [requireContainerID, Program.along_bind, Program.along_ensure, Program.along_perform,
    Program.along_orFail, Program.along_done]
  have hvalue : (if request.autoUpdate = true then (1 : Int) else 0) = 0 ∨
      (if request.autoUpdate = true then (1 : Int) else 0) = 1 := by
    cases request.autoUpdate with
    | false => exact Or.inl rfl
    | true => exact Or.inr rfl
  refine fun _ => ⟨trivial, fun _ _ _ => ⟨hvalue, fun _ _ _ => ?_⟩⟩
  exact along_publishRow (fun _ => trivial) (fun _ _ => trivial) fun _ => trivial

/-- A call of a request changes at most one flag, in the table and in the log alike. -/
theorem PassInv.request (hinv : PassInv listed c) (hcall : RequestCall event.op)
    (hanswer : c.shared.answer imageID faults event = some shared) (threads : Option ι → Handler Unit)
    (hthread : threads none = c.threads none) :
    PassInv listed ⟨shared, threads, (some i, event) :: c.log⟩ := by
  obtain ⟨-, htable, -⟩ := answer_eq_some hanswer
  have hpast : callsOf none ((some i, event) :: c.log) = c.past none := callsOf_cons_of_ne nofun
  constructor
  · show (threads none).Along _ _ (callsOf none ((some i, event) :: c.log))
    rw [hthread, hpast]
    exact hinv.text
  · show ∀ arg, _ ∉ callsOf none ((some i, event) :: c.log)
    rw [hpast]
    exact hinv.replaced
  · intro record hrecord
    rw [← hinv.listedFlags record hrecord]
    obtain ⟨op, answer⟩ := event
    cases op with
    | setContainerAutoUpdate target autoUpdate => cases answer <;> rfl
    | getContainer id => rfl
    | publishSave row => rfl
    | _ => exact absurd hcall id
  · intro container flag hset
    obtain ⟨op, answer⟩ := event
    cases op with
    | setContainerAutoUpdate target autoUpdate =>
        cases answer with
        | error err => exact hinv.setFlags container flag hset
        | ok u =>
            simp only [setSinceList] at hset
            split at hset
            · exact Option.some.inj hset ▸ hcall
            · exact hinv.setFlags container flag hset
    | getContainer id => exact hinv.setFlags _ flag hset
    | publishSave row => exact hinv.setFlags _ flag hset
    | _ => exact absurd hcall id
  · intro record hrecord hnot
    have hbefore : NotUpgraded (c.past none) record.id := by
      rw [← hpast]
      exact hnot
    have hflag := hinv.flags record hrecord hbefore
    rw [htable]
    obtain ⟨op, answer⟩ := event
    cases op with
    | setContainerAutoUpdate target autoUpdate =>
        cases answer with
        | error err => exact hflag
        | ok u =>
            refine (flagOf_setContainerAutoUpdate hflag).trans ?_
            simp only [setSinceList]
            split
            · rfl
            · rfl
    | getContainer id => exact hflag
    | publishSave row => exact hflag
    | _ => exact absurd hcall id

/-- The pass has listed the containers. -/
theorem passInv_of_list {rows : List Db.Container} (hlisting : c.shared.containers.IsListing rows)
    (hpast : c.past none = []) (hshared : shared.containers = c.shared.containers)
    (threads : Option ι → Handler Unit) (hthread : threads none = checkRecords s rows) :
    PassInv rows ⟨shared, threads, (none, ⟨.listContainers, .ok rows⟩) :: c.log⟩ := by
  have hafter : callsOf none ((none, ⟨.listContainers, .ok rows⟩) :: c.log) =
      [(⟨.listContainers, .ok rows⟩ : CallEvent)] := by
    rw [callsOf_cons_self]
    exact congrArg _ hpast
  have hnodup : (rows.map Container.id).Nodup :=
    (hlisting.1.map Container.id).nodup_iff.mpr c.shared.containers.nodup
  have hnone : ∀ arg answer, (⟨.updateContainerForUpgrade arg, answer⟩ : CallEvent) ∉
      [(⟨.listContainers, .ok rows⟩ : CallEvent)] := by
    intro arg answer hmem
    cases List.mem_singleton.mp hmem
  constructor
  · show (threads none).Along _ _ (callsOf none _)
    rw [hthread, hafter]
    refine along_checkRecords hnodup (fun _ hrecord => hrecord) fun record _ arg answer hmem => ?_
    exact absurd hmem (hnone arg answer)
  · show ∀ arg, _ ∉ callsOf none _
    rw [hafter]
    exact fun arg => hnone arg _
  · intro record hrecord
    -- the listed rows are a table of their own
    have hfind : (⟨rows, hnodup⟩ : Containers).get? record.id = some record :=
      KeyedTable.get?_eq_some_iff.mpr ⟨hrecord, rfl⟩
    exact congrArg (Option.map Container.autoUpdate) hfind
  · exact fun _ _ hset => nomatch hset
  · intro record hrecord _
    have hget : c.shared.containers.get? record.id = some record :=
      KeyedTable.get?_eq_some_iff.mpr ⟨hlisting.1.mem_iff.mp hrecord, rfl⟩
    show (shared.containers.get? record.id).map _ = _
    rw [hshared, hget]
    rfl

/-- A call of the pass that changes no flag. -/
theorem PassInv.plain (hinv : PassInv listed c) (threads : Option ι → Handler Unit)
    (htext : (threads none).Along (PassCall listed) (fun _ _ => True) (event :: c.past none))
    (hmissed : ∀ arg, event ≠ ⟨.updateContainerForUpgrade arg, .ok 0⟩)
    (hflags : ∀ id, flagOf shared.containers id = flagOf c.shared.containers id)
    (hset : ∀ id, setSinceList id ((none, event) :: c.log) = setSinceList id c.log)
    (hlistedFlag : ∀ id, listedFlag id ((none, event) :: c.log) = listedFlag id c.log) :
    PassInv listed ⟨shared, threads, (none, event) :: c.log⟩ := by
  have hpast : callsOf none ((none, event) :: c.log) = event :: c.past none := callsOf_cons_self
  constructor
  · show (threads none).Along _ _ (callsOf none ((none, event) :: c.log))
    rw [hpast]
    exact htext
  · show ∀ arg, _ ∉ callsOf none ((none, event) :: c.log)
    rw [hpast]
    intro arg hmem
    rcases List.mem_cons.mp hmem with heq | hold
    · exact hmissed arg heq.symm
    · exact hinv.replaced arg hold
  · intro record hrecord
    rw [hlistedFlag]
    exact hinv.listedFlags record hrecord
  · intro id flag
    rw [hset]
    exact hinv.setFlags id flag
  · intro record hrecord hnot
    have hboth : NotUpgraded (event :: c.past none) record.id := by
      rw [← hpast]
      exact hnot
    rw [hflags, hset]
    exact hinv.flags record hrecord fun arg answer hmem => hboth arg answer (List.mem_cons_of_mem _ hmem)

/-- The statement of an upgrade replaces the one row it is about, which is there. -/
theorem PassInv.upgrade {arg : UpdateContainerForUpgradeParams} {rows : Nat} (hinv : PassInv listed c)
    (hpass : PassCall listed (c.past none) (.updateContainerForUpgrade arg))
    (hanswer : c.shared.answer imageID faults ⟨.updateContainerForUpgrade arg, .ok rows⟩ = some shared)
    (threads : Option ι → Handler Unit)
    (htext : (threads none).Along (PassCall listed) (fun _ _ => True)
      (⟨.updateContainerForUpgrade arg, .ok rows⟩ :: c.past none)) :
    PassInv listed ⟨shared, threads, (none, ⟨.updateContainerForUpgrade arg, .ok rows⟩) :: c.log⟩ := by
  obtain ⟨hallowed, htable, -⟩ := answer_eq_some hanswer
  have hpast : callsOf none ((none, (⟨.updateContainerForUpgrade arg, .ok rows⟩ : CallEvent)) :: c.log) =
      ⟨.updateContainerForUpgrade arg, .ok rows⟩ :: c.past none := callsOf_cons_self
  obtain ⟨hnot, record, hrecord, hid⟩ := hpass
  have hflag := hinv.flags record hrecord (hid ▸ hnot)
  obtain ⟨row, hrow, -⟩ := Option.map_eq_some_iff.mp hflag
  have hold : c.shared.containers.get? arg.oldID = some row := hid ▸ hrow
  simp only [allowed] at hallowed
  simp only [tableAfter] at htable
  cases hupdate : c.shared.containers.updateContainerForUpgrade arg c.shared.clock with
  | none => simp [hupdate] at hallowed
  | some result =>
      obtain ⟨table, changed⟩ := result
      simp only [hupdate] at hallowed htable
      have hone : rows = 1 := by
        rw [of_decide_eq_true hallowed, (Containers.get?_of_updateContainerForUpgrade hold hupdate).1]
      constructor
      · show (threads none).Along _ _ (callsOf none _)
        rw [hpast]
        exact htext
      · show ∀ arg, _ ∉ callsOf none _
        rw [hpast]
        intro other hmem
        -- one row was replaced, not none
        rcases List.mem_cons.mp hmem with heq | hbefore
        · cases heq
          cases hone
        · exact hinv.replaced other hbefore
      · exact hinv.listedFlags
      · exact hinv.setFlags
      · intro other hother hnotOther
        have hboth : NotUpgraded (⟨.updateContainerForUpgrade arg, .ok rows⟩ :: c.past none) other.id := by
          rw [← hpast]
          exact hnotOther
        have hbefore : NotUpgraded (c.past none) other.id :=
          fun arg' answer hmem => hboth arg' answer (List.mem_cons_of_mem _ hmem)
        -- a container that is not upgraded is not the old one, so its row stays
        have hne : other.id ≠ arg.oldID := Ne.symm (hboth arg _ List.mem_cons_self)
        have hknown := hinv.flags other hother hbefore
        obtain ⟨otherRow, hotherRow, -⟩ := Option.map_eq_some_iff.mp hknown
        have hget : c.shared.containers.get? other.id = some otherRow := hotherRow
        have hkept : table.get? other.id = c.shared.containers.get? other.id :=
          Containers.get?_updateContainerForUpgrade_of_ne hupdate hne (by simp [hget])
        show (shared.containers.get? other.id).map _ = _
        rw [htable, hkept]
        exact hknown

/-- A call of the pass keeps what holds once the containers are listed. -/
theorem PassInv.call (hinv : PassInv listed c) {rest : Answer event.op → Handler Unit}
    (hcall : c.threads none = .call event.op rest)
    (hanswer : c.shared.answer imageID faults event = some shared) (threads : Option ι → Handler Unit)
    (hthread : threads none = rest event.answer) :
    PassInv listed ⟨shared, threads, (none, event) :: c.log⟩ := by
  obtain ⟨-, htable, -⟩ := answer_eq_some hanswer
  have htext := hinv.text
  rw [hcall] at htext
  obtain ⟨hpass, hrest⟩ := htext
  have hafter : (threads none).Along (PassCall listed) (fun _ _ => True) (event :: c.past none) := by
    rw [hthread]
    exact hrest event.answer
  by_cases hop : Notable event.op
  · obtain ⟨op, answer⟩ := event
    cases op with
    | updateContainerForUpgrade arg =>
        cases answer with
        | ok rows => exact hinv.upgrade hpass hanswer threads hafter
        | error err =>
            refine hinv.plain threads hafter nofun (fun id => ?_) (fun _ => rfl) fun _ => rfl
            rw [htable]
            rfl
    | saveContainer arg =>
        obtain ⟨upgraded, hmem⟩ := hpass
        exact absurd hmem (hinv.replaced upgraded)
    | logInfo message id =>
        refine hinv.plain threads hafter nofun (fun id => ?_) (fun _ => rfl) fun _ => rfl
        rw [htable]
        rfl
    | _ => exact absurd hop hpass
  · refine hinv.plain threads hafter ?_ (fun id => ?_) (fun _ => (flags_of_not_notable hop).1)
      fun _ => (flags_of_not_notable hop).2
    · rintro arg rfl
      exact hop trivial
    · rw [htable]
      exact flagOf_of_not_notable hop

/-- The first call of the pass is the list. -/
theorem exists_of_checkAllContainers {rest : Answer event.op → Handler Unit}
    (hcall : checkAllContainers s = .call event.op rest) :
    ∃ answer, event = ⟨.listContainers, answer⟩ ∧
      rest event.answer = (match answer with
        | .error _ => .done ()
        | .ok records => checkRecords s records) := by
  obtain ⟨op, answer⟩ := event
  cases hcall
  exact ⟨answer, rfl, rfl⟩

theorem schedulerInv_call_none (hinv : SchedulerInv s c)
    (hstep : (backend imageID faults).step c (.call none event) = some next) : SchedulerInv s next := by
  have hfollows := hinv.follows.step hstep
  obtain ⟨rest, shared, hcall, hanswer, rfl⟩ := step_call_eq_some_iff.mp hstep
  refine ⟨hfollows, Or.inr ?_⟩
  have hthread : Function.update c.threads none (rest event.answer) none = rest event.answer :=
    Function.update_self _ _ _
  rcases hinv.pass with ⟨hbegin, hpast⟩ | ⟨listed, hpass⟩
  · obtain ⟨answer, rfl, hrest⟩ := exists_of_checkAllContainers (hbegin.symm.trans hcall)
    obtain ⟨hallowed, htable, -⟩ := answer_eq_some hanswer
    cases answer with
    | ok rows =>
        have hlisting : c.shared.containers.IsListing rows := of_decide_eq_true hallowed
        exact ⟨rows, passInv_of_list hlisting hpast htable _ (hthread.trans hrest)⟩
    | error err =>
        refine ⟨[], ?_, ?_, nofun, fun _ _ hset => (nomatch hset), nofun⟩
        · show Program.Along _ _ _ (Function.update c.threads none (rest (.error err)) none)
          rw [hthread.trans hrest]
          trivial
        · show ∀ arg, _ ∉ callsOf none _
          rw [callsOf_cons_self, show callsOf none c.log = [] from hpast]
          intro arg hmem
          cases List.mem_singleton.mp hmem
  · exact ⟨listed, hpass.call hcall hanswer _ hthread⟩

theorem schedulerInv_call_some (hinv : SchedulerInv s c)
    (hstep : (backend imageID faults).step c (.call (some i) event) = some next) : SchedulerInv s next := by
  have hfollows := hinv.follows.step hstep
  have hpast : next.past none = c.past none := (past_of_step_call hstep).2 none nofun
  have hthread : next.threads none = c.threads none := threads_of_step_call hstep none nofun
  obtain ⟨rest, shared, hcall, hanswer, rfl⟩ := step_call_eq_some_iff.mp hstep
  have hrequest : RequestCall event.op := hinv.follows.call hcall
  refine ⟨hfollows, ?_⟩
  rcases hinv.pass with ⟨hbegin, hnil⟩ | ⟨listed, hpass⟩
  · exact Or.inl ⟨hthread.trans hbegin, hpast.trans hnil⟩
  · exact Or.inr ⟨listed, hpass.request hrequest hanswer _ hthread⟩

theorem schedulerInv_step (hinv : SchedulerInv s c)
    (hstep : (backend imageID faults).step c label = some next) : SchedulerInv s next := by
  cases label with
  | env e =>
      have hfollows := hinv.follows.step hstep
      obtain ⟨shared, henv, rfl⟩ := step_env_eq_some_iff.mp hstep
      refine ⟨hfollows, hinv.pass.imp_right fun ⟨listed, hpass⟩ =>
        ⟨listed, hpass.text, hpass.replaced, hpass.listedFlags, hpass.setFlags, ?_⟩⟩
      intro record hrecord hnot
      show flagOf shared.containers record.id = _
      rw [containers_of_happen henv]
      exact hpass.flags record hrecord hnot
  | call i event =>
      cases i with
      | none => exact schedulerInv_call_none hinv hstep
      | some i => exact schedulerInv_call_some hinv hstep

/-- When the pass starts the upgrade of a container, the row has the flag that was set last, or else the one that it was
listed with, which has passed the test. -/
theorem SchedulerInv.started (hinv : SchedulerInv s c)
    (hstep : (backend imageID faults).step c label = some next) {id : GoString} (hid : id ∈ startedBy label) :
    ∃ listed : Int, listed ≠ 0 ∧ listedFlag id c.log = some listed ∧
      (∀ flag, setSinceList id c.log = some flag → flag = 0 ∨ flag = 1) ∧
      flagOf c.shared.containers id = some ((setSinceList id c.log).getD listed) := by
  unfold startedBy at hid
  split at hid
  · rename_i message started u
    cases hid
    obtain ⟨rest, shared, hcall, -, -⟩ := step_call_eq_some_iff.mp hstep
    rcases hinv.pass with ⟨hbegin, -⟩ | ⟨listed, hpass⟩
    · obtain ⟨answer, heq, -⟩ := exists_of_checkAllContainers (hbegin.symm.trans hcall)
      cases heq
    · have htext := hpass.text
      rw [hcall] at htext
      obtain ⟨⟨hnot, record, hrecord, rfl, htested⟩, -⟩ := htext
      exact ⟨record.autoUpdate, htested, hpass.listedFlags record hrecord, hpass.setFlags record.id,
        hpass.flags record hrecord hnot⟩
  · cases hid

theorem startsOptedIn_step_iff (hinv : SchedulerInv s c)
    (hstep : (backend imageID faults).step c label = some next) : StartsOptedIn c label ↔ NotOptedOut c label := by
  refine forall₂_congr fun id hid => ?_
  obtain ⟨listed, htested, hlisted, hset, hflag⟩ := hinv.started hstep hid
  rw [hflag, Option.some.injEq]
  cases hlatest : setSinceList id c.log with
  | some flag =>
      have hvalue := hset flag hlatest
      show flag = 1 ↔ flag ≠ 0
      omega
  | none =>
      constructor
      · rintro hone flag hknown
        obtain rfl := Option.some.inj (hlisted.symm.trans hknown)
        exact Or.inr hone
      · intro hknown
        exact (hknown listed hlisted).resolve_left htested

end Steps

/-! ## An opt-out that comes too late -/

/-- The container with automatic updates. -/
def webOptedIn : Db.Container := { webRow with autoUpdate := 1 }

def webOptedInBackend : Backend := { webBackend with containers := ⟨[webOptedIn], by decide⟩ }

/-- Its row after the check and the opt-out. -/
def webCheckedOut : Db.Container :=
  { webRow with updateAvailable := 1, latestImageDigest := some (str "sha256:9"), lastCheckedAt := some 0 }

/-- An administrator switches its automatic updates off. -/
def optOut (_ : Unit) : AutoUpdateRequest := ⟨adminCtx, str "web", false⟩

/-- The check of the pass, up to the answer of the registry. -/
def askedRegistry {ι : Type} : List (SchedulerLabel ι) :=
  [.call none ⟨.listContainers, .ok [webOptedIn]⟩,
    .call none ⟨.getContainer (str "web"), .ok webOptedIn⟩,
    .call none ⟨.containerInspect (str "web"), .ok webContainer⟩,
    .call none ⟨.distributionInspect (str "nginx:1"), .ok (str "sha256:9")⟩]

/-- The rest of the check, which finds an update, and the start of the upgrade. -/
def foundUpdate {ι : Type} (checked : Db.Container) : List (SchedulerLabel ι) :=
  [.call none ⟨.imageInspect (str "sha256:1"), .ok ⟨str "sha256:1", [str "nginx@sha256:1"]⟩⟩,
    .call none ⟨.timeNow, 0⟩,
    .call none ⟨.updateContainerUpdateState ⟨str "web", 1, str "sha256:9", 0⟩, .ok 1⟩,
    .call none ⟨.getContainer (str "web"), .ok checked⟩,
    .call none ⟨.publishSave checked, ()⟩,
    .call none ⟨.sendGotify (str "Image Update Available")
      (str "A new image update has been detected in the registry for container web.") 5, ()⟩,
    .call none ⟨.logInfo upgradeStarted (str "web"), ()⟩]

/-- A request that sets the flag. -/
def setsFlag {ι : Type} (i : ι) (before after : Db.Container) : List (SchedulerLabel ι) :=
  [.call (some i) ⟨.getContainer (str "web"), .ok before⟩,
    .call (some i) ⟨.setContainerAutoUpdate (str "web") after.autoUpdate, .ok 1⟩,
    .call (some i) ⟨.getContainer (str "web"), .ok after⟩,
    .call (some i) ⟨.publishSave after, ()⟩]

/-- The opt-out lands while the registry is asked. -/
def lateOptOut : List (SchedulerLabel Unit) :=
  askedRegistry ++ setsFlag () webOptedIn webRow ++ foundUpdate webCheckedOut

theorem exec_lateOptOut :
    (exec webSystem.step (schedulerStart ⟨true, true⟩ optOut webOptedInBackend) lateOptOut).map
        (fun c => ((c.threads (some ())).isOver, c.log.length)) =
      some (true, 15) := by
  decide +kernel

/-- Two requests, one for each value of the flag. -/
def eitherWay (autoUpdate : Bool) : AutoUpdateRequest := ⟨adminCtx, str "web", autoUpdate⟩

/-- The opt-out is taken back before the check is over. -/
def takenBack : List (SchedulerLabel Bool) :=
  askedRegistry ++ setsFlag false webOptedIn webRow ++ setsFlag true webRow webOptedIn ++
    foundUpdate { webCheckedOut with autoUpdate := 1 }

theorem exec_takenBack :
    (exec webSystem.step (schedulerStart ⟨true, true⟩ eitherWay webOptedInBackend) takenBack).map
        (fun c => ((c.threads (some false)).isOver, (c.threads (some true)).isOver, c.log.length)) =
      some (true, true, 19) := by
  decide +kernel

end Container
end Dmanager
