import Dmanager.Container.Actions
import Dmanager.Docker.Host

/-!
# The actions on a container at the same time

Any number of `StartContainer`, `StopContainer`, `SetContainerAutoUpdate` and `CheckContainerUpdates` requests
for one container, interleaved call by call over the backend.  The two narrow statements change only their own
columns, but starting and stopping read the whole row, wait for the daemon, and write the whole row back
(`changedRow`).

`settingsKept_iff` says when that loses nothing: the auto-update flag and the result of the registry check
are at any moment the ones written last if and only if every `SaveContainer` finds them as its request has
read them.
-/

namespace Dmanager
namespace Container

open Go Db Lib Server Auth Docker
open Program (perform orFail ensure)

/-! ## The requests -/

/-- What a request asks for. -/
inductive ActionKind where
  | start
  | stop
  | setAutoUpdate (autoUpdate : Bool)
  | checkUpdates
  deriving DecidableEq, Repr

/-- A request, with its context. -/
structure ActionRequest where
  ctx : Ctx
  kind : ActionKind
  deriving DecidableEq, Repr

/-- The handler of a request for the container. -/
def ActionRequest.handler (s : Service) (containerID : GoString) (request : ActionRequest) :
    Handler AnyResponse :=
  match request.kind with
  | .start => startContainer s request.ctx containerID
  | .stop => stopContainer s request.ctx containerID
  | .setAutoUpdate autoUpdate => setContainerAutoUpdate request.ctx containerID autoUpdate
  | .checkUpdates => checkContainerUpdates s request.ctx containerID

/-- The columns that only the narrow statements are to change. -/
structure Settings where
  autoUpdate : Int
  updateAvailable : Int
  latestImageDigest : Option GoString
  lastCheckedAt : Option Int
  deriving DecidableEq, Repr

def settingsOf (row : Db.Container) : Settings :=
  ⟨row.autoUpdate, row.updateAvailable, row.latestImageDigest, row.lastCheckedAt⟩

/-- The settings after a statement, as far as it is one of the two narrow ones. -/
def Settings.written (settings : Settings) : CallEvent → Settings
  | ⟨.setContainerAutoUpdate _ autoUpdate, .ok _⟩ => { settings with autoUpdate := autoUpdate }
  | ⟨.updateContainerUpdateState arg, .ok _⟩ =>
    { settings with
      updateAvailable := arg.updateAvailable
      latestImageDigest := some arg.latestImageDigest
      lastCheckedAt := some arg.lastCheckedAt }
  | _ => settings

/-- The settings written last, and those before the run where nothing was written. -/
def lastWritten {ι : Type} (initial : Settings) (log : List (ι × CallEvent)) : Settings :=
  log.foldr (fun entry settings => settings.written entry.2) initial

/-- The row that a request has read last. -/
def lastRead (past : List CallEvent) : Option Db.Container :=
  past.findSome? fun event =>
    match event with
    | ⟨.getContainer _, .ok row⟩ => some row
    | _ => none

/-! ## What the texts of the handlers say -/

/-- What a handler sends to the table: a whole row with the columns it has read, or a narrow update. -/
def ActionCall (containerID : GoString) (past : List CallEvent) : Call → Prop
  | .saveContainer arg =>
    ∃ existing state now, lastRead past = some existing ∧ arg = changedRow containerID existing state now
  | .setContainerAutoUpdate id _ => id = containerID
  | .updateContainerUpdateState arg => arg.id = containerID
  | .updateContainerForUpgrade _ => False
  | .upsertContainerFromEvent _ => False
  | .deleteContainer _ => False
  | .deleteOrphanContainers _ => False
  | _ => True

variable {s : Service} {ctx : Ctx} {containerID : GoString} {past : List CallEvent} {ε α : Type}
variable {P : List CallEvent → Call → Prop}

theorem along_requireAdmin {Q : List CallEvent → User → Prop} (hQ : ∀ user, Q past user) :
    (requireAdmin ctx).Along P Q past := by
  unfold requireAdmin
  split
  · trivial
  · split
    · trivial
    · exact hQ _

theorem along_publishRow {Q : List CallEvent → Unit → Prop} (hget : ∀ past, P past (.getContainer containerID))
    (hpublish : ∀ past row, P past (.publishSave row)) (hQ : ∀ past, Q past ()) :
    (publishRow containerID : Program Call Answer ε Unit).Along P Q past := by
  unfold publishRow
  rw [Program.along_bind, Program.along_perform]
  refine ⟨hget past, fun answer => ?_⟩
  cases answer with
  | ok row => exact ⟨hpublish _ row, fun _ => hQ _⟩
  | error err => exact hQ _

theorem along_changeState (transition : Transition) :
    (changeState transition s ctx containerID).Along (ActionCall containerID) (fun _ _ => True) past := by
  unfold changeState
  rw [Program.along_bind]
  refine along_requireAdmin fun user => ?_
  cases transition
  all_goals
    simp only [requireContainerID, requireDockerClient, Transition.act, Program.along_bind,
      Program.along_ensure, Program.along_perform, Program.along_orFail, Program.along_done]
    intro _
    refine ⟨trivial, fun answer existing hexisting _ => ⟨trivial, fun before _ _ => ⟨trivial, ?_⟩⟩⟩
    intro _ _ _
    refine ⟨trivial, fun after inspectAfter _ => ⟨trivial, fun now => ⟨?_, ?_⟩⟩⟩
    · -- the last row read is the first one: nothing is read in between
      subst hexisting
      exact ⟨existing, inspectAfter.status, now, rfl, rfl⟩
    · intro _ _ _
      exact along_publishRow (fun _ => trivial) (fun _ _ => trivial) fun _ => trivial

theorem along_setContainerAutoUpdate (autoUpdate : Bool) :
    (setContainerAutoUpdate ctx containerID autoUpdate).Along (ActionCall containerID) (fun _ _ => True)
      past := by
  unfold setContainerAutoUpdate
  rw [Program.along_bind]
  refine along_requireAdmin fun user => ?_
  simp only [requireContainerID, Program.along_bind, Program.along_ensure, Program.along_perform,
    Program.along_orFail, Program.along_done]
  intro _
  refine ⟨trivial, fun _ _ _ => ⟨rfl, fun _ _ _ => ?_⟩⟩
  exact along_publishRow (fun _ => trivial) (fun _ _ => trivial) fun _ => trivial

theorem along_checkContainerUpdates :
    (checkContainerUpdates s ctx containerID).Along (ActionCall containerID) (fun _ _ => True) past := by
  unfold checkContainerUpdates
  rw [Program.along_bind]
  refine along_requireAdmin fun user => ?_
  simp only [requireContainerID, checkContainerUpdatesInternal, Program.along_bind, Program.along_mapError,
    Program.along_ensure, Program.along_perform, Program.along_orFail, Program.along_done]
  intro _
  refine ⟨trivial, fun _ _ _ _ => ⟨trivial, fun _ => ⟨trivial, fun _ _ _ _ => ⟨trivial, fun _ => ?_⟩⟩⟩⟩
  refine ⟨trivial, fun _ => ⟨rfl, fun _ _ _ => ?_⟩⟩
  exact along_publishRow (fun _ => trivial) (fun _ _ => trivial) fun _ => trivial

theorem along_handler (request : ActionRequest) :
    (request.handler s containerID).Along (ActionCall containerID) (fun _ _ => True) past := by
  unfold ActionRequest.handler
  cases request.kind with
  | start => exact along_changeState .start
  | stop => exact along_changeState .stop
  | setAutoUpdate autoUpdate => exact along_setContainerAutoUpdate autoUpdate
  | checkUpdates => exact along_checkContainerUpdates

/-! ## Runs -/

/-- The requests, before their first call. -/
def actionsStart {ι : Type} (s : Service) (containerID : GoString) (requests : ι → ActionRequest)
    (b : Backend) : Config ι Backend Call Answer ConnectError AnyResponse :=
  Config.start b fun i => (requests i).handler s containerID

/-- The row of the container is there, and its settings are the ones written last. -/
def SettingsKept {ι : Type} (containerID : GoString) (initial : Settings)
    (c : Config ι Backend Call Answer ConnectError AnyResponse) : Prop :=
  ∃ row, c.shared.containers.getContainer containerID = some row ∧
    settingsOf row = lastWritten initial c.log

/-- When a request writes the whole row back, the row has the settings that the request has read. -/
def FreshSave {ι : Type} [DecidableEq ι] (containerID : GoString)
    (c : Config ι Backend Call Answer ConnectError AnyResponse) : Label ι Happening Call Answer → Prop
  | .call i ⟨.saveContainer _, .ok _⟩ =>
    ∀ existing row, lastRead (c.past i) = some existing →
      c.shared.containers.getContainer containerID = some row → settingsOf row = settingsOf existing
  | _ => True

variable {containers : Containers} {now : Int} {event : CallEvent} {row : Db.Container}

/-- A start or a stop writes the settings that it has read. -/
theorem settings_saveContainer (containers : Containers) (now : Int) {arg : SaveContainerParams}
    (hcall : ActionCall containerID past (.saveContainer arg)) :
    ∃ existing saved, lastRead past = some existing ∧
      (containers.saveContainer arg now).getContainer containerID = some saved ∧
      settingsOf saved = settingsOf existing := by
  obtain ⟨existing, state, time, hread, rfl⟩ := hcall
  refine ⟨existing, Containers.savedRow (changedRow containerID existing state time) now
    (containers.get? containerID), hread, ?_, rfl⟩
  rw [Containers.getContainer, Containers.get?_saveContainer]
  exact if_pos rfl

/-- Every other call leaves the settings alone or is one of the narrow statements. -/
theorem settings_tableAfter (hcall : ActionCall containerID past event.op)
    (hother : ∀ arg u, event ≠ ⟨.saveContainer arg, .ok u⟩)
    (hrow : containers.getContainer containerID = some row) :
    ∃ after, (tableAfter containers now event).getContainer containerID = some after ∧
      settingsOf after = (settingsOf row).written event := by
  unfold tableAfter
  split
  · rename_i arg u
    exact absurd rfl (hother arg u)
  · -- the flag is set
    have hid := hcall
    simp only [ActionCall] at hid
    subst hid
    rw [Containers.getContainer] at hrow ⊢
    rw [Containers.get?_setContainerAutoUpdate, if_pos rfl, hrow]
    exact ⟨_, rfl, rfl⟩
  · -- the result of a check is stored
    have hid := hcall
    simp only [ActionCall] at hid
    subst hid
    rw [Containers.getContainer] at hrow ⊢
    rw [Containers.get?_updateContainerUpdateState, if_pos rfl, hrow]
    exact ⟨_, rfl, rfl⟩
  · exact absurd hcall id
  · exact absurd hcall id
  · exact absurd hcall id
  · exact absurd hcall id
  · refine ⟨row, hrow, ?_⟩
    unfold Settings.written
    split
    · simp_all
    · simp_all
    · rfl

section Runs

variable {ι : Type} [DecidableEq ι] {imageID : GoString → GoString} {faults : Call → Bool}
variable {c next : Config ι Backend Call Answer ConnectError AnyResponse} {initial : Settings} {i : ι}

/-- Every request still keeps to the text of its handler. -/
def ActionsFollow (containerID : GoString) (c : Config ι Backend Call Answer ConnectError AnyResponse) : Prop :=
  Follows (fun _ => ActionCall containerID) (fun _ _ _ => True) c

/-- The settings are kept by a save exactly when it writes the ones that are there. -/
theorem settingsKept_save_iff {arg : SaveContainerParams} {u : Unit} {shared : Backend}
    {threads : ι → Handler AnyResponse} (htext : ActionCall containerID (c.past i) (.saveContainer arg))
    (hkept : SettingsKept containerID initial c)
    (htable : shared.containers = c.shared.containers.saveContainer arg c.shared.clock) :
    SettingsKept containerID initial ⟨shared, threads, (i, ⟨.saveContainer arg, .ok u⟩) :: c.log⟩ ↔
      FreshSave containerID c (.call i ⟨.saveContainer arg, .ok u⟩) := by
  obtain ⟨row, hrow, hsettings⟩ := hkept
  obtain ⟨existing, saved, hread, hget, hsaved⟩ :=
    settings_saveContainer c.shared.containers c.shared.clock htext
  rw [← htable] at hget
  -- both sides say that the row, whose settings are the last ones written, has those of `existing`
  have hleft : SettingsKept containerID initial
      ⟨shared, threads, (i, ⟨.saveContainer arg, .ok u⟩) :: c.log⟩ ↔ settingsOf existing = settingsOf row := by
    rw [← hsaved, hsettings]
    constructor
    · rintro ⟨after, hafter, hlast⟩
      have hsame : saved = after := Option.some.inj (hget.symm.trans hafter)
      rw [hsame]
      exact hlast
    · intro hlast
      exact ⟨saved, hget, hlast⟩
  have hright : FreshSave containerID c (.call i ⟨.saveContainer arg, .ok u⟩) ↔
      settingsOf row = settingsOf existing := by
    constructor
    · intro hfresh
      exact hfresh existing row hread hrow
    · intro hsame existing' row' hread' hrow'
      rw [← Option.some.inj (hread.symm.trans hread'), ← Option.some.inj (hrow.symm.trans hrow')]
      exact hsame
  rw [hleft, hright, eq_comm]

/-- A step keeps the settings exactly when it is not a save of outdated ones. -/
theorem settingsKept_step_iff {label : Label ι Happening Call Answer} (hfollows : ActionsFollow containerID c)
    (hkept : SettingsKept containerID initial c)
    (hstep : (backend imageID faults).step c label = some next) :
    SettingsKept containerID initial next ↔ FreshSave containerID c label := by
  cases label with
  | env e =>
      obtain ⟨row, hrow, hsettings⟩ := hkept
      obtain ⟨shared, henv, rfl⟩ := step_env_eq_some_iff.mp hstep
      refine iff_of_true ⟨row, ?_, hsettings⟩ trivial
      show shared.containers.getContainer containerID = some row
      rw [containers_of_happen henv, hrow]
  | call i event =>
      obtain ⟨rest, shared, hcall, hanswer, rfl⟩ := step_call_eq_some_iff.mp hstep
      have htext : ActionCall containerID (c.past i) event.op := hfollows.call hcall
      obtain ⟨-, htable, -⟩ := answer_eq_some hanswer
      by_cases hsave : ∃ arg u, event = ⟨.saveContainer arg, .ok u⟩
      · obtain ⟨arg, u, rfl⟩ := hsave
        exact settingsKept_save_iff htext hkept htable
      · have hother : ∀ arg u, event ≠ ⟨.saveContainer arg, .ok u⟩ := by
          intro arg u heq
          exact hsave ⟨arg, u, heq⟩
        have hfresh : FreshSave containerID c (.call i event) := by
          unfold FreshSave
          split
          · rename_i heq
            cases heq
            exact absurd rfl (hother _ _)
          · trivial
        obtain ⟨row, hrow, hsettings⟩ := hkept
        obtain ⟨after, hafter, hwritten⟩ := settings_tableAfter htext hother hrow
        refine iff_of_true ⟨after, ?_, ?_⟩ hfresh
        · show shared.containers.getContainer containerID = some after
          rw [htable, hafter]
        · show settingsOf after = (lastWritten initial c.log).written event
          rw [hwritten, hsettings]

/-- In every state of a run the settings of the container are those written last, if and only if every save
of the run finds them as its request has read them. -/
theorem settingsKept_iff (imageID : GoString → GoString) (faults : Call → Bool) (s : Service)
    (containerID : GoString) (requests : ι → ActionRequest) (b : Backend) (row : Db.Container)
    (labels : List (Label ι Happening Call Answer))
    (final : Config ι Backend Call Answer ConnectError AnyResponse)
    (hrow : b.containers.getContainer containerID = some row)
    (hrun : exec (backend imageID faults).step (actionsStart s containerID requests b) labels = some final) :
    (∀ earlier later reached, labels = earlier ++ later →
        exec (backend imageID faults).step (actionsStart s containerID requests b) earlier = some reached →
          SettingsKept containerID (settingsOf row) reached) ↔
      Guarded (backend imageID faults).step (FreshSave containerID)
        (actionsStart s containerID requests b) labels := by
  have hfollows : ActionsFollow containerID (actionsStart s containerID requests b) :=
    follows_start fun i => along_handler (requests i)
  have hkept : SettingsKept containerID (settingsOf row) (actionsStart s containerID requests b) :=
    ⟨row, hrow, rfl⟩
  rw [forall_reached_iff_guarded, and_iff_right hkept]
  refine guarded_congr_of_exec
    (fun c => ActionsFollow containerID c ∧ SettingsKept containerID (settingsOf row) c) ?_ ?_ hrun
    ⟨hfollows, hkept⟩
  · intro c label next hinv hnext
    have hiff := settingsKept_step_iff hinv.1 hinv.2 hnext
    simp only [hnext, Option.some.injEq, forall_eq']
    exact hiff
  · intro c label next hinv hfresh hnext
    exact ⟨hinv.1.step hnext, (settingsKept_step_iff hinv.1 hinv.2 hnext).mpr hfresh⟩

end Runs

/-! ## A stop that loses a change of the flag -/

/-- An administrator. -/
def adminCtx : Ctx := ⟨some ⟨1, str "admin", str "$2a$12$", adminRole⟩, none⟩

/-- One request stops the container, the other one switches automatic updates on. -/
def stopAndSet (i : Fin 2) : ActionRequest := ⟨adminCtx, if i = 0 then .stop else .setAutoUpdate true⟩

/-- The flag is set while the daemon stops the container, and the stop writes the old row back. -/
def lostUpdateRun : List (Label (Fin 2) Happening Call Answer) :=
  [.call 0 ⟨.getContainer (str "web"), .ok webRow⟩,
    .call 0 ⟨.containerInspect (str "web"), .ok webContainer⟩,
    .call 1 ⟨.getContainer (str "web"), .ok webRow⟩,
    .call 1 ⟨.setContainerAutoUpdate (str "web") 1, .ok 1⟩,
    .call 0 ⟨.containerStop (str "web"), .ok ()⟩,
    .call 0 ⟨.containerInspect (str "web"), .ok webStopped⟩,
    .call 0 ⟨.timeNow, 0⟩,
    .call 0 ⟨.saveContainer (changedRow (str "web") webRow statusExited 0), .ok ()⟩,
    .call 0 ⟨.getContainer (str "web"), .ok { webRow with state := statusExited }⟩,
    .call 0 ⟨.publishSave { webRow with state := statusExited }, ()⟩,
    .call 1 ⟨.getContainer (str "web"), .ok { webRow with state := statusExited }⟩,
    .call 1 ⟨.publishSave { webRow with state := statusExited }, ()⟩]

/-- Where that run ends: both requests are over, the flag is off, and the last one written is on. -/
theorem exec_lostUpdateRun :
    (exec webSystem.step
        (actionsStart ⟨true, true⟩ (str "web") stopAndSet webBackend) lostUpdateRun).map
      (fun c => ((c.threads 0).isOver, (c.threads 1).isOver,
        (c.shared.containers.getContainer (str "web")).map settingsOf,
        lastWritten (settingsOf webRow) c.log)) =
      some (true, true, some ⟨0, 0, none, none⟩, ⟨1, 0, none, none⟩) := by
  decide +kernel

theorem settingsKept_iff_lostUpdateRun :
    webBackend.containers.getContainer (str "web") = some webRow ∧
      ∃ final, exec webSystem.step
          (actionsStart ⟨true, true⟩ (str "web") stopAndSet webBackend) lostUpdateRun = some final ∧
        ((∀ earlier later reached, lostUpdateRun = earlier ++ later →
            exec webSystem.step
                (actionsStart ⟨true, true⟩ (str "web") stopAndSet webBackend) earlier = some reached →
              SettingsKept (str "web") (settingsOf webRow) reached) ↔
          Guarded webSystem.step (FreshSave (str "web"))
            (actionsStart ⟨true, true⟩ (str "web") stopAndSet webBackend) lostUpdateRun) := by
  obtain ⟨final, hfinal, -⟩ := Option.map_eq_some_iff.mp exec_lostUpdateRun
  have hrow : webBackend.containers.getContainer (str "web") = some webRow := by decide +kernel
  exact ⟨hrow, final, hfinal, settingsKept_iff _ _ _ _ _ _ _ _ _ hrow hfinal⟩

/-- Both requests have finished, and the flag that was switched on is off again. -/
theorem stop_loses_autoUpdate :
    ∃ final, exec webSystem.step
        (actionsStart ⟨true, true⟩ (str "web") stopAndSet webBackend) lostUpdateRun = some final ∧
      (∀ i, (final.threads i).isOver = true) ∧ ¬ SettingsKept (str "web") (settingsOf webRow) final := by
  obtain ⟨final, hfinal, hend⟩ := Option.map_eq_some_iff.mp exec_lostUpdateRun
  simp only [Prod.mk.injEq] at hend
  obtain ⟨hstop, hset, hrow, hlast⟩ := hend
  refine ⟨final, hfinal, ?_, ?_⟩
  · intro i
    fin_cases i
    · exact hstop
    · exact hset
  · rintro ⟨row, hget, hkept⟩
    rw [hget, Option.map_some, Option.some.injEq] at hrow
    rw [hlast, hrow] at hkept
    cases hkept

end Container
end Dmanager
