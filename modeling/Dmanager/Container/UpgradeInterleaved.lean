import Dmanager.Container.Upgrade
import Dmanager.Docker.DestroyOrder

/-!
# The upgrade of a container beside the event monitor

The upgrade removes the old container and creates a new one under a fresh id, and Docker emits the events of
both while it runs.  The monitor handles them at any pace: it may delete the row of the old container before
the upgrade turns it into that of the new one, it may write the row of the new container before the upgrade
does, and an inspection from before the removal may bring the row of the old container back.

The proof follows the upgrade through its stages (`Stage`, read off the calls it has made) and says for each
of them what the events that wait, the monitor and the table have to do with each other (`StageOk`).  The one
fact that the rest hangs on is the order of the events: as long as the destroy event of the old container has
not been handled, the monitor has not looked at the new one (`DestroyLast`).

`upgrade_moves_row` is the result: the in-place update never meets the primary key, and in the end there is a
row of the new container with the settings of the old one, and no row of the old container.
-/

namespace Dmanager
namespace Container

open Go Db Lib Server Auth Docker
open Program (perform orFail ensure)

/-! ## The stages of an upgrade -/

/-- How far the upgrade is, with the row that it has read and the id of the new container. -/
inductive Stage where
  | reading
  | preparing (existing : Db.Container)
  | removed (existing : Db.Container)
  | created (existing : Db.Container) (newID : GoString)
  | fallback (existing : Db.Container) (newID : GoString)
  | stored (existing : Db.Container) (newID : GoString)
  | abandoned
  deriving DecidableEq, Repr

/-- The stage after a call. -/
def Stage.after : Stage → CallEvent → Stage
  | .reading, ⟨.getContainer _, .ok existing⟩ => .preparing existing
  | .preparing existing, ⟨.containerRemove _, .ok _⟩ => .removed existing
  | .removed existing, ⟨.containerCreate _, .ok newID⟩ => .created existing newID
  | .created _ _, ⟨.containerRemove _, _⟩ => .abandoned
  | .created existing newID, ⟨.updateContainerForUpgrade _, .ok rows⟩ =>
    if rows = 0 then .fallback existing newID else .stored existing newID
  | .fallback existing newID, ⟨.saveContainer _, .ok _⟩ => .stored existing newID
  | stage, _ => stage

/-- The stage after the calls `past`, the latest of which comes first. -/
def stageOf (past : List CallEvent) : Stage := past.foldr (fun event stage => stage.after event) .reading

@[simp] theorem stageOf_nil : stageOf [] = .reading := rfl

@[simp] theorem stageOf_cons (event : CallEvent) (past : List CallEvent) :
    stageOf (event :: past) = (stageOf past).after event := rfl

/-- The row that the fallback writes has the settings of the old one. -/
def FallbackOf (existing : Db.Container) (newID : GoString) (arg : SaveContainerParams) : Prop :=
  ∃ r state lastUpdatedAt updatedAt, r.existing = existing ∧ r.newID = newID ∧
    arg = fallbackRow r state lastUpdatedAt updatedAt

/-- The calls that the upgrade of `containerID` makes in a stage. -/
def Stage.Allows (containerID : GoString) (op : Call) : Stage → Prop
  | .reading => op = .getContainer containerID
  | .preparing _ =>
    op = .containerInspect containerID ∨ (∃ image, op = .imagePull image ∨ op = .copyProgress image) ∨
      (∃ image, op = .imageInspect image) ∨ op = .containerStop containerID ∨
      op = .containerRemove containerID
  | .removed _ => ∃ options, op = .containerCreate options
  | .created _ newID =>
    (∃ entries, op = .mapOrder entries) ∨ (∃ network endpoint, op = .networkConnect network newID endpoint) ∨
      op = .containerRemove newID ∨ op = .containerStart newID ∨ op = .containerInspect newID ∨
      op = .timeNow ∨
      ∃ arg, op = .updateContainerForUpgrade arg ∧ arg.id = newID ∧ arg.oldID = containerID
  | .fallback existing newID => op = .timeNow ∨ ∃ arg, op = .saveContainer arg ∧ FallbackOf existing newID arg
  | .stored _ _ => (∃ id, op = .publishDelete id) ∨ (∃ id, op = .getContainer id) ∨ ∃ row, op = .publishSave row
  | .abandoned => False

/-- The row and the id of a stage are those of the calls that the upgrade has made. -/
def Stage.Recorded (containerID : GoString) (past : List CallEvent) : Stage → Prop
  | .preparing existing => ⟨.getContainer containerID, .ok existing⟩ ∈ past
  | .removed existing => ⟨.getContainer containerID, .ok existing⟩ ∈ past
  | .created existing newID =>
    ⟨.getContainer containerID, .ok existing⟩ ∈ past ∧ ∃ options, ⟨.containerCreate options, .ok newID⟩ ∈ past
  | .fallback existing newID =>
    ⟨.getContainer containerID, .ok existing⟩ ∈ past ∧ ∃ options, ⟨.containerCreate options, .ok newID⟩ ∈ past
  | .stored existing newID =>
    ⟨.getContainer containerID, .ok existing⟩ ∈ past ∧ ∃ options, ⟨.containerCreate options, .ok newID⟩ ∈ past
  | _ => True

theorem Stage.Recorded.cons {containerID : GoString} {past : List CallEvent} {stage : Stage}
    (hrecorded : stage.Recorded containerID past) (event : CallEvent) :
    stage.Recorded containerID (event :: past) := by
  have hboth (existing : Db.Container) (newID : GoString)
      (hbefore : ⟨.getContainer containerID, .ok existing⟩ ∈ past ∧
        ∃ options, (⟨.containerCreate options, .ok newID⟩ : CallEvent) ∈ past) :
      ⟨.getContainer containerID, .ok existing⟩ ∈ event :: past ∧
        ∃ options, (⟨.containerCreate options, .ok newID⟩ : CallEvent) ∈ event :: past := by
    obtain ⟨hread, options, hcreate⟩ := hbefore
    exact ⟨List.mem_cons_of_mem _ hread, options, List.mem_cons_of_mem _ hcreate⟩
  cases stage with
  | reading => trivial
  | preparing existing => exact List.mem_cons_of_mem _ hrecorded
  | removed existing => exact List.mem_cons_of_mem _ hrecorded
  | created existing newID => exact hboth existing newID hrecorded
  | fallback existing newID => exact hboth existing newID hrecorded
  | stored existing newID => exact hboth existing newID hrecorded
  | abandoned => trivial

/-- A call of the upgrade is recorded in the next stage. -/
theorem Stage.Recorded.after {containerID : GoString} {past : List CallEvent} {stage : Stage}
    {event : CallEvent} (hrecorded : stage.Recorded containerID past)
    (hallows : stage.Allows containerID event.op) :
    (stage.after event).Recorded containerID (event :: past) := by
  obtain ⟨op, answer⟩ := event
  cases stage with
  | reading =>
      cases hallows
      cases answer with
      | ok existing => exact List.mem_cons_self
      | error err => trivial
  | preparing existing =>
      have hkept := hrecorded.cons ⟨op, answer⟩
      rcases hallows with rfl | ⟨image, rfl | rfl⟩ | ⟨image, rfl⟩ | rfl | rfl
      · exact hkept
      · exact hkept
      · exact hkept
      · exact hkept
      · exact hkept
      · cases answer with
        | ok u => exact hkept
        | error err => exact hkept
  | removed existing =>
      have hkept := hrecorded.cons ⟨op, answer⟩
      obtain ⟨options, rfl⟩ := hallows
      cases answer with
      | ok newID => exact ⟨hkept, options, List.mem_cons_self⟩
      | error err => exact hkept
  | created existing newID =>
      have hkept := hrecorded.cons ⟨op, answer⟩
      rcases hallows with ⟨entries, rfl⟩ | ⟨network, endpoint, rfl⟩ | rfl | rfl | rfl | rfl | ⟨arg, rfl, -⟩
      · exact hkept
      · exact hkept
      · trivial
      · exact hkept
      · exact hkept
      · exact hkept
      · cases answer with
        | ok rows =>
            simp only [Stage.after]
            split
            · exact hkept
            · exact hkept
        | error err => exact hkept
  | fallback existing newID =>
      have hkept := hrecorded.cons ⟨op, answer⟩
      rcases hallows with rfl | ⟨arg, rfl, -⟩
      · exact hkept
      · cases answer with
        | ok u => exact hkept
        | error err => exact hkept
  | stored existing newID =>
      have hkept := hrecorded.cons ⟨op, answer⟩
      rcases hallows with ⟨id, rfl⟩ | ⟨id, rfl⟩ | ⟨row, rfl⟩
      · exact hkept
      · exact hkept
      · exact hkept
  | abandoned => cases hallows

/-! ## The text of the upgrade -/

/-- What the text of the upgrade says about its calls. -/
def UpgradeCall (containerID : GoString) (past : List CallEvent) (op : Call) : Prop :=
  (stageOf past).Allows containerID op

section Text

variable {s : Service} {containerID newID : GoString} {past : List CallEvent} {existing : Db.Container}

theorem along_stopRunning (running : Bool) (hstage : stageOf past = .preparing existing) :
    (stopRunning containerID running).Along (UpgradeCall containerID)
      (fun past _ => stageOf past = .preparing existing) past := by
  cases running with
  | false => exact hstage
  | true =>
      simp only [stopRunning, if_true, Program.along_bind, Program.along_perform, Program.along_orFail]
      refine ⟨?_, fun answer _ _ => ?_⟩
      · rw [UpgradeCall, hstage]
        simp [Stage.Allows]
      · rw [stageOf_cons, hstage]
        rfl

/-- The new container is connected to its networks, or removed. -/
theorem along_connectNetworks (order : List (GoString × GoString))
    (hstage : stageOf past = .created existing newID) :
    (connectNetworks newID order).Along (UpgradeCall containerID)
      (fun past _ => stageOf past = .created existing newID) past := by
  induction order generalizing past with
  | nil => exact hstage
  | cons entry rest ih =>
      obtain ⟨name, endpoint⟩ := entry
      have hnext : ∀ answer : Answer (.networkConnect name newID endpoint),
          stageOf (⟨.networkConnect name newID endpoint, answer⟩ :: past) = .created existing newID := by
        intro answer
        rw [stageOf_cons, hstage]
        rfl
      simp only [connectNetworks, Program.along_bind, Program.along_perform]
      refine ⟨?_, fun answer => ?_⟩
      · rw [UpgradeCall, hstage]
        exact Or.inr (Or.inl ⟨name, endpoint, rfl⟩)
      · cases answer with
        | ok u => exact ih (hnext _)
        | error err =>
            simp only [Program.along_bind, Program.along_perform, Program.along_fail, implies_true, and_true]
            rw [UpgradeCall, hnext]
            exact Or.inr (Or.inr (Or.inl rfl))

/-- The old container is replaced by the new one. -/
theorem along_replaceContainer (inspect : ContainerInspect) (hstage : stageOf past = .preparing existing) :
    (replaceContainer containerID existing inspect).Along (UpgradeCall containerID)
      (fun past r => r.existing = existing ∧ stageOf past = .created existing r.newID) past := by
  unfold replaceContainer
  simp only [Program.along_bind, Program.along_ensure, Program.along_perform, Program.along_orFail,
    Program.along_done]
  intro _
  refine ⟨?_, fun _ _ _ => ⟨?_, fun _ => ⟨?_, fun _ newImage _ => ?_⟩⟩⟩
  · rw [UpgradeCall, hstage]
    exact Or.inr (Or.inl ⟨_, Or.inl rfl⟩)
  · rw [UpgradeCall, stageOf_cons, hstage]
    exact Or.inr (Or.inl ⟨_, Or.inr rfl⟩)
  · rw [UpgradeCall, stageOf_cons, stageOf_cons, hstage]
    exact Or.inr (Or.inr (Or.inl ⟨_, rfl⟩))
  have hinspected (pulled copied inspected) : stageOf (⟨.imageInspect inspect.config.image, inspected⟩ ::
      ⟨.copyProgress inspect.config.image, copied⟩ :: ⟨.imagePull inspect.config.image, pulled⟩ :: past) =
        .preparing existing := by
    rw [stageOf_cons, stageOf_cons, stageOf_cons, hstage]
    rfl
  refine (along_stopRunning inspect.running (hinspected _ _ _)).mono (fun _ _ hcall => hcall) ?_
  intro past _ hpreparing
  refine ⟨?_, fun removed _ hremoved => ?_⟩
  · rw [UpgradeCall, hpreparing]
    exact Or.inr (Or.inr (Or.inr (Or.inr rfl)))
  subst hremoved
  refine ⟨?_, fun created newID hcreated => ?_⟩
  · rw [UpgradeCall, stageOf_cons, hpreparing]
    exact ⟨_, rfl⟩
  subst hcreated
  have hcreated (order) : stageOf (⟨.mapOrder (splitNetworks inspect.networks).2, order⟩ ::
      ⟨.containerCreate (createOptions inspect), .ok newID⟩ ::
      ⟨.containerRemove containerID, .ok ()⟩ :: past) = .created existing newID := by
    simp only [stageOf_cons, hpreparing]
    rfl
  refine ⟨?_, fun order => ?_⟩
  · rw [UpgradeCall, stageOf_cons, stageOf_cons, hpreparing]
    exact Or.inl ⟨_, rfl⟩
  refine (along_connectNetworks order.1 (hcreated order)).mono (fun _ _ hcall => hcall) ?_
  intro past _ hconnected
  refine ⟨?_, fun _ _ _ => ⟨trivial, ?_⟩⟩
  · rw [UpgradeCall, hconnected]
    exact Or.inr (Or.inr (Or.inr (Or.inl rfl)))
  · rw [stageOf_cons, hconnected]
    rfl

/-- The row of the old container is updated, or a new one is saved. -/
theorem along_storeUpgraded {r : Recreated} (hstage : stageOf past = .created r.existing r.newID) :
    (storeUpgraded containerID r).Along (UpgradeCall containerID)
      (fun past _ => stageOf past = .stored r.existing r.newID) past := by
  unfold storeUpgraded saveFallback
  simp only [Program.along_bind, Program.along_perform, Program.along_orFail]
  refine ⟨?_, fun inspected => ⟨?_, fun now => ⟨?_, fun updated rows hrows => ?_⟩⟩⟩
  · rw [UpgradeCall, hstage]
    exact Or.inr (Or.inr (Or.inr (Or.inr (Or.inl rfl))))
  · rw [UpgradeCall, stageOf_cons, hstage]
    exact Or.inr (Or.inr (Or.inr (Or.inr (Or.inr (Or.inl rfl)))))
  · rw [UpgradeCall, stageOf_cons, stageOf_cons, hstage]
    exact Or.inr (Or.inr (Or.inr (Or.inr (Or.inr (Or.inr ⟨_, rfl, rfl, rfl⟩)))))
  subst hrows
  split
  · rename_i hzero
    simp only [Program.along_bind, Program.along_perform, Program.along_orFail, UpgradeCall, stageOf_cons,
      hstage, Stage.after, if_pos hzero]
    refine ⟨Or.inl rfl, fun lastUpdatedAt => ⟨Or.inl rfl, fun updatedAt => ⟨?_, fun saved _ hsaved => ?_⟩⟩⟩
    · exact Or.inr ⟨_, rfl, r, _, lastUpdatedAt, updatedAt, rfl, rfl, rfl⟩
    · subst hsaved
      rfl
  · rename_i hpos
    simp only [Program.along_done, stageOf_cons, hstage, Stage.after, if_neg hpos]

theorem along_publishUpgraded (hstage : stageOf past = .stored existing newID) :
    (publishUpgraded containerID newID).Along (UpgradeCall containerID)
      (fun past _ => stageOf past = .stored existing newID) past := by
  have hpublish : ∀ past, stageOf past = .stored existing newID →
      (publishRow newID : Handler Unit).Along (UpgradeCall containerID)
        (fun past _ => stageOf past = .stored existing newID) past := by
    intro past hstored
    simp only [publishRow, Program.along_bind, Program.along_perform]
    refine ⟨?_, fun answer => ?_⟩
    · rw [UpgradeCall, hstored]
      exact Or.inr (Or.inl ⟨_, rfl⟩)
    · cases answer with
      | ok row =>
          refine ⟨?_, fun published => ?_⟩
          · rw [UpgradeCall, stageOf_cons, hstored]
            exact Or.inr (Or.inr ⟨_, rfl⟩)
          · show stageOf (⟨.publishSave row, published⟩ :: ⟨.getContainer newID, .ok row⟩ :: past) = _
            rw [stageOf_cons, stageOf_cons, hstored]
            rfl
      | error err =>
          rw [Program.along_done, stageOf_cons, hstored]
          rfl
  unfold publishUpgraded
  split
  · rw [Program.along_bind]
    refine ⟨?_, fun _ => hpublish _ ?_⟩
    · rw [UpgradeCall, hstage]
      exact Or.inl ⟨_, rfl⟩
    · rw [stageOf_cons, hstage]
      rfl
  · exact hpublish past hstage

/-- The upgrade goes through its stages, and when it is done the row is stored. -/
theorem along_upgradeContainerInternal :
    (upgradeContainerInternal s containerID).Along (UpgradeCall containerID)
      (fun past _ => ∃ existing newID, stageOf past = .stored existing newID) [] := by
  unfold upgradeContainerInternal recreate requireDockerClient
  simp only [Program.along_bind, Program.along_ensure, Program.along_perform, Program.along_orFail,
    Program.along_done]
  refine ⟨rfl, fun read existing hread _ => ?_⟩
  subst hread
  refine ⟨Or.inl rfl, fun inspected inspect hinspect => ?_⟩
  subst hinspect
  refine (along_replaceContainer inspect rfl).mono (fun _ _ hcall => hcall) ?_
  intro past r hcreated
  obtain ⟨rfl, hcreated⟩ := hcreated
  refine (along_storeUpgraded hcreated).mono (fun _ _ hcall => hcall) ?_
  intro past _ hstored
  refine (along_publishUpgraded hstored).mono (fun _ _ hcall => hcall) ?_
  intro past _ hpublished
  exact ⟨_, _, hpublished⟩

end Text

/-! ## What holds in each stage -/

/-- The row of the container is there, with these settings. -/
def HasSettings (b : Backend) (id : GoString) (settings : Settings) : Prop :=
  ∃ row, b.containers.getContainer id = some row ∧ settingsOf row = settings

/-- Before the container is removed all events are about it, and the monitor deals with no other one. -/
structure Early (b : Backend) (phase : Phase) (id : GoString) : Prop where
  queue : ∀ message ∈ b.host.queue, message.actorID = id ∧ message ≠ ⟨.destroy, id⟩
  rows : RowsUsed b phase
  phase : phase ≠ .deleting id ∧ ∀ other ∈ phase.id?, other = id

/-- The new container is there and is not the old one. -/
structure Fresh (b : Backend) (containerID newID : GoString) : Prop where
  ne : newID ≠ containerID
  there : b.host.containers newID ≠ none

/-- The host, the monitor and the table in a stage of the upgrade of `containerID`. -/
def StageOk (containerID : GoString) (b : Backend) (phase : Phase) : Stage → Prop
  | .reading => Early b phase containerID
  | .preparing existing => Early b phase containerID ∧ HasSettings b containerID (settingsOf existing)
  | .removed existing =>
    Removed b phase containerID ∧ RowsUsed b phase ∧
      (DestroyPending b phase containerID → HasSettings b containerID (settingsOf existing))
  | .created existing newID =>
    Removed b phase containerID ∧ Fresh b containerID newID ∧
      (DestroyPending b phase containerID →
        HasSettings b containerID (settingsOf existing) ∧ b.containers.getContainer newID = none)
  | .fallback _ newID =>
    Removed b phase containerID ∧ Fresh b containerID newID ∧ ¬ DestroyPending b phase containerID
  | .stored existing newID =>
    Removed b phase containerID ∧ Fresh b containerID newID ∧
      HasSettings b newID { settingsOf existing with updateAvailable := 0 }
  | .abandoned => True

section Steps

variable {imageID : GoString → GoString} {faults : Call → Bool} {b next : Backend} {phase after : Phase}
variable {containerID newID : GoString} {existing : Db.Container} {stage : Stage} {event : CallEvent}
variable {settings : Settings} {action : HostAction}

/-- Only the host and the table matter. -/
theorem StageOk.of_eq (hok : StageOk containerID b phase stage) (hhost : next.host = b.host)
    (htable : next.containers = b.containers) : StageOk containerID next phase stage := by
  obtain ⟨host, containers, clock⟩ := b
  obtain ⟨host', containers', clock'⟩ := next
  simp only at hhost htable
  subst hhost
  subst htable
  have hremoved (hbefore : Removed ⟨host', containers', clock⟩ phase containerID) :
      Removed ⟨host', containers', clock'⟩ phase containerID :=
    hbefore.of_host_eq rfl fun hhandled => (hbefore.clean hhandled).1
  cases stage with
  | reading => exact ⟨hok.queue, hok.rows, hok.phase⟩
  | preparing existing => exact ⟨⟨hok.1.queue, hok.1.rows, hok.1.phase⟩, hok.2⟩
  | removed existing => exact ⟨hremoved hok.1, hok.2⟩
  | created existing newID => exact ⟨hremoved hok.1, ⟨hok.2.1.ne, hok.2.1.there⟩, hok.2.2⟩
  | fallback existing newID => exact ⟨hremoved hok.1, ⟨hok.2.1.ne, hok.2.1.there⟩, hok.2.2⟩
  | stored existing newID => exact ⟨hremoved hok.1, ⟨hok.2.1.ne, hok.2.1.there⟩, hok.2.2⟩
  | abandoned => trivial

/-! ## A call of the monitor -/

theorem early_of_phaseStep (hcoherent : b.host.Coherent) (hearly : Early b phase containerID)
    (hphase : PhaseStep phase event after) (hanswer : b.answer imageID faults event = some next) :
    Early next after containerID := by
  have hrows := rowsUsed_of_phaseStep hcoherent hearly.rows hphase hanswer
  obtain ⟨-, ⟨message, rfl, hcons⟩ | ⟨hother, hsame⟩⟩ := host_of_phaseStep hphase hanswer
  · have hmem : message ∈ b.host.queue := hcons ▸ List.mem_cons_self
    obtain ⟨hactor, hne⟩ := hearly.queue message hmem
    cases hphase
    refine ⟨fun later hlater => hearly.queue later (hcons ▸ List.mem_cons_of_mem _ hlater), hrows, ?_, ?_⟩
    · intro hdeleting
      rcases phaseOf_eq_deleting hdeleting with hdestroy | rfl
      · exact hne hdestroy
      · exact hcoherent.never_delete containerID hmem
    · intro other hother
      rw [id?_phaseOf message hother, hactor]
  · obtain ⟨hne, hids⟩ := id?_of_phaseStep containerID hphase hother
    refine ⟨?_, hrows, hne, fun other hmem => hearly.phase.2 other (hids other hmem)⟩
    rw [hsame]
    exact hearly.queue

theorem hasSettings_of_phaseStep {id : GoString} (hphase : PhaseStep phase event after)
    (hanswer : b.answer imageID faults event = some next) (hdeleting : phase ≠ .deleting id)
    (hhas : HasSettings b id settings) : HasSettings next id settings := by
  obtain ⟨row, hrow, hsettings⟩ := hhas
  obtain ⟨-, htable, -⟩ := answer_eq_some hanswer
  obtain ⟨written, hwritten, hkept⟩ := settings_of_phaseStep b.clock hphase hdeleting hrow
  exact ⟨written, htable ▸ hwritten, hkept.trans hsettings⟩

theorem Fresh.of_phaseStep (hfresh : Fresh b containerID newID) (hphase : PhaseStep phase event after)
    (hanswer : b.answer imageID faults event = some next) : Fresh next containerID newID := by
  refine ⟨hfresh.ne, ?_⟩
  rw [(host_of_phaseStep hphase hanswer).1]
  exact hfresh.there

theorem Fresh.of_host_eq (hfresh : Fresh b containerID newID) (hhost : next.host = b.host) :
    Fresh next containerID newID :=
  ⟨hfresh.ne, hhost ▸ hfresh.there⟩

/-- A call of the monitor keeps what holds in each stage. -/
theorem stageOk_of_phaseStep (hcoherent : b.host.Coherent)
    (hdeleting : ∀ id, phase = .deleting id → Gone b.host id)
    (hfaults : faults (.deleteContainer containerID) = false) (hphase : PhaseStep phase event after)
    (hanswer : b.answer imageID faults event = some next) (hok : StageOk containerID b phase stage) :
    StageOk containerID next after stage := by
  have hremoved (hbefore : Removed b phase containerID) : Removed next after containerID :=
    removed_of_phaseStep hcoherent hbefore hfaults hphase hanswer
  have hpending (hafter : DestroyPending next after containerID) :
      (⟨.destroy, containerID⟩ : Message) ∈ b.host.queue :=
    pending_of_phaseStep hcoherent hphase hanswer hafter
  cases stage with
  | reading => exact early_of_phaseStep hcoherent hok hphase hanswer
  | preparing existing =>
      obtain ⟨hearly, hhas⟩ := hok
      exact ⟨early_of_phaseStep hcoherent hearly hphase hanswer,
        hasSettings_of_phaseStep hphase hanswer hearly.phase.1 hhas⟩
  | removed existing =>
      obtain ⟨hbefore, hrows, hhas⟩ := hok
      refine ⟨hremoved hbefore, rowsUsed_of_phaseStep hcoherent hrows hphase hanswer, fun hafter => ?_⟩
      have hmem := hpending hafter
      exact hasSettings_of_phaseStep hphase hanswer (hbefore.last.phase hmem).1 (hhas (Or.inl hmem))
  | created existing newID =>
      obtain ⟨hbefore, hfresh, hhas⟩ := hok
      refine ⟨hremoved hbefore, hfresh.of_phaseStep hphase hanswer, fun hafter => ?_⟩
      have hmem := hpending hafter
      obtain ⟨hne, hids⟩ := hbefore.last.phase hmem
      obtain ⟨hsettings, hnone⟩ := hhas (Or.inl hmem)
      refine ⟨hasSettings_of_phaseStep hphase hanswer hne hsettings, ?_⟩
      -- the monitor has not come to the new container yet
      rw [(answer_eq_some hanswer).2.1]
      refine getContainer_of_phaseStep hphase (fun arg harg hid => ?_) hnone
      have hold : arg.id = containerID := hids arg.id (by rw [harg]; rfl)
      exact hfresh.ne (hid.symm.trans hold)
  | fallback existing newID =>
      obtain ⟨hbefore, hfresh, hhandled⟩ := hok
      exact ⟨hremoved hbefore, hfresh.of_phaseStep hphase hanswer,
        fun hafter => hhandled (Or.inl (hpending hafter))⟩
  | stored existing newID =>
      obtain ⟨hbefore, hfresh, hhas⟩ := hok
      -- the new container is there, so the monitor does not delete its row
      have hkeeps : phase ≠ .deleting newID := fun hphase' => hfresh.there (hdeleting newID hphase').2
      exact ⟨hremoved hbefore, hfresh.of_phaseStep hphase hanswer,
        hasSettings_of_phaseStep hphase hanswer hkeeps hhas⟩
  | abandoned => trivial

/-! ## A call of the upgrade -/

/-- A call that does nothing to the host and to the table. -/
theorem StageOk.of_neutral (hok : StageOk containerID b phase stage)
    (hanswer : b.answer imageID faults event = some next)
    (hother : ∀ message, event ≠ ⟨.receiveEvent, message⟩)
    (hactions : hostActions imageID b.host event = [])
    (htable : tableAfter b.containers b.clock event = b.containers) : StageOk containerID next phase stage := by
  refine hok.of_eq ?_ ((answer_eq_some hanswer).2.1.trans htable)
  rcases host_of_call hanswer hother with ⟨-, hsame⟩ | ⟨action, haction, -⟩
  · exact hsame
  · rw [hactions] at haction
    cases haction

/-- The row of the old container is read. -/
theorem stageOk_reading {answer : Answer (.getContainer containerID)}
    (hok : StageOk containerID b phase .reading)
    (hanswer : b.answer imageID faults ⟨.getContainer containerID, answer⟩ = some next) :
    StageOk containerID next phase (Stage.reading.after ⟨.getContainer containerID, answer⟩) := by
  cases answer with
  | ok existing =>
      have hrow : b.containers.getContainer containerID = some existing := by
        simpa [allowed] using (answer_eq_some hanswer).1
      have hread : StageOk containerID b phase (.preparing existing) := ⟨hok, existing, hrow, rfl⟩
      exact hread.of_neutral hanswer (by simp) rfl rfl
  | error err => exact hok.of_neutral hanswer (by simp) rfl rfl

/-- The old container is stopped. -/
theorem stageOk_stop {answer : Answer (.containerStop containerID)}
    (hok : StageOk containerID b phase (.preparing existing))
    (hanswer : b.answer imageID faults ⟨.containerStop containerID, answer⟩ = some next) :
    StageOk containerID next phase (.preparing existing) := by
  have htable : next.containers = b.containers := by
    rw [(answer_eq_some hanswer).2.1]
    cases answer with
    | ok u => rfl
    | error err => rfl
  rcases host_of_call hanswer nofun with ⟨-, hsame⟩ | ⟨action, haction, hperform⟩
  · exact hok.of_eq hsame htable
  · have hstop : action = .stop containerID := by
      cases answer with
      | ok u =>
          simp only [hostActions] at haction
          split at haction
          · split at haction
            · exact (List.cons.inj haction).1.symm
            · cases haction
          · cases haction
      | error err => cases haction
    subst hstop
    obtain ⟨hearly, hhas⟩ := hok
    refine ⟨⟨?_, hearly.rows.perform hperform htable, hearly.phase⟩, ?_⟩
    · intro message hmem
      rw [queue_of_perform hperform, List.mem_append] at hmem
      rcases hmem with hold | hnew
      · exact hearly.queue message hold
      · simp only [HostAction.messages, HostAction.emits, HostAction.id, List.map_cons, List.map_nil,
          List.mem_cons, List.not_mem_nil, or_false] at hnew
        rcases hnew with rfl | rfl | rfl
        all_goals simp
    · rw [HasSettings, htable]
      exact hhas

/-- The old container is removed. -/
theorem stageOk_remove {answer : Answer (.containerRemove containerID)} (hcoherent : b.host.Coherent)
    (hok : StageOk containerID b phase (.preparing existing))
    (hanswer : b.answer imageID faults ⟨.containerRemove containerID, answer⟩ = some next) :
    StageOk containerID next phase
      ((Stage.preparing existing).after ⟨.containerRemove containerID, answer⟩) := by
  cases answer with
  | ok u =>
      obtain ⟨hearly, hhas⟩ := hok
      have htable : next.containers = b.containers := (answer_eq_some hanswer).2.1
      rcases host_of_call hanswer nofun with ⟨hnone, -⟩ | ⟨action, haction, hperform⟩
      · cases hnone
      · cases haction
        have hremoved := removed_of_destroy (coherent_of_answer hcoherent hanswer) hearly.queue hearly.phase
          hperform
        refine ⟨hremoved, hearly.rows.perform hperform htable, fun _ => ?_⟩
        rw [HasSettings, htable]
        exact hhas
  | error err => exact hok.of_neutral hanswer nofun rfl rfl

/-- The new container is created. -/
theorem stageOk_create {options : ContainerCreateOptions} {answer : Answer (.containerCreate options)}
    (hok : StageOk containerID b phase (.removed existing))
    (hanswer : b.answer imageID faults ⟨.containerCreate options, answer⟩ = some next) :
    StageOk containerID next phase ((Stage.removed existing).after ⟨.containerCreate options, answer⟩) := by
  cases answer with
  | ok newID =>
      obtain ⟨hremoved, hrows, hhas⟩ := hok
      have htable : next.containers = b.containers := (answer_eq_some hanswer).2.1
      rcases host_of_call hanswer (by simp) with ⟨hnone, -⟩ | ⟨action, haction, hperform⟩
      · cases hnone
      · cases haction
        have hother : (⟨.destroy, containerID⟩ : Message) ∉
            (HostAction.create newID (createdContainer (imageID options.config.image) options)).messages := by
          simp [HostAction.messages, HostAction.emits]
        rcases perform_cases hperform with ⟨id, container, heq, -, hunused, hhost⟩ | ⟨_, hcreate, -⟩
        · cases heq
          refine ⟨hremoved.perform hperform htable hother, ⟨?_, ?_⟩, fun hpending => ⟨?_, ?_⟩⟩
          · rintro rfl
            exact hunused hremoved.gone.1
          · rw [hhost]
            simp
          · rw [HasSettings, htable]
            exact hhas ((pending_of_perform hperform hother).mp hpending)
          · -- Docker has not handed the id out before, so there is no row of it
            rw [htable]
            by_contra hrow
            exact hunused (hrows newID (Or.inl hrow))
        · exact absurd rfl (hcreate _ _)
  | error err => exact hok.of_neutral hanswer (by simp) rfl rfl

/-- The new container is started. -/
theorem stageOk_start {answer : Answer (.containerStart newID)}
    (hok : StageOk containerID b phase (.created existing newID))
    (hanswer : b.answer imageID faults ⟨.containerStart newID, answer⟩ = some next) :
    StageOk containerID next phase (.created existing newID) := by
  have htable : next.containers = b.containers := by
    rw [(answer_eq_some hanswer).2.1]
    cases answer with
    | ok u => rfl
    | error err => rfl
  rcases host_of_call hanswer nofun with ⟨-, hsame⟩ | ⟨action, haction, hperform⟩
  · exact hok.of_eq hsame htable
  · have hstart : action = .start newID := by
      cases answer with
      | ok u =>
          simp only [hostActions] at haction
          split at haction
          · split at haction
            · cases haction
            · exact (List.cons.inj haction).1.symm
          · cases haction
      | error err => cases haction
    subst hstart
    obtain ⟨hremoved, hfresh, hhas⟩ := hok
    have hother : (⟨.destroy, containerID⟩ : Message) ∉ (HostAction.start newID).messages := by
      simp [HostAction.messages, HostAction.emits]
    refine ⟨hremoved.perform hperform htable hother, ⟨hfresh.ne, ?_⟩, fun hpending => ?_⟩
    · intro hnone
      cases (containers_self_of_perform hperform).mp hnone
    · rw [HasSettings, htable]
      exact hhas ((pending_of_perform hperform hother).mp hpending)

/-- The row of the old container is updated in place, or it is found to be gone. -/
theorem stageOk_update {arg : UpdateContainerForUpgradeParams}
    {answer : Answer (.updateContainerForUpgrade arg)} (hid : arg.id = newID) (hold : arg.oldID = containerID)
    (hok : StageOk containerID b phase (.created existing newID))
    (hanswer : b.answer imageID faults ⟨.updateContainerForUpgrade arg, answer⟩ = some next) :
    StageOk containerID next phase
      ((Stage.created existing newID).after ⟨.updateContainerForUpgrade arg, answer⟩) := by
  cases answer with
  | error err => exact hok.of_neutral hanswer nofun rfl rfl
  | ok rows =>
      obtain ⟨hremoved, hfresh, hhas⟩ := hok
      obtain ⟨hallowed, htable, -⟩ := answer_eq_some hanswer
      have hhost : next.host = b.host := by
        rcases host_of_call hanswer nofun with ⟨-, hsame⟩ | ⟨action, haction, -⟩
        · exact hsame
        · cases haction
      subst hid
      subst hold
      simp only [allowed] at hallowed
      simp only [tableAfter] at htable
      cases hrow : b.containers.getContainer arg.oldID with
      | none =>
          rw [Containers.updateContainerForUpgrade_of_none hrow] at hallowed htable
          have hzero : rows = 0 := by simpa using hallowed
          subst hzero
          -- the row goes when the destroy event is handled
          have hhandled : ¬ DestroyPending b phase arg.oldID := by
            intro hwaits
            obtain ⟨⟨row, hsome, -⟩, -⟩ := hhas hwaits
            rw [hrow] at hsome
            cases hsome
          have hfallback : StageOk arg.oldID b phase (.fallback existing arg.id) :=
            ⟨hremoved, hfresh, hhandled⟩
          exact hfallback.of_eq hhost htable
      | some row =>
          have hwaits : DestroyPending b phase arg.oldID := by
            by_contra hhandled
            rw [(hremoved.clean hhandled).1] at hrow
            cases hrow
          obtain ⟨⟨read, hread, hsettings⟩, -⟩ := hhas hwaits
          rw [hrow, Option.some.injEq] at hread
          subst hread
          cases hupdate : b.containers.updateContainerForUpgrade arg b.clock with
          | none => simp [hupdate] at hallowed
          | some result =>
              obtain ⟨table, changed⟩ := result
              obtain ⟨hchanged, hnew⟩ := Containers.get?_of_updateContainerForUpgrade hrow hupdate
              simp only [hupdate] at hallowed htable
              have hone : rows = 1 := by rw [of_decide_eq_true hallowed, hchanged]
              subst hone
              refine ⟨hremoved.of_host_eq hhost fun hhandled => absurd hwaits hhandled,
                hfresh.of_host_eq hhost, Containers.upgradedRow arg b.clock row, ?_, ?_⟩
              · rw [htable]
                exact hnew
              · rw [← hsettings]
                rfl

/-- The fallback writes the row. -/
theorem stageOk_save {arg : SaveContainerParams} {answer : Answer (.saveContainer arg)}
    (hfallback : FallbackOf existing newID arg) (hok : StageOk containerID b phase (.fallback existing newID))
    (hanswer : b.answer imageID faults ⟨.saveContainer arg, answer⟩ = some next) :
    StageOk containerID next phase ((Stage.fallback existing newID).after ⟨.saveContainer arg, answer⟩) := by
  cases answer with
  | error err => exact hok.of_neutral hanswer nofun rfl rfl
  | ok u =>
      obtain ⟨hremoved, hfresh, hhandled⟩ := hok
      obtain ⟨r, state, lastUpdatedAt, updatedAt, rfl, rfl, rfl⟩ := hfallback
      have htable : next.containers = b.containers.saveContainer
          (fallbackRow r state lastUpdatedAt updatedAt) b.clock := (answer_eq_some hanswer).2.1
      have hhost : next.host = b.host := by
        rcases host_of_call hanswer nofun with ⟨-, hsame⟩ | ⟨action, haction, -⟩
        · exact hsame
        · cases haction
      refine ⟨hremoved.of_host_eq hhost fun _ => ?_, hfresh.of_host_eq hhost,
        Containers.savedRow (fallbackRow r state lastUpdatedAt updatedAt) b.clock (b.containers.get? r.newID),
        ?_, rfl⟩
      · rw [htable, Containers.getContainer, Containers.get?_saveContainer]
        exact (if_neg (Ne.symm hfresh.ne)).trans (hremoved.clean hhandled).1
      · rw [htable, Containers.getContainer, Containers.get?_saveContainer]
        exact if_pos rfl

/-- A call of the upgrade leads to the next stage. -/
theorem stageOk_of_call (hcoherent : b.host.Coherent) (hok : StageOk containerID b phase stage)
    (hallows : stage.Allows containerID event.op)
    (hanswer : b.answer imageID faults event = some next) :
    StageOk containerID next phase (stage.after event) := by
  obtain ⟨op, answer⟩ := event
  simp only at hallows
  cases stage with
  | reading =>
      cases hallows
      exact stageOk_reading hok hanswer
  | preparing existing =>
      rcases hallows with rfl | ⟨image, rfl | rfl⟩ | ⟨image, rfl⟩ | rfl | rfl
      · exact hok.of_neutral hanswer nofun rfl rfl
      · exact hok.of_neutral hanswer nofun rfl rfl
      · exact hok.of_neutral hanswer nofun rfl rfl
      · exact hok.of_neutral hanswer nofun rfl rfl
      · exact stageOk_stop hok hanswer
      · exact stageOk_remove hcoherent hok hanswer
  | removed existing =>
      obtain ⟨options, rfl⟩ := hallows
      exact stageOk_create hok hanswer
  | created existing newID =>
      rcases hallows with ⟨entries, rfl⟩ | ⟨network, endpoint, rfl⟩ | rfl | rfl | rfl | rfl | ⟨arg, rfl, hid, hold⟩
      · exact hok.of_neutral hanswer nofun rfl rfl
      · exact hok.of_neutral hanswer nofun rfl rfl
      · trivial
      · exact stageOk_start hok hanswer
      · exact hok.of_neutral hanswer nofun rfl rfl
      · exact hok.of_neutral hanswer nofun rfl rfl
      · exact stageOk_update hid hold hok hanswer
  | fallback existing newID =>
      rcases hallows with rfl | ⟨arg, rfl, hfallback⟩
      · exact hok.of_neutral hanswer nofun rfl rfl
      · exact stageOk_save hfallback hok hanswer
  | stored existing newID =>
      rcases hallows with ⟨id, rfl⟩ | ⟨id, rfl⟩ | ⟨row, rfl⟩
      · exact hok.of_neutral hanswer nofun rfl rfl
      · exact hok.of_neutral hanswer nofun rfl rfl
      · exact hok.of_neutral hanswer nofun rfl rfl
  | abandoned => cases hallows

/-- In the stage where the upgrade sends it, the in-place update does not meet the primary key. -/
theorem isSome_of_stageOk {arg : UpdateContainerForUpgradeParams} (now : Int)
    (hok : StageOk containerID b phase stage) (hallows : stage.Allows containerID (.updateContainerForUpgrade arg)) :
    (b.containers.updateContainerForUpgrade arg now).isSome := by
  cases stage with
  | created existing newID =>
      obtain ⟨rfl, rfl⟩ : arg.id = newID ∧ arg.oldID = containerID := by simpa [Stage.Allows] using hallows
      obtain ⟨hremoved, -, hhas⟩ := hok
      by_cases hpending : DestroyPending b phase arg.oldID
      · exact Containers.isSome_updateContainerForUpgrade (hhas hpending).2
      · rw [Containers.updateContainerForUpgrade_of_none (hremoved.clean hpending).1]
        rfl
  | _ => simp [Stage.Allows] at hallows

end Steps

/-! ## Runs -/

/-- The upgrade of a container and the monitor, before their first call. -/
def upgradeStart (s : Service) (containerID : GoString) (n : Nat) (b : Backend) :
    Config (Option Unit) Backend Call Answer ConnectError Unit :=
  withMonitor n (fun _ => (upgradeContainerInternal s containerID).void) b

def upgradeText (containerID : GoString) : Option Unit → List CallEvent → Call → Prop
  | none => fun _ _ => True
  | some _ => UpgradeCall containerID

def upgradeDone : Option Unit → List CallEvent → Unit → Prop
  | none => fun _ _ => True
  | some _ => fun past _ => ∃ existing newID, stageOf past = .stored existing newID

structure UpgradeInv (containerID : GoString) (c : Config (Option Unit) Backend Call Answer ConnectError Unit) :
    Prop where
  coherent : c.shared.host.Coherent
  follows : Follows (upgradeText containerID) upgradeDone c
  recorded : (stageOf (c.past (some ()))).Recorded containerID (c.past (some ()))
  phase : ∃ phase, MonitorAt phase (c.threads none) ∧ (∀ id, phase = .deleting id → Gone c.shared.host id) ∧
    StageOk containerID c.shared phase (stageOf (c.past (some ())))

section Runs

variable {s : Service} {imageID : GoString → GoString} {faults : Call → Bool} {containerID : GoString}
variable {c next : Config (Option Unit) Backend Call Answer ConnectError Unit} {event : CallEvent}

theorem upgradeInv_call_none (hfaults : faults (.deleteContainer containerID) = false)
    (hinv : UpgradeInv containerID c)
    (hstep : (backend imageID faults).step c (.call none event) = some next) : UpgradeInv containerID next := by
  have hfollows := hinv.follows.step hstep
  have hpast := (past_of_step_call hstep).2 (some ()) nofun
  obtain ⟨rest, shared, hcall, hanswer, rfl⟩ := step_call_eq_some_iff.mp hstep
  obtain ⟨phase, hat, hdeleting, hok⟩ := hinv.phase
  obtain ⟨after, hphase, hat'⟩ := hat.step hcall
  refine ⟨coherent_of_answer hinv.coherent hanswer, hfollows, ?_, after, ?_, ?_, ?_⟩
  · rw [hpast]
    exact hinv.recorded
  · simpa using hat'
  · intro id hafter
    exact gone_of_deleting hinv.coherent hphase hanswer hafter
  · rw [hpast]
    exact stageOk_of_phaseStep hinv.coherent hdeleting hfaults hphase hanswer hok

theorem upgradeInv_call_some (hinv : UpgradeInv containerID c)
    (hstep : (backend imageID faults).step c (.call (some ()) event) = some next) :
    UpgradeInv containerID next := by
  have hfollows := hinv.follows.step hstep
  have hpast := (past_of_step_call hstep).1
  have hmonitor := threads_of_step_call hstep none nofun
  obtain ⟨rest, shared, hcall, hanswer, rfl⟩ := step_call_eq_some_iff.mp hstep
  have hallows : (stageOf (c.past (some ()))).Allows containerID event.op := hinv.follows.call hcall
  obtain ⟨phase, hat, hdeleting, hok⟩ := hinv.phase
  refine ⟨coherent_of_answer hinv.coherent hanswer, hfollows, ?_, phase, ?_, ?_, ?_⟩
  · rw [hpast, stageOf_cons]
    exact hinv.recorded.after hallows
  · rw [hmonitor]
    exact hat
  · intro id hphase
    exact gone_of_answer (hdeleting id hphase) hanswer
  · rw [hpast, stageOf_cons]
    exact stageOk_of_call hinv.coherent hok hallows hanswer

theorem upgradeInv_step {label : Label (Option Unit) Happening Call Answer}
    (hfaults : faults (.deleteContainer containerID) = false)
    (halone : ∀ action, label ≠ .env (.host action)) (hinv : UpgradeInv containerID c)
    (hstep : (backend imageID faults).step c label = some next) : UpgradeInv containerID next := by
  cases label with
  | env e =>
      obtain ⟨shared, henv, rfl⟩ := step_env_eq_some_iff.mp hstep
      rcases host_of_happen henv with ⟨action, rfl, -⟩ | ⟨-, hsame⟩
      · exact absurd rfl (halone action)
      · obtain ⟨phase, hat, hdeleting, hok⟩ := hinv.phase
        refine ⟨?_, hinv.follows, hinv.recorded, phase, hat, ?_, ?_⟩
        · show shared.host.Coherent
          rw [hsame]
          exact hinv.coherent
        · show ∀ id, phase = .deleting id → Gone shared.host id
          rw [hsame]
          exact hdeleting
        · exact hok.of_eq hsame (containers_of_happen henv)
  | call i event =>
      cases i with
      | none => exact upgradeInv_call_none hfaults hinv hstep
      | some i => exact upgradeInv_call_some hinv hstep

/-- The upgrade of a container, alone with the event monitor that handles the events it causes: whatever the
interleaving, the in-place update does not violate the primary key; and when the upgrade has succeeded and
every event has been handled there is no row of the old container, and there is one of the new container with
the settings that the old row had when the upgrade read it. -/
theorem upgrade_moves_row (s : Service) (imageID : GoString → GoString) (faults : Call → Bool)
    (containerID : GoString) (n : Nat) (b : Backend) (labels : List (Label (Option Unit) Happening Call Answer))
    (final : Config (Option Unit) Backend Call Answer ConnectError Unit)
    (hcoherent : b.host.Coherent) (hqueue : b.host.queue = [])
    (hrows : ∀ id, b.containers.getContainer id ≠ none → id ∈ b.host.used)
    (hfaults : faults (.deleteContainer containerID) = false)
    (halone : ∀ action, .env (.host action) ∉ labels)
    (hrun : exec (backend imageID faults).step (upgradeStart s containerID n b) labels = some final) :
    (∀ arg rest now, final.threads (some ()) = .call (.updateContainerForUpgrade arg) rest →
      (final.shared.containers.updateContainerForUpgrade arg now).isSome) ∧
    (final.threads (some ()) = .done () → final.shared.host.queue = [] →
      (∃ m, final.threads none = eventLoop m) →
      ∃ existing options newID row,
        ⟨.getContainer containerID, .ok existing⟩ ∈ final.past (some ()) ∧
        ⟨.containerCreate options, .ok newID⟩ ∈ final.past (some ()) ∧
        final.shared.containers.getContainer containerID = none ∧
        final.shared.containers.getContainer newID = some row ∧
        row.autoUpdate = existing.autoUpdate ∧ row.latestImageDigest = existing.latestImageDigest ∧
        row.lastCheckedAt = existing.lastCheckedAt ∧ row.updateAvailable = 0) := by
  have hearly : Early b .quiet containerID := by
    refine ⟨?_, ?_, nofun, nofun⟩
    · rw [hqueue]
      nofun
    · intro id hid
      exact hrows id (hid.resolve_right not_writes_quiet)
  have hfollows : Follows (upgradeText containerID) upgradeDone (upgradeStart s containerID n b) := by
    intro i
    cases i with
    | none => exact Program.along_true _
    | some i => exact Program.along_void.mpr along_upgradeContainerInternal
  have hstart : UpgradeInv containerID (upgradeStart s containerID n b) :=
    ⟨hcoherent, hfollows, trivial, .quiet, .idle n, nofun, hearly⟩
  have hrunInv := exec_invariant_of_rest
    (fun rest c => (∀ action, .env (.host action) ∉ rest) ∧ UpgradeInv containerID c)
    (by
      intro c label rest next hbefore hstep
      obtain ⟨hothers, hinv⟩ := hbefore
      refine ⟨fun action hmem => hothers action (List.mem_cons_of_mem _ hmem), ?_⟩
      exact upgradeInv_step hfaults (fun action heq => hothers action (heq ▸ List.mem_cons_self)) hinv hstep)
    hrun ⟨halone, hstart⟩
  have hinv : UpgradeInv containerID final := hrunInv.2
  obtain ⟨phase, hat, -, hok⟩ := hinv.phase
  constructor
  · intro arg rest now hcall
    have hallows := hinv.follows (some ())
    rw [hcall] at hallows
    exact isSome_of_stageOk now hok hallows.1
  · intro hdone hempty hidle
    obtain ⟨m, hloop⟩ := hidle
    rw [hloop] at hat
    have hquiet := phase_eq_quiet_of_eventLoop hat
    subst hquiet
    obtain ⟨existing, newID, hstored⟩ := hinv.follows.done hdone
    have hrecorded := hinv.recorded
    rw [hstored] at hok hrecorded
    obtain ⟨hread, options, hcreate⟩ := hrecorded
    obtain ⟨hremoved, -, row, hrow, hsettings⟩ := hok
    -- nothing waits, so the destroy event has been handled
    have hhandled : ¬ DestroyPending final.shared .quiet containerID := by
      rintro (hmem | hphase)
      · rw [hempty] at hmem
        cases hmem
      · cases hphase
    simp only [settingsOf, Settings.mk.injEq] at hsettings
    obtain ⟨hauto, havailable, hdigest, hchecked⟩ := hsettings
    exact ⟨existing, options, newID, row, hread, hcreate, (hremoved.clean hhandled).1, hrow, hauto, hdigest,
      hchecked, havailable⟩

end Runs

/-! ## A stale inspection

The monitor inspects the old container before it is removed and writes its row after the upgrade has moved it. -/

def webOptions : ContainerCreateOptions := createOptions webContainer

/-- The new container when it runs. -/
def webUpgraded : ContainerInspect :=
  { createdContainer (str "sha256:2") webOptions with status := statusRunning, running := true }

def webRecreated : Recreated := ⟨webRow, webContainer, str "sha256:2", str "web2"⟩

/-- The row of the new container. -/
def webUpgradedRow : Db.Container :=
  Containers.upgradedRow (upgradedRow (str "web") webRecreated statusRunning 0) 0 webRow

def staleInspection : List (Label (Option Unit) Happening Call Answer) :=
  [.call (some ()) ⟨.getContainer (str "web"), .ok webRow⟩,
    .call (some ()) ⟨.containerInspect (str "web"), .ok webContainer⟩,
    .call (some ()) ⟨.imagePull (str "nginx:1"), .ok ()⟩,
    .call (some ()) ⟨.copyProgress (str "nginx:1"), .ok ()⟩,
    .call (some ()) ⟨.imageInspect (str "nginx:1"), .ok ⟨str "sha256:2", []⟩⟩,
    .call (some ()) ⟨.containerStop (str "web"), .ok ()⟩,
    .call none ⟨.receiveEvent, ⟨.kill, str "web"⟩⟩,
    .call none ⟨.receiveEvent, ⟨.die, str "web"⟩⟩,
    .call none ⟨.containerInspect (str "web"), .ok webStopped⟩,
    .call (some ()) ⟨.containerRemove (str "web"), .ok ()⟩,
    .call (some ()) ⟨.containerCreate webOptions, .ok (str "web2")⟩,
    .call (some ()) ⟨.mapOrder [], ⟨[], perm_webNetworks⟩⟩,
    .call (some ()) ⟨.containerStart (str "web2"), .ok ()⟩,
    .call (some ()) ⟨.containerInspect (str "web2"), .ok webUpgraded⟩,
    .call (some ()) ⟨.timeNow, (0 : Int)⟩,
    .call (some ()) ⟨.updateContainerForUpgrade (upgradedRow (str "web") webRecreated statusRunning 0), .ok 1⟩,
    .call none ⟨.upsertContainerFromEvent (eventParams (str "web") webStopped), .ok ()⟩,
    .call none ⟨.getContainer (str "web"), .ok { webRow with state := statusExited }⟩,
    .call none ⟨.publishSave { webRow with state := statusExited }, ()⟩,
    .call none ⟨.receiveEvent, ⟨.stop, str "web"⟩⟩,
    .call none ⟨.containerInspect (str "web"), .error ⟨.notFound, []⟩⟩,
    .call none ⟨.receiveEvent, ⟨.destroy, str "web"⟩⟩,
    .call none ⟨.deleteContainer (str "web"), .ok ()⟩,
    .call none ⟨.publishDelete (str "web"), ()⟩,
    .call none ⟨.receiveEvent, ⟨.create, str "web2"⟩⟩,
    .call none ⟨.containerInspect (str "web2"), .ok webUpgraded⟩,
    .call (some ()) ⟨.publishDelete (str "web"), ()⟩,
    .call (some ()) ⟨.getContainer (str "web2"), .ok webUpgradedRow⟩,
    .call (some ()) ⟨.publishSave webUpgradedRow, ()⟩,
    .call none ⟨.upsertContainerFromEvent (eventParams (str "web2") webUpgraded), .ok ()⟩,
    .call none ⟨.getContainer (str "web2"), .ok webUpgradedRow⟩,
    .call none ⟨.publishSave webUpgradedRow, ()⟩,
    .call none ⟨.receiveEvent, ⟨.start, str "web2"⟩⟩,
    .call none ⟨.containerInspect (str "web2"), .ok webUpgraded⟩,
    .call none ⟨.upsertContainerFromEvent (eventParams (str "web2") webUpgraded), .ok ()⟩,
    .call none ⟨.getContainer (str "web2"), .ok webUpgradedRow⟩,
    .call none ⟨.publishSave webUpgradedRow, ()⟩]

/-- A service with a Docker client. -/
def dockerService : Service := ⟨true, true⟩

/-- The reference of the image stands for the new one. -/
abbrev newImageSystem : System Backend Happening Call Answer := backend (fun _ => str "sha256:2") fun _ => false

theorem exec_staleInspection :
    (exec newImageSystem.step (upgradeStart dockerService (str "web") 6 webBackend) staleInspection).map
        (fun c => (c.shared.host.queue, (c.threads (some ())).result?, (c.threads none).result?)) =
      some ([], some (.ok ()), some (.ok ())) := by
  decide +kernel

theorem rows_used_webBackend (id : GoString) (hid : webBackend.containers.getContainer id ≠ none) :
    id ∈ webBackend.host.used := by
  obtain ⟨row, hrow⟩ := Option.ne_none_iff_exists'.mp hid
  obtain ⟨hmem, hkey⟩ := KeyedTable.get?_eq_some_iff.mp hrow
  rw [List.mem_singleton.mp hmem] at hkey
  exact List.mem_singleton.mpr hkey.symm

theorem upgrade_moves_row_staleInspection :
    ∃ final, exec newImageSystem.step (upgradeStart dockerService (str "web") 6 webBackend) staleInspection =
        some final ∧
      ∃ existing options newID row,
        ⟨.getContainer (str "web"), .ok existing⟩ ∈ final.past (some ()) ∧
        ⟨.containerCreate options, .ok newID⟩ ∈ final.past (some ()) ∧
        final.shared.containers.getContainer (str "web") = none ∧
        final.shared.containers.getContainer newID = some row ∧
        row.autoUpdate = existing.autoUpdate ∧ row.latestImageDigest = existing.latestImageDigest ∧
        row.lastCheckedAt = existing.lastCheckedAt ∧ row.updateAvailable = 0 := by
  obtain ⟨final, hfinal, hend⟩ := Option.map_eq_some_iff.mp exec_staleInspection
  simp only [Prod.mk.injEq] at hend
  obtain ⟨hqueue, hupgrade, hmonitor⟩ := hend
  have halone : ∀ action, .env (.host action) ∉ staleInspection := by
    intro action
    simp [staleInspection]
  exact ⟨final, hfinal, (upgrade_moves_row dockerService _ _ (str "web") 6 webBackend staleInspection final
    coherent_webBackend rfl rows_used_webBackend rfl halone hfinal).2
      (Program.eq_done_of_result? hupgrade) hqueue ⟨0, Program.eq_done_of_result? hmonitor⟩⟩

end Container
end Dmanager
