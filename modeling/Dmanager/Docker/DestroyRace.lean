import Dmanager.Container.ActionsInterleaved
import Dmanager.Docker.Monitor

/-!
# Starting and stopping a container that is destroyed

Any number of `StartContainer` and `StopContainer` requests for one container, interleaved with the event
monitor and with whatever happens on the host.  When the container is destroyed the monitor deletes its row;
a request that has inspected the container before that writes the row with an upsert afterwards, and no event
is left that would remove it again.

`noLeftover_iff` says that this is the only way: once the destroy event has been handled there is no row of
the container, if and only if no request saves it after that.
-/

namespace Dmanager
namespace Docker

open Go Db Lib Server Auth Container

/-- A request to start or to stop the container. -/
structure ChangeRequest where
  ctx : Ctx
  transition : Transition
  deriving DecidableEq, Repr

def ChangeRequest.program (s : Service) (containerID : GoString) (request : ChangeRequest) :
    Program Call Answer ConnectError Unit :=
  (changeState request.transition s request.ctx containerID).void

/-- The monitor and the requests, before their first call. -/
def changesStart {ι : Type} (s : Service) (containerID : GoString) (requests : ι → ChangeRequest) (n : Nat)
    (b : Backend) : Config (Option ι) Backend Call Answer ConnectError Unit :=
  withMonitor n (fun i => (requests i).program s containerID) b

/-- The monitor has deleted the row of the container, which it does on its destroy event. -/
def DestroyHandled {ι : Type} (containerID : GoString)
    (c : Config (Option ι) Backend Call Answer ConnectError Unit) : Prop :=
  ∃ answer, (none, ⟨.deleteContainer containerID, answer⟩) ∈ c.log

/-- Once the destroy event has been handled there is no row of the container. -/
def NoLeftover {ι : Type} (containerID : GoString)
    (c : Config (Option ι) Backend Call Answer ConnectError Unit) : Prop :=
  DestroyHandled containerID c → c.shared.containers.getContainer containerID = none

/-- No request saves the container after its destroy event has been handled. -/
def SaveBeforeDestroy {ι : Type} (containerID : GoString)
    (c : Config (Option ι) Backend Call Answer ConnectError Unit) :
    Label (Option ι) Happening Call Answer → Prop
  | .call (some _) ⟨.saveContainer _, .ok _⟩ => ¬ DestroyHandled containerID c
  | _ => True

/-! ## What holds in every state -/

/-- What the texts of the requests say; the monitor is described by its phases. -/
def changeText (containerID : GoString) {ι : Type} : Option ι → List CallEvent → Call → Prop
  | none => fun _ _ => True
  | some _ => ActionCall containerID

structure DestroyInv {ι : Type} [DecidableEq ι] (containerID : GoString)
    (c : Config (Option ι) Backend Call Answer ConnectError Unit) : Prop where
  coherent : c.shared.host.Coherent
  follows : Follows (changeText containerID) (fun _ _ _ => True) c
  phase : ∃ phase, MonitorAt phase (c.threads none) ∧
    (∀ id, phase = .deleting id → Gone c.shared.host id) ∧
    (DestroyHandled containerID c → ∀ arg, phase = .upserting arg → arg.id ≠ containerID)
  gone : DestroyHandled containerID c → Gone c.shared.host containerID

section Log

variable {ι : Type} {containerID : GoString} {event : CallEvent} {shared : Backend}
variable {threads : Option ι → Program Call Answer ConnectError Unit}
variable {c : Config (Option ι) Backend Call Answer ConnectError Unit}

/-- A call of a request is no handling of an event. -/
theorem destroyHandled_cons_some {i : ι} :
    DestroyHandled containerID (⟨shared, threads, (some i, event) :: c.log⟩) ↔
      DestroyHandled containerID c := by
  simp [DestroyHandled]

/-- A call of the monitor is one only if it is the delete statement. -/
theorem destroyHandled_cons_none :
    DestroyHandled containerID (⟨shared, threads, (none, event) :: c.log⟩) ↔
      (∃ answer, event = ⟨.deleteContainer containerID, answer⟩) ∨ DestroyHandled containerID c := by
  simp only [DestroyHandled, List.mem_cons, Prod.mk.injEq, true_and, exists_or, eq_comm]

end Log

section Steps

variable {ι : Type} [DecidableEq ι] {imageID : GoString → GoString} {faults : Call → Bool}
variable {containerID : GoString} {c next : Config (Option ι) Backend Call Answer ConnectError Unit}
variable {event : CallEvent} {containers : Containers} {now : Int} {i : ι} {phase after : Phase}

theorem destroyInv_call_some (hinv : DestroyInv containerID c)
    (hstep : (backend imageID faults).step c (.call (some i) event) = some next) :
    DestroyInv containerID next := by
  have hfollows := hinv.follows.step hstep
  have hmonitor := threads_of_step_call hstep none nofun
  obtain ⟨rest, shared, hcall, hanswer, rfl⟩ := step_call_eq_some_iff.mp hstep
  obtain ⟨phase, hat, hdeleting, hupserting⟩ := hinv.phase
  refine ⟨coherent_of_answer hinv.coherent hanswer, hfollows, ⟨phase, ?_, ?_, ?_⟩, ?_⟩
  · rw [hmonitor]
    exact hat
  · intro id hphase
    exact gone_of_answer (hdeleting id hphase) hanswer
  · intro hhandled
    exact hupserting (destroyHandled_cons_some.mp hhandled)
  · intro hhandled
    exact gone_of_answer (hinv.gone (destroyHandled_cons_some.mp hhandled)) hanswer

theorem destroyInv_call_none (hinv : DestroyInv containerID c)
    (hstep : (backend imageID faults).step c (.call none event) = some next) :
    DestroyInv containerID next := by
  have hfollows := hinv.follows.step hstep
  obtain ⟨rest, shared, hcall, hanswer, rfl⟩ := step_call_eq_some_iff.mp hstep
  obtain ⟨phase, hat, hdeleting, hupserting⟩ := hinv.phase
  obtain ⟨after, hphase, hat'⟩ := hat.step hcall
  refine ⟨coherent_of_answer hinv.coherent hanswer, hfollows, ⟨after, ?_, ?_, ?_⟩, ?_⟩
  · simpa using hat'
  · intro id hafter
    exact gone_of_deleting hinv.coherent hphase hanswer hafter
  · intro hhandled arg hafter
    rcases destroyHandled_cons_none.mp hhandled with ⟨answer, rfl⟩ | hbefore
    · -- after the delete statement the monitor is quiet
      cases hphase
      cases hafter
    · exact ne_of_upserting (hinv.gone hbefore) hphase hanswer hafter
  · intro hhandled
    rcases destroyHandled_cons_none.mp hhandled with ⟨answer, rfl⟩ | hbefore
    · cases hphase
      exact gone_of_answer (hdeleting containerID rfl) hanswer
    · exact gone_of_answer (hinv.gone hbefore) hanswer

theorem destroyInv_step {label : Label (Option ι) Happening Call Answer} (hinv : DestroyInv containerID c)
    (hstep : (backend imageID faults).step c label = some next) : DestroyInv containerID next := by
  cases label with
  | env e =>
      have hfollows := hinv.follows.step hstep
      have hcoherent := coherent_of_step hinv.coherent hstep
      obtain ⟨shared, henv, rfl⟩ := step_env_eq_some_iff.mp hstep
      have hkeep : ∀ id, Gone c.shared.host id → Gone shared.host id := by
        intro id hgone
        rcases host_of_happen henv with ⟨action, -, hperform⟩ | ⟨-, hsame⟩
        · exact hgone.perform hperform
        · rw [hsame]
          exact hgone
      obtain ⟨phase, hat, hdeleting, hupserting⟩ := hinv.phase
      exact ⟨hcoherent, hfollows, ⟨phase, hat, fun id hphase => hkeep id (hdeleting id hphase), hupserting⟩,
        fun hhandled => hkeep containerID (hinv.gone hhandled)⟩
  | call i event =>
      cases i with
      | none => exact destroyInv_call_none hinv hstep
      | some i => exact destroyInv_call_some hinv hstep

/-! ## The row of the container -/

/-- The monitor inserts no row of a container that it is not about to write. -/
theorem getContainer_of_phaseStep (hphase : PhaseStep phase event after)
    (hupserting : ∀ arg, phase = .upserting arg → arg.id ≠ containerID)
    (hnone : containers.getContainer containerID = none) :
    (tableAfter containers now event).getContainer containerID = none := by
  cases hphase with
  | delete id answer =>
      cases answer with
      | ok u =>
          show (containers.delete id).get? containerID = none
          rw [KeyedTable.get?_delete]
          split
          · rfl
          · exact hnone
      | error err => exact hnone
  | upsert arg answer =>
      cases answer with
      | ok u =>
          show (containers.upsertContainerFromEvent arg now).get? containerID = none
          rw [Containers.get?_upsertContainerFromEvent, if_neg (Ne.symm (hupserting arg rfl))]
          exact hnone
      | error err => exact hnone
  | reread id answer =>
      cases answer with
      | ok row => exact hnone
      | error err => exact hnone
  | _ => exact hnone

/-- A request inserts a row only with `SaveContainer`. -/
theorem getContainer_of_actionCall {past : List CallEvent} (hcall : ActionCall containerID past event.op)
    (hother : ∀ arg u, event ≠ ⟨.saveContainer arg, .ok u⟩)
    (hnone : containers.getContainer containerID = none) :
    (tableAfter containers now event).getContainer containerID = none := by
  unfold tableAfter
  split
  · rename_i arg u
    exact absurd rfl (hother arg u)
  · rename_i id autoUpdate u
    show (containers.setContainerAutoUpdate id autoUpdate now).get? containerID = none
    rw [Containers.get?_setContainerAutoUpdate, show containers.get? containerID = none from hnone]
    simp
  · rename_i arg u
    show (containers.updateContainerUpdateState arg now).get? containerID = none
    rw [Containers.get?_updateContainerUpdateState, show containers.get? containerID = none from hnone]
    simp
  · exact absurd hcall id
  · exact absurd hcall id
  · exact absurd hcall id
  · exact absurd hcall id
  · exact hnone

/-- The delete statement leaves no row. -/
theorem getContainer_of_delete {answer : Answer (.deleteContainer containerID)} {b : Backend}
    (hfaults : faults (.deleteContainer containerID) = false)
    (hallowed : allowed faults b ⟨.deleteContainer containerID, answer⟩ = true) :
    (tableAfter containers now ⟨.deleteContainer containerID, answer⟩).getContainer containerID = none := by
  cases answer with
  | ok u =>
      show (containers.delete containerID).get? containerID = none
      rw [KeyedTable.get?_delete, if_pos rfl]
  | error err =>
      simp [allowed, hfaults] at hallowed

theorem noLeftover_call_none (hinv : DestroyInv containerID c) (hno : NoLeftover containerID c)
    (hfaults : faults (.deleteContainer containerID) = false)
    (hstep : (backend imageID faults).step c (.call none event) = some next) :
    NoLeftover containerID next := by
  obtain ⟨rest, shared, hcall, hanswer, rfl⟩ := step_call_eq_some_iff.mp hstep
  obtain ⟨phase, hat, -, hupserting⟩ := hinv.phase
  obtain ⟨after, hphase, -⟩ := hat.step hcall
  obtain ⟨hallowed, htable, -⟩ := answer_eq_some hanswer
  intro hhandled
  show shared.containers.getContainer containerID = none
  rw [htable]
  rcases destroyHandled_cons_none.mp hhandled with ⟨answer, rfl⟩ | hbefore
  · exact getContainer_of_delete hfaults hallowed
  · exact getContainer_of_phaseStep hphase (hupserting hbefore) (hno hbefore)

/-- A request keeps the table clean exactly when it does not save the container too late. -/
theorem noLeftover_call_some_iff (hinv : DestroyInv containerID c) (hno : NoLeftover containerID c)
    (hstep : (backend imageID faults).step c (.call (some i) event) = some next) :
    NoLeftover containerID next ↔ SaveBeforeDestroy containerID c (.call (some i) event) := by
  obtain ⟨rest, shared, hcall, hanswer, rfl⟩ := step_call_eq_some_iff.mp hstep
  have htext : ActionCall containerID (c.past (some i)) event.op := hinv.follows.call hcall
  obtain ⟨-, htable, -⟩ := answer_eq_some hanswer
  by_cases hsave : ∃ arg u, event = ⟨.saveContainer arg, .ok u⟩
  · obtain ⟨arg, u, rfl⟩ := hsave
    obtain ⟨existing, saved, -, hget, -⟩ :=
      settings_saveContainer c.shared.containers c.shared.clock htext
    have hsome : shared.containers.getContainer containerID = some saved := by
      rw [htable]
      exact hget
    constructor
    · intro hnext hhandled
      have hnone := hnext (destroyHandled_cons_some.mpr hhandled)
      rw [show shared.containers.getContainer containerID = none from hnone] at hsome
      cases hsome
    · intro hbefore hhandled
      exact absurd (destroyHandled_cons_some.mp hhandled) hbefore
  · have hother : ∀ arg u, event ≠ ⟨.saveContainer arg, .ok u⟩ := by
      intro arg u heq
      exact hsave ⟨arg, u, heq⟩
    have hguard : SaveBeforeDestroy containerID c (.call (some i) event) := by
      unfold SaveBeforeDestroy
      split
      · rename_i heq
        cases heq
        exact absurd rfl (hother _ _)
      · trivial
    refine iff_of_true ?_ hguard
    intro hhandled
    show shared.containers.getContainer containerID = none
    rw [htable]
    exact getContainer_of_actionCall htext hother (hno (destroyHandled_cons_some.mp hhandled))

theorem noLeftover_step_iff {label : Label (Option ι) Happening Call Answer} (hinv : DestroyInv containerID c)
    (hno : NoLeftover containerID c) (hfaults : faults (.deleteContainer containerID) = false)
    (hstep : (backend imageID faults).step c label = some next) :
    NoLeftover containerID next ↔ SaveBeforeDestroy containerID c label := by
  cases label with
  | env e =>
      obtain ⟨shared, henv, rfl⟩ := step_env_eq_some_iff.mp hstep
      refine iff_of_true ?_ trivial
      intro hhandled
      show shared.containers.getContainer containerID = none
      rw [containers_of_happen henv]
      exact hno hhandled
  | call i event =>
      cases i with
      | none => exact iff_of_true (noLeftover_call_none hinv hno hfaults hstep) trivial
      | some i => exact noLeftover_call_some_iff hinv hno hstep

/-- In every state of a run there is no row of the container once its destroy event has been handled, if and
only if no request saves it after that. -/
theorem noLeftover_iff (imageID : GoString → GoString) (faults : Call → Bool) (s : Service)
    (containerID : GoString) (requests : ι → ChangeRequest) (n : Nat) (b : Backend)
    (labels : List (Label (Option ι) Happening Call Answer))
    (final : Config (Option ι) Backend Call Answer ConnectError Unit)
    (hcoherent : b.host.Coherent) (hfaults : faults (.deleteContainer containerID) = false)
    (hrun : exec (backend imageID faults).step (changesStart s containerID requests n b) labels =
      some final) :
    (∀ earlier later reached, labels = earlier ++ later →
        exec (backend imageID faults).step (changesStart s containerID requests n b) earlier = some reached →
          NoLeftover containerID reached) ↔
      Guarded (backend imageID faults).step (SaveBeforeDestroy containerID)
        (changesStart s containerID requests n b) labels := by
  have hfresh : ¬ DestroyHandled containerID (changesStart s containerID requests n b) := by
    simp [DestroyHandled, changesStart, withMonitor, Config.start]
  have hfollows : Follows (changeText containerID) (fun _ _ _ => True)
      (changesStart s containerID requests n b) := by
    refine follows_start fun i => ?_
    cases i with
    | none => exact Program.along_true _
    | some i => exact Program.along_void.mpr (along_changeState (requests i).transition)
  have hinit : DestroyInv containerID (changesStart s containerID requests n b) :=
    ⟨hcoherent, hfollows, ⟨.quiet, .idle n, nofun, fun _ => nofun⟩, fun hhandled => absurd hhandled hfresh⟩
  have hno : NoLeftover containerID (changesStart s containerID requests n b) :=
    fun hhandled => absurd hhandled hfresh
  rw [forall_reached_iff_guarded, and_iff_right hno]
  refine guarded_congr_of_exec
    (fun c => DestroyInv containerID c ∧ NoLeftover containerID c) ?_ ?_ hrun ⟨hinit, hno⟩
  · intro c label next hinv hnext
    simp only [hnext, Option.some.injEq, forall_eq']
    exact noLeftover_step_iff hinv.1 hinv.2 hfaults hnext
  · intro c label next hinv hguard hnext
    exact ⟨destroyInv_step hinv.1 hnext, (noLeftover_step_iff hinv.1 hinv.2 hfaults hnext).mpr hguard⟩

end Steps

/-! ## A start that brings the row back -/

/-- The container of the run, stopped. -/
def stoppedBackend : Backend where
  host := ⟨fun id => if id = str "web" then some webStopped else none, [str "web"], []⟩
  containers := ⟨[{ webRow with state := statusExited }], by decide⟩
  clock := 0

/-- One request, which starts the container. -/
def startWeb (_ : Fin 1) : ChangeRequest := ⟨adminCtx, .start⟩

def noSuchContainer : DockerError := ⟨.notFound, str "No such container: web"⟩

/-- The container is started and destroyed, the monitor handles both events, and only then the request
writes the row. -/
def leftoverRun : List (Label (Option (Fin 1)) Happening Call Answer) :=
  [.call (some 0) ⟨.getContainer (str "web"), .ok { webRow with state := statusExited }⟩,
    .call (some 0) ⟨.containerInspect (str "web"), .ok webStopped⟩,
    .call (some 0) ⟨.containerStart (str "web"), .ok ()⟩,
    .call (some 0) ⟨.containerInspect (str "web"), .ok webContainer⟩,
    .env (.host (.destroy (str "web"))),
    .call none ⟨.receiveEvent, ⟨.start, str "web"⟩⟩,
    .call none ⟨.containerInspect (str "web"), .error noSuchContainer⟩,
    .call none ⟨.receiveEvent, ⟨.destroy, str "web"⟩⟩,
    .call none ⟨.deleteContainer (str "web"), .ok ()⟩,
    .call none ⟨.publishDelete (str "web"), ()⟩,
    .call (some 0) ⟨.timeNow, 0⟩,
    .call (some 0) ⟨.saveContainer
      (changedRow (str "web") { webRow with state := statusExited } statusRunning 0), .ok ()⟩,
    .call (some 0) ⟨.getContainer (str "web"), .ok webRow⟩,
    .call (some 0) ⟨.publishSave webRow, ()⟩]

/-- Where that run ends: the request is over, no event is left, and the row is there. -/
theorem exec_leftoverRun :
    (exec webSystem.step
        (changesStart ⟨true, true⟩ (str "web") startWeb 2 stoppedBackend) leftoverRun).map
      (fun c => ((c.threads (some 0)).isOver, c.shared.host.containers (str "web"), c.shared.host.queue,
        c.shared.containers.getContainer (str "web"),
        c.log.any fun entry => decide (entry.1 = none ∧ entry.2.op = .deleteContainer (str "web")))) =
      some (true, none, [], some webRow, true) := by
  decide +kernel

theorem noLeftover_iff_leftoverRun :
    stoppedBackend.host.Coherent ∧
      ∃ final, exec webSystem.step
          (changesStart ⟨true, true⟩ (str "web") startWeb 2 stoppedBackend) leftoverRun = some final ∧
        ((∀ earlier later reached, leftoverRun = earlier ++ later →
            exec webSystem.step
                (changesStart ⟨true, true⟩ (str "web") startWeb 2 stoppedBackend) earlier = some reached →
              NoLeftover (str "web") reached) ↔
          Guarded webSystem.step (SaveBeforeDestroy (str "web"))
            (changesStart ⟨true, true⟩ (str "web") startWeb 2 stoppedBackend) leftoverRun) := by
  obtain ⟨final, hfinal, -⟩ := Option.map_eq_some_iff.mp exec_leftoverRun
  have hcoherent : stoppedBackend.host.Coherent := by
    refine ⟨by decide, ?_, nofun, nofun⟩
    intro id hid
    by_cases hweb : id = str "web"
    · simp [stoppedBackend, hweb]
    · simp [stoppedBackend, hweb] at hid
  exact ⟨hcoherent, final, hfinal, noLeftover_iff _ _ _ _ _ _ _ _ _ hcoherent rfl hfinal⟩

/-- The request has finished, the destroy event has been handled, and the row is there again. -/
theorem start_revives_row :
    ∃ final, exec webSystem.step
        (changesStart ⟨true, true⟩ (str "web") startWeb 2 stoppedBackend) leftoverRun = some final ∧
      (∀ i, (final.threads (some i)).isOver = true) ∧ final.shared.host.containers (str "web") = none ∧
      DestroyHandled (str "web") final ∧
      final.shared.containers.getContainer (str "web") = some webRow := by
  obtain ⟨final, hfinal, hend⟩ := Option.map_eq_some_iff.mp exec_leftoverRun
  simp only [Prod.mk.injEq] at hend
  obtain ⟨hover, hgone, -, hrow, hlog⟩ := hend
  refine ⟨final, hfinal, ?_, hgone, ?_, hrow⟩
  · intro i
    fin_cases i
    exact hover
  · obtain ⟨⟨i, op, answer⟩, hentry, hdelete⟩ := List.any_eq_true.mp hlog
    obtain ⟨hmonitor, hop⟩ := of_decide_eq_true hdelete
    simp only at hmonitor hop
    subst hmonitor hop
    exact ⟨answer, hentry⟩

end Docker
end Dmanager
