import Dmanager.Container.Actions
import Dmanager.Docker.Host

/-!
# The event monitor

`handleEvent` of `internal/docker/monitor.go` and the loop of `StartEventMonitor` around it, with the callback
that `cmd/serve.go` passes for the streams.  The monitor receives the events of the host one at a time; a
destroy event deletes the row of the container, and the events that it takes for a change of state make it
inspect the container and then write what it has seen.  The inspection comes later than the event, and the
write later than the inspection.

`MonitorAt` describes where the monitor is, and `MonitorAt.step` what its next call is and where it is then;
the proofs about runs use these two and not the text of the loop.  `eventLoop n` is a monitor that lives for
`n` events.
-/

namespace Dmanager
namespace Docker

open Go Db Lib Server Container
open Program (perform)

variable {ε : Type}

/-! ## The source -/

/-- The row that an inspection amounts to. -/
def eventParams (containerID : GoString) (inspect : ContainerInspect) : UpsertContainerFromEventParams where
  id := containerID
  name := trimPrefix inspect.name (str "/")
  image := inspect.config.image
  imageID := inspect.image
  state := inspect.status

/-- The actions on which the monitor deletes the row. -/
def Removes (action : Action) : Prop := action = .destroy ∨ action = .delete

/-- The actions on which the monitor inspects the container. -/
def Refreshes (action : Action) : Prop :=
  action = .create ∨ action = .start ∨ action = .stop ∨ action = .die ∨ action = .update

instance : DecidablePred Removes := fun _ => inferInstanceAs (Decidable (_ ∨ _))

instance : DecidablePred Refreshes := fun _ => inferInstanceAs (Decidable (_ ∨ _))

/-- The branch of a destroyed container; the streams are told unless the statement fails. -/
def removeRow (containerID : GoString) : Program Call Answer ε Unit := do
  let answer ← perform (Call.deleteContainer containerID)
  match answer with
  | .ok _ => perform (Call.publishDelete containerID)
  | .error _ => .done ()

/-- The second half of the other branch. -/
def upsertRow (arg : UpsertContainerFromEventParams) : Program Call Answer ε Unit := do
  let answer ← perform (Call.upsertContainerFromEvent arg)
  match answer with
  | .ok _ => publishRow arg.id
  | .error _ => .done ()

/-- The branch of a container whose state has changed. -/
def refreshRow (containerID : GoString) : Program Call Answer ε Unit := do
  let answer ← perform (Call.containerInspect containerID)
  match answer with
  | .ok inspect => upsertRow (eventParams containerID inspect)
  | .error _ => .done ()

/-- `handleEvent`. -/
def handleEvent (event : Message) : Program Call Answer ε Unit :=
  if event.actorID = [] then .done ()
  else if Removes event.action then removeRow event.actorID
  else if Refreshes event.action then refreshRow event.actorID
  else .done ()

/-- The loop of `StartEventMonitor`, for `n` events. -/
def eventLoop : Nat → Program Call Answer ε Unit
  | 0 => .done ()
  | n + 1 => do
    let event ← perform .receiveEvent
    handleEvent event
    eventLoop n

/-! ## Where the monitor is -/

/-- What the monitor is about to do to the table. -/
inductive Phase where
  | quiet
  | deleting (containerID : GoString)
  | inspecting (containerID : GoString)
  | upserting (arg : UpsertContainerFromEventParams)
  deriving DecidableEq, Repr

/-- The rest of the monitor in a phase.  It is quiet while it waits for an event and while it tells the
streams. -/
inductive MonitorAt : Phase → Program Call Answer ε Unit → Prop where
  | idle (n : Nat) : MonitorAt .quiet (eventLoop n)
  | publishDelete (id : GoString) (n : Nat) :
      MonitorAt .quiet (perform (Call.publishDelete id) >>= fun _ => eventLoop n)
  | reread (id : GoString) (n : Nat) : MonitorAt .quiet (publishRow id >>= fun _ => eventLoop n)
  | publishSave (row : Db.Container) (n : Nat) :
      MonitorAt .quiet (perform (Call.publishSave row) >>= fun _ => eventLoop n)
  | deleting (id : GoString) (n : Nat) : MonitorAt (.deleting id) (removeRow id >>= fun _ => eventLoop n)
  | inspecting (id : GoString) (n : Nat) :
      MonitorAt (.inspecting id) (refreshRow id >>= fun _ => eventLoop n)
  | upserting (arg : UpsertContainerFromEventParams) (n : Nat) :
      MonitorAt (.upserting arg) (upsertRow arg >>= fun _ => eventLoop n)

/-- The phase that an event leads to. -/
def phaseOf (event : Message) : Phase :=
  if event.actorID = [] then .quiet
  else if Removes event.action then .deleting event.actorID
  else if Refreshes event.action then .inspecting event.actorID
  else .quiet

/-- One call of the monitor. -/
inductive PhaseStep : Phase → CallEvent → Phase → Prop where
  | receive (message : Message) : PhaseStep .quiet ⟨.receiveEvent, message⟩ (phaseOf message)
  | publishDelete (id : GoString) (u : Unit) : PhaseStep .quiet ⟨.publishDelete id, u⟩ .quiet
  | reread (id : GoString) (answer : Answer (.getContainer id)) :
      PhaseStep .quiet ⟨.getContainer id, answer⟩ .quiet
  | publishSave (row : Db.Container) (u : Unit) : PhaseStep .quiet ⟨.publishSave row, u⟩ .quiet
  | delete (id : GoString) (answer : Answer (.deleteContainer id)) :
      PhaseStep (.deleting id) ⟨.deleteContainer id, answer⟩ .quiet
  | inspect (id : GoString) (inspect : ContainerInspect) :
      PhaseStep (.inspecting id) ⟨.containerInspect id, .ok inspect⟩ (.upserting (eventParams id inspect))
  | missing (id : GoString) (err : DockerError) :
      PhaseStep (.inspecting id) ⟨.containerInspect id, .error err⟩ .quiet
  | upsert (arg : UpsertContainerFromEventParams) (answer : Answer (.upsertContainerFromEvent arg)) :
      PhaseStep (.upserting arg) ⟨.upsertContainerFromEvent arg, answer⟩ .quiet

/-- An event is received before the container is inspected. -/
theorem phaseOf_ne_upserting (event : Message) (arg : UpsertContainerFromEventParams) :
    phaseOf event ≠ .upserting arg := by
  unfold phaseOf
  split
  · nofun
  · split
    · nofun
    · split
      · nofun
      · nofun

theorem monitorAt_handleEvent (event : Message) (n : Nat) :
    MonitorAt (phaseOf event) (handleEvent event >>= fun _ => eventLoop n : Program Call Answer ε Unit) := by
  unfold phaseOf handleEvent
  split
  · exact .idle n
  · split
    · exact .deleting event.actorID n
    · split
      · exact .inspecting event.actorID n
      · exact .idle n

/-- The next call of the monitor, and where it is after it. -/
theorem MonitorAt.step {phase : Phase} {p : Program Call Answer ε Unit} {event : CallEvent}
    {rest : Answer event.op → Program Call Answer ε Unit} (hat : MonitorAt phase p)
    (hcall : p = .call event.op rest) :
    ∃ next, PhaseStep phase event next ∧ MonitorAt next (rest event.answer) := by
  obtain ⟨op, answer⟩ := event
  cases hat with
  | idle n =>
      cases n with
      | zero => cases hcall
      | succ n =>
          cases hcall
          exact ⟨_, .receive answer, monitorAt_handleEvent answer n⟩
  | publishDelete id n =>
      cases hcall
      exact ⟨_, .publishDelete id answer, .idle n⟩
  | reread id n =>
      cases hcall
      refine ⟨_, .reread id answer, ?_⟩
      cases answer with
      | ok row => exact .publishSave row n
      | error err => exact .idle n
  | publishSave row n =>
      cases hcall
      exact ⟨_, .publishSave row answer, .idle n⟩
  | deleting id n =>
      cases hcall
      refine ⟨_, .delete id answer, ?_⟩
      cases answer with
      | ok u => exact .publishDelete id n
      | error err => exact .idle n
  | inspecting id n =>
      cases hcall
      cases answer with
      | ok inspect => exact ⟨_, .inspect id inspect, .upserting (eventParams id inspect) n⟩
      | error err => exact ⟨_, .missing id err, .idle n⟩
  | upserting arg n =>
      cases hcall
      refine ⟨_, .upsert arg answer, ?_⟩
      cases answer with
      | ok u => exact .reread arg.id n
      | error err => exact .idle n

/-! ## The monitor beside other programs -/

/-- The monitor and the programs it runs beside, before their first call; the index `none` is the monitor. -/
def withMonitor {ι : Type} (n : Nat) (programs : ι → Program Call Answer ε Unit) (b : Backend) :
    Config (Option ι) Backend Call Answer ε Unit :=
  Config.start b fun
    | none => eventLoop n
    | some i => programs i

/-- A destroy event that is received is that of a container that is gone. -/
theorem gone_of_phaseOf {host : Host} {message : Message} {queue : List Message} {id : GoString}
    (hcoherent : host.Coherent) (hqueue : host.queue = message :: queue)
    (hphase : phaseOf message = .deleting id) : Gone host id := by
  obtain ⟨action, actorID⟩ := message
  have hmem : (⟨action, actorID⟩ : Message) ∈ host.queue := hqueue ▸ List.mem_cons_self
  unfold phaseOf at hphase
  split at hphase
  · cases hphase
  · split at hphase
    · rename_i hremoves
      cases hphase
      rcases hremoves with hdestroy | hdelete
      · simp only at hdestroy
        subst hdestroy
        exact hcoherent.gone actorID hmem
      · simp only at hdelete
        subst hdelete
        exact absurd hmem (hcoherent.never_delete actorID)
    · split at hphase
      · cases hphase
      · cases hphase

section Calls

variable {imageID : GoString → GoString} {faults : Call → Bool} {phase after : Phase} {event : CallEvent}

/-- The monitor is about to delete a row only when the container is gone. -/
theorem gone_of_deleting {b shared : Backend} {id : GoString} (hcoherent : b.host.Coherent)
    (hphase : PhaseStep phase event after) (hanswer : b.answer imageID faults event = some shared)
    (hafter : after = .deleting id) : Gone shared.host id := by
  cases hphase with
  | receive message =>
      obtain ⟨queue, hqueue, -⟩ := host_of_answer hanswer
      rcases queueAfter_cases hqueue with ⟨other, heq, hcons⟩ | ⟨hother, -⟩
      · cases heq
        exact gone_of_answer (gone_of_phaseOf hcoherent hcons hafter) hanswer
      · exact absurd rfl (hother message)
  | _ => cases hafter

/-- The monitor cannot inspect a container that is gone, so it does not write its row. -/
theorem ne_of_upserting {b shared : Backend} {id : GoString} {arg : UpsertContainerFromEventParams}
    (hgone : Gone b.host id) (hphase : PhaseStep phase event after)
    (hanswer : b.answer imageID faults event = some shared) (hafter : after = .upserting arg) :
    arg.id ≠ id := by
  cases hphase with
  | receive message => exact absurd hafter (phaseOf_ne_upserting message arg)
  | inspect inspected inspect =>
      cases hafter
      intro hsame
      have hthere : b.host.containers inspected = some inspect := by
        simpa [allowed] using (answer_eq_some hanswer).1
      have hnone : b.host.containers inspected = none := by
        have hid : inspected = id := hsame
        rw [hid]
        exact hgone.2
      rw [hthere] at hnone
      cases hnone
  | _ => cases hafter

end Calls

end Docker
end Dmanager
