import Dmanager.Docker.DestroyRace
import Dmanager.Docker.Mirror

/-!
# The order of the events around a destruction

The monitor handles the events one at a time and in order.  `DestroyLast` says that everything which waits
before the destroy event of a container is about that container; then, as long as the destroy event has not
been handled (`DestroyPending`), the monitor has not looked at any other container.  `Removed` adds that the
container is gone from the host and that its row is gone once the event has been handled.

The lemmas of this module say that a call of the monitor keeps all this, and what it does to a row.
-/

namespace Dmanager
namespace Docker

open Go Db Lib Server Container

/-- The container that the monitor deals with. -/
def Phase.id? : Phase → Option GoString
  | .quiet => none
  | .deleting containerID => some containerID
  | .inspecting containerID => some containerID
  | .upserting arg => some arg.id

/-- What waits before the destroy event of the container, and what the monitor does in the meantime, is about
the container, and no other destroy event of it. -/
structure DestroyLast (b : Backend) (phase : Phase) (id : GoString) : Prop where
  queue : b.host.queue.Pairwise fun earlier later =>
    later = ⟨.destroy, id⟩ → earlier.actorID = id ∧ earlier ≠ ⟨.destroy, id⟩
  phase : ⟨.destroy, id⟩ ∈ b.host.queue → phase ≠ .deleting id ∧ ∀ other ∈ phase.id?, other = id

/-- The container is gone, and its row will be or is too. -/
structure Removed (b : Backend) (phase : Phase) (id : GoString) : Prop where
  last : DestroyLast b phase id
  gone : Gone b.host id
  clean : ¬ DestroyPending b phase id → b.containers.getContainer id = none ∧ ¬ phase.Writes id

/-- The rows of the table, and the one that the monitor is about to write, are of containers whose ids Docker
has handed out. -/
def RowsUsed (b : Backend) (phase : Phase) : Prop :=
  ∀ id, b.containers.getContainer id ≠ none ∨ phase.Writes id → id ∈ b.host.used

variable {imageID : GoString → GoString} {faults : Call → Bool} {b next : Backend} {phase after : Phase}
variable {event : CallEvent} {id : GoString} {row : Db.Container} {containers : Containers} {now : Int}

/-! ## The events that wait -/

theorem id?_phaseOf (message : Message) {other : GoString} (hother : other ∈ (phaseOf message).id?) :
    other = message.actorID := by
  unfold phaseOf at hother
  split at hother
  · cases hother
  · split at hother
    · simpa [Phase.id?, eq_comm] using hother
    · split at hother
      · simpa [Phase.id?, eq_comm] using hother
      · cases hother

theorem phaseOf_eq_deleting {message : Message} (hphase : phaseOf message = .deleting id) :
    message = ⟨.destroy, id⟩ ∨ message = ⟨.delete, id⟩ := by
  obtain ⟨action, actorID⟩ := message
  unfold phaseOf at hphase
  split at hphase
  · cases hphase
  · split at hphase
    · rename_i hremoves
      cases hphase
      rcases hremoves with hdestroy | hdelete
      · exact Or.inl (by rw [← hdestroy])
      · exact Or.inr (by rw [← hdelete])
    · split at hphase
      · cases hphase
      · cases hphase

/-- Between two events the monitor goes on with the same container, or is quiet. -/
theorem id?_of_phaseStep (id : GoString) (hphase : PhaseStep phase event after)
    (hother : ∀ message, event ≠ ⟨.receiveEvent, message⟩) :
    after ≠ .deleting id ∧ ∀ other ∈ after.id?, other ∈ phase.id? := by
  cases hphase with
  | receive message => exact absurd rfl (hother message)
  | inspect target inspect => exact ⟨nofun, fun other hmem => hmem⟩
  | _ => simp [Phase.id?]

/-- The monitor receives an event, or goes on. -/
theorem destroyLast_of_phaseStep (hcoherent : b.host.Coherent) (hlast : DestroyLast b phase id)
    (hphase : PhaseStep phase event after) (hanswer : b.answer imageID faults event = some next) :
    DestroyLast next after id := by
  obtain ⟨-, ⟨message, rfl, hcons⟩ | ⟨hother, hsame⟩⟩ := host_of_phaseStep hphase hanswer
  · have hordered := hlast.queue
    rw [hcons, List.pairwise_cons] at hordered
    refine ⟨hordered.2, fun hmem => ?_⟩
    -- the destroy event still waits, so the one received before it is about the container
    obtain ⟨hactor, hne⟩ := hordered.1 _ hmem rfl
    have hnever : message ≠ ⟨.delete, id⟩ := by
      rintro rfl
      exact hcoherent.never_delete id (hcons ▸ List.mem_cons_self)
    cases hphase
    constructor
    · intro hdeleting
      rcases phaseOf_eq_deleting hdeleting with hdestroy | hdelete
      · exact hne hdestroy
      · exact hnever hdelete
    · intro other hmem
      rw [id?_phaseOf message hmem, hactor]
  · constructor
    · rw [hsame]
      exact hlast.queue
    · rw [hsame]
      intro hmem
      obtain ⟨hne, hids⟩ := id?_of_phaseStep id hphase hother
      exact ⟨hne, fun other hmem' => (hlast.phase hmem).2 other (hids other hmem')⟩

/-- If the destroy event is still to be handled after a call, it was so before, and the monitor was not about
to handle it. -/
theorem pending_of_phaseStep (hcoherent : b.host.Coherent) (hphase : PhaseStep phase event after)
    (hanswer : b.answer imageID faults event = some next) (hpending : DestroyPending next after id) :
    ⟨.destroy, id⟩ ∈ b.host.queue := by
  obtain ⟨-, ⟨message, rfl, hcons⟩ | ⟨hother, hsame⟩⟩ := host_of_phaseStep hphase hanswer
  · rw [hcons, List.mem_cons]
    rcases hpending with hmem | hdeleting
    · exact Or.inr hmem
    · cases hphase
      rcases phaseOf_eq_deleting hdeleting with rfl | rfl
      · exact Or.inl rfl
      · exact absurd (hcons ▸ List.mem_cons_self) (hcoherent.never_delete id)
  · rcases hpending with hmem | hdeleting
    · rw [← hsame]
      exact hmem
    · exact absurd hdeleting (id?_of_phaseStep id hphase hother).1

/-! ## The rows -/

/-- The monitor does not touch the settings of a container, unless it deletes the row. -/
theorem settings_of_phaseStep (now : Int) (hphase : PhaseStep phase event after)
    (hdeleting : phase ≠ .deleting id) (hrow : containers.getContainer id = some row) :
    ∃ written, (tableAfter containers now event).getContainer id = some written ∧
      settingsOf written = settingsOf row := by
  cases hphase with
  | delete target answer =>
      have hne : id ≠ target := by
        rintro rfl
        exact hdeleting rfl
      cases answer with
      | ok u =>
          refine ⟨row, ?_, rfl⟩
          show (containers.delete target).get? id = some row
          rw [KeyedTable.get?_delete, if_neg hne]
          exact hrow
      | error err => exact ⟨row, hrow, rfl⟩
  | upsert arg answer =>
      cases answer with
      | ok u =>
          show ∃ written, (containers.upsertContainerFromEvent arg now).get? id = some written ∧ _
          rw [Containers.get?_upsertContainerFromEvent]
          by_cases hid : id = arg.id
          · subst hid
            rw [if_pos rfl, show containers.get? arg.id = some row from hrow]
            exact ⟨_, rfl, rfl⟩
          · rw [if_neg hid]
            exact ⟨row, hrow, rfl⟩
      | error err => exact ⟨row, hrow, rfl⟩
  | reread target answer =>
      cases answer with
      | ok other => exact ⟨row, hrow, rfl⟩
      | error err => exact ⟨row, hrow, rfl⟩
  | _ => exact ⟨row, hrow, rfl⟩

/-- The monitor removes the row on the destroy event, and does not bring it back. -/
theorem removed_of_phaseStep (hcoherent : b.host.Coherent) (hremoved : Removed b phase id)
    (hfaults : faults (.deleteContainer id) = false) (hphase : PhaseStep phase event after)
    (hanswer : b.answer imageID faults event = some next) : Removed next after id := by
  refine ⟨destroyLast_of_phaseStep hcoherent hremoved.last hphase hanswer,
    gone_of_answer hremoved.gone hanswer, fun hhandled => ⟨?_, ?_⟩⟩
  · obtain ⟨hallowed, htable, -⟩ := answer_eq_some hanswer
    rw [htable]
    by_cases hdeleting : phase = .deleting id
    · subst hdeleting
      cases hphase
      exact getContainer_of_delete hfaults hallowed
    · -- nothing was to be handled before this call either
      have hbefore : ¬ DestroyPending b phase id := by
        rintro (hmem | hphase')
        · apply hhandled
          obtain ⟨-, ⟨message, rfl, hcons⟩ | ⟨-, hsame⟩⟩ := host_of_phaseStep hphase hanswer
          · have hid : id ≠ [] := by
              rintro rfl
              exact hcoherent.ids_ne_nil hremoved.gone.1
            rw [hcons, List.mem_cons] at hmem
            rcases hmem with rfl | hleft
            · cases hphase
              exact Or.inr (phaseOf_destroy hid)
            · exact Or.inl hleft
          · exact Or.inl (hsame ▸ hmem)
        · exact hdeleting hphase'
      obtain ⟨hrow, hwrites⟩ := hremoved.clean hbefore
      exact getContainer_of_phaseStep hphase (fun arg harg hid => hwrites ⟨arg, harg, hid⟩) hrow
  · rintro ⟨arg, hafter, hid⟩
    exact ne_of_upserting hremoved.gone hphase hanswer hafter hid

theorem rowsUsed_of_phaseStep (hcoherent : b.host.Coherent) (hrows : RowsUsed b phase)
    (hphase : PhaseStep phase event after) (hanswer : b.answer imageID faults event = some next) :
    RowsUsed next after := by
  obtain ⟨queue, -, hhost⟩ := host_eq_of_phaseStep hphase hanswer
  obtain ⟨hallowed, htable, -⟩ := answer_eq_some hanswer
  intro id hid
  rw [hhost]
  show id ∈ b.host.used
  by_contra hunused
  have hbefore : b.containers.getContainer id = none ∧ ¬ phase.Writes id := by
    constructor
    · by_contra hrow
      exact hunused (hrows id (Or.inl hrow))
    · intro hwrites
      exact hunused (hrows id (Or.inr hwrites))
  rcases hid with hrow | ⟨arg, hafter, rfl⟩
  · apply hrow
    rw [htable]
    exact getContainer_of_phaseStep hphase (fun arg harg hid => hbefore.2 ⟨arg, harg, hid⟩) hbefore.1
  · -- a container that the monitor has seen has an id that was handed out
    cases hphase with
    | receive message => exact phaseOf_ne_upserting message arg hafter
    | inspect target inspect =>
        cases hafter
        have hthere : b.host.containers target = some inspect := by simpa [allowed] using hallowed
        exact hunused (hcoherent.used target (by simp [hthere]))
    | _ => cases hafter

/-! ## What happens on the host meanwhile -/

variable {action : HostAction}

theorem used_of_perform {host after : Host} (hperform : host.perform action = some after)
    (hused : id ∈ host.used) : id ∈ after.used := by
  rcases perform_cases hperform with ⟨_, _, -, -, -, rfl⟩ | ⟨_, -, -, rfl⟩
  · exact List.mem_cons_of_mem _ hused
  · exact hused

theorem pending_of_perform (hperform : b.host.perform action = some next.host)
    (hother : ⟨.destroy, id⟩ ∉ action.messages) :
    DestroyPending next phase id ↔ DestroyPending b phase id := by
  simp [DestroyPending, queue_of_perform hperform, hother]

/-- Only the destruction of the container puts another destroy event of it behind the others. -/
theorem Removed.perform (hremoved : Removed b phase id) (hperform : b.host.perform action = some next.host)
    (htable : next.containers = b.containers) (hother : ⟨.destroy, id⟩ ∉ action.messages) :
    Removed next phase id := by
  refine ⟨⟨?_, ?_⟩, hremoved.gone.perform hperform, ?_⟩
  · rw [queue_of_perform hperform, List.pairwise_append]
    refine ⟨hremoved.last.queue, ?_, ?_⟩
    · apply List.pairwise_of_forall_mem_list
      intro earlier _ later hlater hdestroy
      exact absurd (hdestroy ▸ hlater) hother
    · intro earlier _ later hlater hdestroy
      exact absurd (hdestroy ▸ hlater) hother
  · intro hmem
    rw [queue_of_perform hperform, List.mem_append] at hmem
    exact hremoved.last.phase (hmem.resolve_right hother)
  · intro hhandled
    rw [pending_of_perform hperform hother] at hhandled
    rw [htable]
    exact hremoved.clean hhandled

/-- A statement leaves the host alone. -/
theorem Removed.of_host_eq (hremoved : Removed b phase id) (hhost : next.host = b.host)
    (hrow : ¬ DestroyPending b phase id → next.containers.getContainer id = none) :
    Removed next phase id := by
  refine ⟨⟨hhost ▸ hremoved.last.queue, hhost ▸ hremoved.last.phase⟩, hhost ▸ hremoved.gone, fun hhandled => ?_⟩
  rw [DestroyPending, hhost] at hhandled
  exact ⟨hrow hhandled, (hremoved.clean hhandled).2⟩

/-- The container is destroyed after events that are all about it. -/
theorem removed_of_destroy (hcoherent : next.host.Coherent)
    (hqueue : ∀ message ∈ b.host.queue, message.actorID = id ∧ message ≠ ⟨.destroy, id⟩)
    (hphase : phase ≠ .deleting id ∧ ∀ other ∈ phase.id?, other = id)
    (hperform : b.host.perform (.destroy id) = some next.host) : Removed next phase id := by
  have hmem : (⟨.destroy, id⟩ : Message) ∈ next.host.queue := by
    rw [queue_of_perform hperform]
    exact List.mem_append_right _ (List.mem_singleton_self _)
  refine ⟨⟨?_, fun _ => hphase⟩, hcoherent.gone id hmem, fun hhandled => absurd (Or.inl hmem) hhandled⟩
  rw [queue_of_perform hperform, List.pairwise_append]
  refine ⟨?_, List.pairwise_singleton _ _, fun earlier hearlier later _ _ => hqueue earlier hearlier⟩
  apply List.pairwise_of_forall_mem_list
  intro earlier hearlier later _ _
  exact hqueue earlier hearlier

theorem RowsUsed.perform (hrows : RowsUsed b phase) (hperform : b.host.perform action = some next.host)
    (htable : next.containers = b.containers) : RowsUsed next phase := by
  intro id hid
  rw [htable] at hid
  exact used_of_perform hperform (hrows id hid)

end Docker
end Dmanager
