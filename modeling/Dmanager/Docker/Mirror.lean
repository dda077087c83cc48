import Dmanager.Docker.Monitor

/-!
# The table mirrors the host

The event monitor alone, while anything happens on the host in any order and at any moment, between the
inspection and the write of the monitor too.  When the host is at rest and every event has been handled, the
table has the containers of the host with their names and states, provided that no change has escaped the
monitor: it does not act on the events `pause`, `unpause` and `rename`, so such a change is seen only if the
container emits a later event on which the monitor inspects it (`Followed`).

The invariant (`MirrorInv`) says for each id why its row is right or will be: the row matches the container;
or the monitor is about to write what it is; or an event is on its way that makes it look again; or the steps
to come have one (`Settled`).
-/

namespace Dmanager
namespace Docker

open Go Db Lib Server Container

/-! ## The mirror -/

/-- The name and the state of a container, as the table has them. -/
def rowView (row : Db.Container) : GoString × GoString := (row.name, row.state)

/-- The name and the state of a container on the host. -/
def containerView (container : ContainerInspect) : GoString × GoString :=
  (trimPrefix container.name (str "/"), container.status)

/-- The table has the containers of the host, each with its name and state. -/
def Mirrors (b : Backend) : Prop :=
  ∀ id, (b.containers.getContainer id).map rowView = (b.host.containers id).map containerView

/-- The monitor alone. -/
abbrev MonitorConfig := Config Unit Backend Call Answer ConnectError Unit

def monitorStart (n : Nat) (b : Backend) : MonitorConfig := Config.start b fun _ => eventLoop n

/-- A step of the host or of the monitor. -/
abbrev MonitorLabel := Label Unit Happening Call Answer

/-- The actions whose events the monitor ignores. -/
def HostAction.Unseen : HostAction → Prop
  | .pause _ => True
  | .unpause _ => True
  | .rename _ _ => True
  | _ => False

/-- The steps have an action on the container that the monitor acts on. -/
def Promised (labels : List MonitorLabel) (id : GoString) : Prop :=
  ∃ action, .env (.host action) ∈ labels ∧ action.id = id ∧ ¬ action.Unseen

/-- Every action that the monitor ignores is followed by one on the same container that it does not. -/
def Followed : List MonitorLabel → Prop
  | [] => True
  | .env (.host action) :: rest => (action.Unseen → Promised rest action.id) ∧ Followed rest
  | _ :: rest => Followed rest

/-! ## Why the row of an id is right, or will be -/

/-- The monitor is about to write the row of the container. -/
def Phase.Writes (phase : Phase) (id : GoString) : Prop := ∃ arg, phase = .upserting arg ∧ arg.id = id

/-- The row will be deleted. -/
def DestroyPending (b : Backend) (phase : Phase) (id : GoString) : Prop :=
  ⟨.destroy, id⟩ ∈ b.host.queue ∨ phase = .deleting id

/-- A container that is gone has no row, and the monitor is not about to write one; or the row will be deleted. -/
def GoneSettled (b : Backend) (phase : Phase) (id : GoString) : Prop :=
  b.host.containers id = none →
    (b.containers.getContainer id = none ∧ ¬ phase.Writes id) ∨ DestroyPending b phase id

/-- The container will be inspected. -/
def RefreshPending (b : Backend) (phase : Phase) (id : GoString) : Prop :=
  (∃ action, ⟨action, id⟩ ∈ b.host.queue ∧ Refreshes action) ∨ phase = .inspecting id

structure Settled (rest : List MonitorLabel) (b : Backend) (phase : Phase) (id : GoString) : Prop where
  gone : b.host.containers id = none →
    (b.containers.getContainer id = none ∧ ¬ phase.Writes id) ∨ DestroyPending b phase id
  there : ∀ container, b.host.containers id = some container →
    Promised rest id ∨ RefreshPending b phase id ∨
      (∃ arg, phase = .upserting arg ∧ arg.id = id ∧ (arg.name, arg.state) = containerView container) ∨
      (¬ phase.Writes id ∧ (b.containers.getContainer id).map rowView = some (containerView container))

structure MirrorInv (rest : List MonitorLabel) (c : MonitorConfig) : Prop where
  coherent : c.shared.host.Coherent
  followed : Followed rest
  phase : ∃ phase, MonitorAt phase (c.threads ()) ∧ (∀ id, phase = .deleting id → Gone c.shared.host id) ∧
    ∀ id, Settled rest c.shared phase id

/-! ## Steps of the host -/

variable {rest : List MonitorLabel} {b next : Backend} {phase after : Phase} {id : GoString}
variable {action : HostAction} {event : CallEvent} {c next' : MonitorConfig}

/-- An action that the monitor acts on emits an event on which it inspects the container, unless it is the
destruction of the container. -/
theorem refreshes_of_seen (hseen : ¬ action.Unseen) (hdestroy : action ≠ .destroy action.id) :
    ∃ kind ∈ action.emits, Refreshes kind := by
  cases action with
  | destroy id => exact absurd rfl hdestroy
  | pause id => exact absurd trivial hseen
  | unpause id => exact absurd trivial hseen
  | rename id name => exact absurd trivial hseen
  | create id container => exact ⟨.create, by simp [HostAction.emits], by decide⟩
  | start id => exact ⟨.start, by simp [HostAction.emits], by decide⟩
  | stop id => exact ⟨.die, by simp [HostAction.emits], by decide⟩
  | die id => exact ⟨.die, by simp [HostAction.emits], by decide⟩
  | restart id => exact ⟨.start, by simp [HostAction.emits], by decide⟩
  | update id hostConfig => exact ⟨.update, by simp [HostAction.emits], by decide⟩

/-- An action leaves the other containers alone. -/
theorem containers_of_perform {host after : Host} (hperform : host.perform action = some after)
    (hother : id ≠ action.id) : after.containers id = host.containers id := by
  rcases perform_cases hperform with ⟨new, container, rfl, -, -, rfl⟩ | ⟨container, -, -, rfl⟩
  · simp only [HostAction.id] at hother
    simp [hother]
  · simp [hother]

theorem queue_of_perform {host after : Host} (hperform : host.perform action = some after) :
    after.queue = host.queue ++ action.messages := by
  rcases perform_cases hperform with ⟨_, _, -, -, -, rfl⟩ | ⟨_, -, -, rfl⟩
  · rfl
  · rfl

/-- Nothing that was on its way gets lost. -/
theorem Settled.of_other {host : Host} (hsettled : Settled (.env (.host action) :: rest) b phase id)
    (hperform : b.host.perform action = some host) (hother : id ≠ action.id) :
    Settled rest { b with host := host } phase id := by
  have hsame := containers_of_perform hperform hother
  have hmem : ∀ message ∈ b.host.queue, message ∈ host.queue := by
    intro message hmessage
    rw [queue_of_perform hperform]
    exact List.mem_append_left _ hmessage
  constructor
  · intro hnone
    rcases hsettled.gone (hsame ▸ hnone) with hclean | hqueue | hdeleting
    · exact Or.inl hclean
    · exact Or.inr (Or.inl (hmem _ hqueue))
    · exact Or.inr (Or.inr hdeleting)
  · intro container hsome
    rcases hsettled.there container (hsame ▸ hsome) with hpromised | hrefresh | hwrites | hmatches
    · -- the promised action is not this one, which is about another container
      obtain ⟨promised, hlabel, hid, hseen⟩ := hpromised
      rcases List.mem_cons.mp hlabel with heq | hrest
      · cases heq
        exact absurd hid.symm hother
      · exact Or.inl ⟨promised, hrest, hid, hseen⟩
    · rcases hrefresh with ⟨kind, hqueue, hkind⟩ | hinspecting
      · exact Or.inr (Or.inl (Or.inl ⟨kind, hmem _ hqueue, hkind⟩))
      · exact Or.inr (Or.inl (Or.inr hinspecting))
    · exact Or.inr (Or.inr (Or.inl hwrites))
    · exact Or.inr (Or.inr (Or.inr hmatches))

/-- Only its destruction removes a container. -/
theorem containers_self_of_perform {host after : Host} (hperform : host.perform action = some after) :
    after.containers action.id = none ↔ action = .destroy action.id := by
  rcases perform_cases hperform with ⟨new, container, rfl, -, -, rfl⟩ | ⟨container, hcreate, -, rfl⟩
  · simp [HostAction.id]
  · cases action with
    | create id created => exact absurd rfl (hcreate id created)
    | _ => simp [HostAction.id, HostAction.change]

/-- The container that the action is about: the monitor will hear of the action, or of a later one. -/
theorem settled_of_perform {host : Host} (hperform : b.host.perform action = some host)
    (hfollowed : action.Unseen → Promised rest action.id) :
    Settled rest { b with host := host } phase action.id := by
  have hmem : ∀ kind ∈ action.emits, (⟨kind, action.id⟩ : Message) ∈ host.queue := by
    intro kind hkind
    rw [queue_of_perform hperform]
    exact List.mem_append_right _ (mem_messages.mpr ⟨hkind, rfl⟩)
  constructor
  · intro hnone
    have hdestroy := (containers_self_of_perform hperform).mp hnone
    refine Or.inr (Or.inl (hmem .destroy ?_))
    rw [hdestroy]
    exact List.mem_singleton_self _
  · intro container hsome
    have hdestroy : action ≠ .destroy action.id := by
      intro heq
      have hnone := (containers_self_of_perform hperform).mpr heq
      rw [show host.containers action.id = some container from hsome] at hnone
      cases hnone
    by_cases hunseen : action.Unseen
    · exact Or.inl (hfollowed hunseen)
    · obtain ⟨kind, hkind, hrefreshes⟩ := refreshes_of_seen hunseen hdestroy
      exact Or.inr (Or.inl (Or.inl ⟨kind, hmem kind hkind, hrefreshes⟩))

theorem mirrorInv_env {e : Happening} (hinv : MirrorInv (.env e :: rest) c)
    (hhappen : c.shared.happen e = some next) : MirrorInv rest { c with shared := next } := by
  obtain ⟨phase, hat, hdeleting, hsettled⟩ := hinv.phase
  have hfollowed := hinv.followed
  cases e with
  | host action =>
      obtain ⟨host, hperform, rfl⟩ := Option.map_eq_some_iff.mp hhappen
      refine ⟨hinv.coherent.perform hperform, hfollowed.2, phase, hat, ?_, ?_⟩
      · intro id hphase
        exact (hdeleting id hphase).perform hperform
      · intro id
        by_cases hid : id = action.id
        · rw [hid]
          exact settled_of_perform hperform hfollowed.1
        · exact (hsettled id).of_other hperform hid
  | tick now =>
      simp only [Backend.happen] at hhappen
      split at hhappen
      · cases hhappen
        refine ⟨hinv.coherent, hfollowed, phase, hat, hdeleting, fun id => ⟨(hsettled id).gone, ?_⟩⟩
        intro container hsome
        rcases (hsettled id).there container hsome with ⟨action, hlabel, hid, hseen⟩ | hother
        · exact Or.inl ⟨action, by simpa using hlabel, hid, hseen⟩
        · exact Or.inr hother
      · cases hhappen

/-! ## Steps of the monitor -/

/-- The monitor changes nothing on the host but the events that wait for it. -/
theorem host_eq_of_phaseStep {imageID : GoString → GoString} {faults : Call → Bool}
    (hphase : PhaseStep phase event after) (hanswer : b.answer imageID faults event = some next) :
    ∃ queue, queueAfter b.host.queue event = some queue ∧ next.host = { b.host with queue := queue } := by
  obtain ⟨queue, hqueue, hhost⟩ := host_of_answer hanswer
  have hnone : hostActions imageID { b.host with queue := queue } event = [] := by
    cases hphase with
    | _ => rfl
  rw [hostAfter, hnone, exec_nil, Option.some.injEq] at hhost
  exact ⟨queue, hqueue, hhost.symm⟩

theorem host_of_phaseStep {imageID : GoString → GoString} {faults : Call → Bool}
    (hphase : PhaseStep phase event after) (hanswer : b.answer imageID faults event = some next) :
    next.host.containers = b.host.containers ∧
      ((∃ message, event = ⟨.receiveEvent, message⟩ ∧ b.host.queue = message :: next.host.queue) ∨
        ((∀ message, event ≠ ⟨.receiveEvent, message⟩) ∧ next.host.queue = b.host.queue)) := by
  obtain ⟨queue, hqueue, hhost⟩ := host_eq_of_phaseStep hphase hanswer
  rw [hhost]
  exact ⟨rfl, queueAfter_cases hqueue⟩

/-- A call of the monitor promises nothing about the host. -/
theorem Settled.of_call (hsettled : Settled (.call () event :: rest) b phase id) :
    Settled rest b phase id := by
  refine ⟨hsettled.gone, fun container hsome => ?_⟩
  rcases hsettled.there container hsome with ⟨action, hlabel, hid, hseen⟩ | hother
  · exact Or.inl ⟨action, by simpa using hlabel, hid, hseen⟩
  · exact Or.inr hother

theorem phaseOf_destroy (hid : id ≠ []) : phaseOf ⟨.destroy, id⟩ = .deleting id := by
  simp [phaseOf, hid, Removes]

theorem phaseOf_refreshes {kind : Action} (hid : id ≠ []) (hkind : Refreshes kind) :
    phaseOf ⟨kind, id⟩ = .inspecting id := by
  have hremoves : ¬ Removes kind := by
    rcases hkind with rfl | rfl | rfl | rfl | rfl
    all_goals decide
  simp [phaseOf, hid, hremoves, hkind]

theorem not_writes_phaseOf (message : Message) : ¬ (phaseOf message).Writes id := by
  rintro ⟨arg, hphase, -⟩
  exact phaseOf_ne_upserting message arg hphase

theorem not_writes_quiet : ¬ Phase.quiet.Writes id := by
  rintro ⟨arg, hphase, -⟩
  cases hphase

/-! A container that is gone stays settled. -/

section GoneSettled

variable {target : GoString}

theorem GoneSettled.receive {message : Message} (hsettled : GoneSettled b .quiet id) (hcoherent : b.host.Coherent)
    (hcontainers : next.host.containers = b.host.containers) (hqueue : b.host.queue = message :: next.host.queue)
    (htable : next.containers = b.containers) : GoneSettled next (phaseOf message) id := by
  intro hnone
  rw [hcontainers] at hnone
  rcases hsettled hnone with ⟨hrow, -⟩ | hmem | hphase
  · exact Or.inl ⟨htable ▸ hrow, not_writes_phaseOf message⟩
  · have hid : id ≠ [] := by
      rintro rfl
      exact hcoherent.ids_ne_nil (hcoherent.gone [] hmem).1
    rw [hqueue, List.mem_cons] at hmem
    rcases hmem with rfl | hleft
    · exact Or.inr (Or.inr (phaseOf_destroy hid))
    · exact Or.inr (Or.inl hleft)
  · cases hphase

theorem GoneSettled.of_eq (hsettled : GoneSettled b phase id)
    (hcontainers : next.host.containers = b.host.containers) (hqueue : next.host.queue = b.host.queue)
    (htable : next.containers = b.containers) : GoneSettled next phase id := by
  intro hnone
  rw [hcontainers] at hnone
  rw [htable, DestroyPending, hqueue]
  exact hsettled hnone

theorem GoneSettled.delete (hsettled : GoneSettled b (.deleting target) id)
    (hcontainers : next.host.containers = b.host.containers) (hqueue : next.host.queue = b.host.queue)
    (htable : next.containers = b.containers.deleteContainer target) : GoneSettled next .quiet id := by
  have hrow : next.containers.getContainer id = if id = target then none else b.containers.getContainer id := by
    rw [htable]
    exact KeyedTable.get?_delete target id
  intro hnone
  rw [hcontainers] at hnone
  rcases hsettled hnone with ⟨hbefore, -⟩ | hmem | hphase
  · refine Or.inl ⟨?_, not_writes_quiet⟩
    rw [hrow, hbefore, ite_self]
  · exact Or.inr (Or.inl (hqueue ▸ hmem))
  · cases hphase
    exact Or.inl ⟨by rw [hrow, if_pos rfl], not_writes_quiet⟩

/-- After an inspection the monitor is about to write the row of a container that is there. -/
theorem GoneSettled.inspect {inspect : ContainerInspect} (hsettled : GoneSettled b (.inspecting target) id)
    (hthere : b.host.containers target = some inspect) (hcontainers : next.host.containers = b.host.containers)
    (hqueue : next.host.queue = b.host.queue) (htable : next.containers = b.containers) :
    GoneSettled next (.upserting (eventParams target inspect)) id := by
  intro hnone
  rw [hcontainers] at hnone
  have hwrites : ¬ (Phase.upserting (eventParams target inspect)).Writes id := by
    rintro ⟨arg, hphase, harg⟩
    cases hphase
    have hid : target = id := harg
    rw [hid, hnone] at hthere
    cases hthere
  rcases hsettled hnone with ⟨hrow, -⟩ | hmem | hphase
  · exact Or.inl ⟨htable ▸ hrow, hwrites⟩
  · exact Or.inr (Or.inl (hqueue ▸ hmem))
  · cases hphase

theorem GoneSettled.missing (hsettled : GoneSettled b (.inspecting target) id)
    (hcontainers : next.host.containers = b.host.containers) (hqueue : next.host.queue = b.host.queue)
    (htable : next.containers = b.containers) : GoneSettled next .quiet id := by
  intro hnone
  rw [hcontainers] at hnone
  rcases hsettled hnone with ⟨hrow, -⟩ | hmem | hphase
  · exact Or.inl ⟨htable ▸ hrow, not_writes_quiet⟩
  · exact Or.inr (Or.inl (hqueue ▸ hmem))
  · cases hphase

/-- The row that an upsert writes is not that of a container that is gone. -/
theorem GoneSettled.upsert {arg : UpsertContainerFromEventParams} {now : Int}
    (hsettled : GoneSettled b (.upserting arg) id) (hcontainers : next.host.containers = b.host.containers)
    (hqueue : next.host.queue = b.host.queue)
    (htable : next.containers = b.containers.upsertContainerFromEvent arg now) : GoneSettled next .quiet id := by
  intro hnone
  rw [hcontainers] at hnone
  rcases hsettled hnone with ⟨hbefore, hwrites⟩ | hmem | hphase
  · have hne : id ≠ arg.id := by
      rintro rfl
      exact hwrites ⟨arg, rfl, rfl⟩
    refine Or.inl ⟨?_, not_writes_quiet⟩
    rw [htable, Containers.getContainer, Containers.get?_upsertContainerFromEvent, if_neg hne]
    exact hbefore
  · exact Or.inr (Or.inl (hqueue ▸ hmem))
  · cases hphase

end GoneSettled

/-- The monitor receives an event. -/
theorem Settled.receive {message : Message} (hsettled : Settled rest b .quiet id)
    (hcoherent : b.host.Coherent) (hcontainers : next.host.containers = b.host.containers)
    (hqueue : b.host.queue = message :: next.host.queue) (htable : next.containers = b.containers) :
    Settled rest next (phaseOf message) id := by
  constructor
  · exact GoneSettled.receive hsettled.gone hcoherent hcontainers hqueue htable
  · intro container hsome
    rw [hcontainers] at hsome
    rcases hsettled.there container hsome with
      hpromised | (⟨kind, hmem, hkind⟩ | hphase) | ⟨arg, hphase, -⟩ | ⟨-, hmatches⟩
    · exact Or.inl hpromised
    · have hid : id ≠ [] := by
        rintro rfl
        exact hcoherent.ids_ne_nil (hcoherent.used [] (by simp [hsome]))
      rw [hqueue, List.mem_cons] at hmem
      rcases hmem with rfl | hleft
      · exact Or.inr (Or.inl (Or.inr (phaseOf_refreshes hid hkind)))
      · exact Or.inr (Or.inl (Or.inl ⟨kind, hleft, hkind⟩))
    · cases hphase
    · cases hphase
    · exact Or.inr (Or.inr (Or.inr ⟨not_writes_phaseOf message, htable ▸ hmatches⟩))

/-- The monitor has nothing to do with the table. -/
theorem Settled.of_eq (hsettled : Settled rest b phase id)
    (hcontainers : next.host.containers = b.host.containers) (hqueue : next.host.queue = b.host.queue)
    (htable : next.containers = b.containers) : Settled rest next phase id := by
  constructor
  · exact GoneSettled.of_eq hsettled.gone hcontainers hqueue htable
  · intro container hsome
    rw [hcontainers] at hsome
    rw [htable, RefreshPending, hqueue]
    exact hsettled.there container hsome

/-- The monitor deletes the row of a container that is gone. -/
theorem Settled.delete {target : GoString} (hsettled : Settled rest b (.deleting target) id)
    (hgone : Gone b.host target) (hcontainers : next.host.containers = b.host.containers)
    (hqueue : next.host.queue = b.host.queue) (htable : next.containers = b.containers.deleteContainer target) :
    Settled rest next .quiet id := by
  have hrow : next.containers.getContainer id = if id = target then none else b.containers.getContainer id := by
    rw [htable]
    exact KeyedTable.get?_delete target id
  constructor
  · exact GoneSettled.delete hsettled.gone hcontainers hqueue htable
  · intro container hsome
    rw [hcontainers] at hsome
    have hne : id ≠ target := by
      rintro rfl
      rw [hgone.2] at hsome
      cases hsome
    rcases hsettled.there container hsome with
      hpromised | (⟨kind, hmem, hkind⟩ | hphase) | ⟨arg, hphase, -⟩ | ⟨-, hmatches⟩
    · exact Or.inl hpromised
    · exact Or.inr (Or.inl (Or.inl ⟨kind, hqueue ▸ hmem, hkind⟩))
    · cases hphase
    · cases hphase
    · refine Or.inr (Or.inr (Or.inr ⟨not_writes_quiet, ?_⟩))
      rw [hrow, if_neg hne]
      exact hmatches

/-- The monitor inspects a container: if it is there, that is what it is about to write. -/
theorem Settled.inspect {target : GoString} {inspect : ContainerInspect}
    (hsettled : Settled rest b (.inspecting target) id) (hthere : b.host.containers target = some inspect)
    (hcontainers : next.host.containers = b.host.containers) (hqueue : next.host.queue = b.host.queue)
    (htable : next.containers = b.containers) :
    Settled rest next (.upserting (eventParams target inspect)) id := by
  constructor
  · exact GoneSettled.inspect hsettled.gone hthere hcontainers hqueue htable
  · intro container hsome
    by_cases hid : id = target
    · subst hid
      rw [hcontainers, hthere, Option.some.injEq] at hsome
      refine Or.inr (Or.inr (Or.inl ⟨_, rfl, rfl, ?_⟩))
      rw [← hsome]
      rfl
    · have hwrites : ¬ (Phase.upserting (eventParams target inspect)).Writes id := by
        rintro ⟨arg, hphase, harg⟩
        cases hphase
        exact hid harg.symm
      rw [hcontainers] at hsome
      rcases hsettled.there container hsome with
        hpromised | (⟨kind, hmem, hkind⟩ | hphase) | ⟨arg, hphase, -⟩ | ⟨-, hmatches⟩
      · exact Or.inl hpromised
      · exact Or.inr (Or.inl (Or.inl ⟨kind, hqueue ▸ hmem, hkind⟩))
      · cases hphase
        exact absurd rfl hid
      · cases hphase
      · exact Or.inr (Or.inr (Or.inr ⟨hwrites, htable ▸ hmatches⟩))

/-- The container that the monitor was to inspect is gone. -/
theorem Settled.missing {target : GoString} (hsettled : Settled rest b (.inspecting target) id)
    (hmissing : b.host.containers target = none) (hcontainers : next.host.containers = b.host.containers)
    (hqueue : next.host.queue = b.host.queue) (htable : next.containers = b.containers) :
    Settled rest next .quiet id := by
  constructor
  · exact GoneSettled.missing hsettled.gone hcontainers hqueue htable
  · intro container hsome
    rw [hcontainers] at hsome
    rcases hsettled.there container hsome with
      hpromised | (⟨kind, hmem, hkind⟩ | hphase) | ⟨arg, hphase, -⟩ | ⟨-, hmatches⟩
    · exact Or.inl hpromised
    · exact Or.inr (Or.inl (Or.inl ⟨kind, hqueue ▸ hmem, hkind⟩))
    · cases hphase
      rw [hmissing] at hsome
      cases hsome
    · cases hphase
    · exact Or.inr (Or.inr (Or.inr ⟨not_writes_quiet, htable ▸ hmatches⟩))

/-- The monitor writes what it has seen. -/
theorem Settled.upsert {arg : UpsertContainerFromEventParams} {now : Int}
    (hsettled : Settled rest b (.upserting arg) id) (hcontainers : next.host.containers = b.host.containers)
    (hqueue : next.host.queue = b.host.queue)
    (htable : next.containers = b.containers.upsertContainerFromEvent arg now) :
    Settled rest next .quiet id := by
  have hrow : next.containers.getContainer id = if id = arg.id then
      some (Containers.upsertedRow arg now (b.containers.get? arg.id)) else b.containers.getContainer id := by
    rw [htable]
    exact Containers.get?_upsertContainerFromEvent arg id
  constructor
  · exact GoneSettled.upsert hsettled.gone hcontainers hqueue htable
  · intro container hsome
    rw [hcontainers] at hsome
    rcases hsettled.there container hsome with
      hpromised | (⟨kind, hmem, hkind⟩ | hphase) | ⟨arg', hphase, harg, hview⟩ | ⟨hwrites, hmatches⟩
    · exact Or.inl hpromised
    · exact Or.inr (Or.inl (Or.inl ⟨kind, hqueue ▸ hmem, hkind⟩))
    · cases hphase
    · cases hphase
      refine Or.inr (Or.inr (Or.inr ⟨not_writes_quiet, ?_⟩))
      rw [hrow, if_pos harg.symm, Option.map_some, ← hview]
      cases b.containers.get? arg.id with
      | none => rfl
      | some old => rfl
    · have hne : id ≠ arg.id := by
        rintro rfl
        exact hwrites ⟨arg, rfl, rfl⟩
      refine Or.inr (Or.inr (Or.inr ⟨not_writes_quiet, ?_⟩))
      rw [hrow, if_neg hne]
      exact hmatches

/-- A call of the monitor keeps every row right, or on its way to be. -/
theorem settled_of_phaseStep {imageID : GoString → GoString} (hcoherent : b.host.Coherent)
    (hdeleting : ∀ id, phase = .deleting id → Gone b.host id) (hphase : PhaseStep phase event after)
    (hanswer : b.answer imageID (fun _ => false) event = some next) (hsettled : Settled rest b phase id) :
    Settled rest next after id := by
  obtain ⟨hcontainers, hqueue⟩ := host_of_phaseStep hphase hanswer
  obtain ⟨hallowed, htable, -⟩ := answer_eq_some hanswer
  cases hphase with
  | receive message =>
      rcases hqueue with ⟨other, heq, hcons⟩ | ⟨hother, -⟩
      · cases heq
        exact hsettled.receive hcoherent hcontainers hcons htable
      · exact absurd rfl (hother message)
  | publishDelete target u =>
      exact hsettled.of_eq hcontainers (hqueue.resolve_left (by simp)).2 htable
  | publishSave row u =>
      exact hsettled.of_eq hcontainers (hqueue.resolve_left (by simp)).2 htable
  | reread target answer =>
      exact hsettled.of_eq hcontainers (hqueue.resolve_left (by simp)).2 htable
  | delete target answer =>
      cases answer with
      | ok u =>
          exact hsettled.delete (hdeleting target rfl) hcontainers (hqueue.resolve_left (by simp)).2 htable
      | error err => cases hallowed
  | inspect target inspect =>
      have hthere : b.host.containers target = some inspect := by simpa [allowed] using hallowed
      exact hsettled.inspect hthere hcontainers (hqueue.resolve_left (by simp)).2 htable
  | missing target err =>
      have hmissing : b.host.containers target = none := by simpa [allowed] using hallowed
      exact hsettled.missing hmissing hcontainers (hqueue.resolve_left (by simp)).2 htable
  | upsert arg answer =>
      cases answer with
      | ok u => exact hsettled.upsert hcontainers (hqueue.resolve_left (by simp)).2 htable
      | error err => cases hallowed

theorem mirrorInv_step {imageID : GoString → GoString} {label : MonitorLabel}
    (hinv : MirrorInv (label :: rest) c)
    (hstep : (backend imageID fun _ => false).step c label = some next') : MirrorInv rest next' := by
  cases label with
  | env e =>
      obtain ⟨shared, henv, rfl⟩ := step_env_eq_some_iff.mp hstep
      exact mirrorInv_env hinv henv
  | call i event =>
      obtain ⟨rest', shared, hcall, hanswer, rfl⟩ := step_call_eq_some_iff.mp hstep
      obtain ⟨phase, hat, hdeleting, hsettled⟩ := hinv.phase
      obtain ⟨after, hphase, hat'⟩ := hat.step hcall
      refine ⟨coherent_of_answer hinv.coherent hanswer, hinv.followed, after, ?_, ?_, ?_⟩
      · simpa using hat'
      · intro id hafter
        exact gone_of_deleting hinv.coherent hphase hanswer hafter
      · intro id
        exact settled_of_phaseStep hinv.coherent hdeleting hphase hanswer (hsettled id).of_call

/-! ## The host at rest -/

theorem phase_eq_quiet_of_eventLoop {n : Nat}
    (hat : MonitorAt phase (eventLoop n : Program Call Answer ConnectError Unit)) : phase = .quiet := by
  generalize hloop : (eventLoop n : Program Call Answer ConnectError Unit) = p at hat
  cases hat with
  | deleting id m => cases n <;> cases hloop
  | inspecting id m => cases n <;> cases hloop
  | upserting arg m => cases n <;> cases hloop
  | _ => rfl

/-- When nothing is on its way the table mirrors the host. -/
theorem mirrors_of_settled (hqueue : b.host.queue = []) (hsettled : ∀ id, Settled [] b .quiet id) :
    Mirrors b := by
  intro id
  cases hcontainer : b.host.containers id with
  | none =>
      rcases (hsettled id).gone hcontainer with ⟨hrow, -⟩ | hmem | hphase
      · rw [hrow]
        rfl
      · rw [hqueue] at hmem
        cases hmem
      · cases hphase
  | some container =>
      rcases (hsettled id).there container hcontainer with
        ⟨_, hmem, -⟩ | (⟨_, hmem, -⟩ | hphase) | ⟨arg, hphase, -⟩ | ⟨-, hmatches⟩
      · cases hmem
      · rw [hqueue] at hmem
        cases hmem
      · cases hphase
      · cases hphase
      · exact hmatches

/-- From a table that mirrors the host, whatever happens on the host: when every event has been handled the
table mirrors the host again, if every pause, unpause and rename is followed by an event of the container on
which the monitor inspects it. -/
theorem mirrors_of_followed (imageID : GoString → GoString) (n : Nat) (b : Backend)
    (labels : List MonitorLabel) (final : MonitorConfig) (hcoherent : b.host.Coherent)
    (hstart : Mirrors b) (hfollowed : Followed labels)
    (hrun : exec (backend imageID fun _ => false).step (monitorStart n b) labels = some final)
    (hhandled : final.shared.host.queue = [] ∧ ∃ m, final.threads () = eventLoop m) :
    Mirrors final.shared := by
  have hsettled : ∀ id, Settled labels b .quiet id := by
    intro id
    have hid := hstart id
    constructor
    · intro hnone
      rw [hnone, Option.map_none, Option.map_eq_none_iff] at hid
      exact Or.inl ⟨hid, not_writes_quiet⟩
    · intro container hsome
      rw [hsome, Option.map_some] at hid
      exact Or.inr (Or.inr (Or.inr ⟨not_writes_quiet, hid⟩))
  have hinv : MirrorInv [] final :=
    exec_invariant_of_rest MirrorInv (fun _ _ _ _ hinv hstep => mirrorInv_step hinv hstep) hrun
      ⟨hcoherent, hfollowed, .quiet, .idle n, nofun, hsettled⟩
  obtain ⟨phase, hat, -, hsettled⟩ := hinv.phase
  obtain ⟨hqueue, m, hloop⟩ := hhandled
  rw [hloop] at hat
  rw [phase_eq_quiet_of_eventLoop hat] at hsettled
  exact mirrors_of_settled hqueue hsettled

theorem mirrors_webBackend : Mirrors webBackend := by
  intro id
  by_cases hweb : id = str "web"
  · subst hweb
    decide +kernel
  · have hrow : webBackend.containers.getContainer id = none := by
      rw [Containers.getContainer, KeyedTable.get?_eq_none_iff]
      intro row hmem
      rw [List.mem_singleton.mp hmem]
      exact Ne.symm hweb
    have hhost : webBackend.host.containers id = none := if_neg hweb
    rw [hrow, hhost]
    rfl

/-- The container is paused, and then it dies. -/
def pausedThenDead : List MonitorLabel :=
  [.env (.host (.pause (str "web"))),
    .call () ⟨.receiveEvent, ⟨.pause, str "web"⟩⟩,
    .env (.host (.die (str "web"))),
    .call () ⟨.receiveEvent, ⟨.die, str "web"⟩⟩,
    .call () ⟨.containerInspect (str "web"), .ok webStopped⟩,
    .call () ⟨.upsertContainerFromEvent (eventParams (str "web") webStopped), .ok ()⟩,
    .call () ⟨.getContainer (str "web"), .ok { webRow with state := statusExited }⟩,
    .call () ⟨.publishSave { webRow with state := statusExited }, ()⟩]

theorem exec_pausedThenDead :
    (exec webSystem.step (monitorStart 2 webBackend) pausedThenDead).map
        (fun c => (c.shared.host.queue, (c.threads ()).result?)) =
      some ([], some (.ok ())) := by
  decide +kernel

theorem mirrors_of_followed_pausedThenDead :
    Mirrors webBackend ∧ Followed pausedThenDead ∧
      ∃ final, exec webSystem.step (monitorStart 2 webBackend) pausedThenDead = some final ∧
        Mirrors final.shared := by
  have hfollowed : Followed pausedThenDead := by
    refine ⟨fun _ => ⟨.die (str "web"), by simp, rfl, id⟩, ?_, trivial⟩
    exact fun hunseen => absurd hunseen id
  obtain ⟨final, hfinal, hend⟩ := Option.map_eq_some_iff.mp exec_pausedThenDead
  simp only [Prod.mk.injEq] at hend
  obtain ⟨hqueue, hresult⟩ := hend
  refine ⟨mirrors_webBackend, hfollowed, final, hfinal, ?_⟩
  exact mirrors_of_followed _ 2 webBackend pausedThenDead final coherent_webBackend mirrors_webBackend
    hfollowed hfinal ⟨hqueue, 0, Program.eq_done_of_result? hresult⟩

/-- The container is paused, and nothing else happens to it. -/
def pausedRun : List MonitorLabel :=
  [.env (.host (.pause (str "web"))), .call () ⟨.receiveEvent, ⟨.pause, str "web"⟩⟩]

theorem exec_pausedRun :
    (exec webSystem.step (monitorStart 1 webBackend) pausedRun).map
        (fun c => (c.shared.host.queue, (c.threads ()).result?,
          decide ((c.shared.containers.getContainer (str "web")).map rowView =
            (c.shared.host.containers (str "web")).map containerView))) =
      some ([], some (.ok ()), false) := by
  decide +kernel

/-- Every event has been handled, and the row still says that the paused container is running. -/
theorem pause_not_mirrored :
    Mirrors webBackend ∧
      ∃ final, exec webSystem.step (monitorStart 1 webBackend) pausedRun = some final ∧
        final.shared.host.queue = [] ∧ (∃ m, final.threads () = eventLoop m) ∧ ¬ Mirrors final.shared := by
  obtain ⟨final, hfinal, hend⟩ := Option.map_eq_some_iff.mp exec_pausedRun
  simp only [Prod.mk.injEq] at hend
  obtain ⟨hqueue, hresult, hviews⟩ := hend
  refine ⟨mirrors_webBackend, final, hfinal, hqueue, ⟨0, Program.eq_done_of_result? hresult⟩, ?_⟩
  intro hmirrors
  exact of_decide_eq_false hviews (hmirrors (str "web"))

end Docker
end Dmanager
