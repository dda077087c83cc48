import Dmanager.Db.Containers
import Dmanager.Lib.Interleaving

/-!
# The Docker host and the database

What the programs of `Dmanager.Container` and `Dmanager.Docker` share when they run at the same time: the
containers on the Docker host, with the events that nobody has received yet, and the `containers` table.

* `HostAction` — what happens to a container (it is created, paused, destroyed ...), with the events that
  Docker emits for it (`HostAction.messages`).  Docker never hands out a container id twice (`used`).
* `Backend` — the host, the table and the clock.
* `backend` — both as a `System`: which answers a call may get, and what it does to the host and the table.
  `faults` are the calls that may fail without a reason in the state; a call on a container that is gone, or
  a statement that would break the primary key, fails in any case.

The state of the networks, of the images and of the registries is left out: calls about them get any answer.
-/

namespace Dmanager
namespace Docker

open Go Db Lib Server

/-! ## The host -/

def statusCreated : GoString := str "created"
def statusRunning : GoString := str "running"
def statusPaused : GoString := str "paused"
def statusExited : GoString := str "exited"

/-- The containers by id, the ids handed out so far, and the events that wait for the monitor. -/
structure Host where
  containers : GoString → Option ContainerInspect
  used : List GoString
  queue : List Message

/-- Something that happens to a container. -/
inductive HostAction where
  | create (id : GoString) (container : ContainerInspect)
  | start (id : GoString)
  | stop (id : GoString)
  | die (id : GoString)
  | restart (id : GoString)
  | pause (id : GoString)
  | unpause (id : GoString)
  | rename (id name : GoString)
  | update (id hostConfig : GoString)
  | destroy (id : GoString)
  deriving DecidableEq, Repr

/-- The container it happens to. -/
def HostAction.id : HostAction → GoString
  | .create id _ => id
  | .start id => id
  | .stop id => id
  | .die id => id
  | .restart id => id
  | .pause id => id
  | .unpause id => id
  | .rename id _ => id
  | .update id _ => id
  | .destroy id => id

/-- The actions of the events that Docker emits for it, in order. -/
def HostAction.emits : HostAction → List Action
  | .create _ _ => [.create]
  | .start _ => [.start]
  | .stop _ => [.kill, .die, .stop]
  | .die _ => [.die]
  | .restart _ => [.kill, .die, .stop, .start, .restart]
  | .pause _ => [.pause]
  | .unpause _ => [.unpause]
  | .rename _ _ => [.rename]
  | .update _ _ => [.update]
  | .destroy _ => [.destroy]

def HostAction.messages (action : HostAction) : List Message :=
  action.emits.map fun kind => ⟨kind, action.id⟩

/-- The container afterwards, given the one before; `none` when it is gone. -/
def HostAction.change : HostAction → ContainerInspect → Option ContainerInspect
  | .create _ container, _ => some container
  | .start _, c => some { c with status := statusRunning, running := true }
  | .stop _, c => some { c with status := statusExited, running := false }
  | .die _, c => some { c with status := statusExited, running := false }
  | .restart _, c => some { c with status := statusRunning, running := true }
  | .pause _, c => some { c with status := statusPaused }
  | .unpause _, c => some { c with status := statusRunning }
  | .rename _ name, c => some { c with name := name }
  | .update _ hostConfig, c => some { c with hostConfig := hostConfig }
  | .destroy _, _ => none

/-- The host after an action; `none` when it cannot happen. -/
def Host.perform (host : Host) (action : HostAction) : Option Host :=
  match action with
  | .create id container =>
    if id = [] ∨ id ∈ host.used then none
    else some
      { containers := Function.update host.containers id (some container)
        used := id :: host.used
        queue := host.queue ++ action.messages }
  | action =>
    (host.containers action.id).map fun container =>
      { host with
        containers := Function.update host.containers action.id (action.change container)
        queue := host.queue ++ action.messages }

/-- What Docker creates for `ContainerCreate`; `imageID` is the image that the reference stands for. -/
def createdContainer (imageID : GoString) (options : ContainerCreateOptions) : ContainerInspect where
  name := str "/" ++ options.name
  image := imageID
  config := options.config
  hostConfig := options.hostConfig
  status := statusCreated
  running := false
  networks := ⟨options.network.toList, by cases options.network <;> simp⟩

/-! ## The host and the table -/

/-- The host, the table, and the clock of the machine. -/
structure Backend where
  host : Host
  containers : Containers
  clock : Int

/-- The actions on the host that a call and its answer amount to: starting a container that runs and
stopping one that does not are no actions. -/
def hostActions (imageID : GoString → GoString) (host : Host) : CallEvent → List HostAction
  | ⟨.containerStart id, .ok _⟩ =>
    match host.containers id with
    | some c => if c.running then [] else [.start id]
    | none => []
  | ⟨.containerStop id, .ok _⟩ =>
    match host.containers id with
    | some c => if c.running then [.stop id] else []
    | none => []
  | ⟨.containerRemove id, .ok _⟩ => [.destroy id]
  | ⟨.containerCreate options, .ok id⟩ =>
    [.create id (createdContainer (imageID options.config.image) options)]
  | _ => []

/-- The host after a call and its answer, without the event that it receives. -/
def hostAfter (imageID : GoString → GoString) (host : Host) (event : CallEvent) : Option Host :=
  exec Host.perform host (hostActions imageID host event)

/-- The events that are left when the call receives one. -/
def queueAfter (queue : List Message) : CallEvent → Option (List Message)
  | ⟨.receiveEvent, message⟩ => if queue.head? = some message then some queue.tail else none
  | _ => some queue

/-- The table after a statement and its answer. -/
def tableAfter (containers : Containers) (now : Int) : CallEvent → Containers
  | ⟨.saveContainer arg, .ok _⟩ => containers.saveContainer arg now
  | ⟨.setContainerAutoUpdate id autoUpdate, .ok _⟩ => containers.setContainerAutoUpdate id autoUpdate now
  | ⟨.updateContainerUpdateState arg, .ok _⟩ => containers.updateContainerUpdateState arg now
  | ⟨.updateContainerForUpgrade arg, .ok _⟩ =>
    match containers.updateContainerForUpgrade arg now with
    | some (next, _) => next
    | none => containers
  | ⟨.upsertContainerFromEvent arg, .ok _⟩ => containers.upsertContainerFromEvent arg now
  | ⟨.deleteContainer id, .ok _⟩ => containers.deleteContainer id
  | ⟨.deleteOrphanContainers activeIDs, .ok _⟩ => containers.deleteOrphanContainers activeIDs
  | _ => containers

/-- The container is there, or the answer is an error. -/
def onContainer {δ α : Type} (faulty : Bool) (container : Option ContainerInspect) : Except δ α → Bool
  | .ok _ => container.isSome
  | .error _ => faulty || container.isNone

/-- `ContainerList` with `All`: one item for each container, with its name, its image and its state. -/
def Host.Lists (host : Host) (items : List ContainerSummary) : Prop :=
  (items.map ContainerSummary.id).Nodup ∧
    (∀ item ∈ items, (host.containers item.id).map (fun c => (some c.name, c.image, c.status)) =
      some (item.names.head?, item.imageID, item.state)) ∧
    ∀ id ∈ host.used, host.containers id ≠ none → id ∈ items.map ContainerSummary.id

instance (host : Host) (items : List ContainerSummary) : Decidable (host.Lists items) :=
  inferInstanceAs (Decidable (_ ∧ _))

/-- The answers a call may get. -/
def allowed (faults : Call → Bool) (b : Backend) : CallEvent → Bool
  | ⟨.containerInspect id, answer⟩ =>
    match answer with
    | .ok inspect => decide (b.host.containers id = some inspect)
    | .error _ => faults (.containerInspect id) || (b.host.containers id).isNone
  | ⟨.containerStart id, answer⟩ => onContainer (faults (.containerStart id)) (b.host.containers id) answer
  | ⟨.containerStop id, answer⟩ => onContainer (faults (.containerStop id)) (b.host.containers id) answer
  | ⟨.containerRemove id, answer⟩ => onContainer (faults (.containerRemove id)) (b.host.containers id) answer
  | ⟨.containerList, answer⟩ =>
    match answer with
    | .ok items => decide (b.host.Lists items)
    | .error _ => faults .containerList
  | ⟨.listContainers, answer⟩ =>
    match answer with
    | .ok rows => decide (b.containers.IsListing rows)
    | .error _ => faults .listContainers
  | ⟨.getContainer id, answer⟩ =>
    match answer with
    | .ok row => decide (b.containers.getContainer id = some row)
    | .error .noRows => (b.containers.getContainer id).isNone
    | .error (.other _) => faults (.getContainer id)
  | ⟨.saveContainer arg, .error _⟩ => faults (.saveContainer arg)
  | ⟨.setContainerAutoUpdate id autoUpdate, answer⟩ =>
    match answer with
    | .ok rows => decide (rows = b.containers.rowsOf id)
    | .error _ => faults (.setContainerAutoUpdate id autoUpdate)
  | ⟨.updateContainerUpdateState arg, answer⟩ =>
    match answer with
    | .ok rows => decide (rows = b.containers.rowsOf arg.id)
    | .error _ => faults (.updateContainerUpdateState arg)
  | ⟨.updateContainerForUpgrade arg, answer⟩ =>
    match b.containers.updateContainerForUpgrade arg b.clock, answer with
    | some (_, changed), .ok rows => decide (rows = changed)
    | none, .ok _ => false
    | some _, .error _ => faults (.updateContainerForUpgrade arg)
    | none, .error _ => true
  | ⟨.upsertContainerFromEvent arg, .error _⟩ => faults (.upsertContainerFromEvent arg)
  | ⟨.deleteContainer id, .error _⟩ => faults (.deleteContainer id)
  | ⟨.deleteOrphanContainers ids, .error _⟩ => faults (.deleteOrphanContainers ids)
  | ⟨.timeNow, now⟩ => decide (now = b.clock)
  | _ => true

/-- The backend after a call and its answer. -/
def Backend.answer (imageID : GoString → GoString) (faults : Call → Bool) (b : Backend) (event : CallEvent) :
    Option Backend :=
  if allowed faults b event then
    (queueAfter b.host.queue event).bind fun queue =>
      (hostAfter imageID { b.host with queue := queue } event).map fun host =>
        { b with host := host, containers := tableAfter b.containers b.clock event }
  else none

/-- What happens without a call: something on the host, or time passes. -/
inductive Happening where
  | host (action : HostAction)
  | tick (now : Int)
  deriving DecidableEq, Repr

def Backend.happen (b : Backend) : Happening → Option Backend
  | .host action => (b.host.perform action).map fun host => { b with host := host }
  | .tick now => if b.clock ≤ now then some { b with clock := now } else none

/-- The host and the database, shared by the programs. -/
def backend (imageID : GoString → GoString) (faults : Call → Bool) :
    System Backend Happening Call Answer where
  answer := Backend.answer imageID faults
  env := Backend.happen

/-! ## What can happen on the host -/

variable {host after : Host} {action : HostAction} {id : GoString}

/-- An action creates a container under a fresh id, or changes one that is there. -/
theorem perform_cases (hperform : host.perform action = some after) :
    (∃ id container, action = .create id container ∧ id ≠ [] ∧ id ∉ host.used ∧
        after = ⟨Function.update host.containers id (some container), id :: host.used,
          host.queue ++ action.messages⟩) ∨
      (∃ container, (∀ id created, action ≠ .create id created) ∧
        host.containers action.id = some container ∧
        after = ⟨Function.update host.containers action.id (action.change container), host.used,
          host.queue ++ action.messages⟩) := by
  cases action with
  | create id container =>
      simp only [Host.perform] at hperform
      split at hperform
      · cases hperform
      · rename_i hfresh
        push Not at hfresh
        cases hperform
        exact Or.inl ⟨id, container, rfl, hfresh.1, hfresh.2, rfl⟩
  | _ =>
      obtain ⟨container, hcontainer, rfl⟩ := Option.map_eq_some_iff.mp hperform
      refine Or.inr ⟨container, ?_, hcontainer, rfl⟩
      intro id created heq
      cases heq

/-- The container was destroyed; its id is not handed out again. -/
def Gone (host : Host) (id : GoString) : Prop := id ∈ host.used ∧ host.containers id = none

theorem Gone.perform (hgone : Gone host id) (hperform : host.perform action = some after) :
    Gone after id := by
  obtain ⟨hused, hnone⟩ := hgone
  rcases perform_cases hperform with ⟨new, container, -, -, hfresh, rfl⟩ | ⟨container, -, hthere, rfl⟩
  · have hne : id ≠ new := by
      rintro rfl
      exact hfresh hused
    exact ⟨List.mem_cons_of_mem _ hused, by simp [hne, hnone]⟩
  · have hne : id ≠ action.id := by
      rintro rfl
      rw [hthere] at hnone
      cases hnone
    exact ⟨hused, by simp [hne, hnone]⟩

/-- What holds of every host: the ids of its containers are ids that were handed out, and the destroy events
that wait for the monitor are those of containers that are gone. -/
structure Host.Coherent (host : Host) : Prop where
  ids_ne_nil : [] ∉ host.used
  used : ∀ id, host.containers id ≠ none → id ∈ host.used
  gone : ∀ id, (⟨.destroy, id⟩ : Message) ∈ host.queue → Gone host id
  never_delete : ∀ id, (⟨.delete, id⟩ : Message) ∉ host.queue

theorem mem_messages {kind : Action} : ⟨kind, id⟩ ∈ action.messages ↔ kind ∈ action.emits ∧ id = action.id := by
  simp [HostAction.messages, eq_comm]

/-- Only a destruction emits a destroy event. -/
theorem eq_destroy_of_mem_emits (hmem : Action.destroy ∈ action.emits) : action = .destroy action.id := by
  cases action with
  | destroy id => rfl
  | _ => simp [HostAction.emits] at hmem

theorem delete_not_mem_emits : Action.delete ∉ action.emits := by
  cases action <;> simp [HostAction.emits]

/-- The containers after an action are the old ones, or the one it is about. -/
theorem Host.Coherent.perform (hcoherent : host.Coherent) (hperform : host.perform action = some after) :
    after.Coherent := by
  have hkeep : ∀ id, Gone host id → Gone after id := fun id hgone => hgone.perform hperform
  have hqueue : after.queue = host.queue ++ action.messages := by
    rcases perform_cases hperform with ⟨_, _, -, -, -, rfl⟩ | ⟨_, -, -, rfl⟩
    · rfl
    · rfl
  constructor
  · rcases perform_cases hperform with ⟨new, container, -, hne, -, rfl⟩ | ⟨container, -, -, rfl⟩
    · simp only [List.mem_cons, not_or]
      exact ⟨Ne.symm hne, hcoherent.ids_ne_nil⟩
    · exact hcoherent.ids_ne_nil
  · intro id hid
    rcases perform_cases hperform with ⟨new, container, -, -, -, rfl⟩ | ⟨container, -, hthere, rfl⟩
    · by_cases hne : id = new
      · exact hne ▸ List.mem_cons_self
      · exact List.mem_cons_of_mem _ (hcoherent.used id (by simpa [hne] using hid))
    · by_cases hne : id = action.id
      · exact hcoherent.used id (by simp [hne, hthere])
      · exact hcoherent.used id (by simpa [hne] using hid)
  · intro id hmem
    rw [hqueue, List.mem_append, mem_messages] at hmem
    rcases hmem with hold | ⟨hemits, rfl⟩
    · exact hkeep id (hcoherent.gone id hold)
    · -- the container has just been destroyed
      rcases perform_cases hperform with ⟨new, container, heq, -⟩ | ⟨container, -, hthere, rfl⟩
      · rw [heq] at hemits
        simp [HostAction.emits] at hemits
      · refine ⟨hcoherent.used _ (by simp [hthere]), ?_⟩
        have hchange : action.change container = none := by
          rw [eq_destroy_of_mem_emits hemits]
          rfl
        simp [hchange]
  · intro id hmem
    rw [hqueue, List.mem_append, mem_messages] at hmem
    rcases hmem with hold | ⟨hemits, -⟩
    · exact hcoherent.never_delete id hold
    · exact delete_not_mem_emits hemits

/-- Receiving an event leaves the rest. -/
theorem Host.Coherent.tail {queue : List Message} {message : Message} (hcoherent : host.Coherent)
    (hqueue : host.queue = message :: queue) : ({ host with queue := queue } : Host).Coherent where
  ids_ne_nil := hcoherent.ids_ne_nil
  used := hcoherent.used
  gone := by
    intro id hmem
    exact hcoherent.gone id (by rw [hqueue]; exact List.mem_cons_of_mem _ hmem)
  never_delete := by
    intro id hmem
    exact hcoherent.never_delete id (by rw [hqueue]; exact List.mem_cons_of_mem _ hmem)

/-! ## What a call does -/

variable {imageID : GoString → GoString} {faults : Call → Bool} {b next : Backend} {event : CallEvent}

/-- A call and its answer change the table as the statement does, and take the time from the clock. -/
theorem answer_eq_some (hanswer : b.answer imageID faults event = some next) :
    allowed faults b event = true ∧ next.containers = tableAfter b.containers b.clock event ∧
      next.clock = b.clock := by
  unfold Backend.answer at hanswer
  split at hanswer
  · rename_i hallowed
    simp only [Option.bind_eq_some_iff, Option.map_eq_some_iff] at hanswer
    obtain ⟨queue, -, host, -, rfl⟩ := hanswer
    exact ⟨hallowed, rfl, rfl⟩
  · cases hanswer

/-- A call receives an event, or leaves the events alone. -/
theorem queueAfter_cases {queue left : List Message} (hqueue : queueAfter queue event = some left) :
    (∃ message, event = ⟨.receiveEvent, message⟩ ∧ queue = message :: left) ∨
      ((∀ message, event ≠ ⟨.receiveEvent, message⟩) ∧ left = queue) := by
  unfold queueAfter at hqueue
  split at hqueue
  · rename_i message
    split at hqueue
    · rename_i hhead
      cases hqueue
      refine Or.inl ⟨message, rfl, ?_⟩
      cases queue with
      | nil => cases hhead
      | cons first rest => simpa using hhead
    · cases hqueue
  · rename_i hother
    cases hqueue
    exact Or.inr ⟨hother, rfl⟩

/-- A call and its answer on the side of the host. -/
theorem host_of_answer (hanswer : b.answer imageID faults event = some next) :
    ∃ queue, queueAfter b.host.queue event = some queue ∧
      hostAfter imageID { b.host with queue := queue } event = some next.host := by
  unfold Backend.answer at hanswer
  split at hanswer
  · simp only [Option.bind_eq_some_iff, Option.map_eq_some_iff] at hanswer
    obtain ⟨queue, hqueue, host, hhost, rfl⟩ := hanswer
    exact ⟨queue, hqueue, hhost⟩
  · cases hanswer

/-- A call that receives no event is one action on the host, or none. -/
theorem host_of_call (hanswer : b.answer imageID faults event = some next)
    (hother : ∀ message, event ≠ ⟨.receiveEvent, message⟩) :
    (hostActions imageID b.host event = [] ∧ next.host = b.host) ∨
      ∃ action, hostActions imageID b.host event = [action] ∧ b.host.perform action = some next.host := by
  obtain ⟨queue, hqueue, hhost⟩ := host_of_answer hanswer
  have hsame : queue = b.host.queue := by
    rcases queueAfter_cases hqueue with ⟨message, rfl, -⟩ | ⟨-, hsame⟩
    · exact absurd rfl (hother message)
    · exact hsame
  subst hsame
  have hshort : (hostActions imageID b.host event).length ≤ 1 := by
    unfold hostActions
    repeat' split
    all_goals simp
  cases hactions : hostActions imageID b.host event with
  | nil =>
      rw [hostAfter, hactions, exec_nil, Option.some.injEq] at hhost
      exact Or.inl ⟨rfl, hhost.symm⟩
  | cons action rest =>
      rw [hactions, List.length_cons] at hshort
      have hrest : rest = [] := List.eq_nil_of_length_eq_zero (by omega)
      subst hrest
      rw [hostAfter, hactions] at hhost
      obtain ⟨after, hperform, hdone⟩ := exec_cons_eq_some_iff.mp hhost
      rw [exec_nil, Option.some.injEq] at hdone
      exact Or.inr ⟨action, rfl, hdone ▸ hperform⟩

theorem coherent_of_answer (hcoherent : b.host.Coherent)
    (hanswer : b.answer imageID faults event = some next) : next.host.Coherent := by
  obtain ⟨queue, hqueue, hhost⟩ := host_of_answer hanswer
  refine exec_invariant Host.Coherent (fun _ _ _ hbefore hperform => hbefore.perform hperform) hhost ?_
  rcases queueAfter_cases hqueue with ⟨message, -, hcons⟩ | ⟨-, hsame⟩
  · exact hcoherent.tail hcons
  · rw [hsame]
    exact hcoherent

theorem gone_of_answer (hgone : Gone b.host id) (hanswer : b.answer imageID faults event = some next) :
    Gone next.host id := by
  obtain ⟨queue, -, hhost⟩ := host_of_answer hanswer
  exact exec_invariant (Gone · id) (fun _ _ _ hbefore hperform => hbefore.perform hperform) hhost hgone

/-- What happens on the host is a host action or none. -/
theorem host_of_happen {e : Happening} (hhappen : b.happen e = some next) :
    (∃ action, e = .host action ∧ b.host.perform action = some next.host) ∨
      ((∀ action, e ≠ .host action) ∧ next.host = b.host) := by
  cases e with
  | host action =>
      obtain ⟨host, hperform, rfl⟩ := Option.map_eq_some_iff.mp hhappen
      exact Or.inl ⟨action, rfl, hperform⟩
  | tick now =>
      simp only [Backend.happen] at hhappen
      split at hhappen
      · cases hhappen
        exact Or.inr ⟨nofun, rfl⟩
      · cases hhappen

/-- What happens on the host does not touch the table. -/
theorem containers_of_happen {e : Happening} (hhappen : b.happen e = some next) :
    next.containers = b.containers := by
  cases e with
  | host action =>
      obtain ⟨host, -, rfl⟩ := Option.map_eq_some_iff.mp hhappen
      rfl
  | tick now =>
      simp only [Backend.happen] at hhappen
      split at hhappen
      · cases hhappen
        rfl
      · cases hhappen

/-- Whatever the programs and the host do, the host stays coherent. -/
theorem coherent_of_step {ι ε α : Type} [DecidableEq ι] {c next : Config ι Backend Call Answer ε α}
    {label : Label ι Happening Call Answer} (hcoherent : c.shared.host.Coherent)
    (hstep : (backend imageID faults).step c label = some next) : next.shared.host.Coherent := by
  cases label with
  | call i event =>
      obtain ⟨rest, shared, -, hanswer, rfl⟩ := step_call_eq_some_iff.mp hstep
      exact coherent_of_answer hcoherent hanswer
  | env e =>
      obtain ⟨shared, henv, rfl⟩ := step_env_eq_some_iff.mp hstep
      show shared.host.Coherent
      rcases host_of_happen henv with ⟨action, -, hperform⟩ | ⟨-, hsame⟩
      · exact hcoherent.perform hperform
      · rw [hsame]
        exact hcoherent

/-! ## A host with one container

The runs on fixed inputs in the modules about the backend start here. -/

/-- A container that runs. -/
def webContainer : ContainerInspect where
  name := str "/web"
  image := str "sha256:1"
  config := ⟨str "nginx:1", []⟩
  hostConfig := []
  status := statusRunning
  running := true
  networks := ⟨[], by decide⟩

/-- The order of its networks: there are none. -/
theorem perm_webNetworks : List.Perm ([] : List (GoString × GoString)) [] := List.Perm.nil

def webStopped : ContainerInspect := { webContainer with status := statusExited, running := false }

/-- Its row, without automatic updates. -/
def webRow : Db.Container where
  id := str "web"
  name := str "web"
  image := str "nginx:1"
  imageID := str "sha256:1"
  state := statusRunning
  autoUpdate := 0
  updateAvailable := 0
  latestImageDigest := none
  lastCheckedAt := none
  lastUpdatedAt := none
  createdAt := 0
  updatedAt := 0

/-- The host with this container, and the table that mirrors it. -/
def webBackend : Backend where
  host := ⟨fun id => if id = str "web" then some webContainer else none, [str "web"], []⟩
  containers := ⟨[webRow], by decide⟩
  clock := 0

/-- The backend where only those calls fail that have to. -/
abbrev webSystem : System Backend Happening Call Answer := backend (fun _ => str "sha256:1") fun _ => false

theorem containers_webBackend : webBackend.host.containers (str "web") = some webContainer := by
  simp [webBackend]

theorem coherent_webBackend : webBackend.host.Coherent := by
  refine ⟨by decide, ?_, nofun, nofun⟩
  intro id hid
  by_cases hweb : id = str "web"
  · simp [webBackend, hweb]
  · simp [webBackend, hweb] at hid

end Docker
end Dmanager
