import Dmanager.Docker.Mirror

/-!
# Gaps in the event stream

`SyncContainers` of `internal/container/sync.go`, run once at the start of the server, and then the loop of
`StartEventMonitor` with its subscriptions.  Docker sends on a subscription only what happens after it, and
when the stream fails the monitor subscribes again a second later; it does not look at the containers again.

`sameIDs_of_watched` is the condition under which the table has exactly the ids of the host whenever the
stream is connected and every event has been handled: containers are created and destroyed only while the
monitor is subscribed, no such event is lost when the stream fails, and the table has no rows when the
startup sync finds no containers (`DeleteOrphanContainers` without ids deletes nothing).

`gap_leaves_row` is a run in which a container is destroyed between the sync and the subscription.

The second between an error and the new subscription is no step of its own: anything may happen between any
two calls.
-/

namespace Dmanager
namespace Docker

open Go Db Lib Server Container
open Program (perform orFail)

/-! ## The source -/

/-- The row that an item of the list amounts to. -/
def summaryParams (c : ContainerSummary) : UpsertContainerFromEventParams where
  id := c.id
  name :=
    match c.names with
    | [] => []
    | name :: _ => trimPrefix name (str "/")
  image := c.image
  imageID := c.imageID
  state := c.state

/-- The loop of `SyncContainers` over the items. -/
def upsertListed : List ContainerSummary → Program Call Answer GoString Unit
  | [] => .done ()
  | c :: rest => do
    orFail (fun err => err) (← perform (.upsertContainerFromEvent (summaryParams c)))
    upsertListed rest

/-- The end of `SyncContainers`. -/
def deleteOrphans (activeIDs : List GoString) : Program Call Answer GoString Unit := do
  orFail (fun err => err) (← perform (.deleteOrphanContainers activeIDs))

/-- `SyncContainers`. -/
def syncContainers : Program Call Answer GoString Unit := do
  let containers ← orFail DockerError.message (← perform .containerList)
  upsertListed containers
  deleteOrphans (containers.map ContainerSummary.id)

/-- The loop of `StartEventMonitor`, for `n` turns. -/
def monitorLoop : Nat → Program Call Answer GoString Unit
  | 0 => .done ()
  | n + 1 => do
    let next ← perform Call.streamNext
    match next with
    | .ok event => do
      handleEvent event
      monitorLoop n
    | .error none => monitorLoop n
    | .error (some _) => do
      perform Call.events
      monitorLoop n

/-- `StartEventMonitor`. -/
def startEventMonitor (n : Nat) : Program Call Answer GoString Unit := do
  perform Call.events
  monitorLoop n

/-- What `cmd/serve.go` does with the containers at its start. -/
def serveContainers (n : Nat) : Program Call Answer GoString Unit := do
  syncContainers
  startEventMonitor n

/-! ## The stream -/

/-- The host and the table, and whether there is a subscription; the queue of the host are the events of the
subscription that the monitor has not received. -/
structure Streamed where
  backend : Backend
  connected : Bool

/-- The host with another queue. -/
def Streamed.withQueue (s : Streamed) (queue : List Message) : Streamed :=
  { s with backend := { s.backend with host := { s.backend.host with queue := queue } } }

/-- A call and its answer.  The error of a stream comes after the events that were received before it. -/
def Streamed.answer (imageID : GoString → GoString) (s : Streamed) : CallEvent → Option Streamed
  | ⟨.events, _⟩ => some { s.withQueue [] with connected := true }
  | ⟨.streamNext, .ok message⟩ =>
    match s.backend.host.queue with
    | [] => none
    | first :: rest => if first = message then some (s.withQueue rest) else none
  | ⟨.streamNext, .error none⟩ => some s
  | ⟨.streamNext, .error (some _)⟩ => if s.connected = false ∧ s.backend.host.queue = [] then some s else none
  | event => (s.backend.answer imageID (fun _ => false) event).map fun backend => { s with backend := backend }

/-- What happens without a call: something on the host, or time passes; or the stream fails, and of the events
that the monitor has not received it still receives the first `kept` ones. -/
inductive StreamHappening where
  | happening (e : Happening)
  | disconnect (kept : Nat)
  deriving DecidableEq, Repr

/-- Without a subscription nobody hears of what happens. -/
def Streamed.happen (s : Streamed) : StreamHappening → Option Streamed
  | .happening e =>
    (s.backend.happen e).map fun backend =>
      if s.connected then { s with backend := backend }
      else ({ s with backend := backend } : Streamed).withQueue s.backend.host.queue
  | .disconnect kept =>
    if s.connected then some { s.withQueue (s.backend.host.queue.take kept) with connected := false } else none

/-- No statement fails, and no inspection of a container that is there. -/
def streamed (imageID : GoString → GoString) : System Streamed StreamHappening Call Answer where
  answer := Streamed.answer imageID
  env := Streamed.happen

/-- The server. -/
abbrev ServerConfig := Config Unit Streamed Call Answer GoString Unit

abbrev ServerLabel := Label Unit StreamHappening Call Answer

/-- The server before its first call: there is no subscription yet. -/
def serverStart (n : Nat) (b : Backend) : ServerConfig :=
  Config.start ⟨{ b with host := { b.host with queue := [] } }, false⟩ fun _ => serveContainers n

/-- The table has the ids of the containers on the host. -/
def SameIDs (b : Backend) : Prop := ∀ id, b.containers.getContainer id = none ↔ b.host.containers id = none

/-- A container appears or disappears. -/
def HostAction.ChangesIDs : HostAction → Prop
  | .create _ _ => True
  | .destroy _ => True
  | _ => False

/-- The event of such an action. -/
def IDEvent (message : Message) : Prop := message.action = .create ∨ message.action = .destroy

/-- The condition on a step: containers appear and disappear only while there is a subscription, no such event
is lost when the stream fails, and a sync that finds no container finds no rows either. -/
def Watched (c : ServerConfig) : ServerLabel → Prop
  | .env (.happening (.host action)) => action.ChangesIDs → c.shared.connected = true
  | .env (.happening (.tick _)) => True
  | .env (.disconnect kept) => ∀ message ∈ c.shared.backend.host.queue.drop kept, ¬ IDEvent message
  | .call _ event => event.op = .deleteOrphanContainers [] → c.shared.backend.containers.rows = []

instance : DecidablePred HostAction.ChangesIDs
  | .create _ _ => isTrue trivial
  | .destroy _ => isTrue trivial
  | .start _ => isFalse not_false
  | .stop _ => isFalse not_false
  | .die _ => isFalse not_false
  | .restart _ => isFalse not_false
  | .pause _ => isFalse not_false
  | .unpause _ => isFalse not_false
  | .rename _ _ => isFalse not_false
  | .update _ _ => isFalse not_false

instance : DecidablePred IDEvent := fun _ => inferInstanceAs (Decidable (_ ∨ _))

instance (c : ServerConfig) : DecidablePred (Watched c)
  | .env (.happening (.host _)) => inferInstanceAs (Decidable (_ → _))
  | .env (.happening (.tick _)) => isTrue trivial
  | .env (.disconnect _) => inferInstanceAs (Decidable (∀ message ∈ _, _))
  | .call _ _ => inferInstanceAs (Decidable (_ → _))

/-! ## Where the server is -/

/-- What is left of `handleEvent`. -/
inductive HandlingAt : Phase → Program Call Answer GoString Unit → Prop where
  | done : HandlingAt .quiet (.done ())
  | publishDelete (id : GoString) : HandlingAt .quiet (perform (Call.publishDelete id))
  | reread (id : GoString) : HandlingAt .quiet (publishRow id)
  | publishSave (row : Db.Container) : HandlingAt .quiet (perform (Call.publishSave row))
  | deleting (id : GoString) : HandlingAt (.deleting id) (removeRow id)
  | inspecting (id : GoString) : HandlingAt (.inspecting id) (refreshRow id)
  | upserting (arg : UpsertContainerFromEventParams) : HandlingAt (.upserting arg) (upsertRow arg)

theorem handlingAt_handleEvent (event : Message) : HandlingAt (phaseOf event) (handleEvent event) := by
  unfold phaseOf handleEvent
  split
  · exact .done
  · split
    · exact .deleting event.actorID
    · split
      · exact .inspecting event.actorID
      · exact .done

/-- The next call of the handler, which receives no event, and where it is after it. -/
theorem HandlingAt.step {phase : Phase} {p : Program Call Answer GoString Unit} {event : CallEvent}
    {rest : Answer event.op → Program Call Answer GoString Unit} (hat : HandlingAt phase p)
    (hcall : p = .call event.op rest) :
    ∃ next, PhaseStep phase event next ∧ HandlingAt next (rest event.answer) ∧
      ∀ message, event ≠ ⟨.receiveEvent, message⟩ := by
  obtain ⟨op, answer⟩ := event
  cases hat with
  | done => cases hcall
  | publishDelete id =>
      cases hcall
      exact ⟨_, .publishDelete id answer, .done, nofun⟩
  | reread id =>
      cases hcall
      refine ⟨_, .reread id answer, ?_, nofun⟩
      cases answer with
      | ok row => exact .publishSave row
      | error err => exact .done
  | publishSave row =>
      cases hcall
      exact ⟨_, .publishSave row answer, .done, nofun⟩
  | deleting id =>
      cases hcall
      refine ⟨_, .delete id answer, ?_, nofun⟩
      cases answer with
      | ok u => exact .publishDelete id
      | error err => exact .done
  | inspecting id =>
      cases hcall
      cases answer with
      | ok inspect => exact ⟨_, .inspect id inspect, .upserting (eventParams id inspect), nofun⟩
      | error err => exact ⟨_, .missing id err, .done, nofun⟩
  | upserting arg =>
      cases hcall
      refine ⟨_, .upsert arg answer, ?_, nofun⟩
      cases answer with
      | ok u => exact .reread arg.id
      | error err => exact .done

/-- The stages of the server: the sync lists the containers, writes the rows that are left and deletes the
others; the monitor subscribes, and watches. -/
inductive Stage where
  | listing
  | syncing (ids : List GoString) (left : List ContainerSummary)
  | subscribing
  | watching (phase : Phase)
  | failed
  deriving DecidableEq, Repr

/-- What is left of the server in a stage. -/
inductive ServerAt : Stage → Program Call Answer GoString Unit → Prop where
  | listing (n : Nat) : ServerAt .listing (serveContainers n)
  | syncing (ids : List GoString) (left : List ContainerSummary) (n : Nat) :
      ServerAt (.syncing ids left)
        ((upsertListed left >>= fun _ => deleteOrphans ids) >>= fun _ => startEventMonitor n)
  | subscribing (n : Nat) : ServerAt .subscribing (startEventMonitor n)
  | watching {phase : Phase} {p : Program Call Answer GoString Unit} (hat : HandlingAt phase p) (n : Nat) :
      ServerAt (.watching phase) (p >>= fun _ => monitorLoop n)
  | failed (err : GoString) : ServerAt .failed (.fail err)

/-- One call of the server. -/
inductive StageStep : Stage → CallEvent → Stage → Prop where
  | list (items : List ContainerSummary) :
      StageStep .listing ⟨.containerList, .ok items⟩ (.syncing (items.map ContainerSummary.id) items)
  | upsert (ids : List GoString) (c : ContainerSummary) (left : List ContainerSummary) (u : Unit) :
      StageStep (.syncing ids (c :: left)) ⟨.upsertContainerFromEvent (summaryParams c), .ok u⟩ (.syncing ids left)
  | delete (ids : List GoString) (u : Unit) :
      StageStep (.syncing ids []) ⟨.deleteOrphanContainers ids, .ok u⟩ .subscribing
  | fail (stage : Stage) (event : CallEvent) : StageStep stage event .failed
  | subscribe (u : Unit) : StageStep .subscribing ⟨.events, u⟩ (.watching .quiet)
  | receive (message : Message) :
      StageStep (.watching .quiet) ⟨.streamNext, .ok message⟩ (.watching (phaseOf message))
  | nil : StageStep (.watching .quiet) ⟨.streamNext, .error none⟩ (.watching .quiet)
  | lost (err : GoString) : StageStep (.watching .quiet) ⟨.streamNext, .error (some err)⟩ .subscribing
  | handle {phase next : Phase} {event : CallEvent} (hphase : PhaseStep phase event next)
      (hreceive : ∀ message, event ≠ ⟨.receiveEvent, message⟩) :
      StageStep (.watching phase) event (.watching next)

/-- The next call of the server, and where it is after it. -/
theorem ServerAt.step {stage : Stage} {p : Program Call Answer GoString Unit} {event : CallEvent}
    {rest : Answer event.op → Program Call Answer GoString Unit} (hat : ServerAt stage p)
    (hcall : p = .call event.op rest) :
    ∃ next, StageStep stage event next ∧ ServerAt next (rest event.answer) := by
  obtain ⟨op, answer⟩ := event
  cases hat with
  | listing n =>
      cases hcall
      cases answer with
      | ok items => exact ⟨_, .list items, .syncing _ items n⟩
      | error err => exact ⟨_, .fail _ _, .failed err.message⟩
  | syncing ids left n =>
      cases left with
      | nil =>
          cases hcall
          cases answer with
          | ok u => exact ⟨_, .delete ids u, .subscribing n⟩
          | error err => exact ⟨_, .fail _ _, .failed err⟩
      | cons c left =>
          cases hcall
          cases answer with
          | ok u => exact ⟨_, .upsert ids c left u, .syncing ids left n⟩
          | error err => exact ⟨_, .fail _ _, .failed err⟩
  | subscribing n =>
      cases hcall
      exact ⟨_, .subscribe answer, .watching .done n⟩
  | @watching phase p hhandling n =>
      cases p with
      | fail err => cases hhandling
      | done u =>
          cases hhandling
          cases n with
          | zero => cases hcall
          | succ n =>
              cases hcall
              rcases answer with (_ | err) | message
              · exact ⟨_, .nil, .watching .done n⟩
              · exact ⟨_, .lost err, .subscribing n⟩
              · exact ⟨_, .receive message, .watching (handlingAt_handleEvent message) n⟩
      | call op' rest' =>
          cases hcall
          have hstep : ∃ next, PhaseStep phase ⟨op, answer⟩ next ∧ HandlingAt next (rest' answer) ∧
              ∀ message, (⟨op, answer⟩ : CallEvent) ≠ ⟨.receiveEvent, message⟩ := hhandling.step rfl
          obtain ⟨next, hphase, hnext, hreceive⟩ := hstep
          exact ⟨_, .handle hphase hreceive, .watching hnext n⟩
  | failed err => cases hcall

/-! ## Why the row of an id is there, or will be -/

/-- The row of a container will be written. -/
def CreatePending (b : Backend) (phase : Phase) (id : GoString) : Prop :=
  ⟨.create, id⟩ ∈ b.host.queue ∨ phase = .inspecting id ∨ phase.Writes id

structure IDSettled (b : Backend) (phase : Phase) (id : GoString) : Prop where
  gone : GoneSettled b phase id
  there : b.host.containers id ≠ none → b.containers.getContainer id ≠ none ∨ CreatePending b phase id

/-- What holds while the monitor watches. -/
structure WatchInv (b : Backend) (phase : Phase) : Prop where
  deleting : ∀ id, phase = .deleting id → Gone b.host id
  settled : ∀ id, IDSettled b phase id

/-- What holds in a stage.  Until the monitor subscribes the host has the containers that the sync has listed. -/
def StageInv (s : Streamed) : Stage → Prop
  | .listing => s.connected = false ∧ s.backend.host.queue = []
  | .syncing ids left => s.connected = false ∧ s.backend.host.queue = [] ∧
    (∀ id, s.backend.host.containers id ≠ none ↔ id ∈ ids) ∧
    ∀ id ∈ ids, id ∈ left.map ContainerSummary.id ∨ s.backend.containers.getContainer id ≠ none
  | .subscribing => s.connected = false ∧ s.backend.host.queue = [] ∧ WatchInv s.backend .quiet
  | .watching phase => WatchInv s.backend phase
  | .failed => True

structure ServerInv (c : ServerConfig) : Prop where
  coherent : c.shared.backend.host.Coherent
  stage : ∃ stage, ServerAt stage (c.threads ()) ∧ StageInv c.shared stage

/-! ## Steps without a call -/

variable {imageID : GoString → GoString} {b next : Backend} {s s' : Streamed} {phase after : Phase}
variable {stage stage' : Stage} {action : HostAction} {event : CallEvent} {id : GoString}

/-- The host has the container as before, and no event that counts has been lost. -/
theorem IDSettled.keep (hsettled : IDSettled b phase id) (hhost : next.host.containers id = b.host.containers id)
    (htable : next.containers = b.containers)
    (hqueue : ∀ message ∈ b.host.queue, IDEvent message → message ∈ next.host.queue) :
    IDSettled next phase id := by
  constructor
  · intro hnone
    rw [hhost] at hnone
    rw [htable]
    exact (hsettled.gone hnone).imp_right (Or.imp_left fun hmem => hqueue _ hmem (Or.inr rfl))
  · intro hsome
    rw [hhost] at hsome
    rw [htable]
    exact (hsettled.there hsome).imp_right (Or.imp_left fun hmem => hqueue _ hmem (Or.inl rfl))

/-- A quiet monitor deletes no row. -/
theorem WatchInv.of_quiet (hsettled : ∀ id, IDSettled b .quiet id) : WatchInv b .quiet := by
  refine ⟨fun id hphase => ?_, hsettled⟩
  cases hphase

/-- An action on the host; if it makes a container appear or disappear, the monitor will hear of it. -/
theorem WatchInv.perform {host : Host} (hinv : WatchInv b phase) (hperform : b.host.perform action = some host)
    (hhost : next.host.containers = host.containers) (hused : next.host.used = host.used)
    (htable : next.containers = b.containers)
    (hqueue : ∀ message ∈ b.host.queue, message ∈ next.host.queue)
    (hseen : action.ChangesIDs → ∀ message ∈ action.messages, message ∈ next.host.queue) :
    WatchInv next phase := by
  constructor
  · intro id hphase
    have hgone : Gone host id := (hinv.deleting id hphase).perform hperform
    exact ⟨hused ▸ hgone.1, hhost ▸ hgone.2⟩
  · intro id
    by_cases hid : id = action.id
    · subst hid
      constructor
      · intro hnone
        rw [hhost] at hnone
        have hdestroy := (containers_self_of_perform hperform).mp hnone
        refine Or.inr (Or.inl (hseen ?_ _ (mem_messages.mpr ⟨?_, rfl⟩)))
        · rw [hdestroy]
          trivial
        · rw [hdestroy]
          exact List.mem_singleton_self _
      · intro _
        rcases perform_cases hperform with ⟨new, container, rfl, -⟩ | ⟨container, -, hthere, -⟩
        · exact Or.inr (Or.inl (hseen trivial _ (mem_messages.mpr ⟨List.mem_singleton_self _, rfl⟩)))
        · rw [htable]
          have hbefore : b.host.containers action.id ≠ none := by
            rw [hthere]
            exact Option.some_ne_none container
          exact ((hinv.settled action.id).there hbefore).imp_right (Or.imp_left (hqueue _))
    · refine (hinv.settled id).keep ?_ htable fun message hmem _ => hqueue message hmem
      rw [hhost]
      exact containers_of_perform hperform hid

/-- An action while nobody is subscribed makes no container appear or disappear. -/
theorem isSome_of_perform {host : Host} (hperform : b.host.perform action = some host)
    (hids : ¬ action.ChangesIDs) (id : GoString) : host.containers id ≠ none ↔ b.host.containers id ≠ none := by
  by_cases hid : id = action.id
  · subst hid
    have hafter : host.containers action.id ≠ none := by
      rw [Ne, containers_self_of_perform hperform]
      intro hdestroy
      rw [hdestroy] at hids
      exact hids trivial
    have hbefore : b.host.containers action.id ≠ none := by
      rcases perform_cases hperform with ⟨new, container, rfl, -⟩ | ⟨container, -, hthere, -⟩
      · exact absurd trivial hids
      · rw [hthere]
        exact Option.some_ne_none container
    exact iff_of_true hafter hbefore
  · rw [containers_of_perform hperform hid]

/-- Something happens on the host. -/
theorem stageInv_perform {host : Host} (hinv : StageInv s stage) (hperform : s.backend.host.perform action = some host)
    (hwatched : action.ChangesIDs → s.connected = true) :
    StageInv (if s.connected then { s with backend := { s.backend with host := host } }
      else ({ s with backend := { s.backend with host := host } } : Streamed).withQueue s.backend.host.queue)
      stage := by
  cases hconnected : s.connected with
  | true =>
      rw [if_pos rfl]
      cases stage with
      | watching phase =>
          refine WatchInv.perform hinv hperform rfl rfl rfl ?_ ?_
          · intro message hmem
            show message ∈ host.queue
            rw [queue_of_perform hperform]
            exact List.mem_append_left _ hmem
          · intro _ message hmem
            show message ∈ host.queue
            rw [queue_of_perform hperform]
            exact List.mem_append_right _ hmem
      | failed => trivial
      | listing => exact absurd (hconnected.symm.trans hinv.1) nofun
      | syncing ids left => exact absurd (hconnected.symm.trans hinv.1) nofun
      | subscribing => exact absurd (hconnected.symm.trans hinv.1) nofun
  | false =>
      have hids : ¬ action.ChangesIDs := by
        intro hids
        rw [hwatched hids] at hconnected
        cases hconnected
      rw [if_neg Bool.false_ne_true]
      cases stage with
      | listing => exact ⟨rfl, hinv.2⟩
      | syncing ids left =>
          obtain ⟨-, hqueue, hhost, hrows⟩ := hinv
          exact ⟨rfl, hqueue, fun id => (isSome_of_perform hperform hids id).trans (hhost id), hrows⟩
      | subscribing =>
          obtain ⟨-, hqueue, hwatch⟩ := hinv
          exact ⟨rfl, hqueue, hwatch.perform hperform rfl rfl rfl (fun _ hmem => hmem)
            fun h => absurd h hids⟩
      | watching phase =>
          exact WatchInv.perform hinv hperform rfl rfl rfl (fun _ hmem => hmem) fun h => absurd h hids
      | failed => trivial

/-- The stream fails. -/
theorem stageInv_disconnect {kept : Nat} (hinv : StageInv s stage) (hconnected : s.connected = true)
    (hwatched : ∀ message ∈ s.backend.host.queue.drop kept, ¬ IDEvent message) :
    StageInv { s.withQueue (s.backend.host.queue.take kept) with connected := false } stage := by
  cases stage with
  | watching phase =>
      refine ⟨hinv.deleting, fun id => (hinv.settled id).keep rfl rfl ?_⟩
      intro message hmem hid
      rw [← List.take_append_drop kept s.backend.host.queue, List.mem_append] at hmem
      exact hmem.resolve_right fun hdropped => hwatched message hdropped hid
  | failed => trivial
  | listing => exact absurd (hconnected.symm.trans hinv.1) nofun
  | syncing ids left => exact absurd (hconnected.symm.trans hinv.1) nofun
  | subscribing => exact absurd (hconnected.symm.trans hinv.1) nofun

/-- The host stays coherent when waiting events are dropped. -/
theorem coherent_withQueue {queue : List Message} (hcoherent : s.backend.host.Coherent)
    (hqueue : ∀ message ∈ queue, message ∈ s.backend.host.queue) : (s.withQueue queue).backend.host.Coherent where
  ids_ne_nil := hcoherent.ids_ne_nil
  used := hcoherent.used
  gone id hmem := hcoherent.gone id (hqueue _ hmem)
  never_delete id hmem := hcoherent.never_delete id (hqueue _ hmem)

theorem serverInv_env {c : ServerConfig} {e : StreamHappening} (hinv : ServerInv c)
    (hwatched : Watched c (.env e)) (hhappen : c.shared.happen e = some s') :
    ServerInv { c with shared := s' } := by
  obtain ⟨stage, hat, hstage⟩ := hinv.stage
  cases e with
  | happening e =>
      obtain ⟨backend, hbackend, rfl⟩ := Option.map_eq_some_iff.mp hhappen
      cases e with
      | host action =>
          obtain ⟨host, hperform, rfl⟩ := Option.map_eq_some_iff.mp hbackend
          refine ⟨?_, stage, hat, stageInv_perform hstage hperform hwatched⟩
          have hafter : host.Coherent := hinv.coherent.perform hperform
          dsimp only
          split
          · exact hafter
          · -- the server is not connected: the messages of the action are lost
            refine coherent_withQueue (s := ⟨{ c.shared.backend with host := host }, c.shared.connected⟩) hafter ?_
            intro message hmem
            show message ∈ host.queue
            rw [queue_of_perform hperform]
            exact List.mem_append_left _ hmem
      | tick now =>
          simp only [Backend.happen] at hbackend
          split at hbackend
          · cases hbackend
            have hsame : ∀ connected : Bool, (if connected then
                  ({ c.shared with backend := { c.shared.backend with clock := now } } : Streamed)
                else ({ c.shared with backend := { c.shared.backend with clock := now } } : Streamed).withQueue
                  c.shared.backend.host.queue) =
                { c.shared with backend := { c.shared.backend with clock := now } } := by
              intro connected
              cases connected <;> rfl
            rw [hsame]
            refine ⟨hinv.coherent, stage, hat, ?_⟩
            cases stage with
            | watching phase => exact ⟨hstage.deleting, fun id => (hstage.settled id).keep rfl rfl fun _ h _ => h⟩
            | subscribing =>
                exact ⟨hstage.1, hstage.2.1, hstage.2.2.deleting,
                  fun id => (hstage.2.2.settled id).keep rfl rfl fun _ h _ => h⟩
            | _ => exact hstage
          · cases hbackend
  | disconnect kept =>
      simp only [Streamed.happen] at hhappen
      split at hhappen
      · rename_i hconnected
        cases hhappen
        refine ⟨?_, stage, hat, stageInv_disconnect hstage hconnected hwatched⟩
        exact coherent_withQueue hinv.coherent fun message hmem => List.mem_of_mem_take hmem
      · cases hhappen

/-! ## Calls -/

/-- A call that receives no event and acts on no container leaves the host as it is. -/
theorem host_eq_of_call {faults : Call → Bool} (hanswer : b.answer imageID faults event = some next)
    (hreceive : ∀ message, event ≠ ⟨.receiveEvent, message⟩) (hactions : hostActions imageID b.host event = []) :
    next.host = b.host := by
  rcases host_of_call hanswer hreceive with ⟨-, hsame⟩ | ⟨action, hsome, -⟩
  · exact hsame
  · rw [hactions] at hsome
    cases hsome

/-- The items of the list are the containers of the host. -/
theorem mem_ids_of_lists {host : Host} {items : List ContainerSummary} (hcoherent : host.Coherent)
    (hlists : host.Lists items) (id : GoString) :
    host.containers id ≠ none ↔ id ∈ items.map ContainerSummary.id := by
  obtain ⟨-, hitems, hall⟩ := hlists
  constructor
  · intro hsome
    exact hall id (hcoherent.used id hsome) hsome
  · intro hmem hnone
    obtain ⟨item, hitem, rfl⟩ := List.mem_map.mp hmem
    have hview := hitems item hitem
    rw [hnone] at hview
    cases hview

/-- A row stays when another is written. -/
theorem getContainer_upsert_ne_none {arg : UpsertContainerFromEventParams} {now : Int} {table : Containers}
    (hrow : id = arg.id ∨ table.getContainer id ≠ none) :
    (table.upsertContainerFromEvent arg now).getContainer id ≠ none := by
  rw [Containers.getContainer, Containers.get?_upsertContainerFromEvent]
  split
  · exact Option.some_ne_none _
  · rename_i hne
    exact hrow.resolve_left hne

/-- The rows whose ids are listed are the ones that are left. -/
theorem getContainer_deleteOrphans {ids : List GoString} {table : Containers} (hids : ids ≠ []) :
    (table.deleteOrphanContainers ids).getContainer id = none ↔ id ∉ ids ∨ table.getContainer id = none := by
  rw [Containers.deleteOrphanContainers, if_neg hids, Containers.getContainer, Containers.getContainer,
    KeyedTable.get?_deleteWhere]
  cases hget : table.get? id with
  | none => simp
  | some row =>
      have hkey : row.id = id := (KeyedTable.get?_eq_some_iff.mp hget).2
      simp [Option.filter, hkey]

/-- The sync ends with a table that has the ids of the host. -/
theorem watchInv_of_delete {ids : List GoString} (hhost : ∀ id, b.host.containers id ≠ none ↔ id ∈ ids)
    (hrows : ∀ id ∈ ids, b.containers.getContainer id ≠ none) (hsame : next.host.containers = b.host.containers)
    (htable : next.containers = b.containers.deleteOrphanContainers ids)
    (hempty : ids = [] → b.containers.rows = []) : WatchInv next .quiet := by
  have hids : ∀ id, next.containers.getContainer id = none ↔ id ∉ ids := by
    intro id
    rw [htable]
    by_cases hnil : ids = []
    · subst hnil
      refine iff_of_true ?_ List.not_mem_nil
      rw [Containers.deleteOrphanContainers, if_pos rfl, Containers.getContainer, KeyedTable.get?_eq_none_iff]
      intro row hrow
      rw [KeyedTable.mem_iff_mem_rows, hempty rfl] at hrow
      cases hrow
    · rw [getContainer_deleteOrphans hnil]
      refine or_iff_left_of_imp fun hnone hmem => ?_
      exact hrows id hmem hnone
  refine WatchInv.of_quiet fun id => ⟨fun hnone => ?_, fun hsome => ?_⟩
  · refine Or.inl ⟨(hids id).mpr fun hmem => ?_, not_writes_quiet⟩
    rw [hsame] at hnone
    exact (hhost id).mpr hmem hnone
  · rw [hsame] at hsome
    exact Or.inl fun hnone => (hids id).mp hnone ((hhost id).mp hsome)

/-- The monitor receives an event. -/
theorem WatchInv.receive {message : Message} (hinv : WatchInv b .quiet) (hcoherent : b.host.Coherent)
    (hcontainers : next.host.containers = b.host.containers) (hused : next.host.used = b.host.used)
    (hqueue : b.host.queue = message :: next.host.queue) (htable : next.containers = b.containers) :
    WatchInv next (phaseOf message) := by
  constructor
  · intro id hphase
    obtain ⟨hmem, hnone⟩ := gone_of_phaseOf hcoherent hqueue hphase
    exact ⟨hused ▸ hmem, hcontainers ▸ hnone⟩
  · intro id
    refine ⟨GoneSettled.receive (hinv.settled id).gone hcoherent hcontainers hqueue htable, ?_⟩
    intro hsome
    rw [hcontainers] at hsome
    rcases (hinv.settled id).there hsome with hrow | hmem | hphase | hwrites
    · exact Or.inl (htable ▸ hrow)
    · have hid : id ≠ [] := by
        rintro rfl
        exact hcoherent.ids_ne_nil (hcoherent.used [] hsome)
      rw [hqueue, List.mem_cons] at hmem
      rcases hmem with rfl | hleft
      · exact Or.inr (Or.inr (Or.inl (phaseOf_refreshes hid (Or.inl rfl))))
      · exact Or.inr (Or.inl hleft)
    · cases hphase
    · exact absurd hwrites not_writes_quiet

/-- A call of the handler that receives no event. -/
theorem WatchInv.phaseStep (hinv : WatchInv b phase) (hphase : PhaseStep phase event after)
    (hreceive : ∀ message, event ≠ ⟨.receiveEvent, message⟩)
    (hanswer : b.answer imageID (fun _ => false) event = some next) : WatchInv next after := by
  obtain ⟨hallowed, htable, -⟩ := answer_eq_some hanswer
  have hhost : next.host = b.host := by
    obtain ⟨queue, hqueue, hhost⟩ := host_eq_of_phaseStep hphase hanswer
    rw [hhost, ((queueAfter_cases hqueue).resolve_left ?_).2]
    rintro ⟨message, heq, -⟩
    exact hreceive message heq
  have hcontainers : next.host.containers = b.host.containers := by rw [hhost]
  have hqueue : next.host.queue = b.host.queue := by rw [hhost]
  have hmessages : ∀ message ∈ b.host.queue, IDEvent message → message ∈ next.host.queue := by
    intro message hmem _
    rwa [hqueue]
  -- what a settled container that is there has is kept by a call that neither writes nor deletes
  have hkeep : ∀ id, next.containers = b.containers → b.host.containers id ≠ none → phase ≠ .inspecting id →
      ¬ phase.Writes id → next.containers.getContainer id ≠ none ∨ CreatePending next after id := by
    intro id hrows hsome hinspecting hwrites
    rcases (hinv.settled id).there hsome with hrow | hmem | hphase | hwrite
    · exact Or.inl (hrows ▸ hrow)
    · exact Or.inr (Or.inl (hqueue ▸ hmem))
    · exact absurd hphase hinspecting
    · exact absurd hwrite hwrites
  cases hphase with
  | receive message => exact absurd rfl (hreceive message)
  | publishDelete target u =>
      exact WatchInv.of_quiet fun id => (hinv.settled id).keep (congrFun hcontainers id) htable hmessages
  | publishSave row u =>
      exact WatchInv.of_quiet fun id => (hinv.settled id).keep (congrFun hcontainers id) htable hmessages
  | reread target answer =>
      exact WatchInv.of_quiet fun id => (hinv.settled id).keep (congrFun hcontainers id) htable hmessages
  | delete target answer =>
      cases answer with
      | error err => cases hallowed
      | ok u =>
          refine WatchInv.of_quiet fun id => ⟨GoneSettled.delete (hinv.settled id).gone hcontainers hqueue htable, ?_⟩
          intro hsome
          rw [hcontainers] at hsome
          have hne : id ≠ target := by
            rintro rfl
            exact hsome (hinv.deleting id rfl).2
          have hrow : next.containers.getContainer id = b.containers.getContainer id := by
            rw [htable]
            exact (KeyedTable.get?_delete target id).trans (if_neg hne)
          rw [hrow]
          rcases (hinv.settled id).there hsome with hold | hmem | hphase | ⟨arg, hphase, -⟩
          · exact Or.inl hold
          · exact Or.inr (Or.inl (hqueue ▸ hmem))
          · cases hphase
          · cases hphase
  | inspect target inspect =>
      have hthere : b.host.containers target = some inspect := by simpa [allowed] using hallowed
      refine ⟨fun id hphase => ?_, fun id => ⟨?_, fun hsome => ?_⟩⟩
      · cases hphase
      · exact GoneSettled.inspect (hinv.settled id).gone hthere hcontainers hqueue htable
      · by_cases hid : id = target
        · exact Or.inr (Or.inr (Or.inr ⟨_, rfl, hid.symm⟩))
        · refine hkeep id htable (hcontainers ▸ hsome) ?_ ?_
          · intro hphase
            cases hphase
            exact hid rfl
          · rintro ⟨arg, hphase, -⟩
            cases hphase
  | missing target err =>
      have hmissing : b.host.containers target = none := by simpa [allowed] using hallowed
      refine WatchInv.of_quiet fun id => ⟨GoneSettled.missing (hinv.settled id).gone hcontainers hqueue htable, ?_⟩
      intro hsome
      refine hkeep id htable (hcontainers ▸ hsome) ?_ ?_
      · intro hphase
        cases hphase
        exact hsome (hcontainers ▸ hmissing)
      · rintro ⟨arg, hphase, -⟩
        cases hphase
  | upsert arg answer =>
      cases answer with
      | error err => cases hallowed
      | ok u =>
          refine WatchInv.of_quiet fun id => ⟨GoneSettled.upsert (hinv.settled id).gone hcontainers hqueue htable, ?_⟩
          intro hsome
          rw [hcontainers] at hsome
          have hrow : id = arg.id ∨ b.containers.getContainer id ≠ none →
              next.containers.getContainer id ≠ none := by
            intro hold
            rw [htable]
            exact getContainer_upsert_ne_none hold
          rcases (hinv.settled id).there hsome with hold | hmem | hphase | ⟨arg', hphase, harg⟩
          · exact Or.inl (hrow (Or.inr hold))
          · exact Or.inr (Or.inl (hqueue ▸ hmem))
          · cases hphase
          · cases hphase
            exact Or.inl (hrow (Or.inl harg.symm))

/-! ## The server -/

/-- A call that is not about the stream. -/
theorem answer_of_plain (hevents : event.op ≠ .events) (hnext : event.op ≠ .streamNext) :
    s.answer imageID event =
      (s.backend.answer imageID (fun _ => false) event).map fun backend => { s with backend := backend } := by
  obtain ⟨op, answer⟩ := event
  cases op with
  | events => exact absurd rfl hevents
  | streamNext => exact absurd rfl hnext
  | _ => rfl

/-- A call of the startup sync leaves the host and the events as they are. -/
theorem host_of_plain (hanswer : s.answer imageID event = some s') (hevents : event.op ≠ .events)
    (hnext : event.op ≠ .streamNext) (hreceive : event.op ≠ .receiveEvent)
    (hactions : hostActions imageID s.backend.host event = []) :
    s'.connected = s.connected ∧ s'.backend.host = s.backend.host ∧
      s'.backend.containers = tableAfter s.backend.containers s.backend.clock event ∧
      allowed (fun _ => false) s.backend event = true := by
  rw [answer_of_plain hevents hnext] at hanswer
  obtain ⟨backend, hbackend, rfl⟩ := Option.map_eq_some_iff.mp hanswer
  obtain ⟨hallowed, htable, -⟩ := answer_eq_some hbackend
  refine ⟨rfl, host_eq_of_call hbackend ?_ hactions, htable, hallowed⟩
  rintro message rfl
  exact hreceive rfl

/-- A call of the server keeps what holds in its stage, if it is watched. -/
theorem stageInv_of_call (hcoherent : s.backend.host.Coherent) (hinv : StageInv s stage)
    (hstep : StageStep stage event stage') (hanswer : s.answer imageID event = some s')
    (hempty : event.op = .deleteOrphanContainers [] → s.backend.containers.rows = []) :
    StageInv s' stage' := by
  cases hstep with
  | list items =>
      obtain ⟨hconnected, hqueue⟩ := hinv
      obtain ⟨hsame, hhost, -, hallowed⟩ := host_of_plain hanswer nofun nofun nofun rfl
      have hlists : s.backend.host.Lists items := of_decide_eq_true hallowed
      refine ⟨hsame.trans hconnected, ?_, ?_, fun id hmem => Or.inl hmem⟩
      · rw [hhost]
        exact hqueue
      · intro id
        rw [hhost]
        exact mem_ids_of_lists hcoherent hlists id
  | upsert ids c left u =>
      obtain ⟨hconnected, hqueue, hids, hrows⟩ := hinv
      obtain ⟨hsame, hhost, htable, -⟩ := host_of_plain hanswer nofun nofun nofun rfl
      refine ⟨hsame.trans hconnected, ?_, ?_, ?_⟩
      · rw [hhost]
        exact hqueue
      · rw [hhost]
        exact hids
      · intro id hmem
        rw [htable]
        rcases hrows id hmem with hleft | hrow
        · rcases List.mem_cons.mp hleft with rfl | hrest
          · exact Or.inr (getContainer_upsert_ne_none (Or.inl rfl))
          · exact Or.inl hrest
        · exact Or.inr (getContainer_upsert_ne_none (Or.inr hrow))
  | delete ids u =>
      -- the listed containers have been written, and the rows of all others go: the table mirrors the host
      obtain ⟨hconnected, hqueue, hids, hrows⟩ := hinv
      obtain ⟨hsame, hhost, htable, -⟩ := host_of_plain hanswer nofun nofun nofun rfl
      refine ⟨hsame.trans hconnected, ?_, ?_⟩
      · rw [hhost]
        exact hqueue
      · refine watchInv_of_delete hids ?_ (by rw [hhost]) htable ?_
        · intro id hmem
          exact (hrows id hmem).resolve_left nofun
        · rintro rfl
          exact hempty rfl
  | fail stage event => trivial
  | subscribe u =>
      -- nothing has happened between the list and the subscription, so the new stream starts with nothing missed
      obtain ⟨-, hqueue, hwatch⟩ := hinv
      cases hanswer
      refine ⟨hwatch.deleting, fun id => (hwatch.settled id).keep rfl rfl ?_⟩
      intro message hmem
      rw [hqueue] at hmem
      cases hmem
  | receive message =>
      simp only [Streamed.answer] at hanswer
      split at hanswer
      · cases hanswer
      · rename_i first rest hqueue
        split at hanswer
        · rename_i hfirst
          cases hanswer
          subst hfirst
          exact WatchInv.receive hinv hcoherent rfl rfl hqueue rfl
        · cases hanswer
  | nil =>
      cases hanswer
      exact hinv
  | lost err =>
      simp only [Streamed.answer] at hanswer
      split at hanswer
      · rename_i hlost
        cases hanswer
        exact ⟨hlost.1, hlost.2, hinv⟩
      · cases hanswer
  | handle hphase hreceive =>
      have hplain : event.op ≠ .events ∧ event.op ≠ .streamNext := by
        cases hphase with
        | _ => exact ⟨nofun, nofun⟩
      rw [answer_of_plain hplain.1 hplain.2] at hanswer
      obtain ⟨backend, hbackend, rfl⟩ := Option.map_eq_some_iff.mp hanswer
      exact WatchInv.phaseStep hinv hphase hreceive hbackend

/-- A call leaves the host coherent. -/
theorem coherent_of_streamed (hcoherent : s.backend.host.Coherent) (hanswer : s.answer imageID event = some s') :
    s'.backend.host.Coherent := by
  unfold Streamed.answer at hanswer
  split at hanswer
  · cases hanswer
    exact coherent_withQueue hcoherent nofun
  · split at hanswer
    · cases hanswer
    · rename_i first rest hqueue
      split at hanswer
      · cases hanswer
        refine coherent_withQueue hcoherent fun message hmem => ?_
        rw [hqueue]
        exact List.mem_cons_of_mem first hmem
      · cases hanswer
  · cases hanswer
    exact hcoherent
  · split at hanswer
    · cases hanswer
      exact hcoherent
    · cases hanswer
  · obtain ⟨backend, hbackend, rfl⟩ := Option.map_eq_some_iff.mp hanswer
    exact coherent_of_answer hcoherent hbackend

theorem serverInv_step {c c' : ServerConfig} {label : ServerLabel} (hinv : ServerInv c)
    (hwatched : Watched c label) (hstep : (streamed imageID).step c label = some c') : ServerInv c' := by
  cases label with
  | env e =>
      obtain ⟨shared, henv, rfl⟩ := step_env_eq_some_iff.mp hstep
      exact serverInv_env hinv hwatched henv
  | call i event =>
      obtain ⟨rest, shared, hcall, hanswer, rfl⟩ := step_call_eq_some_iff.mp hstep
      obtain ⟨stage, hat, hstage⟩ := hinv.stage
      obtain ⟨after, hstageStep, hat'⟩ := hat.step hcall
      refine ⟨coherent_of_streamed hinv.coherent hanswer, after, ?_, ?_⟩
      · show ServerAt after (Function.update c.threads () (rest event.answer) ())
        rw [Function.update_self]
        exact hat'
      · exact stageInv_of_call hinv.coherent hstage hstageStep hanswer hwatched

/-- A server that is in its loop, subscribed, watches and handles no event. -/
theorem watchInv_of_monitorLoop {n : Nat} (hat : ServerAt stage (monitorLoop n)) (hinv : StageInv s stage)
    (hconnected : s.connected = true) : WatchInv s.backend .quiet := by
  generalize hloop : monitorLoop n = p at hat
  cases hat with
  | listing m => cases n <;> cases hloop
  | syncing ids left m =>
      cases left with
      | nil => cases n <;> cases hloop
      | cons c left => cases n <;> cases hloop
  | subscribing m => exact absurd (hinv.1.symm.trans hconnected) Bool.false_ne_true
  | failed err => cases n <;> cases hloop
  | @watching phase p hhandling m =>
      cases hhandling with
      | deleting id => cases n <;> cases hloop
      | inspecting id => cases n <;> cases hloop
      | upserting arg => cases n <;> cases hloop
      | _ => exact hinv

/-- When the containers of the host appear and disappear only while the monitor is subscribed, none of these
events is lost, and an empty host is synced into an empty table: whenever the monitor is subscribed and has
handled every event, the table has the ids of the host. -/
theorem sameIDs_of_watched (imageID : GoString → GoString) (n : Nat) (b : Backend) (labels : List ServerLabel)
    (final : ServerConfig) (hcoherent : b.host.Coherent)
    (hwatched : Guarded (streamed imageID).step Watched (serverStart n b) labels)
    (hrun : exec (streamed imageID).step (serverStart n b) labels = some final)
    (hconnected : final.shared.connected = true)
    (hhandled : final.shared.backend.host.queue = [] ∧ ∃ m, final.threads () = monitorLoop m) :
    SameIDs final.shared.backend := by
  have hstart : ServerInv (serverStart n b) := by
    refine ⟨?_, .listing, .listing n, rfl, rfl⟩
    exact coherent_withQueue (s := ⟨b, false⟩) hcoherent nofun
  have hinv : ServerInv final :=
    exec_invariant_of_guarded ServerInv (fun _ _ _ hinv hguard hstep => serverInv_step hinv hguard hstep)
      hwatched hrun hstart
  obtain ⟨stage, hat, hstage⟩ := hinv.stage
  obtain ⟨hqueue, m, hloop⟩ := hhandled
  rw [hloop] at hat
  have hwatch : WatchInv final.shared.backend .quiet := watchInv_of_monitorLoop hat hstage hconnected
  have hnone : ∀ message, message ∉ final.shared.backend.host.queue := by
    rw [hqueue]
    exact fun _ => List.not_mem_nil
  intro id
  constructor
  · intro hrow
    by_contra hsome
    rcases (hwatch.settled id).there hsome with hthere | hmem | hphase | hwrites
    · exact hthere hrow
    · exact hnone _ hmem
    · cases hphase
    · exact not_writes_quiet hwrites
  · intro hgone
    rcases (hwatch.settled id).gone hgone with ⟨hrow, -⟩ | hmem | hphase
    · exact hrow
    · exact absurd hmem (hnone _)
    · cases hphase

/-! ## Two runs -/

/-- What the sync sees of the container. -/
def webSummary : ContainerSummary where
  id := str "web"
  names := [str "/web"]
  image := str "nginx:1"
  imageID := str "sha256:1"
  state := statusRunning

abbrev webServer : System Streamed StreamHappening Call Answer := streamed fun _ => str "sha256:1"

/-- The sync of the host with one container. -/
def webSync : List ServerLabel :=
  [.call () ⟨.containerList, .ok [webSummary]⟩,
    .call () ⟨.upsertContainerFromEvent (summaryParams webSummary), .ok ()⟩,
    .call () ⟨.deleteOrphanContainers [str "web"], .ok ()⟩]

/-- The container is destroyed while the monitor is subscribed; then the stream fails once. -/
def watchedRun : List ServerLabel :=
  webSync ++
    [.call () ⟨.events, ()⟩,
      .env (.happening (.host (.destroy (str "web")))),
      .call () ⟨.streamNext, .ok ⟨.destroy, str "web"⟩⟩,
      .call () ⟨.deleteContainer (str "web"), .ok ()⟩,
      .call () ⟨.publishDelete (str "web"), ()⟩,
      .env (.disconnect 0),
      .call () ⟨.streamNext, .error (some (str "unexpected EOF"))⟩,
      .call () ⟨.events, ()⟩]

theorem exec_watchedRun :
    (exec webServer.step (serverStart 2 webBackend) watchedRun).map
        (fun c => (c.shared.connected, c.shared.backend.host.queue, (c.threads ()).result?)) =
      some (true, [], some (.ok ())) := by
  decide +kernel

theorem sameIDs_of_watched_watchedRun :
    webBackend.host.Coherent ∧ Guarded webServer.step Watched (serverStart 2 webBackend) watchedRun ∧
      ∃ final, exec webServer.step (serverStart 2 webBackend) watchedRun = some final ∧
        final.shared.connected = true ∧ SameIDs final.shared.backend := by
  have hwatched : Guarded webServer.step Watched (serverStart 2 webBackend) watchedRun := by decide +kernel
  obtain ⟨final, hfinal, hend⟩ := Option.map_eq_some_iff.mp exec_watchedRun
  simp only [Prod.mk.injEq] at hend
  obtain ⟨hconnected, hqueue, hresult⟩ := hend
  refine ⟨coherent_webBackend, hwatched, final, hfinal, hconnected, ?_⟩
  exact sameIDs_of_watched _ 2 webBackend watchedRun final coherent_webBackend hwatched hfinal hconnected
    ⟨hqueue, 0, Program.eq_done_of_result? hresult⟩

/-- The container is destroyed between the sync and the subscription. -/
def gapRun : List ServerLabel :=
  webSync ++ [.env (.happening (.host (.destroy (str "web")))), .call () ⟨.events, ()⟩]

theorem exec_gapRun :
    (exec webServer.step (serverStart 0 webBackend) gapRun).map
        (fun c => (decide (c.shared.connected = true ∧ c.shared.backend.host.queue = []), (c.threads ()).result?,
          decide (c.shared.backend.containers.getContainer (str "web") = none ↔
            c.shared.backend.host.containers (str "web") = none))) =
      some (true, some (.ok ()), false) := by
  decide +kernel

/-- Nothing is left to handle, and the row of the destroyed container is still there. -/
theorem gap_leaves_row :
    webBackend.host.Coherent ∧ SameIDs webBackend ∧
      ∃ final, exec webServer.step (serverStart 0 webBackend) gapRun = some final ∧
        final.shared.connected = true ∧ final.shared.backend.host.queue = [] ∧
        (∃ m, final.threads () = monitorLoop m) ∧ ¬ SameIDs final.shared.backend := by
  obtain ⟨final, hfinal, hend⟩ := Option.map_eq_some_iff.mp exec_gapRun
  simp only [Prod.mk.injEq] at hend
  obtain ⟨hstream, hresult, hids⟩ := hend
  obtain ⟨hconnected, hqueue⟩ := of_decide_eq_true hstream
  have hstart : SameIDs webBackend := by
    intro id
    have hid := mirrors_webBackend id
    rw [← Option.map_eq_none_iff, hid, Option.map_eq_none_iff]
  refine ⟨coherent_webBackend, hstart, final, hfinal, hconnected, hqueue, ?_, ?_⟩
  · exact ⟨0, Program.eq_done_of_result? hresult⟩
  · intro hsame
    exact of_decide_eq_false hids (hsame (str "web"))

end Docker
end Dmanager
