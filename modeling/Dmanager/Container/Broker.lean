import Dmanager.Go.Sync
import Dmanager.Lib.History
import Dmanager.Lib.TransitionSystem

/-!
# The broker of the container streams

`Broker` of `internal/container/broker.go`, with any number of goroutines that publish and any number that
subscribe, receive and unsubscribe, as `StreamContainers` does.  Every statement that touches what they share is
a step of its own, and the steps of different goroutines come in any order: the lock is taken in two steps, the
loop of `Publish` sends to one channel at a time and in any order of the map, and `Unsubscribe` deletes the
channel before it closes it.

`broker_delivers` is what holds in every state of every run: nothing has panicked, every `Publish` can end
without anybody receiving, and each subscriber is sent the events that are published while it is subscribed, once
and in an order in which they were published (`Delivers`).

Two calls of `Publish` at the same time have no order of publication; an order of publication is one that agrees
with the calls that do not overlap.
-/

namespace Dmanager
namespace Container

open Go Lib

/-! ## The source -/

/-- The events that a channel holds, `make(chan *dmanagerv1.StreamContainersResponse, 100)`. -/
def channelCapacity : Nat := 100

/-- One call of `Publish`, with its event. -/
structure Publication (E : Type) where
  id : Nat
  event : E
  deriving DecidableEq, Repr

/-- Where a goroutine is in `Publish`: not in it, before `RLock`, or in the loop, with the channels that it has
visited. -/
inductive PublishStage (S E : Type) where
  | idle
  | waiting (pub : Publication E)
  | sending (pub : Publication E) (visited : Finset S)

/-- Where a subscriber is: `Subscribe` takes the lock, makes and registers the channel and lets the lock go;
`Unsubscribe` takes the lock, removes the channel from the map, closes it, and lets the lock go. -/
inductive SubscriberStage where
  | fresh
  | subscribing
  | creating
  | created
  | active
  | unsubscribing
  | removing
  | removed
  | closed
  | gone
  deriving DecidableEq, Repr

/-- What is remembered of a run: the calls and returns, what the loop of `Publish` has offered to the channel of
a subscriber, with the number of events that were pending there, and what was received. -/
inductive Occurrence (S E : Type) where
  | publishCalled (pub : Publication E)
  | publishReturned (pub : Publication E)
  | subscribeCalled (s : S)
  | subscribeReturned (s : S)
  | unsubscribeCalled (s : S)
  | unsubscribeReturned (s : S)
  | offered (s : S) (pub : Publication E) (pending : Nat)
  | received (s : S) (pub : Publication E)
  deriving DecidableEq, Repr

/-- The broker, the goroutines that use it, and the history of the run; `calls` counts the calls of `Publish`. -/
structure BrokerState (P S E : Type) where
  mu : RWMutex P S
  subscribers : Finset S
  channels : S → Chan (Publication E) channelCapacity
  publishers : P → PublishStage S E
  stages : S → SubscriberStage
  calls : Nat
  history : List (Occurrence S E)
  panicked : Bool

/-- `NewBroker`, before anybody uses it. -/
def newBroker {P S E : Type} : BrokerState P S E where
  mu := RWMutex.unlocked
  subscribers := ∅
  channels := fun _ => Chan.make
  publishers := fun _ => .idle
  stages := fun _ => .fresh
  calls := 0
  history := []
  panicked := false

/-- One step of a goroutine. -/
inductive BrokerLabel (P S E : Type) where
  | publish (p : P) (event : E)
  | rLock (p : P)
  | send (p : P) (s : S)
  | rUnlock (p : P)
  | subscribe (s : S)
  | unsubscribe (s : S)
  | announce (s : S)
  | acquire (s : S)
  | create (s : S)
  | delete (s : S)
  | close (s : S)
  | unlock (s : S)
  | receive (s : S)
  deriving DecidableEq, Repr

section Steps

variable {P S E : Type} [DecidableEq P] [DecidableEq S]

namespace BrokerState

/-- One turn of the loop of `Publish`. -/
def offer (b : BrokerState P S E) (p : P) (pub : Publication E) (visited : Finset S) (s : S) : BrokerState P S E :=
  match (b.channels s).trySend pub with
  | none => { b with panicked := true }
  | some ch =>
    { b with
      channels := Function.update b.channels s ch
      publishers := Function.update b.publishers p (.sending pub (insert s visited))
      history := .offered s pub (b.channels s).buffer.length :: b.history }

/-- `close(ch)`. -/
def closeChannel (b : BrokerState P S E) (s : S) : BrokerState P S E :=
  match (b.channels s).close with
  | none => { b with panicked := true }
  | some ch =>
    { b with
      channels := Function.update b.channels s ch
      stages := Function.update b.stages s .closed }

/-- A step of a publisher, which depends on where it is. -/
def publishStep (b : BrokerState P S E) : PublishStage S E → BrokerLabel P S E → Option (BrokerState P S E)
  | .idle, .publish p event =>
    some
      { b with
        publishers := Function.update b.publishers p (.waiting ⟨b.calls, event⟩)
        calls := b.calls + 1
        history := .publishCalled ⟨b.calls, event⟩ :: b.history }
  | .waiting pub, .rLock p =>
    (b.mu.rLock p).map fun mu =>
      { b with mu := mu, publishers := Function.update b.publishers p (.sending pub ∅) }
  | .sending pub visited, .send p s =>
    if s ∈ b.subscribers ∧ s ∉ visited then some (b.offer p pub visited s) else none
  | .sending pub visited, .rUnlock p =>
    if b.subscribers ⊆ visited then
      (b.mu.rUnlock p).map fun mu =>
        { b with
          mu := mu
          publishers := Function.update b.publishers p .idle
          history := .publishReturned pub :: b.history }
    else none
  | _, _ => none

/-- A step of a subscriber, which depends on where it is. -/
def subscriberStep (b : BrokerState P S E) : SubscriberStage → BrokerLabel P S E → Option (BrokerState P S E)
  | .fresh, .subscribe s =>
    some
      { b with
        stages := Function.update b.stages s .subscribing
        history := .subscribeCalled s :: b.history }
  | .subscribing, .announce s => (b.mu.announce s).map fun mu => { b with mu := mu }
  | .subscribing, .acquire s =>
    (b.mu.acquire s).map fun mu => { b with mu := mu, stages := Function.update b.stages s .creating }
  | .creating, .create s =>
    some
      { b with
        channels := Function.update b.channels s Chan.make
        subscribers := insert s b.subscribers
        stages := Function.update b.stages s .created }
  | .created, .unlock s =>
    (b.mu.unlock s).map fun mu =>
      { b with
        mu := mu
        stages := Function.update b.stages s .active
        history := .subscribeReturned s :: b.history }
  | .active, .unsubscribe s =>
    some
      { b with
        stages := Function.update b.stages s .unsubscribing
        history := .unsubscribeCalled s :: b.history }
  | .unsubscribing, .announce s => (b.mu.announce s).map fun mu => { b with mu := mu }
  | .unsubscribing, .acquire s =>
    (b.mu.acquire s).map fun mu => { b with mu := mu, stages := Function.update b.stages s .removing }
  | .removing, .delete s =>
    some
      { b with
        subscribers := b.subscribers.erase s
        stages := Function.update b.stages s .removed }
  | .removed, .close s => some (b.closeChannel s)
  | .closed, .unlock s =>
    (b.mu.unlock s).map fun mu =>
      { b with
        mu := mu
        stages := Function.update b.stages s .gone
        history := .unsubscribeReturned s :: b.history }
  | _, _ => none

/-- `<-ch` on the channel of a subscriber, at any time. -/
def receiveStep (b : BrokerState P S E) (s : S) : Option (BrokerState P S E) :=
  (b.channels s).receive.map fun (pub, ch) =>
    { b with
      channels := Function.update b.channels s ch
      history := .received s pub :: b.history }

/-- One step; a process that has panicked takes none. -/
def step (b : BrokerState P S E) (label : BrokerLabel P S E) : Option (BrokerState P S E) :=
  if b.panicked then none
  else
    match label with
    | .publish p _ => b.publishStep (b.publishers p) label
    | .rLock p => b.publishStep (b.publishers p) label
    | .send p _ => b.publishStep (b.publishers p) label
    | .rUnlock p => b.publishStep (b.publishers p) label
    | .receive s => b.receiveStep s
    | .subscribe s => b.subscriberStep (b.stages s) label
    | .unsubscribe s => b.subscriberStep (b.stages s) label
    | .announce s => b.subscriberStep (b.stages s) label
    | .acquire s => b.subscriberStep (b.stages s) label
    | .create s => b.subscriberStep (b.stages s) label
    | .delete s => b.subscriberStep (b.stages s) label
    | .close s => b.subscriberStep (b.stages s) label
    | .unlock s => b.subscriberStep (b.stages s) label

end BrokerState

/-! ## What a step does -/

/-- The steps, with what they need. -/
inductive BrokerStep : BrokerState P S E → BrokerLabel P S E → BrokerState P S E → Prop where
  | publish (b : BrokerState P S E) (p : P) (event : E) (hidle : b.publishers p = .idle) :
      BrokerStep b (.publish p event)
        { b with
          publishers := Function.update b.publishers p (.waiting ⟨b.calls, event⟩)
          calls := b.calls + 1
          history := .publishCalled ⟨b.calls, event⟩ :: b.history }
  | rLock (b : BrokerState P S E) (p : P) (pub : Publication E) (mu : RWMutex P S)
      (hwaiting : b.publishers p = .waiting pub) (hmu : b.mu.rLock p = some mu) :
      BrokerStep b (.rLock p)
        { b with mu := mu, publishers := Function.update b.publishers p (.sending pub ∅) }
  | send (b : BrokerState P S E) (p : P) (s : S) (pub : Publication E) (visited : Finset S)
      (hsending : b.publishers p = .sending pub visited) (hthere : s ∈ b.subscribers) (hnew : s ∉ visited) :
      BrokerStep b (.send p s) (b.offer p pub visited s)
  | rUnlock (b : BrokerState P S E) (p : P) (pub : Publication E) (visited : Finset S) (mu : RWMutex P S)
      (hsending : b.publishers p = .sending pub visited) (hall : b.subscribers ⊆ visited)
      (hmu : b.mu.rUnlock p = some mu) :
      BrokerStep b (.rUnlock p)
        { b with
          mu := mu
          publishers := Function.update b.publishers p .idle
          history := .publishReturned pub :: b.history }
  | subscribe (b : BrokerState P S E) (s : S) (hstage : b.stages s = .fresh) :
      BrokerStep b (.subscribe s)
        { b with
          stages := Function.update b.stages s .subscribing
          history := .subscribeCalled s :: b.history }
  | unsubscribe (b : BrokerState P S E) (s : S) (hstage : b.stages s = .active) :
      BrokerStep b (.unsubscribe s)
        { b with
          stages := Function.update b.stages s .unsubscribing
          history := .unsubscribeCalled s :: b.history }
  | announce (b : BrokerState P S E) (s : S) (mu : RWMutex P S)
      (hstage : b.stages s = .subscribing ∨ b.stages s = .unsubscribing) (hmu : b.mu.announce s = some mu) :
      BrokerStep b (.announce s) { b with mu := mu }
  | acquire (b : BrokerState P S E) (s : S) (mu : RWMutex P S) (stage : SubscriberStage)
      (hstage : b.stages s = .subscribing ∧ stage = .creating ∨ b.stages s = .unsubscribing ∧ stage = .removing)
      (hmu : b.mu.acquire s = some mu) :
      BrokerStep b (.acquire s) { b with mu := mu, stages := Function.update b.stages s stage }
  | create (b : BrokerState P S E) (s : S) (hstage : b.stages s = .creating) :
      BrokerStep b (.create s)
        { b with
          channels := Function.update b.channels s Chan.make
          subscribers := insert s b.subscribers
          stages := Function.update b.stages s .created }
  | delete (b : BrokerState P S E) (s : S) (hstage : b.stages s = .removing) :
      BrokerStep b (.delete s)
        { b with
          subscribers := b.subscribers.erase s
          stages := Function.update b.stages s .removed }
  | close (b : BrokerState P S E) (s : S) (hstage : b.stages s = .removed) :
      BrokerStep b (.close s) (b.closeChannel s)
  | created (b : BrokerState P S E) (s : S) (mu : RWMutex P S) (hstage : b.stages s = .created)
      (hmu : b.mu.unlock s = some mu) :
      BrokerStep b (.unlock s)
        { b with
          mu := mu
          stages := Function.update b.stages s .active
          history := .subscribeReturned s :: b.history }
  | closed (b : BrokerState P S E) (s : S) (mu : RWMutex P S) (hstage : b.stages s = .closed)
      (hmu : b.mu.unlock s = some mu) :
      BrokerStep b (.unlock s)
        { b with
          mu := mu
          stages := Function.update b.stages s .gone
          history := .unsubscribeReturned s :: b.history }
  | receive (b : BrokerState P S E) (s : S) (pub : Publication E) (ch : Chan (Publication E) channelCapacity)
      (hreceive : (b.channels s).receive = some (pub, ch)) :
      BrokerStep b (.receive s)
        { b with
          channels := Function.update b.channels s ch
          history := .received s pub :: b.history }

variable {b next : BrokerState P S E} {label : BrokerLabel P S E}

theorem brokerStep_of_step (hstep : b.step label = some next) : b.panicked = false ∧ BrokerStep b label next := by
  unfold BrokerState.step at hstep
  split at hstep
  · cases hstep
  rename_i hcalm
  refine ⟨by simpa using hcalm, ?_⟩
  cases label with
  | publish p event =>
      cases hstage : b.publishers p <;> simp only [hstage, BrokerState.publishStep, reduceCtorEq] at hstep
      cases hstep
      exact .publish b p event hstage
  | rLock p =>
      cases hstage : b.publishers p <;> simp only [hstage, BrokerState.publishStep, reduceCtorEq] at hstep
      obtain ⟨mu, hmu, rfl⟩ := Option.map_eq_some_iff.mp hstep
      exact .rLock b p _ mu hstage hmu
  | send p s =>
      cases hstage : b.publishers p <;> simp only [hstage, BrokerState.publishStep, reduceCtorEq] at hstep
      obtain ⟨⟨hthere, hnew⟩, heq⟩ := Option.ite_none_right_eq_some.mp hstep
      cases heq
      exact .send b p s _ _ hstage hthere hnew
  | rUnlock p =>
      cases hstage : b.publishers p <;> simp only [hstage, BrokerState.publishStep, reduceCtorEq] at hstep
      obtain ⟨hall, heq⟩ := Option.ite_none_right_eq_some.mp hstep
      obtain ⟨mu, hmu, rfl⟩ := Option.map_eq_some_iff.mp heq
      exact .rUnlock b p _ _ mu hstage hall hmu
  | subscribe s =>
      cases hstage : b.stages s <;> simp only [hstage, BrokerState.subscriberStep, reduceCtorEq] at hstep
      cases hstep
      exact .subscribe b s hstage
  | unsubscribe s =>
      cases hstage : b.stages s <;> simp only [hstage, BrokerState.subscriberStep, reduceCtorEq] at hstep
      cases hstep
      exact .unsubscribe b s hstage
  | announce s =>
      cases hstage : b.stages s <;> simp only [hstage, BrokerState.subscriberStep, reduceCtorEq] at hstep
      all_goals obtain ⟨mu, hmu, rfl⟩ := Option.map_eq_some_iff.mp hstep
      · exact .announce b s mu (Or.inl hstage) hmu
      · exact .announce b s mu (Or.inr hstage) hmu
  | acquire s =>
      cases hstage : b.stages s <;> simp only [hstage, BrokerState.subscriberStep, reduceCtorEq] at hstep
      all_goals obtain ⟨mu, hmu, rfl⟩ := Option.map_eq_some_iff.mp hstep
      · exact .acquire b s mu _ (Or.inl ⟨hstage, rfl⟩) hmu
      · exact .acquire b s mu _ (Or.inr ⟨hstage, rfl⟩) hmu
  | create s =>
      cases hstage : b.stages s <;> simp only [hstage, BrokerState.subscriberStep, reduceCtorEq] at hstep
      cases hstep
      exact .create b s hstage
  | delete s =>
      cases hstage : b.stages s <;> simp only [hstage, BrokerState.subscriberStep, reduceCtorEq] at hstep
      cases hstep
      exact .delete b s hstage
  | close s =>
      cases hstage : b.stages s <;> simp only [hstage, BrokerState.subscriberStep, reduceCtorEq] at hstep
      cases hstep
      exact .close b s hstage
  | unlock s =>
      cases hstage : b.stages s <;> simp only [hstage, BrokerState.subscriberStep, reduceCtorEq] at hstep
      all_goals obtain ⟨mu, hmu, rfl⟩ := Option.map_eq_some_iff.mp hstep
      · exact .created b s mu hstage hmu
      · exact .closed b s mu hstage hmu
  | receive s =>
      obtain ⟨⟨pub, ch⟩, hreceive, rfl⟩ := Option.map_eq_some_iff.mp hstep
      exact .receive b s pub ch hreceive

end Steps

/-! ## The lock keeps the map and the channels together -/

/-- The subscriber has the lock. -/
def SubscriberStage.Locked : SubscriberStage → Prop
  | .creating => True
  | .created => True
  | .removing => True
  | .removed => True
  | .closed => True
  | _ => False

/-- The subscriber waits for the lock, or will. -/
def SubscriberStage.Waiting (stage : SubscriberStage) : Prop := stage = .subscribing ∨ stage = .unsubscribing

/-- The channel of the subscriber is in the map. -/
def SubscriberStage.Registered : SubscriberStage → Prop
  | .created => True
  | .active => True
  | .unsubscribing => True
  | .removing => True
  | _ => False

/-- The channel of the subscriber is closed. -/
def SubscriberStage.Closed (stage : SubscriberStage) : Prop := stage = .closed ∨ stage = .gone

/-- The publisher has the lock. -/
def PublishStage.Sending {S E : Type} (stage : PublishStage S E) : Prop := ∃ pub visited, stage = .sending pub visited

/-- What the lock, the map and the channels have to do with the stages. -/
structure LockInv {P S E : Type} (b : BrokerState P S E) : Prop where
  calm : b.panicked = false
  readers : ∀ p, p ∈ b.mu.readers ↔ (b.publishers p).Sending
  locked : ∀ s, (b.stages s).Locked → b.mu.writer = some s ∧ b.mu.held = true
  writer : ∀ s, b.mu.writer = some s → (b.stages s).Locked ∨ b.mu.held = false ∧ (b.stages s).Waiting
  registered : ∀ s, s ∈ b.subscribers ↔ (b.stages s).Registered
  closed : ∀ s, (b.channels s).closed = true ↔ (b.stages s).Closed
  visited : ∀ p pub visited, b.publishers p = .sending pub visited → visited ⊆ b.subscribers

section Lock

variable {P S E : Type} {b next : BrokerState P S E} {label : BrokerLabel P S E}

theorem lockInv_newBroker : LockInv (newBroker : BrokerState P S E) := by
  constructor
  all_goals simp [newBroker, RWMutex.unlocked, Chan.make, PublishStage.Sending, SubscriberStage.Locked,
    SubscriberStage.Registered, SubscriberStage.Closed]

/-- The channel of a registered subscriber is open. -/
theorem LockInv.isOpen (hinv : LockInv b) {s : S} (hthere : s ∈ b.subscribers) : (b.channels s).closed = false := by
  have hregistered := (hinv.registered s).mp hthere
  rw [← Bool.not_eq_true, hinv.closed]
  rintro (hclosed | hgone)
  · rw [hclosed] at hregistered
    exact hregistered
  · rw [hgone] at hregistered
    exact hregistered

/-- So is that of a subscriber that is about to close it. -/
theorem LockInv.isOpen_of_removed (hinv : LockInv b) {s : S} (hstage : b.stages s = .removed) :
    (b.channels s).closed = false := by
  rw [← Bool.not_eq_true, hinv.closed, hstage]
  rintro (h | h) <;> cases h

/-- While a subscriber has the lock nobody is in the loop of `Publish`. -/
theorem LockInv.not_sending (hinv : LockInv b) {s : S} (hlocked : (b.stages s).Locked) (p : P) :
    ¬ (b.publishers p).Sending := by
  rw [← hinv.readers]
  exact RWMutex.not_mem_readers (hinv.locked s hlocked).2

/-- A step of a publisher, which leaves the subscribers alone. -/
theorem LockInv.publisher [DecidableEq P] (hinv : LockInv b) {p : P} {stage : PublishStage S E}
    (hcalm : next.panicked = false) (hstages : next.stages = b.stages) (hsubscribers : next.subscribers = b.subscribers)
    (hclosed : ∀ s, (next.channels s).closed = (b.channels s).closed)
    (hpublishers : next.publishers = Function.update b.publishers p stage)
    (hwriter : next.mu.writer = b.mu.writer) (hheld : next.mu.held = b.mu.held)
    (hreaders : ∀ q, q ∈ next.mu.readers ↔ q = p ∧ stage.Sending ∨ q ≠ p ∧ q ∈ b.mu.readers)
    (hvisited : ∀ pub visited, stage = .sending pub visited → visited ⊆ b.subscribers) : LockInv next := by
  refine ⟨hcalm, fun q => ?_, ?_, ?_, ?_, fun s => ?_, ?_⟩
  · rw [hreaders, hpublishers, hinv.readers]
    by_cases hq : q = p
    · subst hq
      simp
    · simp [hq]
  · rw [hstages, hwriter, hheld]
    exact hinv.locked
  · rw [hstages, hwriter, hheld]
    exact hinv.writer
  · rw [hstages, hsubscribers]
    exact hinv.registered
  · rw [hclosed, hstages]
    exact hinv.closed s
  · intro q pub visited hsending
    rw [hsubscribers]
    rw [hpublishers] at hsending
    by_cases hq : q = p
    · subst hq
      rw [Function.update_self] at hsending
      exact hvisited pub visited hsending
    · rw [Function.update_of_ne hq] at hsending
      exact hinv.visited q pub visited hsending

/-- A step of a subscriber, which leaves the publishers alone. -/
theorem LockInv.subscriber [DecidableEq S] (hinv : LockInv b) {s : S} {stage : SubscriberStage}
    (hcalm : next.panicked = false) (hpublishers : next.publishers = b.publishers)
    (hstages : next.stages = Function.update b.stages s stage)
    (hreaders : next.mu.readers = b.mu.readers)
    (hlocked : stage.Locked → next.mu.writer = some s ∧ next.mu.held = true)
    (hothers : ∀ other ≠ s, (b.stages other).Locked → next.mu.writer = some other ∧ next.mu.held = true)
    (hwriter : ∀ other, next.mu.writer = some other →
      other = s ∧ (stage.Locked ∨ next.mu.held = false ∧ stage.Waiting) ∨
        other ≠ s ∧ ((b.stages other).Locked ∨ next.mu.held = false ∧ (b.stages other).Waiting))
    (hregistered : ∀ other, other ∈ next.subscribers ↔
      other = s ∧ stage.Registered ∨ other ≠ s ∧ other ∈ b.subscribers)
    (hclosed : ∀ other, (next.channels other).closed = true ↔
      other = s ∧ stage.Closed ∨ other ≠ s ∧ (b.channels other).closed = true)
    (hvisited : ∀ p pub visited, b.publishers p = .sending pub visited → visited ⊆ next.subscribers) :
    LockInv next := by
  refine ⟨hcalm, fun q => ?_, fun other => ?_, fun other hother => ?_, fun other => ?_, fun other => ?_, ?_⟩
  · rw [hreaders, hpublishers]
    exact hinv.readers q
  all_goals try
    rw [hstages]
    by_cases hsame : other = s
  · subst hsame
    rw [Function.update_self]
    exact hlocked
  · rw [Function.update_of_ne hsame]
    exact hothers other hsame
  · subst hsame
    rw [Function.update_self]
    exact ((hwriter other hother).resolve_right fun h => h.1 rfl).2
  · rw [Function.update_of_ne hsame]
    exact ((hwriter other hother).resolve_left fun h => hsame h.1).2
  · subst hsame
    rw [Function.update_self, hregistered]
    simp
  · rw [Function.update_of_ne hsame, hregistered, ← hinv.registered]
    simp [hsame]
  · subst hsame
    rw [Function.update_self, hclosed]
    simp
  · rw [Function.update_of_ne hsame, hclosed, ← hinv.closed]
    simp [hsame]
  · intro p pub visited hsending
    rw [hpublishers] at hsending
    exact hvisited p pub visited hsending

variable [DecidableEq P] [DecidableEq S]

/-- A turn of the loop on an open channel. -/
theorem offer_of_open {p : P} {pub : Publication E} {visited : Finset S} {s : S}
    (hopen : (b.channels s).closed = false) :
    ∃ ch : Chan (Publication E) channelCapacity, ch.closed = false ∧
      ch.buffer = (if (b.channels s).buffer.length < channelCapacity then (b.channels s).buffer ++ [pub]
        else (b.channels s).buffer) ∧
      b.offer p pub visited s =
        { b with
          channels := Function.update b.channels s ch
          publishers := Function.update b.publishers p (.sending pub (insert s visited))
          history := .offered s pub (b.channels s).buffer.length :: b.history } := by
  obtain ⟨ch, hsend, hclosed, hbuffer⟩ := Chan.trySend_of_open (a := pub) hopen
  refine ⟨ch, hclosed, hbuffer, ?_⟩
  unfold BrokerState.offer
  rw [hsend]

omit [DecidableEq P] in
/-- An open channel is closed. -/
theorem closeChannel_of_open {s : S} (hopen : (b.channels s).closed = false) :
    b.closeChannel s =
      { b with
        channels := Function.update b.channels s { b.channels s with closed := true }
        stages := Function.update b.stages s .closed } := by
  unfold BrokerState.closeChannel Chan.close
  rw [hopen, if_neg Bool.false_ne_true]

omit [DecidableEq P] in
/-- The map stays as it is, and so does whether the subscriber is in it. -/
theorem LockInv.sameRegistered (hinv : LockInv b) {s : S} {stage : SubscriberStage}
    (hsame : stage.Registered ↔ (b.stages s).Registered) (other : S) :
    other ∈ b.subscribers ↔ other = s ∧ stage.Registered ∨ other ≠ s ∧ other ∈ b.subscribers := by
  by_cases hother : other = s
  · subst hother
    simp [hinv.registered, hsame]
  · simp [hother]

omit [DecidableEq P] in
/-- No channel is closed, and the subscriber is on the same side of its closing. -/
theorem LockInv.sameClosed (hinv : LockInv b) {s : S} {stage : SubscriberStage}
    (hsame : stage.Closed ↔ (b.stages s).Closed) (other : S) :
    (b.channels other).closed = true ↔
      other = s ∧ stage.Closed ∨ other ≠ s ∧ (b.channels other).closed = true := by
  by_cases hother : other = s
  · subst hother
    simp [hinv.closed, hsame]
  · simp [hother]

omit [DecidableEq P] in
/-- A step of a subscriber between two calls about the lock. -/
theorem LockInv.sameLock (hinv : LockInv b) {s : S} {stage : SubscriberStage} (hcalm : next.panicked = false)
    (hpublishers : next.publishers = b.publishers) (hstages : next.stages = Function.update b.stages s stage)
    (hmu : next.mu = b.mu) (hlocked : stage.Locked ↔ (b.stages s).Locked)
    (hwaiting : (b.stages s).Waiting → stage.Waiting)
    (hregistered : ∀ other, other ∈ next.subscribers ↔
      other = s ∧ stage.Registered ∨ other ≠ s ∧ other ∈ b.subscribers)
    (hclosed : ∀ other, (next.channels other).closed = true ↔
      other = s ∧ stage.Closed ∨ other ≠ s ∧ (b.channels other).closed = true)
    (hvisited : ∀ p pub visited, b.publishers p = .sending pub visited → visited ⊆ next.subscribers) :
    LockInv next := by
  refine hinv.subscriber hcalm hpublishers hstages (by rw [hmu]) ?_ ?_ ?_ hregistered hclosed hvisited
  · rw [hmu, hlocked]
    exact hinv.locked s
  · rw [hmu]
    exact fun other _ hother => hinv.locked other hother
  · rw [hmu]
    intro other hother
    by_cases hsame : other = s
    · subst hsame
      exact Or.inl ⟨rfl, (hinv.writer other hother).imp hlocked.mpr fun h => ⟨h.1, hwaiting h.2⟩⟩
    · exact Or.inr ⟨hsame, hinv.writer other hother⟩

omit [DecidableEq P] in
/-- The subscriber lets the lock go. -/
theorem LockInv.unlock (hinv : LockInv b) {s : S} {stage : SubscriberStage} {mu : RWMutex P S}
    (hmu : b.mu.unlock s = some mu) (hcalm : next.panicked = false)
    (hpublishers : next.publishers = b.publishers) (hstages : next.stages = Function.update b.stages s stage)
    (hnext : next.mu = mu) (hsubscribers : next.subscribers = b.subscribers)
    (hchannels : next.channels = b.channels) (hlocked : ¬ stage.Locked)
    (hregistered : stage.Registered ↔ (b.stages s).Registered) (hclosed : stage.Closed ↔ (b.stages s).Closed) :
    LockInv next := by
  obtain ⟨⟨hwriter, -⟩, hreaders, hnone, -⟩ := RWMutex.unlock_eq_some_iff.mp hmu
  subst hnext
  refine hinv.subscriber hcalm hpublishers hstages hreaders (fun h => absurd h hlocked) ?_ ?_ ?_ ?_ ?_
  · intro other hother hothers
    have hsame := (hinv.locked other hothers).1
    rw [hwriter, Option.some.injEq] at hsame
    exact absurd hsame.symm hother
  · intro other hother
    rw [hnone] at hother
    cases hother
  · rw [hsubscribers]
    exact hinv.sameRegistered hregistered
  · rw [hchannels]
    exact hinv.sameClosed hclosed
  · rw [hsubscribers]
    exact hinv.visited

theorem lockInv_step (hinv : LockInv b) (hstep : BrokerStep b label next) : LockInv next := by
  cases hstep with
  | publish p event hidle =>
      refine hinv.publisher hinv.calm rfl rfl (fun _ => rfl) rfl rfl rfl ?_ nofun
      intro q
      have hp : p ∉ b.mu.readers := by
        rw [hinv.readers, hidle]
        rintro ⟨pub, visited, heq⟩
        cases heq
      simp only [PublishStage.Sending, reduceCtorEq, exists_false, and_false, false_or]
      refine ⟨fun hq => ⟨?_, hq⟩, And.right⟩
      rintro rfl
      exact hp hq
  | rLock p pub mu hwaiting hmu =>
      -- a reader gets in only while no writer waits or writes, so the lock is otherwise as before
      obtain ⟨hwriter, hreaders, hnone, hfree⟩ := RWMutex.rLock_eq_some_iff.mp hmu
      have hheld : b.mu.held = false := by
        rw [← Bool.not_eq_true]
        exact fun hheld => (b.mu.exclusive hheld).2 hwriter
      refine hinv.publisher hinv.calm rfl rfl (fun _ => rfl) rfl (hnone.trans hwriter.symm) (hfree.trans hheld.symm)
        ?_ ?_
      · intro q
        show q ∈ mu.readers ↔ _
        rw [hreaders, Finset.mem_insert]
        by_cases hq : q = p
        · simp [hq, PublishStage.Sending]
        · simp [hq]
      · intro pub' visited heq
        cases heq
        exact Finset.empty_subset _
  | send p s pub visited hsending hthere hnew =>
      -- the channel is registered, hence open: the send does not panic
      obtain ⟨ch, hopen, -, heq⟩ := offer_of_open (hinv.isOpen hthere)
      rw [heq]
      refine hinv.publisher hinv.calm rfl rfl ?_ rfl rfl rfl ?_ ?_
      · intro other
        by_cases hother : other = s
        · subst hother
          simp [hopen, hinv.isOpen hthere]
        · simp [hother]
      · intro q
        by_cases hq : q = p
        · subst hq
          have hreader : q ∈ b.mu.readers := (hinv.readers q).mpr ⟨_, _, hsending⟩
          simp [PublishStage.Sending, hreader]
        · simp [hq]
      · intro pub' visited' heq
        cases heq
        exact Finset.insert_subset hthere (hinv.visited p pub visited hsending)
  | rUnlock p pub visited mu hsending hall hmu =>
      obtain ⟨hreader, hreaders, hwriter, hheld⟩ := RWMutex.rUnlock_eq_some_iff.mp hmu
      refine hinv.publisher hinv.calm rfl rfl (fun _ => rfl) rfl hwriter hheld ?_ nofun
      intro q
      show q ∈ mu.readers ↔ _
      rw [hreaders, Finset.mem_erase]
      simp [PublishStage.Sending]
  | subscribe s hstage =>
      refine hinv.sameLock hinv.calm rfl rfl rfl ?_ (fun _ => Or.inl rfl) ?_ ?_ hinv.visited
      · simp [hstage, SubscriberStage.Locked]
      · exact hinv.sameRegistered (by simp [hstage, SubscriberStage.Registered])
      · exact hinv.sameClosed (by simp [hstage, SubscriberStage.Closed])
  | unsubscribe s hstage =>
      refine hinv.sameLock hinv.calm rfl rfl rfl ?_ (fun _ => Or.inr rfl) ?_ ?_ hinv.visited
      · simp [hstage, SubscriberStage.Locked]
      · exact hinv.sameRegistered (by simp [hstage, SubscriberStage.Registered])
      · exact hinv.sameClosed (by simp [hstage, SubscriberStage.Closed])
  | announce s mu hstage hmu =>
      -- the lock is announced, not held: the subscriber goes on waiting
      obtain ⟨hnone, hreaders, hwriter, hheld⟩ := RWMutex.announce_eq_some_iff.mp hmu
      have hunlocked : ∀ other, ¬ (b.stages other).Locked := by
        intro other hlocked
        rw [(hinv.locked other hlocked).1] at hnone
        cases hnone
      refine ⟨hinv.calm, fun q => ?_, fun other hother => absurd hother (hunlocked other), fun other hother => ?_,
        hinv.registered, hinv.closed, hinv.visited⟩
      · show q ∈ mu.readers ↔ _
        rw [hreaders]
        exact hinv.readers q
      · have hsame : s = other := Option.some.inj (hwriter.symm.trans hother)
        subst hsame
        exact Or.inr ⟨hheld, hstage⟩
  | acquire s mu stage hstage hmu =>
      obtain ⟨⟨hbefore, hnone, -⟩, hreaders, hwriter, hheld⟩ := RWMutex.acquire_eq_some_iff.mp hmu
      have hlocked : stage.Locked := by
        rcases hstage with ⟨-, rfl⟩ | ⟨-, rfl⟩
        · trivial
        · trivial
      refine hinv.subscriber hinv.calm rfl rfl (hreaders.trans hnone.symm) (fun _ => ⟨hwriter, hheld⟩) ?_ ?_ ?_ ?_
        hinv.visited
      · intro other hother hothers
        have hsame := (hinv.locked other hothers).1
        rw [hbefore, Option.some.injEq] at hsame
        exact absurd hsame.symm hother
      · intro other hother
        have hsame : s = other := Option.some.inj (hwriter.symm.trans hother)
        exact Or.inl ⟨hsame.symm, Or.inl hlocked⟩
      · refine hinv.sameRegistered ?_
        rcases hstage with ⟨hstage, rfl⟩ | ⟨hstage, rfl⟩
        · simp [hstage, SubscriberStage.Registered]
        · simp [hstage, SubscriberStage.Registered]
      · refine hinv.sameClosed ?_
        rcases hstage with ⟨hstage, rfl⟩ | ⟨hstage, rfl⟩
        · simp [hstage, SubscriberStage.Closed]
        · simp [hstage, SubscriberStage.Closed]
  | create s hstage =>
      refine hinv.sameLock hinv.calm rfl rfl rfl ?_ ?_ ?_ ?_ ?_
      · simp [hstage, SubscriberStage.Locked]
      · simp [hstage, SubscriberStage.Waiting]
      · intro other
        by_cases hother : other = s
        · simp [hother, SubscriberStage.Registered]
        · simp [hother]
      · intro other
        by_cases hother : other = s
        · subst hother
          simp [Chan.make, SubscriberStage.Closed]
        · simp [hother]
      · intro p pub visited hsending
        exact (hinv.visited p pub visited hsending).trans (Finset.subset_insert s _)
  | delete s hstage =>
      have hlocked : (b.stages s).Locked := by
        rw [hstage]
        trivial
      refine hinv.sameLock hinv.calm rfl rfl rfl ?_ ?_ ?_ ?_ ?_
      · simp [hstage, SubscriberStage.Locked]
      · simp [hstage, SubscriberStage.Waiting]
      · intro other
        by_cases hother : other = s
        · simp [hother, SubscriberStage.Registered]
        · simp [hother]
      · exact hinv.sameClosed (by simp [hstage, SubscriberStage.Closed])
      · -- nobody is in the loop while the map changes
        intro p pub visited hsending
        exact absurd ⟨pub, visited, hsending⟩ (hinv.not_sending hlocked p)
  | close s hstage =>
      -- it has left the map but is still open: it is closed once
      rw [closeChannel_of_open (hinv.isOpen_of_removed hstage)]
      refine hinv.sameLock hinv.calm rfl rfl rfl ?_ ?_ ?_ ?_ hinv.visited
      · simp [hstage, SubscriberStage.Locked]
      · simp [hstage, SubscriberStage.Waiting]
      · exact hinv.sameRegistered (by simp [hstage, SubscriberStage.Registered])
      · intro other
        by_cases hother : other = s
        · subst hother
          simp [SubscriberStage.Closed]
        · simp [hother]
  | created s mu hstage hmu =>
      refine hinv.unlock hmu hinv.calm rfl rfl rfl rfl rfl id ?_ ?_
      · simp [hstage, SubscriberStage.Registered]
      · simp [hstage, SubscriberStage.Closed]
  | closed s mu hstage hmu =>
      refine hinv.unlock hmu hinv.calm rfl rfl rfl rfl rfl id ?_ ?_
      · simp [hstage, SubscriberStage.Registered]
      · simp [hstage, SubscriberStage.Closed]
  | receive s pub ch hreceive =>
      obtain ⟨-, hsame⟩ := Chan.receive_eq_some_iff.mp hreceive
      refine ⟨hinv.calm, hinv.readers, hinv.locked, hinv.writer, hinv.registered, fun other => ?_, hinv.visited⟩
      rw [← hinv.closed other]
      by_cases hother : other = s
      · subst hother
        simp [hsame]
      · simp [hother]

end Lock

end Container
end Dmanager
