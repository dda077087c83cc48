import Dmanager.Container.Broker

/-!
# What the broker delivers

The results about the runs of `Dmanager.Container.Broker`.  The history of a run says what was published and when,
what the loop of `Publish` has offered to each channel, and what was received; `Delivers` relates them.

* `PublicationInv`, `StageInv`, `QueueInv`, `OfferInv` — what the history and the state have to do with each other;
  `OrderInv` — what precedes what; `BrokerInv` is all of them, with the lock.
* `publish_ends` — from every state that is reached a call of `Publish` can be run to its end without anybody
  receiving: its own loop waits for nobody, and what it waits for before is a goroutine that has the lock.
* `broker_delivers` — all of it, for every run.
-/

namespace Dmanager
namespace Container

open Go Lib

/-! ## The events of a subscriber -/

section Events

variable {P S E : Type} [DecidableEq S]

/-- The publication that was offered to the channel of the subscriber. -/
def offeredTo (s : S) : Occurrence S E → Option (Publication E)
  | .offered other pub _ => if other = s then some pub else none
  | _ => none

/-- The publication that was put into it. -/
def acceptedBy (s : S) : Occurrence S E → Option (Publication E)
  | .offered other pub pending => if other = s ∧ pending < channelCapacity then some pub else none
  | _ => none

/-- The publication that was received from it. -/
def receivedFrom (s : S) : Occurrence S E → Option (Publication E)
  | .received other pub => if other = s then some pub else none
  | _ => none

namespace BrokerState

/-- What the subscriber was offered, in order. -/
def offers (b : BrokerState P S E) (s : S) : List (Publication E) := (b.history.filterMap (offeredTo s)).reverse

def accepted (b : BrokerState P S E) (s : S) : List (Publication E) :=
  (b.history.filterMap (acceptedBy s)).reverse

/-- What the subscriber has received, in order. -/
def received (b : BrokerState P S E) (s : S) : List (Publication E) :=
  (b.history.filterMap (receivedFrom s)).reverse

/-- What the subscriber has received, and what it can still receive from its channel. -/
def delivered (b : BrokerState P S E) (s : S) : List (Publication E) := b.received s ++ (b.channels s).buffer

end BrokerState

/-- `order` is the order in which the events of a subscriber were published, and it gets them in this order, each
at most once. -/
structure Delivers (b : BrokerState P S E) (s : S) (order : List (Publication E)) : Prop where
  /-- No event is there twice. -/
  nodup : order.Nodup
  /-- The subscriber gets a subsequence. -/
  delivered : (b.delivered s).Sublist order
  /-- They were published, and not before it called `Subscribe` or after its `Unsubscribe` was over. -/
  during : ∀ pub ∈ order, .publishCalled pub ∈ b.history ∧
    ¬ Precedes b.history (.publishReturned pub) (.subscribeCalled s) ∧
    ¬ Precedes b.history (.unsubscribeReturned s) (.publishCalled pub)
  /-- All events are there that were published after `Subscribe` was over and before it called `Unsubscribe`. -/
  complete : ∀ pub, Precedes b.history (.subscribeReturned s) (.publishCalled pub) →
    .publishReturned pub ∈ b.history → ¬ Precedes b.history (.unsubscribeCalled s) (.publishReturned pub) →
    pub ∈ order
  /-- Of two calls of `Publish` that do not overlap the first one comes first. -/
  ordered : ∀ first ∈ order, ∀ second ∈ order,
    Precedes b.history (.publishReturned first) (.publishCalled second) → [first, second].Sublist order
  /-- What it does not get found its channel full. -/
  full : ∀ pub ∈ order, pub ∉ b.delivered s → .offered s pub channelCapacity ∈ b.history

end Events

/-! ## The history and the state -/

section History

variable {P S E : Type} [DecidableEq P] [DecidableEq S] {b next : BrokerState P S E} {label : BrokerLabel P S E}

/-- The publication that a goroutine is in. -/
def PublishStage.Current (stage : PublishStage S E) (pub : Publication E) : Prop :=
  stage = .waiting pub ∨ ∃ visited, stage = .sending pub visited

/-- The subscriber has had its channel made. -/
def SubscriberStage.Made : SubscriberStage → Prop
  | .fresh => False
  | .subscribing => False
  | .creating => False
  | _ => True

/-- The subscriber has called `Unsubscribe`. -/
def SubscriberStage.Leaving : SubscriberStage → Prop
  | .unsubscribing => True
  | .removing => True
  | .removed => True
  | .closed => True
  | .gone => True
  | _ => False

/-- The calls of `Publish` in the history. -/
structure PublicationInv (b : BrokerState P S E) : Prop where
  ids : ∀ pub, .publishCalled pub ∈ b.history → pub.id < b.calls
  returned : ∀ pub, .publishReturned pub ∈ b.history → .publishCalled pub ∈ b.history
  current : ∀ p pub, (b.publishers p).Current pub →
    .publishCalled pub ∈ b.history ∧ .publishReturned pub ∉ b.history
  distinct : ∀ p q pub, (b.publishers p).Current pub → (b.publishers q).Current pub → p = q

omit [DecidableEq P] [DecidableEq S] in
/-- A step that neither begins nor ends a call of `Publish`. -/
theorem PublicationInv.of_same (hinv : PublicationInv b)
    (hpublishers : ∀ p pub, (next.publishers p).Current pub ↔ (b.publishers p).Current pub)
    (hcalls : next.calls = b.calls)
    (hcalled : ∀ pub, .publishCalled pub ∈ next.history ↔ .publishCalled pub ∈ b.history)
    (hreturned : ∀ pub, .publishReturned pub ∈ next.history ↔ .publishReturned pub ∈ b.history) :
    PublicationInv next := by
  constructor
  · simp only [hcalled, hcalls]
    exact hinv.ids
  · simp only [hcalled, hreturned]
    exact hinv.returned
  · simp only [hcalled, hreturned, hpublishers]
    exact hinv.current
  · simp only [hpublishers]
    exact hinv.distinct

omit [DecidableEq P] [DecidableEq S] in
/-- The number of the next call is new, so nothing that has happened is about it. -/
theorem PublicationInv.fresh (hinv : PublicationInv b) (event : E) :
    (.publishCalled ⟨b.calls, event⟩ : Occurrence S E) ∉ b.history :=
  fun hmem => lt_irrefl b.calls (hinv.ids _ hmem)

omit [DecidableEq S] in
/-- The publication of a goroutine when only one goroutine moves. -/
theorem current_update {p q : P} {stage : PublishStage S E} {pub : Publication E} :
    (Function.update b.publishers p stage q).Current pub ↔
      q = p ∧ stage.Current pub ∨ q ≠ p ∧ (b.publishers q).Current pub := by
  by_cases hq : q = p
  · subst hq
    simp
  · simp [hq]

theorem publicationInv_step (hlock : LockInv b) (hinv : PublicationInv b) (hstep : BrokerStep b label next) :
    PublicationInv next := by
  cases hstep with
  | publish p event hidle =>
      have hfresh := hinv.fresh event
      have hcurrent : ∀ pub, (PublishStage.waiting ⟨b.calls, event⟩ : PublishStage S E).Current pub ↔
          pub = ⟨b.calls, event⟩ := by
        intro pub
        simp [PublishStage.Current, eq_comm]
      constructor
      · intro pub hmem
        rcases List.mem_cons.mp hmem with heq | hold
        · cases heq
          exact Nat.lt_succ_self b.calls
        · exact Nat.lt_succ_of_lt (hinv.ids pub hold)
      · intro pub hmem
        rcases List.mem_cons.mp hmem with heq | hold
        · cases heq
        · exact List.mem_cons_of_mem _ (hinv.returned pub hold)
      · intro q pub hq
        rcases current_update.mp hq with ⟨-, hnew⟩ | ⟨-, hold⟩
        · rw [(hcurrent pub).mp hnew]
          refine ⟨List.mem_cons_self, fun hmem => ?_⟩
          rcases List.mem_cons.mp hmem with heq | hreturned
          · cases heq
          · exact hfresh (hinv.returned _ hreturned)
        · obtain ⟨hcalled, hreturned⟩ := hinv.current q pub hold
          exact ⟨List.mem_cons_of_mem _ hcalled, by simp [hreturned]⟩
      · intro q r pub hq hr
        rcases current_update.mp hq with ⟨rfl, hnew⟩ | ⟨hne, hold⟩
        · rcases current_update.mp hr with ⟨rfl, -⟩ | ⟨-, hother⟩
          · rfl
          · rw [(hcurrent pub).mp hnew] at hother
            exact absurd (hinv.current r _ hother).1 hfresh
        · rcases current_update.mp hr with ⟨rfl, hnew⟩ | ⟨-, hother⟩
          · rw [(hcurrent pub).mp hnew] at hold
            exact absurd (hinv.current q _ hold).1 hfresh
          · exact hinv.distinct q r pub hold hother
  | rLock p pub mu hwaiting hmu =>
      refine hinv.of_same (fun q pub' => ?_) rfl (fun _ => Iff.rfl) fun _ => Iff.rfl
      rw [current_update]
      by_cases hq : q = p
      · subst hq
        simp [hwaiting, PublishStage.Current]
      · simp [hq]
  | send p s pub visited hsending hthere hnew =>
      obtain ⟨ch, -, -, heq⟩ := offer_of_open (hlock.isOpen hthere)
      rw [heq]
      refine hinv.of_same (fun q pub' => ?_) rfl (by simp) (by simp)
      rw [current_update]
      by_cases hq : q = p
      · subst hq
        simp [hsending, PublishStage.Current]
      · simp [hq]
  | rUnlock p pub visited mu hsending hall hmu =>
      have hpub : (b.publishers p).Current pub := Or.inr ⟨visited, hsending⟩
      constructor
      · intro pub' hmem
        exact hinv.ids pub' (by simpa using hmem)
      · intro pub' hmem
        rcases List.mem_cons.mp hmem with heq | hold
        · cases heq
          exact List.mem_cons_of_mem _ (hinv.current p pub hpub).1
        · exact List.mem_cons_of_mem _ (hinv.returned pub' hold)
      · -- what another goroutine publishes is another publication
        intro q pub' hq
        rcases current_update.mp hq with ⟨-, hnew⟩ | ⟨hne, hold⟩
        · rcases hnew with h | ⟨_, h⟩ <;> cases h
        · obtain ⟨hcalled, hreturned⟩ := hinv.current q pub' hold
          refine ⟨List.mem_cons_of_mem _ hcalled, fun hmem => ?_⟩
          rcases List.mem_cons.mp hmem with heq | hbefore
          · cases heq
            exact hne (hinv.distinct q p pub hold hpub)
          · exact hreturned hbefore
      · intro q r pub' hq hr
        rcases current_update.mp hq with ⟨-, hnew⟩ | ⟨-, hold⟩
        · rcases hnew with h | ⟨_, h⟩ <;> cases h
        · rcases current_update.mp hr with ⟨-, hnew⟩ | ⟨-, hother⟩
          · rcases hnew with h | ⟨_, h⟩ <;> cases h
          · exact hinv.distinct q r pub' hold hother
  | close s hstage =>
      rw [closeChannel_of_open (hlock.isOpen_of_removed hstage)]
      exact hinv.of_same (fun _ _ => Iff.rfl) rfl (fun _ => Iff.rfl) fun _ => Iff.rfl
  | _ => exact hinv.of_same (fun _ _ => Iff.rfl) rfl (by simp) (by simp)

/-! ## The stages of a subscriber -/

/-- `Subscribe` has returned. -/
def SubscriberStage.Subscribed : SubscriberStage → Prop
  | .fresh => False
  | .subscribing => False
  | .creating => False
  | .created => False
  | _ => True

/-- What the calls of a subscriber in the history have to do with its stage. -/
structure StageInv (b : BrokerState P S E) : Prop where
  subscribed : ∀ s, .subscribeReturned s ∈ b.history ↔ (b.stages s).Subscribed
  leaving : ∀ s, .unsubscribeCalled s ∈ b.history ↔ (b.stages s).Leaving
  gone : ∀ s, .unsubscribeReturned s ∈ b.history ↔ b.stages s = .gone

omit [DecidableEq P] in
/-- One subscriber goes on to another stage; the occurrences of the others are left alone. -/
theorem StageInv.moved (hinv : StageInv b) {s : S} {stage : SubscriberStage}
    (hstages : next.stages = Function.update b.stages s stage)
    (hothers : ∀ other ≠ s,
      (.subscribeReturned other ∈ next.history ↔ .subscribeReturned other ∈ b.history) ∧
      (.unsubscribeCalled other ∈ next.history ↔ .unsubscribeCalled other ∈ b.history) ∧
      (.unsubscribeReturned other ∈ next.history ↔ .unsubscribeReturned other ∈ b.history))
    (hsubscribed : .subscribeReturned s ∈ next.history ↔ stage.Subscribed)
    (hleaving : .unsubscribeCalled s ∈ next.history ↔ stage.Leaving)
    (hgone : .unsubscribeReturned s ∈ next.history ↔ stage = .gone) : StageInv next := by
  constructor
  all_goals
    intro other
    rw [hstages]
    by_cases hsame : other = s
  · rw [hsame, Function.update_self]
    exact hsubscribed
  · rw [Function.update_of_ne hsame, (hothers other hsame).1]
    exact hinv.subscribed other
  · rw [hsame, Function.update_self]
    exact hleaving
  · rw [Function.update_of_ne hsame, (hothers other hsame).2.1]
    exact hinv.leaving other
  · rw [hsame, Function.update_self]
    exact hgone
  · rw [Function.update_of_ne hsame, (hothers other hsame).2.2]
    exact hinv.gone other

omit [DecidableEq P] in
/-- A step that only goes on, without a call or a return that counts here. -/
theorem StageInv.passed (hinv : StageInv b) {s : S} {stage : SubscriberStage}
    (hstages : next.stages = Function.update b.stages s stage) (hhistory : next.history = b.history)
    (hsubscribed : stage.Subscribed ↔ (b.stages s).Subscribed) (hleaving : stage.Leaving ↔ (b.stages s).Leaving)
    (hgone : stage = .gone ↔ b.stages s = .gone) : StageInv next := by
  refine hinv.moved hstages (fun _ _ => ?_) ?_ ?_ ?_
  · rw [hhistory]
    exact ⟨Iff.rfl, Iff.rfl, Iff.rfl⟩
  · rw [hhistory, hinv.subscribed, hsubscribed]
  · rw [hhistory, hinv.leaving, hleaving]
  · rw [hhistory, hinv.gone, hgone]

omit [DecidableEq P] [DecidableEq S] in
/-- A step of a publisher or of a receiver. -/
theorem StageInv.of_same (hinv : StageInv b) (hstages : next.stages = b.stages)
    (hsubscribed : ∀ s, .subscribeReturned s ∈ next.history ↔ .subscribeReturned s ∈ b.history)
    (hleaving : ∀ s, .unsubscribeCalled s ∈ next.history ↔ .unsubscribeCalled s ∈ b.history)
    (hgone : ∀ s, .unsubscribeReturned s ∈ next.history ↔ .unsubscribeReturned s ∈ b.history) : StageInv next := by
  constructor
  · simp only [hsubscribed, hstages]
    exact hinv.subscribed
  · simp only [hleaving, hstages]
    exact hinv.leaving
  · simp only [hgone, hstages]
    exact hinv.gone

theorem stageInv_step (hlock : LockInv b) (hinv : StageInv b) (hstep : BrokerStep b label next) :
    StageInv next := by
  cases hstep with
  | publish p event hidle => exact hinv.of_same rfl (by simp) (by simp) (by simp)
  | rLock p pub mu hwaiting hmu => exact hinv.of_same rfl (fun _ => Iff.rfl) (fun _ => Iff.rfl) fun _ => Iff.rfl
  | send p s pub visited hsending hthere hnew =>
      obtain ⟨ch, -, -, heq⟩ := offer_of_open (hlock.isOpen hthere)
      rw [heq]
      exact hinv.of_same rfl (by simp) (by simp) (by simp)
  | rUnlock p pub visited mu hsending hall hmu => exact hinv.of_same rfl (by simp) (by simp) (by simp)
  | subscribe s hstage =>
      refine hinv.moved rfl (by simp) ?_ ?_ ?_
      · simp [hinv.subscribed, hstage, SubscriberStage.Subscribed]
      · simp [hinv.leaving, hstage, SubscriberStage.Leaving]
      · simp [hinv.gone, hstage]
  | unsubscribe s hstage =>
      refine hinv.moved rfl (by simp +contextual) ?_ ?_ ?_
      · simp [hinv.subscribed, hstage, SubscriberStage.Subscribed]
      · simp [SubscriberStage.Leaving]
      · simp [hinv.gone, hstage]
  | announce s mu hstage hmu => exact hinv.of_same rfl (fun _ => Iff.rfl) (fun _ => Iff.rfl) fun _ => Iff.rfl
  | acquire s mu stage hstage hmu =>
      rcases hstage with ⟨hstage, rfl⟩ | ⟨hstage, rfl⟩
      all_goals
        refine hinv.passed rfl rfl ?_ ?_ ?_
        · simp [hstage, SubscriberStage.Subscribed]
        · simp [hstage, SubscriberStage.Leaving]
        · simp [hstage]
  | create s hstage =>
      refine hinv.passed rfl rfl ?_ ?_ ?_
      · simp [hstage, SubscriberStage.Subscribed]
      · simp [hstage, SubscriberStage.Leaving]
      · simp [hstage]
  | delete s hstage =>
      refine hinv.passed rfl rfl ?_ ?_ ?_
      · simp [hstage, SubscriberStage.Subscribed]
      · simp [hstage, SubscriberStage.Leaving]
      · simp [hstage]
  | close s hstage =>
      rw [closeChannel_of_open (hlock.isOpen_of_removed hstage)]
      refine hinv.passed rfl rfl ?_ ?_ ?_
      · simp [hstage, SubscriberStage.Subscribed]
      · simp [hstage, SubscriberStage.Leaving]
      · simp [hstage]
  | created s mu hstage hmu =>
      refine hinv.moved rfl (by simp +contextual) ?_ ?_ ?_
      · simp [SubscriberStage.Subscribed]
      · simp [hinv.leaving, hstage, SubscriberStage.Leaving]
      · simp [hinv.gone, hstage]
  | closed s mu hstage hmu =>
      refine hinv.moved rfl (by simp +contextual) ?_ ?_ ?_
      · simp [hinv.subscribed, hstage, SubscriberStage.Subscribed]
      · simp [hinv.leaving, hstage, SubscriberStage.Leaving]
      · simp
  | receive s pub ch hreceive => exact hinv.of_same rfl (by simp) (by simp) (by simp)

/-! ## The channels -/

/-- What was offered to the channels, and what is in them. -/
structure QueueInv (b : BrokerState P S E) : Prop where
  pending : ∀ s pub n, .offered s pub n ∈ b.history → n ≤ channelCapacity
  made : ∀ s pub n, .offered s pub n ∈ b.history → (b.stages s).Made
  unmade : ∀ s, ¬ (b.stages s).Made → (b.channels s).buffer = []
  fifo : ∀ s, b.accepted s = b.delivered s

omit [DecidableEq P] in
theorem offers_of_offered {s : S} {pub : Publication E} {n : Nat}
    (hhistory : next.history = .offered s pub n :: b.history) (other : S) :
    next.offers other = b.offers other ++ if s = other then [pub] else [] := by
  simp only [BrokerState.offers, hhistory, List.filterMap_cons, offeredTo]
  split <;> simp_all

omit [DecidableEq P] in
/-- What has been offered after one turn of the loop. -/
theorem mem_offers_cons {s other : S} {pub pub' : Publication E} {n : Nat}
    (hhistory : next.history = .offered s pub n :: b.history) (hmem : pub' ∈ next.offers other) :
    pub' ∈ b.offers other ∨ other = s ∧ pub' = pub := by
  rw [offers_of_offered hhistory, List.mem_append] at hmem
  refine hmem.imp id fun hlatest => ?_
  split at hlatest
  · rename_i hother
    exact ⟨hother.symm, List.mem_singleton.mp hlatest⟩
  · cases hlatest

omit [DecidableEq P] in
theorem accepted_of_offered {s : S} {pub : Publication E} {n : Nat}
    (hhistory : next.history = .offered s pub n :: b.history) (other : S) :
    next.accepted other = b.accepted other ++ if s = other ∧ n < channelCapacity then [pub] else [] := by
  simp only [BrokerState.accepted, hhistory, List.filterMap_cons, acceptedBy]
  split <;> simp_all

omit [DecidableEq P] in
theorem received_of_received {s : S} {pub : Publication E}
    (hhistory : next.history = .received s pub :: b.history) (other : S) :
    next.received other = b.received other ++ if s = other then [pub] else [] := by
  simp only [BrokerState.received, hhistory, List.filterMap_cons, receivedFrom]
  split <;> simp_all

omit [DecidableEq P] in
/-- A step that touches no channel. -/
theorem QueueInv.quiet (hinv : QueueInv b)
    (hoffered : ∀ s pub n, .offered s pub n ∈ next.history ↔ .offered s pub n ∈ b.history)
    (hmade : ∀ s, (next.stages s).Made ↔ (b.stages s).Made)
    (hbuffer : ∀ s, (next.channels s).buffer = (b.channels s).buffer)
    (haccepted : ∀ s, next.accepted s = b.accepted s) (hreceived : ∀ s, next.received s = b.received s) :
    QueueInv next := by
  constructor
  · intro s pub n hmem
    exact hinv.pending s pub n ((hoffered s pub n).mp hmem)
  · intro s pub n hmem
    exact (hmade s).mpr (hinv.made s pub n ((hoffered s pub n).mp hmem))
  · intro s hunmade
    rw [hbuffer]
    exact hinv.unmade s fun h => hunmade ((hmade s).mpr h)
  · intro s
    rw [haccepted, hinv.fifo, BrokerState.delivered, BrokerState.delivered, hreceived, hbuffer]

omit [DecidableEq P] in
/-- A subscriber that goes on has its channel made as before. -/
theorem made_update {s : S} {stage : SubscriberStage} (hsame : stage.Made ↔ (b.stages s).Made) (other : S) :
    (Function.update b.stages s stage other).Made ↔ (b.stages other).Made := by
  by_cases hother : other = s
  · rw [hother, Function.update_self]
    exact hsame
  · rw [Function.update_of_ne hother]

theorem queueInv_step (hlock : LockInv b) (hinv : QueueInv b) (hstep : BrokerStep b label next) :
    QueueInv next := by
  cases hstep with
  | send p s pub visited hsending hthere hnew =>
      obtain ⟨ch, -, hbuffer, heq⟩ := offer_of_open (hlock.isOpen hthere)
      rw [heq]
      have hmade : (b.stages s).Made := by
        have hregistered := (hlock.registered s).mp hthere
        revert hregistered
        cases b.stages s <;> simp [SubscriberStage.Registered, SubscriberStage.Made]
      constructor
      · intro other pub' n hmem
        rcases List.mem_cons.mp hmem with hlatest | hold
        · cases hlatest
          exact (b.channels s).within
        · exact hinv.pending other pub' n hold
      · intro other pub' n hmem
        rcases List.mem_cons.mp hmem with hlatest | hold
        · cases hlatest
          exact hmade
        · exact hinv.made other pub' n hold
      · intro other hunmade
        have hother : other ≠ s := fun hsame => hunmade (hsame ▸ hmade)
        show (Function.update b.channels s ch other).buffer = []
        rw [Function.update_of_ne hother]
        exact hinv.unmade other hunmade
      · intro other
        rw [accepted_of_offered rfl, hinv.fifo]
        show b.received other ++ (b.channels other).buffer ++ _ =
          b.received other ++ (Function.update b.channels s ch other).buffer
        by_cases hother : other = s
        · subst hother
          rw [Function.update_self, hbuffer, List.append_assoc]
          -- the `select` drops the event when the buffer is full
          by_cases hroom : (b.channels other).buffer.length < channelCapacity
          · simp [hroom]
          · simp [hroom]
        · simp [hother, Ne.symm hother]
  | receive s pub ch hreceive =>
      obtain ⟨hbuffer, -⟩ := Chan.receive_eq_some_iff.mp hreceive
      constructor
      · intro other pub' n hmem
        exact hinv.pending other pub' n (by simpa using hmem)
      · intro other pub' n hmem
        exact hinv.made other pub' n (by simpa using hmem)
      · intro other hunmade
        have hempty := hinv.unmade other hunmade
        have hother : other ≠ s := by
          rintro rfl
          rw [hbuffer] at hempty
          cases hempty
        show (Function.update b.channels s ch other).buffer = []
        rw [Function.update_of_ne hother]
        exact hempty
      · intro other
        show b.accepted other = _
        rw [hinv.fifo, BrokerState.delivered, BrokerState.delivered]
        refine Eq.trans ?_ (congrArg (· ++ _) (received_of_received rfl other).symm)
        show b.received other ++ (b.channels other).buffer =
          b.received other ++ _ ++ (Function.update b.channels s ch other).buffer
        by_cases hother : other = s
        · subst hother
          simp [hbuffer]
        · simp [hother, Ne.symm hother]
  | create s hstage =>
      have hunmade : ¬ (b.stages s).Made := by
        rw [hstage]
        exact id
      constructor
      · exact hinv.pending
      · intro other pub n hmem
        by_cases hother : other = s
        · exact absurd (hother ▸ hinv.made other pub n hmem) hunmade
        · show (Function.update b.stages s _ other).Made
          rw [Function.update_of_ne hother]
          exact hinv.made other pub n hmem
      · intro other hother
        show (Function.update b.channels s _ other).buffer = []
        by_cases hsame : other = s
        · rw [hsame, Function.update_self]
          rfl
        · rw [Function.update_of_ne hsame]
          refine hinv.unmade other fun hmade => hother ?_
          show (Function.update b.stages s _ other).Made
          rw [Function.update_of_ne hsame]
          exact hmade
      · intro other
        show b.accepted other = b.received other ++ (Function.update b.channels s _ other).buffer
        rw [hinv.fifo, BrokerState.delivered]
        by_cases hsame : other = s
        · rw [hsame, Function.update_self, hinv.unmade s hunmade]
          rfl
        · rw [Function.update_of_ne hsame]
  | acquire s mu stage hstage hmu =>
      refine hinv.quiet (fun _ _ _ => Iff.rfl) (made_update ?_) (fun _ => rfl) (fun _ => rfl) fun _ => rfl
      rcases hstage with ⟨hstage, rfl⟩ | ⟨hstage, rfl⟩
      · simp [hstage, SubscriberStage.Made]
      · simp [hstage, SubscriberStage.Made]
  | close s hstage =>
      rw [closeChannel_of_open (hlock.isOpen_of_removed hstage)]
      refine hinv.quiet (fun _ _ _ => Iff.rfl) (made_update ?_) (fun other => ?_) (fun _ => rfl) fun _ => rfl
      · simp [hstage, SubscriberStage.Made]
      · by_cases hother : other = s
        · subst hother
          simp
        · simp [hother]
  | subscribe s hstage =>
      refine hinv.quiet (by simp) (made_update ?_) (fun _ => rfl) (fun _ => rfl) fun _ => rfl
      simp [hstage, SubscriberStage.Made]
  | unsubscribe s hstage =>
      refine hinv.quiet (by simp) (made_update ?_) (fun _ => rfl) (fun _ => rfl) fun _ => rfl
      simp [hstage, SubscriberStage.Made]
  | delete s hstage =>
      refine hinv.quiet (by simp) (made_update ?_) (fun _ => rfl) (fun _ => rfl) fun _ => rfl
      simp [hstage, SubscriberStage.Made]
  | created s mu hstage hmu =>
      refine hinv.quiet (by simp) (made_update ?_) (fun _ => rfl) (fun _ => rfl) fun _ => rfl
      simp [hstage, SubscriberStage.Made]
  | closed s mu hstage hmu =>
      refine hinv.quiet (by simp) (made_update ?_) (fun _ => rfl) (fun _ => rfl) fun _ => rfl
      simp [hstage, SubscriberStage.Made]
  | _ => exact hinv.quiet (by simp) (fun _ => Iff.rfl) (fun _ => rfl) (fun _ => rfl) fun _ => rfl

/-! ## The loop of `Publish` -/

/-- The channels to which a goroutine has offered its event. -/
def PublishStage.visited : PublishStage S E → Finset S
  | .sending _ visited => visited
  | _ => ∅

/-- What the publishers have offered, and to whom. -/
structure OfferInv (b : BrokerState P S E) : Prop where
  called : ∀ s pub, pub ∈ b.offers s → .publishCalled pub ∈ b.history
  progress : ∀ p pub, (b.publishers p).Current pub → ∀ s, pub ∈ b.offers s ↔ s ∈ (b.publishers p).visited
  nodup : ∀ s, (b.offers s).Nodup

omit [DecidableEq P] in
theorem mem_offers_iff {s : S} {pub : Publication E} :
    pub ∈ b.offers s ↔ ∃ n, .offered s pub n ∈ b.history := by
  simp only [BrokerState.offers, List.mem_reverse, List.mem_filterMap]
  constructor
  · rintro ⟨occurrence, hmem, hoffered⟩
    cases occurrence with
    | offered other pub' n =>
        rw [offeredTo, Option.ite_none_right_eq_some] at hoffered
        obtain ⟨rfl, heq⟩ := hoffered
        cases heq
        exact ⟨n, hmem⟩
    | _ => cases hoffered
  · rintro ⟨n, hmem⟩
    exact ⟨_, hmem, if_pos rfl⟩

omit [DecidableEq P] in
/-- A step of a subscriber or of a receiver. -/
theorem OfferInv.of_same (hinv : OfferInv b) (hpublishers : next.publishers = b.publishers)
    (hoffers : ∀ s, next.offers s = b.offers s)
    (hcalled : ∀ pub, .publishCalled pub ∈ b.history → .publishCalled pub ∈ next.history) : OfferInv next := by
  constructor
  · intro s pub hmem
    rw [hoffers] at hmem
    exact hcalled pub (hinv.called s pub hmem)
  · rw [hpublishers]
    intro p pub hcurrent s
    rw [hoffers]
    exact hinv.progress p pub hcurrent s
  · intro s
    rw [hoffers]
    exact hinv.nodup s

theorem offerInv_step (hlock : LockInv b) (hpublications : PublicationInv b) (hinv : OfferInv b)
    (hstep : BrokerStep b label next) : OfferInv next := by
  cases hstep with
  | publish p event hidle =>
      constructor
      · intro s pub hmem
        exact List.mem_cons_of_mem _ (hinv.called s pub hmem)
      · intro q pub hcurrent s
        show pub ∈ b.offers s ↔ s ∈ (Function.update b.publishers p _ q).visited
        rcases current_update.mp hcurrent with ⟨rfl, hnew⟩ | ⟨hq, hold⟩
        · -- a publication that begins has been offered to nobody
          rw [Function.update_self]
          refine ⟨fun hmem => ?_, fun hmem => absurd hmem (Finset.notMem_empty s)⟩
          have hid := hpublications.ids pub (hinv.called s pub hmem)
          rcases hnew with heq | ⟨_, heq⟩
          · cases heq
            exact absurd hid (lt_irrefl b.calls)
          · cases heq
        · rw [Function.update_of_ne hq]
          exact hinv.progress q pub hold s
      · exact hinv.nodup
  | rLock p pub mu hwaiting hmu =>
      refine ⟨hinv.called, fun q pub' hcurrent s => ?_, hinv.nodup⟩
      show pub' ∈ b.offers s ↔ s ∈ (Function.update b.publishers p _ q).visited
      rcases current_update.mp hcurrent with ⟨rfl, hnew⟩ | ⟨hq, hold⟩
      · have hpub : (b.publishers q).Current pub' := by
          rcases hnew with heq | ⟨_, heq⟩
          · cases heq
          · cases heq
            exact Or.inl hwaiting
        rw [Function.update_self, hinv.progress q pub' hpub, hwaiting]
        rfl
      · rw [Function.update_of_ne hq]
        exact hinv.progress q pub' hold s
  | send p s pub visited hsending hthere hnew =>
      obtain ⟨ch, -, -, heq⟩ := offer_of_open (hlock.isOpen hthere)
      have hpub : (b.publishers p).Current pub := Or.inr ⟨visited, hsending⟩
      have hoffered : ∀ other, pub ∈ b.offers other ↔ other ∈ visited := by
        intro other
        rw [hinv.progress p pub hpub, hsending]
        rfl
      rw [heq]
      constructor
      · intro other pub' hmem
        rcases mem_offers_cons rfl hmem with hold | ⟨-, rfl⟩
        · exact List.mem_cons_of_mem _ (hinv.called other pub' hold)
        · exact List.mem_cons_of_mem _ (hpublications.current p pub' hpub).1
      · intro q pub' hcurrent other
        rw [offers_of_offered rfl, List.mem_append]
        show _ ↔ other ∈ (Function.update b.publishers p _ q).visited
        rcases current_update.mp hcurrent with ⟨rfl, hnew'⟩ | ⟨hq, hold⟩
        · have hsame : pub' = pub := by
            rcases hnew' with heq' | ⟨_, heq'⟩ <;> cases heq'
            rfl
          rw [hsame, Function.update_self, hoffered, PublishStage.visited, Finset.mem_insert]
          by_cases hother : s = other
          · simp [hother]
          · simp [hother, Ne.symm hother]
        · have hdifferent : pub' ≠ pub := by
            rintro rfl
            exact hq (hpublications.distinct q p pub' hold hpub)
          rw [Function.update_of_ne hq, ← hinv.progress q pub' hold other]
          refine or_iff_left ?_
          split
          · exact fun hmem => hdifferent (List.mem_singleton.mp hmem)
          · exact List.not_mem_nil
      · intro other
        rw [offers_of_offered rfl]
        split
        · rename_i hother
          refine List.nodup_append'.mpr ⟨hinv.nodup other, List.nodup_singleton pub, ?_⟩
          rw [List.disjoint_singleton, hoffered, ← hother]
          exact hnew
        · rw [List.append_nil]
          exact hinv.nodup other
  | rUnlock p pub visited mu hsending hall hmu =>
      refine ⟨fun s pub' hmem => List.mem_cons_of_mem _ (hinv.called s pub' hmem), fun q pub' hcurrent s => ?_,
        hinv.nodup⟩
      show pub' ∈ b.offers s ↔ s ∈ (Function.update b.publishers p _ q).visited
      rcases current_update.mp hcurrent with ⟨-, hnew⟩ | ⟨hq, hold⟩
      · rcases hnew with heq | ⟨_, heq⟩ <;> cases heq
      · rw [Function.update_of_ne hq]
        exact hinv.progress q pub' hold s
  | close s hstage =>
      rw [closeChannel_of_open (hlock.isOpen_of_removed hstage)]
      exact hinv.of_same rfl (fun _ => rfl) fun _ => id
  | _ => exact hinv.of_same rfl (fun _ => rfl) (by simp)

/-! ## The order of publication -/

/-- The occurrences before which it matters what has happened. -/
def Occurrence.Dated : Occurrence S E → Prop
  | .publishCalled _ => True
  | .publishReturned _ => True
  | .subscribeCalled _ => True
  | _ => False

/-- When the events were published that were offered to a subscriber. -/
structure OrderInv (b : BrokerState P S E) : Prop where
  after : ∀ s, ∀ pub ∈ b.offers s, ¬ Precedes b.history (.publishReturned pub) (.subscribeCalled s)
  before : ∀ s, ∀ pub ∈ b.offers s, ¬ Precedes b.history (.unsubscribeReturned s) (.publishCalled pub)
  complete : ∀ s pub, Precedes b.history (.subscribeReturned s) (.publishCalled pub) →
    .publishReturned pub ∈ b.history → ¬ Precedes b.history (.unsubscribeCalled s) (.publishReturned pub) →
    pub ∈ b.offers s
  ordered : ∀ s, ∀ first ∈ b.offers s, ∀ second ∈ b.offers s,
    Precedes b.history (.publishReturned first) (.publishCalled second) → [first, second].Sublist (b.offers s)

omit [DecidableEq P] in
/-- A step that offers nothing, and is not itself a date. -/
theorem OrderInv.quiet (hinv : OrderInv b) (hoffers : ∀ s, next.offers s = b.offers s)
    (hhistory : next.history = b.history ∨ ∃ latest, ¬ latest.Dated ∧ next.history = latest :: b.history) :
    OrderInv next := by
  have hprecedes : ∀ first second : Occurrence S E, second.Dated →
      (Precedes next.history first second ↔ Precedes b.history first second) := by
    intro first second hdated
    rcases hhistory with hsame | ⟨latest, hlatest, hcons⟩
    · rw [hsame]
    · rw [hcons]
      refine precedes_cons_of_ne ?_
      rintro rfl
      exact hlatest hdated
  have hreturned : ∀ pub, .publishReturned pub ∈ next.history → .publishReturned pub ∈ b.history := by
    intro pub hmem
    rcases hhistory with hsame | ⟨latest, hlatest, hcons⟩
    · exact hsame ▸ hmem
    · rw [hcons, List.mem_cons] at hmem
      refine hmem.resolve_left ?_
      rintro rfl
      exact hlatest trivial
  constructor
  · intro s pub hmem
    rw [hoffers] at hmem
    rw [hprecedes _ (.subscribeCalled s) trivial]
    exact hinv.after s pub hmem
  · intro s pub hmem
    rw [hoffers] at hmem
    rw [hprecedes _ (.publishCalled pub) trivial]
    exact hinv.before s pub hmem
  · intro s pub hsubscribed hret hleaving
    rw [hprecedes _ (.publishCalled pub) trivial] at hsubscribed
    rw [hprecedes _ (.publishReturned pub) trivial] at hleaving
    rw [hoffers]
    exact hinv.complete s pub hsubscribed (hreturned pub hret) hleaving
  · intro s first hfirst second hsecond hbefore
    rw [hoffers] at hfirst hsecond ⊢
    rw [hprecedes _ (.publishCalled second) trivial] at hbefore
    exact hinv.ordered s first hfirst second hsecond hbefore

/-- What the invariants say together. -/
structure BrokerInv (b : BrokerState P S E) : Prop where
  lock : LockInv b
  publications : PublicationInv b
  stages : StageInv b
  queues : QueueInv b
  offers : OfferInv b
  order : OrderInv b

theorem orderInv_step (hinv : BrokerInv b) (hstep : BrokerStep b label next) : OrderInv next := by
  have horder := hinv.order
  cases hstep with
  | publish p event hidle =>
      have hfresh := hinv.publications.fresh event
      have hold : ∀ {pub : Publication E}, .publishCalled pub ∈ b.history →
          (.publishCalled pub : Occurrence S E) ≠ .publishCalled ⟨b.calls, event⟩ := by
        intro pub hmem heq
        exact hfresh (heq ▸ hmem)
      constructor
      · intro s pub hmem
        rw [precedes_cons_of_ne (by simp)]
        exact horder.after s pub hmem
      · intro s pub hmem
        rw [precedes_cons_of_ne (hold (hinv.offers.called s pub hmem))]
        exact horder.before s pub hmem
      · intro s pub hsubscribed hreturned hleaving
        replace hreturned : .publishReturned pub ∈ b.history := by simpa using hreturned
        rw [precedes_cons_of_ne (hold (hinv.publications.returned pub hreturned))] at hsubscribed
        rw [precedes_cons_of_ne (by simp)] at hleaving
        exact horder.complete s pub hsubscribed hreturned hleaving
      · intro s first hfirst second hsecond hbefore
        rw [precedes_cons_of_ne (hold (hinv.offers.called s second hsecond))] at hbefore
        exact horder.ordered s first hfirst second hsecond hbefore
  | send p s pub visited hsending hthere hnew =>
      obtain ⟨ch, -, -, heq⟩ := offer_of_open (hinv.lock.isOpen hthere)
      rw [heq]
      have hreturned := (hinv.publications.current p pub (Or.inr ⟨visited, hsending⟩)).2
      -- the loop of `Publish` only meets subscribers that are in the map
      have hgone : .unsubscribeReturned s ∉ b.history := by
        intro hmem
        have hregistered := (hinv.lock.registered s).mp hthere
        rw [(hinv.stages.gone s).mp hmem] at hregistered
        exact hregistered
      constructor
      · intro other pub' hmem
        rw [precedes_cons_of_ne (by simp)]
        rcases mem_offers_cons rfl hmem with hold | ⟨rfl, rfl⟩
        · exact horder.after other pub' hold
        · exact fun hbefore => hreturned hbefore.fst_mem
      · intro other pub' hmem
        rw [precedes_cons_of_ne (by simp)]
        rcases mem_offers_cons rfl hmem with hold | ⟨rfl, rfl⟩
        · exact horder.before other pub' hold
        · exact fun hbefore => hgone hbefore.fst_mem
      · intro other pub' hsubscribed hret hleaving
        rw [precedes_cons_of_ne (by simp)] at hsubscribed hleaving
        rw [offers_of_offered rfl]
        exact List.mem_append_left _ (horder.complete other pub' hsubscribed (by simpa using hret) hleaving)
      · intro other first hfirst second hsecond hbefore
        rw [precedes_cons_of_ne (by simp)] at hbefore
        rw [offers_of_offered rfl]
        have hfirst' : first ∈ b.offers other := by
          refine (mem_offers_cons rfl hfirst).resolve_right ?_
          rintro ⟨-, rfl⟩
          exact hreturned hbefore.fst_mem
        rcases mem_offers_cons rfl hsecond with hold | ⟨rfl, rfl⟩
        · exact (horder.ordered other first hfirst' second hold hbefore).trans (List.sublist_append_left _ _)
        · rw [if_pos rfl]
          exact (List.singleton_sublist.mpr hfirst').append (List.Sublist.refl [second])
  | rUnlock p pub visited mu hsending hall hmu =>
      constructor
      · intro s pub' hmem
        rw [precedes_cons_of_ne (by simp)]
        exact horder.after s pub' hmem
      · intro s pub' hmem
        rw [precedes_cons_of_ne (by simp)]
        exact horder.before s pub' hmem
      · intro s pub' hsubscribed hreturned hleaving
        rw [precedes_cons_of_ne (by simp)] at hsubscribed
        rw [precedes_cons, not_or] at hleaving
        rcases List.mem_cons.mp hreturned with hlatest | hold
        · -- the loop has visited every channel of the map, and this one has been in it all the time
          cases hlatest
          have hnot : ¬ (b.stages s).Leaving := by
            rw [← hinv.stages.leaving]
            exact fun hmem => hleaving.2 ⟨rfl, hmem⟩
          have hsubscribed' := (hinv.stages.subscribed s).mp hsubscribed.fst_mem
          have hregistered : (b.stages s).Registered := by
            revert hnot hsubscribed'
            cases b.stages s <;>
              simp [SubscriberStage.Leaving, SubscriberStage.Subscribed, SubscriberStage.Registered]
          show pub ∈ b.offers s
          rw [hinv.offers.progress p pub (Or.inr ⟨visited, hsending⟩), hsending]
          exact hall ((hinv.lock.registered s).mpr hregistered)
        · exact horder.complete s pub' hsubscribed hold hleaving.1
      · intro s first hfirst second hsecond hbefore
        rw [precedes_cons_of_ne (by simp)] at hbefore
        exact horder.ordered s first hfirst second hsecond hbefore
  | subscribe s hstage =>
      constructor
      · intro other pub hmem
        -- a subscriber that has been offered something has its channel, so it is not one that only calls now
        have hother : (.subscribeCalled other : Occurrence S E) ≠ .subscribeCalled s := by
          intro heq
          cases heq
          obtain ⟨n, hoffered⟩ := mem_offers_iff.mp hmem
          have hmade := hinv.queues.made s pub n (by simpa using hoffered)
          rw [hstage] at hmade
          exact hmade
        rw [precedes_cons_of_ne hother]
        exact horder.after other pub hmem
      · intro other pub hmem
        rw [precedes_cons_of_ne (by simp)]
        exact horder.before other pub hmem
      · intro other pub hsubscribed hreturned hleaving
        rw [precedes_cons_of_ne (by simp)] at hsubscribed hleaving
        exact horder.complete other pub hsubscribed (by simpa using hreturned) hleaving
      · intro other first hfirst second hsecond hbefore
        rw [precedes_cons_of_ne (by simp)] at hbefore
        exact horder.ordered other first hfirst second hsecond hbefore
  | close s hstage =>
      rw [closeChannel_of_open (hinv.lock.isOpen_of_removed hstage)]
      exact horder.quiet (fun _ => rfl) (Or.inl rfl)
  | rLock p pub mu hwaiting hmu => exact horder.quiet (fun _ => rfl) (Or.inl rfl)
  | announce s mu hstage hmu => exact horder.quiet (fun _ => rfl) (Or.inl rfl)
  | acquire s mu stage hstage hmu => exact horder.quiet (fun _ => rfl) (Or.inl rfl)
  | create s hstage => exact horder.quiet (fun _ => rfl) (Or.inl rfl)
  | delete s hstage => exact horder.quiet (fun _ => rfl) (Or.inl rfl)
  | unsubscribe s hstage => exact horder.quiet (fun _ => rfl) (Or.inr ⟨_, id, rfl⟩)
  | created s mu hstage hmu => exact horder.quiet (fun _ => rfl) (Or.inr ⟨_, id, rfl⟩)
  | closed s mu hstage hmu => exact horder.quiet (fun _ => rfl) (Or.inr ⟨_, id, rfl⟩)
  | receive s pub ch hreceive => exact horder.quiet (fun _ => rfl) (Or.inr ⟨_, id, rfl⟩)

/-! ## Every run -/

theorem brokerInv_step (hinv : BrokerInv b) (hstep : BrokerStep b label next) : BrokerInv next where
  lock := lockInv_step hinv.lock hstep
  publications := publicationInv_step hinv.lock hinv.publications hstep
  stages := stageInv_step hinv.lock hinv.stages hstep
  queues := queueInv_step hinv.lock hinv.queues hstep
  offers := offerInv_step hinv.lock hinv.publications hinv.offers hstep
  order := orderInv_step hinv hstep

omit [DecidableEq P] in
theorem brokerInv_newBroker : BrokerInv (newBroker : BrokerState P S E) where
  lock := lockInv_newBroker
  publications := by constructor <;> simp [newBroker, PublishStage.Current]
  stages := by constructor <;> simp [newBroker, SubscriberStage.Subscribed, SubscriberStage.Leaving]
  queues := by
    constructor <;> simp [newBroker, Chan.make, BrokerState.accepted, BrokerState.delivered, BrokerState.received]
  offers := by constructor <;> simp [newBroker, BrokerState.offers, PublishStage.Current]
  order := by constructor <;> simp [newBroker, BrokerState.offers]

theorem brokerInv_run {labels : List (BrokerLabel P S E)}
    (hrun : exec BrokerState.step newBroker labels = some b) : BrokerInv b :=
  exec_invariant BrokerInv (fun _ _ _ hinv hstep => brokerInv_step hinv (brokerStep_of_step hstep).2) hrun
    brokerInv_newBroker

omit [DecidableEq P] in
/-- What was accepted is part of what was offered. -/
theorem accepted_sublist_offers (s : S) : (b.accepted s).Sublist (b.offers s) := by
  refine List.Sublist.reverse ?_
  induction b.history with
  | nil => exact List.Sublist.refl []
  | cons occurrence rest ih =>
      simp only [List.filterMap_cons]
      cases haccepted : acceptedBy s occurrence with
      | none =>
          cases offeredTo s occurrence with
          | none => exact ih
          | some pub => exact ih.cons pub
      | some pub =>
          have hoffered : offeredTo s occurrence = some pub := by
            cases occurrence with
            | offered other pub' n =>
                rw [acceptedBy, Option.ite_none_right_eq_some] at haccepted
                exact (if_pos haccepted.1.1).trans haccepted.2
            | _ => cases haccepted
          rw [hoffered]
          exact ih.cons_cons pub

omit [DecidableEq P] in
theorem mem_accepted {s : S} {pub : Publication E} {n : Nat} (hoffered : .offered s pub n ∈ b.history)
    (hroom : n < channelCapacity) : pub ∈ b.accepted s := by
  rw [BrokerState.accepted, List.mem_reverse]
  exact List.mem_filterMap.mpr ⟨_, hoffered, if_pos ⟨rfl, hroom⟩⟩

omit [DecidableEq P] in
/-- The order in which the loop of `Publish` came to the channel is one in which the events were published. -/
theorem BrokerInv.delivers (hinv : BrokerInv b) (s : S) : Delivers b s (b.offers s) where
  nodup := hinv.offers.nodup s
  delivered := by
    rw [← hinv.queues.fifo]
    exact accepted_sublist_offers s
  during := fun pub hmem =>
    ⟨hinv.offers.called s pub hmem, hinv.order.after s pub hmem, hinv.order.before s pub hmem⟩
  complete := hinv.order.complete s
  ordered := hinv.order.ordered s
  full := by
    intro pub hmem hmissing
    obtain ⟨n, hoffered⟩ := mem_offers_iff.mp hmem
    rw [← hinv.queues.fifo] at hmissing
    have hfull : n = channelCapacity := by
      have hpending := hinv.queues.pending s pub n hoffered
      have hroom : ¬ n < channelCapacity := fun hroom => hmissing (mem_accepted hoffered hroom)
      omega
    exact hfull ▸ hoffered

/-! ## A call of `Publish` ends -/

/-- A step that a goroutine takes in `Publish`, once it is in the loop. -/
def BrokerLabel.InLoop (p : P) : BrokerLabel P S E → Prop
  | .send q _ => q = p
  | .rUnlock q => q = p
  | _ => False

/-- A step in which nobody receives. -/
def BrokerLabel.Unreceived : BrokerLabel P S E → Prop
  | .receive _ => False
  | _ => True

omit [DecidableEq P] [DecidableEq S] in
theorem BrokerLabel.InLoop.unreceived {p : P} (hlabel : label.InLoop p) : label.Unreceived := by
  cases label with
  | receive s => exact hlabel
  | _ => trivial

theorem BrokerInv.reaches {allowed : BrokerLabel P S E → Prop} {final : BrokerState P S E} (hinv : BrokerInv b)
    (hreaches : Reaches BrokerState.step allowed b final) : BrokerInv final :=
  hreaches.invariant BrokerInv (fun _ _ _ h hstep => brokerInv_step h (brokerStep_of_step hstep).2) hinv

/-- In the loop a goroutine waits for nobody: it offers its event to the channels that are left, and returns. -/
theorem sending_ends (hinv : BrokerInv b) {p : P} {pub : Publication E} {visited : Finset S}
    (hsending : b.publishers p = .sending pub visited) :
    ∃ final, Reaches BrokerState.step (BrokerLabel.InLoop p) b final ∧
      final.publishers = Function.update b.publishers p .idle ∧
      final.mu.readers = b.mu.readers.erase p ∧ final.mu.writer = b.mu.writer := by
  induction hleft : (b.subscribers \ visited).card generalizing b visited with
  | zero =>
      have hall : b.subscribers ⊆ visited := by
        rw [← Finset.sdiff_eq_empty_iff_subset]
        exact Finset.card_eq_zero.mp hleft
      have hreader : p ∈ b.mu.readers := (hinv.lock.readers p).mpr ⟨pub, visited, hsending⟩
      obtain ⟨mu, hmu⟩ := RWMutex.rUnlock_of_mem hreader
      obtain ⟨-, hreaders, hwriter, -⟩ := RWMutex.rUnlock_eq_some_iff.mp hmu
      have hstep : b.step (.rUnlock p) = some { b with
          mu := mu
          publishers := Function.update b.publishers p .idle
          history := .publishReturned pub :: b.history } := by
        simp [BrokerState.step, hinv.lock.calm, hsending, BrokerState.publishStep, hall, hmu]
      exact ⟨_, Reaches.head hstep rfl Relation.ReflTransGen.refl, rfl, hreaders, hwriter⟩
  | succ n ih =>
      obtain ⟨s, hs⟩ : (b.subscribers \ visited).Nonempty := by
        rw [← Finset.card_pos, hleft]
        exact Nat.succ_pos n
      obtain ⟨hthere, hnew⟩ := Finset.mem_sdiff.mp hs
      have hstep : b.step (.send p s) = some (b.offer p pub visited s) := by
        simp [BrokerState.step, hinv.lock.calm, hsending, BrokerState.publishStep, hthere, hnew]
      have hnext := brokerInv_step hinv (brokerStep_of_step hstep).2
      obtain ⟨ch, -, -, heq⟩ := offer_of_open (b := b) (p := p) (hinv.lock.isOpen hthere)
      rw [heq] at hstep hnext
      obtain ⟨final, hreaches, hpublishers, hreaders, hwriter⟩ := ih hnext (Function.update_self ..) (by
        show (b.subscribers \ insert s visited).card = n
        rw [Finset.sdiff_insert, Finset.card_erase_of_mem hs, hleft, Nat.add_sub_cancel])
      refine ⟨final, Reaches.head hstep rfl hreaches, ?_, hreaders, hwriter⟩
      rw [hpublishers]
      exact Function.update_idem ..

/-- The readers of the lock can all leave. -/
theorem readers_leave (hinv : BrokerInv b) :
    ∃ final, Reaches BrokerState.step BrokerLabel.Unreceived b final ∧ final.mu.readers = ∅ ∧
      final.mu.writer = b.mu.writer ∧ ∀ q, ¬ (b.publishers q).Sending → final.publishers q = b.publishers q := by
  induction hleft : b.mu.readers.card generalizing b with
  | zero => exact ⟨b, Relation.ReflTransGen.refl, Finset.card_eq_zero.mp hleft, rfl, fun _ _ => rfl⟩
  | succ n ih =>
      obtain ⟨p, hreader⟩ : b.mu.readers.Nonempty := by
        rw [← Finset.card_pos, hleft]
        exact Nat.succ_pos n
      obtain ⟨pub, visited, hsending⟩ := (hinv.lock.readers p).mp hreader
      obtain ⟨next, hloop, hpublishers, hreaders, hwriter⟩ := sending_ends hinv hsending
      obtain ⟨final, hrest, hempty, hwriter', hothers⟩ := ih (hinv.reaches hloop) (by
        rw [hreaders, Finset.card_erase_of_mem hreader, hleft, Nat.add_sub_cancel])
      refine ⟨final, Relation.ReflTransGen.trans (hloop.mono fun _ => BrokerLabel.InLoop.unreceived) hrest, hempty,
        hwriter'.trans hwriter, fun q hq => ?_⟩
      have hne : q ≠ p := by
        rintro rfl
        exact hq ⟨pub, visited, hsending⟩
      have hsame : next.publishers q = b.publishers q := by
        rw [hpublishers, Function.update_of_ne hne]
      rw [hothers q (by rwa [hsame]), hsame]

/-- The lock can be let go by the goroutine that has it for writing, or waits for it. -/
def Released (b : BrokerState P S E) : Prop :=
  ∃ final, Reaches BrokerState.step BrokerLabel.Unreceived b final ∧ final.mu.writer = none ∧
    final.publishers = b.publishers

theorem Released.head {label : BrokerLabel P S E} (hstep : b.step label = some next) (hlabel : label.Unreceived)
    (hpublishers : next.publishers = b.publishers) (hreleased : Released next) : Released b := by
  obtain ⟨final, hreaches, hwriter, hsame⟩ := hreleased
  exact ⟨final, Reaches.head hstep hlabel hreaches, hwriter, hsame.trans hpublishers⟩

/-- A goroutine that has the lock and nothing else to do lets it go. -/
theorem released_of_created (hinv : BrokerInv b) {s : S} (hstage : b.stages s = .created) : Released b := by
  obtain ⟨hwriter, hheld⟩ := hinv.lock.locked s (by rw [hstage]; trivial)
  obtain ⟨mu, hmu, hnone⟩ := RWMutex.unlock_of_held hwriter hheld
  have hstep : b.step (.unlock s) = some { b with
      mu := mu
      stages := Function.update b.stages s .active
      history := .subscribeReturned s :: b.history } := by
    simp [BrokerState.step, hinv.lock.calm, hstage, BrokerState.subscriberStep, hmu]
  exact Released.head hstep trivial rfl ⟨_, Relation.ReflTransGen.refl, hnone, rfl⟩

theorem released_of_closed (hinv : BrokerInv b) {s : S} (hstage : b.stages s = .closed) : Released b := by
  obtain ⟨hwriter, hheld⟩ := hinv.lock.locked s (by rw [hstage]; trivial)
  obtain ⟨mu, hmu, hnone⟩ := RWMutex.unlock_of_held hwriter hheld
  have hstep : b.step (.unlock s) = some { b with
      mu := mu
      stages := Function.update b.stages s .gone
      history := .unsubscribeReturned s :: b.history } := by
    simp [BrokerState.step, hinv.lock.calm, hstage, BrokerState.subscriberStep, hmu]
  exact Released.head hstep trivial rfl ⟨_, Relation.ReflTransGen.refl, hnone, rfl⟩

theorem released_of_creating (hinv : BrokerInv b) {s : S} (hstage : b.stages s = .creating) : Released b := by
  have hstep : b.step (.create s) = some { b with
      channels := Function.update b.channels s Chan.make
      subscribers := insert s b.subscribers
      stages := Function.update b.stages s .created } := by
    simp [BrokerState.step, hinv.lock.calm, hstage, BrokerState.subscriberStep]
  have hnext := brokerInv_step hinv (brokerStep_of_step hstep).2
  exact Released.head hstep trivial rfl (released_of_created hnext (Function.update_self ..))

theorem released_of_removed (hinv : BrokerInv b) {s : S} (hstage : b.stages s = .removed) : Released b := by
  have hstep : b.step (.close s) = some { b with
      channels := Function.update b.channels s { b.channels s with closed := true }
      stages := Function.update b.stages s .closed } := by
    rw [← closeChannel_of_open (hinv.lock.isOpen_of_removed hstage)]
    simp [BrokerState.step, hinv.lock.calm, hstage, BrokerState.subscriberStep]
  have hnext := brokerInv_step hinv (brokerStep_of_step hstep).2
  exact Released.head hstep trivial rfl (released_of_closed hnext (Function.update_self ..))

theorem released_of_removing (hinv : BrokerInv b) {s : S} (hstage : b.stages s = .removing) : Released b := by
  have hstep : b.step (.delete s) = some { b with
      subscribers := b.subscribers.erase s
      stages := Function.update b.stages s .removed } := by
    simp [BrokerState.step, hinv.lock.calm, hstage, BrokerState.subscriberStep]
  have hnext := brokerInv_step hinv (brokerStep_of_step hstep).2
  exact Released.head hstep trivial rfl (released_of_removed hnext (Function.update_self ..))

/-- Once the readers have left, whoever is in `Lock` or has the lock gets on until it has let it go. -/
theorem released_of_no_readers (hinv : BrokerInv b) (hreaders : b.mu.readers = ∅) : Released b := by
  cases hwriter : b.mu.writer with
  | none => exact ⟨b, Relation.ReflTransGen.refl, hwriter, rfl⟩
  | some s =>
      rcases hinv.lock.writer s hwriter with hlocked | ⟨hheld, hwaiting⟩
      · cases hstage : b.stages s with
        | creating => exact released_of_creating hinv hstage
        | created => exact released_of_created hinv hstage
        | removing => exact released_of_removing hinv hstage
        | removed => exact released_of_removed hinv hstage
        | closed => exact released_of_closed hinv hstage
        | _ =>
            rw [hstage] at hlocked
            exact absurd hlocked id
      · obtain ⟨mu, hmu⟩ := RWMutex.acquire_of_left hwriter hreaders hheld
        rcases hwaiting with hstage | hstage
        · have hstep : b.step (.acquire s) = some { b with
              mu := mu
              stages := Function.update b.stages s .creating } := by
            simp [BrokerState.step, hinv.lock.calm, hstage, BrokerState.subscriberStep, hmu]
          have hnext := brokerInv_step hinv (brokerStep_of_step hstep).2
          exact Released.head hstep trivial rfl (released_of_creating hnext (Function.update_self ..))
        · have hstep : b.step (.acquire s) = some { b with
              mu := mu
              stages := Function.update b.stages s .removing } := by
            simp [BrokerState.step, hinv.lock.calm, hstage, BrokerState.subscriberStep, hmu]
          have hnext := brokerInv_step hinv (brokerStep_of_step hstep).2
          exact Released.head hstep trivial rfl (released_of_removing hnext (Function.update_self ..))

/-- Every call of `Publish` can be run to its end without anybody receiving. -/
theorem publish_ends (hinv : BrokerInv b) (p : P) :
    ∃ final, Reaches BrokerState.step BrokerLabel.Unreceived b final ∧ final.publishers p = .idle := by
  have hloop : ∀ {b : BrokerState P S E}, BrokerInv b → (b.publishers p).Sending →
      ∃ final, Reaches BrokerState.step BrokerLabel.Unreceived b final ∧ final.publishers p = .idle := by
    rintro b hinv ⟨pub, visited, hsending⟩
    obtain ⟨final, hreaches, hpublishers, -⟩ := sending_ends hinv hsending
    exact ⟨final, hreaches.mono fun _ => BrokerLabel.InLoop.unreceived, hpublishers ▸ Function.update_self ..⟩
  cases hstage : b.publishers p with
  | idle => exact ⟨b, Relation.ReflTransGen.refl, hstage⟩
  | sending pub visited => exact hloop hinv ⟨pub, visited, hstage⟩
  | waiting pub =>
      obtain ⟨left, hleft, hreaders, -, hothers⟩ := readers_leave hinv
      obtain ⟨free, hfree, hwriter, hsame⟩ := released_of_no_readers (hinv.reaches hleft) hreaders
      have hinv' := (hinv.reaches hleft).reaches hfree
      have hwaiting : free.publishers p = .waiting pub := by
        rw [hsame, hothers p (by rw [hstage]; rintro ⟨_, _, heq⟩; cases heq), hstage]
      obtain ⟨mu, hmu⟩ := RWMutex.rLock_of_none (r := p) hwriter
      have hstep : free.step (.rLock p) = some { free with
          mu := mu
          publishers := Function.update free.publishers p (.sending pub ∅) } := by
        simp [BrokerState.step, hinv'.lock.calm, hwaiting, BrokerState.publishStep, hmu]
      have hnext := brokerInv_step hinv' (brokerStep_of_step hstep).2
      obtain ⟨final, hfinal, hidle⟩ := hloop hnext ⟨pub, ∅, Function.update_self ..⟩
      exact ⟨final, (hleft.trans hfree).trans (Reaches.head hstep trivial hfinal), hidle⟩

end History

/-! ## The result -/

section Delivery

variable {P S E : Type} [DecidableEq P] [DecidableEq S]

/-- In every state of every run nothing has been sent on a closed channel, no call of `Publish` waits for a
receiver, and every subscriber gets the events that were published while it was subscribed. -/
theorem broker_delivers (labels : List (BrokerLabel P S E)) (final : BrokerState P S E)
    (hrun : exec BrokerState.step newBroker labels = some final) :
    final.panicked = false ∧
      (∀ p, (final.publishers p).Sending →
        ∃ later, Reaches BrokerState.step (BrokerLabel.InLoop p) final later ∧ later.publishers p = .idle) ∧
      (∀ p, ∃ later, Reaches BrokerState.step BrokerLabel.Unreceived final later ∧ later.publishers p = .idle) ∧
      ∀ s, ∃ order, Delivers final s order := by
  have hinv := brokerInv_run hrun
  refine ⟨hinv.lock.calm, ?_, publish_ends hinv, fun s => ⟨final.offers s, hinv.delivers s⟩⟩
  rintro p ⟨pub, visited, hsending⟩
  obtain ⟨later, hreaches, hpublishers, -⟩ := sending_ends hinv hsending
  refine ⟨later, hreaches, ?_⟩
  rw [hpublishers, Function.update_self]

/-- Two goroutines publish at the same time, and the subscriber leaves before it has received everything. -/
def overlappingRun : List (BrokerLabel Bool Unit Nat) :=
  [.subscribe (), .announce (), .acquire (), .create (), .unlock (),
    .publish false 7, .publish true 8, .rLock false, .rLock true, .send true (), .unsubscribe (),
    .send false (), .rUnlock false, .receive (), .rUnlock true,
    .announce (), .acquire (), .delete (), .close (), .unlock ()]

theorem exec_overlappingRun :
    (exec BrokerState.step newBroker overlappingRun).map
        (fun b => (b.received (), (b.channels ()).buffer, decide ((b.channels ()).closed = true))) =
      some ([⟨1, 8⟩], [⟨0, 7⟩], true) := by
  decide +kernel

theorem broker_delivers_overlappingRun :
    ∃ final, exec BrokerState.step newBroker overlappingRun = some final ∧
      final.delivered () = [⟨1, 8⟩, ⟨0, 7⟩] ∧ (final.channels ()).closed = true ∧
      final.panicked = false ∧ ∃ order, Delivers final () order := by
  obtain ⟨final, hfinal, hend⟩ := Option.map_eq_some_iff.mp exec_overlappingRun
  simp only [Prod.mk.injEq] at hend
  obtain ⟨hreceived, hbuffer, hclosed⟩ := hend
  obtain ⟨hcalm, -, -, hdelivers⟩ := broker_delivers overlappingRun final hfinal
  refine ⟨final, hfinal, ?_, of_decide_eq_true hclosed, hcalm, hdelivers ()⟩
  rw [BrokerState.delivered, hreceived, hbuffer]
  rfl

end Delivery

end Container
end Dmanager
