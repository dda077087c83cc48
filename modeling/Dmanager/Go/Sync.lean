import Mathlib.Tactic

/-!
# Channels and locks

Buffered channels, and the readers-writer lock of package `sync`.  An operation that cannot go on is `none`; a
send on a closed channel and a second `close` are panics, which are `none` as well.

* `Chan` — the values that were sent and not received yet; there are never more of them than the capacity.
* `RWMutex` — the goroutines that hold the lock for reading, and the one that has called `Lock`.  A goroutine
  in `Lock` keeps new readers out and waits for the others to leave.
-/

namespace Dmanager
namespace Go

/-! ## Channels -/

/-- A channel made with `make(chan T, capacity)`; its values, the oldest first. -/
structure Chan (α : Type) (capacity : Nat) where
  buffer : List α
  closed : Bool
  within : buffer.length ≤ capacity

namespace Chan

variable {α : Type} {capacity : Nat}

/-- `make(chan T, capacity)`. -/
def make : Chan α capacity := ⟨[], false, Nat.zero_le capacity⟩

/-- `select { case ch <- a: default: }`. -/
def trySend (ch : Chan α capacity) (a : α) : Option (Chan α capacity) :=
  if ch.closed then none
  else if hroom : ch.buffer.length < capacity then
    some ⟨ch.buffer ++ [a], false, by
      rw [List.length_append, List.length_singleton]
      omega⟩
  else some ch

/-- `close(ch)`. -/
def close (ch : Chan α capacity) : Option (Chan α capacity) :=
  if ch.closed then none else some { ch with closed := true }

/-- `<-ch` when there is a value, which may be so after `close` too. -/
def receive (ch : Chan α capacity) : Option (α × Chan α capacity) :=
  match hbuffer : ch.buffer with
  | [] => none
  | a :: rest => some (a, ⟨rest, ch.closed, by
      have hwithin := ch.within
      rw [hbuffer, List.length_cons] at hwithin
      omega⟩)

variable {ch next : Chan α capacity} {a : α}

/-- A send to an open channel adds the value if there is room. -/
theorem trySend_of_open (hopen : ch.closed = false) :
    ∃ next, ch.trySend a = some next ∧ next.closed = false ∧
      next.buffer = if ch.buffer.length < capacity then ch.buffer ++ [a] else ch.buffer := by
  unfold trySend
  rw [hopen, if_neg Bool.false_ne_true]
  split
  · rename_i hroom
    exact ⟨_, rfl, rfl, rfl⟩
  · exact ⟨ch, rfl, hopen, rfl⟩

theorem receive_eq_some_iff : ch.receive = some (a, next) ↔ ch.buffer = a :: next.buffer ∧ next.closed = ch.closed := by
  obtain ⟨buffer, closed, within⟩ := ch
  obtain ⟨buffer', closed', within'⟩ := next
  cases buffer with
  | nil => simp [receive]
  | cons first rest =>
      simp only [receive, Option.some.injEq, Prod.mk.injEq, mk.injEq, List.cons.injEq]
      constructor
      · rintro ⟨rfl, rfl, rfl⟩
        exact ⟨⟨rfl, rfl⟩, rfl⟩
      · rintro ⟨⟨rfl, rfl⟩, rfl⟩
        exact ⟨rfl, rfl, rfl⟩

end Chan

/-! ## The readers-writer lock -/

/-- `sync.RWMutex`: the readers, the goroutine in `Lock` or between `Lock` and `Unlock`, and whether it has the
lock already. -/
structure RWMutex (ρ ω : Type) where
  readers : Finset ρ
  writer : Option ω
  held : Bool
  exclusive : held = true → readers = ∅ ∧ writer ≠ none

namespace RWMutex

variable {ρ ω : Type}

def unlocked : RWMutex ρ ω := ⟨∅, none, false, nofun⟩

/-- `RLock`. -/
def rLock [DecidableEq ρ] (m : RWMutex ρ ω) (r : ρ) : Option (RWMutex ρ ω) :=
  if m.writer = none then some ⟨insert r m.readers, none, false, nofun⟩ else none

/-- `RUnlock`. -/
def rUnlock [DecidableEq ρ] (m : RWMutex ρ ω) (r : ρ) : Option (RWMutex ρ ω) :=
  if r ∈ m.readers then
    some
      { m with
        readers := m.readers.erase r
        exclusive := by
          intro hheld
          rw [(m.exclusive hheld).1]
          exact ⟨Finset.erase_empty r, (m.exclusive hheld).2⟩ }
  else none

/-- The first half of `Lock`, in which other writers are waited for. -/
def announce (m : RWMutex ρ ω) (w : ω) : Option (RWMutex ρ ω) :=
  if m.writer = none then some ⟨m.readers, some w, false, nofun⟩ else none

/-- The second half of `Lock`, in which the readers are waited for. -/
def acquire [DecidableEq ρ] [DecidableEq ω] (m : RWMutex ρ ω) (w : ω) : Option (RWMutex ρ ω) :=
  if m.writer = some w ∧ m.readers = ∅ ∧ m.held = false then some ⟨∅, some w, true, by simp⟩ else none

/-- `Unlock`. -/
def unlock [DecidableEq ω] (m : RWMutex ρ ω) (w : ω) : Option (RWMutex ρ ω) :=
  if m.writer = some w ∧ m.held = true then some ⟨m.readers, none, false, nofun⟩ else none

variable {m next : RWMutex ρ ω} {r : ρ} {w : ω}

theorem rLock_eq_some_iff [DecidableEq ρ] :
    m.rLock r = some next ↔
      m.writer = none ∧ next.readers = insert r m.readers ∧ next.writer = none ∧ next.held = false := by
  obtain ⟨readers, writer, held, exclusive⟩ := next
  simp only [rLock, Option.ite_none_right_eq_some, Option.some.injEq, mk.injEq]
  tauto

theorem rUnlock_eq_some_iff [DecidableEq ρ] :
    m.rUnlock r = some next ↔
      r ∈ m.readers ∧ next.readers = m.readers.erase r ∧ next.writer = m.writer ∧ next.held = m.held := by
  obtain ⟨readers, writer, held, exclusive⟩ := next
  simp only [rUnlock, Option.ite_none_right_eq_some, Option.some.injEq, mk.injEq]
  tauto

theorem announce_eq_some_iff :
    m.announce w = some next ↔
      m.writer = none ∧ next.readers = m.readers ∧ next.writer = some w ∧ next.held = false := by
  obtain ⟨readers, writer, held, exclusive⟩ := next
  simp only [announce, Option.ite_none_right_eq_some, Option.some.injEq, mk.injEq]
  tauto

theorem acquire_eq_some_iff [DecidableEq ρ] [DecidableEq ω] :
    m.acquire w = some next ↔
      (m.writer = some w ∧ m.readers = ∅ ∧ m.held = false) ∧
        next.readers = ∅ ∧ next.writer = some w ∧ next.held = true := by
  obtain ⟨readers, writer, held, exclusive⟩ := next
  simp only [acquire, Option.ite_none_right_eq_some, Option.some.injEq, mk.injEq]
  tauto

theorem unlock_eq_some_iff [DecidableEq ω] :
    m.unlock w = some next ↔
      (m.writer = some w ∧ m.held = true) ∧
        next.readers = m.readers ∧ next.writer = none ∧ next.held = false := by
  obtain ⟨readers, writer, held, exclusive⟩ := next
  simp only [unlock, Option.ite_none_right_eq_some, Option.some.injEq, mk.injEq]
  tauto

/-- The goroutine that has the lock for writing can let it go. -/
theorem unlock_of_held [DecidableEq ω] (hwriter : m.writer = some w) (hheld : m.held = true) :
    ∃ next, m.unlock w = some next ∧ next.writer = none :=
  ⟨_, if_pos ⟨hwriter, hheld⟩, rfl⟩

/-- A goroutine in `Lock` gets the lock when the readers have left. -/
theorem acquire_of_left [DecidableEq ρ] [DecidableEq ω] (hwriter : m.writer = some w) (hreaders : m.readers = ∅)
    (hheld : m.held = false) : ∃ next, m.acquire w = some next :=
  ⟨_, if_pos ⟨hwriter, hreaders, hheld⟩⟩

/-- A reader comes in when nobody is in `Lock` or has the lock for writing. -/
theorem rLock_of_none [DecidableEq ρ] (hwriter : m.writer = none) : ∃ next, m.rLock r = some next :=
  ⟨_, if_pos hwriter⟩

/-- A reader can leave. -/
theorem rUnlock_of_mem [DecidableEq ρ] (hreader : r ∈ m.readers) : ∃ next, m.rUnlock r = some next :=
  ⟨_, if_pos hreader⟩

/-- While a goroutine has the lock for writing nobody has it for reading. -/
theorem not_mem_readers (hheld : m.held = true) : r ∉ m.readers := by
  rw [(m.exclusive hheld).1]
  exact Finset.notMem_empty r

end RWMutex

end Go
end Dmanager
