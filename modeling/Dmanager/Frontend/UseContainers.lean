import Dmanager.Go.Strings
import Dmanager.Lib.TransitionSystem

/-!
# The container list of the browser

The reducer of `useContainers.ts`: the list, the table of the pending deletions, and their timers.  A response of
the stream and a timer that fires are one step each, for React applies the updates of the list one after the
other.  The hook only compares strings, so a string of the browser stands as its UTF-8 bytes.

A `delete` keeps the row for 300 ms, so that the row of a container that is recreated under the same name can be
patched in place; the timer stands in a table under the name of the row.  A `save` calls off the timer under the
name of its container, whichever container that timer is there to remove, and so does a `delete`.

* `HookState.row?` and the lemmas about it — the list as a map from ids to rows, and what each step does to it.
* `distinctIds_step` — the ids stay distinct.
* `not_listed_of_deleted` — in the runs in which no response calls off the last timer of another container that
  stays in the list, no container whose latest response is a `delete` is listed once no timer is pending.
* `deleted_stays_listed` — without the condition it can be, and for good.
-/

namespace Dmanager
namespace Frontend

open Go Lib

/-! ## The source -/

/-- `Container`: a row of the list. -/
structure Container where
  id : GoString
  name : GoString
  image : GoString
  imageId : GoString
  state : GoString
  autoUpdate : Bool
  updateAvailable : Bool
  latestImageDigest : GoString
  lastCheckedAt : GoString
  lastUpdatedAt : GoString
  deriving DecidableEq, Repr

/-- `ProtoContainer`: a container as it arrives. -/
structure ProtoContainer where
  id : Option GoString
  name : Option GoString
  image : Option GoString
  imageId : Option GoString
  state : Option GoString
  autoUpdate : Option Bool
  updateAvailable : Option Bool
  latestImageDigest : Option GoString
  lastCheckedAt : Option GoString
  lastUpdatedAt : Option GoString
  deriving DecidableEq, Repr

def mapProtoContainer (c : ProtoContainer) : Container where
  id := c.id.getD []
  name := c.name.getD []
  image := c.image.getD []
  imageId := c.imageId.getD []
  state := c.state.getD []
  autoUpdate := c.autoUpdate.getD false
  updateAvailable := c.updateAvailable.getD false
  latestImageDigest := c.latestImageDigest.getD []
  lastCheckedAt := c.lastCheckedAt.getD []
  lastUpdatedAt := c.lastUpdatedAt.getD []

/-- `StreamContainersResponse`. -/
structure StreamContainersResponse where
  action : GoString
  containerId : GoString
  container : Option ProtoContainer
  deriving DecidableEq, Repr

/-- What the reducer does with a response. -/
inductive Change where
  | delete (containerId : GoString)
  | save (mapped : Container)
  deriving DecidableEq, Repr

/-- The two branches of the reducer; it drops a response that is neither. -/
def StreamContainersResponse.change? (response : StreamContainersResponse) : Option Change :=
  if response.action = str "delete" then some (.delete response.containerId)
  else if response.action = str "save" then response.container.map fun c => .save (mapProtoContainer c)
  else none

/-- A timer of `window.setTimeout` that removes the container, with the name that it was set under. -/
structure DeleteTimer where
  timeoutId : Nat
  containerId : GoString
  name : GoString
  deriving DecidableEq, Repr

/-- The list, `pendingDeletes.current`, and the timers that have neither fired nor been cleared. -/
structure HookState where
  containers : List Container
  pendingDeletes : GoString → Option Nat
  timers : List DeleteTimer
  nextTimeout : Nat

/-- The hook with a list and no timers. -/
def HookState.start (containers : List Container) : HookState where
  containers := containers
  pendingDeletes := fun _ => none
  timers := []
  nextTimeout := 1

namespace HookState

/-- `window.clearTimeout(pendingDeletes.current[name])`; without such a timer it does nothing. -/
def clearTimeout (s : HookState) (name : GoString) : List DeleteTimer :=
  s.timers.filter fun timer => s.pendingDeletes name ≠ some timer.timeoutId

/-- `pendingDeletes.current[name] = timeoutId`.  An assignment of a number to `__proto__` has no effect. -/
def setPending (s : HookState) (name : GoString) : GoString → Option Nat :=
  if name = str "__proto__" then s.pendingDeletes else Function.update s.pendingDeletes name (some s.nextTimeout)

/-- A `delete`. -/
def delete (s : HookState) (containerId : GoString) : HookState :=
  match s.containers.find? fun c => c.id = containerId with
  | some containerToDelete =>
    { s with
      pendingDeletes := s.setPending containerToDelete.name
      timers := s.clearTimeout containerToDelete.name ++ [⟨s.nextTimeout, containerId, containerToDelete.name⟩]
      nextTimeout := s.nextTimeout + 1 }
  | none => { s with containers := s.containers.filter fun c => c.id ≠ containerId }

/-- The row that a `save` replaces: the one with its id, or else the first one with its name. -/
def saveIndex (s : HookState) (mapped : Container) : Option Nat :=
  match s.containers.findIdx? fun c => c.id = mapped.id with
  | some idx => some idx
  | none => s.containers.findIdx? fun c => c.name = mapped.name

/-- A `save`. -/
def save (s : HookState) (mapped : Container) : HookState where
  containers :=
    match s.saveIndex mapped with
    | some idx => s.containers.set idx mapped
    | none => s.containers ++ [mapped]
  pendingDeletes := Function.update s.pendingDeletes mapped.name none
  timers := s.clearTimeout mapped.name
  nextTimeout := s.nextTimeout

def change (s : HookState) : Change → HookState
  | .delete containerId => s.delete containerId
  | .save mapped => s.save mapped

/-- The reducer, on one response of the stream. -/
def reduce (s : HookState) (response : StreamContainersResponse) : HookState :=
  match response.change? with
  | some change => s.change change
  | none => s

/-- The function that a timer runs when it fires. -/
def fire (s : HookState) (timer : DeleteTimer) : HookState :=
  { s with
    containers := s.containers.filter fun c => c.id ≠ timer.containerId
    pendingDeletes := Function.update s.pendingDeletes timer.name none
    timers := s.timers.filter fun other => other.timeoutId ≠ timer.timeoutId }

end HookState

/-- What happens to the hook. -/
inductive HookEvent where
  | response (response : StreamContainersResponse)
  | fire (timer : DeleteTimer)
  deriving DecidableEq, Repr

/-- A timer that was cleared does not fire. -/
def HookState.step (s : HookState) : HookEvent → Option HookState
  | .response response => some (s.reduce response)
  | .fire timer => if timer ∈ s.timers then some (s.fire timer) else none

/-! ## The list as a map -/

namespace HookState

/-- The row of an id. -/
def row? (s : HookState) (id : GoString) : Option Container := s.containers.find? fun c => c.id = id

/-- A timer is there that removes the container. -/
def Removing (s : HookState) (id : GoString) : Prop := ∃ timer ∈ s.timers, timer.containerId = id

instance (s : HookState) (id : GoString) : Decidable (s.Removing id) :=
  inferInstanceAs (Decidable (∃ timer ∈ s.timers, _))

/-- The container whose row a `save` takes over because of the name. -/
def replaced? (s : HookState) (mapped : Container) : Option GoString :=
  match s.row? mapped.id with
  | some _ => none
  | none => (s.containers.find? fun c => c.name = mapped.name).map Container.id

end HookState

/-- The ids of a list of rows are distinct. -/
def DistinctIds (containers : List Container) : Prop := (containers.map Container.id).Nodup

instance (containers : List Container) : Decidable (DistinctIds containers) :=
  inferInstanceAs (Decidable (List.Nodup _))

section Rows

variable {containers before after : List Container} {row mapped : Container} {id : GoString}

theorem find?_id_eq_some (hdistinct : DistinctIds containers) (hmem : row ∈ containers) :
    (containers.find? fun c => c.id = row.id) = some row := by
  induction containers with
  | nil => cases hmem
  | cons first rest ih =>
      obtain ⟨hfirst, hrest⟩ := List.nodup_cons.mp hdistinct
      rcases List.mem_cons.mp hmem with rfl | hmem'
      · simp
      · have hne : first.id ≠ row.id := by
          intro heq
          exact hfirst (heq ▸ List.mem_map_of_mem hmem')
        rw [List.find?_cons_of_neg (by simpa using hne)]
        exact ih hrest hmem'

theorem find?_id_eq_none : (containers.find? fun c => c.id = id) = none ↔ id ∉ containers.map Container.id := by
  simp [List.find?_eq_none]

/-- Where the list is cut at the first row that a search finds. -/
theorem exists_append_of_findIdx? {p : Container → Bool} {idx : Nat} (hidx : containers.findIdx? p = some idx) :
    ∃ before row after, containers = before ++ row :: after ∧ p row ∧ containers.find? p = some row ∧
      ∀ mapped, containers.set idx mapped = before ++ mapped :: after := by
  induction containers generalizing idx with
  | nil => cases hidx
  | cons first rest ih =>
      rw [List.findIdx?_cons] at hidx
      cases hfirst : p first with
      | true =>
          rw [hfirst, if_pos rfl] at hidx
          cases hidx
          exact ⟨[], first, rest, rfl, hfirst, by simp [hfirst], fun _ => rfl⟩
      | false =>
          rw [hfirst, if_neg Bool.false_ne_true] at hidx
          obtain ⟨n, hn, rfl⟩ := Option.map_eq_some_iff.mp hidx
          obtain ⟨before, row, after, rfl, hrow, hfind, hset⟩ := ih hn
          refine ⟨first :: before, row, after, rfl, hrow, ?_, fun mapped => ?_⟩
          · rw [List.find?_cons_of_neg (by simp [hfirst])]
            exact hfind
          · rw [List.set_cons_succ, hset]
            rfl

/-- The rows after one of them is exchanged for another one. -/
theorem find?_exchange (hdistinct : DistinctIds (before ++ row :: after))
    (hfree : mapped.id = row.id ∨ mapped.id ∉ (before ++ row :: after).map Container.id) :
    ((before ++ mapped :: after).find? fun c => c.id = id) =
      if id = mapped.id then some mapped
      else if id = row.id then none
      else (before ++ row :: after).find? fun c => c.id = id := by
  have hbefore : ∀ c ∈ before, c.id ≠ mapped.id ∧ c.id ≠ row.id := by
    intro c hc
    have hrow : c.id ≠ row.id := by
      intro heq
      rw [DistinctIds, List.map_append, List.nodup_append] at hdistinct
      exact hdistinct.2.2 _ (List.mem_map_of_mem hc) _ (by simp) heq
    refine ⟨fun heq => ?_, hrow⟩
    rcases hfree with hsame | hnone
    · exact hrow (heq.trans hsame)
    · exact hnone (heq ▸ List.mem_map_of_mem (List.mem_append_left _ hc))
  have hafter : ∀ c ∈ after, c.id ≠ row.id := by
    intro c hc heq
    rw [DistinctIds, List.map_append, List.nodup_append] at hdistinct
    exact (List.nodup_cons.mp hdistinct.2.1).1 (heq ▸ List.mem_map_of_mem hc)
  by_cases hmapped : id = mapped.id
  · subst hmapped
    have hnone : (before.find? fun c => c.id = mapped.id) = none := by
      simpa using fun c hc => (hbefore c hc).1
    rw [List.find?_append, hnone, if_pos rfl]
    simp
  · rw [if_neg hmapped]
    by_cases hrow : id = row.id
    · subst hrow
      rw [if_pos rfl, List.find?_eq_none]
      intro c hc
      rcases List.mem_append.mp hc with hc | hc
      · simpa using (hbefore c hc).2
      · rcases List.mem_cons.mp hc with rfl | hc
        · simpa using Ne.symm hmapped
        · simpa using hafter c hc
    · rw [if_neg hrow, List.find?_append, List.find?_append,
        List.find?_cons_of_neg (by simpa using Ne.symm hmapped),
        List.find?_cons_of_neg (by simpa using Ne.symm hrow)]

theorem distinctIds_exchange (hdistinct : DistinctIds (before ++ row :: after))
    (hfree : mapped.id = row.id ∨ mapped.id ∉ (before ++ row :: after).map Container.id) :
    DistinctIds (before ++ mapped :: after) := by
  rcases hfree with hsame | hnone
  · simpa [DistinctIds, hsame] using hdistinct
  · simp only [DistinctIds, List.map_append, List.map_cons, List.nodup_append, List.nodup_cons,
      List.mem_append, List.mem_cons] at hdistinct hnone ⊢
    grind

end Rows

/-! ## What a step does -/

namespace HookState

variable {s next : HookState} {mapped : Container} {containerId id : GoString} {timer other : DeleteTimer}

/-- A `save` puts its row into the list, in the place of the row that it replaces, and leaves the others. -/
theorem row?_save (hdistinct : DistinctIds s.containers) :
    (s.save mapped).row? id =
      if id = mapped.id then some mapped
      else if s.replaced? mapped = some id then none
      else s.row? id := by
  unfold row? save replaced? saveIndex row?
  cases hidx : s.containers.findIdx? fun c => c.id = mapped.id with
  | some idx =>
      obtain ⟨before, row, after, heq, hrow, hfind, hset⟩ := exists_append_of_findIdx? hidx
      replace hrow : row.id = mapped.id := by simpa using hrow
      rw [hfind]
      simp only [hset, reduceCtorEq, if_false]
      rw [heq] at hdistinct ⊢
      rw [find?_exchange hdistinct (Or.inl hrow.symm), hrow]
      split
      · rfl
      · rfl
  | none =>
      have hnone : (s.containers.find? fun c => c.id = mapped.id) = none := by
        simpa using List.findIdx?_eq_none_iff.mp hidx
      rw [hnone]
      simp only
      cases hname : s.containers.findIdx? fun c => c.name = mapped.name with
      | some idx =>
          obtain ⟨before, row, after, heq, -, hfind, hset⟩ := exists_append_of_findIdx? hname
          rw [hfind]
          simp only [hset, Option.map_some, Option.some.injEq]
          rw [heq] at hdistinct hnone ⊢
          rw [find?_exchange hdistinct (Or.inr (find?_id_eq_none.mp hnone))]
          simp only [eq_comm]
      | none =>
          have hfind : (s.containers.find? fun c => c.name = mapped.name) = none := by
            simpa using List.findIdx?_eq_none_iff.mp hname
          rw [hfind]
          simp only [Option.map_none, reduceCtorEq, if_false]
          by_cases hid : id = mapped.id
          · subst hid
            rw [if_pos rfl, List.find?_append, hnone]
            simp
          · rw [if_neg hid, List.find?_append, List.find?_cons_of_neg (by simpa using Ne.symm hid)]
            simp

/-- A `delete` leaves the list alone; a row goes when its timer fires. -/
theorem row?_delete : (s.delete containerId).row? id = s.row? id := by
  unfold delete
  cases hrow : s.containers.find? fun c => c.id = containerId with
  | some row => rfl
  | none =>
      have hkept : (s.containers.filter fun c => c.id ≠ containerId) = s.containers := by
        rw [List.filter_eq_self]
        simpa using hrow
      simp only [hkept]

theorem row?_fire : (s.fire timer).row? id = if id = timer.containerId then none else s.row? id := by
  unfold row? fire
  by_cases hid : id = timer.containerId
  · rw [if_pos hid, List.find?_eq_none]
    intro c hc
    simp only [List.mem_filter, ne_eq, decide_eq_true_eq] at hc
    simpa [hid] using hc.2
  · rw [if_neg hid, List.find?_filter]
    congr 1
    funext c
    by_cases hc : c.id = id
    · simp [hc, hid]
    · simp [hc]

theorem distinctIds_save (hdistinct : DistinctIds s.containers) : DistinctIds (s.save mapped).containers := by
  unfold save saveIndex
  cases hidx : s.containers.findIdx? fun c => c.id = mapped.id with
  | some idx =>
      obtain ⟨before, row, after, heq, hrow, -, hset⟩ := exists_append_of_findIdx? hidx
      replace hrow : row.id = mapped.id := by simpa using hrow
      simp only [hset]
      rw [heq] at hdistinct
      exact distinctIds_exchange hdistinct (Or.inl hrow.symm)
  | none =>
      have hnone : mapped.id ∉ s.containers.map Container.id := by
        rw [← find?_id_eq_none]
        simpa using List.findIdx?_eq_none_iff.mp hidx
      simp only
      cases hname : s.containers.findIdx? fun c => c.name = mapped.name with
      | some idx =>
          obtain ⟨before, row, after, heq, -, -, hset⟩ := exists_append_of_findIdx? hname
          simp only [hset]
          rw [heq] at hdistinct hnone
          exact distinctIds_exchange hdistinct (Or.inr hnone)
      | none =>
          show (List.map _ (s.containers ++ [mapped])).Nodup
          rw [List.map_append, List.nodup_append]
          refine ⟨hdistinct, by simp, ?_⟩
          intro id hid other hother heq
          rw [List.map_singleton, List.mem_singleton] at hother
          exact hnone (hother ▸ heq ▸ hid)

theorem distinctIds_filter {containers : List Container} {p : Container → Bool} (hdistinct : DistinctIds containers) :
    DistinctIds (containers.filter p) :=
  List.Nodup.sublist (List.Sublist.map _ List.filter_sublist) hdistinct

theorem distinctIds_change {change : Change} (hdistinct : DistinctIds s.containers) :
    DistinctIds (s.change change).containers := by
  cases change with
  | save mapped => exact distinctIds_save hdistinct
  | delete containerId =>
      show DistinctIds (s.delete containerId).containers
      unfold delete
      split
      · exact hdistinct
      · exact distinctIds_filter hdistinct

/-- The ids stay distinct. -/
theorem distinctIds_step {event : HookEvent} (hdistinct : DistinctIds s.containers)
    (hstep : s.step event = some next) : DistinctIds next.containers := by
  cases event with
  | response response =>
      cases hstep
      unfold reduce
      split
      · exact distinctIds_change hdistinct
      · exact hdistinct
  | fire timer =>
      obtain ⟨-, heq⟩ := Option.ite_none_right_eq_some.mp hstep
      cases heq
      exact distinctIds_filter hdistinct

theorem mem_timers_save :
    timer ∈ (s.save mapped).timers ↔ timer ∈ s.timers ∧ s.pendingDeletes mapped.name ≠ some timer.timeoutId := by
  simp [save, clearTimeout]

theorem timers_delete_of_none (hrow : s.row? containerId = none) : (s.delete containerId).timers = s.timers := by
  unfold delete
  rw [show (s.containers.find? fun c => c.id = containerId) = none from hrow]

theorem mem_timers_delete {row : Container} (hrow : s.row? containerId = some row) :
    timer ∈ (s.delete containerId).timers ↔
      (timer ∈ s.timers ∧ s.pendingDeletes row.name ≠ some timer.timeoutId) ∨
        timer = ⟨s.nextTimeout, containerId, row.name⟩ := by
  unfold delete
  rw [show (s.containers.find? fun c => c.id = containerId) = some row from hrow]
  simp [clearTimeout]

theorem mem_timers_fire :
    other ∈ (s.fire timer).timers ↔ other ∈ s.timers ∧ other.timeoutId ≠ timer.timeoutId := by
  simp [fire]

/-- No two timers have the same id, and a new one gets an id that no timer has. -/
structure TimersInv (s : HookState) : Prop where
  nodup : (s.timers.map DeleteTimer.timeoutId).Nodup
  fresh : ∀ timer ∈ s.timers, timer.timeoutId < s.nextTimeout

theorem timersInv_start (containers : List Container) : TimersInv (start containers) := by
  constructor <;> simp [start]

/-- Timers that are cleared leave the others alone. -/
theorem TimersInv.clearTimeout (hinv : TimersInv s) (name : GoString) :
    ((s.clearTimeout name).map DeleteTimer.timeoutId).Nodup ∧
      ∀ timer ∈ s.clearTimeout name, timer.timeoutId < s.nextTimeout := by
  refine ⟨hinv.nodup.sublist (List.filter_sublist.map _), fun timer hmem => ?_⟩
  exact hinv.fresh timer (List.mem_filter.mp hmem).1

theorem TimersInv.change (hinv : TimersInv s) (change : Change) : TimersInv (s.change change) := by
  cases change with
  | save mapped =>
      obtain ⟨hnodup, hfresh⟩ := hinv.clearTimeout mapped.name
      exact ⟨hnodup, hfresh⟩
  | delete containerId =>
      show TimersInv (s.delete containerId)
      unfold HookState.delete
      split
      · rename_i row _
        obtain ⟨hnodup, hfresh⟩ := hinv.clearTimeout row.name
        constructor
        · simp only [List.map_append, List.map_singleton, List.nodup_append]
          refine ⟨hnodup, by simp, ?_⟩
          intro earlier hearlier latest hlatest heq
          obtain ⟨timer, htimer, rfl⟩ := List.mem_map.mp hearlier
          rw [List.mem_singleton] at hlatest
          have hlt := hfresh timer htimer
          omega
        · intro timer hmem
          rcases List.mem_append.mp hmem with hold | hnew
          · exact Nat.lt_succ_of_lt (hfresh timer hold)
          · rw [List.mem_singleton.mp hnew]
            exact Nat.lt_succ_self _
      · exact ⟨hinv.nodup, hinv.fresh⟩

theorem timersInv_step {event : HookEvent} (hinv : TimersInv s) (hstep : s.step event = some next) :
    TimersInv next := by
  cases event with
  | response response =>
      cases hstep
      unfold reduce
      split
      · exact hinv.change _
      · exact hinv
  | fire timer =>
      obtain ⟨-, heq⟩ := Option.ite_none_right_eq_some.mp hstep
      cases heq
      refine ⟨hinv.nodup.sublist (List.filter_sublist.map _), fun other hmem => ?_⟩
      exact hinv.fresh other (mem_timers_fire.mp hmem).1

/-- A timer that fires is the only one with its id. -/
theorem TimersInv.eq_of_timeoutId (hinv : TimersInv s) (htimer : timer ∈ s.timers) (hother : other ∈ s.timers)
    (heq : other.timeoutId = timer.timeoutId) : other = timer :=
  List.inj_on_of_nodup_map hinv.nodup hother htimer heq

end HookState

/-! ## Deletions that are called off -/

/-- The container that a change is about. -/
def Change.id : Change → GoString
  | .delete containerId => containerId
  | .save mapped => mapped.id

namespace HookState

/-- The name under which a change looks for a timer. -/
def lookupName? (s : HookState) : Change → Option GoString
  | .delete containerId => (s.row? containerId).map Container.name
  | .save mapped => some mapped.name

/-- The container whose row a change takes over because of the name. -/
def replacedBy? (s : HookState) : Change → Option GoString
  | .delete _ => none
  | .save mapped => s.replaced? mapped

/-- A change calls off all deletions of another container, whose row stays in the list. -/
def Strands (s : HookState) (change : Change) (id : GoString) : Prop :=
  id ≠ change.id ∧ s.row? id ≠ none ∧ s.replacedBy? change ≠ some id ∧
    ∀ timer ∈ s.timers, timer.containerId = id →
      (s.lookupName? change).bind s.pendingDeletes = some timer.timeoutId

instance (s : HookState) (change : Change) (id : GoString) : Decidable (s.Strands change id) :=
  inferInstanceAs (Decidable (_ ∧ _ ∧ _ ∧ _))

variable {s : HookState} {id : GoString} {change : Change} {timer : DeleteTimer}

/-- The row of a container that the change is not about. -/
theorem row?_change_of_ne (hdistinct : DistinctIds s.containers) (hid : id ≠ change.id) :
    (s.change change).row? id = if s.replacedBy? change = some id then none else s.row? id := by
  cases change with
  | save mapped => exact (row?_save hdistinct).trans (if_neg hid)
  | delete containerId => exact row?_delete

/-- A timer is kept unless the change finds it under its name. -/
theorem mem_timers_change_of_kept (htimer : timer ∈ s.timers)
    (hkept : (s.lookupName? change).bind s.pendingDeletes ≠ some timer.timeoutId) :
    timer ∈ (s.change change).timers := by
  cases change with
  | save mapped => exact mem_timers_save.mpr ⟨htimer, hkept⟩
  | delete containerId =>
      show timer ∈ (s.delete containerId).timers
      cases hrow : s.row? containerId with
      | none =>
          rw [timers_delete_of_none hrow]
          exact htimer
      | some row =>
          rw [lookupName?, hrow] at hkept
          exact (mem_timers_delete hrow).mpr (Or.inl ⟨htimer, hkept⟩)

/-- A change sets a timer for its own container only. -/
theorem removing_of_change (hid : id ≠ change.id) (hremoving : (s.change change).Removing id) : s.Removing id := by
  obtain ⟨timer, htimer, hcontainer⟩ := hremoving
  cases change with
  | save mapped => exact ⟨timer, (mem_timers_save.mp htimer).1, hcontainer⟩
  | delete containerId =>
      replace htimer : timer ∈ (s.delete containerId).timers := htimer
      cases hrow : s.row? containerId with
      | none =>
          rw [timers_delete_of_none hrow] at htimer
          exact ⟨timer, htimer, hcontainer⟩
      | some row =>
          rcases (mem_timers_delete hrow).mp htimer with ⟨hold, -⟩ | rfl
          · exact ⟨timer, hold, hcontainer⟩
          · exact absurd hcontainer.symm hid

/-- What is to be removed, and not stranded, is gone or still to be removed. -/
theorem removal_of_not_strands (hdistinct : DistinctIds s.containers) (hid : id ≠ change.id)
    (hkeeps : ¬ s.Strands change id) :
    (s.change change).row? id = none ∨ (s.change change).Removing id := by
  rw [row?_change_of_ne hdistinct hid]
  by_cases hreplaced : s.replacedBy? change = some id
  · exact Or.inl (if_pos hreplaced)
  · rw [if_neg hreplaced]
    by_cases hrow : s.row? id = none
    · exact Or.inl hrow
    · refine Or.inr ?_
      by_contra hnone
      refine hkeeps ⟨hid, hrow, hreplaced, fun other hother hsame => ?_⟩
      by_contra hkept
      exact hnone ⟨other, mem_timers_change_of_kept hother hkept, hsame⟩

/-- A `delete` of a listed container sets its timer. -/
theorem removal_of_delete : (s.delete id).row? id = none ∨ (s.delete id).Removing id := by
  rw [row?_delete]
  cases hrow : s.row? id with
  | none => exact Or.inl rfl
  | some row => exact Or.inr ⟨_, (mem_timers_delete hrow).mpr (Or.inr rfl), rfl⟩

end HookState

/-! ## Runs of the reducer -/

/-- The hook, with the containers whose latest response was a `delete`. -/
structure TrackedHook where
  hook : HookState
  deleted : Finset GoString

namespace TrackedHook

/-- The hook with a list, before the first response. -/
def start (containers : List Container) : TrackedHook := ⟨.start containers, ∅⟩

/-- A step of the hook; a response is the latest one of the container that it is about. -/
def step (t : TrackedHook) (event : HookEvent) : Option TrackedHook :=
  (t.hook.step event).map fun hook =>
    { hook := hook
      deleted :=
        match event with
        | .fire _ => t.deleted
        | .response response =>
            match response.change? with
            | some (.delete containerId) => insert containerId t.deleted
            | some (.save mapped) => t.deleted.erase mapped.id
            | none => t.deleted }

/-- The event strands no container that is to be removed. -/
def KeepsDeletions (t : TrackedHook) : HookEvent → Prop
  | .fire _ => True
  | .response response =>
      ∀ change ∈ response.change?, ∀ timer ∈ t.hook.timers, timer.containerId ∈ t.deleted →
        ¬ t.hook.Strands change timer.containerId

instance (t : TrackedHook) (event : HookEvent) : Decidable (t.KeepsDeletions event) :=
  match event with
  | .fire _ => isTrue trivial
  | .response response => inferInstanceAs (Decidable (∀ change ∈ response.change?, _))

/-- A container whose latest response is a `delete` has gone, or its timer is there. -/
structure Inv (t : TrackedHook) : Prop where
  distinct : DistinctIds t.hook.containers
  timers : t.hook.TimersInv
  removal : ∀ id ∈ t.deleted, t.hook.row? id = none ∨ t.hook.Removing id

variable {t next final : TrackedHook} {event : HookEvent} {events : List HookEvent} {containers : List Container}

theorem inv_step (hinv : Inv t) (hkeeps : t.KeepsDeletions event) (hstep : t.step event = some next) : Inv next := by
  obtain ⟨hook, hhook, rfl⟩ := Option.map_eq_some_iff.mp hstep
  refine ⟨HookState.distinctIds_step hinv.distinct hhook, HookState.timersInv_step hinv.timers hhook, ?_⟩
  cases event with
  | fire timer =>
      obtain ⟨htimer, heq⟩ := Option.ite_none_right_eq_some.mp hhook
      cases heq
      intro id hid
      rw [HookState.row?_fire]
      by_cases hsame : id = timer.containerId
      · exact Or.inl (if_pos hsame)
      · rw [if_neg hsame]
        refine (hinv.removal id hid).imp_right ?_
        rintro ⟨other, hother, hcontainer⟩
        refine ⟨other, HookState.mem_timers_fire.mpr ⟨hother, fun heq => hsame ?_⟩, hcontainer⟩
        rw [← hcontainer, hinv.timers.eq_of_timeoutId htimer hother heq]
  | response response =>
      cases hhook
      simp only [HookState.reduce]
      cases hchange : response.change? with
      | none => exact hinv.removal
      | some change =>
          have hothers : ∀ id ∈ t.deleted, id ≠ change.id →
              (t.hook.change change).row? id = none ∨ (t.hook.change change).Removing id := by
            intro id hid hne
            rcases hinv.removal id hid with hgone | ⟨timer, htimer, rfl⟩
            · left
              rw [HookState.row?_change_of_ne hinv.distinct hne, hgone, ite_self]
            · exact HookState.removal_of_not_strands hinv.distinct hne (hkeeps change hchange timer htimer hid)
          cases change with
          | delete containerId =>
              intro id hid
              by_cases hsame : id = containerId
              · rw [hsame]
                exact HookState.removal_of_delete
              · exact hothers id (Finset.mem_of_mem_insert_of_ne hid hsame) hsame
          | save mapped =>
              intro id hid
              obtain ⟨hne, hdeleted⟩ := Finset.mem_erase.mp hid
              exact hothers id hdeleted hne

/-- The ids of the list stay distinct in every run.  In a run in which every response keeps the deletions, no
container whose latest response is a `delete` is listed while no timer is pending. -/
theorem not_listed_of_deleted (containers : List Container) (events : List HookEvent) (final : TrackedHook)
    (hdistinct : DistinctIds containers) (hrun : exec step (start containers) events = some final) :
    DistinctIds final.hook.containers ∧
      (Guarded step KeepsDeletions (start containers) events → final.hook.timers = [] →
        ∀ id ∈ final.deleted, id ∉ final.hook.containers.map Container.id) := by
  constructor
  · refine exec_invariant (fun t => DistinctIds t.hook.containers) (fun t event next h hstep => ?_) hrun hdistinct
    obtain ⟨hook, hhook, rfl⟩ := Option.map_eq_some_iff.mp hstep
    exact HookState.distinctIds_step h hhook
  · intro hkeeps htimers id hid
    have hstart : Inv (start containers) := ⟨hdistinct, HookState.timersInv_start containers, by simp [start]⟩
    have hinv : Inv final :=
      exec_invariant_of_guarded Inv (fun _ _ _ => inv_step) hkeeps hrun hstart
    rcases hinv.removal id hid with hgone | ⟨timer, htimer, -⟩
    · exact find?_id_eq_none.mp hgone
    · rw [htimers] at htimer
      cases htimer

/-- A running container of the list. -/
def listed (id name : GoString) : Container where
  id := id
  name := name
  image := str "nginx:latest"
  imageId := str "sha256:1"
  state := str "running"
  autoUpdate := false
  updateAvailable := false
  latestImageDigest := []
  lastCheckedAt := []
  lastUpdatedAt := []

/-- The response with which the server saves it. -/
def saveResponse (c : Container) : StreamContainersResponse where
  action := str "save"
  containerId := c.id
  container := some
    { id := some c.id
      name := some c.name
      image := some c.image
      imageId := some c.imageId
      state := some c.state
      autoUpdate := some c.autoUpdate
      updateAvailable := some c.updateAvailable
      latestImageDigest := some c.latestImageDigest
      lastCheckedAt := some c.lastCheckedAt
      lastUpdatedAt := some c.lastUpdatedAt }

def deleteResponse (containerId : GoString) : StreamContainersResponse := ⟨str "delete", containerId, none⟩

def twoContainers : List Container := [listed (str "a") (str "web"), listed (str "b") (str "db")]

/-- The first container is recreated within 300 ms, the second one is removed. -/
def recreatedRun : List HookEvent :=
  [.response (deleteResponse (str "a")), .response (saveResponse (listed (str "c") (str "web"))),
    .response (deleteResponse (str "b")), .fire ⟨2, str "b", str "db"⟩]

theorem exec_recreatedRun :
    (exec step (start twoContainers) recreatedRun).map
        (fun t => (t.hook.timers, decide (str "a" ∈ t.deleted), t.hook.containers)) =
      some ([], true, [listed (str "c") (str "web")]) := by
  decide +kernel

theorem not_listed_of_deleted_recreatedRun :
    ∃ final, exec step (start twoContainers) recreatedRun = some final ∧ final.hook.timers = [] ∧
      str "a" ∈ final.deleted ∧ str "a" ∉ final.hook.containers.map Container.id := by
  have hkeeps : Guarded step KeepsDeletions (start twoContainers) recreatedRun := by decide +kernel
  obtain ⟨final, hfinal, hend⟩ := Option.map_eq_some_iff.mp exec_recreatedRun
  simp only [Prod.mk.injEq, decide_eq_true_eq] at hend
  obtain ⟨htimers, hdeleted, -⟩ := hend
  have hlist := not_listed_of_deleted twoContainers recreatedRun final (by decide +kernel) hfinal
  exact ⟨final, hfinal, htimers, hdeleted, hlist.2 hkeeps htimers _ hdeleted⟩

/-- The first container is removed, and the second one gets its name. -/
def renamedRun : List HookEvent :=
  [.response (deleteResponse (str "a")), .response (saveResponse (listed (str "b") (str "web")))]

theorem exec_renamedRun :
    (exec step (start twoContainers) renamedRun).map
        (fun t => (t.hook.timers, decide (str "a" ∈ t.deleted), t.hook.containers)) =
      some ([], true, [listed (str "a") (str "web"), listed (str "b") (str "web")]) := by
  decide +kernel

/-- The container that was removed stays in the list, and nothing is there that would remove it. -/
theorem deleted_stays_listed :
    DistinctIds twoContainers ∧
      ∃ final, exec step (start twoContainers) renamedRun = some final ∧ final.hook.timers = [] ∧
        str "a" ∈ final.deleted ∧ str "a" ∈ final.hook.containers.map Container.id := by
  refine ⟨by decide +kernel, ?_⟩
  obtain ⟨final, hfinal, hend⟩ := Option.map_eq_some_iff.mp exec_renamedRun
  simp only [Prod.mk.injEq, decide_eq_true_eq] at hend
  obtain ⟨htimers, hdeleted, hcontainers⟩ := hend
  exact ⟨final, hfinal, htimers, hdeleted, by rw [hcontainers]; decide +kernel⟩

end TrackedHook

end Frontend
end Dmanager
