import Dmanager.Go.Strings
import Dmanager.Lib.TransitionSystem

/-!
# `useAuditLogs`

The hook behind the audit page calls `ListAuditLogs` whenever the query, a filter or the page has changed, and on
`refresh`.  Calls overlap while the user types and clicks.  Unlike `useEngineStatus`, the hook shows whatever comes
back, also when a later call for other filters has come back before.

A change of the state and the effect that it causes are one step of the model.  The calls are numbered by their
starts, and every call that comes back is kept with its answer; nothing in the hook reads either.

* `ShowsCurrent` — the entries are those of a response to a call with the current filters.
* `InTime` — a response is in time unless the call that was started last has been answered and the response is to a
  call with other filters.
* `auditLogs_showsCurrent` — in the runs whose responses are all in time, a page with nothing in flight, whose last
  call has not failed, shows the current filters.
* `auditLogs_overtaken` — one late response, and the page keeps showing another filter.
-/

namespace Dmanager
namespace Frontend

open Go Lib

/-- `AUDIT_PAGE_SIZE`. -/
def auditPageSize : Nat := 50

/-- `AUDIT_SOURCE`. -/
inductive AuditSource where
  | all
  | user
  | system
  deriving DecidableEq, Repr

/-- `AUDIT_OUTCOME`. -/
inductive AuditOutcome where
  | all
  | success
  | failure
  | denied
  deriving DecidableEq, Repr

def AuditSource.wire : AuditSource → Int32
  | .all => 0
  | .user => 1
  | .system => 2

def AuditOutcome.wire : AuditOutcome → Int32
  | .all => 0
  | .success => 1
  | .failure => 2
  | .denied => 3

/-- `ListAuditLogsRequest`. -/
structure ListAuditLogsRequest where
  query : GoString
  source : Int32
  outcome : Int32
  limit : Nat
  offset : Int
  deriving DecidableEq, Repr

/-- `ListAuditLogsResponse`; `E` is `AuditLogEntry`, into which the hook does not look. -/
structure ListAuditLogsResponse (E : Type) where
  entries : List E
  total : Nat
  deriving DecidableEq, Repr

/-- The committed query, the filters and the page. -/
structure AuditFilter where
  query : GoString
  source : AuditSource
  outcome : AuditOutcome
  page : Int
  deriving DecidableEq, Repr

/-- The request of `fetchLogs`. -/
def AuditFilter.request (f : AuditFilter) : ListAuditLogsRequest where
  query := f.query
  source := f.source.wire
  outcome := f.outcome.wire
  limit := auditPageSize
  offset := f.page * auditPageSize

/-- A call of `listAuditLogs`: the how-manieth it is, and its request. -/
structure AuditFetch where
  number : Nat
  request : ListAuditLogsRequest
  deriving DecidableEq, Repr

/-- A call that has come back. -/
structure AuditAnswer (E : Type) where
  fetch : AuditFetch
  result : Except GoString (ListAuditLogsResponse E)
  deriving DecidableEq

/-- The state of the hook, the input that the timer of the search box holds, the calls in flight, and the answers. -/
structure AuditHook (E : Type) where
  queryInput : GoString
  filter : AuditFilter
  entries : List E
  total : Nat
  loading : Bool
  error : Option GoString
  debounce : Option GoString
  pending : List AuditFetch
  started : Nat
  answers : List (AuditAnswer E)
  deriving DecidableEq

variable {E : Type}

namespace AuditHook

/-- `fetchLogs`, up to its await. -/
def fetchLogs (s : AuditHook E) : AuditHook E :=
  { s with
    loading := true
    error := none
    pending := s.pending ++ [⟨s.started + 1, s.filter.request⟩]
    started := s.started + 1 }

/-- Another filter is committed; the effect runs when something has changed. -/
def commit (s : AuditHook E) (filter : AuditFilter) : AuditHook E :=
  if filter = s.filter then s else fetchLogs { s with filter := filter }

/-- The page has been opened: the timer of the empty search box runs, and the first call is on its way. -/
def start : AuditHook E :=
  fetchLogs ⟨[], ⟨[], .all, .all, 0⟩, [], 0, true, none, some [], [], 0, []⟩

/-- `setQueryInput`, which restarts the timer. -/
def setQueryInput (s : AuditHook E) (input : GoString) : AuditHook E :=
  if input = s.queryInput then s else { s with queryInput := input, debounce := some input }

/-- `fetchLogs`, from its await on, when the call has succeeded. -/
def respond (s : AuditHook E) (f : AuditFetch) (resp : ListAuditLogsResponse E) : AuditHook E :=
  { s with
    entries := resp.entries
    total := resp.total
    loading := false
    pending := s.pending.erase f
    answers := ⟨f, .ok resp⟩ :: s.answers }

/-- `fetchLogs`, from its await on, when the call has failed. -/
def reject (s : AuditHook E) (f : AuditFetch) (err : GoString) : AuditHook E :=
  { s with
    error := some err
    loading := false
    pending := s.pending.erase f
    answers := ⟨f, .error err⟩ :: s.answers }

end AuditHook

/-- What the user does, the timer of the search box, and the calls that come back. -/
inductive AuditEvent (E : Type) where
  | setQueryInput (input : GoString)
  | debounced
  | updateSource (source : AuditSource)
  | updateOutcome (outcome : AuditOutcome)
  | setPage (page : Int)
  | refresh
  | responded (f : AuditFetch) (resp : ListAuditLogsResponse E)
  | rejected (f : AuditFetch) (err : GoString)
  deriving DecidableEq

/-- One event. -/
def AuditHook.step [DecidableEq E] (s : AuditHook E) : AuditEvent E → Option (AuditHook E)
  | .setQueryInput input => some (s.setQueryInput input)
  | .debounced =>
    s.debounce.map fun input =>
      AuditHook.commit { s with debounce := none } { s.filter with query := input, page := 0 }
  | .updateSource source => some (s.commit { s.filter with source := source, page := 0 })
  | .updateOutcome outcome => some (s.commit { s.filter with outcome := outcome, page := 0 })
  | .setPage page => some (s.commit { s.filter with page := page })
  | .refresh => some s.fetchLogs
  | .responded f resp => if f ∈ s.pending then some (s.respond f resp) else none
  | .rejected f err => if f ∈ s.pending then some (s.reject f err) else none

/-- The entries and the total are those of a response to a call with the current filters. -/
def ShowsCurrent (s : AuditHook E) : Prop :=
  ∃ a ∈ s.answers, a.fetch.request = s.filter.request ∧
    ∃ resp, a.result = .ok resp ∧ s.entries = resp.entries ∧ s.total = resp.total

/-- The call that was started last has failed. -/
def LastFailed (s : AuditHook E) : Prop :=
  ∃ a ∈ s.answers, a.fetch.number = s.started ∧ ∃ err, a.result = .error err

/-- The call that was started last has been answered. -/
def LastAnswered (s : AuditHook E) : Prop :=
  ∃ a ∈ s.answers, a.fetch.number = s.started ∧ ∃ resp, a.result = .ok resp

/-- No response to a call with other filters arrives once the call that was started last has been answered. -/
def InTime (s : AuditHook E) : AuditEvent E → Prop
  | .responded f _ => LastAnswered s → f.request = s.filter.request
  | _ => True

/-- The call that was started last asks for the current filters and is in flight or answered; once it has been
answered, its filters are shown. -/
structure Shown (s : AuditHook E) : Prop where
  pending_le : ∀ f ∈ s.pending, f.number ≤ s.started ∧ (f.number = s.started → f.request = s.filter.request)
  answers_le : ∀ a ∈ s.answers, a.fetch.number ≤ s.started
  last : (∃ f ∈ s.pending, f.number = s.started) ∨ ∃ a ∈ s.answers, a.fetch.number = s.started
  shows : LastAnswered s → ShowsCurrent s

/-- A new call is the last one. -/
theorem shown_fetchLogs {s : AuditHook E} (hpending : ∀ f ∈ s.pending, f.number ≤ s.started)
    (hanswers : ∀ a ∈ s.answers, a.fetch.number ≤ s.started) : Shown s.fetchLogs where
  pending_le f hf := by
    rcases List.mem_append.mp hf with hold | hnew
    · have hle := hpending f hold
      refine ⟨hle.trans (Nat.le_succ _), fun hlast => ?_⟩
      have hnumber : f.number = s.started + 1 := hlast
      omega
    · rw [List.mem_singleton.mp hnew]
      exact ⟨le_rfl, fun _ => rfl⟩
  answers_le a ha := (hanswers a ha).trans (Nat.le_succ _)
  last := Or.inl ⟨_, List.mem_append_right _ List.mem_cons_self, rfl⟩
  shows := by
    rintro ⟨a, ha, hlast, -⟩
    have hle := hanswers a ha
    have hnumber : a.fetch.number = s.started + 1 := hlast
    omega

theorem shown_start : Shown (AuditHook.start : AuditHook E) := shown_fetchLogs nofun nofun

theorem Shown.fetchLogs {s : AuditHook E} (hs : Shown s) : Shown s.fetchLogs :=
  shown_fetchLogs (fun f hf => (hs.pending_le f hf).1) hs.answers_le

/-- Another filter starts a call of its own. -/
theorem Shown.commit {s : AuditHook E} (hs : Shown s) (filter : AuditFilter) : Shown (s.commit filter) := by
  unfold AuditHook.commit
  split
  · exact hs
  · exact shown_fetchLogs (fun f hf => (hs.pending_le f hf).1) hs.answers_le

/-- What is typed is not asked for before the timer fires. -/
theorem Shown.typed {s : AuditHook E} (hs : Shown s) (input : GoString) (debounce : Option GoString) :
    Shown { s with queryInput := input, debounce := debounce } :=
  ⟨hs.pending_le, hs.answers_le, hs.last, hs.shows⟩

/-- A call that comes back leaves the others, and is the last one if that is the one it was. -/
theorem Shown.last_erase {s : AuditHook E} (hs : Shown s) (f : AuditFetch)
    (result : Except GoString (ListAuditLogsResponse E)) :
    (∃ g ∈ s.pending.erase f, g.number = s.started) ∨
      ∃ a ∈ (⟨f, result⟩ : AuditAnswer E) :: s.answers, a.fetch.number = s.started := by
  rcases hs.last with ⟨g, hg, hlast⟩ | ⟨a, ha, hlast⟩
  · by_cases hsame : g = f
    · subst hsame
      exact Or.inr ⟨_, List.mem_cons_self, hlast⟩
    · exact Or.inl ⟨g, (List.mem_erase_of_ne hsame).mpr hg, hlast⟩
  · exact Or.inr ⟨a, List.mem_cons_of_mem _ ha, hlast⟩

/-- A response in time: the last call has not been answered, or the response is to a call with its filters. -/
theorem Shown.respond {s : AuditHook E} (hs : Shown s) {f : AuditFetch} (hf : f ∈ s.pending)
    {resp : ListAuditLogsResponse E} (htime : LastAnswered s → f.request = s.filter.request) :
    Shown (s.respond f resp) where
  pending_le g hg := hs.pending_le g (List.mem_of_mem_erase hg)
  answers_le a ha := by
    rcases List.mem_cons.mp ha with rfl | hold
    · exact (hs.pending_le f hf).1
    · exact hs.answers_le a hold
  last := hs.last_erase f (.ok resp)
  shows := by
    rintro ⟨a, ha, hlast, hok⟩
    -- either this answers the last call, or that was answered before and this one is in time
    have hcurrent : f.request = s.filter.request := by
      rcases List.mem_cons.mp ha with rfl | hold
      · exact (hs.pending_le f hf).2 hlast
      · exact htime ⟨a, hold, hlast, hok⟩
    exact ⟨_, List.mem_cons_self, hcurrent, resp, rfl, rfl, rfl⟩

/-- A failure leaves what is shown. -/
theorem Shown.reject {s : AuditHook E} (hs : Shown s) {f : AuditFetch} (hf : f ∈ s.pending) (err : GoString) :
    Shown (s.reject f err) where
  pending_le g hg := hs.pending_le g (List.mem_of_mem_erase hg)
  answers_le a ha := by
    rcases List.mem_cons.mp ha with rfl | hold
    · exact (hs.pending_le f hf).1
    · exact hs.answers_le a hold
  last := hs.last_erase f (.error err)
  shows := by
    rintro ⟨a, ha, hlast, resp, hresp⟩
    rcases List.mem_cons.mp ha with rfl | hold
    · cases hresp
    · obtain ⟨b, hb, hshown⟩ := hs.shows ⟨a, hold, hlast, resp, hresp⟩
      exact ⟨b, List.mem_cons_of_mem _ hb, hshown⟩

theorem shown_step [DecidableEq E] (s : AuditHook E) (event : AuditEvent E) (next : AuditHook E) (hs : Shown s)
    (htime : InTime s event) (hstep : s.step event = some next) : Shown next := by
  cases event with
  | setQueryInput input =>
      cases hstep
      unfold AuditHook.setQueryInput
      split
      · exact hs
      · exact hs.typed input (some input)
  | debounced =>
      obtain ⟨input, -, rfl⟩ := Option.map_eq_some_iff.mp hstep
      exact (hs.typed s.queryInput none).commit _
  | updateSource source =>
      cases hstep
      exact hs.commit _
  | updateOutcome outcome =>
      cases hstep
      exact hs.commit _
  | setPage page =>
      cases hstep
      exact hs.commit _
  | refresh =>
      cases hstep
      exact hs.fetchLogs
  | responded f resp =>
      simp only [AuditHook.step, Option.ite_none_right_eq_some, Option.some.injEq] at hstep
      obtain ⟨hf, rfl⟩ := hstep
      exact hs.respond hf htime
  | rejected f err =>
      simp only [AuditHook.step, Option.ite_none_right_eq_some, Option.some.injEq] at hstep
      obtain ⟨hf, rfl⟩ := hstep
      exact hs.reject hf err

/-- In every run whose responses are all in time: whenever no call is in flight and the last one has not failed,
the entries and the total are those of a response to a call with the current filters. -/
theorem auditLogs_showsCurrent [DecidableEq E] {events : List (AuditEvent E)} {s : AuditHook E}
    (htime : Guarded AuditHook.step InTime AuditHook.start events)
    (hrun : exec AuditHook.step AuditHook.start events = some s) (hnone : s.pending = []) (hlast : ¬ LastFailed s) :
    ShowsCurrent s := by
  have hs : Shown s := exec_invariant_of_guarded Shown shown_step htime hrun shown_start
  apply hs.shows
  rcases hs.last with ⟨f, hf, -⟩ | ⟨a, ha, hnumber⟩
  · rw [hnone] at hf
    cases hf
  · cases hresult : a.result with
    | ok resp => exact ⟨a, ha, hnumber, resp, hresult⟩
    | error err => exact absurd ⟨a, ha, hnumber, err, hresult⟩ hlast

/-- The request for the first page of a source. -/
def firstPage (source : AuditSource) : ListAuditLogsRequest := AuditFilter.request ⟨[], source, .all, 0⟩

/-- The user picks the system source and the answers come back in order. -/
def orderlyRun : List (AuditEvent Nat) :=
  [.updateSource .system, .responded ⟨1, firstPage .all⟩ ⟨[1, 2], 2⟩, .responded ⟨2, firstPage .system⟩ ⟨[2], 1⟩]

theorem exec_orderlyRun :
    (exec AuditHook.step AuditHook.start orderlyRun).map (fun s => (s.pending, s.answers)) =
      some ([], [⟨⟨2, firstPage .system⟩, .ok ⟨[2], 1⟩⟩, ⟨⟨1, firstPage .all⟩, .ok ⟨[1, 2], 2⟩⟩]) := by
  decide +kernel

theorem auditLogs_showsCurrent_orderlyRun :
    ∃ s, exec AuditHook.step AuditHook.start orderlyRun = some s ∧ ShowsCurrent s := by
  obtain ⟨s, hrun, hend⟩ := Option.map_eq_some_iff.mp exec_orderlyRun
  simp only [Prod.mk.injEq] at hend
  obtain ⟨hnone, hanswers⟩ := hend
  refine ⟨s, hrun, auditLogs_showsCurrent ?_ hrun hnone ?_⟩
  · refine ⟨trivial, fun _ hfirst => ⟨?_, fun _ hsecond => ⟨?_, fun _ _ => trivial⟩⟩⟩
    · -- nothing has been answered yet
      cases hfirst
      rintro ⟨a, ha, -⟩
      cases ha
    · cases hfirst
      cases hsecond
      intro _
      rfl
  · rintro ⟨a, ha, -, err, herr⟩
    rw [hanswers] at ha
    rcases List.mem_pair.mp ha with rfl | rfl
    · cases herr
    · cases herr

/-- The same answers in the other order. -/
def lateRun : List (AuditEvent Nat) :=
  [.updateSource .system, .responded ⟨2, firstPage .system⟩ ⟨[2], 1⟩, .responded ⟨1, firstPage .all⟩ ⟨[1, 2], 2⟩]

theorem exec_lateRun :
    (exec AuditHook.step AuditHook.start lateRun).map (fun s => (s.pending, s.filter, s.entries, s.answers)) =
      some ([], ⟨[], .system, .all, 0⟩, [1, 2],
        [⟨⟨1, firstPage .all⟩, .ok ⟨[1, 2], 2⟩⟩, ⟨⟨2, firstPage .system⟩, .ok ⟨[2], 1⟩⟩]) := by
  decide +kernel

/-- The page is filtered by the system source, nothing is in flight, nothing has failed, and it shows all entries. -/
theorem auditLogs_overtaken :
    ∃ s, exec AuditHook.step AuditHook.start lateRun = some s ∧ s.pending = [] ∧ ¬ LastFailed s ∧
      s.filter.source = .system ∧ s.entries = [1, 2] ∧ ¬ ShowsCurrent s := by
  obtain ⟨s, hrun, hend⟩ := Option.map_eq_some_iff.mp exec_lateRun
  simp only [Prod.mk.injEq] at hend
  obtain ⟨hnone, hfilter, hentries, hanswers⟩ := hend
  refine ⟨s, hrun, hnone, ?_, by rw [hfilter], hentries, ?_⟩
  · rintro ⟨a, ha, -, err, herr⟩
    rw [hanswers] at ha
    rcases List.mem_pair.mp ha with rfl | rfl
    · cases herr
    · cases herr
  · rintro ⟨a, ha, hrequest, resp, hresp, hshown, -⟩
    rw [hanswers] at ha
    rw [hfilter] at hrequest
    rcases List.mem_pair.mp ha with rfl | rfl
    · exact absurd hrequest (by decide)
    · cases hresp
      rw [hentries] at hshown
      exact absurd hshown (by decide)

end Frontend
end Dmanager
