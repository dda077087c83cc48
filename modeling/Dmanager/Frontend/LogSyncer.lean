import Dmanager.Lib.History
import Dmanager.Lib.TransitionSystem
import Dmanager.Logging.Service

/-!
# The log queue of the browser

`addLogEntry` of `logger.ts` puts entries into a local table; `syncPendingLogs` of `syncer.ts` sends them to the
server in batches of fifty and deletes a batch once its call has come back.  Between its awaits other entries are
added.  A call may fail whether or not its handler runs, and the handler may run after the browser has given up; an
error with the code `Unauthenticated` is not among the failures here, for then the whole table is cleared.

* `SyncInv` — what the stage of the loop, the calls and the history have to do with each other.
* `LoopInv` — how far a loop without failures has come, when nothing is added.
* `syncs_logs` — nothing is deleted before it is logged, and such a loop sends the whole queue once.

The table of `Dexie` keeps its rows by ascending ids and never uses an id twice.
-/

namespace Dmanager
namespace Frontend

open Go Lib Logging

/-! ## The source -/

/-- `DBClientLogEntry`, as it is stored. -/
structure DBClientLogEntry where
  id : Nat
  entry : ClientLogEntry
  deriving DecidableEq, Repr

/-- `logDb.logs`: rows by ascending ids, and the next id. -/
structure LogTable where
  rows : List DBClientLogEntry
  nextId : Nat
  sorted : rows.Pairwise fun earlier later => earlier.id < later.id
  fresh : ∀ row ∈ rows, row.id < nextId

namespace LogTable

/-- The row that is added next. -/
def newRow (logs : LogTable) (entry : ClientLogEntry) : DBClientLogEntry := ⟨logs.nextId, entry⟩

/-- `logDb.logs.add`. -/
def add (logs : LogTable) (entry : ClientLogEntry) : LogTable where
  rows := logs.rows ++ [logs.newRow entry]
  nextId := logs.nextId + 1
  sorted := by
    rw [List.pairwise_append]
    refine ⟨logs.sorted, List.pairwise_singleton _ _, fun row hrow last hlast => ?_⟩
    rw [List.mem_singleton.mp hlast]
    exact logs.fresh row hrow
  fresh := by
    intro row hrow
    rcases List.mem_append.mp hrow with hold | hnew
    · exact Nat.lt_succ_of_lt (logs.fresh row hold)
    · rw [List.mem_singleton.mp hnew]
      exact Nat.lt_succ_self _

/-- `logDb.logs.limit(n).toArray()`. -/
def limit (logs : LogTable) (n : Nat) : List DBClientLogEntry := logs.rows.take n

/-- `logDb.logs.bulkDelete(ids)`. -/
def bulkDelete (logs : LogTable) (ids : List Nat) : LogTable where
  rows := logs.rows.filter fun row => row.id ∉ ids
  nextId := logs.nextId
  sorted := logs.sorted.filter _
  fresh row hrow := logs.fresh row (List.mem_of_mem_filter hrow)

end LogTable

def batchSize : Nat := 50

/-- Where `syncPendingLogs` is: not running, or at one of its awaits. -/
inductive Stage where
  | idle
  | reading
  | calling (call : Nat) (entries : List DBClientLogEntry)
  | deleting (entries : List DBClientLogEntry)
  deriving DecidableEq, Repr

/-- What has happened to entries and to calls of `SyncLogs`. -/
inductive Event where
  | added (row : DBClientLogEntry)
  | sent (call : Nat) (entries : List DBClientLogEntry)
  | handled (call : Nat) (entries : List DBClientLogEntry) (logged : List Record)
  | returned (call : Nat) (processedCount : Int32)
  | deleted (row : DBClientLogEntry)
  deriving DecidableEq, Repr

/-- The page and the server: the table, the loop, the requests that have not been handled, the answers to those that
have, and the log buffer. -/
structure LogSyncState where
  logs : LogTable
  isUnloading : Bool
  stage : Stage
  nextCall : Nat
  requests : List (Nat × List DBClientLogEntry)
  responses : List (Nat × Int32)
  server : RingBuffer
  history : List Event

/-- A page with a queue, before the first call of `syncPendingLogs`. -/
def LogSyncState.start (logs : LogTable) (server : RingBuffer) : LogSyncState where
  logs := logs
  isUnloading := false
  stage := .idle
  nextCall := 0
  requests := []
  responses := []
  server := server
  history := []

/-- The steps of the page and of the server. -/
inductive LogSyncLabel where
  | addLogEntry (entry : ClientLogEntry)
  | setIsUnloading (value : Bool)
  | syncPendingLogs
  | read
  | handle (call : Nat) (clock : Nat → Int)
  | respond
  | delete
  | fail

/-- One step.  A `fail` is a rejected await: of the table, or of the call with a code other than `Unauthenticated`. -/
def logSyncStep (logger : InterceptHandler) (s : LogSyncState) : LogSyncLabel → Option LogSyncState
  | .addLogEntry entry =>
      if s.isUnloading then some s
      else some { s with logs := s.logs.add entry, history := .added (s.logs.newRow entry) :: s.history }
  | .setIsUnloading value => some { s with isUnloading := value }
  | .syncPendingLogs =>
      match s.stage with
      | .idle => some { s with stage := .reading }
      | _ => some s
  | .read =>
      match s.stage with
      | .reading =>
          let entries := s.logs.limit batchSize
          if entries = [] then some { s with stage := .idle }
          else
            some
              { s with
                stage := .calling s.nextCall entries
                nextCall := s.nextCall + 1
                requests := (s.nextCall, entries) :: s.requests
                history := .sent s.nextCall entries :: s.history }
      | _ => none
  | .handle call clock =>
      match s.requests.find? fun request => request.1 = call with
      | some (_, entries) =>
          let synced := syncLogs logger clock s.server (entries.map fun row => some row.entry)
          some
            { s with
              requests := s.requests.filter fun request => request.1 ≠ call
              responses := (call, synced.processedCount) :: s.responses
              server := synced.buffer
              history := .handled call entries synced.logged :: s.history }
      | none => none
  | .respond =>
      match s.stage with
      | .calling call entries =>
          match s.responses.find? fun response => response.1 = call with
          | some (_, processedCount) =>
              some
                { s with
                  stage := if 0 < processedCount then .deleting entries else .idle
                  history := .returned call processedCount :: s.history }
          | none => none
      | _ => none
  | .delete =>
      match s.stage with
      | .deleting entries =>
          let idsToDelete := entries.map DBClientLogEntry.id
          some
            { s with
              logs := s.logs.bulkDelete idsToDelete
              stage := if entries.length < batchSize then .idle else .reading
              history := (s.logs.rows.filter fun row => row.id ∈ idsToDelete).map .deleted ++ s.history }
      | _ => none
  | .fail =>
      match s.stage with
      | .idle => none
      | _ => some { s with stage := .idle }

/-! ## Calls -/

/-- The records are those of the entries of a batch, in order. -/
def LoggedAs (entries : List DBClientLogEntry) (logged : List Record) : Prop :=
  List.Forall₂ (fun row record => ∃ now, record = row.entry.record now) entries logged

/-- A call has carried a batch to its handler, which has logged every entry of it, and has come back. -/
def CameBack (history : List Event) (call : Nat) (entries : List DBClientLogEntry) (returned : Event) : Prop :=
  ∃ logged, LoggedAs entries logged ∧ Precedes history (.sent call entries) (.handled call entries logged) ∧
    Precedes history (.handled call entries logged) returned

/-- A row has been deleted after a call that carried it had come back. -/
def Delivered (history : List Event) (row : DBClientLogEntry) : Prop :=
  ∃ call entries processedCount, row ∈ entries ∧ CameBack history call entries (.returned call processedCount) ∧
    Precedes history (.returned call processedCount) (.deleted row)

theorem CameBack.append {history : List Event} {call : Nat} {entries : List DBClientLogEntry} {returned : Event}
    (events : List Event) (hback : CameBack history call entries returned) :
    CameBack (events ++ history) call entries returned := by
  obtain ⟨logged, hlogged, hsent, hreturned⟩ := hback
  exact ⟨logged, hlogged, hsent.append events, hreturned.append events⟩

theorem Delivered.append {history : List Event} {row : DBClientLogEntry} (events : List Event)
    (hdelivered : Delivered history row) : Delivered (events ++ history) row := by
  obtain ⟨call, entries, processedCount, hrow, hback, hdeleted⟩ := hdelivered
  exact ⟨call, entries, processedCount, hrow, hback.append events, hdeleted.append events⟩

/-- The numbers of the calls, what is under way for them, and what their handlers have done. -/
structure CallInv (s : LogSyncState) : Prop where
  sent_lt : ∀ {call entries}, .sent call entries ∈ s.history → call < s.nextCall
  sent_unique : ∀ {call entries entries'}, .sent call entries ∈ s.history → .sent call entries' ∈ s.history →
    entries = entries'
  request : ∀ {call entries}, (call, entries) ∈ s.requests → .sent call entries ∈ s.history
  handled : ∀ {call entries logged}, .handled call entries logged ∈ s.history →
    LoggedAs entries logged ∧ Precedes s.history (.sent call entries) (.handled call entries logged)
  response : ∀ {call processedCount}, (call, processedCount) ∈ s.responses →
    ∃ entries logged, .handled call entries logged ∈ s.history ∧ processedCount = Int32.ofNat entries.length

/-- Events that are no calls of `SyncLogs` and no runs of its handler. -/
def Quiet (events : List Event) : Prop :=
  (∀ call entries, .sent call entries ∉ events) ∧ ∀ call entries logged, .handled call entries logged ∉ events

theorem quiet_nil : Quiet [] := ⟨fun _ _ => List.not_mem_nil, fun _ _ _ => List.not_mem_nil⟩

/-- The calls are as before when nothing has been sent or handled. -/
theorem CallInv.of_quiet {s next : LogSyncState} {events : List Event} (hinv : CallInv s) (hquiet : Quiet events)
    (hhistory : next.history = events ++ s.history) (hcall : next.nextCall = s.nextCall)
    (hrequests : next.requests = s.requests) (hresponses : next.responses = s.responses) : CallInv next := by
  have hsent : ∀ {call entries}, .sent call entries ∈ next.history → .sent call entries ∈ s.history := by
    intro call entries hmem
    rw [hhistory] at hmem
    exact (List.mem_append.mp hmem).resolve_left (hquiet.1 call entries)
  have hmono : ∀ {event}, event ∈ s.history → event ∈ next.history := by
    intro event hmem
    rw [hhistory]
    exact List.mem_append_right _ hmem
  refine ⟨fun hmem => ?_, fun hmem hmem' => ?_, fun hmem => ?_, fun hmem => ?_, fun hmem => ?_⟩
  · rw [hcall]
    exact hinv.sent_lt (hsent hmem)
  · exact hinv.sent_unique (hsent hmem) (hsent hmem')
  · rw [hrequests] at hmem
    exact hmono (hinv.request hmem)
  · rw [hhistory] at hmem ⊢
    obtain ⟨hlogged, hprecedes⟩ := hinv.handled ((List.mem_append.mp hmem).resolve_left (hquiet.2 _ _ _))
    exact ⟨hlogged, hprecedes.append events⟩
  · rw [hresponses] at hmem
    obtain ⟨entries, logged, hhandled, hcount⟩ := hinv.response hmem
    exact ⟨entries, logged, hmono hhandled, hcount⟩

/-- A call is sent under a number of its own. -/
theorem CallInv.send {s next : LogSyncState} {entries : List DBClientLogEntry} (hinv : CallInv s)
    (hhistory : next.history = .sent s.nextCall entries :: s.history) (hcall : next.nextCall = s.nextCall + 1)
    (hrequests : next.requests = (s.nextCall, entries) :: s.requests) (hresponses : next.responses = s.responses) :
    CallInv next := by
  have hsent : ∀ {call entries'}, .sent call entries' ∈ next.history →
      (call = s.nextCall ∧ entries' = entries) ∨ .sent call entries' ∈ s.history := by
    intro call entries' hmem
    rw [hhistory, List.mem_cons] at hmem
    refine hmem.imp_left fun heq => ?_
    cases heq
    exact ⟨rfl, rfl⟩
  refine ⟨fun hmem => ?_, fun hmem hmem' => ?_, fun hmem => ?_, fun hmem => ?_, fun hmem => ?_⟩
  · rw [hcall]
    rcases hsent hmem with ⟨rfl, -⟩ | hold
    · exact Nat.lt_succ_self _
    · exact Nat.lt_succ_of_lt (hinv.sent_lt hold)
  · rcases hsent hmem with ⟨rfl, rfl⟩ | hold
    · rcases hsent hmem' with ⟨-, rfl⟩ | hold'
      · rfl
      · exact absurd (hinv.sent_lt hold') (Nat.lt_irrefl _)
    · rcases hsent hmem' with ⟨rfl, -⟩ | hold'
      · exact absurd (hinv.sent_lt hold) (Nat.lt_irrefl _)
      · exact hinv.sent_unique hold hold'
  · rw [hrequests, List.mem_cons] at hmem
    rw [hhistory, List.mem_cons]
    refine hmem.imp (fun heq => ?_) hinv.request
    cases heq
    rfl
  · rw [hhistory, List.mem_cons] at hmem
    obtain ⟨hlogged, hprecedes⟩ := hinv.handled (hmem.resolve_left (by simp))
    rw [hhistory]
    exact ⟨hlogged, hprecedes.append [_]⟩
  · rw [hresponses] at hmem
    obtain ⟨entries, logged, hhandled, hcount⟩ := hinv.response hmem
    rw [hhistory]
    exact ⟨entries, logged, List.mem_cons_of_mem _ hhandled, hcount⟩

/-- A request is handled: its entries are logged and counted. -/
theorem CallInv.handle {s next : LogSyncState} {call : Nat} {entries : List DBClientLogEntry} {logged : List Record}
    {processedCount : Int32} (hinv : CallInv s) (hrequest : (call, entries) ∈ s.requests)
    (hlogged : LoggedAs entries logged) (hcount : processedCount = Int32.ofNat entries.length)
    (hhistory : next.history = .handled call entries logged :: s.history) (hcall : next.nextCall = s.nextCall)
    (hrequests : ∀ request ∈ next.requests, request ∈ s.requests)
    (hresponses : next.responses = (call, processedCount) :: s.responses) : CallInv next := by
  have hsent : ∀ {call' entries'}, .sent call' entries' ∈ next.history ↔ .sent call' entries' ∈ s.history := by
    intro call' entries'
    rw [hhistory, List.mem_cons]
    simp
  refine ⟨fun hmem => ?_, fun hmem hmem' => ?_, fun hmem => ?_, fun hmem => ?_, fun hmem => ?_⟩
  · rw [hcall]
    exact hinv.sent_lt (hsent.mp hmem)
  · exact hinv.sent_unique (hsent.mp hmem) (hsent.mp hmem')
  · exact hsent.mpr (hinv.request (hrequests _ hmem))
  · rw [hhistory, List.mem_cons] at hmem
    rw [hhistory]
    rcases hmem with heq | hold
    · cases heq
      exact ⟨hlogged, precedes_cons.mpr (Or.inr ⟨rfl, hinv.request hrequest⟩)⟩
    · obtain ⟨hlogged', hprecedes⟩ := hinv.handled hold
      exact ⟨hlogged', hprecedes.append [_]⟩
  · rw [hresponses, List.mem_cons] at hmem
    rw [hhistory]
    rcases hmem with heq | hold
    · cases heq
      exact ⟨entries, logged, List.mem_cons_self, hcount⟩
    · obtain ⟨entries', logged', hhandled, hcount'⟩ := hinv.response hold
      exact ⟨entries', logged', List.mem_cons_of_mem _ hhandled, hcount'⟩

/-! ## The loop -/

/-- A batch that has been read and not yet been deleted. -/
structure Batch (s : LogSyncState) (entries : List DBClientLogEntry) : Prop where
  ne_nil : entries ≠ []
  length_le : entries.length ≤ batchSize
  subset : ∀ row ∈ entries, row ∈ s.logs.rows

/-- What the stage of the loop promises. -/
def StageInv (s : LogSyncState) : Prop :=
  match s.stage with
  | .idle => True
  | .reading => True
  | .calling call entries =>
      Batch s entries ∧ .sent call entries ∈ s.history ∧
        ((call, entries) ∈ s.requests ∨ ∃ processedCount, (call, processedCount) ∈ s.responses)
  | .deleting entries =>
      Batch s entries ∧ ∃ call processedCount, CameBack s.history call entries (.returned call processedCount)

/-- Nothing is deleted that has not been delivered, and nothing else leaves the table. -/
structure SyncInv (logs : LogTable) (s : LogSyncState) : Prop where
  calls : CallInv s
  stage : StageInv s
  deleted : ∀ {row}, .deleted row ∈ s.history → Delivered s.history row
  kept : ∀ {row}, row ∈ logs.rows ∨ .added row ∈ s.history → row ∈ s.logs.rows ∨ .deleted row ∈ s.history

theorem syncInv_start (logs : LogTable) (server : RingBuffer) : SyncInv logs (.start logs server) where
  calls :=
    { sent_lt := fun hmem => absurd hmem List.not_mem_nil
      sent_unique := fun hmem => absurd hmem List.not_mem_nil
      request := fun hmem => absurd hmem List.not_mem_nil
      handled := fun hmem => absurd hmem List.not_mem_nil
      response := fun hmem => absurd hmem List.not_mem_nil }
  stage := trivial
  deleted hmem := absurd hmem List.not_mem_nil
  kept hrow := Or.inl (hrow.resolve_right List.not_mem_nil)

/-- The loop stays where it is while other steps are taken. -/
theorem StageInv.frame {s next : LogSyncState} (hinv : StageInv s) (events : List Event)
    (hstage : next.stage = s.stage) (hrows : ∀ row ∈ s.logs.rows, row ∈ next.logs.rows)
    (hhistory : next.history = events ++ s.history)
    (hrequests : ∀ request ∈ s.requests, request ∈ next.requests ∨
      ∃ processedCount, (request.1, processedCount) ∈ next.responses)
    (hresponses : ∀ response ∈ s.responses, response ∈ next.responses) : StageInv next := by
  have hbatch : ∀ {entries}, Batch s entries → Batch next entries := fun hbatch =>
    ⟨hbatch.ne_nil, hbatch.length_le, fun row hrow => hrows row (hbatch.subset row hrow)⟩
  unfold StageInv at hinv ⊢
  rw [hstage]
  cases hs : s.stage with
  | idle => trivial
  | reading => trivial
  | calling call entries =>
      rw [hs] at hinv
      obtain ⟨hb, hsent, hanswer⟩ := hinv
      refine ⟨hbatch hb, ?_, ?_⟩
      · rw [hhistory]
        exact List.mem_append_right _ hsent
      · rcases hanswer with hrequest | ⟨processedCount, hresponse⟩
        · exact hrequests _ hrequest
        · exact Or.inr ⟨processedCount, hresponses _ hresponse⟩
  | deleting entries =>
      rw [hs] at hinv
      obtain ⟨hb, call, processedCount, hback⟩ := hinv
      refine ⟨hbatch hb, call, processedCount, ?_⟩
      rw [hhistory]
      exact hback.append events

/-- A step that deletes nothing. -/
theorem SyncInv.of_append {logs : LogTable} {s next : LogSyncState} (hinv : SyncInv logs s) (events : List Event)
    (hhistory : next.history = events ++ s.history) (hcalls : CallInv next) (hstage : StageInv next)
    (hrows : ∀ row ∈ s.logs.rows, row ∈ next.logs.rows) (hadded : ∀ row, .added row ∈ events → row ∈ next.logs.rows)
    (hnone : ∀ row, .deleted row ∉ events) : SyncInv logs next := by
  refine ⟨hcalls, hstage, fun hmem => ?_, fun {row} hrow => ?_⟩
  · rw [hhistory] at hmem ⊢
    exact (hinv.deleted ((List.mem_append.mp hmem).resolve_left (hnone _))).append events
  · rw [hhistory] at hrow ⊢
    by_cases hnew : .added row ∈ events
    · exact Or.inl (hadded row hnew)
    · refine (hinv.kept (hrow.imp_right fun hmem => (List.mem_append.mp hmem).resolve_left hnew)).imp (hrows row) ?_
      exact List.mem_append_right events

/-- A row that is deleted is one of the batch. -/
theorem mem_of_id_mem {s : LogSyncState} {entries : List DBClientLogEntry} (hbatch : Batch s entries)
    {row : DBClientLogEntry} (hrow : row ∈ s.logs.rows) (hid : row.id ∈ entries.map DBClientLogEntry.id) :
    row ∈ entries := by
  obtain ⟨other, hother, heq⟩ := List.mem_map.mp hid
  have hnodup : (s.logs.rows.map DBClientLogEntry.id).Nodup := by
    rw [List.Nodup, List.pairwise_map]
    exact s.logs.sorted.imp fun hlt => Nat.ne_of_lt hlt
  rw [← List.inj_on_of_nodup_map hnodup (hbatch.subset other hother) hrow heq]
  exact hother

/-- The handler has logged every entry of a request, and counted them. -/
theorem loggedAs_syncLogs (logger : InterceptHandler) (clock : Nat → Int) (server : RingBuffer)
    (entries : List DBClientLogEntry) :
    LoggedAs entries (syncLogs logger clock server (entries.map fun row => some row.entry)).logged ∧
      (syncLogs logger clock server (entries.map fun row => some row.entry)).processedCount =
        Int32.ofNat entries.length := by
  obtain ⟨records, hrecords, heq⟩ := syncEntries_spec logger clock ⟨server, [], 0⟩
    (entries.map fun row => some row.entry)
  have hentries : (entries.map fun row => some row.entry).filterMap id = entries.map DBClientLogEntry.entry := by
    rw [List.filterMap_map]
    show entries.filterMap (some ∘ DBClientLogEntry.entry) = entries.map DBClientLogEntry.entry
    rw [List.filterMap_eq_map]
  rw [hentries] at hrecords
  have hlength := hrecords.length_eq
  rw [List.length_map] at hlength
  rw [syncLogs, heq]
  refine ⟨List.forall₂_map_left_iff.mp hrecords, ?_⟩
  rw [hlength]
  exact Int32.zero_add _

theorem syncInv_step {logger : InterceptHandler} {logs : LogTable} {s next : LogSyncState} {label : LogSyncLabel}
    (hstep : logSyncStep logger s label = some next) (hinv : SyncInv logs s) : SyncInv logs next := by
  cases label with
  | addLogEntry entry =>
      simp only [logSyncStep] at hstep
      split at hstep
      · cases hstep
        exact hinv
      · -- the new row is the only thing that happens, and it is in the table
        cases hstep
        have hquiet : Quiet [.added (s.logs.newRow entry)] := ⟨by simp, by simp⟩
        have hrows : ∀ row ∈ s.logs.rows, row ∈ (s.logs.add entry).rows := fun row hrow => List.mem_append_left _ hrow
        refine hinv.of_append [.added (s.logs.newRow entry)] rfl (hinv.calls.of_quiet hquiet rfl rfl rfl rfl)
          (hinv.stage.frame [.added (s.logs.newRow entry)] rfl hrows rfl (fun _ => Or.inl) fun _ => id)
          hrows (fun row hrow => ?_) (by simp)
        simp only [List.mem_singleton, Event.added.injEq] at hrow
        subst hrow
        exact List.mem_append_right _ List.mem_cons_self
  | setIsUnloading value =>
      cases hstep
      exact ⟨hinv.calls.of_quiet quiet_nil rfl rfl rfl rfl,
        hinv.stage.frame [] rfl (fun _ => id) rfl (fun _ => Or.inl) fun _ => id, hinv.deleted, hinv.kept⟩
  | syncPendingLogs =>
      simp only [logSyncStep] at hstep
      split at hstep
      · cases hstep
        exact ⟨hinv.calls.of_quiet quiet_nil rfl rfl rfl rfl, trivial, hinv.deleted, hinv.kept⟩
      · cases hstep
        exact hinv
  | read =>
      simp only [logSyncStep] at hstep
      split at hstep
      · split at hstep
        · cases hstep
          exact ⟨hinv.calls.of_quiet quiet_nil rfl rfl rfl rfl, trivial, hinv.deleted, hinv.kept⟩
        · rename_i hne
          cases hstep
          refine hinv.of_append [.sent s.nextCall (s.logs.limit batchSize)] rfl
            (hinv.calls.send rfl rfl rfl rfl) ?_ (fun _ => id) (by simp) (by simp)
          refine ⟨⟨hne, List.length_take_le _ _, fun row hrow => List.mem_of_mem_take hrow⟩, List.mem_cons_self,
            Or.inl List.mem_cons_self⟩
      · cases hstep
  | handle call clock =>
      simp only [logSyncStep] at hstep
      split at hstep
      · rename_i call' entries hfind
        cases hstep
        have hcall : call' = call := by simpa using List.find?_some hfind
        subst hcall
        have hrequest := List.mem_of_find?_eq_some hfind
        -- the server has logged every row of the request: its response says how many
        obtain ⟨hlogged, hcount⟩ := loggedAs_syncLogs logger clock s.server entries
        refine hinv.of_append [.handled call' entries (syncLogs logger clock s.server
            (entries.map fun row => some row.entry)).logged] rfl
          (hinv.calls.handle hrequest hlogged hcount rfl rfl (fun _ => List.mem_of_mem_filter) rfl)
          (hinv.stage.frame [_] rfl (fun _ => id) rfl (fun request hmem => ?_) fun _ => List.mem_cons_of_mem _)
          (fun _ => id) (by simp) (by simp)
        by_cases hsame : request.1 = call'
        · rw [hsame]
          exact Or.inr ⟨_, List.mem_cons_self⟩
        · exact Or.inl (List.mem_filter.mpr ⟨hmem, by simpa using hsame⟩)
      · cases hstep
  | respond =>
      simp only [logSyncStep] at hstep
      split at hstep
      · rename_i call entries hs
        split at hstep
        · rename_i call' processedCount hfind
          cases hstep
          have hcall : call' = call := by simpa using List.find?_some hfind
          subst hcall
          have hstage := hinv.stage
          unfold StageInv at hstage
          rw [hs] at hstage
          obtain ⟨hbatch, hsent, -⟩ := hstage
          -- the response is to this request, so what the server has handled is the batch that is waited for
          obtain ⟨entries', logged, hhandled, -⟩ := hinv.calls.response (List.mem_of_find?_eq_some hfind)
          obtain ⟨hlogged, hprecedes⟩ := hinv.calls.handled hhandled
          have hentries : entries' = entries := hinv.calls.sent_unique hprecedes.fst_mem hsent
          subst hentries
          have hquiet : Quiet [.returned call' processedCount] := ⟨by simp, by simp⟩
          refine hinv.of_append [.returned call' processedCount] rfl (hinv.calls.of_quiet hquiet rfl rfl rfl rfl) ?_
            (fun _ => id) (by simp) (by simp)
          unfold StageInv
          by_cases hpos : 0 < processedCount
          · simp only [if_pos hpos]
            exact ⟨⟨hbatch.ne_nil, hbatch.length_le, hbatch.subset⟩, call', processedCount, logged, hlogged,
              hprecedes.append [_], precedes_cons.mpr (Or.inr ⟨rfl, hhandled⟩)⟩
          · simp only [if_neg hpos]
        · cases hstep
      · cases hstep
  | delete =>
      simp only [logSyncStep] at hstep
      split at hstep
      · rename_i entries hs
        cases hstep
        have hstage := hinv.stage
        unfold StageInv at hstage
        rw [hs] at hstage
        obtain ⟨hbatch, call, processedCount, hback⟩ := hstage
        have hquiet : Quiet ((s.logs.rows.filter fun row => row.id ∈ entries.map DBClientLogEntry.id).map
            Event.deleted) := ⟨by simp, by simp⟩
        refine ⟨hinv.calls.of_quiet hquiet rfl rfl rfl rfl, ?_, fun {row} hmem => ?_, fun {row} hrow => ?_⟩
        · unfold StageInv
          by_cases hlast : entries.length < batchSize
          · simp only [if_pos hlast]
          · simp only [if_neg hlast]
        · rcases List.mem_append.mp hmem with hnew | hold
          · -- a row that is deleted has the id of one in the batch, so it is that one
            obtain ⟨row', hrow', heq⟩ := List.mem_map.mp hnew
            cases heq
            obtain ⟨hin, hid⟩ := List.mem_filter.mp hrow'
            refine ⟨call, entries, processedCount, mem_of_id_mem hbatch hin (of_decide_eq_true hid),
              hback.append _, precedes_append ?_ hnew⟩
            obtain ⟨logged, -, -, hreturned⟩ := hback
            exact hreturned.snd_mem
          · exact (hinv.deleted hold).append _
        · have hbefore : row ∈ logs.rows ∨ .added row ∈ s.history :=
            hrow.imp_right fun hmem => (List.mem_append.mp hmem).resolve_left (by simp)
          rcases hinv.kept hbefore with hin | hdeleted
          · by_cases hid : row.id ∈ entries.map DBClientLogEntry.id
            · exact Or.inr (List.mem_append_left _ (List.mem_map_of_mem
                (List.mem_filter.mpr ⟨hin, decide_eq_true hid⟩)))
            · exact Or.inl (List.mem_filter.mpr ⟨hin, by simpa using hid⟩)
          · exact Or.inr (List.mem_append_right _ hdeleted)
      · cases hstep
  | fail =>
      simp only [logSyncStep] at hstep
      split at hstep
      · cases hstep
      · cases hstep
        exact ⟨hinv.calls.of_quiet quiet_nil rfl rfl rfl rfl, trivial, hinv.deleted, hinv.kept⟩

/-! ## A loop without failures -/

/-- The steps of the loop and of the handler. -/
def Unfailing : LogSyncLabel → Prop
  | .read => True
  | .handle _ _ => True
  | .respond => True
  | .delete => True
  | _ => False

/-- The batch of a call that is sent. -/
def Event.sent? : Event → Option (List DBClientLogEntry)
  | .sent _ entries => some entries
  | _ => none

/-- The entries that have been sent, the first one first. -/
def sentEntries (events : List Event) : List DBClientLogEntry := (events.reverse.filterMap Event.sent?).flatten

theorem sentEntries_append (events earlier : List Event) :
    sentEntries (events ++ earlier) = sentEntries earlier ++ sentEntries events := by
  rw [sentEntries, List.reverse_append, List.filterMap_append, List.flatten_append]
  rfl

/-- Other events send nothing. -/
theorem sentEntries_of_not_sent {events' : List Event} (hnone : ∀ call entries, .sent call entries ∉ events')
    (events : List Event) :
    sentEntries (events' ++ events) = sentEntries events := by
  have hnil : events'.reverse.filterMap Event.sent? = [] := by
    rw [List.filterMap_eq_nil_iff]
    intro event hevent
    cases event with
    | sent call entries => exact absurd (List.mem_reverse.mp hevent) (hnone call entries)
    | added row => rfl
    | handled call entries logged => rfl
    | returned call processedCount => rfl
    | deleted row => rfl
  rw [sentEntries_append, sentEntries, sentEntries, hnil, List.flatten_nil, List.append_nil]

/-- Deleting the first rows leaves the others. -/
theorem rows_bulkDelete_limit (logs : LogTable) (n : Nat) :
    (logs.bulkDelete ((logs.limit n).map DBClientLogEntry.id)).rows = logs.rows.drop n := by
  show logs.rows.filter (fun row => row.id ∉ (logs.rows.take n).map DBClientLogEntry.id) = logs.rows.drop n
  have hsorted := logs.sorted
  rw [← List.take_append_drop n logs.rows, List.pairwise_append] at hsorted
  conv_lhs => rw [← List.take_append_drop n logs.rows, List.filter_append]
  rw [List.take_append_drop]
  have htake : (logs.rows.take n).filter (fun row => row.id ∉ (logs.rows.take n).map DBClientLogEntry.id) = [] := by
    rw [List.filter_eq_nil_iff]
    intro row hrow hnot
    exact absurd (List.mem_map_of_mem hrow) (of_decide_eq_true hnot)
  have hdrop : (logs.rows.drop n).filter (fun row => row.id ∉ (logs.rows.take n).map DBClientLogEntry.id) =
      logs.rows.drop n := by
    rw [List.filter_eq_self]
    intro row hrow
    rw [decide_eq_true_eq]
    intro hid
    obtain ⟨other, hother, heq⟩ := List.mem_map.mp hid
    exact absurd (hsorted.2.2 other hother row hrow) (by rw [heq]; exact Nat.lt_irrefl _)
  rw [htake, hdrop, List.nil_append]

/-- What has been sent and what is still in the table make up the rows it started with. -/
def LoopInv (rows : List DBClientLogEntry) (events : List Event) (s : LogSyncState) : Prop :=
  match s.stage with
  | .idle => s.logs.rows = [] ∧ sentEntries events = rows
  | .reading => sentEntries events ++ s.logs.rows = rows
  | .calling _ entries => entries = s.logs.limit batchSize ∧ sentEntries events ++ s.logs.rows.drop batchSize = rows
  | .deleting entries => entries = s.logs.limit batchSize ∧ sentEntries events ++ s.logs.rows.drop batchSize = rows

/-- How many steps are left. -/
def remaining (s : LogSyncState) : Nat :=
  s.requests.length +
    match s.stage with
    | .idle => 0
    | .reading => 5 * (s.logs.rows.length / batchSize) + 5
    | .calling _ _ => 5 * (s.logs.rows.length / batchSize) + 3
    | .deleting _ => 5 * (s.logs.rows.length / batchSize) + 2

/-- A batch that is not too long has a positive count. -/
theorem ofNat_length_pos : ∀ n < batchSize + 1, n ≠ 0 → (0 : Int32) < Int32.ofNat n := by
  decide

/-- The answer to the call the loop waits for has a positive count. -/
theorem SyncInv.count_pos {logs : LogTable} {s : LogSyncState} {call call' : Nat} {entries : List DBClientLogEntry}
    {processedCount : Int32} (hinv : SyncInv logs s) (hs : s.stage = .calling call entries)
    (hfind : (s.responses.find? fun response => response.1 = call) = some (call', processedCount)) :
    0 < processedCount := by
  have hstage := hinv.stage
  unfold StageInv at hstage
  rw [hs] at hstage
  obtain ⟨hbatch, hsent, -⟩ := hstage
  have hcall : call' = call := by simpa using List.find?_some hfind
  subst hcall
  obtain ⟨entries', logged, hhandled, rfl⟩ := hinv.calls.response (List.mem_of_find?_eq_some hfind)
  have hentries : entries' = entries := hinv.calls.sent_unique (hinv.calls.handled hhandled).2.fst_mem hsent
  subst hentries
  exact ofNat_length_pos _ (Nat.lt_succ_of_le hbatch.length_le) (mt List.eq_nil_of_length_eq_zero hbatch.ne_nil)

theorem loopInv_step {logger : InterceptHandler} {logs : LogTable} {s next : LogSyncState} {label : LogSyncLabel}
    {rows : List DBClientLogEntry} {events : List Event} (hstep : logSyncStep logger s label = some next)
    (hlabel : Unfailing label) (hinv : SyncInv logs s) (hloop : LoopInv rows events s) :
    (∃ events', next.history = events' ++ s.history ∧ LoopInv rows (events' ++ events) next) ∧
      remaining next < remaining s := by
  cases label with
  | addLogEntry entry => exact absurd hlabel id
  | setIsUnloading value => exact absurd hlabel id
  | syncPendingLogs => exact absurd hlabel id
  | read =>
      simp only [logSyncStep] at hstep
      split at hstep
      · rename_i hs
        unfold LoopInv at hloop
        rw [hs] at hloop
        split at hstep
        · -- an empty batch ends the loop: the table is empty
          rename_i hempty
          cases hstep
          have hrows : s.logs.rows = [] := (List.take_eq_nil_iff.mp hempty).resolve_left (by decide)
          refine ⟨⟨[], rfl, hrows, ?_⟩, ?_⟩
          · rw [hrows, List.append_nil] at hloop
            exact hloop
          · simp only [remaining, hs]
            omega
        · cases hstep
          refine ⟨⟨[.sent s.nextCall (s.logs.limit batchSize)], rfl, rfl, ?_⟩, ?_⟩
          · have hsent : sentEntries [.sent s.nextCall (s.logs.limit batchSize)] = s.logs.rows.take batchSize :=
              List.append_nil _
            rw [sentEntries_append, hsent, List.append_assoc, List.take_append_drop]
            exact hloop
          · simp only [remaining, hs, List.length_cons]
            omega
      · cases hstep
  | handle call clock =>
      simp only [logSyncStep] at hstep
      split at hstep
      · rename_i call' entries hfind
        cases hstep
        have hfewer : (s.requests.filter fun request => request.1 ≠ call).length < s.requests.length := by
          refine List.length_filter_lt_length_iff_exists.mpr ⟨_, List.mem_of_find?_eq_some hfind, ?_⟩
          simpa using List.find?_some hfind
        refine ⟨⟨[_], rfl, ?_⟩, Nat.add_lt_add_right hfewer _⟩
        rw [LoopInv, sentEntries_of_not_sent (by simp)]
        exact hloop
      · cases hstep
  | respond =>
      simp only [logSyncStep] at hstep
      split at hstep
      · rename_i call entries hs
        split at hstep
        · rename_i call' processedCount hfind
          cases hstep
          unfold LoopInv at hloop
          rw [hs] at hloop
          have hpos := hinv.count_pos hs hfind
          refine ⟨⟨[.returned call processedCount], rfl, ?_⟩, ?_⟩
          · rw [LoopInv, sentEntries_of_not_sent (by simp)]
            simp only [if_pos hpos]
            exact hloop
          · simp only [remaining, hs, if_pos hpos]
            omega
        · cases hstep
      · cases hstep
  | delete =>
      simp only [logSyncStep] at hstep
      split at hstep
      · rename_i entries hs
        cases hstep
        unfold LoopInv at hloop
        rw [hs] at hloop
        obtain ⟨rfl, hrows⟩ := hloop
        have hlength : (s.logs.limit batchSize).length = min batchSize s.logs.rows.length := List.length_take
        refine ⟨⟨_, rfl, ?_⟩, ?_⟩
        · rw [LoopInv, sentEntries_of_not_sent (by simp)]
          by_cases hlast : (s.logs.limit batchSize).length < batchSize
          · -- a batch that is not full was the rest of the table
            have hempty : s.logs.rows.drop batchSize = [] := List.drop_eq_nil_of_le (by omega)
            rw [hempty, List.append_nil] at hrows
            simp only [if_pos hlast, rows_bulkDelete_limit]
            exact ⟨hempty, hrows⟩
          · simp only [if_neg hlast, rows_bulkDelete_limit]
            exact hrows
        · by_cases hlast : (s.logs.limit batchSize).length < batchSize
          · simp only [remaining, hs, if_pos hlast]
            omega
          · simp only [remaining, hs, if_neg hlast, rows_bulkDelete_limit, List.length_drop]
            unfold batchSize at *
            omega
      · cases hstep
  | fail => exact absurd hlabel id

/-- A loop that has not ended can take a step. -/
theorem exists_unfailing {logger : InterceptHandler} {logs : LogTable} {s : LogSyncState} (hinv : SyncInv logs s)
    (hbusy : s.stage ≠ .idle) : ∃ label, Unfailing label ∧ (logSyncStep logger s label).isSome := by
  have hstage := hinv.stage
  unfold StageInv at hstage
  cases hs : s.stage with
  | idle => exact absurd hs hbusy
  | reading =>
      refine ⟨.read, trivial, ?_⟩
      simp only [logSyncStep, hs]
      split <;> rfl
  | calling call entries =>
      rw [hs] at hstage
      rcases hstage.2.2 with hrequest | ⟨processedCount, hresponse⟩
      · refine ⟨.handle call fun _ => 0, trivial, ?_⟩
        obtain ⟨found, hfound⟩ : ∃ found, (s.requests.find? fun request => request.1 = call) = some found :=
          Option.isSome_iff_exists.mp (List.find?_isSome.mpr ⟨_, hrequest, decide_eq_true rfl⟩)
        simp only [logSyncStep, hfound]
        rfl
      · refine ⟨.respond, trivial, ?_⟩
        obtain ⟨found, hfound⟩ : ∃ found, (s.responses.find? fun response => response.1 = call) = some found :=
          Option.isSome_iff_exists.mp (List.find?_isSome.mpr ⟨_, hresponse, decide_eq_true rfl⟩)
        simp only [logSyncStep, hs, hfound]
        rfl
  | deleting entries =>
      refine ⟨.delete, trivial, ?_⟩
      simp only [logSyncStep, hs]
      rfl

/-- A loop without failures ends, and when it has ended it has sent the whole queue, each entry once. -/
theorem loop_sends {logger : InterceptHandler} {logs : LogTable} {s final : LogSyncState} {loop : List LogSyncLabel}
    (hinv : SyncInv logs s) (hidle : s.stage = .idle) (hloop : ∀ label ∈ loop, Unfailing label)
    (hrun : exec (logSyncStep logger) s (.syncPendingLogs :: loop) = some final) :
    SyncInv logs final ∧ loop.length ≤ s.requests.length + 5 * (s.logs.rows.length / batchSize) + 5 ∧
      ∃ events, final.history = events ++ s.history ∧ LoopInv s.logs.rows events final := by
  obtain ⟨started, hstarted, hrun⟩ := exec_cons_eq_some_iff.mp hrun
  have hstart := syncInv_step hstarted hinv
  simp only [logSyncStep, hidle, Option.some.injEq] at hstarted
  subst hstarted
  obtain ⟨-, hfinal, hlength, hevents⟩ := exec_invariant_of_rest
    (fun rest t => (∀ label ∈ rest, Unfailing label) ∧ SyncInv logs t ∧
      loop.length + remaining t ≤ s.requests.length + 5 * (s.logs.rows.length / batchSize) + 5 + rest.length ∧
      ∃ events, t.history = events ++ s.history ∧ LoopInv s.logs.rows events t)
    (by
      intro t label rest next ⟨hrest, ht, hlength, events, hhistory, hloopInv⟩ hstep
      rw [List.forall_mem_cons] at hrest
      obtain ⟨⟨events', hhistory', hnext⟩, hfewer⟩ := loopInv_step hstep hrest.1 ht hloopInv
      refine ⟨hrest.2, syncInv_step hstep ht, ?_, events' ++ events, ?_, hnext⟩
      · rw [List.length_cons] at hlength
        omega
      · rw [hhistory', hhistory, List.append_assoc])
    hrun ⟨hloop, hstart, by simp only [remaining]; omega, [], rfl, rfl⟩
  exact ⟨hfinal, by rw [List.length_nil] at hlength; omega, hevents⟩

/-- A warning and a click. -/
def warning : ClientLogEntry := ⟨str "WARN", str "slow", str "2026-07-05T17:00:00.000Z", str "Console", str "\x7b\x7d"⟩

def click : ClientLogEntry :=
  ⟨str "INFO", str "User clicked: button", str "2026-07-05T17:00:01.000Z", str "UserAction", str "\x7b\x7d"⟩

/-- Two rows. -/
def twoRows : LogTable where
  rows := [⟨1, warning⟩, ⟨2, click⟩]
  nextId := 3
  sorted := by decide
  fresh := by decide

/-- The first call fails and is handled later all the same; while the second one is under way a row is added. -/
def overlappingRun : List LogSyncLabel :=
  [.syncPendingLogs, .read, .fail, .syncPendingLogs, .read, .addLogEntry click, .handle 1 fun _ => 0, .respond,
    .handle 0 fun _ => 0, .delete]

theorem exec_overlappingRun :
    (exec (logSyncStep productionLogger) (.start twoRows (.new 1000 (by decide))) overlappingRun).map
        (fun s => (s.stage, s.logs.rows, decide (Event.deleted ⟨2, click⟩ ∈ s.history))) =
      some (.idle, [⟨3, click⟩], true) := by
  decide +kernel

end Frontend
end Dmanager
