import Dmanager.Frontend.LogTabs

/-!
# What becomes of the log entries of several tabs

The tabs of `Dmanager.Frontend.LogTabs` read, send and delete under each other's hands.

* `StageInv` — what the stage of a tab promises.
* `RetryInv` and `resent_of_retry` — how a tab comes to send a row again.
* `tabsInv_step` — the invariant, one lemma for each kind of step.
* `logTabs_accounted` — what becomes of every row, in every run of any number of tabs.
-/

namespace Dmanager
namespace Frontend
namespace LogTabs

open Go Lib Logging

variable {logger : InterceptHandler} {logs : LogTable} {s next : TabsState} {events history : List TabEvent}
  {tab call : Nat} {entries : List DBClientLogEntry} {row : DBClientLogEntry} {stage : TabStage}

/-! ## Tabs -/

/-- What the stage of a tab promises. -/
def StageInv (history : List TabEvent) (tab : Nat) : TabStage → Prop
  | .idle => True
  | .reading => True
  | .calling call entries =>
      entries ≠ [] ∧ entries.length ≤ batchSize ∧ .sent tab call entries ∈ history
  | .deleting call entries => ∃ processedCount, Acknowledged history tab call entries processedCount
  | .clearing call => ∃ entries, Denied history tab call entries

theorem StageInv.append (events : List TabEvent) (hstage : StageInv history tab stage) :
    StageInv (events ++ history) tab stage := by
  cases stage with
  | idle => trivial
  | reading => trivial
  | calling call entries => exact ⟨hstage.1, hstage.2.1, List.mem_append_right _ hstage.2.2⟩
  | deleting call entries =>
      obtain ⟨processedCount, hback⟩ := hstage
      exact ⟨processedCount, hback.append events⟩
  | clearing call =>
      obtain ⟨entries, hdenied⟩ := hstage
      exact ⟨entries, hdenied.append events⟩

/-- The call that a tab has not yet done with. -/
def TabStage.call? : TabStage → Option Nat
  | .idle => none
  | .reading => none
  | .calling call _ => some call
  | .deleting call _ => some call
  | .clearing call => some call

/-- Without a call there is nothing to promise. -/
theorem stageInv_of_done (hdone : stage.call? = none) : StageInv history tab stage := by
  cases stage with
  | idle => trivial
  | reading => trivial
  | calling call entries => cases hdone
  | deleting call entries => cases hdone
  | clearing call => cases hdone

theorem mem_failed_of_call (hcall : stage.call? = some call) : .failed call ∈ stage.failed := by
  cases stage <;> cases hcall <;> exact List.mem_singleton_self _

theorem eq_failed_of_mem {event : TabEvent} (hmem : event ∈ stage.failed) : ∃ call, event = .failed call := by
  cases stage with
  | idle => cases hmem
  | reading => cases hmem
  | calling call entries => exact ⟨call, List.mem_singleton.mp hmem⟩
  | deleting call entries => exact ⟨call, List.mem_singleton.mp hmem⟩
  | clearing call => exact ⟨call, List.mem_singleton.mp hmem⟩

/-- A tab that has sent a batch has failed since, or is not done with it, or the rows of the batch have left the
table. -/
def RetryInv (s : TabsState) : Prop :=
  ∀ tab call entries, .sent tab call entries ∈ s.history →
    Precedes s.history (.sent tab call entries) (.failed call) ∨ (s.tabs tab).stage.call? = some call ∨
      ∀ row ∈ entries, row ∉ s.logs.rows

/-- A tab sends a row again only once the call that carried it has failed. -/
def ResentAfterFailure (history : List TabEvent) : Prop :=
  ∀ tab call call' entries entries' row, row ∈ entries → row ∈ entries' →
    Precedes history (.sent tab call entries) (.sent tab call' entries') →
      Precedes history (.sent tab call entries) (.failed call) ∧
        Precedes history (.failed call) (.sent tab call' entries')

theorem ResentAfterFailure.append (hinv : ResentAfterFailure history)
    (hnone : ∀ tab call entries, .sent tab call entries ∉ events) : ResentAfterFailure (events ++ history) := by
  intro tab call call' entries entries' row hrow hrow' hprecedes
  rw [precedes_append_of_not_mem (hnone tab call' entries')] at hprecedes ⊢
  obtain ⟨hfailed, hagain⟩ := hinv tab call call' entries entries' row hrow hrow' hprecedes
  exact ⟨hfailed.append events, hagain⟩

/-- A tab that reads and sends a batch has failed with every earlier one that carried one of its rows. -/
theorem resent_of_retry (hretry : RetryInv s) (hresent : ResentAfterFailure s.history)
    (hidle : (s.tabs tab).stage.call? = none) (hbatch : ∀ row ∈ entries, row ∈ s.logs.rows) :
    ResentAfterFailure (.sent tab call entries :: s.history) := by
  intro tab' call₁ call₂ entries₁ entries₂ row hrow₁ hrow₂ hprecedes
  rcases precedes_cons.mp hprecedes with hbefore | ⟨heq, hsent⟩
  · obtain ⟨hfailed, hagain⟩ := hresent tab' call₁ call₂ entries₁ entries₂ row hrow₁ hrow₂ hbefore
    exact ⟨hfailed.append [_], hagain.append [_]⟩
  · cases heq
    rcases hretry tab call₁ entries₁ hsent with hfailed | hcall | haway
    · exact ⟨hfailed.append [_], precedes_cons.mpr (Or.inr ⟨rfl, hfailed.snd_mem⟩)⟩
    · rw [hidle] at hcall
      cases hcall
    · exact absurd (hbatch row hrow₂) (haway row hrow₁)

/-! ## The invariant -/

structure TabsInv (logs : LogTable) (s : TabsState) : Prop where
  calls : ∀ call, CallInv s call
  rows : ∀ row, RowInv logs s row
  ids : UniqueIds logs s.history
  sent : SentPresent logs s.history
  stages : ∀ tab, StageInv s.history tab (s.tabs tab).stage
  retry : RetryInv s
  resent : ResentAfterFailure s.history

theorem tabsInv_start (logs : LogTable) (server : RingBuffer) : TabsInv logs (.start logs server) where
  calls _ :=
    { sent_lt := nofun
      sent_unique := nofun
      request := nofun
      handled := nofun
      handled_once := fun hprecedes => absurd hprecedes.fst_mem List.not_mem_nil
      refused := nofun
      processed := nofun
      unauthenticated := nofun }
  rows _ :=
    { known := Or.inl
      known_lt := fun hknown => logs.fresh _ (hknown.resolve_right List.not_mem_nil)
      kept := fun hknown => Or.inl (hknown.resolve_right List.not_mem_nil)
      gone := fun hgone => (hgone.elim List.not_mem_nil List.not_mem_nil).elim
      deleted := nofun
      cleared := nofun }
  ids row row' hrow hrow' hid := by
    have hnodup : (logs.rows.map DBClientLogEntry.id).Nodup := by
      rw [List.Nodup, List.pairwise_map]
      exact logs.sorted.imp fun hlt => Nat.ne_of_lt hlt
    exact List.inj_on_of_nodup_map hnodup (hrow.resolve_right List.not_mem_nil)
      (hrow'.resolve_right List.not_mem_nil) hid
  sent := nofun
  stages _ := trivial
  retry := nofun
  resent _ _ _ _ _ _ _ _ hprecedes := absurd hprecedes.fst_mem List.not_mem_nil

/-- At most one tab changes its stage. -/
def Moved (s next : TabsState) (tab : Nat) (stage : TabStage) : Prop :=
  ∀ tab', (next.tabs tab').stage = if tab' = tab then stage else (s.tabs tab').stage

theorem moved_setTab (s : TabsState) (tab : Nat) (page : Tab) : Moved s (s.setTab tab page) tab page.stage := by
  intro tab'
  simp only [TabsState.setTab, Function.update_apply]
  split <;> rfl

theorem moved_setStage (s : TabsState) (tab : Nat) (stage : TabStage) : Moved s (s.setStage tab stage) tab stage :=
  moved_setTab s tab _

theorem moved_of_eq (htabs : next.tabs = s.tabs) (tab : Nat) : Moved s next tab (s.tabs tab).stage := by
  intro tab'
  rw [htabs]
  split
  · rename_i heq
    rw [heq]
  · rfl

/-- The call of a tab is still the same, unless it is the one that moves. -/
theorem Moved.stillOr {away : Prop} {tab' : Nat} (hmoved : Moved s next tab stage)
    (hcall : (s.tabs tab').stage.call? = some call)
    (hdone : tab' = tab → (s.tabs tab).stage.call? = some call → stage.call? = some call ∨ away) :
    (next.tabs tab').stage.call? = some call ∨ away := by
  rw [hmoved tab']
  split
  · rename_i heq
    exact hdone heq (heq ▸ hcall)
  · exact Or.inl hcall

/-- A step by which nothing is sent: a tab that is done with its call has failed, or the rows of the call have left
the table. -/
theorem TabsInv.of_append (events : List TabEvent) (hinv : TabsInv logs s)
    (hhistory : next.history = events ++ s.history) (hunsent : ∀ tab call entries, .sent tab call entries ∉ events)
    (hcalls : ∀ call, CallInv next call) (hrows : ∀ row, RowInv logs next row) (hids : UniqueIds logs next.history)
    (hmoved : Moved s next tab stage) (hstage : StageInv next.history tab stage)
    (hdone : ∀ call entries, .sent tab call entries ∈ s.history → (s.tabs tab).stage.call? = some call →
      stage.call? = some call ∨ .failed call ∈ events ∨ ∀ row ∈ entries, row ∉ next.logs.rows) :
    TabsInv logs next := by
  refine ⟨hcalls, hrows, hids, hhistory ▸ hinv.sent.append hunsent, fun tab' => ?_, fun tab' call entries hmem => ?_,
    hhistory ▸ hinv.resent.append hunsent⟩
  · rw [hmoved tab']
    split
    · rename_i heq
      rwa [heq]
    · rw [hhistory]
      exact (hinv.stages tab').append events
  · rw [hhistory] at hmem ⊢
    have hsent := (List.mem_append.mp hmem).resolve_left (hunsent tab' call entries)
    rcases hinv.retry tab' call entries hsent with hfailed | hcall | haway
    · exact Or.inl (hfailed.append events)
    · have hstill := hmoved.stillOr hcall fun heq hcall' => hdone call entries (heq ▸ hsent) hcall'
      rcases hstill with hstill | hfailed | haway
      · exact Or.inr (Or.inl hstill)
      · exact Or.inl (precedes_append hsent hfailed)
      · exact Or.inr (Or.inr haway)
    · -- a row that has been sent and is not in the table has been removed, and then it stays away
      refine Or.inr (Or.inr fun row hrow => ?_)
      have hknown := (hinv.sent tab' call entries hsent row hrow).known
      obtain ⟨call', hgone⟩ := ((hinv.rows row).kept hknown).resolve_left (haway row hrow)
      have hgone' : Gone next.history call' row := by
        rw [hhistory]
        exact hgone.imp (List.mem_append_right _) (List.mem_append_right _)
      exact ((hrows row).gone hgone').2

/-- The calls are as before when the server takes no part. -/
theorem calls_of_unserved (events : List TabEvent) (hinv : TabsInv logs s)
    (hnone : ∀ event ∈ events, event.served? = none) (hhistory : next.history = events ++ s.history)
    (hcall : next.nextCall = s.nextCall) (hrequests : next.requests = s.requests)
    (hresponses : next.responses = s.responses) (call : Nat) : CallInv next call :=
  (hinv.calls call).frame events (fun event hmem => by simp [hnone event hmem]) hhistory (Nat.le_of_eq hcall.symm)
    (fun entries hmem => hrequests ▸ hmem) fun answer hmem => hresponses ▸ hmem

/-- The rows are as before when the table is. -/
theorem rows_of_same (events : List TabEvent) (hinv : TabsInv logs s) (hnone : ∀ event ∈ events, event.row? = none)
    (hhistory : next.history = events ++ s.history) (hlogs : next.logs = s.logs) (row : DBClientLogEntry) :
    RowInv logs next row :=
  (hinv.rows row).frame events (fun event hmem => by simp [hnone event hmem]) hhistory (by rw [hlogs]) (by rw [hlogs])

/-- A step of a tab that leaves the table alone and sends nothing. -/
theorem TabsInv.of_quiet (events : List TabEvent) (hinv : TabsInv logs s)
    (hquiet : ∀ event ∈ events, event.served? = none ∧ event.row? = none)
    (hhistory : next.history = events ++ s.history) (hlogs : next.logs = s.logs) (hcall : next.nextCall = s.nextCall)
    (hrequests : next.requests = s.requests) (hresponses : next.responses = s.responses)
    (hmoved : Moved s next tab stage) (hstage : StageInv next.history tab stage)
    (hdone : ∀ call, (s.tabs tab).stage.call? = some call → stage.call? = some call ∨ .failed call ∈ events) :
    TabsInv logs next := by
  have hother {event : TabEvent} (hevent : event.served? ≠ none ∨ event.row? ≠ none) : event ∉ events := fun hmem =>
    hevent.elim (· (hquiet event hmem).1) (· (hquiet event hmem).2)
  refine hinv.of_append events hhistory (fun tab' call entries => hother (Or.inl (by simp [TabEvent.served?])))
    (calls_of_unserved events hinv (fun event hmem => (hquiet event hmem).1) hhistory hcall hrequests hresponses)
    (rows_of_same events hinv (fun event hmem => (hquiet event hmem).2) hhistory hlogs) ?_ hmoved hstage
    fun call entries _ hcall' => (hdone call hcall').imp_right Or.inl
  rw [hhistory]
  exact hinv.ids.append fun row => hother (Or.inr (by simp [TabEvent.row?]))

/-- An answer of the server. -/
theorem TabsInv.of_server {event : TabEvent} (hinv : TabsInv logs s) (hcalled : CallInv next call)
    (hserved : event.served? = some call) (hrow : event.row? = none) (hunsent : ∀ tab call entries,
      event ≠ .sent tab call entries) (hhistory : next.history = event :: s.history) (hlogs : next.logs = s.logs)
    (htabs : next.tabs = s.tabs) (hcall : next.nextCall = s.nextCall)
    (hrequests : ∀ call' entries, call' ≠ call → (call', entries) ∈ next.requests → (call', entries) ∈ s.requests)
    (hresponses : ∀ call' answer, call' ≠ call → (call', answer) ∈ next.responses → (call', answer) ∈ s.responses) :
    TabsInv logs next := by
  have hhistory' : next.history = [event] ++ s.history := hhistory
  have hrow' : ∀ event' ∈ [event], event'.row? = none := fun event' hmem => List.mem_singleton.mp hmem ▸ hrow
  have hstage : StageInv next.history 0 (s.tabs 0).stage := by
    rw [hhistory']
    exact (hinv.stages 0).append [event]
  have hids : UniqueIds logs next.history := by
    rw [hhistory']
    refine hinv.ids.append fun row hmem => ?_
    have hcontra := hrow' _ hmem
    cases hcontra
  refine hinv.of_append [event] hhistory'
    (fun tab call entries hmem => hunsent tab call entries (List.mem_singleton.mp hmem).symm) (fun call' => ?_)
    (rows_of_same [event] hinv hrow' hhistory' hlogs) hids (moved_of_eq htabs 0) hstage
    fun call entries _ hcall => Or.inl hcall
  by_cases hsame : call' = call
  · rw [hsame]
    exact hcalled
  · refine (hinv.calls call').frame [event] (fun event' hmem => ?_) hhistory' (Nat.le_of_eq hcall.symm)
      (fun entries => hrequests call' entries hsame) fun answer => hresponses call' answer hsame
    rw [List.mem_singleton.mp hmem, hserved]
    exact fun heq => hsame (Option.some.inj heq).symm

/-- Rows leave the table at the hands of one tab, each for a reason, and with them the batch of the tab. -/
theorem TabsInv.remove (removed : DBClientLogEntry → Bool) (gone : DBClientLogEntry → TabEvent) (hinv : TabsInv logs s)
    (hgone : (∀ row, gone row = .deleted call row) ∨ ∀ row, gone row = .cleared call row)
    (hevents : ∀ event, event ∈ events ↔ ∃ row ∈ s.logs.rows, removed row = true ∧ event = gone row)
    (hreason : ∀ row ∈ s.logs.rows, removed row = true →
      (gone row = .deleted call row → DeliveredBy (events ++ s.history) call row) ∧
        (gone row = .cleared call row → DroppedBy (events ++ s.history) call row))
    (hhistory : next.history = events ++ s.history) (hcall : next.nextCall = s.nextCall)
    (hrequests : next.requests = s.requests) (hresponses : next.responses = s.responses)
    (hnextId : next.logs.nextId = s.logs.nextId)
    (hrows : ∀ row, row ∈ next.logs.rows ↔ row ∈ s.logs.rows ∧ removed row = false)
    (hmoved : Moved s next tab stage) (hstage : stage.call? = none)
    (hbatch : ∀ call entries, .sent tab call entries ∈ s.history → (s.tabs tab).stage.call? = some call →
      ∀ row ∈ entries, row ∈ s.logs.rows → removed row = true) : TabsInv logs next := by
  have hserved : ∀ event ∈ events, event.served? = none := by
    intro event hmem
    obtain ⟨row, -, -, rfl⟩ := (hevents event).mp hmem
    rcases hgone with hgone | hgone <;> rw [hgone row] <;> rfl
  have hrow : ∀ event ∈ events, ∃ row, event.row? = some row ∧ row ∈ s.logs.rows ∧ removed row = true := by
    intro event hmem
    obtain ⟨row, hin, hremoved, rfl⟩ := (hevents event).mp hmem
    refine ⟨row, ?_, hin, hremoved⟩
    rcases hgone with hgone | hgone <;> rw [hgone row] <;> rfl
  have hadded (row : DBClientLogEntry) : .added row ∉ events := by
    intro hmem
    obtain ⟨row', -, -, heq⟩ := (hevents _).mp hmem
    rcases hgone with hgone | hgone <;> rw [hgone row'] at heq <;> cases heq
  refine hinv.of_append events hhistory (fun tab call entries hmem => ?_)
    (calls_of_unserved events hinv hserved hhistory hcall hrequests hresponses) (fun row => ?_)
    (hhistory ▸ hinv.ids.append hadded) hmoved (stageInv_of_done hstage) fun call entries hsent hcall' => ?_
  · have hcontra := hserved _ hmem
    cases hcontra
  · by_cases hleaves : row ∈ s.logs.rows ∧ removed row = true
    · have hmine {event : TabEvent} (hevent : event.row? = some row) (hmem : event ∈ events) : event = gone row := by
        obtain ⟨row', -, -, rfl⟩ := (hevents event).mp hmem
        rcases hgone with hgone | hgone <;> rw [hgone row'] at hevent ⊢ <;> cases hevent <;> rw [hgone row]
      refine (hinv.rows row).remove events hleaves.1 ⟨call, ?_⟩ (fun call' hmem => ?_) (fun call' hmem => ?_) hhistory
        hnextId fun hstill => ?_
      · have hmem := (hevents (gone row)).mpr ⟨row, hleaves.1, hleaves.2, rfl⟩
        rcases hgone with hgone | hgone
        · exact Or.inl (hgone row ▸ hmem)
        · exact Or.inr (hgone row ▸ hmem)
      · have heq := hmine rfl hmem
        rcases hgone with hgone | hgone <;> rw [hgone row] at heq <;> cases heq
        exact (hreason row hleaves.1 hleaves.2).1 (hgone row)
      · have heq := hmine rfl hmem
        rcases hgone with hgone | hgone <;> rw [hgone row] at heq <;> cases heq
        exact (hreason row hleaves.1 hleaves.2).2 (hgone row)
      · rw [((hrows row).mp hstill).2] at hleaves
        cases hleaves.2
    · refine (hinv.rows row).frame events (fun event hmem heq => ?_) hhistory (Nat.le_of_eq hnextId.symm) ?_
      · obtain ⟨row', hrow', hin⟩ := hrow event hmem
        rw [hrow', Option.some.injEq] at heq
        exact hleaves (heq ▸ hin)
      · rw [hrows row]
        refine and_iff_left_of_imp fun hin => ?_
        rw [← Bool.not_eq_true]
        exact fun hremoved => hleaves ⟨hin, hremoved⟩
  · refine Or.inr (Or.inr fun row hrow' hstill => ?_)
    obtain ⟨hin, hkept⟩ := (hrows row).mp hstill
    rw [hbatch call entries hsent hcall' row hrow' hin] at hkept
    cases hkept

/-- The batch that a tab waits for has been handled, and was counted. -/
theorem TabsInv.acknowledged {processedCount : Int32} (hinv : TabsInv logs s)
    (hstage : (s.tabs tab).stage = .calling call entries)
    (hresponse : (call, .processed processedCount) ∈ s.responses) :
    0 < processedCount ∧ Acknowledged (.returned call processedCount :: s.history) tab call entries processedCount := by
  have hpromise := hinv.stages tab
  rw [hstage] at hpromise
  obtain ⟨hne, hlength, hsent⟩ := hpromise
  obtain ⟨entries', logged, hhandled, hcount⟩ := (hinv.calls call).processed hresponse
  obtain ⟨hlogged, tab', hprecedes⟩ := (hinv.calls call).handled hhandled
  obtain ⟨rfl, rfl⟩ := (hinv.calls call).sent_unique hprecedes.fst_mem hsent
  refine ⟨?_, logged, hlogged, hprecedes.append [_], precedes_cons.mpr (Or.inr ⟨rfl, hhandled⟩)⟩
  rw [hcount]
  exact ofNat_length_pos _ (Nat.lt_succ_of_le hlength) (mt List.eq_nil_of_length_eq_zero hne)

/-- The call that a tab waits for has been turned away. -/
theorem TabsInv.denied (hinv : TabsInv logs s) (hstage : (s.tabs tab).stage = .calling call entries)
    (hresponse : (call, .unauthenticated) ∈ s.responses) : Denied (.denied call :: s.history) tab call entries := by
  have hpromise := hinv.stages tab
  rw [hstage] at hpromise
  have hrefused := (hinv.calls call).unauthenticated hresponse
  obtain ⟨⟨tab', entries', hprecedes⟩, -⟩ := (hinv.calls call).refused hrefused
  obtain ⟨rfl, rfl⟩ := (hinv.calls call).sent_unique hprecedes.fst_mem hpromise.2.2
  exact ⟨hprecedes.append [_], precedes_cons.mpr (Or.inr ⟨rfl, hrefused⟩)⟩

/-- A tab deletes the batch that has been acknowledged. -/
theorem TabsInv.delete (hinv : TabsInv logs s) (hstage : (s.tabs tab).stage = .deleting call entries)
    (hdone : stage.call? = none) :
    TabsInv logs
      { s.setStage tab stage with
        logs := s.logs.bulkDelete (entries.map DBClientLogEntry.id)
        history := (s.logs.rows.filter fun row => row.id ∈ entries.map DBClientLogEntry.id).map (.deleted call) ++
          s.history } := by
  have hpromise := hinv.stages tab
  rw [hstage] at hpromise
  obtain ⟨processedCount, logged, hlogged, hhandled, hreturned⟩ := hpromise
  have hsent := hhandled.fst_mem
  -- a row with the id of one of the batch is that one
  have hbatch {row : DBClientLogEntry} (hin : row ∈ s.logs.rows) (hid : row.id ∈ entries.map DBClientLogEntry.id) :
      row ∈ entries := by
    obtain ⟨row', hrow', heq⟩ := List.mem_map.mp hid
    rw [← hinv.ids row' row (hinv.sent tab call entries hsent row' hrow').known ((hinv.rows row).known hin) heq]
    exact hrow'
  refine hinv.remove (fun row => decide (row.id ∈ entries.map DBClientLogEntry.id)) (.deleted call)
    (Or.inl fun _ => rfl) (fun event => ?_) (fun row hin hid => ⟨fun _ => ?_, nofun⟩) rfl rfl rfl rfl rfl (fun row => ?_)
    (moved_setStage s tab stage) hdone fun call' entries' hsent' hcall' row hrow _ => ?_
  · rw [List.mem_map]
    exact exists_congr fun row => by rw [List.mem_filter, and_assoc, eq_comm (a := event)]
  · refine ⟨tab, entries, processedCount, hbatch hin (of_decide_eq_true hid),
      ⟨logged, hlogged, hhandled.append _, hreturned.append _⟩, precedes_append hreturned.snd_mem ?_⟩
    exact List.mem_map_of_mem (List.mem_filter.mpr ⟨hin, hid⟩)
  · simp only [LogTable.bulkDelete, List.mem_filter, decide_not, Bool.not_eq_true']
  · rw [hstage] at hcall'
    cases hcall'
    obtain ⟨-, rfl⟩ := (hinv.calls call).sent_unique hsent hsent'
    exact decide_eq_true (List.mem_map_of_mem hrow)

/-- A tab clears the table after its call has been denied. -/
theorem TabsInv.clear (hinv : TabsInv logs s) (hstage : (s.tabs tab).stage = .clearing call) :
    TabsInv logs
      { s.setStage tab .idle with
        logs := LogTabs.clear s.logs
        history := s.logs.rows.map (.cleared call) ++ s.history } := by
  have hpromise := hinv.stages tab
  rw [hstage] at hpromise
  obtain ⟨entries, hdenied⟩ := hpromise
  refine hinv.remove (fun _ => true) (.cleared call) (Or.inr fun _ => rfl) (fun event => ?_)
    (fun row hin _ => ⟨nofun, fun _ => ?_⟩) rfl rfl rfl rfl rfl (fun row => ?_) (moved_setStage s tab .idle) rfl
    fun _ _ _ _ _ _ _ => rfl
  · rw [List.mem_map]
    exact exists_congr fun row => by rw [eq_self_iff_true, true_and, eq_comm (a := event)]
  · exact ⟨tab, entries, hdenied.append _, precedes_append hdenied.2.snd_mem (List.mem_map_of_mem hin)⟩
  · simp [LogTabs.clear]

/-- A tab reads a batch and sends it. -/
theorem TabsInv.send (hinv : TabsInv logs s) (hstage : (s.tabs tab).stage = .reading)
    (hne : s.logs.limit batchSize ≠ []) :
    TabsInv logs
      { s.setStage tab (.calling s.nextCall (s.logs.limit batchSize)) with
        nextCall := s.nextCall + 1
        requests := (s.nextCall, s.logs.limit batchSize) :: s.requests
        history := .sent tab s.nextCall (s.logs.limit batchSize) :: s.history } := by
  have hbatch : ∀ row ∈ s.logs.limit batchSize, row ∈ s.logs.rows := fun row hrow => List.mem_of_mem_take hrow
  have hfresh : .sent tab s.nextCall (s.logs.limit batchSize) ∉ s.history := fun hmem =>
    Nat.lt_irrefl _ ((hinv.calls s.nextCall).sent_lt hmem)
  have hmoved := moved_setStage s tab (.calling s.nextCall (s.logs.limit batchSize))
  have hidle : (s.tabs tab).stage.call? = none := by
    rw [hstage]
    rfl
  have hids : UniqueIds logs ([.sent tab s.nextCall (s.logs.limit batchSize)] ++ s.history) :=
    hinv.ids.append (by simp)
  refine ⟨fun call => ?_, rows_of_same [_] hinv (by simp [TabEvent.row?]) rfl rfl,
    hids, hinv.sent.send hinv.rows hbatch hfresh, fun tab' => ?_, fun tab' call entries hmem => ?_,
    resent_of_retry hinv.retry hinv.resent hidle hbatch⟩
  · by_cases hsame : call = s.nextCall
    · subst hsame
      exact (hinv.calls s.nextCall).send rfl rfl rfl rfl
    · refine (hinv.calls call).frame [_] (fun event hmem => ?_) rfl (Nat.le_succ _) (fun entries hmem => ?_)
        fun answer hmem => hmem
      · rw [List.mem_singleton.mp hmem]
        exact fun heq => hsame (Option.some.inj heq).symm
      · exact (List.mem_cons.mp hmem).resolve_left fun heq => hsame (congrArg Prod.fst heq)
  · rw [hmoved tab']
    split
    · rename_i heq
      subst heq
      exact ⟨hne, List.length_take_le _ _, List.mem_cons_self⟩
    · exact (hinv.stages tab').append [_]
  · rcases List.mem_cons.mp hmem with heq | hmem
    · cases heq
      refine Or.inr (Or.inl ?_)
      rw [hmoved tab, if_pos rfl]
      rfl
    · rcases hinv.retry tab' call entries hmem with hfailed | hcall | haway
      · exact Or.inl (hfailed.append [_])
      · refine Or.inr (hmoved.stillOr hcall fun _ hcall' => ?_)
        rw [hidle] at hcall'
        cases hcall'
      · exact Or.inr (Or.inr haway)

/-- A row is added, under an id that no row has had. -/
theorem TabsInv.add (hinv : TabsInv logs s) (entry : ClientLogEntry) :
    TabsInv logs { s with logs := s.logs.add entry, history := .added (s.logs.newRow entry) :: s.history } := by
  have hlt {row : DBClientLogEntry} (hknown : Known logs s.history row) : row.id < s.logs.nextId :=
    (hinv.rows row).known_lt hknown
  refine hinv.of_append [.added (s.logs.newRow entry)] rfl (by simp)
    (calls_of_unserved [_] hinv (by simp [TabEvent.served?]) rfl rfl rfl rfl) (fun row => ?_)
    (hinv.ids.add fun other hknown => hlt hknown) (moved_of_eq rfl 0) ((hinv.stages 0).append [_])
    fun call entries _ hcall => Or.inl hcall
  by_cases hsame : row = s.logs.newRow entry
  · subst hsame
    exact (hinv.rows _).add (fun hknown => Nat.lt_irrefl _ (hlt hknown)) rfl (Nat.lt_succ_self _)
      (List.mem_append_right _ List.mem_cons_self)
  · refine (hinv.rows row).frame [_] (fun event hmem => ?_) rfl (Nat.le_succ _) ?_
    · rw [List.mem_singleton.mp hmem]
      exact fun heq => hsame (Option.some.inj heq).symm
    · simp [LogTable.add, hsame]

/-- A tab gives up, or is loaded anew. -/
theorem TabsInv.giveUp (hinv : TabsInv logs s) (tab : Nat) (page : Tab) (hpage : page.stage = .idle) :
    TabsInv logs { s.setTab tab page with history := (s.tabs tab).stage.failed ++ s.history } := by
  have hmoved : Moved s (s.setTab tab page) tab .idle := hpage ▸ moved_setTab s tab page
  refine hinv.of_quiet (s.tabs tab).stage.failed (fun event hmem => ?_) rfl rfl rfl rfl rfl hmoved trivial
    fun _ hcall => Or.inr (mem_failed_of_call hcall)
  obtain ⟨call, rfl⟩ := eq_failed_of_mem hmem
  exact ⟨rfl, rfl⟩

theorem tabsInv_step {label : TabsLabel} (hinv : TabsInv logs s) (hstep : tabsStep logger s label = some next) :
    TabsInv logs next := by
  cases label with
  | addLogEntry tab entry =>
      simp only [tabsStep] at hstep
      split at hstep
      · cases hstep
        exact hinv
      · cases hstep
        exact hinv.add entry
  | setIsUnloading tab value =>
      cases hstep
      exact hinv.of_quiet [] (by simp) rfl rfl rfl rfl rfl (moved_setTab s tab _) (hinv.stages tab)
        fun _ hcall => Or.inl hcall
  | syncPendingLogs tab =>
      simp only [tabsStep] at hstep
      split at hstep
      · rename_i hstage
        cases hstep
        refine hinv.of_quiet [] (by simp) rfl rfl rfl rfl rfl (moved_setStage s tab _) trivial fun call hcall => ?_
        rw [hstage] at hcall
        cases hcall
      · cases hstep
        exact hinv
  | read tab =>
      simp only [tabsStep] at hstep
      split at hstep
      · rename_i hstage
        split at hstep
        · cases hstep
          refine hinv.of_quiet [] (by simp) rfl rfl rfl rfl rfl (moved_setStage s tab _) trivial fun call hcall => ?_
          rw [hstage] at hcall
          cases hcall
        · rename_i hne
          cases hstep
          exact hinv.send hstage hne
      · cases hstep
  | handle call clock =>
      simp only [tabsStep] at hstep
      split at hstep
      · rename_i call' entries hfind
        cases hstep
        have hcall : call' = call := by simpa using List.find?_some hfind
        subst hcall
        obtain ⟨hlogged, hcount⟩ := loggedAs_syncLogs logger clock s.server entries
        have hrequest := List.mem_of_find?_eq_some hfind
        exact hinv.of_server ((hinv.calls call').handle hrequest hlogged hcount rfl rfl rfl rfl) rfl rfl (by simp) rfl
          rfl rfl rfl (fun _ _ _ => List.mem_of_mem_filter)
          fun _ _ hne hmem => (List.mem_cons.mp hmem).resolve_left fun heq => hne (congrArg Prod.fst heq)
      · cases hstep
  | refuse call =>
      simp only [tabsStep] at hstep
      split at hstep
      · rename_i request hfind
        cases hstep
        have hcall : request.1 = call := by simpa using List.find?_some hfind
        subst hcall
        have hrequest := List.mem_of_find?_eq_some hfind
        exact hinv.of_server ((hinv.calls request.1).refuse hrequest rfl rfl rfl rfl) rfl rfl (by simp) rfl rfl rfl rfl
          (fun _ _ _ => List.mem_of_mem_filter)
          fun _ _ hne hmem => (List.mem_cons.mp hmem).resolve_left fun heq => hne (congrArg Prod.fst heq)
      · cases hstep
  | respond tab =>
      simp only [tabsStep] at hstep
      split at hstep
      · rename_i call entries hstage
        have hsame (call' : Nat) (hcall : (s.tabs tab).stage.call? = some call') : some call = some call' := by
          rw [hstage] at hcall
          exact hcall
        split at hstep
        · rename_i call' processedCount hfind
          cases hstep
          have hcall : call' = call := by simpa using List.find?_some hfind
          subst hcall
          obtain ⟨hpos, hback⟩ := hinv.acknowledged hstage (List.mem_of_find?_eq_some hfind)
          rw [if_pos hpos]
          exact hinv.of_quiet [.returned call' processedCount] (by simp [TabEvent.served?, TabEvent.row?]) rfl rfl rfl
            rfl rfl (moved_setStage s tab _) ⟨processedCount, hback⟩ fun call hcall => Or.inl (hsame call hcall)
        · rename_i call' hfind
          cases hstep
          have hcall : call' = call := by simpa using List.find?_some hfind
          subst hcall
          exact hinv.of_quiet [.denied call'] (by simp [TabEvent.served?, TabEvent.row?]) rfl rfl rfl rfl rfl
            (moved_setStage s tab _) ⟨entries, hinv.denied hstage (List.mem_of_find?_eq_some hfind)⟩
            fun call hcall => Or.inl (hsame call hcall)
        · cases hstep
      · cases hstep
  | delete tab =>
      simp only [tabsStep] at hstep
      split at hstep
      · rename_i call entries hstage
        cases hstep
        refine hinv.delete hstage ?_
        split <;> rfl
      · cases hstep
  | clear tab =>
      simp only [tabsStep] at hstep
      split at hstep
      · rename_i call hstage
        cases hstep
        exact hinv.clear hstage
      · cases hstep
  | fail tab =>
      simp only [tabsStep] at hstep
      split at hstep
      · cases hstep
      · cases hstep
        exact hinv.giveUp tab _ rfl
  | reload tab =>
      cases hstep
      exact hinv.giveUp tab _ rfl

/-! ## What becomes of the rows -/

/-- The handler of a call has logged the entries that were sent, once at most, and none if the call was refused. -/
structure LoggedOnce (history : List TabEvent) (call : Nat) : Prop where
  handled : ∀ {entries logged}, .handled call entries logged ∈ history → LoggedAs entries logged ∧
    ∃ tab, Precedes history (.sent tab call entries) (.handled call entries logged)
  once : ∀ {entries entries' logged logged'},
    ¬ Precedes history (.handled call entries logged) (.handled call entries' logged')
  refused : .refused call ∈ history → ∀ entries logged, .handled call entries logged ∉ history

/-- Whatever the tabs add, send and delete under each other's hands, whatever fails, and whoever is logged out: a row
that has been added is in the table, or has been deleted by a tab whose call had carried it to the handler and come
back, or has been cleared away by a tab whose call the server had refused.  What is sent has not been removed before,
and a tab sends a row twice only if it has failed in between. -/
theorem logTabs_accounted {server : RingBuffer} {labels : List TabsLabel}
    (hrun : exec (tabsStep logger) (.start logs server) labels = some s) :
    (∀ row, Known logs s.history row →
        row ∈ s.logs.rows ∨ ∃ call, DeliveredBy s.history call row ∨ DroppedBy s.history call row) ∧
      (∀ call row, Gone s.history call row → row ∉ s.logs.rows) ∧ (∀ call, LoggedOnce s.history call) ∧
      SentPresent logs s.history ∧ ResentAfterFailure s.history := by
  have hinv : TabsInv logs s :=
    exec_invariant (TabsInv logs) (fun _ _ _ hinv hstep => tabsInv_step hinv hstep) hrun (tabsInv_start logs server)
  refine ⟨fun row hknown => ?_, fun call row hgone => ((hinv.rows row).gone hgone).2, fun call => ?_, hinv.sent,
    hinv.resent⟩
  · refine ((hinv.rows row).kept hknown).imp_right fun ⟨call, hgone⟩ => ⟨call, ?_⟩
    exact hgone.imp (hinv.rows row).deleted (hinv.rows row).cleared
  · exact ⟨(hinv.calls call).handled, (hinv.calls call).handled_once, fun hmem => ((hinv.calls call).refused hmem).2⟩

/-- Two tabs send the same rows, and both are answered.  Then one of them fails with a third row, and has been logged
out when it sends it again. -/
def twoTabs : List TabsLabel :=
  [.syncPendingLogs 0, .syncPendingLogs 1, .read 0, .read 1, .addLogEntry 1 click, .handle 1 fun _ => 0,
    .handle 0 fun _ => 0, .respond 0, .respond 1, .delete 0, .delete 1, .syncPendingLogs 0, .read 0, .fail 0,
    .syncPendingLogs 0, .read 0, .refuse 3, .respond 0, .clear 0]

theorem exec_twoTabs :
    (exec (tabsStep productionLogger) (.start twoRows (.new 1000 (by decide))) twoTabs).map
        (fun s => (s.logs.rows, decide (.added ⟨3, click⟩ ∈ s.history),
          decide (Precedes s.history (.sent 0 2 [⟨3, click⟩]) (.sent 0 3 [⟨3, click⟩])))) =
      some ([], true, true) := by
  decide +kernel

theorem logTabs_accounted_twoTabs :
    ∃ s, exec (tabsStep productionLogger) (.start twoRows (.new 1000 (by decide))) twoTabs = some s ∧
      (∃ call, DeliveredBy s.history call ⟨1, warning⟩ ∨ DroppedBy s.history call ⟨1, warning⟩) ∧
      (∃ call, DeliveredBy s.history call ⟨3, click⟩ ∨ DroppedBy s.history call ⟨3, click⟩) ∧
      Precedes s.history (.failed 2) (.sent 0 3 [⟨3, click⟩]) := by
  obtain ⟨s, hrun, hend⟩ := Option.map_eq_some_iff.mp exec_twoTabs
  simp only [Prod.mk.injEq, decide_eq_true_eq] at hend
  obtain ⟨hempty, hadded, hagain⟩ := hend
  obtain ⟨haccounted, -, -, -, hresent⟩ := logTabs_accounted hrun
  have haway (row : DBClientLogEntry) : row ∉ s.logs.rows := hempty ▸ List.not_mem_nil
  refine ⟨s, hrun, (haccounted _ (Or.inl (by decide))).resolve_left (haway _),
    (haccounted _ (Or.inr hadded)).resolve_left (haway _), ?_⟩
  exact (hresent 0 2 3 _ _ _ List.mem_cons_self List.mem_cons_self hagain).2

end LogTabs
end Frontend
end Dmanager
