import Dmanager.Admin.AuditLogs
import Dmanager.Audit.Retention
import Dmanager.Auth.DeviceLabel

/-!
# Responses that can be marshalled

Protobuf refuses a message with a string that is not valid UTF-8.  The detail of an audit entry is cut off after 2000
bytes before it is stored, and the label of an unknown user agent after 30 when it is listed.

`keepsTextValid_iff` says for which details and user agents everything stays valid, the responses of `ListAuditLogs`
and `ListSessions` with it: for those whose cut does not split a rune.
-/

namespace Dmanager
namespace Server

open Go Db Lib Admin Audit Auth
open Auth.Handlers
open Program (Returns)

/-! ## Strings of messages -/

/-- Protobuf takes the strings. -/
def Marshals (texts : List GoString) : Prop := ∀ text ∈ texts, ValidString text

instance decidableMarshals (texts : List GoString) : Decidable (Marshals texts) :=
  inferInstanceAs (Decidable (∀ text ∈ texts, ValidString text))

/-- The texts of an entry. -/
def entryTexts (e : Entry) : List GoString :=
  [e.actor, e.actorRole, e.action, e.resourceType, e.resourceID, e.detail]

/-- The texts of a row that are listed as they are. -/
def rowTexts (row : AuditLogRow) : List GoString :=
  [row.actor, row.actorRole, row.action, row.resourceType, row.resourceID, row.detail]

/-- The strings of a `ListAuditLogsResponse`. -/
def auditLogTexts (resp : ListAuditLogsResponse) : List GoString :=
  resp.entries.flatMap fun e => [e.actor, e.actorRole, e.action, e.resourceType, e.resourceID, e.detail]

/-- The texts of a session that are listed as they are. -/
def storedTexts (session : Session) : List GoString := [session.sessionID, session.userAgent]

/-- The strings of a `ListSessionsResponse`. -/
def sessionTexts (resp : List SessionProto) : List GoString :=
  resp.flatMap fun session => [session.sessionID, session.userAgent, session.deviceLabel]

/-! ## The cut of a detail -/

theorem detail_truncated (e : Entry) :
    (truncated e).detail <+: e.detail ∧ (truncated e).detail.length ≤ maxDetailLen :=
  ⟨List.take_prefix maxDetailLen e.detail, List.length_take_le maxDetailLen e.detail⟩

/-- What is stored of a valid entry is valid exactly if the cut does not split a rune. -/
theorem marshals_truncated_iff {e : Entry} (hvalid : Marshals (entryTexts e)) :
    Marshals (entryTexts (truncated e)) ↔ CutsBetween maxDetailLen e.detail := by
  have hdetail : ValidString e.detail := hvalid e.detail (by simp [entryTexts])
  rw [← validString_take_iff hdetail]
  simp only [Marshals, entryTexts, List.forall_mem_cons] at hvalid ⊢
  simp [truncated, hvalid]

/-! ## The responses -/

/-- The sessions that the statement answers are those of the table. -/
def ListsSessions (sessions : Sessions) (w : Lib.World SelfCall SelfAnswer) : Prop :=
  ∀ userID n rows, w (.listSessionsByUser userID) n = .ok rows →
    ∃ sqlLess users, Sessions.IsListOfUser sqlLess users sessions userID rows

/-- A response of `ListAuditLogs` can be marshalled if the rows of the table can. -/
theorem marshals_auditLogTexts {table : AuditTable} {queries : Queries} (hreads : Reads table queries)
    {readTime : GoString → Int} {req : ListAuditLogsRequest} {resp : ListAuditLogsResponse}
    (hresp : listAuditLogs readTime (some queries) req = .ok resp)
    (hrows : ∀ row ∈ table.rows, Marshals (rowTexts row)) : Marshals (auditLogTexts resp) := by
  obtain ⟨rows, hlisted, hentries⟩ := entries_of_reads hreads hresp
  intro text htext
  obtain ⟨entry, hentry, htext⟩ := List.mem_flatMap.mp htext
  rw [hentries] at hentry
  obtain ⟨row, hrow, rfl⟩ := List.mem_map.mp hentry
  exact hrows row (hlisted row hrow) text htext

/-- The sessions of a response are those of rows of the table. -/
theorem eq_map_of_listSessions {sessions : Sessions} {w : Lib.World SelfCall SelfAnswer}
    (hlists : ListsSessions sessions w) {ctx : Ctx} {past : List SelfCall} {resp : List SessionProto}
    (hreturns : Returns w past (listSessions ctx) resp) :
    ∃ rows : List Session, (∀ row ∈ rows, row ∈ sessions) ∧ resp = rows.map (sessionProto (currentSessionID ctx)) := by
  unfold listSessions requireUser at hreturns
  cases hctx : ctx.user with
  | none =>
      rw [hctx] at hreturns
      cases hreturns
  | some user =>
      rw [hctx] at hreturns
      obtain ⟨rows, hrows, hdone⟩ := (Program.returns_orFail_bind _ _ _ _).mp hreturns
      obtain ⟨sqlLess, users, hlist⟩ := hlists user.id _ rows hrows
      refine ⟨rows.map ListSessionsByUserRow.session, fun row hrow => ?_, ?_⟩
      · obtain ⟨joined, hjoined, rfl⟩ := List.mem_map.mp hrow
        exact hlist.mem hjoined
      · rw [List.map_map]
        exact ((Program.returns_done _ _).mp hdone).symm

/-- A response of `ListSessions` can be marshalled if the rows of the table and the labels made of them can. -/
theorem marshals_sessionTexts {sessions : Sessions} {w : Lib.World SelfCall SelfAnswer}
    (hlists : ListsSessions sessions w) {ctx : Ctx} {past : List SelfCall} {resp : List SessionProto}
    (hreturns : Returns w past (listSessions ctx) resp)
    (hrows : ∀ row ∈ sessions, Marshals (storedTexts row) ∧ ValidString (formatDeviceLabel row.userAgent)) :
    Marshals (sessionTexts resp) := by
  obtain ⟨rows, hlisted, rfl⟩ := eq_map_of_listSessions hlists hreturns
  intro text htext
  obtain ⟨session, hsession, htext⟩ := List.mem_flatMap.mp htext
  obtain ⟨row, hrow, rfl⟩ := List.mem_map.mp hsession
  obtain ⟨hstored, hlabel⟩ := hrows row (hlisted row hrow)
  -- the label is the last of the three strings
  have hsplit : text ∈ storedTexts row ++ [formatDeviceLabel row.userAgent] := htext
  rcases List.mem_append.mp hsplit with hold | hnew
  · exact hstored text hold
  · rw [List.mem_singleton.mp hnew]
    exact hlabel

/-! ## When the cuts do no harm -/

/-- The details recorded, the labels and the responses are valid. -/
structure KeepsTextValid (recorded : List Entry) (logs : AuditLogs) (sessions : Sessions) : Prop where
  detail : ∀ e ∈ recorded,
    (truncated e).detail <+: e.detail ∧ (truncated e).detail.length ≤ 2000 ∧ ValidString (truncated e).detail
  label : ∀ row ∈ sessions, ValidString (formatDeviceLabel row.userAgent)
  auditLogs : ∀ (table : AuditTable) (queries : Queries) (readTime : GoString → Int) (req : ListAuditLogsRequest)
    (resp : ListAuditLogsResponse), table.rows = logs.rows.map AuditLog.stored → Reads table queries →
      listAuditLogs readTime (some queries) req = .ok resp → Marshals (auditLogTexts resp)
  sessions : ∀ (ctx : Ctx) (w : Lib.World SelfCall SelfAnswer) (past : List SelfCall) (resp : List SessionProto),
    ListsSessions sessions w → Returns w past (listSessions ctx) resp → Marshals (sessionTexts resp)

/-- After any run everything is valid exactly if no cut splits a rune: that of a detail after 2000 bytes, and that after
30 of a user agent in which no word is recognized. -/
theorem keepsTextValid_iff {sqlite : SqlDatetime} {start db : AuditDb} {labels : List AuditLabel} {sessions : Sessions}
    (hrun : exec (auditStep sqlite) start labels = some db)
    (hstart : ∀ row ∈ start.auditLogs.rows, Marshals (rowTexts row.stored))
    (hrecorded : ∀ e ∈ entriesOf labels, Marshals (entryTexts e))
    (hsessions : ∀ row ∈ sessions, Marshals (storedTexts row)) :
    KeepsTextValid (entriesOf labels) db.auditLogs sessions ↔
      (∀ e ∈ entriesOf labels, CutsBetween maxDetailLen e.detail) ∧
        ∀ row ∈ sessions, recognized row.userAgent = true ∨ CutsBetween 30 row.userAgent := by
  have hdetail (e : Entry) (he : e ∈ entriesOf labels) : ValidString e.detail :=
    hrecorded e he e.detail (by simp [entryTexts])
  have huserAgent (row : Session) (hrow : row ∈ sessions) : ValidString row.userAgent :=
    hsessions row hrow row.userAgent (by simp [storedTexts])
  constructor
  · intro hkeeps
    refine ⟨fun e he => ?_, fun row hrow => ?_⟩
    · exact (validString_take_iff (hdetail e he)).mp (hkeeps.detail e he).2.2
    · exact (validString_formatDeviceLabel_iff (huserAgent row hrow)).mp (hkeeps.label row hrow)
  · rintro ⟨hdetails, hagents⟩
    have hlabel (row : Session) (hrow : row ∈ sessions) : ValidString (formatDeviceLabel row.userAgent) :=
      (validString_formatDeviceLabel_iff (huserAgent row hrow)).mpr (hagents row hrow)
    refine ⟨fun e he => ?_, hlabel, fun table queries readTime req resp hrows hreads hresp => ?_,
      fun ctx w past resp hlists hreturns => ?_⟩
    · have hvalid : ValidString (truncated e).detail := (validString_take_iff (hdetail e he)).mpr (hdetails e he)
      exact ⟨(detail_truncated e).1, (detail_truncated e).2, hvalid⟩
    · refine marshals_auditLogTexts hreads hresp fun stored hstored => ?_
      rw [hrows] at hstored
      obtain ⟨row, hrow, rfl⟩ := List.mem_map.mp hstored
      have hall := forall_row_of_run (fun row => Marshals (rowTexts row.stored)) hrun hstart fun e he _ _ =>
        (marshals_truncated_iff (hrecorded e he)).mpr (hdetails e he)
      exact hall row hrow
    · exact marshals_sessionTexts hlists hreturns fun row hrow => ⟨hsessions row hrow, hlabel row hrow⟩

/-- A letter of two bytes, the 2000th and the one after it. -/
def accentedDeletion : Entry := { deletion with detail := List.replicate 1999 0x61 ++ str "é" }

/-- The same with the 30th byte. -/
def accentedAgent : GoString := List.replicate 29 0x78 ++ str "é"

/-- The table after the record. -/
def accentedLogs : AuditLogs := (record keepingDatetime agedDb july.now accentedDeletion).auditLogs

/-- Both cuts split the letter, and the audit log cannot be listed any more. -/
theorem cutsSplitRunes :
    Marshals (entryTexts accentedDeletion) ∧ ValidString accentedAgent ∧
      ¬ ValidString (truncated accentedDeletion).detail ∧ ¬ ValidString (formatDeviceLabel accentedAgent) ∧
      ∃ (table : AuditTable) (resp : ListAuditLogsResponse), table.rows = accentedLogs.rows.map AuditLog.stored ∧
        listAuditLogs (fun _ => 0) (some (sortedQueries table)) ⟨[], 0, 0, 50, 0⟩ = .ok resp ∧
          ¬ Marshals (auditLogTexts resp) := by
  have hdetail : ValidString accentedDeletion.detail := ⟨List.replicate 1999 'a' ++ ['é'], by decide +kernel⟩
  have hentry : Marshals (entryTexts accentedDeletion) := by
    simp only [Marshals, entryTexts, List.forall_mem_cons]
    exact ⟨validString_str _, validString_str _, validString_str _, validString_str _, validString_str _, hdetail,
      List.forall_mem_nil _⟩
  have hagent : ValidString accentedAgent := by decide +kernel
  have hsplit : ¬ ValidString (truncated accentedDeletion).detail := by
    refine fun hvalid => absurd ((validString_take_iff hdetail).mp hvalid) ?_
    decide +kernel
  have hlabel : ¬ ValidString (formatDeviceLabel accentedAgent) := by
    rw [validString_formatDeviceLabel_iff hagent]
    decide +kernel
  have hrows : accentedLogs.rows = [agedDb.auditLogs.newRow july.now (truncated accentedDeletion)] := by
    decide +kernel
  refine ⟨hentry, hagent, hsplit, hlabel,
    onlyRow (agedDb.auditLogs.newRow july.now (truncated accentedDeletion)).stored, _, ?_,
    listAuditLogs_of_reads (reads_sortedQueries _) ⟨List.Perm.refl _, List.pairwise_singleton _ _⟩ (by decide)
      (by decide) 0, ?_⟩
  · rw [hrows]
    rfl
  · intro hmarshals
    exact hsplit (hmarshals _ (by decide +kernel))

/-- Firefox on Linux. -/
def firefoxSessions : Sessions where
  rows := [⟨str "ab", 1, 0, 0, 0, 0, str "Mozilla/5.0 (X11; Linux x86_64; rv:128.0) Gecko/20100101 Firefox/128.0"⟩]
  nodup := by decide

theorem keepsTextValid_corruptedRun :
    ∃ db, exec (auditStep keepingDatetime) agedDb corruptedRun = some db ∧
      KeepsTextValid (entriesOf corruptedRun) db.auditLogs firefoxSessions := by
  obtain ⟨db, hrun, -⟩ := Option.map_eq_some_iff.mp exec_corruptedRun
  refine ⟨db, hrun, (keepsTextValid_iff hrun ?_ ?_ ?_).mpr ⟨?_, ?_⟩⟩
  · exact List.forall_mem_singleton.mpr (by decide +kernel)
  · exact List.forall_mem_singleton.mpr (by decide +kernel)
  · exact List.forall_mem_singleton.mpr (by decide +kernel)
  · exact List.forall_mem_singleton.mpr (by decide +kernel)
  · exact List.forall_mem_singleton.mpr (by decide +kernel)

end Server
end Dmanager
