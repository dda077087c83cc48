import Dmanager.Db.AuditSearch
import Dmanager.Go.Connect

/-!
# `ListAuditLogs`

The handler of `internal/admin/service.go` clamps the limit and the offset, lists a page and counts all matching rows,
with the same nine parameters for both statements.

* `AuditLogEntry.Shows` — what an entry says of its row.
* `pages_are_all` — on a table that does not change, the pages up to the first empty one show all matching rows in
  order, and each reports their number.
* `countsSubstring_iff` — the total is the number of the rows counted, and these are those with the query as a
  substring exactly for the queries without `%` and `_`: the text of the user is a pattern.
-/

namespace Dmanager
namespace Admin

open Go Db Lib

/-! ## The handler -/

/-- `ListAuditLogsRequest`. -/
structure ListAuditLogsRequest where
  query : GoString
  source : Int
  outcome : Int
  limit : Nat
  offset : Nat
  deriving DecidableEq, Repr

/-- `AuditLogEntry`. -/
structure AuditLogEntry where
  id : Nat
  createdAt : Int
  actor : GoString
  actorRole : GoString
  source : Int
  action : GoString
  resourceType : GoString
  resourceID : GoString
  outcome : Int
  detail : GoString
  deriving DecidableEq, Repr

/-- `ListAuditLogsResponse`. -/
structure ListAuditLogsResponse where
  entries : List AuditLogEntry
  total : Nat
  deriving DecidableEq, Repr

/-- `defaultAuditLimit`. -/
def defaultAuditLimit : Int := 50

/-- `maxAuditLimit`. -/
def maxAuditLimit : Int := 200

/-- `maxAuditOffset`. -/
def maxAuditOffset : Nat := 2 ^ 40

/-- `auditSourceToString`. -/
def auditSourceToString (src : Int) : GoString :=
  if src = 1 then str "user" else if src = 2 then str "system" else []

/-- `auditOutcomeToString`. -/
def auditOutcomeToString (outcome : Int) : GoString :=
  if outcome = 1 then str "success" else if outcome = 2 then str "failure" else if outcome = 3 then str "denied" else []

/-- `auditSourceToProto`. -/
def auditSourceToProto (src : GoString) : Int :=
  if src = str "user" then 1 else if src = str "system" then 2 else 0

/-- `auditOutcomeToProto`. -/
def auditOutcomeToProto (outcome : GoString) : Int :=
  if outcome = str "success" then 1
  else if outcome = str "failure" then 2
  else if outcome = str "denied" then 3
  else 0

/-- The limit of a request. -/
def auditLimit (limit : Nat) : Int :=
  let limit := if (limit : Int) ≤ 0 then defaultAuditLimit else limit
  if limit > maxAuditLimit then maxAuditLimit else limit

/-- The parameters of the list. -/
def listParams (req : ListAuditLogsRequest) : ListAuditLogsParams where
  column1 := some req.query
  column2 := some req.query
  column3 := some req.query
  column4 := some req.query
  column5 := some req.query
  column6 := some (auditSourceToString req.source)
  source := auditSourceToString req.source
  column8 := some (auditOutcomeToString req.outcome)
  outcome := auditOutcomeToString req.outcome
  limit := auditLimit req.limit
  offset := (min req.offset maxAuditOffset : Nat)

/-- The parameters of the count. -/
def countParams (req : ListAuditLogsRequest) : CountAuditLogsParams where
  column1 := some req.query
  column2 := some req.query
  column3 := some req.query
  column4 := some req.query
  column5 := some req.query
  column6 := some (auditSourceToString req.source)
  source := auditSourceToString req.source
  column8 := some (auditOutcomeToString req.outcome)
  outcome := auditOutcomeToString req.outcome

/-- The entry of a row; `readTime` is how the driver reads `created_at`. -/
def auditLogEntry (readTime : GoString → Int) (row : AuditLogRow) : AuditLogEntry where
  id := row.id.toNat
  createdAt := readTime row.createdAt
  actor := row.actor
  actorRole := row.actorRole
  source := auditSourceToProto row.source
  action := row.action
  resourceType := row.resourceType
  resourceID := row.resourceID
  outcome := auditOutcomeToProto row.outcome
  detail := row.detail

/-- The two statements, with the text of the error of one that fails. -/
structure Queries where
  listAuditLogs : ListAuditLogsParams → Except GoString (List AuditLogRow)
  countAuditLogs : CountAuditLogsParams → Except GoString Int

/-- `ListAuditLogs`; `none` is a service without a database. -/
def listAuditLogs (readTime : GoString → Int) (queries : Option Queries) (req : ListAuditLogsRequest) :
    Except ConnectError ListAuditLogsResponse :=
  match queries with
  | none => .error (newError .internal "audit storage unavailable")
  | some queries =>
    match queries.listAuditLogs (listParams req) with
    | .error cause => .error (wrapError .internal "failed to list audit logs" cause)
    | .ok rows =>
      match queries.countAuditLogs (countParams req) with
      | .error cause => .error (wrapError .internal "failed to count audit logs" cause)
      | .ok total => .ok ⟨rows.map (auditLogEntry readTime), total.toNat⟩

/-- The statements succeed on a table.  Which of the possible results of the list they return is open. -/
structure Reads (table : AuditTable) (queries : Queries) : Prop where
  list : ∀ arg, ∃ rows, queries.listAuditLogs arg = .ok rows ∧ table.IsList arg rows
  count : ∀ arg, queries.countAuditLogs arg = .ok (table.countAuditLogs arg)

/-! ## What a request selects -/

/-- The row passes the filter of a source and that of an outcome. -/
def passesFilters (source outcome : Int) (row : AuditLogRow) : Bool :=
  (decide (auditSourceToString source = []) || decide (row.source = auditSourceToString source)) &&
    (decide (auditOutcomeToString outcome = []) || decide (row.outcome = auditOutcomeToString outcome))

/-- The columns of the search. -/
def searchedColumns (row : AuditLogRow) : List GoString := [row.actor, row.action, row.resourceID, row.detail]

/-- The row matches a request. -/
def matchesRequest (query : GoString) (source outcome : Int) (row : AuditLogRow) : Bool :=
  (decide (query = []) || (searchedColumns row).any fun column => likeAround column (some query)) &&
    passesFilters source outcome row

theorem countWhere_countParams (req : ListAuditLogsRequest) (row : AuditLogRow) :
    countWhere (countParams req) row = matchesRequest req.query req.source req.outcome row := by
  simp only [countWhere, countParams, matchesRequest, passesFilters, searchedColumns, coalesce, Option.getD_some,
    List.any_cons, List.any_nil, Bool.or_false, Bool.or_assoc, Bool.and_assoc]
  rfl

/-- The two statements select the same rows. -/
theorem listWhere_listParams (req : ListAuditLogsRequest) (row : AuditLogRow) :
    listWhere (listParams req) row = matchesRequest req.query req.source req.outcome row :=
  countWhere_countParams req row

/-! ## What an entry shows -/

/-- The entry has the id and the instant of its row, its texts as they are, and the numbers that stand for its source
and its outcome.  A negative id, which SQLite never assigns, would be shown as `0`. -/
structure AuditLogEntry.Shows (readTime : GoString → Int) (row : AuditLogRow) (entry : AuditLogEntry) : Prop where
  id : (entry.id : Int) = max row.id 0
  createdAt : entry.createdAt = readTime row.createdAt
  actor : entry.actor = row.actor
  actorRole : entry.actorRole = row.actorRole
  action : entry.action = row.action
  resourceType : entry.resourceType = row.resourceType
  resourceID : entry.resourceID = row.resourceID
  detail : entry.detail = row.detail
  user : entry.source = 1 ↔ row.source = str "user"
  system : entry.source = 2 ↔ row.source = str "system"
  success : entry.outcome = 1 ↔ row.outcome = str "success"
  failure : entry.outcome = 2 ↔ row.outcome = str "failure"
  denied : entry.outcome = 3 ↔ row.outcome = str "denied"

/-- The number of a source is `n` if and only if its text is the one that `n` stands for. -/
theorem auditSourceToProto_eq_iff {n : Int} (hn : n = 1 ∨ n = 2) (src : GoString) :
    auditSourceToProto src = n ↔ src = auditSourceToString n := by
  constructor
  · rintro rfl
    unfold auditSourceToProto at hn ⊢
    split_ifs at hn ⊢ with huser hsystem
    · exact huser
    · exact hsystem
    · omega
  · rintro rfl
    rcases hn with rfl | rfl
    · rfl
    · rfl

/-- The number of an outcome is `n` if and only if its text is the one that `n` stands for. -/
theorem auditOutcomeToProto_eq_iff {n : Int} (hn : n = 1 ∨ n = 2 ∨ n = 3) (outcome : GoString) :
    auditOutcomeToProto outcome = n ↔ outcome = auditOutcomeToString n := by
  constructor
  · rintro rfl
    unfold auditOutcomeToProto at hn ⊢
    split_ifs at hn ⊢ with hsuccess hfailure hdenied
    · exact hsuccess
    · exact hfailure
    · exact hdenied
    · omega
  · rintro rfl
    rcases hn with rfl | rfl | rfl
    · rfl
    · rfl
    · rfl

theorem shows_auditLogEntry (readTime : GoString → Int) (row : AuditLogRow) :
    AuditLogEntry.Shows readTime row (auditLogEntry readTime row) where
  id := Int.toNat_eq_max row.id
  createdAt := rfl
  actor := rfl
  actorRole := rfl
  action := rfl
  resourceType := rfl
  resourceID := rfl
  detail := rfl
  user := auditSourceToProto_eq_iff (Or.inl rfl) row.source
  system := auditSourceToProto_eq_iff (Or.inr rfl) row.source
  success := auditOutcomeToProto_eq_iff (Or.inl rfl) row.outcome
  failure := auditOutcomeToProto_eq_iff (Or.inr (Or.inl rfl)) row.outcome
  denied := auditOutcomeToProto_eq_iff (Or.inr (Or.inr rfl)) row.outcome

/-! ## Pages -/

variable {readTime : GoString → Int} {table : AuditTable} {queries : Queries} {query : GoString} {source outcome : Int}

/-- A response has the rows of its page, and the number of all that match. -/
theorem listAuditLogs_of_reads (hreads : Reads table queries) {ordered : List AuditLogRow}
    (harranged : Arranged AuditLogRow.Before (table.rows.filter (matchesRequest query source outcome)) ordered)
    {limit : Nat} (hlow : 1 ≤ limit) (hhigh : limit ≤ 200) (offset : Nat) :
    listAuditLogs readTime (some queries) ⟨query, source, outcome, limit, offset⟩ =
      .ok ⟨((ordered.drop (min offset maxAuditOffset)).take limit).map (auditLogEntry readTime), ordered.length⟩ := by
  have hlist : listWhere (listParams ⟨query, source, outcome, limit, offset⟩) = matchesRequest query source outcome :=
    funext (listWhere_listParams _)
  have hcount :
      countWhere (countParams ⟨query, source, outcome, limit, offset⟩) = matchesRequest query source outcome :=
    funext (countWhere_countParams _)
  have hlimit : auditLimit limit = limit := by
    unfold auditLimit maxAuditLimit
    rw [if_neg (by omega), if_neg (by omega)]
  obtain ⟨rows, hrows, ordered', harranged', hpage⟩ := hreads.list (listParams ⟨query, source, outcome, limit, offset⟩)
  rw [hlist] at harranged'
  have hsame : ordered' = ordered := AuditTable.arranged_unique harranged' harranged
  have hpage : rows = (ordered.drop (min offset maxAuditOffset)).take limit := by
    rw [hpage, hsame]
    show limited (auditLimit limit) _ ordered = _
    unfold limited
    rw [hlimit, if_neg (by omega)]
    rfl
  have htotal : table.countAuditLogs (countParams ⟨query, source, outcome, limit, offset⟩) = ordered.length := by
    unfold AuditTable.countAuditLogs
    rw [hcount, harranged.1.length_eq]
  simp only [listAuditLogs, hrows, hreads.count, htotal, hpage, Int.toNat_natCast]

/-- Listing page after page of a table that does not change shows every matching row once, the newest first, until an
empty page; and the total of each page is the number of matching rows. -/
theorem pages_are_all {calls : Nat → Queries} {size : Nat} (hreads : ∀ k, Reads table (calls k)) (hlow : 1 ≤ size)
    (hhigh : size ≤ 200) (hcap : table.rows.length < maxAuditOffset) :
    ∃ (ordered : List AuditLogRow) (pages : Nat → List AuditLogEntry) (n : Nat),
      ordered.Perm (table.rows.filter (matchesRequest query source outcome)) ∧
      ordered.Pairwise AuditLogRow.Before ∧
      (∀ k, listAuditLogs readTime (some (calls k)) ⟨query, source, outcome, size, k * size⟩ =
        .ok ⟨pages k, ordered.length⟩) ∧
      pages n = [] ∧ (∀ k < n, pages k ≠ []) ∧
      List.Forall₂ (AuditLogEntry.Shows readTime) ordered ((List.range n).flatMap pages) := by
  have harranged := AuditTable.arranged_mergeSort (table.rows.filter (matchesRequest query source outcome))
  generalize (table.rows.filter (matchesRequest query source outcome)).mergeSort _ = ordered at harranged
  have hlength : ordered.length < maxAuditOffset := by
    rw [harranged.1.length_eq]
    exact Nat.lt_of_le_of_lt (List.length_filter_le _ _) hcap
  obtain ⟨n, hempty, hwithin, hall⟩ := exists_pages ordered hlow
  -- the cap on the offset is after the end of the list
  have hcapped (k : Nat) : (ordered.drop (min (k * size) maxAuditOffset)).take size = page ordered size k := by
    unfold page
    rcases Nat.le_total (k * size) maxAuditOffset with hle | hge
    · rw [Nat.min_eq_left hle]
    · rw [Nat.min_eq_right hge, List.drop_of_length_le hlength.le, List.drop_of_length_le (by omega)]
  refine ⟨ordered, fun k => (page ordered size k).map (auditLogEntry readTime), n, harranged.1,
    AuditTable.pairwise_before harranged, fun k => ?_, ?_, fun k hk hnil => ?_, ?_⟩
  · rw [listAuditLogs_of_reads (hreads k) harranged hlow hhigh, hcapped]
  · show (page ordered size n).map (auditLogEntry readTime) = []
    rw [hempty, List.map_nil]
  · have hpast := (page_eq_nil_iff hlow).mp (List.map_eq_nil_iff.mp hnil)
    have hbefore := hwithin k hk
    omega
  · rw [← List.map_flatMap, hall, List.forall₂_map_right_iff]
    exact List.forall₂_same.mpr fun row _ => shows_auditLogEntry readTime row

/-- The statements on a table, each list put in order by a stable sort. -/
def sortedQueries (table : AuditTable) : Queries where
  listAuditLogs arg :=
    .ok (limited arg.limit arg.offset
      ((table.rows.filter (listWhere arg)).mergeSort fun first second => decide (¬ second.Before first)))
  countAuditLogs arg := .ok (table.countAuditLogs arg)

theorem reads_sortedQueries (table : AuditTable) : Reads table (sortedQueries table) where
  list _ := ⟨_, rfl, _, AuditTable.arranged_mergeSort _, rfl⟩
  count _ := rfl

/-- Three entries, two of them of one second. -/
def threeEntries : AuditTable where
  rows :=
    [⟨1, str "2026-07-05 17:00:00", str "admin", str "admin", str "user", str "image.delete", str "image", str "i1",
        str "success", str "image deleted"⟩,
      ⟨2, str "2026-07-05 17:00:00", str "system", [], str "system", str "container.upgrade", str "container", str "c1",
        str "success", []⟩,
      ⟨3, str "2026-07-05 17:00:01", str "bob", str "viewer", str "user", str "network.delete", str "network", str "n1",
        str "denied", str "admin role required"⟩]
  nodup := by decide

theorem pages_are_all_threeEntries :
    ∃ (ordered : List AuditLogRow) (pages : Nat → List AuditLogEntry) (n : Nat),
      ordered.Perm (threeEntries.rows.filter (matchesRequest (str "delete") 1 0)) ∧
      ordered.Pairwise AuditLogRow.Before ∧
      (∀ k, listAuditLogs (fun _ => 0) (some (sortedQueries threeEntries)) ⟨str "delete", 1, 0, 2, k * 2⟩ =
        .ok ⟨pages k, ordered.length⟩) ∧
      pages n = [] ∧ (∀ k < n, pages k ≠ []) ∧
      List.Forall₂ (AuditLogEntry.Shows fun _ => 0) ordered ((List.range n).flatMap pages) :=
  pages_are_all (fun _ => reads_sortedQueries threeEntries) (by decide) (by decide) (by decide)

/-! ## Search -/

/-- The text contains the query, ASCII letters compared without case. -/
def containsText (text query : GoString) : Bool :=
  decide ((runes query).map Char.toLower <:+: (runes text).map Char.toLower)

/-- The row passes the filters, and one of the searched columns contains the query. -/
def containsQuery (query : GoString) (source outcome : Int) (row : AuditLogRow) : Bool :=
  (searchedColumns row).any (fun column => containsText column query) && passesFilters source outcome row

/-- The rows that a request counts. -/
def countedRows (table : AuditTable) (req : ListAuditLogsRequest) : List AuditLogRow :=
  table.rows.filter (countWhere (countParams req))

theorem total_of_reads (hreads : Reads table queries) {req : ListAuditLogsRequest} {resp : ListAuditLogsResponse}
    (hresp : listAuditLogs readTime (some queries) req = .ok resp) : resp.total = (countedRows table req).length := by
  obtain ⟨rows, hrows, -⟩ := hreads.list (listParams req)
  simp only [listAuditLogs, hrows, hreads.count, Except.ok.injEq] at hresp
  rw [← hresp]
  exact Int.toNat_natCast _

/-- The entries of a response are those of rows of the table. -/
theorem entries_of_reads (hreads : Reads table queries) {req : ListAuditLogsRequest} {resp : ListAuditLogsResponse}
    (hresp : listAuditLogs readTime (some queries) req = .ok resp) :
    ∃ rows : List AuditLogRow, (∀ row ∈ rows, row ∈ table.rows) ∧ resp.entries = rows.map (auditLogEntry readTime) := by
  obtain ⟨rows, hrows, hlist⟩ := hreads.list (listParams req)
  simp only [listAuditLogs, hrows, hreads.count, Except.ok.injEq] at hresp
  rw [← hresp]
  exact ⟨rows, fun _ hrow => hlist.mem hrow, rfl⟩

theorem likeAround_eq (column query : GoString) :
    likeAround column (some query) =
      Token.matchesText Char.toLower (.any :: ((runes query).map likeToken ++ [.any])) (runes column) := by
  have hpattern : runes (str "%" ++ query ++ str "%") = '%' :: (runes query ++ ['%']) := by
    show runes ((0x25 :: query) ++ [0x25]) = _
    rw [runes_append_ascii (by decide), runes_cons_ascii (by decide)]
    rfl
  unfold likeAround like coalesce
  rw [Option.getD_some, hpattern, List.map_cons, List.map_append]
  rfl

/-- Without a wildcard the pattern stands for itself. -/
theorem likeAround_of_plain {query : GoString} (hany : '%' ∉ runes query) (hone : '_' ∉ runes query)
    (column : GoString) : likeAround column (some query) = containsText column query := by
  have hletters : (runes query).map likeToken = (runes query).map Token.letter := by
    refine List.map_congr_left fun c hc => ?_
    unfold likeToken
    have hany : c ≠ '%' := fun heq => hany (heq ▸ hc)
    have hone : c ≠ '_' := fun heq => hone (heq ▸ hc)
    rw [if_neg hany, if_neg hone]
  rw [likeAround_eq, hletters, Bool.eq_iff_iff, Token.matchesText_contains_iff, containsText, decide_eq_true_eq]

/-- The query with a letter in the place of each wildcard. -/
def filledQuery (query : GoString) : GoString := (((runes query).map likeToken).map (Token.fill 'x')).flatMap utf8

theorem likeAround_filledQuery (query : GoString) : likeAround (filledQuery query) (some query) = true := by
  rw [likeAround_eq, filledQuery, runes_flatMap]
  exact Token.matchesText_fill 'x' _

/-- A query with a wildcard is not in it. -/
theorem containsText_filledQuery {query : GoString} (hwild : '%' ∈ runes query ∨ '_' ∈ runes query) :
    containsText (filledQuery query) query = false := by
  refine decide_eq_false fun hinfix => ?_
  rw [filledQuery, runes_flatMap] at hinfix
  have hsame := hinfix.eq_of_length (by simp only [List.length_map])
  rw [List.map_map, List.map_map] at hsame
  have hletters := List.map_inj_left.mp hsame
  rcases hwild with hany | hone
  · exact absurd (hletters '%' hany) (by decide)
  · exact absurd (hletters '_' hone) (by decide)

/-- A row whose actor is the query with another letter in the place of each wildcard. -/
def filledRow (query : GoString) : AuditLogRow := ⟨1, [], filledQuery query, [], [], [], [], [], [], []⟩

/-- A table of one row. -/
def onlyRow (row : AuditLogRow) : AuditTable := ⟨[row], List.nodup_singleton _⟩

/-- The total of a response is the number of the rows counted.  They are the rows that contain the query, whatever is
in the table, exactly if there is no wildcard in the query. -/
theorem countsSubstring_iff {query : GoString} (hquery : query ≠ []) :
    (∀ (table : AuditTable) (queries : Queries) (readTime : GoString → Int) (req : ListAuditLogsRequest)
        (resp : ListAuditLogsResponse), Reads table queries → listAuditLogs readTime (some queries) req = .ok resp →
          resp.total = (countedRows table req).length) ∧
      ((∀ (table : AuditTable) (source outcome : Int) (limit offset : Nat),
          countedRows table ⟨query, source, outcome, limit, offset⟩ =
            table.rows.filter (containsQuery query source outcome)) ↔
        '%' ∉ runes query ∧ '_' ∉ runes query) := by
  refine ⟨fun _ _ _ _ _ hreads hresp => total_of_reads hreads hresp, ?_⟩
  constructor
  · intro hcounts
    rw [← not_or]
    intro hwild
    have hrow : filledRow query ∈ countedRows (onlyRow (filledRow query)) ⟨query, 0, 0, 0, 0⟩ := by
      refine List.mem_filter.mpr ⟨List.mem_cons_self, ?_⟩
      rw [countWhere_countParams]
      simp only [matchesRequest, searchedColumns, filledRow, List.any_cons, likeAround_filledQuery, Bool.true_or,
        Bool.or_true, Bool.true_and]
      rfl
    rw [hcounts] at hrow
    have hcontains := (List.mem_filter.mp hrow).2
    have hempty : containsText [] query = false := by
      refine decide_eq_false fun hinfix => runes_ne_nil hquery ?_
      exact List.map_eq_nil_iff.mp (List.infix_nil.mp hinfix)
    simp only [containsQuery, searchedColumns, filledRow, List.any_cons, List.any_nil, containsText_filledQuery hwild,
      hempty, Bool.or_false, Bool.false_and, Bool.false_eq_true] at hcontains
  · rintro ⟨hany, hone⟩ table source outcome limit offset
    refine List.filter_congr fun row _ => ?_
    rw [countWhere_countParams]
    simp only [matchesRequest, containsQuery, hquery, decide_false, Bool.false_or, likeAround_of_plain hany hone]

/-- The start of a container. -/
def startRow : AuditLogRow :=
  ⟨1, str "2026-07-05 17:00:00", str "admin", str "admin", str "user", str "container.start", str "container",
    str "c1", str "success", str "previous state: exited"⟩

/-- A search for `container_start` also counts `container.start`. -/
theorem underscoreIsWildcard :
    countedRows (onlyRow startRow) ⟨str "container_start", 0, 0, 50, 0⟩ ≠
      (onlyRow startRow).rows.filter (containsQuery (str "container_start") 0 0) := by
  decide +kernel

/-- A search for a name without wildcards. -/
theorem countsSubstring_image :
    countedRows threeEntries ⟨str "Image", 0, 0, 50, 0⟩ =
      threeEntries.rows.filter (containsQuery (str "Image") 0 0) :=
  (countsSubstring_iff (by decide)).2.mpr (by decide +kernel) threeEntries 0 0 50 0

end Admin
end Dmanager
