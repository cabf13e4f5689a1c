import Mathlib.Algebra.Order.Ring.Int
import Mathlib.Algebra.Order.Ring.Nat
import HcData.Insight.AddressTxns

/-!
# Block summaries of a day

`getBlockSummaryByTime` answers the Insight `blocks` query for one day (today
when the request names none).  It reads all the day's blocks with
`RetrieveBlockSummaryByTimeRange`, then, for a positive limit, keeps the first
`limit` of them, sets `More` exactly when the day has more, and `MoreTs` to the
earliest time among the blocks it keeps, or the day's last second; for any
other limit it keeps them all, with `More` unset and `MoreTs` the day's first
second (`getBlockSummaryByTime_page`).

`RetrieveBlockSummaryByTimeRange` logs a row that fails to scan and still
returns it as a block, with whatever fields its scan wrote; after the query
succeeds it reports no error.
-/

namespace HcData.Insight

/-- `dbtypes.BlockDataBasic`, with the block time in Unix seconds. -/
structure BlockDataBasic where
  hash : String
  height : Int
  size : Int
  time : Int
  numTx : Int
  deriving DecidableEq, Repr

/-- A row of the time range query: scanned, or failed with the block its scan
had written so far and the error. -/
inductive BlockScan where
  | scanned (b : BlockDataBasic)
  | failed (partialBlock : BlockDataBasic) (e : String)
  deriving DecidableEq, Repr

/-- The block a row's scan leaves in `dbBlock`. -/
def BlockScan.block : BlockScan → BlockDataBasic
  | .scanned b => b
  | .failed b _ => b

/-- The rows loop of `RetrieveBlockSummaryByTimeRange`: a failed scan is
logged and its block appended anyway. -/
def scanBlockRows : List BlockScan → List BlockDataBasic → List BlockDataBasic
  | [], blocks => blocks
  | r :: rs, blocks => scanBlockRows rs (blocks ++ [r.block])

/-- `RetrieveBlockSummaryByTimeRange`, with the answers of `Prepare` and of the
query.  `limit` only chooses the statement, whose rows `query` is;
`rows.Err()` is only logged. -/
def retrieveBlockSummaryByTimeRange (prepareErr : Option String)
    (query : Except String (List BlockScan)) : Except String (List BlockDataBasic) :=
  match prepareErr with
  | some e => .error e
  | none =>
    match query with
    | .error e => .error e
    | .ok rows => .ok (scanBlockRows rows [])

/-- `apitypes.InsightBlocksSummaryResult`'s `Pagination`. -/
structure BlocksPagination where
  next : String
  prev : String
  currentTs : Int
  current : String
  isToday : Bool
  more : Bool
  moreTs : Int
  deriving DecidableEq, Repr

/-- `apitypes.InsightBlocksSummaryResult`. -/
structure InsightBlocksSummaryResult where
  length : Nat
  blocks : List BlockDataBasic
  pagination : BlocksPagination
  deriving DecidableEq, Repr

/-- What `getBlockSummaryByTime` asks of its context: today's date, the time
parser and date format (on Unix seconds, in UTC), and the block summaries of a
time range with `dbtypes.IsTimeoutErr`. -/
structure BlockSummarySource where
  today : String
  parseTime : String → Except String Int
  formatDate : Int → String
  blockSummaryTimeRange : Int → Int → Except String (List BlockDataBasic)
  isTimeoutErr : String → Bool

/-- The loop over the day's blocks for a positive limit: it breaks at index
`limit` with `More` set, and lowers `MoreTs` to each earlier block time. -/
def paginateBlocks (limit : Int) :
    List BlockDataBasic → Nat → List BlockDataBasic → BlocksPagination →
      List BlockDataBasic × BlocksPagination
  | [], _, out, p => (out, p)
  | block :: rest, i, out, p =>
    if limit ≤ i then (out, { p with more := true })
    else
      paginateBlocks limit rest (i + 1) (out ++ [block])
        (if block.time < p.moreTs then { p with moreTs := block.time } else p)

/-- `getBlockSummaryByTime`, with the date and the limit from the request's
context. -/
def getBlockSummaryByTime (src : BlockSummarySource) (blockDate : String) (limit : Int) :
    TxnsResponse InsightBlocksSummaryResult :=
  let blockDate := if blockDate = "" then src.today else blockDate
  let badTime := fun (e : String) =>
    TxnsResponse.insightError ("Unable to retrieve block summary using time " ++ blockDate ++ ": " ++ e)
  match src.parseTime (blockDate ++ " 00:00:00") with
  | .error e => badTime e
  | .ok minTime =>
    match src.parseTime (blockDate ++ " 23:59:59") with
    | .error e => badTime e
    | .ok maxTime =>
      let p : BlocksPagination :=
        ⟨src.formatDate (minTime + 86400), src.formatDate (minTime - 86400), maxTime, blockDate,
          decide (src.today = blockDate), false, maxTime⟩
      match src.blockSummaryTimeRange minTime maxTime with
      | .error e =>
        if src.isTimeoutErr e then .httpError "Database timeout." 503
        else .insightError ("Unable to retrieve block summaries: " ++ e)
      | .ok blockSummary =>
        let page := if 0 < limit then paginateBlocks limit blockSummary 0 [] p
          else (blockSummary, { p with more := false, moreTs := minTime })
        .json ⟨page.1.length, page.1, page.2⟩

/-! ## Paging -/

/-- The earliest of `m` and the times of `blocks`. -/
def earliestTime (m : Int) (blocks : List BlockDataBasic) : Int :=
  blocks.foldl (fun m b => min m b.time) m

theorem paginateBlocks_eq (limit : Int) :
    ∀ (blocks : List BlockDataBasic) (i : Nat) (out : List BlockDataBasic) (p : BlocksPagination),
      paginateBlocks limit blocks i out p =
        (out ++ blocks.take (limit - i).toNat,
          { p with
            more := p.more || decide ((limit - i).toNat < blocks.length)
            moreTs := earliestTime p.moreTs (blocks.take (limit - i).toNat) })
  | [], _, out, p => by simp [paginateBlocks, earliestTime]
  | block :: rest, i, out, p => by
    by_cases hi : limit ≤ i
    · have h0 : (limit - i).toNat = 0 := by omega
      simp [paginateBlocks, hi, h0, earliestTime]
    · have hk : (limit - i).toNat = (limit - ↑(i + 1)).toNat + 1 := by omega
      have hmin : min p.moreTs block.time = if block.time < p.moreTs then block.time else p.moreTs := by
        rw [min_def]; split_ifs <;> omega
      rw [paginateBlocks, if_neg hi, paginateBlocks_eq limit rest (i + 1), hk]
      by_cases ht : block.time < p.moreTs <;>
        simp [ht, earliestTime, hmin]

/-- Every JSON answer of `getBlockSummaryByTime` holds the day's blocks as the
time range query gave them: for a positive limit the first `limit` of them,
with `More` set exactly when the day has more and `MoreTs` the earliest time
among those kept, or the day's last second; for any other limit all of them,
with `More` unset and `MoreTs` the day's first second.  `Length` counts the
blocks kept. -/
theorem getBlockSummaryByTime_page (src : BlockSummarySource) (blockDate : String) (limit : Int)
    {r : InsightBlocksSummaryResult} (h : getBlockSummaryByTime src blockDate limit = .json r) :
    ∃ minTime maxTime blockSummary,
      src.parseTime ((if blockDate = "" then src.today else blockDate) ++ " 00:00:00") = .ok minTime ∧
      src.parseTime ((if blockDate = "" then src.today else blockDate) ++ " 23:59:59") = .ok maxTime ∧
      src.blockSummaryTimeRange minTime maxTime = .ok blockSummary ∧
      r.pagination.currentTs = maxTime ∧
      r.blocks = (if 0 < limit then blockSummary.take limit.toNat else blockSummary) ∧
      r.length = r.blocks.length ∧
      r.pagination.more = decide (0 < limit ∧ limit.toNat < blockSummary.length) ∧
      r.pagination.moreTs = (if 0 < limit then earliestTime maxTime r.blocks else minTime) := by
  simp only [getBlockSummaryByTime] at h
  split at h; · cases h
  rename_i minTime hmin
  split at h; · cases h
  rename_i maxTime hmax
  split at h
  · split at h <;> cases h
  rename_i blockSummary hq
  refine ⟨minTime, maxTime, blockSummary, hmin, hmax, hq, ?_⟩
  cases h
  by_cases hl : 0 < limit
  · simp [hl, paginateBlocks_eq]
  · simp [hl]

/-- Three blocks of 2 January 2019, the latest first. -/
def dayBlocks : List BlockDataBasic :=
  [⟨"h3", 3, 300, 1546400000, 3⟩, ⟨"h2", 2, 200, 1546390000, 2⟩, ⟨"h1", 1, 100, 1546395000, 1⟩]

/-- A context on 2 January 2019 whose time range query gives `dayBlocks`. -/
def daySource : BlockSummarySource :=
  ⟨"2019-01-02",
    fun s => if s = "2019-01-02 00:00:00" then .ok 1546387200
      else if s = "2019-01-02 23:59:59" then .ok 1546473599 else .error "parsing time",
    fun _ => "", fun _ _ => .ok dayBlocks, fun _ => false⟩

/-- The first page of two blocks of today, with more to come. -/
def dayPage : InsightBlocksSummaryResult :=
  ⟨2, dayBlocks.take 2, ⟨"", "", 1546473599, "2019-01-02", true, true, 1546390000⟩⟩

theorem getBlockSummaryByTime_page_today :
    ∃ minTime maxTime blockSummary,
      daySource.parseTime ((if "" = "" then daySource.today else "") ++ " 00:00:00") = .ok minTime ∧
      daySource.parseTime ((if "" = "" then daySource.today else "") ++ " 23:59:59") = .ok maxTime ∧
      daySource.blockSummaryTimeRange minTime maxTime = .ok blockSummary ∧
      dayPage.pagination.currentTs = maxTime ∧
      dayPage.blocks = (if (0 : Int) < 2 then blockSummary.take (2 : Int).toNat else blockSummary) ∧
      dayPage.length = dayPage.blocks.length ∧
      dayPage.pagination.more = decide ((0 : Int) < 2 ∧ (2 : Int).toNat < blockSummary.length) ∧
      dayPage.pagination.moreTs =
        (if (0 : Int) < 2 then earliestTime maxTime dayPage.blocks else minTime) :=
  getBlockSummaryByTime_page daySource "" 2 rfl

end HcData.Insight
