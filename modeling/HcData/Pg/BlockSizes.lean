import Mathlib.Algebra.Order.Ring.Int
import Mathlib.Data.List.Basic
import HcData.Basic

/-!
# The block size chart

`retrieveBlockTicketsPoolValue`, despite its name, builds the block size chart:
for each row of `SelectBlocksBlockSize` it appends the time, the block size, the
running total of the sizes (`chainsize`, a `uint64`), the count, the height, and
as `ValueF` the gap in seconds between the row's time and the previous row's.
`oldTimestamp` starts at 0, so the first gap is measured from the Unix epoch and
is the first row's own time (`retrieveBlockTicketsPoolValue_rows`).

`ValueF` is `float64(val)`; the model keeps the integer, which the conversion
holds exactly below 2^53 seconds.
-/

namespace HcData.Pg

/-- A row of `SelectBlocksBlockSize`, with the time in Unix seconds. -/
structure BlockSizeRow where
  time : Int
  blockSize : Nat
  blocksCount : Nat
  blockHeight : Nat
  deriving DecidableEq, Repr

/-- The series of `dbtypes.ChartsData` that the block size chart fills. -/
structure BlockSizeCharts where
  time : List Int
  size : List Nat
  chainSize : List Nat
  count : List Nat
  valueF : List Int
  value : List Nat
  deriving DecidableEq, Repr

/-- `new(dbtypes.ChartsData)`. -/
def BlockSizeCharts.empty : BlockSizeCharts := ⟨[], [], [], [], [], []⟩

/-- `val := oldTimestamp - t; if val < 0 { val = val * -1 }`, in `int64`. -/
def timeGap (oldTimestamp t : Int) : Int :=
  let val := wrapInt64 (oldTimestamp - t)
  if val < 0 then wrapInt64 (val * -1) else val

/-- The rows loop: a row that fails to scan ends the call with its error. -/
def blockSizesLoop : List (Except String BlockSizeRow) → Int → Nat → BlockSizeCharts →
    Except String BlockSizeCharts
  | [], _, _, items => .ok items
  | .error e :: _, _, _, _ => .error e
  | .ok row :: rows, oldTimestamp, chainsize, items =>
    let chainsize := (chainsize + row.blockSize) % 2 ^ 64
    blockSizesLoop rows row.time chainsize
      ⟨items.time ++ [row.time], items.size ++ [row.blockSize], items.chainSize ++ [chainsize],
        items.count ++ [row.blocksCount], items.valueF ++ [timeGap oldTimestamp row.time],
        items.value ++ [row.blockHeight]⟩

/-- `retrieveBlockTicketsPoolValue`, with the answer of the query. -/
def retrieveBlockTicketsPoolValue (query : Except String (List (Except String BlockSizeRow))) :
    Except String BlockSizeCharts :=
  match query with
  | .error e => .error e
  | .ok rows => blockSizesLoop rows 0 0 BlockSizeCharts.empty

/-- The loop from a running total `total` (kept as `total % 2^64`) and a
previous time `oldTimestamp` appends the rows' series: the running totals, each
taken mod 2^64, and the gaps from the previous time. -/
theorem blockSizesLoop_ok (rows : List BlockSizeRow) :
    ∀ (oldTimestamp : Int) (total : Nat) (items : BlockSizeCharts),
      blockSizesLoop (rows.map .ok) oldTimestamp (total % 2 ^ 64) items =
        .ok ⟨items.time ++ rows.map BlockSizeRow.time, items.size ++ rows.map BlockSizeRow.blockSize,
          items.chainSize ++ ((rows.map BlockSizeRow.blockSize).scanl (· + ·) total).tail.map (· % 2 ^ 64),
          items.count ++ rows.map BlockSizeRow.blocksCount,
          items.valueF ++ List.zipWith timeGap (oldTimestamp :: rows.map BlockSizeRow.time)
            (rows.map BlockSizeRow.time),
          items.value ++ rows.map BlockSizeRow.blockHeight⟩ := by
  induction rows with
  | nil => intro _ _ items; simp [blockSizesLoop]
  | cons row rows ih =>
    intro oldTimestamp total items
    have hmod : (total % 2 ^ 64 + row.blockSize) % 2 ^ 64 = (total + row.blockSize) % 2 ^ 64 :=
      Nat.mod_add_mod _ _ _
    have hscan : ∀ (b : Nat) (l : List Nat), l.scanl (· + ·) b = b :: (l.scanl (· + ·) b).tail := by
      intro b l; cases l <;> rfl
    simp only [List.map_cons, blockSizesLoop, hmod, ih, List.scanl_cons, List.singleton_append,
      List.tail_cons]
    rw [hscan (total + row.blockSize)]
    simp

/-- When every row scans, the chart has one point per row: its time, size,
count and height, the running total of the sizes modulo 2^64 (`chainsize` is a
`uint64`), and the gap to the previous row's time, which for the first row is
the gap from 0, its own Unix time. -/
theorem retrieveBlockTicketsPoolValue_rows (rows : List BlockSizeRow) :
    retrieveBlockTicketsPoolValue (.ok (rows.map .ok)) =
      .ok ⟨rows.map BlockSizeRow.time, rows.map BlockSizeRow.blockSize,
        ((rows.map BlockSizeRow.blockSize).scanl (· + ·) 0).tail.map (· % 2 ^ 64),
        rows.map BlockSizeRow.blocksCount,
        List.zipWith timeGap (0 :: rows.map BlockSizeRow.time) (rows.map BlockSizeRow.time),
        rows.map BlockSizeRow.blockHeight⟩ := by
  simpa [BlockSizeCharts.empty] using blockSizesLoop_ok rows 0 0 BlockSizeCharts.empty

end HcData.Pg
