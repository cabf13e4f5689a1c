import HcData.Basic

/-!
# Spent and unspent totals of an address

`RetrieveAddressSpentUnspent` opens a read-only transaction, reads the spent
and unspent counts and values of an address from a grouped query, then the
number of distinct spending transactions, and commits.  Its results are named,
so every `return` hands back whatever they hold at that point.

Each scanned row is a group of the address's rows: a funding group with no
matching transaction holds the unspent outputs, a spending group with one the
spent outputs; a spending group with none is skipped
(`retrieveAddressSpentUnspent_rows`).  A row that fails to scan ends the loop
with `err` set, but `err` is then assigned by the merged-count query and by the
commit, so the failure is never reported: the call returns as if the result
set had ended before that row (`retrieveAddressSpentUnspent_scan_error`).
-/

namespace HcData.Pg

/-- One row of `SelectAddressSpentUnspentCountAndValue`. -/
structure SpentUnspentRow where
  count : Int
  totalValue : Int
  isFunding : Bool
  noMatchingTx : Bool
  deriving DecidableEq, Repr

/-- The named results of `RetrieveAddressSpentUnspent`. -/
structure SpentUnspent where
  numSpent : Int
  numUnspent : Int
  amtSpent : Int
  amtUnspent : Int
  numMergedSpent : Int
  err : Option String
  deriving DecidableEq, Repr

/-- The zero values the named results start from. -/
def SpentUnspent.zero : SpentUnspent := ⟨0, 0, 0, 0, 0, none⟩

/-- What `QueryContext` gave: the rows, each scanned or failing to scan,
`sql.ErrNoRows`, or another error. -/
inductive RowsAnswer (α : Type) where
  | rows (rs : List (Except String α))
  | noRows
  | error (e : String)

/-- What `QueryRowContext(...).Scan(&nms)` gave for the `sql.NullInt64`: its
value (`none` for NULL), `sql.ErrNoRows`, or another error. -/
inductive NullIntAnswer where
  | value (v : Option Int)
  | noRows
  | error (e : String)

/-- The body of the rows loop for a row that scanned. -/
def scanSpentUnspent (r : SpentUnspent) (row : SpentUnspentRow) : SpentUnspent :=
  let r := if row.isFunding && row.noMatchingTx then
      { r with numUnspent := row.count, amtUnspent := row.totalValue } else r
  if !row.isFunding then
    if row.noMatchingTx then r
    else { r with numSpent := row.count, amtSpent := row.totalValue }
  else r

/-- `for rows.Next()`, which breaks with `err` set at the first row that fails
to scan. -/
def spentUnspentLoop : List (Except String SpentUnspentRow) → SpentUnspent → SpentUnspent
  | [], r => r
  | .error e :: _, r => { r with err := some e }
  | .ok row :: rest, r => spentUnspentLoop rest (scanSpentUnspent r row)

/-- `RetrieveAddressSpentUnspent`, with the answers of `BeginTx`, of the totals
query, of the merged-count query and of `Commit`.  The totals query runs on
`db`, outside the transaction; `Rollback` only logs. -/
def retrieveAddressSpentUnspent (beginErr : Option String) (totals : RowsAnswer SpentUnspentRow)
    (merged : NullIntAnswer) (commit : Option String) : SpentUnspent :=
  match beginErr with
  | some e =>
    { SpentUnspent.zero with err := some ("unable to begin database transaction: " ++ e) }
  | none =>
    match totals with
    | .error e =>
      { SpentUnspent.zero with err := some ("failed to query spent and unspent amounts: " ++ e) }
    | .noRows => { SpentUnspent.zero with err := some errNoRows }
    | .rows rs =>
      let r := spentUnspentLoop rs SpentUnspent.zero
      match merged with
      | .error e => { r with err := some ("failed to query merged spent count: " ++ e) }
      | .noRows => { r with numMergedSpent := 0, err := commit }
      | .value v => { r with numMergedSpent := v.getD 0, err := commit }

/-! ## The rows loop -/

/-- A funding group with no matching transaction: the unspent outputs. -/
def isUnspentGroup (row : SpentUnspentRow) : Bool := row.isFunding && row.noMatchingTx

/-- A spending group with a matching transaction: the spent outputs. -/
def isSpentGroup (row : SpentUnspentRow) : Bool := !row.isFunding && !row.noMatchingTx

theorem spentUnspentLoop_ok (rs : List SpentUnspentRow) (r : SpentUnspent) :
    spentUnspentLoop (rs.map .ok) r = rs.foldl scanSpentUnspent r := by
  induction rs generalizing r with
  | nil => rfl
  | cons row rest ih => exact ih _

/-- Over rows that all scanned, the unspent totals are those of the last
unspent group and the spent totals those of the last spent group; the rest of
the results are kept. -/
theorem foldl_scanSpentUnspent (rs : List SpentUnspentRow) (r : SpentUnspent) :
    rs.foldl scanSpentUnspent r =
      { r with
        numSpent := (((rs.filter isSpentGroup).getLast?).map SpentUnspentRow.count).getD r.numSpent
        numUnspent := (((rs.filter isUnspentGroup).getLast?).map SpentUnspentRow.count).getD r.numUnspent
        amtSpent := (((rs.filter isSpentGroup).getLast?).map SpentUnspentRow.totalValue).getD r.amtSpent
        amtUnspent :=
          (((rs.filter isUnspentGroup).getLast?).map SpentUnspentRow.totalValue).getD r.amtUnspent } := by
  induction rs using List.reverseRecOn with
  | nil => rfl
  | append_singleton xs row ih =>
    rw [List.foldl_append, ih]
    rcases row with ⟨c, v, _ | _, _ | _⟩ <;>
      simp [scanSpentUnspent, isSpentGroup, isUnspentGroup]

/-- When every row scans and the queries and the commit succeed, the call
returns the count and value of the last unspent group and of the last spent
group (zero when there is none), the merged spent count (zero for NULL) and the
commit's error; a spending group with no matching transaction counts nowhere. -/
theorem retrieveAddressSpentUnspent_rows (rs : List SpentUnspentRow) (v : Option Int)
    (commit : Option String) :
    retrieveAddressSpentUnspent none (.rows (rs.map .ok)) (.value v) commit =
      ⟨(((rs.filter isSpentGroup).getLast?).map SpentUnspentRow.count).getD 0,
        (((rs.filter isUnspentGroup).getLast?).map SpentUnspentRow.count).getD 0,
        (((rs.filter isSpentGroup).getLast?).map SpentUnspentRow.totalValue).getD 0,
        (((rs.filter isUnspentGroup).getLast?).map SpentUnspentRow.totalValue).getD 0,
        v.getD 0, commit⟩ := by
  simp only [retrieveAddressSpentUnspent, spentUnspentLoop_ok, foldl_scanSpentUnspent]
  rfl

/-- A row that fails to scan ends the loop, and its error is overwritten:
the call returns what it returns when the result set ends before that row. -/
theorem retrieveAddressSpentUnspent_scan_error (beginErr : Option String)
    (pre : List SpentUnspentRow) (e : String) (rest : List (Except String SpentUnspentRow))
    (merged : NullIntAnswer) (commit : Option String) :
    retrieveAddressSpentUnspent beginErr (.rows (pre.map .ok ++ .error e :: rest)) merged commit =
      retrieveAddressSpentUnspent beginErr (.rows (pre.map .ok)) merged commit := by
  have hloop : spentUnspentLoop (pre.map .ok ++ .error e :: rest) SpentUnspent.zero =
      { spentUnspentLoop (pre.map .ok) SpentUnspent.zero with err := some e } := by
    simp only [spentUnspentLoop_ok]
    generalize SpentUnspent.zero = r
    induction pre generalizing r with
    | nil => rfl
    | cons row pre ih => exact ih _
  cases beginErr <;> cases merged <;> simp only [retrieveAddressSpentUnspent, hloop]

end HcData.Pg
