import HcData.Pg.Transactions

/-!
# Duplicate transactions before the unique index

Rows inserted with `checked = false` can repeat a `(tx_hash, block_hash)` key.
Before `uix_tx_hashes` is created, `DeleteDuplicateTxns` runs
`DeleteTxDuplicateRows`, which numbers the rows of each key by id
(`ROW_NUMBER() OVER (partition BY tx_hash, block_hash ORDER BY id)`) and deletes
every row whose number is above 1.

Over a table whose ids are unique, as the primary key keeps them, the pass
deletes exactly the rows that are not the lowest-id row of their key and
leaves each key once, on its lowest-id row; so `uix_tx_hashes` can be created
afterwards, and `uix_tx_block_in` too when `(block_hash, block_index, tree)`
determines the transaction (`deleteTxDuplicateRows_spec`).  `DeleteDuplicateTxns`
runs the pass exactly when the index is missing or not unique.
-/

namespace HcData.Pg

/-! ## The delete statement -/

/-- The number `ROW_NUMBER() OVER (partition BY tx_hash, block_hash ORDER BY id)`
gives a row: one more than the rows of its key with a lower id.  Ids are the
primary key, so no two rows of a key tie. -/
def rowNumber (rows : List (Nat × Tx)) (p : Nat × Tx) : Nat :=
  rows.countP (fun q => decide (q.2.key = p.2.key ∧ q.1 < p.1)) + 1

/-- `internal.DeleteTxDuplicateRows`: the table without the rows whose id is
among those numbered above 1, and the number of rows deleted. -/
def deleteTxDuplicateRows (rows : List (Nat × Tx)) : List (Nat × Tx) × Nat :=
  let dup := (rows.filter fun p => 1 < rowNumber rows p).map Prod.fst
  (rows.filter fun p => p.1 ∉ dup, rows.countP fun p => p.1 ∈ dup)

/-- `CREATE UNIQUE INDEX name ON transactions(...)` over the columns `cols`:
PostgreSQL refuses it when two rows agree on them. -/
def createUniqueIndex {K : Type} [DecidableEq K] (name : String) (cols : Tx → K)
    (rows : List (Nat × Tx)) : Option String :=
  if (rows.map fun p => cols p.2).Nodup then none
  else some ("could not create unique index \"" ++ name ++ "\"")

/-- `internal.IndexTransactionTableOnHashes`. -/
def indexTransactionTableOnHashes : List (Nat × Tx) → Option String :=
  createUniqueIndex "uix_tx_hashes" Tx.key

/-- `internal.IndexTransactionTableOnBlockIn`. -/
def indexTransactionTableOnBlockIn : List (Nat × Tx) → Option String :=
  createUniqueIndex "uix_tx_block_in" fun t => (t.blockHash, t.blockIndex, t.tree)

/-! ## `DeleteDuplicateTxns` -/

/-- The indexes of schema `public`, by name, with whether each is unique. -/
def indexEntry (indexes : List (String × Bool)) (indexName : String) : Option Bool :=
  (indexes.find? fun i => i.1 == indexName).map Prod.snd

/-- The error of a `QueryRow(...).Scan`: `sql.ErrNoRows`, or another. -/
inductive ScanErr where
  | noRows
  | error (e : String)
  deriving DecidableEq, Repr

/-- `ExistsIndex`.  The text of its query is not in the source: it finds the
index by name in the catalog, and a query without a row reads as false.  `err`
is the driver's error. -/
def existsIndex (err : Option String) (indexes : List (String × Bool)) (indexName : String) :
    Bool × Option String :=
  match err with
  | some e => (false, some e)
  | none => ((indexEntry indexes indexName).isSome, none)

/-- `IsUniqueIndex`: whether the index is unique, with `sql.ErrNoRows` when the
catalog has no such index (its query is not in the source either). -/
def isUniqueIndex (err : Option String) (indexes : List (String × Bool)) (indexName : String) :
    Bool × Option ScanErr :=
  match err with
  | some e => (false, some (.error e))
  | none =>
    match indexEntry indexes indexName with
    | some isUnique => (isUnique, none)
    | none => (false, some .noRows)

/-- How the three calls of `DeleteDuplicateTxns` fail: the two catalog
queries and the `Exec` of the delete; `none` is a nil error. -/
structure DedupCalls where
  existsErr : Option String
  uniqueErr : Option String
  execErr : Option String

/-- `sqlExec` of `DeleteTxDuplicateRows`. -/
def execDeleteTxDuplicateRows (execErr : Option String) (rows : List (Nat × Tx)) :
    (Int × Option String) × List (Nat × Tx) :=
  match execErr with
  | some e => (sqlExec "failed to delete duplicate transactions: " (.error e), rows)
  | none =>
    (sqlExec "failed to delete duplicate transactions: " (.affected (.ok (deleteTxDuplicateRows rows).2)),
      (deleteTxDuplicateRows rows).1)

/-- `DeleteDuplicateTxns`: the rows deleted and the error, and the table after.
An `IsUniqueIndex` error other than `sql.ErrNoRows` returns it; with
`sql.ErrNoRows` the index is taken as not unique. -/
def deleteDuplicateTxns (calls : DedupCalls) (indexes : List (String × Bool))
    (rows : List (Nat × Tx)) : (Int × Option String) × List (Nat × Tx) :=
  match existsIndex calls.existsErr indexes "uix_tx_hashes" with
  | (_, some e) => ((0, some e), rows)
  | (false, none) => execDeleteTxDuplicateRows calls.execErr rows
  | (true, none) =>
    match isUniqueIndex calls.uniqueErr indexes "uix_tx_hashes" with
    | (_, some (.error e)) => ((0, some e), rows)
    | (true, _) => ((0, none), rows)
    | (false, _) => execDeleteTxDuplicateRows calls.execErr rows

/-! ## What the pass leaves -/

/-- The row has the lowest id of the rows holding its key. -/
def LowestOfKey (rows : List (Nat × Tx)) (p : Nat × Tx) : Prop :=
  ∀ q ∈ rows, q.2.key = p.2.key → p.1 ≤ q.1

instance (rows : List (Nat × Tx)) (p : Nat × Tx) : Decidable (LowestOfKey rows p) :=
  inferInstanceAs (Decidable (∀ q ∈ rows, _))

theorem one_lt_rowNumber_iff {rows : List (Nat × Tx)} {p : Nat × Tx} :
    1 < rowNumber rows p ↔ ¬ LowestOfKey rows p := by
  simp [rowNumber, LowestOfKey, List.countP_pos_iff]

/-- Every key has a lowest-id row. -/
theorem exists_lowestOfKey {rows : List (Nat × Tx)} {p : Nat × Tx} (hp : p ∈ rows) :
    ∃ q ∈ rows, q.2.key = p.2.key ∧ LowestOfKey rows q := by
  induction' hn : p.1 using Nat.strong_induction_on with n ih generalizing p
  by_cases hl : LowestOfKey rows p
  · exact ⟨p, hp, rfl, hl⟩
  · obtain ⟨q, hq, hk, hlt⟩ : ∃ q ∈ rows, q.2.key = p.2.key ∧ q.1 < p.1 := by
      simpa [LowestOfKey] using hl
    obtain ⟨r, hr, hrk, hrl⟩ := ih q.1 (hn ▸ hlt) hq rfl
    exact ⟨r, hr, hrk.trans hk, hrl⟩

section Dedup

variable {rows : List (Nat × Tx)} (hid : (rows.map Prod.fst).Nodup)
include hid

/-- With unique ids, a row's id is among those numbered above 1 exactly when
the row is not the lowest of its key. -/
theorem mem_dup_iff {p : Nat × Tx} (hp : p ∈ rows) :
    p.1 ∈ (rows.filter fun q => 1 < rowNumber rows q).map Prod.fst ↔ ¬ LowestOfKey rows p := by
  rw [← one_lt_rowNumber_iff]
  constructor
  · intro h
    obtain ⟨q, hq, hqp⟩ := List.mem_map.mp h
    rw [List.mem_filter] at hq
    rw [← List.inj_on_of_nodup_map hid hq.1 hp hqp]
    simpa using hq.2
  · exact fun h => List.mem_map_of_mem _ (List.mem_filter.mpr ⟨hp, by simpa using h⟩)

theorem deleteTxDuplicateRows_fst :
    (deleteTxDuplicateRows rows).1 = rows.filter fun p => decide (LowestOfKey rows p) := by
  refine List.filter_congr fun p hp => decide_eq_decide.mpr ?_
  rw [mem_dup_iff hid hp, not_not]

/-- The lowest-id rows hold every key once. -/
theorem lowest_keys_nodup : ((rows.filter fun p => decide (LowestOfKey rows p)).map fun p => p.2.key).Nodup := by
  refine List.Nodup.map_on (fun x hx y hy hk => ?_) ((List.Nodup.of_map _ hid).filter _)
  simp only [List.mem_filter, decide_eq_true_eq] at hx hy
  exact List.inj_on_of_nodup_map hid hx.1 hy.1 (Nat.le_antisymm (hx.2 y hy.1 hk.symm) (hy.2 x hx.1 hk))

end Dedup

theorem createUniqueIndex_of_nodup {K : Type} [DecidableEq K] {name : String} {cols : Tx → K}
    {rows : List (Nat × Tx)} (h : (rows.map fun p => cols p.2).Nodup) :
    createUniqueIndex name cols rows = none := if_pos h

/-- Unique keys make `(block_hash, block_index, tree)` unique where it
determines the transaction hash. -/
theorem blockIn_nodup {rows : List (Nat × Tx)} (hk : (rows.map fun p => p.2.key).Nodup)
    (hdet : ∀ p ∈ rows, ∀ q ∈ rows, p.2.blockHash = q.2.blockHash → p.2.blockIndex = q.2.blockIndex →
      p.2.tree = q.2.tree → p.2.txID = q.2.txID) :
    (rows.map fun p => (p.2.blockHash, p.2.blockIndex, p.2.tree)).Nodup := by
  refine List.Nodup.map_on (fun x hx y hy he => ?_) (List.Nodup.of_map _ hk)
  simp only [Prod.mk.injEq] at he
  refine List.inj_on_of_nodup_map hk hx hy ?_
  simp only [Tx.key, hdet x hx y hy he.1 he.2.1 he.2.2, he.1]

theorem deleteDuplicateTxns_eq {calls : DedupCalls} (he : calls.existsErr = none)
    (hu : calls.uniqueErr = none) (indexes : List (String × Bool)) (rows : List (Nat × Tx)) :
    deleteDuplicateTxns calls indexes rows =
      if indexEntry indexes "uix_tx_hashes" = some true then ((0, none), rows)
      else execDeleteTxDuplicateRows calls.execErr rows := by
  simp only [deleteDuplicateTxns, existsIndex, isUniqueIndex, he, hu]
  cases indexEntry indexes "uix_tx_hashes" with
  | none => rfl
  | some u => cases u <;> rfl

/-- **The duplicate pass.**  Over a table with unique ids, `DeleteTxDuplicateRows`
keeps exactly the lowest-id row of each key, unchanged, so every key is left
once and `uix_tx_hashes` can be created, and `uix_tx_block_in` as well where
`(block_hash, block_index, tree)` determines the transaction hash.
`DeleteDuplicateTxns` runs the pass unless the index exists and is unique. -/
theorem deleteTxDuplicateRows_spec {rows : List (Nat × Tx)} (hid : (rows.map Prod.fst).Nodup) :
    (deleteTxDuplicateRows rows).1 = rows.filter (fun p => decide (LowestOfKey rows p)) ∧
    ((deleteTxDuplicateRows rows).1.map fun p => p.2.key).Nodup ∧
    (∀ p ∈ rows, ∃ q ∈ (deleteTxDuplicateRows rows).1, q.2.key = p.2.key ∧ LowestOfKey rows q) ∧
    indexTransactionTableOnHashes (deleteTxDuplicateRows rows).1 = none ∧
    ((∀ p ∈ rows, ∀ q ∈ rows, p.2.blockHash = q.2.blockHash → p.2.blockIndex = q.2.blockIndex →
        p.2.tree = q.2.tree → p.2.txID = q.2.txID) →
      indexTransactionTableOnBlockIn (deleteTxDuplicateRows rows).1 = none) ∧
    (∀ (calls : DedupCalls) (indexes : List (String × Bool)), calls.existsErr = none →
      calls.uniqueErr = none →
      deleteDuplicateTxns calls indexes rows =
        if indexEntry indexes "uix_tx_hashes" = some true then ((0, none), rows)
        else execDeleteTxDuplicateRows calls.execErr rows) := by
  have hfst := deleteTxDuplicateRows_fst hid
  have hk := lowest_keys_nodup hid
  rw [← hfst] at hk
  refine ⟨hfst, hk, fun p hp => ?_, createUniqueIndex_of_nodup hk, fun hdet => ?_,
    fun calls indexes he hu => deleteDuplicateTxns_eq he hu indexes rows⟩
  · obtain ⟨q, hq, hqk, hql⟩ := exists_lowestOfKey hp
    exact ⟨q, hfst ▸ List.mem_filter.mpr ⟨hq, decide_eq_true hql⟩, hqk, hql⟩
  · refine createUniqueIndex_of_nodup (blockIn_nodup hk fun x hx y hy => ?_)
    rw [hfst] at hx hy
    exact hdet x (List.mem_filter.mp hx).1 y (List.mem_filter.mp hy).1

/-- Transaction `a` of block `B` stored twice, as rows 3 and 1, beside `b`. -/
def twiceStoredTxns : List (Nat × Tx) :=
  [(3, ⟨"B", 0, "a", 0, [], [], true, true⟩), (1, ⟨"B", 0, "a", 0, [], [], false, true⟩),
    (2, ⟨"B", 0, "b", 1, [], [], true, true⟩)]

/-- The pass deletes row 3. -/
theorem deleteTxDuplicateRows_spec_repeat :
    (twiceStoredTxns.map Prod.fst).Nodup ∧
    (deleteTxDuplicateRows twiceStoredTxns).1 =
      [(1, ⟨"B", 0, "a", 0, [], [], false, true⟩), (2, ⟨"B", 0, "b", 1, [], [], true, true⟩)] :=
  ⟨by decide, (deleteTxDuplicateRows_spec (by decide)).1.trans (by decide)⟩

end HcData.Pg
