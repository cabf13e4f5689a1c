import HcData.Pg.Transactions

/-!
# The validity and main chain flags of transactions

A transaction row carries the `is_valid` and `is_mainchain` of its block; stake
transactions (`tree = 1`) stay valid whatever the block's validity.  The
statements of `txstmts.go` set the flags three ways: per block
(`UpdateTxnsMainchainByBlock`, `UpdateRegularTxnsValidByBlock`), for all blocks
one flag at a time (`UpdateTxnsMainchainAll`, `UpdateRegularTxnsValidAll`), and
both at once (`UpdateTxnsValidMainchainAll`, with
`is_valid = (b.is_valid::int + tree)::boolean`).  Over a blocks table with
unique hashes and transactions whose stake rows are valid, all three give the
same table, the per-block statements in any order (`txFlags_paths_agree`).

`UpdateTransactionsMainchain` reads the ids of the rows it updated from the
`RETURNING id` of its statement.  `UpdateTransactionsValid` reads its result
the same way, but its statement has no `RETURNING` clause, so it returns 0 and
no ids whatever it updated (`updateTransactionsValid_returns_no_rows`).
-/

namespace HcData.Pg

/-- The columns of a `blocks` row that the bulk updates read. -/
structure BlockRow where
  hash : String
  isValid : Bool
  isMainchain : Bool
  deriving DecidableEq, Repr

/-! ## The statements -/

/-- `UPDATE transactions SET ... WHERE cond`, with `RETURNING id` when
`returning`: each row meeting `cond` is rewritten by `set`, and the statement
gives back the ids of the rows it updated, or no row without a `RETURNING`
clause. -/
def updateWhere (cond : Tx → Bool) (set : Tx → Tx) (returning : Bool) (rows : List (Nat × Tx)) :
    List (Nat × Tx) × List Nat :=
  (rows.map fun p => if cond p.2 then (p.1, set p.2) else p,
    if returning then (rows.filter fun p => cond p.2).map Prod.fst else [])

/-- `internal.UpdateTxnsMainchainByBlock`. -/
def updateTxnsMainchainByBlock (isMainchain : Bool) (blockHash : String) :
    List (Nat × Tx) → List (Nat × Tx) × List Nat :=
  updateWhere (fun t => t.blockHash == blockHash) (fun t => { t with isMainchainBlock := isMainchain })
    true

/-- `internal.UpdateRegularTxnsValidByBlock`: no `RETURNING` clause. -/
def updateRegularTxnsValidByBlock (isValid : Bool) (blockHash : String) :
    List (Nat × Tx) → List (Nat × Tx) × List Nat :=
  updateWhere (fun t => t.blockHash == blockHash && t.tree == 0)
    (fun t => { t with isValidBlock := isValid }) false

/-- The `blocks` row that `FROM (SELECT ... FROM blocks) b WHERE block_hash = b.hash`
pairs a transaction with.  With unique hashes there is at most one. -/
def joinBlock (blocks : List BlockRow) (t : Tx) : Option BlockRow :=
  blocks.find? fun b => b.hash == t.blockHash

/-- `UPDATE transactions SET ... FROM (SELECT ... FROM blocks) b
WHERE block_hash = b.hash AND cond`. -/
def updateFromBlocks (cond : Tx → Bool) (set : BlockRow → Tx → Tx) (blocks : List BlockRow)
    (rows : List (Nat × Tx)) : List (Nat × Tx) :=
  rows.map fun p =>
    match joinBlock blocks p.2 with
    | some b => if cond p.2 then (p.1, set b p.2) else p
    | none => p

/-- `(b.is_valid::int + tree)::boolean`: false only when both are 0. -/
def validWithTree (isValid : Bool) (tree : Nat) : Bool :=
  (if isValid then 1 else 0) + tree != 0

/-- `internal.UpdateTxnsValidMainchainAll`. -/
def updateTxnsValidMainchainAll : List BlockRow → List (Nat × Tx) → List (Nat × Tx) :=
  updateFromBlocks (fun _ => true) fun b t =>
    { t with isValidBlock := validWithTree b.isValid t.tree, isMainchainBlock := b.isMainchain }

/-- `internal.UpdateRegularTxnsValidAll`. -/
def updateRegularTxnsValidAll : List BlockRow → List (Nat × Tx) → List (Nat × Tx) :=
  updateFromBlocks (fun t => t.tree == 0) fun b t => { t with isValidBlock := b.isValid }

/-- `internal.UpdateTxnsMainchainAll`. -/
def updateTxnsMainchainAll : List BlockRow → List (Nat × Tx) → List (Nat × Tx) :=
  updateFromBlocks (fun _ => true) fun b t => { t with isMainchainBlock := b.isMainchain }

/-! ## `UpdateTransactionsMainchain` and `UpdateTransactionsValid` -/

/-- The `rows.Next` loop: the ids of the returned rows, counted.  A failing
`Scan` of the `k`-th row breaks the loop, and its error is dropped. -/
def scanRowIDs (scanErr : Nat → Option String) : Nat → List Nat → Int × List Nat
  | _, [] => (0, [])
  | k, id :: ids =>
    match scanErr k with
    | some _ => (0, [])
    | none => ((scanRowIDs scanErr (k + 1) ids).1 + 1, id :: (scanRowIDs scanErr (k + 1) ids).2)

/-- The body both functions share: `db.Query` of the statement, whose error
returns at once, then the ids of the rows it returns. -/
def queryUpdate (errPrefix : String) (stmt : List (Nat × Tx) → List (Nat × Tx) × List Nat)
    (queryErr : Option String) (scanErr : Nat → Option String) (rows : List (Nat × Tx)) :
    (Int × List Nat × Option String) × List (Nat × Tx) :=
  match queryErr with
  | some e => ((0, [], some (errPrefix ++ e)), rows)
  | none => (((scanRowIDs scanErr 0 (stmt rows).2).1, (scanRowIDs scanErr 0 (stmt rows).2).2, none),
      (stmt rows).1)

/-- `UpdateTransactionsMainchain`: `numRows`, `txRowIDs` and the error, and the
table after. -/
def updateTransactionsMainchain (queryErr : Option String) (scanErr : Nat → Option String)
    (rows : List (Nat × Tx)) (blockHash : String) (isMainchain : Bool) :
    (Int × List Nat × Option String) × List (Nat × Tx) :=
  queryUpdate "failed to update transactions is_mainchain: "
    (updateTxnsMainchainByBlock isMainchain blockHash) queryErr scanErr rows

/-- `UpdateTransactionsValid`. -/
def updateTransactionsValid (queryErr : Option String) (scanErr : Nat → Option String)
    (rows : List (Nat × Tx)) (blockHash : String) (isValid : Bool) :
    (Int × List Nat × Option String) × List (Nat × Tx) :=
  queryUpdate "failed to update regular transactions is_valid: "
    (updateRegularTxnsValidByBlock isValid blockHash) queryErr scanErr rows

/-! ## The per-block path -/

/-- A per-block statement, as the spec's per-block path runs them. -/
inductive BlockUpdate where
  | mainchainByBlock (isMainchain : Bool) (blockHash : String)
  | regularValidByBlock (isValid : Bool) (blockHash : String)
  deriving DecidableEq, Repr

namespace BlockUpdate

/-- The statement run on the table. -/
def apply : BlockUpdate → List (Nat × Tx) → List (Nat × Tx)
  | mainchainByBlock m h, rows => (updateTxnsMainchainByBlock m h rows).1
  | regularValidByBlock v h, rows => (updateRegularTxnsValidByBlock v h rows).1

/-- The block a statement names. -/
def blockHash : BlockUpdate → String
  | mainchainByBlock _ h | regularValidByBlock _ h => h

end BlockUpdate

/-- Both per-block statements for every row of the blocks table, block by
block. -/
def perBlockUpdates (blocks : List BlockRow) : List BlockUpdate :=
  blocks.flatMap fun b => [.mainchainByBlock b.isMainchain b.hash, .regularValidByBlock b.isValid b.hash]

/-- Statements run one after another. -/
def runUpdates (ops : List BlockUpdate) (rows : List (Nat × Tx)) : List (Nat × Tx) :=
  ops.foldl (fun rows op => op.apply rows) rows

/-! ## What the two functions return -/

section Query

variable {scanErr : Nat → Option String}

theorem scanRowIDs_ok (hs : ∀ k, scanErr k = none) :
    ∀ (k : Nat) (ids : List Nat), scanRowIDs scanErr k ids = ((ids.length : Int), ids)
  | _, [] => rfl
  | k, id :: ids => by simp [scanRowIDs, hs k, scanRowIDs_ok hs (k + 1) ids]

/-- `UpdateTransactionsValid` sets `is_valid` on the regular rows of the block,
and on no other row, and returns 0 and no ids. -/
theorem updateTransactionsValid_eq (rows : List (Nat × Tx)) (blockHash : String) (isValid : Bool) :
    updateTransactionsValid none scanErr rows blockHash isValid =
      ((0, [], none), rows.map fun p =>
        if p.2.blockHash = blockHash ∧ p.2.tree = 0 then (p.1, { p.2 with isValidBlock := isValid })
        else p) := by
  simp [updateTransactionsValid, queryUpdate, updateRegularTxnsValidByBlock, updateWhere, scanRowIDs]

/-- With no failing `Scan`, `UpdateTransactionsMainchain` sets `is_mainchain` on
the rows of the block, and returns how many they are and their ids. -/
theorem updateTransactionsMainchain_eq (hs : ∀ k, scanErr k = none) (rows : List (Nat × Tx))
    (blockHash : String) (isMainchain : Bool) :
    updateTransactionsMainchain none scanErr rows blockHash isMainchain =
      ((((rows.filter fun p => p.2.blockHash == blockHash).length : Int),
          (rows.filter fun p => p.2.blockHash == blockHash).map Prod.fst, none),
        rows.map fun p =>
          if p.2.blockHash = blockHash then (p.1, { p.2 with isMainchainBlock := isMainchain })
          else p) := by
  simp [updateTransactionsMainchain, queryUpdate, updateTxnsMainchainByBlock, updateWhere,
    scanRowIDs_ok hs]

end Query

/-- One regular transaction of block `B`, row 7. -/
def oneRegularTx : List (Nat × Tx) := [(7, ⟨"B", 0, "a", 0, [], [], true, true⟩)]

/-- `UpdateTransactionsValid(B, false)` updates the one regular row of `B` and
returns 0 rows and no ids, where `UpdateTransactionsMainchain` returns 1 and the
row's id. -/
theorem updateTransactionsValid_returns_no_rows :
    (oneRegularTx.filter fun p => p.2.blockHash == "B" && p.2.tree == 0).length = 1 ∧
    updateTransactionsValid none (fun _ => none) oneRegularTx "B" false =
      ((0, [], none), [(7, ⟨"B", 0, "a", 0, [], [], false, true⟩)]) ∧
    (updateTransactionsMainchain none (fun _ => none) oneRegularTx "B" false).1 = (1, [7], none) :=
  ⟨rfl, by rw [updateTransactionsValid_eq]; rfl,
    by rw [updateTransactionsMainchain_eq fun _ => rfl]; rfl⟩

/-! ## Three paths to the same flags -/

/-- What a row ends as: the flags of its block, `is_valid` on a regular
transaction only. -/
def blockFlags (blocks : List BlockRow) (p : Nat × Tx) : Nat × Tx :=
  match joinBlock blocks p.2 with
  | some b => (p.1, { p.2 with
      isValidBlock := if p.2.tree = 0 then b.isValid else p.2.isValidBlock
      isMainchainBlock := b.isMainchain })
  | none => p

section Paths

variable {blocks : List BlockRow}

@[simp] theorem validWithTree_zero (v : Bool) : validWithTree v 0 = v := by cases v <;> rfl

@[simp] theorem validWithTree_one (v : Bool) : validWithTree v 1 = true := by cases v <;> rfl

theorem blockFlags_of_none {p : Nat × Tx} (h : joinBlock blocks p.2 = none) : blockFlags blocks p = p := by
  simp [blockFlags, h]

theorem updateTxnsMainchainAll_regularValidAll (rows : List (Nat × Tx)) :
    updateTxnsMainchainAll blocks (updateRegularTxnsValidAll blocks rows) = rows.map (blockFlags blocks) := by
  simp only [updateTxnsMainchainAll, updateRegularTxnsValidAll, updateFromBlocks, List.map_map]
  refine List.map_congr_left fun p _ => ?_
  cases h : joinBlock blocks p.2 with
  | none => simp [h, blockFlags]
  | some b =>
    have h' : blocks.find? (fun b => b.hash == p.2.blockHash) = some b := h
    by_cases ht : p.2.tree = 0 <;> simp [blockFlags, joinBlock, h', ht]

theorem updateRegularTxnsValidAll_mainchainAll (rows : List (Nat × Tx)) :
    updateRegularTxnsValidAll blocks (updateTxnsMainchainAll blocks rows) = rows.map (blockFlags blocks) := by
  simp only [updateTxnsMainchainAll, updateRegularTxnsValidAll, updateFromBlocks, List.map_map]
  refine List.map_congr_left fun p _ => ?_
  cases h : joinBlock blocks p.2 with
  | none => simp [h, blockFlags]
  | some b =>
    have h' : blocks.find? (fun b => b.hash == p.2.blockHash) = some b := h
    by_cases ht : p.2.tree = 0 <;> simp [blockFlags, joinBlock, h', ht]

/-- With regular and stake rows only, and every stake row valid, the cast
`(b.is_valid::int + tree)::boolean` is the validity the per-tree statements
leave. -/
theorem updateTxnsValidMainchainAll_eq {rows : List (Nat × Tx)}
    (htree : ∀ p ∈ rows, p.2.tree = 0 ∨ p.2.tree = 1)
    (hstake : ∀ p ∈ rows, p.2.tree = 1 → p.2.isValidBlock = true) :
    updateTxnsValidMainchainAll blocks rows = rows.map (blockFlags blocks) := by
  simp only [updateTxnsValidMainchainAll, updateFromBlocks]
  refine List.map_congr_left fun p hp => ?_
  cases h : joinBlock blocks p.2 with
  | none => simp [blockFlags, h]
  | some b => rcases htree p hp with ht | ht <;> simp [blockFlags, h, ht, hstake p hp]

namespace BlockUpdate

/-- What the statement does to one row. -/
def row : BlockUpdate → Nat × Tx → Nat × Tx
  | mainchainByBlock m h, p =>
    if p.2.blockHash == h then (p.1, { p.2 with isMainchainBlock := m }) else p
  | regularValidByBlock v h, p =>
    if p.2.blockHash == h && p.2.tree == 0 then (p.1, { p.2 with isValidBlock := v }) else p

theorem apply_eq (op : BlockUpdate) (rows : List (Nat × Tx)) : op.apply rows = rows.map op.row := by
  cases op <;> rfl

theorem row_blockHash (op : BlockUpdate) (p : Nat × Tx) : (op.row p).2.blockHash = p.2.blockHash := by
  cases op <;> simp only [row] <;> split <;> rfl

/-- A statement leaves the rows of other blocks alone. -/
theorem row_of_ne {op : BlockUpdate} {p : Nat × Tx} (h : p.2.blockHash ≠ op.blockHash) :
    op.row p = p := by
  cases op <;> simp_all [row, blockHash]

/-- Statements for different blocks commute. -/
theorem row_comm_of_ne {x y : BlockUpdate} (h : x.blockHash ≠ y.blockHash) (p : Nat × Tx) :
    y.row (x.row p) = x.row (y.row p) := by
  by_cases hx : p.2.blockHash = x.blockHash
  · have hy : p.2.blockHash ≠ y.blockHash := hx ▸ h
    have hy' : (x.row p).2.blockHash ≠ y.blockHash := by rw [row_blockHash]; exact hy
    rw [row_of_ne hy, row_of_ne hy']
  · have hx' : (y.row p).2.blockHash ≠ x.blockHash := by rw [row_blockHash]; exact hx
    rw [row_of_ne hx, row_of_ne hx']

/-- A main chain statement and a validity statement write different columns. -/
theorem row_comm_mainchain_valid (m v : Bool) (h h' : String) (p : Nat × Tx) :
    (regularValidByBlock v h').row ((mainchainByBlock m h).row p) =
      (mainchainByBlock m h).row ((regularValidByBlock v h').row p) := by
  simp only [row]
  split_ifs <;> simp_all

end BlockUpdate

theorem runUpdates_eq_map (ops : List BlockUpdate) (rows : List (Nat × Tx)) :
    runUpdates ops rows = rows.map fun p => ops.foldl (fun p op => op.row p) p := by
  induction ops generalizing rows with
  | nil => simp [runUpdates]
  | cons op ops ih =>
    simp only [runUpdates, List.foldl_cons] at ih ⊢
    rw [ih, BlockUpdate.apply_eq, List.map_map]
    rfl

/-- With unique block hashes, any two per-block statements commute. -/
theorem perBlockUpdates_comm (hb : (blocks.map BlockRow.hash).Nodup) :
    ∀ x ∈ perBlockUpdates blocks, ∀ y ∈ perBlockUpdates blocks, ∀ p,
      y.row (x.row p) = x.row (y.row p) := by
  intro x hx y hy p
  simp only [perBlockUpdates, List.mem_flatMap, List.mem_cons, List.mem_singleton,
    List.not_mem_nil, or_false] at hx hy
  obtain ⟨b1, hb1, hx⟩ := hx
  obtain ⟨b2, hb2, hy⟩ := hy
  by_cases he : b1 = b2
  · subst he
    rcases hx with rfl | rfl <;> rcases hy with rfl | rfl
    · rfl
    · exact BlockUpdate.row_comm_mainchain_valid _ _ _ _ p
    · exact (BlockUpdate.row_comm_mainchain_valid _ _ _ _ p).symm
    · rfl
  · have hne : b1.hash ≠ b2.hash := fun h => he (List.inj_on_of_nodup_map hb hb1 hb2 h)
    exact BlockUpdate.row_comm_of_ne
      (by rcases hx with rfl | rfl <;> rcases hy with rfl | rfl <;> exact hne) p

/-- Block by block, the per-block statements leave each row with its block's
flags. -/
theorem perBlockUpdates_row (hb : (blocks.map BlockRow.hash).Nodup) (p : Nat × Tx) :
    (perBlockUpdates blocks).foldl (fun p op => op.row p) p = blockFlags blocks p := by
  induction blocks generalizing p with
  | nil => simp [perBlockUpdates, blockFlags, joinBlock]
  | cons b bs ih =>
    rw [List.map_cons, List.nodup_cons] at hb
    have hcons : perBlockUpdates (b :: bs) =
        [.mainchainByBlock b.isMainchain b.hash, .regularValidByBlock b.isValid b.hash] ++
          perBlockUpdates bs := rfl
    rw [hcons, List.foldl_append, ih hb.2]
    simp only [List.foldl_cons, List.foldl_nil]
    by_cases h : p.2.blockHash = b.hash
    · have hn : joinBlock bs p.2 = none := by
        simp only [joinBlock, List.find?_eq_none, beq_iff_eq]
        exact fun x hx hxe => hb.1 (List.mem_map.mpr ⟨x, hx, hxe.trans h⟩)
      have hq : joinBlock bs ((BlockUpdate.regularValidByBlock b.isValid b.hash).row
          ((BlockUpdate.mainchainByBlock b.isMainchain b.hash).row p)).2 = none := by
        simp only [joinBlock, BlockUpdate.row_blockHash] at hn ⊢
        exact hn
      have hj : joinBlock (b :: bs) p.2 = some b := by simp [joinBlock, h]
      rw [blockFlags_of_none hq]
      by_cases ht : p.2.tree = 0 <;> simp [BlockUpdate.row, blockFlags, hj, h, ht]
    · have hj : joinBlock (b :: bs) p.2 = joinBlock bs p.2 := by
        simp [joinBlock, List.find?_cons, Ne.symm h]
      have h1 : (BlockUpdate.mainchainByBlock b.isMainchain b.hash).row p = p :=
        BlockUpdate.row_of_ne h
      have h2 : (BlockUpdate.regularValidByBlock b.isValid b.hash).row p = p :=
        BlockUpdate.row_of_ne h
      simp only [h1, h2, blockFlags, hj]

/-- **The three paths agree.**  Over a blocks table with unique hashes, and
transactions of trees 0 and 1 whose stake rows are valid,
`UpdateTxnsValidMainchainAll` leaves the table that `UpdateRegularTxnsValidAll`
and `UpdateTxnsMainchainAll` leave in either order, and that both per-block
statements of every block leave in any order; and no statement touches a row
whose block is not in the blocks table. -/
theorem txFlags_paths_agree {rows : List (Nat × Tx)} (hb : (blocks.map BlockRow.hash).Nodup)
    (htree : ∀ p ∈ rows, p.2.tree = 0 ∨ p.2.tree = 1)
    (hstake : ∀ p ∈ rows, p.2.tree = 1 → p.2.isValidBlock = true) :
    updateTxnsValidMainchainAll blocks rows =
        updateTxnsMainchainAll blocks (updateRegularTxnsValidAll blocks rows) ∧
    updateTxnsValidMainchainAll blocks rows =
        updateRegularTxnsValidAll blocks (updateTxnsMainchainAll blocks rows) ∧
    (∀ ops : List BlockUpdate, ops.Perm (perBlockUpdates blocks) →
      runUpdates ops rows = updateTxnsValidMainchainAll blocks rows) ∧
    (∀ (i : Nat) (p : Nat × Tx), rows[i]? = some p → joinBlock blocks p.2 = none →
      (updateTxnsValidMainchainAll blocks rows)[i]? = some p ∧
      (updateRegularTxnsValidAll blocks rows)[i]? = some p ∧
      (updateTxnsMainchainAll blocks rows)[i]? = some p ∧
      ∀ op ∈ perBlockUpdates blocks, (op.apply rows)[i]? = some p) := by
  have hall : updateTxnsValidMainchainAll blocks rows = rows.map (blockFlags blocks) :=
    updateTxnsValidMainchainAll_eq htree hstake
  refine ⟨hall.trans (updateTxnsMainchainAll_regularValidAll rows).symm,
    hall.trans (updateRegularTxnsValidAll_mainchainAll rows).symm, fun ops hops => ?_,
    fun i p hi hn => ?_⟩
  · rw [hall, runUpdates_eq_map]
    refine List.map_congr_left fun q _ => ?_
    rw [hops.foldl_eq' (fun x hx y hy z => perBlockUpdates_comm hb x (hops.subset hx) y
      (hops.subset hy) z), perBlockUpdates_row hb]
  · have hne : ∀ op ∈ perBlockUpdates blocks, p.2.blockHash ≠ op.blockHash := by
      intro op hop
      simp only [perBlockUpdates, List.mem_flatMap, List.mem_cons, List.mem_singleton,
        List.not_mem_nil, or_false] at hop
      obtain ⟨b, hb, hop⟩ := hop
      have hnb : ¬ (b.hash == p.2.blockHash) = true := List.find?_eq_none.mp hn b hb
      rcases hop with rfl | rfl <;> exact fun h => hnb (beq_iff_eq.mpr h.symm)
    simp only [updateTxnsValidMainchainAll, updateRegularTxnsValidAll, updateTxnsMainchainAll,
      updateFromBlocks, List.getElem?_map, hi, Option.map_some', hn, true_and]
    exact fun op hop => by
      rw [BlockUpdate.apply_eq, List.getElem?_map, hi, Option.map_some', BlockUpdate.row_of_ne (hne op hop)]

end Paths

/-- A disapproved main chain block `B`, and a regular and a stake transaction of
`B` beside a transaction of a block `C` the table does not hold. -/
def disapprovedBlock : List BlockRow := [⟨"B", false, true⟩]

/-- The transactions of `disapprovedBlock`'s example. -/
def blockBTxns : List (Nat × Tx) :=
  [(1, ⟨"B", 0, "a", 0, [], [], true, false⟩), (2, ⟨"B", 1, "v", 1, [], [], true, false⟩),
    (3, ⟨"C", 0, "c", 0, [], [], true, true⟩)]

theorem txFlags_paths_agree_disapproved :
    ((disapprovedBlock.map BlockRow.hash).Nodup ∧ (∀ p ∈ blockBTxns, p.2.tree = 0 ∨ p.2.tree = 1) ∧
      ∀ p ∈ blockBTxns, p.2.tree = 1 → p.2.isValidBlock = true) ∧
    updateTxnsValidMainchainAll disapprovedBlock blockBTxns =
      updateTxnsMainchainAll disapprovedBlock (updateRegularTxnsValidAll disapprovedBlock blockBTxns) :=
  ⟨⟨by decide, by decide, by decide⟩, (txFlags_paths_agree (by decide) (by decide) (by decide)).1⟩

end HcData.Pg
