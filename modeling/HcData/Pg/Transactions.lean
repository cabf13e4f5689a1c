import HcData.Basic
import Mathlib.Data.List.Nodup

/-!
# The transactions table and its insert modes

`InsertTxns` inserts a block's transactions through one prepared statement,
chosen by `MakeTxInsertStatement`: a plain insert, an upsert that rewrites the
two flags of a conflicting row, or `InsertTxRowOnConflictDoNothing`, whose
`SELECT` returns the conflicting row's id.  A conflict is a row with the same
`(tx_hash, block_hash)`, the key of the unique index `uix_tx_hashes`.

With the index in place and no failing call, the do-nothing mode returns the id
of the row holding each element's key, one per element and in order, and keeps
every row it found; the upsert returns the same ids and differs only in the
flags, which hold those of the last element with the row's key; and a second
do-nothing run returns the same ids again and changes no row
(`insertTxns_modes_agree`).
-/

namespace HcData.Pg

/-- The fields of a `dbtypes.Tx` the modelled statements read: the block and
the position in it, the hash, the vin and vout row ids and the two flags. -/
structure Tx where
  blockHash : String
  tree : Nat
  txID : String
  blockIndex : Nat
  vinDbIds : List Nat
  voutDbIds : List Nat
  isValidBlock : Bool
  isMainchainBlock : Bool
  deriving DecidableEq, Repr

/-- The columns `(tx_hash, block_hash)` of the unique index `uix_tx_hashes`. -/
def Tx.key (t : Tx) : String × String := (t.txID, t.blockHash)

/-- The `transactions` table: its rows with their ids, and the next value of
the id sequence. -/
structure TxTable where
  rows : List (Nat × Tx)
  nextID : Nat
  deriving DecidableEq, Repr

namespace TxTable

/-- The id of the row holding the key `k`. -/
def lookup (tbl : TxTable) (k : String × String) : Option Nat :=
  (tbl.rows.find? fun p => p.2.key = k).map Prod.fst

/-- No two rows share a key: `uix_tx_hashes` exists. -/
def KeysUnique (tbl : TxTable) : Prop := (tbl.rows.map fun p => p.2.key).Nodup

instance (tbl : TxTable) : Decidable tbl.KeysUnique := inferInstanceAs (Decidable (List.Nodup _))

end TxTable

/-- The statements `MakeTxInsertStatement` chooses from. -/
inductive TxInsertStmt where
  | insertTxRow
  | upsertTxRow
  | insertTxRowOnConflictDoNothing
  deriving DecidableEq, Repr

/-- `internal.MakeTxInsertStatement`. -/
def makeTxInsertStatement (checked updateOnConflict : Bool) : TxInsertStmt :=
  if !checked then .insertTxRow
  else if updateOnConflict then .upsertTxRow
  else .insertTxRowOnConflictDoNothing

/-- The `DO UPDATE SET is_valid = $20, is_mainchain = $21` of `UpsertTxRow` on
a row: it takes the flags of `t` when it holds `t`'s key. -/
def setTxFlags (t : Tx) (p : Nat × Tx) : Nat × Tx :=
  if p.2.key = t.key then
    (p.1, { p.2 with isValidBlock := t.isValidBlock, isMainchainBlock := t.isMainchainBlock })
  else p

/-- The driver's error for an insert that violates `uix_tx_hashes`. -/
def errDuplicateKey : String :=
  "pq: duplicate key value violates unique constraint \"uix_tx_hashes\""

/-- One `stmt.QueryRow(...).Scan(&id)` of an insert statement.  Each draws the
next id of the sequence before it meets a conflict, so a conflicting insert
uses up an id too.  The `SELECT` of `InsertTxRowOnConflictDoNothing` sees the
rows of the earlier statements of the transaction. -/
def queryTxInsert (stmt : TxInsertStmt) (tbl : TxTable) (t : Tx) : RowResult × TxTable :=
  match tbl.lookup t.key, stmt with
  | none, _ => (.id tbl.nextID, ⟨tbl.rows ++ [(tbl.nextID, t)], tbl.nextID + 1⟩)
  | some _, .insertTxRow => (.error errDuplicateKey, ⟨tbl.rows, tbl.nextID + 1⟩)
  | some id, .upsertTxRow => (.id id, ⟨tbl.rows.map (setTxFlags t), tbl.nextID + 1⟩)
  | some id, .insertTxRowOnConflictDoNothing => (.id id, ⟨tbl.rows, tbl.nextID + 1⟩)

/-- The loop of `InsertTxns`: the `k`-th `QueryRow` fails with `queryErr k` when
the driver fails it; `sql.ErrNoRows` skips the tx and any other error ends the
loop. -/
def insertTxnsLoop (queryErr : Nat → Option String) (stmt : TxInsertStmt) :
    List Tx → Nat → List Nat → TxTable → Except String (List Nat) × TxTable
  | [], _, ids, tbl => (.ok ids, tbl)
  | tx :: rest, k, ids, tbl =>
    match queryErr k with
    | some e => (.error e, tbl)
    | none =>
      match queryTxInsert stmt tbl tx with
      | (.id id, tbl') => insertTxnsLoop queryErr stmt rest (k + 1) (ids ++ [id]) tbl'
      | (.noRows, tbl') => insertTxnsLoop queryErr stmt rest (k + 1) ids tbl'
      | (.error e, tbl') => (.error e, tbl')

/-- How the other calls of `InsertTxns` turn out: `db.Begin`, `dbtx.Prepare`,
the driver's part of each `QueryRow`, and `dbtx.Commit`; `none` is a nil
error. -/
structure InsertTxnsCalls where
  begin : Option String
  prepare : Option String
  queryErr : Nat → Option String
  commit : Option String

/-- `InsertTxns`: the ids and the error it returns, and the table after it.  A
rolled back or uncommitted transaction leaves the rows as they were, while the
ids it drew from the sequence stay used. -/
def insertTxns (calls : InsertTxnsCalls) (tbl : TxTable) (dbTxns : List Tx)
    (checked updateExistingRecords : Bool) : (List Nat × Option String) × TxTable :=
  match calls.begin with
  | some e => (([], some ("unable to begin database transaction: " ++ e)), tbl)
  | none =>
    match calls.prepare with
    | some e => (([], some e), tbl)
    | none =>
      match insertTxnsLoop calls.queryErr (makeTxInsertStatement checked updateExistingRecords)
          dbTxns 0 [] tbl with
      | (.error e, tbl') => (([], some e), ⟨tbl.rows, tbl'.nextID⟩)
      | (.ok ids, tbl') =>
        match calls.commit with
        | some e => ((ids, some e), ⟨tbl.rows, tbl'.nextID⟩)
        | none => ((ids, none), tbl')

/-! ## Lookups -/

namespace TxTable

theorem lookup_eq_some {tbl : TxTable} {k : String × String} {id : Nat}
    (h : tbl.lookup k = some id) : ∃ t, (id, t) ∈ tbl.rows ∧ t.key = k := by
  simp only [lookup, Option.map_eq_some'] at h
  obtain ⟨p, hp, rfl⟩ := h
  exact ⟨p.2, List.mem_of_find?_eq_some hp, by simpa using List.find?_some hp⟩

theorem lookup_eq_none {tbl : TxTable} {k : String × String} (h : tbl.lookup k = none) :
    ∀ p ∈ tbl.rows, p.2.key ≠ k := by
  simp only [lookup, Option.map_eq_none', List.find?_eq_none] at h
  exact fun p hp => by simpa using h p hp

/-- With unique keys, a row holding `t`'s key is the row `lookup` finds. -/
theorem lookup_of_mem {tbl : TxTable} (hu : tbl.KeysUnique) {id : Nat} {t : Tx}
    (hm : (id, t) ∈ tbl.rows) : tbl.lookup t.key = some id := by
  cases h : tbl.lookup t.key with
  | none => exact absurd rfl (lookup_eq_none h _ hm)
  | some id' =>
    obtain ⟨t', hm', hk⟩ := lookup_eq_some h
    rw [(Prod.mk.inj (List.inj_on_of_nodup_map hu hm' hm hk)).1]

/-- A map that keeps each row's id and key finds the same rows. -/
theorem lookup_map {f : Nat × Tx → Nat × Tx} (hf : ∀ p, (f p).1 = p.1 ∧ (f p).2.key = p.2.key)
    (rows : List (Nat × Tx)) (n m : Nat) (k : String × String) :
    (⟨rows.map f, n⟩ : TxTable).lookup k = (⟨rows, m⟩ : TxTable).lookup k := by
  have h1 : ((fun p : Nat × Tx => decide (p.2.key = k)) ∘ f) = fun p => decide (p.2.key = k) :=
    funext fun p => by simp [(hf p).2]
  have h2 : Prod.fst ∘ f = Prod.fst := funext fun p => (hf p).1
  simp only [lookup, List.find?_map, Option.map_map, h1, h2]

theorem keysUnique_append {tbl : TxTable} (hu : tbl.KeysUnique) {t : Tx}
    (h : tbl.lookup t.key = none) (n m : Nat) :
    (⟨tbl.rows ++ [(n, t)], m⟩ : TxTable).KeysUnique := by
  simp only [KeysUnique, List.map_append, List.map_cons, List.map_nil]
  refine hu.append (List.nodup_singleton _) fun x hx hx' => ?_
  obtain ⟨p, hp, rfl⟩ := List.mem_map.mp hx
  exact lookup_eq_none h p hp (List.mem_singleton.mp hx')

end TxTable

/-! ## One statement -/

section Step

variable {tbl : TxTable} {t : Tx} {id : Nat}

theorem queryTxInsert_of_none (stmt : TxInsertStmt) (h : tbl.lookup t.key = none) :
    queryTxInsert stmt tbl t = (.id tbl.nextID, ⟨tbl.rows ++ [(tbl.nextID, t)], tbl.nextID + 1⟩) := by
  simp [queryTxInsert, h]

theorem queryTxInsert_doNothing_of_some (h : tbl.lookup t.key = some id) :
    queryTxInsert .insertTxRowOnConflictDoNothing tbl t = (.id id, ⟨tbl.rows, tbl.nextID + 1⟩) := by
  simp [queryTxInsert, h]

theorem queryTxInsert_upsert_of_some (h : tbl.lookup t.key = some id) :
    queryTxInsert .upsertTxRow tbl t =
      (.id id, ⟨tbl.rows.map (setTxFlags t), tbl.nextID + 1⟩) := by
  simp [queryTxInsert, h]

theorem insertTxnsLoop_cons_id {queryErr : Nat → Option String} {stmt : TxInsertStmt} {k : Nat}
    (hk : queryErr k = none) {tbl' : TxTable} (h : queryTxInsert stmt tbl t = (.id id, tbl'))
    (L : List Tx) (ids : List Nat) :
    insertTxnsLoop queryErr stmt (t :: L) k ids tbl =
      insertTxnsLoop queryErr stmt L (k + 1) (ids ++ [id]) tbl' := by
  simp [insertTxnsLoop, hk, h]

end Step

/-! ## The do-nothing mode -/

/-- The row with id `id` holds `t`'s key. -/
def HoldsKey (rows : List (Nat × Tx)) (id : Nat) (t : Tx) : Prop :=
  ∃ r, (id, r) ∈ rows ∧ r.key = t.key

section DoNothing

variable {queryErr : Nat → Option String} (hq : ∀ k, queryErr k = none)
include hq

/-- A do-nothing run returns an id for every element, that of the row holding
its key, and only appends rows. -/
theorem insertTxnsLoop_doNothing : ∀ (L : List Tx) (k : Nat) (ids : List Nat) (tbl : TxTable),
    tbl.KeysUnique → ∃ ids' tbl',
      insertTxnsLoop queryErr .insertTxRowOnConflictDoNothing L k ids tbl = (.ok (ids ++ ids'), tbl') ∧
      tbl'.KeysUnique ∧ tbl.rows <+: tbl'.rows ∧ List.Forall₂ (HoldsKey tbl'.rows) ids' L
  | [], _, ids, tbl, hu => ⟨[], tbl, by simp [insertTxnsLoop], hu, List.prefix_refl _, .nil⟩
  | t :: L, k, ids, tbl, hu => by
    cases h : tbl.lookup t.key with
    | none =>
      rw [insertTxnsLoop_cons_id (hq k) (queryTxInsert_of_none _ h)]
      obtain ⟨ids', tbl', hrun, hu', hpre, hall⟩ :=
        insertTxnsLoop_doNothing L (k + 1) (ids ++ [tbl.nextID])
          ⟨tbl.rows ++ [(tbl.nextID, t)], tbl.nextID + 1⟩ (TxTable.keysUnique_append hu h _ _)
      exact ⟨tbl.nextID :: ids', tbl', by simpa using hrun, hu', (List.prefix_append _ _).trans hpre,
        .cons ⟨t, hpre.subset (by simp), rfl⟩ hall⟩
    | some id =>
      rw [insertTxnsLoop_cons_id (hq k) (queryTxInsert_doNothing_of_some h)]
      obtain ⟨ids', tbl', hrun, hu', hpre, hall⟩ :=
        insertTxnsLoop_doNothing L (k + 1) (ids ++ [id]) ⟨tbl.rows, tbl.nextID + 1⟩ hu
      obtain ⟨r, hr, hk⟩ := TxTable.lookup_eq_some h
      exact ⟨id :: ids', tbl', by simpa using hrun, hu', hpre, .cons ⟨r, hpre.subset hr, hk⟩ hall⟩

/-- A do-nothing run over keys the table already holds returns their ids and
changes no row. -/
theorem insertTxnsLoop_rerun {rows : List (Nat × Tx)} (hu : (⟨rows, 0⟩ : TxTable).KeysUnique)
    {ids' : List Nat} {L : List Tx} (hall : List.Forall₂ (HoldsKey rows) ids' L) :
    ∀ (k : Nat) (ids : List Nat) (n : Nat),
      insertTxnsLoop queryErr .insertTxRowOnConflictDoNothing L k ids ⟨rows, n⟩ =
        (.ok (ids ++ ids'), ⟨rows, n + L.length⟩) := by
  induction hall with
  | nil => intro k ids n; simp [insertTxnsLoop]
  | @cons id t ids' L hk _ ih =>
    intro k ids n
    obtain ⟨r, hr, hkey⟩ := hk
    have h : (⟨rows, n⟩ : TxTable).lookup t.key = some id := hkey ▸ TxTable.lookup_of_mem hu hr
    rw [insertTxnsLoop_cons_id (hq k) (queryTxInsert_doNothing_of_some h), ih]
    simp only [List.append_assoc, List.singleton_append, List.length_cons]
    rw [show n + 1 + L.length = n + (L.length + 1) by omega]

end DoNothing

/-! ## The upsert mode -/

/-- A row with the flags of the last element of `L` holding its key, if any. -/
def lastFlags (L : List Tx) (p : Nat × Tx) : Nat × Tx :=
  match (L.filter fun t => t.key = p.2.key).getLast? with
  | some t => (p.1, { p.2 with isValidBlock := t.isValidBlock, isMainchainBlock := t.isMainchainBlock })
  | none => p

@[simp] theorem lastFlags_nil : lastFlags [] = id := rfl

theorem lastFlags_id_key (L : List Tx) (p : Nat × Tx) :
    (lastFlags L p).1 = p.1 ∧ (lastFlags L p).2.key = p.2.key := by
  unfold lastFlags; split <;> exact ⟨rfl, rfl⟩

/-- A row whose key `t` does not hold keeps the flags `done` left. -/
theorem lastFlags_append_of_ne {done : List Tx} {t : Tx} {p : Nat × Tx} (hk : p.2.key ≠ t.key) :
    lastFlags (done ++ [t]) p = lastFlags done p := by
  simp [lastFlags, List.filter_append, Ne.symm hk]

/-- The upsert of `t` after those of `done` leaves the flags of the last. -/
theorem setTxFlags_lastFlags (done : List Tx) (t : Tx) (p : Nat × Tx) :
    setTxFlags t (lastFlags done p) = lastFlags (done ++ [t]) p := by
  by_cases hk : p.2.key = t.key
  · have hlast : lastFlags (done ++ [t]) p =
        (p.1, { p.2 with isValidBlock := t.isValidBlock, isMainchainBlock := t.isMainchainBlock }) := by
      simp only [lastFlags, List.filter_append, List.filter_cons, List.filter_nil, hk.symm,
        decide_True, if_true, List.getLast?_concat]
    rw [setTxFlags, if_pos ((lastFlags_id_key done p).2.trans hk), hlast]
    unfold lastFlags; split <;> rfl
  · rw [setTxFlags, if_neg (by rw [(lastFlags_id_key done p).2]; exact hk),
      lastFlags_append_of_ne hk]

theorem lastFlags_self (done : List Tx) (n : Nat) (t : Tx) : lastFlags (done ++ [t]) (n, t) = (n, t) := by
  simp [lastFlags, List.filter_append]

section Upsert

variable {queryErr : Nat → Option String} (hq : ∀ k, queryErr k = none)
include hq

/-- An upsert run is the do-nothing run with each row's flags set by the last
element of the run holding its key. -/
theorem insertTxnsLoop_upsert : ∀ (L done : List Tx) (k : Nat) (ids : List Nat) (tbl : TxTable),
    insertTxnsLoop queryErr .upsertTxRow L k ids ⟨tbl.rows.map (lastFlags done), tbl.nextID⟩ =
      ((insertTxnsLoop queryErr .insertTxRowOnConflictDoNothing L k ids tbl).1,
        ⟨(insertTxnsLoop queryErr .insertTxRowOnConflictDoNothing L k ids tbl).2.rows.map
            (lastFlags (done ++ L)),
          (insertTxnsLoop queryErr .insertTxRowOnConflictDoNothing L k ids tbl).2.nextID⟩)
  | [], done, k, ids, tbl => by simp [insertTxnsLoop]
  | t :: L, done, k, ids, tbl => by
    have hl : (⟨tbl.rows.map (lastFlags done), tbl.nextID⟩ : TxTable).lookup t.key =
        tbl.lookup t.key := TxTable.lookup_map (lastFlags_id_key done) _ _ _ _
    have hrest := insertTxnsLoop_upsert L (done ++ [t]) (k + 1)
    simp only [List.append_assoc, List.singleton_append] at hrest
    cases h : tbl.lookup t.key with
    | none =>
      rw [insertTxnsLoop_cons_id (hq k) (queryTxInsert_of_none _ (hl.trans h)),
        insertTxnsLoop_cons_id (hq k) (queryTxInsert_of_none _ h), ← hrest]
      have hnew : tbl.rows.map (lastFlags done) ++ [(tbl.nextID, t)] =
          (tbl.rows ++ [(tbl.nextID, t)]).map (lastFlags (done ++ [t])) := by
        rw [List.map_append, List.map_singleton, lastFlags_self]
        congr 1
        exact List.map_congr_left fun p hp =>
          (lastFlags_append_of_ne (TxTable.lookup_eq_none h p hp)).symm
      rw [hnew]
    | some id =>
      rw [insertTxnsLoop_cons_id (hq k) (queryTxInsert_upsert_of_some (hl.trans h)),
        insertTxnsLoop_cons_id (hq k) (queryTxInsert_doNothing_of_some h), ← hrest]
      simp only [List.map_map]
      congr 3
      exact funext fun p => setTxFlags_lastFlags done t p

end Upsert

/-! ## `InsertTxns` -/

theorem insertTxns_of_loop {calls : InsertTxnsCalls} (hb : calls.begin = none)
    (hp : calls.prepare = none) (hc : calls.commit = none) {tbl tbl' : TxTable} {L : List Tx}
    {checked upd : Bool} {ids : List Nat}
    (h : insertTxnsLoop calls.queryErr (makeTxInsertStatement checked upd) L 0 [] tbl =
      (.ok ids, tbl')) :
    insertTxns calls tbl L checked upd = ((ids, none), tbl') := by
  simp [insertTxns, hb, hp, hc, h]

/-- **The insert modes agree.**  With unique keys and no failing call, the
do-nothing mode returns the id of the row holding each element's key and only
appends rows; the upsert returns the same ids and differs in the flags only,
set by the last element of each key; and the do-nothing mode run again returns
the same ids and changes no row. -/
theorem insertTxns_modes_agree {calls : InsertTxnsCalls} (hb : calls.begin = none)
    (hp : calls.prepare = none) (hq : ∀ k, calls.queryErr k = none) (hc : calls.commit = none)
    {tbl : TxTable} (hu : tbl.KeysUnique) (L : List Tx) :
    let a := insertTxns calls tbl L true false
    let b := insertTxns calls tbl L true true
    let c := insertTxns calls a.2 L true false
    (a.1.2 = none ∧ List.Forall₂ (HoldsKey a.2.rows) a.1.1 L ∧ tbl.rows <+: a.2.rows ∧
      a.2.KeysUnique) ∧
    (b.1 = a.1 ∧ b.2 = ⟨a.2.rows.map (lastFlags L), a.2.nextID⟩) ∧
    (c.1 = a.1 ∧ c.2.rows = a.2.rows) := by
  obtain ⟨ids, tbl', hrun, hu', hpre, hall⟩ := insertTxnsLoop_doNothing hq L 0 [] tbl hu
  have hup := insertTxnsLoop_upsert hq L [] 0 [] tbl
  simp only [lastFlags_nil, List.map_id, List.nil_append, hrun] at hup
  have hu'' : (⟨tbl'.rows, 0⟩ : TxTable).KeysUnique := hu'
  have hre := insertTxnsLoop_rerun hq hu'' hall 0 [] tbl'.nextID
  simp only [List.nil_append] at hrun hre
  intro a b c
  have ha : a = ((ids, none), tbl') := insertTxns_of_loop hb hp hc hrun
  have hb' : b = ((ids, none), ⟨tbl'.rows.map (lastFlags L), tbl'.nextID⟩) :=
    insertTxns_of_loop hb hp hc hup
  have hc' : c = ((ids, none), ⟨tbl'.rows, tbl'.nextID + L.length⟩) := by
    simp only [c, ha]; exact insertTxns_of_loop hb hp hc hre
  rw [hb', hc', ha]
  exact ⟨⟨rfl, hall, hpre, hu'⟩, ⟨rfl, rfl⟩, ⟨rfl, rfl⟩⟩

/-- A table holding one tx, and a run that repeats it and repeats a new key. -/
theorem insertTxns_modes_agree_repeated_keys :
    (⟨[(1, ⟨"B", 0, "a", 0, [], [], true, true⟩)], 2⟩ : TxTable).KeysUnique ∧
    (insertTxns ⟨none, none, fun _ => none, none⟩ ⟨[(1, ⟨"B", 0, "a", 0, [], [], true, true⟩)], 2⟩
        [⟨"B", 0, "a", 0, [], [], false, false⟩, ⟨"B", 0, "b", 1, [], [], true, true⟩,
          ⟨"B", 0, "b", 1, [], [], false, true⟩] true true).1 =
      (insertTxns ⟨none, none, fun _ => none, none⟩ ⟨[(1, ⟨"B", 0, "a", 0, [], [], true, true⟩)], 2⟩
        [⟨"B", 0, "a", 0, [], [], false, false⟩, ⟨"B", 0, "b", 1, [], [], true, true⟩,
          ⟨"B", 0, "b", 1, [], [], false, true⟩] true false).1 :=
  ⟨by decide, (insertTxns_modes_agree rfl rfl (fun _ => rfl) rfl (by decide) _).2.1.1⟩

end HcData.Pg
