import Mathlib.Algebra.Order.Ring.Int
import Mathlib.Data.List.Basic
import HcData.Basic

/-!
# Updates of the last block's rows

`UpdateLastBlockValid`, `UpdateBlockNext` and `UpdateBlockNextByHash` each run
one `UPDATE` that must change exactly one row, checked by `exactlyOneRow`.  The
first goes through `sqlExec`; the other two call `db.Exec` and `RowsAffected`
themselves, and panic on a nil result.

`UpdateLastVins` reads the block's transactions with `RetrieveTxsByBlockHash`,
which returns its columns as five slices, and updates the vins of each
transaction in turn, indexing the slices of times and trees by the position of
the hash.  The slices are appended together row by row, so the indexing never
panics (`updateLastVins_ret`).  The updates run outside any database
transaction: when one fails, or changes no row, the call returns its error
after the updates of the transactions before it have run, and nothing undoes
them (`updateLastVins_partial`).
-/

namespace HcData.Pg

/-! ## Exactly one row -/

/-- The check of an update that must change exactly one row: the update's
error, or `msg numRows` when it changed another number of rows. -/
def exactlyOneRow (msg : Int → String) : Int × Option String → Option String
  | (_, some e) => some e
  | (numRows, none) => if numRows ≠ 1 then some (msg numRows) else none

/-- `db.Exec` then `res.RowsAffected()`, with no check of the result for nil:
errors come back as they are. -/
def execRowsAffected : ExecResult → Outcome (Int × Option String)
  | .error e => .ret (0, some e)
  | .noResult => .panic errNilDereference
  | .affected (.error e) => .ret (0, some e)
  | .affected (.ok n) => .ret (n, none)

/-- `UpdateLastBlockValid`, with the answer of its `UPDATE`. -/
def updateLastBlockValid (r : ExecResult) : Option String :=
  exactlyOneRow (fun numRows => "UpdateLastBlockValid failed to update exactly 1 row" ++
      "(" ++ toString numRows ++ ")")
    (sqlExec "failed to update last block validity: " r)

/-- `UpdateBlockNext`, with the answer of its `UPDATE`. -/
def updateBlockNext (r : ExecResult) : Outcome (Option String) :=
  (execRowsAffected r).map <| exactlyOneRow fun numRows =>
    "UpdateBlockNext failed to update exactly 1 row (" ++ toString numRows ++ ")"

/-- `UpdateBlockNextByHash`, with the answer of its `UPDATE`. -/
def updateBlockNextByHash (r : ExecResult) : Outcome (Option String) :=
  (execRowsAffected r).map <| exactlyOneRow fun numRows =>
    "UpdateBlockNextByHash failed to update exactly 1 row (" ++ toString numRows ++ ")"

/-! ## The transactions of a block -/

/-- A row of `SelectTxsByBlockHash`, with the block time in Unix seconds. -/
structure TxOfBlockRow where
  id : Nat
  tx : String
  blockInd : Nat
  tree : Int
  blockTime : Int
  deriving DecidableEq, Repr

/-- The five slices `RetrieveTxsByBlockHash` returns. -/
structure TxsOfBlock where
  ids : List Nat
  txs : List String
  blockInds : List Nat
  trees : List Int
  blockTimes : List Int
  deriving DecidableEq, Repr

/-- The nil slices the results start from. -/
def TxsOfBlock.empty : TxsOfBlock := ⟨[], [], [], [], []⟩

/-- The appends of one scanned row. -/
def TxsOfBlock.push (t : TxsOfBlock) (r : TxOfBlockRow) : TxsOfBlock :=
  ⟨t.ids ++ [r.id], t.txs ++ [r.tx], t.blockInds ++ [r.blockInd], t.trees ++ [r.tree],
    t.blockTimes ++ [r.blockTime]⟩

/-- The rows loop: a row that fails to scan breaks it with `err` set. -/
def txsOfBlockLoop : List (Except String TxOfBlockRow) → TxsOfBlock → TxsOfBlock × Option String
  | [], t => (t, none)
  | .error e :: _, t => (t, some e)
  | .ok r :: rs, t => txsOfBlockLoop rs (t.push r)

/-- `RetrieveTxsByBlockHash`, with the answer of the query. -/
def retrieveTxsByBlockHash (query : Except String (List (Except String TxOfBlockRow))) :
    TxsOfBlock × Option String :=
  match query with
  | .error e => (.empty, some e)
  | .ok rows => txsOfBlockLoop rows .empty

/-- The five slices line up: each has one entry per transaction hash. -/
structure TxsOfBlock.Aligned (t : TxsOfBlock) : Prop where
  ids : t.ids.length = t.txs.length
  blockInds : t.blockInds.length = t.txs.length
  trees : t.trees.length = t.txs.length
  blockTimes : t.blockTimes.length = t.txs.length

theorem TxsOfBlock.Aligned.push {t : TxsOfBlock} (h : t.Aligned) (r : TxOfBlockRow) :
    (t.push r).Aligned :=
  ⟨by simp [TxsOfBlock.push, h.ids], by simp [TxsOfBlock.push, h.blockInds],
    by simp [TxsOfBlock.push, h.trees], by simp [TxsOfBlock.push, h.blockTimes]⟩

theorem txsOfBlockLoop_aligned :
    ∀ (rows : List (Except String TxOfBlockRow)) {t : TxsOfBlock}, t.Aligned →
      (txsOfBlockLoop rows t).1.Aligned
  | [], _, h => h
  | .error _ :: _, _, h => h
  | .ok r :: rs, _, h => txsOfBlockLoop_aligned rs (h.push r)

theorem retrieveTxsByBlockHash_aligned (query : Except String (List (Except String TxOfBlockRow))) :
    (retrieveTxsByBlockHash query).1.Aligned := by
  have h0 : TxsOfBlock.empty.Aligned := ⟨rfl, rfl, rfl, rfl⟩
  cases query with
  | error e => exact h0
  | ok rows => exact txsOfBlockLoop_aligned rows h0

theorem txsOfBlockLoop_ok (rows : List TxOfBlockRow) :
    ∀ t : TxsOfBlock, txsOfBlockLoop (rows.map .ok) t =
      (⟨t.ids ++ rows.map TxOfBlockRow.id, t.txs ++ rows.map TxOfBlockRow.tx,
        t.blockInds ++ rows.map TxOfBlockRow.blockInd, t.trees ++ rows.map TxOfBlockRow.tree,
        t.blockTimes ++ rows.map TxOfBlockRow.blockTime⟩, none) := by
  induction rows with
  | nil => intro t; simp [txsOfBlockLoop]
  | cons r rs ih => intro t; simp [txsOfBlockLoop, ih, TxsOfBlock.push]

/-! ## The vins of the last block -/

/-- The arguments of one `SetIsValidIsMainchainByTxHash` update. -/
structure VinsUpdate where
  isValid : Bool
  isMainchain : Bool
  txHash : String
  blockTime : Int
  tree : Int
  deriving DecidableEq, Repr

/-- The checks after one update: its `sqlExec` error, or an error when it
changed no row. -/
def vinsUpdateCheck (r : ExecResult) : Option String :=
  match sqlExec "failed to update last vins tx validity: " r with
  | (_, some e) => some e
  | (n, none) => if n < 1 then some " failed to update at least 1 row" else none

/-- The loop of `UpdateLastVins` over the hashes, with `timestamps[i]` and
`trees[i]` indexed by position.  It returns the error, and the updates whose
`Exec` ran, in order. -/
def updateLastVinsLoop (isValid isMainchain : Bool) (exec : Nat → ExecResult)
    (trees timestamps : List Int) : List String → Nat → List VinsUpdate →
      Outcome (Option String × List VinsUpdate)
  | [], _, ran => .ret (none, ran)
  | txHash :: rest, i, ran =>
    match timestamps[i]? with
    | none => .panic (errIndexOutOfRange i timestamps.length)
    | some t =>
      match trees[i]? with
      | none => .panic (errIndexOutOfRange i trees.length)
      | some tree =>
        let ran := if (exec i).ran then ran ++ [⟨isValid, isMainchain, txHash, t, tree⟩] else ran
        match vinsUpdateCheck (exec i) with
        | some e => .ret (some e, ran)
        | none => updateLastVinsLoop isValid isMainchain exec trees timestamps rest (i + 1) ran

/-- `UpdateLastVins`, with the answer of the query of the block's transactions
and the answer of each update by position. -/
def updateLastVins (isValid isMainchain : Bool)
    (query : Except String (List (Except String TxOfBlockRow))) (exec : Nat → ExecResult) :
    Outcome (Option String × List VinsUpdate) :=
  match retrieveTxsByBlockHash query with
  | (_, some e) => .ret (some e, [])
  | (t, none) => updateLastVinsLoop isValid isMainchain exec t.trees t.blockTimes t.txs 0 []

theorem updateLastVinsLoop_ret (isValid isMainchain : Bool) (exec : Nat → ExecResult)
    (trees timestamps : List Int) :
    ∀ (txs : List String) (i : Nat) (ran : List VinsUpdate),
      i + txs.length ≤ trees.length → i + txs.length ≤ timestamps.length →
      ∃ r, updateLastVinsLoop isValid isMainchain exec trees timestamps txs i ran = .ret r
  | [], _, ran, _, _ => ⟨_, rfl⟩
  | txHash :: rest, i, ran, htr, hts => by
    simp only [List.length_cons] at htr hts
    rw [updateLastVinsLoop, List.getElem?_eq_getElem (by omega : i < timestamps.length),
      List.getElem?_eq_getElem (by omega : i < trees.length)]
    dsimp only
    cases vinsUpdateCheck (exec i) with
    | some e => exact ⟨_, rfl⟩
    | none =>
      dsimp only
      exact updateLastVinsLoop_ret isValid isMainchain exec trees timestamps rest (i + 1) _
        (by omega) (by omega)

/-- Whatever the query and the updates answer, `UpdateLastVins` returns: the
times and trees it indexes by the position of each hash have an entry for
every hash. -/
theorem updateLastVins_ret (isValid isMainchain : Bool)
    (query : Except String (List (Except String TxOfBlockRow))) (exec : Nat → ExecResult) :
    ∃ r, updateLastVins isValid isMainchain query exec = .ret r := by
  have h := retrieveTxsByBlockHash_aligned query
  unfold updateLastVins
  rcases hq : retrieveTxsByBlockHash query with ⟨t, _ | e⟩
  · rw [hq] at h
    dsimp only at h
    exact updateLastVinsLoop_ret isValid isMainchain exec _ _ t.txs 0 [] (by rw [h.trees]; omega)
      (by rw [h.blockTimes]; omega)
  · exact ⟨_, rfl⟩

/-- The update of the vins of one transaction. -/
def vinsUpdate (isValid isMainchain : Bool) (r : TxOfBlockRow) : VinsUpdate :=
  ⟨isValid, isMainchain, r.tx, r.blockTime, r.tree⟩

/-- An update that passes its checks ran. -/
theorem vinsUpdateCheck_ran {r : ExecResult} (h : vinsUpdateCheck r = none) : r.ran = true := by
  cases r with
  | error e => cases h
  | noResult => rfl
  | affected n => rfl

/-- The loop run over the rows themselves, from position `i`. -/
def vinsRun (isValid isMainchain : Bool) (exec : Nat → ExecResult) :
    List TxOfBlockRow → Nat → List VinsUpdate → Option String × List VinsUpdate
  | [], _, ran => (none, ran)
  | r :: rs, i, ran =>
    let ran := if (exec i).ran then ran ++ [vinsUpdate isValid isMainchain r] else ran
    match vinsUpdateCheck (exec i) with
    | some e => (some e, ran)
    | none => vinsRun isValid isMainchain exec rs (i + 1) ran

/-- Over the columns of `all`, the indexed loop from position `i` is the loop
over the rows from `i` on. -/
theorem updateLastVinsLoop_eq_vinsRun (isValid isMainchain : Bool) (exec : Nat → ExecResult)
    (all : List TxOfBlockRow) :
    ∀ (rest : List TxOfBlockRow) (i : Nat) (ran : List VinsUpdate), all.drop i = rest →
      updateLastVinsLoop isValid isMainchain exec (all.map TxOfBlockRow.tree)
          (all.map TxOfBlockRow.blockTime) (rest.map TxOfBlockRow.tx) i ran =
        .ret (vinsRun isValid isMainchain exec rest i ran)
  | [], _, _, _ => rfl
  | r :: rs, i, ran, h => by
    have hi : all[i]? = some r := by rw [← Nat.add_zero i, ← List.getElem?_drop, h]; exact List.getElem?_cons_zero
    have hrs : all.drop (i + 1) = rs := by rw [← List.drop_drop, h]; rfl
    simp only [List.map_cons, updateLastVinsLoop, List.getElem?_map, hi, Option.map_some']
    dsimp only [vinsRun, vinsUpdate]
    split
    · rfl
    · exact updateLastVinsLoop_eq_vinsRun isValid isMainchain exec all rs (i + 1) _ hrs

/-- A prefix whose updates all pass adds its updates and moves on. -/
theorem vinsRun_append (isValid isMainchain : Bool) (exec : Nat → ExecResult)
    (rest : List TxOfBlockRow) :
    ∀ (pre : List TxOfBlockRow) (i : Nat) (ran : List VinsUpdate),
      (∀ j < pre.length, vinsUpdateCheck (exec (i + j)) = none) →
      vinsRun isValid isMainchain exec (pre ++ rest) i ran =
        vinsRun isValid isMainchain exec rest (i + pre.length)
          (ran ++ pre.map (vinsUpdate isValid isMainchain))
  | [], i, ran, _ => by simp
  | r :: pre, i, ran, h => by
    have h0 : vinsUpdateCheck (exec i) = none := h 0 (Nat.succ_pos _)
    have ih := vinsRun_append isValid isMainchain exec rest pre (i + 1)
      (ran ++ [vinsUpdate isValid isMainchain r]) fun j hj => by
        rw [show i + 1 + j = i + (j + 1) by omega]
        exact h (j + 1) (Nat.succ_lt_succ hj)
    rw [List.cons_append]
    simp only [vinsRun, vinsUpdateCheck_ran h0, if_true, h0]
    rw [ih, List.map_cons, List.length_cons, List.append_assoc, List.singleton_append,
      show i + (pre.length + 1) = i + 1 + pre.length by omega]

/-- When the query gives the block's transactions and the update of the
`k`-th one's vins fails or changes no row, after those before it each changed
some, `UpdateLastVins` returns that update's error; the updates of the `k`
transactions before it have run, and no transaction undoes them. -/
theorem updateLastVins_partial (isValid isMainchain : Bool) (rows : List TxOfBlockRow)
    (exec : Nat → ExecResult) {k : Nat} (hk : k < rows.length)
    (hok : ∀ j < k, vinsUpdateCheck (exec j) = none) {e : String}
    (hfail : vinsUpdateCheck (exec k) = some e) :
    updateLastVins isValid isMainchain (.ok (rows.map .ok)) exec =
      .ret (some e, (rows.take k).map (vinsUpdate isValid isMainchain) ++
        if (exec k).ran then [vinsUpdate isValid isMainchain (rows.get ⟨k, hk⟩)] else []) := by
  have hsplit : rows = rows.take k ++ rows.get ⟨k, hk⟩ :: rows.drop (k + 1) := by
    rw [List.get_eq_getElem, ← List.drop_eq_getElem_cons hk, List.take_append_drop]
  have htake : (rows.take k).length = k := List.length_take_of_le (by omega)
  simp only [updateLastVins, retrieveTxsByBlockHash, txsOfBlockLoop_ok, TxsOfBlock.empty,
    List.nil_append]
  have hpre := vinsRun_append isValid isMainchain exec (rows.get ⟨k, hk⟩ :: rows.drop (k + 1))
    (rows.take k) 0 [] (by simpa [htake] using hok)
  rw [← hsplit] at hpre
  rw [updateLastVinsLoop_eq_vinsRun isValid isMainchain exec rows rows 0 [] rfl, hpre]
  simp only [htake, Nat.zero_add, vinsRun, hfail, List.nil_append]
  split <;> simp

/-- Two transactions of a block. -/
def lastTxs : List TxOfBlockRow := [⟨1, "t0", 0, 0, 100⟩, ⟨2, "t1", 1, 0, 100⟩]

/-- The first update changes three rows, the second none. -/
def secondUpdatesNone (i : Nat) : ExecResult := if i = 0 then .affected (.ok 3) else .affected (.ok 0)

theorem updateLastVins_partial_second :
    (1 < lastTxs.length ∧ (∀ j < 1, vinsUpdateCheck (secondUpdatesNone j) = none) ∧
      vinsUpdateCheck (secondUpdatesNone 1) = some " failed to update at least 1 row") ∧
    updateLastVins true true (.ok (lastTxs.map .ok)) secondUpdatesNone =
      .ret (some " failed to update at least 1 row",
        (lastTxs.take 1).map (vinsUpdate true true) ++
          if (secondUpdatesNone 1).ran then [vinsUpdate true true (lastTxs.get ⟨1, by decide⟩)]
          else []) :=
  have hok : ∀ j < 1, vinsUpdateCheck (secondUpdatesNone j) = none := by
    intro j hj
    obtain rfl : j = 0 := by omega
    rfl
  ⟨⟨by decide, hok, rfl⟩, updateLastVins_partial true true _ _ (by decide) hok rfl⟩

end HcData.Pg
