import HcData.Pg.Addresses
import HcData.Pg.Transactions

/-!
# Validity flips of the addresses table

When a block is disapproved or leaves the main chain, `UpdateLastAddressesValid`
reads the vin and vout row ids of the block's regular transactions
(`RetrieveTxnsVinsVoutsByBlock`), and `UpdateAddressesMainchainByIDs` sets
`valid_mainchain` on the spending rows of those vins and the funding rows of
those vouts, one statement per id.

Whatever call fails, the table changes in its flags only
(`updateLastAddressesValid_flips`), so every funding row keeps its spending
partner (`updateLastAddressesValid_linked`).  With no failure the flipped rows are exactly those of the block, and a
pair's flags still agree when both rows or neither were flipped
(`updateLastAddressesValid_keeps_partners`).  A funding row of an earlier block
spent in the flipped block is neither flipped nor unmarked:
`flip_splits_linked_pair` disapproves such a spender and leaves the output,
valid and marked spent, out of the UTXO set.

The statements run outside a database transaction.  A failing one returns at
once and leaves the flags that the statements before it set
(`updateAddressesMainchainByIDs_okPrefix`), so an error after the first
statement leaves the block half flipped (`flip_fails_half_way`).
-/

namespace HcData.Pg

/-! ## Reading the block's vins and vouts -/

/-- `internal.SelectTxnsVinsVoutsByBlock`, and with `onlyRegular`
`internal.SelectRegularTxnsVinsVoutsByBlock`, which adds `tree = 0`. -/
def selectTxnsVinsVoutsByBlock (txns : TxTable) (blockHash : String) (onlyRegular : Bool) :
    List Tx :=
  (txns.rows.map Prod.snd).filter fun t => t.blockHash == blockHash && (!onlyRegular || t.tree == 0)

/-- The `rows.Next` loop of `RetrieveTxnsVinsVoutsByBlock`: a failing `Scan` of
the `k`-th row breaks the loop, keeping what was read before it. -/
def scanTxnsVinsVouts (scanErr : Nat → Option String) :
    Nat → List Tx → List (List Nat) × List (List Nat) × List Bool × Option String
  | _, [] => ([], [], [], none)
  | k, t :: ts =>
    match scanErr k with
    | some e => ([], [], [], some e)
    | none =>
      let (vins, vouts, mainchain, err) := scanTxnsVinsVouts scanErr (k + 1) ts
      (t.vinDbIds :: vins, t.voutDbIds :: vouts, t.isMainchainBlock :: mainchain, err)

/-- `RetrieveTxnsVinsVoutsByBlock`; `queryErr` is the error of `QueryContext`. -/
def retrieveTxnsVinsVoutsByBlock (queryErr : Option String) (scanErr : Nat → Option String)
    (txns : TxTable) (blockHash : String) (onlyRegular : Bool) :
    List (List Nat) × List (List Nat) × List Bool × Option String :=
  match queryErr with
  | some e => ([], [], [], some e)
  | none => scanTxnsVinsVouts scanErr 0 (selectTxnsVinsVoutsByBlock txns blockHash onlyRegular)

/-! ## Setting the flags -/

/-- Modelled from the spec: the texts of `internal.SetAddressMainchainForVinIDs`
and `internal.SetAddressMainchainForVoutIDs` are not in the source.  As the
comments of `UpdateAddressesMainchainByIDs` say, they set `valid_mainchain` on
the `is_funding = false` (vin) or `is_funding = true` (vout) rows whose
`tx_vin_vout_row_id` is the given id, and the rows set are counted. -/
def setAddressMainchainForID (isFunding isValidMainchain : Bool) (id : Nat)
    (rows : List AddressRow) : List AddressRow × Nat :=
  (rows.map fun r =>
      if r.isFunding == isFunding && r.vinVoutDbID == id then
        { r with validMainchain := isValidMainchain }
      else r,
    rows.countP fun r => r.isFunding == isFunding && r.vinVoutDbID == id)

/-- `internal.SetAddressMainchainForVinIDs`. -/
def setAddressMainchainForVinIDs : Bool → Nat → List AddressRow → List AddressRow × Nat :=
  setAddressMainchainForID false

/-- `internal.SetAddressMainchainForVoutIDs`. -/
def setAddressMainchainForVoutIDs : Bool → Nat → List AddressRow → List AddressRow × Nat :=
  setAddressMainchainForID true

/-- One `sqlExec` of an update: when `Exec` fails the table is as it was;
otherwise the update is applied and `RowsAffected` is its row count. -/
def execUpdate (execErr : Option String) (execErrPrefix : String) (rows : List AddressRow)
    (update : List AddressRow → List AddressRow × Nat) : (Int × Option String) × List AddressRow :=
  match execErr with
  | some e => (sqlExec execErrPrefix (.error e), rows)
  | none => ((sqlExec execErrPrefix (.affected (.ok (update rows).2))), (update rows).1)

/-- One of the two loops of `UpdateAddressesMainchainByIDs`, over the ids of
every transaction in turn.  The `Exec` of the call's `k`-th statement fails with
`execErr k`, and the first failure returns at once with the count so far. -/
def updateMainchainLoop (execErr : Nat → Option String) (execErrPrefix : String)
    (update : Nat → List AddressRow → List AddressRow × Nat) :
    List Nat → Nat → Int → List AddressRow → (Int × Option String) × List AddressRow
  | [], _, num, rows => ((num, none), rows)
  | id :: ids, k, num, rows =>
    match execUpdate (execErr k) execErrPrefix rows (update id) with
    | ((_, some e), rows') => ((num, some e), rows')
    | ((n, none), rows') => updateMainchainLoop execErr execErrPrefix update ids (k + 1) (num + n) rows'

/-- `UpdateAddressesMainchainByIDs`: the spending rows of every vin id, then the
funding rows of every vout id.  It gives back the two counts and the error. -/
def updateAddressesMainchainByIDs (execErr : Nat → Option String) (rows : List AddressRow)
    (vinsBlk voutsBlk : List (List Nat)) (isValidMainchain : Bool) :
    (Int × Int × Option String) × List AddressRow :=
  match updateMainchainLoop execErr "failed to update spending addresses is_mainchain: "
      (setAddressMainchainForVinIDs isValidMainchain) vinsBlk.flatten 0 0 rows with
  | ((numSpendingRows, some e), rows') => ((numSpendingRows, 0, some e), rows')
  | ((numSpendingRows, none), rows') =>
    let ((numFundingRows, err), rows'') :=
      updateMainchainLoop execErr "failed to update funding addresses is_mainchain: "
        (setAddressMainchainForVoutIDs isValidMainchain) voutsBlk.flatten vinsBlk.flatten.length 0
        rows'
    ((numSpendingRows, numFundingRows, err), rows'')

/-- `UpdateLastAddressesValid`: the flags of the rows of the block's regular
transactions.  The error of `UpdateAddressesMainchainByIDs` is logged and
returned as it is. -/
def updateLastAddressesValid (queryErr : Option String) (scanErr execErr : Nat → Option String)
    (txns : TxTable) (rows : List AddressRow) (blockHash : String) (isValid : Bool) :
    Option String × List AddressRow :=
  match retrieveTxnsVinsVoutsByBlock queryErr scanErr txns blockHash true with
  | (_, _, _, some e) => (some ("unable to retrieve vin data for block " ++ blockHash ++ ": " ++ e), rows)
  | (vinDbIDsBlk, voutDbIDsBlk, _, none) =>
    let ((_, _, err), rows') := updateAddressesMainchainByIDs execErr rows vinDbIDsBlk voutDbIDsBlk isValid
    (err, rows')

/-! ## What a flip changes -/

/-- A row after the statements for the ids `ids` of its kind have set its flag
to `v`. -/
def markMainchain (isFunding : Bool) (ids : List Nat) (v : Bool) (r : AddressRow) : AddressRow :=
  { r with validMainchain :=
      if r.isFunding = isFunding ∧ r.vinVoutDbID ∈ ids then v else r.validMainchain }

/-- A row after the statements for the vin ids `vins`, then for the vout ids
`vouts`. -/
def flipMainchain (vins vouts : List Nat) (v : Bool) (r : AddressRow) : AddressRow :=
  markMainchain true vouts v (markMainchain false vins v r)

/-- The rows those statements select. -/
def Updated (vins vouts : List Nat) (r : AddressRow) : Prop :=
  (r.isFunding = false ∧ r.vinVoutDbID ∈ vins) ∨ (r.isFunding = true ∧ r.vinVoutDbID ∈ vouts)

instance (vins vouts : List Nat) (r : AddressRow) : Decidable (Updated vins vouts r) :=
  inferInstanceAs (Decidable (_ ∨ _))

@[simp] theorem markMainchain_nil (f v : Bool) : markMainchain f [] v = id :=
  funext fun r => by simp [markMainchain]

theorem markMainchain_cons (f v : Bool) (id : Nat) (ids : List Nat) (r : AddressRow) :
    markMainchain f ids v (markMainchain f [id] v r) = markMainchain f (id :: ids) v r := by
  simp only [markMainchain, List.mem_cons, List.mem_singleton]
  congr 1
  split_ifs <;> first | rfl | tauto

theorem setAddressMainchainForID_fst (f v : Bool) (id : Nat) (rows : List AddressRow) :
    (setAddressMainchainForID f v id rows).1 = rows.map (markMainchain f [id] v) := by
  refine List.map_congr_left fun r _ => ?_
  simp only [markMainchain, List.mem_singleton, Bool.and_eq_true, beq_iff_eq]
  split <;> rfl

@[simp] theorem flipMainchain_nil (v : Bool) : flipMainchain [] [] v = id :=
  funext fun r => by simp [flipMainchain]

theorem flipMainchain_validMainchain (vins vouts : List Nat) (v : Bool) (r : AddressRow) :
    (flipMainchain vins vouts v r).validMainchain =
      if Updated vins vouts r then v else r.validMainchain := by
  cases hf : r.isFunding <;> simp [flipMainchain, markMainchain, Updated, hf]

/-! ## The linkage with flags -/

/-- Every funding row whose `matching_tx_hash` is set has a spending partner,
with the same `valid_mainchain` wherever `same` asks for it. -/
def LinkedAgree (same : AddressRow → AddressRow → Prop) (rows : List AddressRow) : Prop :=
  ∀ r ∈ rows, r.isFunding = true → r.matchingTxHash ≠ "" →
    ∃ r' ∈ rows, Partner r r' ∧ (same r r' → r'.validMainchain = r.validMainchain)

instance (same : AddressRow → AddressRow → Prop) [∀ r r', Decidable (same r r')]
    (rows : List AddressRow) : Decidable (LinkedAgree same rows) :=
  inferInstanceAs (Decidable (∀ r ∈ rows, _))

section Partners

variable {rows : List AddressRow} (vins vouts : List Nat) (v : Bool)

/-- A flip keeps a pair's flags equal when it flips both rows or neither. -/
theorem linkedAgree_flip (h : LinkedAgree (fun _ _ => True) rows) :
    LinkedAgree (fun r r' => Updated vins vouts r ↔ Updated vins vouts r')
      (rows.map (flipMainchain vins vouts v)) := by
  intro r hr hf hm
  obtain ⟨r0, hr0, rfl⟩ := List.mem_map.mp hr
  obtain ⟨r0', hr0', hp, hv⟩ := h r0 hr0 hf hm
  refine ⟨_, List.mem_map_of_mem _ hr0', hp, fun hu => ?_⟩
  have hu : Updated vins vouts r0 ↔ Updated vins vouts r0' := hu
  simp only [flipMainchain_validMainchain]
  by_cases hu0 : Updated vins vouts r0
  · rw [if_pos hu0, if_pos (hu.mp hu0)]
  · rw [if_neg hu0, if_neg (mt hu.mpr hu0), hv trivial]

end Partners

/-! ## The loops -/

section Loop

variable (execErr : Nat → Option String) (pfx : String) (f v : Bool)

theorem updateMainchainLoop_cons_ok {k : Nat} (h : execErr k = none) (id : Nat) (ids : List Nat)
    (num : Int) (rows : List AddressRow) :
    updateMainchainLoop execErr pfx (setAddressMainchainForID f v) (id :: ids) k num rows =
      updateMainchainLoop execErr pfx (setAddressMainchainForID f v) ids (k + 1)
        (num + (setAddressMainchainForID f v id rows).2) (rows.map (markMainchain f [id] v)) := by
  simp [updateMainchainLoop, execUpdate, h, sqlExec, sqlExecStmt, setAddressMainchainForID_fst]

theorem updateMainchainLoop_cons_err {k : Nat} {e : String} (h : execErr k = some e) (id : Nat)
    (ids : List Nat) (num : Int) (rows : List AddressRow) :
    updateMainchainLoop execErr pfx (setAddressMainchainForID f v) (id :: ids) k num rows =
      ((num, some (pfx ++ " " ++ e)), rows) := by
  simp [updateMainchainLoop, execUpdate, h, sqlExec, sqlExecStmt]

/-- A loop sets the flag of the rows of the ids before the first failure. -/
theorem updateMainchainLoop_flags : ∀ (ids : List Nat) (k : Nat) (num : Int) (rows : List AddressRow),
    ∃ done, done <+: ids ∧
      (updateMainchainLoop execErr pfx (setAddressMainchainForID f v) ids k num rows).2 =
        rows.map (markMainchain f done v) ∧
      ((updateMainchainLoop execErr pfx (setAddressMainchainForID f v) ids k num rows).1.2 = none →
        done = ids)
  | [], _, _, rows => ⟨[], List.prefix_refl _, by simp [updateMainchainLoop], fun _ => rfl⟩
  | id :: ids, k, num, rows => by
    cases h : execErr k with
    | some e =>
      rw [updateMainchainLoop_cons_err execErr pfx f v h]
      exact ⟨[], List.nil_prefix, by simp, by simp⟩
    | none =>
      rw [updateMainchainLoop_cons_ok execErr pfx f v h]
      obtain ⟨done, hp, hrows, herr⟩ := updateMainchainLoop_flags ids (k + 1) _ _
      refine ⟨id :: done, (List.prefix_cons_inj id).mpr hp, ?_, fun he => by rw [herr he]⟩
      rw [hrows, List.map_map]
      exact List.map_congr_left fun r _ => markMainchain_cons f v id done r

theorem updateMainchainLoop_ok (he : ∀ k, execErr k = none) :
    ∀ (ids : List Nat) (k : Nat) (num : Int) (rows : List AddressRow),
      (updateMainchainLoop execErr pfx (setAddressMainchainForID f v) ids k num rows).1.2 = none
  | [], _, _, _ => rfl
  | id :: ids, k, num, rows => by
    rw [updateMainchainLoop_cons_ok execErr pfx f v (he k)]
    exact updateMainchainLoop_ok he ids _ _ _

end Loop

theorem updateAddressesMainchainByIDs_flags (execErr : Nat → Option String)
    (rows : List AddressRow) (vinsBlk voutsBlk : List (List Nat)) (v : Bool) :
    ∃ vins vouts, vins <+: vinsBlk.flatten ∧ vouts <+: voutsBlk.flatten ∧
      (updateAddressesMainchainByIDs execErr rows vinsBlk voutsBlk v).2 =
        rows.map (flipMainchain vins vouts v) ∧
      ((updateAddressesMainchainByIDs execErr rows vinsBlk voutsBlk v).1.2.2 = none →
        vins = vinsBlk.flatten ∧ vouts = voutsBlk.flatten) := by
  obtain ⟨vins, hpv, hrv, hev⟩ := updateMainchainLoop_flags execErr
    "failed to update spending addresses is_mainchain: " false v vinsBlk.flatten 0 0 rows
  simp only [updateAddressesMainchainByIDs, setAddressMainchainForVinIDs,
    setAddressMainchainForVoutIDs]
  rcases hL : updateMainchainLoop execErr "failed to update spending addresses is_mainchain: "
    (setAddressMainchainForID false v) vinsBlk.flatten 0 0 rows with ⟨⟨nS, _ | e⟩, rows'⟩
  all_goals rw [hL] at hrv hev; simp only at hrv hev ⊢
  · obtain ⟨vouts, hpu, hru, heu⟩ := updateMainchainLoop_flags execErr
      "failed to update funding addresses is_mainchain: " true v voutsBlk.flatten
      vinsBlk.flatten.length 0 rows'
    refine ⟨vins, vouts, hpv, hpu, by rw [hru, hrv, List.map_map]; rfl,
      fun he => ⟨hev trivial, heu he⟩⟩
  · exact ⟨vins, [], hpv, List.nil_prefix, by rw [hrv]; simp [flipMainchain], by simp⟩

theorem updateAddressesMainchainByIDs_ok {execErr : Nat → Option String}
    (he : ∀ k, execErr k = none) (rows : List AddressRow) (vinsBlk voutsBlk : List (List Nat))
    (v : Bool) : (updateAddressesMainchainByIDs execErr rows vinsBlk voutsBlk v).1.2.2 = none := by
  have h1 := updateMainchainLoop_ok execErr "failed to update spending addresses is_mainchain: "
    false v he vinsBlk.flatten 0 0 rows
  simp only [updateAddressesMainchainByIDs, setAddressMainchainForVinIDs,
    setAddressMainchainForVoutIDs]
  rcases hL : updateMainchainLoop execErr "failed to update spending addresses is_mainchain: "
    (setAddressMainchainForID false v) vinsBlk.flatten 0 0 rows with ⟨⟨nS, _ | e⟩, rows'⟩
  · exact updateMainchainLoop_ok execErr _ true v he _ _ _ _
  · rw [hL] at h1; cases h1

theorem scanTxnsVinsVouts_ok {scanErr : Nat → Option String} (hs : ∀ k, scanErr k = none) :
    ∀ (k : Nat) (ts : List Tx), scanTxnsVinsVouts scanErr k ts =
      (ts.map Tx.vinDbIds, ts.map Tx.voutDbIds, ts.map Tx.isMainchainBlock, none)
  | _, [] => rfl
  | k, t :: ts => by simp [scanTxnsVinsVouts, hs k, scanTxnsVinsVouts_ok hs (k + 1) ts]

/-- The vin row ids of the block's regular transactions, in the order the query
gives them. -/
def blockVinDbIDs (txns : TxTable) (blockHash : String) : List Nat :=
  ((selectTxnsVinsVoutsByBlock txns blockHash true).map Tx.vinDbIds).flatten

/-- The vout row ids of the block's regular transactions. -/
def blockVoutDbIDs (txns : TxTable) (blockHash : String) : List Nat :=
  ((selectTxnsVinsVoutsByBlock txns blockHash true).map Tx.voutDbIds).flatten

section Flip

variable {queryErr : Option String} {scanErr execErr : Nat → Option String} {txns : TxTable}
  {rows : List AddressRow} {blockHash : String} {isValid : Bool}

/-- With no failing call, `UpdateLastAddressesValid` flips exactly the rows of
the block's regular transactions. -/
theorem updateLastAddressesValid_eq (hq : queryErr = none) (hs : ∀ k, scanErr k = none)
    (he : ∀ k, execErr k = none) :
    updateLastAddressesValid queryErr scanErr execErr txns rows blockHash isValid =
      (none, rows.map (flipMainchain (blockVinDbIDs txns blockHash)
        (blockVoutDbIDs txns blockHash) isValid)) := by
  have hok := updateAddressesMainchainByIDs_ok he rows
    ((selectTxnsVinsVoutsByBlock txns blockHash true).map Tx.vinDbIds)
    ((selectTxnsVinsVoutsByBlock txns blockHash true).map Tx.voutDbIds) isValid
  obtain ⟨vins, vouts, -, -, h, hids⟩ := updateAddressesMainchainByIDs_flags execErr rows
    ((selectTxnsVinsVoutsByBlock txns blockHash true).map Tx.vinDbIds)
    ((selectTxnsVinsVoutsByBlock txns blockHash true).map Tx.voutDbIds) isValid
  obtain ⟨rfl, rfl⟩ := hids hok
  simp only [updateLastAddressesValid, retrieveTxnsVinsVoutsByBlock, hq, scanTxnsVinsVouts_ok hs]
  exact Prod.ext hok h

/-- **A flip keeps the linkage**, with the flags of a pair equal when both rows
or neither belong to the block's regular transactions. -/
theorem updateLastAddressesValid_keeps_partners (hq : queryErr = none)
    (hs : ∀ k, scanErr k = none) (he : ∀ k, execErr k = none)
    (h : LinkedAgree (fun _ _ => True) rows) :
    (updateLastAddressesValid queryErr scanErr execErr txns rows blockHash isValid).1 = none ∧
    (updateLastAddressesValid queryErr scanErr execErr txns rows blockHash isValid).2 =
      rows.map (flipMainchain (blockVinDbIDs txns blockHash) (blockVoutDbIDs txns blockHash)
        isValid) ∧
    LinkedAgree (fun r r' => Updated (blockVinDbIDs txns blockHash)
        (blockVoutDbIDs txns blockHash) r ↔
      Updated (blockVinDbIDs txns blockHash) (blockVoutDbIDs txns blockHash) r')
      (updateLastAddressesValid queryErr scanErr execErr txns rows blockHash isValid).2 := by
  rw [updateLastAddressesValid_eq hq hs he]
  exact ⟨rfl, rfl, linkedAgree_flip _ _ _ h⟩

end Flip

/-- Block `B` is disapproved after one of its transactions, `S`, spent output 0
of `F`, an earlier transaction.  The update flips `S`'s spending row (vin id 5)
and not `F`'s funding row (vout id 1): the pair no longer agrees, and the output
is still valid and marked spent, so it stays out of the UTXO set. -/
theorem flip_splits_linked_pair :
    let rows : List AddressRow :=
      [⟨"a1", "S", "F", 0, 1, 100, 0, true, true, 0⟩, ⟨"a1", "F", "S", 0, 5, 100, 0, false, true, 0⟩]
    let res := updateLastAddressesValid none (fun _ => none) (fun _ => none)
      ⟨[(1, ⟨"B", 0, "S", 0, [5], [6], true, true⟩)], 2⟩ rows "B" false
    LinkedAgree (fun _ _ => True) rows ∧ res.1 = none ∧ ¬ LinkedAgree (fun _ _ => True) res.2 ∧
      ∃ r ∈ res.2, r.isFunding = true ∧ r.validMainchain = true ∧ r.matchingTxHash ≠ "" ∧
        ∀ r' ∈ res.2, Partner r r' → r'.validMainchain = false := by
  decide

/-- The same block approved again. -/
theorem updateLastAddressesValid_keeps_partners_reapproval :
    let rows : List AddressRow :=
      [⟨"a1", "S", "F", 0, 1, 100, 0, true, true, 0⟩, ⟨"a1", "F", "S", 0, 5, 100, 0, false, true, 0⟩]
    LinkedAgree (fun _ _ => True) rows ∧
      (updateLastAddressesValid none (fun _ => none) (fun _ => none)
        ⟨[(1, ⟨"B", 0, "S", 0, [5], [6], true, true⟩)], 2⟩ rows "B" true).1 = none :=
  ⟨by decide, (updateLastAddressesValid_keeps_partners rfl (fun _ => rfl) (fun _ => rfl)
    (by decide)).1⟩

/-! ## A failure part way -/

/-- How many of the `n` statements from the call's `k`-th on run before one
fails: the statements are not in a database transaction, and the first
failure returns. -/
def okPrefix (execErr : Nat → Option String) (k : Nat) : Nat → Nat
  | 0 => 0
  | n + 1 => if execErr k = none then okPrefix execErr (k + 1) n + 1 else 0

theorem okPrefix_le (execErr : Nat → Option String) : ∀ (k n : Nat), okPrefix execErr k n ≤ n
  | _, 0 => Nat.le_refl _
  | k, n + 1 => by
    unfold okPrefix
    split
    · exact Nat.succ_le_succ (okPrefix_le execErr (k + 1) n)
    · exact Nat.zero_le _

theorem okPrefix_add (execErr : Nat → Option String) : ∀ (k a b : Nat),
    okPrefix execErr k (a + b) =
      if okPrefix execErr k a = a then a + okPrefix execErr (k + a) b else okPrefix execErr k a
  | k, 0, b => by simp [okPrefix]
  | k, a + 1, b => by
    rw [show a + 1 + b = a + b + 1 by omega]
    simp only [okPrefix]
    by_cases h : execErr k = none
    · rw [if_pos h, if_pos h, okPrefix_add execErr (k + 1) a b, show k + 1 + a = k + (a + 1) by omega]
      split <;> split <;> omega
    · rw [if_neg h, if_neg h]
      simp

section Prefix

variable (execErr : Nat → Option String) (pfx : String) (f v : Bool)

/-- A loop flips the rows of the ids that run before its first failure, and
returns nil exactly when none fails. -/
theorem updateMainchainLoop_prefix : ∀ (ids : List Nat) (k : Nat) (num : Int) (rows : List AddressRow),
    (updateMainchainLoop execErr pfx (setAddressMainchainForID f v) ids k num rows).2 =
        rows.map (markMainchain f (ids.take (okPrefix execErr k ids.length)) v) ∧
      ((updateMainchainLoop execErr pfx (setAddressMainchainForID f v) ids k num rows).1.2 = none ↔
        okPrefix execErr k ids.length = ids.length)
  | [], _, _, rows => by simp [updateMainchainLoop, okPrefix]
  | id :: ids, k, num, rows => by
    cases h : execErr k with
    | some e =>
      rw [updateMainchainLoop_cons_err execErr pfx f v h]
      simp [okPrefix, h]
    | none =>
      rw [updateMainchainLoop_cons_ok execErr pfx f v h]
      obtain ⟨hrows, herr⟩ := updateMainchainLoop_prefix ids (k + 1)
        (num + (setAddressMainchainForID f v id rows).2) (rows.map (markMainchain f [id] v))
      refine ⟨?_, by simp only [herr, List.length_cons, okPrefix, h, if_true, Nat.add_right_cancel_iff]⟩
      rw [hrows, List.map_map]
      simp only [List.length_cons, okPrefix, h, if_true, List.take_succ_cons]
      exact List.map_congr_left fun r _ => markMainchain_cons f v id _ r

end Prefix

/-- **The address flags without a transaction.**  `UpdateAddressesMainchainByIDs`
runs one statement per vin id, then one per vout id, until the first failure:
the spending rows of the vin ids and the funding rows of the vout ids among
the statements that ran have `valid_mainchain = v`, every other row is as it
was, and the call returns nil exactly when no statement failed.  After a
successful retrieval `UpdateLastAddressesValid` passes the result through. -/
theorem updateAddressesMainchainByIDs_okPrefix (execErr : Nat → Option String)
    (rows : List AddressRow) (vinsBlk voutsBlk : List (List Nat)) (v : Bool) :
    (updateAddressesMainchainByIDs execErr rows vinsBlk voutsBlk v).2 =
        rows.map (flipMainchain
          (vinsBlk.flatten.take (okPrefix execErr 0 (vinsBlk.flatten.length + voutsBlk.flatten.length)))
          (voutsBlk.flatten.take
            (okPrefix execErr 0 (vinsBlk.flatten.length + voutsBlk.flatten.length) -
              vinsBlk.flatten.length)) v) ∧
      ((updateAddressesMainchainByIDs execErr rows vinsBlk voutsBlk v).1.2.2 = none ↔
        okPrefix execErr 0 (vinsBlk.flatten.length + voutsBlk.flatten.length) =
          vinsBlk.flatten.length + voutsBlk.flatten.length) ∧
      ∀ (scanErr : Nat → Option String) (txns : TxTable) (blockHash : String),
        (∀ k, scanErr k = none) →
        updateLastAddressesValid none scanErr execErr txns rows blockHash v =
          ((updateAddressesMainchainByIDs execErr rows
              ((selectTxnsVinsVoutsByBlock txns blockHash true).map Tx.vinDbIds)
              ((selectTxnsVinsVoutsByBlock txns blockHash true).map Tx.voutDbIds) v).1.2.2,
            (updateAddressesMainchainByIDs execErr rows
              ((selectTxnsVinsVoutsByBlock txns blockHash true).map Tx.vinDbIds)
              ((selectTxnsVinsVoutsByBlock txns blockHash true).map Tx.voutDbIds) v).2) := by
  refine and_assoc.mp ⟨?_, fun scanErr txns blockHash hs => by
    simp only [updateLastAddressesValid, retrieveTxnsVinsVoutsByBlock, scanTxnsVinsVouts_ok hs]⟩
  obtain ⟨hr1, he1⟩ := updateMainchainLoop_prefix execErr
    "failed to update spending addresses is_mainchain: " false v vinsBlk.flatten 0 0 rows
  have hle := okPrefix_le execErr 0 vinsBlk.flatten.length
  simp only [updateAddressesMainchainByIDs, setAddressMainchainForVinIDs,
    setAddressMainchainForVoutIDs]
  rw [okPrefix_add, Nat.zero_add]
  rcases hL : updateMainchainLoop execErr "failed to update spending addresses is_mainchain: "
    (setAddressMainchainForID false v) vinsBlk.flatten 0 0 rows with ⟨⟨nS, _ | e⟩, rows'⟩ <;>
    rw [hL] at hr1 he1 <;> simp only at hr1 he1 ⊢
  · -- every vin statement ran: the vout loop goes on from position `vins.length`
    have hfull := he1.mp trivial
    rw [hfull, List.take_length] at hr1
    subst hr1
    obtain ⟨hr2, he2⟩ := updateMainchainLoop_prefix execErr
      "failed to update funding addresses is_mainchain: " true v voutsBlk.flatten
      vinsBlk.flatten.length 0 (rows.map (markMainchain false vinsBlk.flatten v))
    rw [if_pos hfull, Nat.add_sub_cancel_left, List.take_of_length_le (by omega), hr2, List.map_map]
    exact ⟨rfl, by rw [he2]; omega⟩
  · -- a vin statement failed: no vout statement ran
    have hne : okPrefix execErr 0 vinsBlk.flatten.length ≠ vinsBlk.flatten.length :=
      fun h => nomatch he1.mpr h
    rw [if_neg hne, hr1, Nat.sub_eq_zero_of_le hle, List.take_zero]
    exact ⟨by simp [flipMainchain], by simp only [reduceCtorEq, false_iff]; omega⟩

/-- The vout statement of a block with one vin and one vout fails: one statement
ran. -/
theorem updateAddressesMainchainByIDs_okPrefix_half :
    okPrefix (fun k => if k = 1 then some "driver: bad connection" else none) 0 2 = 1 ∧
    (updateAddressesMainchainByIDs (fun k => if k = 1 then some "driver: bad connection" else none)
        [⟨"a1", "", "S", 0, 5, 100, 0, false, true, 0⟩, ⟨"a2", "", "S", 0, 6, 50, 0, true, true, 0⟩]
        [[5]] [[6]] false).2 =
      [⟨"a1", "", "S", 0, 5, 100, 0, false, true, 0⟩, ⟨"a2", "", "S", 0, 6, 50, 0, true, true, 0⟩].map
        (flipMainchain [5] [] false) :=
  ⟨by decide, (updateAddressesMainchainByIDs_okPrefix _ _ _ _ _).1.trans rfl⟩

/-- Block `B` has one regular transaction, with one vin (row id 5) and one vout
(row id 6).  The statement for the vout fails after the one for the vin ran:
the call returns the error and the spending row of vin 5 is already
invalid. -/
theorem flip_fails_half_way :
    updateLastAddressesValid none (fun _ => none)
        (fun k => if k = 1 then some "driver: bad connection" else none)
        ⟨[(1, ⟨"B", 0, "S", 0, [5], [6], true, true⟩)], 2⟩
        [⟨"a1", "", "S", 0, 5, 100, 0, false, true, 0⟩, ⟨"a2", "", "S", 0, 6, 50, 0, true, true, 0⟩]
        "B" false =
      (some "failed to update funding addresses is_mainchain:  driver: bad connection",
        [⟨"a1", "", "S", 0, 5, 100, 0, false, false, 0⟩, ⟨"a2", "", "S", 0, 6, 50, 0, true, true, 0⟩]) := by
  decide

end HcData.Pg
