import HcData.Basic

/-!
# The addresses table and its spending linkage

An `addresses` row is one address of one vin or vout.  A funding row (a vout's)
carries in `matching_tx_hash` the hash of the transaction that spent it, once
that is known; a spending row (a vin's) carries the hash of the transaction it
spends from.  `InsertVouts` derives one funding row per address a vout pays to.
`insertSpendingAddressRow` writes the spending row, for the first address of the
spent vout only ("TODO: actually handle bare multisig"), and
`setSpendingForFundingOP` marks the spent outpoint's funding rows, every one of
them, since its statement has no address parameter.

`Linked` is the linkage the spec promises.  It holds over every run in which
each spent vout pays to at most one address (`linked_reachable`), and it fails
after the first spend of a two-address vout (`multisig_spend_unlinked`).
-/

namespace HcData.Pg

/-- The columns of an `addresses` row.  An unset `matching_tx_hash` is the
empty string. -/
structure AddressRow where
  address : String
  matchingTxHash : String
  txHash : String
  txVinVoutIndex : Nat
  vinVoutDbID : Nat
  value : Int
  txBlockTime : Int
  isFunding : Bool
  validMainchain : Bool
  txType : Int
  deriving DecidableEq, Repr

/-- The fields of a `dbtypes.Vout` the address logic reads; `addresses` is
`ScriptPubKeyData.Addresses`. -/
structure Vout where
  txHash : String
  txIndex : Nat
  txTree : Nat
  txType : Int
  value : Int
  addresses : List String
  deriving DecidableEq, Repr

/-- The `vouts` and `addresses` tables. -/
structure AddrDB where
  vouts : List (Nat × Vout)
  addresses : List AddressRow
  deriving DecidableEq, Repr

/-! ## Funding rows -/

/-- The address rows `InsertVouts` builds for a vout whose insert returned `id`:
one per address, with `ValidMainchain`, `MatchingTxHash`, `IsFunding` and
`TxBlockTime` not set. -/
def voutAddressRows (vout : Vout) (id : Nat) : List AddressRow :=
  vout.addresses.map fun addr =>
    ⟨addr, "", vout.txHash, vout.txIndex, id, vout.value, 0, false, false, vout.txType⟩

/-- `InsertVouts` after `Begin` and `Prepare` succeed: each vout's insert returns
an id, `sql.ErrNoRows` (the vout is skipped) or an error (the whole call fails).
On success the vouts are stored and their address rows returned. -/
def insertVouts (insertResult : Nat → RowResult) (db : AddrDB) :
    List Vout → Nat → List Nat → List AddressRow → Except String (List Nat × List AddressRow × AddrDB)
  | [], _, ids, rows => .ok (ids, rows, db)
  | vout :: rest, i, ids, rows =>
    match insertResult i with
    | .error e => .error e
    | .noRows => insertVouts insertResult db rest (i + 1) ids rows
    | .id id =>
      insertVouts insertResult { db with vouts := db.vouts ++ [(id, vout)] } rest (i + 1)
        (ids ++ [id]) (rows ++ voutAddressRows vout id)

/-- Storing the rows `InsertVouts` derived as funding rows.  Modelled from the
spec: the caller that inserts them is not in the source; the spec stores them
with `is_funding = true`, `valid_mainchain` the block's flag, and
`matching_tx_hash` unset. -/
def insertFundingRows (db : AddrDB) (rows : List AddressRow) (validMainchain : Bool)
    (blockTime : Int) : AddrDB :=
  { db with addresses := db.addresses ++ rows.map fun r =>
      { r with isFunding := true, validMainchain := validMainchain, txBlockTime := blockTime } }

@[simp] theorem insertFundingRows_vouts (db : AddrDB) (rows : List AddressRow) (v : Bool)
    (t : Int) : (insertFundingRows db rows v t).vouts = db.vouts := rfl

/-! ## Spending rows -/

/-- `internal.SelectAddressByTxHash`: the addresses and value of the vout at the
outpoint.  `none` is `sql.ErrNoRows`. -/
def selectAddressByTxHash (db : AddrDB) (txHash : String) (index tree : Nat) :
    Option (List String × Int) :=
  (db.vouts.find? fun (_, v) => v.txHash = txHash ∧ v.txIndex = index ∧ v.txTree = tree).map
    fun (_, v) => (v.addresses, v.value)

/-- "Get first address in list": the code strips the braces of the Postgres
array text, splits it on commas and takes the first piece.  Addresses hold
neither braces nor commas, so that piece is the first address, and the empty
string for an empty array or a missing vout. -/
def firstAddress (addrs : List String) : String := addrs.headD ""

/-- The rows `internal.SetAddressMatchingTxHashForOutpoint` selects: the funding
rows of the outpoint. -/
def fundsOutpoint (fundingTxHash : String) (fundingTxVoutIndex : Nat) (r : AddressRow) : Bool :=
  r.txHash == fundingTxHash && r.isFunding && r.txVinVoutIndex == fundingTxVoutIndex

/-- A row after `internal.SetAddressMatchingTxHashForOutpoint`. -/
def markSpent (spendingTxHash fundingTxHash : String) (fundingTxVoutIndex : Nat)
    (r : AddressRow) : AddressRow :=
  if fundsOutpoint fundingTxHash fundingTxVoutIndex r then { r with matchingTxHash := spendingTxHash }
  else r

/-- `internal.SetAddressMatchingTxHashForOutpoint`.  Modelled from the spec:
the statement text is not in the source; its arguments are the spending hash,
the funding hash and the funding output index, and it sets `matching_tx_hash`
on the funding rows of that outpoint.  The rows affected are counted. -/
def setAddressMatchingTxHashForOutpoint (rows : List AddressRow)
    (spendingTxHash fundingTxHash : String) (fundingTxVoutIndex : Nat) : List AddressRow × Nat :=
  (rows.map (markSpent spendingTxHash fundingTxHash fundingTxVoutIndex),
    rows.countP (fundsOutpoint fundingTxHash fundingTxVoutIndex))

section MarkSpent

variable (S F : String) (i : Nat) (r : AddressRow)

@[simp] theorem markSpent_isFunding : (markSpent S F i r).isFunding = r.isFunding := by
  unfold markSpent; split <;> rfl

@[simp] theorem markSpent_address : (markSpent S F i r).address = r.address := by
  unfold markSpent; split <;> rfl

@[simp] theorem markSpent_txHash : (markSpent S F i r).txHash = r.txHash := by
  unfold markSpent; split <;> rfl

@[simp] theorem markSpent_txVinVoutIndex :
    (markSpent S F i r).txVinVoutIndex = r.txVinVoutIndex := by
  unfold markSpent; split <;> rfl

/-- A spending row is never selected, so it is kept as it was. -/
theorem markSpent_of_spending (h : r.isFunding = false) : markSpent S F i r = r := by
  simp [markSpent, fundsOutpoint, h]

end MarkSpent

/-- The arguments of `insertSpendingAddressRow` this model reads.  `utxoData`
is the cached address and value of the spent output, when the caller has it. -/
structure SpendArgs where
  fundingTxHash : String
  fundingTxVoutIndex : Nat
  fundingTxTree : Nat
  spendingTxHash : String
  spendingTxVinIndex : Nat
  vinDbID : Nat
  utxoData : Option (String × Int)
  validMainchain : Bool
  txType : Int
  updateFundingRow : Bool
  blockTime : Int
  deriving DecidableEq, Repr

/-- `insertSpendingAddressRow`, with the block time given and every statement
succeeding: the spending row for the first address of the spent vout, then,
with `updateFundingRow`, `setSpendingForFundingOP` on the spent outpoint,
whose row count is returned. -/
def insertSpendingAddressRow (db : AddrDB) (a : SpendArgs) : Nat × AddrDB :=
  let (addr, value) : String × Int :=
    match a.utxoData with
    | some u => u
    | none =>
      match selectAddressByTxHash db a.fundingTxHash a.fundingTxVoutIndex a.fundingTxTree with
      | some (addrs, v) => (firstAddress addrs, v)
      | none => (firstAddress [], 0)
  let row : AddressRow := ⟨addr, a.fundingTxHash, a.spendingTxHash, a.spendingTxVinIndex,
    a.vinDbID, value, a.blockTime, false, a.validMainchain, a.txType⟩
  let rows := db.addresses ++ [row]
  if a.updateFundingRow then
    let (rows', n) := setAddressMatchingTxHashForOutpoint rows a.spendingTxHash
      a.fundingTxHash a.fundingTxVoutIndex
    (n, { db with addresses := rows' })
  else (0, { db with addresses := rows })

/-! ## The linkage -/

/-- `r'` is a spending partner of the funding row `r`: a spending row of the
same address, in the transaction `r` names as its spender, naming `r`'s
transaction as the one it spends from. -/
def Partner (r r' : AddressRow) : Prop :=
  r'.isFunding = false ∧ r'.address = r.address ∧ r'.txHash = r.matchingTxHash ∧
    r'.matchingTxHash = r.txHash

/-- Every funding row whose `matching_tx_hash` is set has a spending partner. -/
def Linked (rows : List AddressRow) : Prop :=
  ∀ r ∈ rows, r.isFunding = true → r.matchingTxHash ≠ "" → ∃ r' ∈ rows, Partner r r'

instance (r r' : AddressRow) : Decidable (Partner r r') :=
  inferInstanceAs (Decidable (_ ∧ _ ∧ _ ∧ _))

instance (rows : List AddressRow) : Decidable (Linked rows) :=
  inferInstanceAs (Decidable (∀ r ∈ rows, _))

/-! ## Runs -/

/-- One step of a run: a block's `InsertVouts` with its funding rows stored (a
failed call stores nothing), or one `insertSpendingAddressRow`. -/
inductive AddrAction where
  | insertVouts (vouts : List Vout) (results : Nat → RowResult) (validMainchain : Bool)
      (blockTime : Int)
  | spend (a : SpendArgs)

/-- The effect of one action on the tables. -/
def addrStep (db : AddrDB) : AddrAction → AddrDB
  | .insertVouts vouts results valid t =>
    match insertVouts results db vouts 0 [] [] with
    | .ok (_, rows, db') => insertFundingRows db' rows valid t
    | .error _ => db
  | .spend a => (insertSpendingAddressRow db a).2

/-- The tables after a run. -/
def addrRun (db : AddrDB) (as : List AddrAction) : AddrDB := as.foldl addrStep db

/-! ## The linkage over runs -/

/-- Runs from an empty table: each new vout agrees with every stored vout of its
transaction hash and output index on the tree and the addresses (a hash and an
index name one output), and each spend finds the spent vout in the table and
marks its funding rows.  With `single`, every vout pays to at most one address. -/
inductive Reachable (single : Bool) : AddrDB → Prop
  | empty : Reachable single ⟨[], []⟩
  | insertVouts {db : AddrDB} {vouts : List Vout} {results : Nat → RowResult} {valid : Bool}
      {t : Int} : Reachable single db →
      (single = true → ∀ v ∈ vouts, v.addresses.length ≤ 1) →
      (∀ v ∈ vouts, ∀ w ∈ vouts ++ db.vouts.map Prod.snd, v.txHash = w.txHash →
        v.txIndex = w.txIndex → v.txTree = w.txTree ∧ v.addresses = w.addresses) →
      Reachable single (addrStep db (.insertVouts vouts results valid t))
  | spend {db : AddrDB} {a : SpendArgs} : Reachable single db → a.utxoData = none →
      a.updateFundingRow = true →
      (selectAddressByTxHash db a.fundingTxHash a.fundingTxVoutIndex a.fundingTxTree).isSome →
      Reachable single (addrStep db (.spend a))

/-- What every reachable state satisfies when vouts pay to at most one address. -/
structure AddrInv (db : AddrDB) : Prop where
  derived : ∀ r ∈ db.addresses, r.isFunding = true →
    ∃ p ∈ db.vouts, p.2.txHash = r.txHash ∧ p.2.txIndex = r.txVinVoutIndex ∧
      r.address ∈ p.2.addresses
  consistent : ∀ p ∈ db.vouts, ∀ q ∈ db.vouts, p.2.txHash = q.2.txHash →
    p.2.txIndex = q.2.txIndex → p.2.txTree = q.2.txTree ∧ p.2.addresses = q.2.addresses
  single : ∀ p ∈ db.vouts, p.2.addresses.length ≤ 1
  linked : Linked db.addresses

theorem insertVouts_ok {results : Nat → RowResult} : ∀ {db : AddrDB} {vouts : List Vout}
    {i : Nat} {ids : List Nat} {rows : List AddressRow} {ids' : List Nat}
    {rows' : List AddressRow} {db' : AddrDB},
    insertVouts results db vouts i ids rows = .ok (ids', rows', db') →
    db'.addresses = db.addresses ∧ ∃ stored : List (Nat × Vout),
      db'.vouts = db.vouts ++ stored ∧ (∀ p ∈ stored, p.2 ∈ vouts) ∧
      rows' = rows ++ stored.flatMap fun p => voutAddressRows p.2 p.1
  | db, [], i, ids, rows, ids', rows', db', h => by
    simp only [insertVouts, Except.ok.injEq, Prod.mk.injEq] at h
    obtain ⟨-, rfl, rfl⟩ := h
    exact ⟨rfl, [], by simp, by simp, by simp⟩
  | db, v :: rest, i, ids, rows, ids', rows', db', h => by
    simp only [insertVouts] at h
    split at h
    · cases h
    · obtain ⟨ha, stored, hv, hs, hr⟩ := insertVouts_ok h
      exact ⟨ha, stored, hv, fun p hp => List.mem_cons_of_mem _ (hs p hp), hr⟩
    · rename_i id _
      obtain ⟨ha, stored, hv, hs, hr⟩ := insertVouts_ok h
      refine ⟨ha, (id, v) :: stored, by simp [hv], fun p hp => ?_, by simp [hr]⟩
      rcases List.mem_cons.mp hp with rfl | hp
      · exact List.mem_cons_self _ _
      · exact List.mem_cons_of_mem _ (hs p hp)

theorem linked_append_unmatched {rows new : List AddressRow} (h : Linked rows)
    (hnew : ∀ r ∈ new, r.matchingTxHash = "") : Linked (rows ++ new) := by
  intro r hr hf hm
  rcases List.mem_append.mp hr with hr | hr
  · obtain ⟨r', hr', hp⟩ := h r hr hf hm
    exact ⟨r', List.mem_append_left _ hr', hp⟩
  · exact absurd (hnew r hr) hm

theorem selectAddressByTxHash_some {db : AddrDB} {F : String} {i tree : Nat}
    {addrs : List String} {val : Int}
    (h : selectAddressByTxHash db F i tree = some (addrs, val)) :
    ∃ p ∈ db.vouts, p.2.txHash = F ∧ p.2.txIndex = i ∧ p.2.addresses = addrs := by
  simp only [selectAddressByTxHash, Option.map_eq_some'] at h
  obtain ⟨p, hp, he⟩ := h
  have hmem := List.mem_of_find?_eq_some hp
  have hprop := List.find?_some hp
  simp only [decide_eq_true_eq] at hprop
  simp only [Prod.mk.injEq] at he
  exact ⟨p, hmem, hprop.1, hprop.2.1, he.1⟩

theorem addrInv_insertVouts {db : AddrDB} {vouts : List Vout} {results : Nat → RowResult}
    {valid : Bool} {t : Int} (h : AddrInv db)
    (hsingle : ∀ v ∈ vouts, v.addresses.length ≤ 1)
    (hcons : ∀ v ∈ vouts, ∀ w ∈ vouts ++ db.vouts.map Prod.snd, v.txHash = w.txHash →
      v.txIndex = w.txIndex → v.txTree = w.txTree ∧ v.addresses = w.addresses) :
    AddrInv (addrStep db (.insertVouts vouts results valid t)) := by
  simp only [addrStep]
  split
  · rename_i ids rows db' hok
    obtain ⟨ha, stored, hv, hs, hr⟩ := insertVouts_ok hok
    rw [List.nil_append] at hr
    subst hr
    have hin : ∀ p ∈ db'.vouts, p ∈ db.vouts ∨ p.2 ∈ vouts := fun p hp => by
      rw [hv] at hp
      rcases List.mem_append.mp hp with hp | hp
      · exact .inl hp
      · exact .inr (hs p hp)
    refine ⟨fun r hr hf => ?_, fun p hp q hq => ?_, fun p hp => ?_, ?_⟩
    · simp only [insertFundingRows, ha, List.mem_append, List.mem_map, List.mem_flatMap] at hr
      rcases hr with hr | ⟨r0, ⟨p, hp, hr0⟩, rfl⟩
      · obtain ⟨q, hq, h1⟩ := h.derived r hr hf
        exact ⟨q, by rw [insertFundingRows_vouts, hv]; exact List.mem_append_left _ hq, h1⟩
      · simp only [voutAddressRows, List.mem_map] at hr0
        obtain ⟨addr, haddr, rfl⟩ := hr0
        exact ⟨p, by rw [insertFundingRows_vouts, hv]; exact List.mem_append_right _ hp, rfl, rfl, haddr⟩
    · rcases hin p hp with hp' | hp' <;> rcases hin q hq with hq' | hq'
      · exact h.consistent p hp' q hq'
      · intro e1 e2
        obtain ⟨h1, h2⟩ := hcons q.2 hq' p.2 (List.mem_append_right _ (List.mem_map_of_mem _ hp'))
          e1.symm e2.symm
        exact ⟨h1.symm, h2.symm⟩
      · exact hcons p.2 hp' q.2 (List.mem_append_right _ (List.mem_map_of_mem _ hq'))
      · exact hcons p.2 hp' q.2 (List.mem_append_left _ hq')
    · rcases hin p hp with hp' | hp'
      · exact h.single p hp'
      · exact hsingle p.2 hp'
    · simp only [insertFundingRows, ha]
      refine linked_append_unmatched h.linked fun r hr => ?_
      simp only [List.mem_map, List.mem_flatMap, voutAddressRows] at hr
      obtain ⟨r0, ⟨p, -, hr0⟩, rfl⟩ := hr
      obtain ⟨addr, -, rfl⟩ := hr0
      rfl
  · exact h

/-- For a vout of at most one address, "the first address" is its address. -/
theorem firstAddress_of_single {addrs : List String} {x : String} (hx : x ∈ addrs)
    (hl : addrs.length ≤ 1) : firstAddress addrs = x := by
  rcases addrs with _ | ⟨y, _ | ⟨z, addrs⟩⟩
  · cases hx
  · exact (List.mem_singleton.mp hx).symm
  · simp at hl

theorem addrInv_spend {db : AddrDB} {a : SpendArgs} (h : AddrInv db) (hu : a.utxoData = none)
    (hf : a.updateFundingRow = true)
    (hs : (selectAddressByTxHash db a.fundingTxHash a.fundingTxVoutIndex a.fundingTxTree).isSome) :
    AddrInv (addrStep db (.spend a)) := by
  obtain ⟨⟨addrs, val⟩, hsel⟩ := Option.isSome_iff_exists.mp hs
  obtain ⟨p0, hp0, hF, hi, haddrs⟩ := selectAddressByTxHash_some hsel
  simp only [addrStep, insertSpendingAddressRow, hu, hsel, hf, if_true,
    setAddressMatchingTxHashForOutpoint]
  set row : AddressRow := ⟨firstAddress addrs, a.fundingTxHash, a.spendingTxHash,
    a.spendingTxVinIndex, a.vinDbID, val, a.blockTime, false, a.validMainchain, a.txType⟩
  have hrow : markSpent a.spendingTxHash a.fundingTxHash a.fundingTxVoutIndex row = row :=
    markSpent_of_spending _ _ _ _ rfl
  refine ⟨fun r hr hfr => ?_, h.consistent, h.single, fun r hr hfr hm => ?_⟩
  · simp only [List.map_append, List.map_cons, List.map_nil, hrow, List.mem_append,
      List.mem_map, List.mem_singleton] at hr
    rcases hr with ⟨r0, hr0, rfl⟩ | rfl
    · simp only [markSpent_isFunding] at hfr
      obtain ⟨q, hq, h1, h2, h3⟩ := h.derived r0 hr0 hfr
      exact ⟨q, hq, by simpa using h1, by simpa using h2, by simpa using h3⟩
    · exact absurd hfr (by simp [row])
  · simp only [List.map_append, List.map_cons, List.map_nil, hrow, List.mem_append,
      List.mem_map, List.mem_singleton] at hr ⊢
    rcases hr with ⟨r0, hr0, rfl⟩ | rfl
    · simp only [markSpent_isFunding] at hfr
      by_cases hsel' : fundsOutpoint a.fundingTxHash a.fundingTxVoutIndex r0 = true
      · -- the spent outpoint's funding row: its partner is the new spending row
        refine ⟨row, .inr rfl, rfl, ?_, ?_, ?_⟩
        · simp only [fundsOutpoint, Bool.and_eq_true, beq_iff_eq] at hsel'
          obtain ⟨q, hq, hq1, hq2, hq3⟩ := h.derived r0 hr0 hfr
          obtain ⟨-, hadd⟩ := h.consistent q hq p0 hp0 (by rw [hq1, hF, hsel'.1.1])
            (by rw [hq2, hi, hsel'.2])
          have hlen := h.single p0 hp0
          rw [hadd, haddrs] at hq3
          rw [haddrs] at hlen
          simpa [row] using firstAddress_of_single hq3 hlen
        · simp [row, markSpent, hsel']
        · simp only [fundsOutpoint, Bool.and_eq_true, beq_iff_eq] at hsel'
          simp [row, hsel'.1.1]
      · have hkeep : markSpent a.spendingTxHash a.fundingTxHash a.fundingTxVoutIndex r0 = r0 := by
          simp [markSpent, hsel']
        rw [hkeep] at hm ⊢
        obtain ⟨q, hq, hpq⟩ := h.linked r0 hr0 hfr hm
        exact ⟨q, .inl ⟨q, hq, markSpent_of_spending _ _ _ _ hpq.1⟩, hpq⟩
    · exact absurd hfr (by simp [row])

/-- **Single-address runs keep the linkage.** -/
theorem addrInv_reachable {db : AddrDB} (h : Reachable true db) : AddrInv db := by
  induction h with
  | empty => exact ⟨by simp, by simp, by simp, by simp [Linked]⟩
  | insertVouts _ hs hc ih => exact addrInv_insertVouts ih (hs rfl) hc
  | spend _ hu hf hsel ih => exact addrInv_spend ih hu hf hsel

theorem linked_reachable {db : AddrDB} (h : Reachable true db) : Linked db.addresses :=
  (addrInv_reachable h).linked

/-- A one-address output stored and spent. -/
theorem linked_reachable_single_spend :
    Reachable true (addrRun ⟨[], []⟩
      [.insertVouts [⟨"F", 0, 0, 0, 100, ["a1"]⟩] (fun _ => .id 1) true 0,
       .spend ⟨"F", 0, 0, "S", 0, 2, none, true, 0, true, 0⟩]) ∧
    Linked (addrRun ⟨[], []⟩
      [.insertVouts [⟨"F", 0, 0, 0, 100, ["a1"]⟩] (fun _ => .id 1) true 0,
       .spend ⟨"F", 0, 0, "S", 0, 2, none, true, 0, true, 0⟩]).addresses :=
  have h : Reachable true (addrRun ⟨[], []⟩
      [.insertVouts [⟨"F", 0, 0, 0, 100, ["a1"]⟩] (fun _ => .id 1) true 0,
       .spend ⟨"F", 0, 0, "S", 0, 2, none, true, 0, true, 0⟩]) :=
    .spend (.insertVouts .empty (fun _ => by decide) (by decide)) rfl rfl (by decide)
  ⟨h, linked_reachable h⟩

/-- A two-address (bare multisig) output is stored and spent: its second
address's funding row names the spender, which has no spending row for it. -/
theorem multisig_spend_unlinked :
    Reachable false (addrRun ⟨[], []⟩
      [.insertVouts [⟨"F", 0, 0, 0, 100, ["a1", "a2"]⟩] (fun _ => .id 1) true 0,
       .spend ⟨"F", 0, 0, "S", 0, 2, none, true, 0, true, 0⟩]) ∧
    ¬ Linked (addrRun ⟨[], []⟩
      [.insertVouts [⟨"F", 0, 0, 0, 100, ["a1", "a2"]⟩] (fun _ => .id 1) true 0,
       .spend ⟨"F", 0, 0, "S", 0, 2, none, true, 0, true, 0⟩]).addresses :=
  ⟨.spend (.insertVouts .empty (by decide) (by decide)) rfl rfl (by decide), by decide⟩

end HcData.Pg
