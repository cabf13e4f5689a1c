import Mathlib.Algebra.Order.Ring.Nat
import HcData.Insight.AddressTxns

/-!
# Insight: the address summary and its unconfirmed balance

`getAddressInfo` answers an address's confirmed totals from the database and,
from the mempool, its unconfirmed transactions and unconfirmed balance.  The
mempool part runs the two `..._TX_DUPLICATE_CHECK` loops of `getAddressesTxn`,
and adds up the balance on the way: each funding transaction adds the value of
the output its outpoint names, and each spending transaction subtracts the value
of the previous output its input spends.

The loops skip a transaction already in `recentTxs`, and they append every
transaction they count to it, so each transaction counts once, through the
first entry that names it (`addressInfoUnconfirmed_spec`).  The balance therefore
holds one output of a mempool transaction that pays the address twice, and
nothing spent by a mempool transaction that also pays the address its change:
that spend is skipped because the transaction is already listed as funding.

The two loops differ only in the entry's key and what it adds: they are one
`balanceLoop` with those as parameters.
-/

namespace HcData.Insight

/-- `txhelpers.PrevOut` with `InputIndex`, the input of `TxSpending` that spends
the outpoint. -/
structure PrevOutIn extends PrevOut where
  inputIndex : Nat
  deriving DecidableEq, Repr

/-- `txhelpers.TxWithBlockData` with the previous outpoint of each input of its
transaction. -/
structure TxWithInputs extends TxWithBlockData where
  txIn : List OutPoint
  deriving DecidableEq, Repr

/-- `txhelpers.AddressOutpoints`, with the prevouts' input indexes and the
transactions' inputs. -/
structure AddressOutpointsIn where
  outpoints : List OutPoint
  prevOuts : List PrevOutIn
  txnsStore : String → Option TxWithInputs

/-! ## The unconfirmed balance -/

/-- A duplicate-check loop of `getAddressInfo`: an entry whose transaction
(`key`) is recent is skipped, and so is one whose transaction `TxnsStore`
lacks or holds as confirmed; any other adds `delta` to the balance, an `int64`
that wraps around, and its transaction to both lists. -/
def balanceLoop {E : Type} (store : String → Option TxWithInputs) (key : E → String)
    (delta : E → TxWithInputs → Outcome Int) :
    List E → List String × List String × Int → Outcome (List String × List String × Int)
  | [], st => .ret st
  | e :: es, (recentTxs, unconfirmedTxs, balance) =>
    if recentTxs.contains (key e) then balanceLoop store key delta es (recentTxs, unconfirmedTxs, balance)
    else
      match store (key e) with
      | none => balanceLoop store key delta es (recentTxs, unconfirmedTxs, balance)
      | some tx =>
        if tx.confirmed then balanceLoop store key delta es (recentTxs, unconfirmedTxs, balance)
        else (delta e tx).bind fun d =>
          balanceLoop store key delta es
            (recentTxs ++ [key e], unconfirmedTxs ++ [key e], wrapInt64 (balance + d))

/-- What a funding outpoint adds: `fundingTx.Tx.TxOut[f.Index].Value`. -/
def fundingDelta (f : OutPoint) (fundingTx : TxWithInputs) : Outcome Int :=
  match fundingTx.txOut[f.index]? with
  | none => .panic (errIndexOutOfRange f.index fundingTx.txOut.length)
  | some out => .ret out.value

/-- What a spending prevout subtracts: the value of the output that input
`f.InputIndex` of the spending transaction spends, looked up in `TxnsStore`,
where a missing transaction is a nil pointer. -/
def spendingDelta (store : String → Option TxWithInputs) (f : PrevOutIn) (spendingTx : TxWithInputs) :
    Outcome Int :=
  match spendingTx.txIn[f.inputIndex]? with
  | none => .panic (errIndexOutOfRange f.inputIndex spendingTx.txIn.length)
  | some prev =>
    match store prev.hash with
    | none => .panic errNilDereference
    | some prevTx =>
      match prevTx.txOut[prev.index]? with
      | none => .panic (errIndexOutOfRange prev.index prevTx.txOut.length)
      | some out => .ret (-out.value)

/-- The two loops of `getAddressInfo` over a non-nil `addressOuts`: the
recent, the unconfirmed transactions and the unconfirmed balance after them. -/
def addressInfoUnconfirmed (addressOuts : AddressOutpointsIn) (recentTxs : List String) :
    Outcome (List String × List String × Int) :=
  (balanceLoop addressOuts.txnsStore OutPoint.hash fundingDelta addressOuts.outpoints
    (recentTxs, [], 0)).bind
    (balanceLoop addressOuts.txnsStore (fun f => f.txSpending) (spendingDelta addressOuts.txnsStore)
      addressOuts.prevOuts)

/-! ## Each transaction counts once, through its first entry -/

/-- `TxnsStore` holds the transaction, unconfirmed. -/
def unconfirmedIn (store : String → Option TxWithInputs) (t : String) : Bool :=
  match store t with
  | some tx => !tx.confirmed
  | none => false

/-- What an entry adds to the balance when the loop counts it. -/
def deltaOf {E : Type} (store : String → Option TxWithInputs) (key : E → String)
    (delta : E → TxWithInputs → Outcome Int) (e : E) : Int :=
  match store (key e) with
  | some tx =>
    match delta e tx with
    | .ret d => d
    | _ => 0
  | none => 0

/-- The value of the output a funding outpoint names. -/
def outValue (store : String → Option TxWithInputs) (f : OutPoint) : Int :=
  match store f.hash with
  | some tx => ((tx.txOut[f.index]?).map TxOut.value).getD 0
  | none => 0

/-- The value of the previous output that the input of a spending prevout
spends. -/
def spentValue (store : String → Option TxWithInputs) (f : PrevOutIn) : Int :=
  match store f.txSpending with
  | some tx =>
    match tx.txIn[f.inputIndex]? with
    | some prev =>
      match store prev.hash with
      | some prevTx => ((prevTx.txOut[prev.index]?).map TxOut.value).getD 0
      | none => 0
    | none => 0
  | none => 0

theorem deltaOf_fundingDelta (store : String → Option TxWithInputs) (f : OutPoint) :
    deltaOf store OutPoint.hash fundingDelta f = outValue store f := by
  unfold deltaOf outValue fundingDelta
  cases store f.hash with
  | none => rfl
  | some tx =>
    dsimp only
    cases tx.txOut[f.index]? <;> rfl

theorem deltaOf_spendingDelta (store : String → Option TxWithInputs) (f : PrevOutIn) :
    deltaOf store (fun f => f.txSpending) (spendingDelta store) f = -spentValue store f := by
  unfold deltaOf spentValue spendingDelta
  cases store f.txSpending with
  | none => rfl
  | some tx =>
    dsimp only
    cases tx.txIn[f.inputIndex]? with
    | none => rfl
    | some prev =>
      dsimp only
      cases store prev.hash with
      | none => rfl
      | some prevTx =>
        dsimp only
        cases prevTx.txOut[prev.index]? <;> rfl

/-- The entries `counted` of `es` are those a loop from `recentTxs` counts: each
is the first entry of its transaction, no transaction twice, and their
transactions are those of `es` that are not recent and that `TxnsStore` holds
unconfirmed. -/
structure CountedFirst {E : Type} (store : String → Option TxWithInputs) (key : E → String)
    (es : List E) (recentTxs : List String) (counted : List E) : Prop where
  first : ∀ c ∈ counted, es.find? (fun x => key x == key c) = some c
  nodup : (counted.map key).Nodup
  mem : ∀ t, t ∈ counted.map key ↔ t ∈ es.map key ∧ t ∉ recentTxs ∧ unconfirmedIn store t = true

section CountedFirst

variable {E : Type} {store : String → Option TxWithInputs} {key : E → String}
  {es counted : List E} {recentTxs : List String} {e : E}

theorem CountedFirst.nil : CountedFirst store key [] recentTxs [] :=
  ⟨by simp, List.nodup_nil, by simp⟩

/-- An entry the loop skips leaves the counted entries as they are. -/
theorem CountedFirst.skip (h : CountedFirst store key es recentTxs counted)
    (he : key e ∈ recentTxs ∨ unconfirmedIn store (key e) = false) :
    CountedFirst store key (e :: es) recentTxs counted := by
  have hne : ∀ t ∈ counted.map key, t ≠ key e := by
    rintro t ht rfl
    obtain ⟨-, hr, hu⟩ := (h.mem _).mp ht
    rcases he with he | he
    · exact hr he
    · rw [he] at hu; cases hu
  refine ⟨fun c hc => ?_, h.nodup, fun t => ?_⟩
  · rw [List.find?_cons_of_neg _ (by simpa using (hne _ (List.mem_map_of_mem key hc)).symm)]
    exact h.first c hc
  · rw [h.mem, List.map_cons, List.mem_cons]
    constructor
    · exact fun ⟨ht, hr, hu⟩ => ⟨.inr ht, hr, hu⟩
    · rintro ⟨rfl | ht, hr, hu⟩
      · rcases he with he | he
        · exact absurd he hr
        · rw [he] at hu; cases hu
      · exact ⟨ht, hr, hu⟩

/-- An entry the loop counts is the first of its transaction. -/
theorem CountedFirst.count (h : CountedFirst store key es (recentTxs ++ [key e]) counted)
    (hr : key e ∉ recentTxs) (hu : unconfirmedIn store (key e) = true) :
    CountedFirst store key (e :: es) recentTxs (e :: counted) := by
  have hne : ∀ t ∈ counted.map key, t ≠ key e := by
    rintro t ht rfl
    exact ((h.mem _).mp ht).2.1 (by simp)
  refine ⟨fun c hc => ?_, ?_, fun t => ?_⟩
  · rcases List.mem_cons.mp hc with rfl | hc
    · exact List.find?_cons_of_pos _ (by simp)
    · rw [List.find?_cons_of_neg _ (by simpa using (hne _ (List.mem_map_of_mem key hc)).symm)]
      exact h.first c hc
  · exact List.nodup_cons.mpr ⟨fun hm => hne _ hm rfl, h.nodup⟩
  · rw [List.map_cons, List.mem_cons, h.mem, List.map_cons, List.mem_cons]
    by_cases ht : t = key e
    · subst ht; simp [hr, hu]
    · simp [ht]

end CountedFirst

/-- A run of a balance loop: the entries it counts are `CountedFirst`, their
transactions are appended to both lists, and their deltas to the balance, with
the `int64` sum wrapping around. -/
theorem balanceLoop_run {E : Type} (store : String → Option TxWithInputs) (key : E → String)
    (delta : E → TxWithInputs → Outcome Int) :
    ∀ (es : List E) (recentTxs unconfirmedTxs : List String) (balance : Int)
      (r u : List String) (b : Int), IsInt64 balance →
      balanceLoop store key delta es (recentTxs, unconfirmedTxs, balance) = .ret (r, u, b) →
      ∃ counted, CountedFirst store key es recentTxs counted ∧ r = recentTxs ++ counted.map key ∧
        u = unconfirmedTxs ++ counted.map key ∧
        b = wrapInt64 (balance + (counted.map (deltaOf store key delta)).sum)
  | [], recentTxs, unconfirmedTxs, balance, r, u, b, hb, h => by
    simp only [balanceLoop, Outcome.ret.injEq, Prod.mk.injEq] at h
    obtain ⟨rfl, rfl, rfl⟩ := h
    exact ⟨[], .nil, by simp, by simp, by simp [wrapInt64_of_isInt64 hb]⟩
  | e :: es, recentTxs, unconfirmedTxs, balance, r, u, b, hb, h => by
    simp only [balanceLoop] at h
    split_ifs at h with hr
    · -- a recent transaction
      obtain ⟨c, hc, rfl, rfl, rfl⟩ := balanceLoop_run store key delta es _ _ _ r u b hb h
      exact ⟨c, hc.skip (.inl (by simpa using hr)), rfl, rfl, rfl⟩
    · have hr' : key e ∉ recentTxs := by simpa using hr
      split at h
      · -- not in `TxnsStore`
        rename_i hs
        obtain ⟨c, hc, rfl, rfl, rfl⟩ := balanceLoop_run store key delta es _ _ _ r u b hb h
        exact ⟨c, hc.skip (.inr (by simp [unconfirmedIn, hs])), rfl, rfl, rfl⟩
      · rename_i tx hs
        split_ifs at h with hconf
        · -- confirmed
          obtain ⟨c, hc, rfl, rfl, rfl⟩ := balanceLoop_run store key delta es _ _ _ r u b hb h
          exact ⟨c, hc.skip (.inr (by simp [unconfirmedIn, hs, hconf])), rfl, rfl, rfl⟩
        · -- counted
          rcases hd : delta e tx with d | _ | _ <;> rw [hd] at h <;> simp only [Outcome.bind_ret,
            Outcome.bind_panic, Outcome.bind_unfinished, reduceCtorEq] at h
          obtain ⟨c, hc, rfl, rfl, rfl⟩ :=
            balanceLoop_run store key delta es _ _ _ r u b (isInt64_wrapInt64 _) h
          refine ⟨e :: c, hc.count hr' (by simp [unconfirmedIn, hs, hconf]), by simp, by simp, ?_⟩
          simp only [List.map_cons, List.sum_cons, deltaOf, hs, hd, wrapInt64_wrapInt64_add,
            Int.add_assoc]

theorem sum_map_neg_spentValue (store : String → Option TxWithInputs) (cp : List PrevOutIn) :
    (cp.map (deltaOf store (fun f => f.txSpending) (spendingDelta store))).sum =
      -(cp.map (spentValue store)).sum := by
  induction cp with
  | nil => rfl
  | cons f cp ih => simp only [List.map_cons, List.sum_cons, ih, deltaOf_spendingDelta]; omega

/-- When the mempool loops of `getAddressInfo` return, each unconfirmed
transaction counts once, through its first entry: the balance is the value of
the first output named of each funding transaction that is not recent, minus
the value spent by the first prevout of each spending transaction that is
neither recent nor already listed as funding, as an `int64` that wraps around. -/
theorem addressInfoUnconfirmed_spec (addressOuts : AddressOutpointsIn) (recentTxs : List String)
    {r u : List String} {b : Int} (h : addressInfoUnconfirmed addressOuts recentTxs = .ret (r, u, b)) :
    ∃ cf cp, CountedFirst addressOuts.txnsStore OutPoint.hash addressOuts.outpoints recentTxs cf ∧
      CountedFirst addressOuts.txnsStore (fun f => f.txSpending) addressOuts.prevOuts
        (recentTxs ++ cf.map OutPoint.hash) cp ∧
      u = cf.map OutPoint.hash ++ cp.map (fun f => f.txSpending) ∧ r = recentTxs ++ u ∧
      b = wrapInt64 ((cf.map (outValue addressOuts.txnsStore)).sum -
        (cp.map (spentValue addressOuts.txnsStore)).sum) := by
  unfold addressInfoUnconfirmed at h
  rcases Outcome.bind_eq_ret.mp h with ⟨⟨r₁, u₁, b₁⟩, h₁, h₂⟩
  obtain ⟨cf, hcf, rfl, rfl, rfl⟩ :=
    balanceLoop_run _ _ _ _ _ _ _ _ _ _ (by unfold IsInt64; omega) h₁
  obtain ⟨cp, hcp, rfl, rfl, rfl⟩ := balanceLoop_run _ _ _ _ _ _ _ _ _ _ (isInt64_wrapInt64 _) h₂
  refine ⟨cf, cp, hcf, hcp, by simp, by simp, ?_⟩
  simp only [List.nil_append, Int.zero_add, sum_map_neg_spentValue, wrapInt64_wrapInt64_add]
  rw [show deltaOf addressOuts.txnsStore OutPoint.hash fundingDelta = outValue addressOuts.txnsStore from
    funext (deltaOf_fundingDelta _)]
  congr 1

/-- A mempool transaction `m1` that spends a 10 DCR output of the address,
made in `c1`, and pays the address 4 DCR of change. -/
def changeStore (t : String) : Option TxWithInputs :=
  if t = "m1" then some ⟨⟨"m1", [⟨"76a914", 600000000⟩, ⟨"76a914", 400000000⟩], 0, false⟩, [⟨"c1", 0⟩]⟩
  else if t = "c1" then some ⟨⟨"c1", [⟨"76a914", 1000000000⟩], 0, true⟩, []⟩
  else none

def changeOuts : AddressOutpointsIn := ⟨[⟨"m1", 1⟩], [⟨⟨"m1", ⟨"c1", 0⟩⟩, 0⟩], changeStore⟩

/-- The address lost 6 DCR, and its unconfirmed balance is +4 DCR: the spend of
`m1` is skipped, `m1` being listed as funding already. -/
theorem addressInfoUnconfirmed_spec_change :
    ∃ cf cp, CountedFirst changeOuts.txnsStore OutPoint.hash changeOuts.outpoints [] cf ∧
      CountedFirst changeOuts.txnsStore (fun f => f.txSpending) changeOuts.prevOuts
        ([] ++ cf.map OutPoint.hash) cp ∧
      ["m1"] = cf.map OutPoint.hash ++ cp.map (fun f => f.txSpending) ∧ ["m1"] = [] ++ ["m1"] ∧
      400000000 = wrapInt64 ((cf.map (outValue changeOuts.txnsStore)).sum -
        (cp.map (spentValue changeOuts.txnsStore)).sum) :=
  @addressInfoUnconfirmed_spec changeOuts [] ["m1"] ["m1"] 400000000 rfl

/-! ## The handler -/

/-- What `getAddressInfo` asks: `dcrutil.DecodeAddress`, the database's spent
and unspent totals (`AddressSpentUnspent`), its confirmed and recent
transactions, and the mempool's outpoints of the address (whose error is only
logged; the pointer may be nil, `none`). -/
structure AddressInfoSource where
  decodeAddress : String → Except String String
  addressSpentUnspent : String → Except QueryErr (Int × Int)
  insightAddressTransactions : List String → Except QueryErr (List String × List String)
  unconfirmedTxnsForAddress : String → Option AddressOutpointsIn

/-- The fields of `apitypes.InsightAddressInfo` in satoshis, and the
transaction list; the coin amounts are these divided by 10^8. -/
structure InsightAddressInfo where
  address : String
  totalReceivedSat : Int
  totalSentSat : Int
  balanceSat : Int
  txAppearances : Int
  unconfirmedBalanceSat : Int
  unconfirmedTxAppearances : Int
  transactionsID : List String
  deriving DecidableEq, Repr

/-- What `getAddressInfo` writes as JSON: an amount, for a command, or the
summary. -/
inductive AddressInfoReply
  | amount (sat : Int)
  | info (i : InsightAddressInfo)
  deriving DecidableEq, Repr

/-- `getAddressInfo` on the request's address, command (`none` when absent),
`noTxList`, `from` and `to` (`none` when absent). -/
def getAddressInfo (src : AddressInfoSource) (address : String) (command : Option String)
    (noTxList : Int) (fromIdx : Int) (toIdx : Option Int) : Outcome (TxnsResponse AddressInfoReply) :=
  match src.decodeAddress address with
  | .error _ => .ret (.insightError "Invalid Address")
  | .ok _ =>
    let toIdx := match toIdx with
      | some t => if t ≤ fromIdx then wrapInt64 (fromIdx + 1000) else t
      | none => wrapInt64 (fromIdx + 1000)
    match src.addressSpentUnspent address with
    | .error .timeout => .ret (.httpError "Database timeout." 503)
    | .error (.other _) => .ret (.httpError "Unexpected error retrieving address info." 500)
    | .ok (totalSpent, totalUnspent) =>
      match command with
      | some "balance" => .ret (.json (.amount totalUnspent))
      | some "totalReceived" => .ret (.json (.amount (totalSpent + totalUnspent)))
      | some "totalSent" => .ret (.json (.amount totalSpent))
      | _ =>
        match src.insightAddressTransactions [address] with
        | .error .timeout => .ret (.httpError "Database timeout." 503)
        | .error (.other _) =>
          .ret (.httpError "Error retrieving transactions for that addresss." 500)
        | .ok (rawTxs, recentTxs) =>
          let unconfirmed : Outcome (List String × List String × Int) :=
            match src.unconfirmedTxnsForAddress address with
              | none => .ret (recentTxs, [], 0)
              | some addressOuts => addressInfoUnconfirmed addressOuts recentTxs
          unconfirmed.bind fun (_, unconfirmedTxs, unconfirmedBalanceSat) =>
            if command = some "unconfirmedBalance" then .ret (.json (.amount unconfirmedBalanceSat))
            else
              (pageTxs 1000 (unconfirmedTxs ++ rawTxs) fromIdx toIdx).bind fun
                | .error msg => .ret (.insightError msg)
                | .ok (page, _, _) => .ret (.json (.info ⟨address, totalSpent + totalUnspent,
                    totalSpent, totalUnspent, rawTxs.length, unconfirmedBalanceSat,
                    unconfirmedTxs.length, if noTxList = 0 then page else []⟩))

end HcData.Insight
