import Mathlib.Data.List.Nodup
import HcData.Basic

/-!
# Insight: the unspent outputs of a list of addresses

`getAddressesTxnOutput` answers, for each requested address, the outputs that
are still unspent: the confirmed ones from the database and those of mempool
transactions.  It then removes the outputs that a mempool transaction spends,
deleting from the slice it is ranging over:

    for g, utxo := range txnOutputs {
        if ... { txnOutputs = append(txnOutputs[:g], txnOutputs[g+1:]...) }
    }

The range fixes its indexes when the loop starts and reads each element from
the backing array, which the `append` shifts in place, while the slice assigned
back shrinks.  The model keeps the backing array and the current length
(`rangeRemove`).

Whatever the outputs, the loop never drops an output the prevout does not
spend and never reorders the rest (`rangeRemove_live`,
`removeSpentOutputs_sound`).  It removes every spent output when each prevout's
outpoint occurs at most once (`removeSpentOutputs_of_countP_le_one`).  After a
removal the next element moves under the index just read and is skipped, and a
copy read past the shrunken length stops the handler with a slice bounds panic
(`removeSpentOutputs_duplicate_outpoint`).

The handler is modelled up to the final `sort.Slice`, which is a parameter.
When no outpoint is gathered twice over the requested addresses, it answers
what the handler that filters out exactly the spent outputs answers
(`getAddressesTxnOutput_eq_spec`).
-/

namespace HcData.Insight

/-- The fields of `apitypes.AddressTxnOutput` that the handler fills, `Amount`
apart. -/
structure AddressTxnOutput where
  address : String
  txnID : String
  vout : Nat
  scriptPubKey : String
  satoshis : Int
  confirmations : Int
  blockTime : Int
  deriving DecidableEq, Repr, Inhabited

/-- `wire.OutPoint`: a transaction hash, as its string, and an output index. -/
structure OutPoint where
  hash : String
  index : Nat
  deriving DecidableEq, Repr

/-- `txhelpers.PrevOut`: a mempool transaction spending an outpoint. -/
structure PrevOut where
  txSpending : String
  previousOutpoint : OutPoint
  deriving DecidableEq, Repr

/-- A transaction output: its script, hex encoded, and its value. -/
structure TxOut where
  pkScript : String
  value : Int
  deriving DecidableEq, Repr

/-- `txhelpers.TxWithBlockData`, with `Confirmed()` as a field. -/
structure TxWithBlockData where
  hash : String
  txOut : List TxOut
  memPoolTime : Int
  confirmed : Bool
  deriving DecidableEq, Repr

/-- `utxo.Vout == f.Index && utxo.TxnID == f.Hash.String()`. -/
def isOutpoint (op : OutPoint) (utxo : AddressTxnOutput) : Bool :=
  utxo.vout == op.index && utxo.txnID == op.hash

/-! ## Deleting from the slice being ranged over -/

/-- The message of a slice expression `s[low:]` with `low > len(s)`. -/
def sliceBoundsMsg (low high : Nat) : String :=
  "runtime error: slice bounds out of range [" ++ toString low ++ ":" ++ toString high ++ "]"

/-- The backing array after `s = append(s[:g], s[g+1:]...)` on a slice of
length `len` over `arr`: the elements after `g` move one place down, in place,
and the array from the new last place on keeps its values. -/
def removeAt (arr : List AddressTxnOutput) (len g : Nat) : List AddressTxnOutput :=
  arr.take g ++ (arr.take len).drop (g + 1) ++ arr.drop (len - 1)

/-- The range loop over the indexes `gs`, from the backing array and length
`(arr, len)`: it reads `arr[g]`, and the slice expression checks `g+1` against
the current length. -/
def rangeRemove (op : OutPoint) :
    List Nat → List AddressTxnOutput × Nat → Outcome (List AddressTxnOutput × Nat)
  | [], s => .ret s
  | g :: gs, (arr, len) =>
    if isOutpoint op (arr.getD g default) then
      if g + 1 ≤ len then rangeRemove op gs (removeAt arr len g, len - 1)
      else .panic (sliceBoundsMsg (g + 1) len)
    else rangeRemove op gs (arr, len)

/-- The slice a backing array and a length denote. -/
def live (s : List AddressTxnOutput × Nat) : List AddressTxnOutput := s.1.take s.2

/-- The range loop over the whole of `txnOutputs`. -/
def removeOutpoint (op : OutPoint) (txnOutputs : List AddressTxnOutput) :
    Outcome (List AddressTxnOutput) :=
  (rangeRemove op (List.range txnOutputs.length) (txnOutputs, txnOutputs.length)).map live

/-- The loop over `addressOuts.PrevOuts`: a prevout whose spending transaction
is missing from `TxnsStore` or confirmed is skipped. -/
def removeSpentOutputs (store : String → Option TxWithBlockData) :
    List PrevOut → List AddressTxnOutput → Outcome (List AddressTxnOutput)
  | [], txnOutputs => .ret txnOutputs
  | f :: fs, txnOutputs =>
    match store f.txSpending with
    | none => removeSpentOutputs store fs txnOutputs
    | some spendingTx =>
      if spendingTx.confirmed then removeSpentOutputs store fs txnOutputs
      else (removeOutpoint f.previousOutpoint txnOutputs).bind (removeSpentOutputs store fs)

section RemoveAt

variable {arr : List AddressTxnOutput} {len g : Nat}

/-- The front of the array after the `append`: the slice without element `g`. -/
theorem length_removeAt_front (hg : g < len) (hlen : len ≤ arr.length) :
    (arr.take g ++ (arr.take len).drop (g + 1)).length = len - 1 := by
  simp only [List.length_append, List.length_take, List.length_drop]
  omega

theorem getElem?_removeAt (hg : g < len) (hlen : len ≤ arr.length) (i : Nat) :
    (removeAt arr len g)[i]? =
      if i < g then arr[i]? else if i + 1 < len then arr[i + 1]? else arr[i]? := by
  have hA : (arr.take g).length = g := List.length_take_of_le (by omega)
  have hF := length_removeAt_front hg hlen
  unfold removeAt
  split_ifs with h1 h2
  · rw [List.getElem?_append_left (by omega), List.getElem?_append_left (by omega),
      List.getElem?_take_of_lt h1]
  · rw [List.getElem?_append_left (by omega), List.getElem?_append_right (by omega),
      List.getElem?_drop, List.getElem?_take_of_lt (by omega), hA]
    congr 1; omega
  · rw [List.getElem?_append_right (by omega), List.getElem?_drop, hF]
    congr 1; omega

theorem length_removeAt (hg : g < len) (hlen : len ≤ arr.length) :
    (removeAt arr len g).length = arr.length := by
  rw [removeAt, List.length_append, length_removeAt_front hg hlen, List.length_drop]
  omega

/-- The slice after the `append` is the slice with its element `g` erased. -/
theorem live_removeAt (hg : g < len) (hlen : len ≤ arr.length) :
    live (removeAt arr len g, len - 1) = (live (arr, len)).eraseIdx g := by
  dsimp only [live]
  rw [removeAt, List.take_left' (length_removeAt_front hg hlen), List.eraseIdx_eq_take_drop_succ,
    List.take_take, Nat.min_eq_left hg.le]

end RemoveAt

/-- Erasing an element the predicate holds of keeps the elements it fails on. -/
theorem filter_eraseIdx_of_getElem? {l : List AddressTxnOutput} {p : AddressTxnOutput → Bool}
    {g : Nat} {x : AddressTxnOutput} (hx : l[g]? = some x) (hp : p x = true) :
    (l.eraseIdx g).filter (fun y => !p y) = l.filter (fun y => !p y) := by
  obtain ⟨hg, rfl⟩ := List.getElem?_eq_some_iff.mp hx
  rw [List.eraseIdx_eq_take_drop_succ]
  conv_rhs => rw [← List.take_append_drop g l, List.drop_eq_getElem_cons hg]
  simp only [List.filter_append, List.filter_cons, hp, Bool.not_true, Bool.false_eq_true, if_false]

section Range

variable {op : OutPoint}

theorem rangeRemove_append (gs₁ gs₂ : List Nat) (s : List AddressTxnOutput × Nat) :
    rangeRemove op (gs₁ ++ gs₂) s = (rangeRemove op gs₁ s).bind (rangeRemove op gs₂) := by
  induction gs₁ generalizing s with
  | nil => rfl
  | cons g gs ih =>
    obtain ⟨arr, len⟩ := s
    simp only [List.cons_append, rangeRemove]
    split_ifs <;> simp [ih]

/-- Indexes whose element the prevout does not spend leave the slice alone. -/
theorem rangeRemove_of_forall_not {gs : List Nat} {arr : List AddressTxnOutput} {len : Nat}
    (h : ∀ g ∈ gs, isOutpoint op (arr.getD g default) = false) :
    rangeRemove op gs (arr, len) = .ret (arr, len) := by
  induction gs with
  | nil => rfl
  | cons g gs ih =>
    rw [rangeRemove, if_neg (by rw [Bool.not_eq_true]; exact h g (List.mem_cons_self _ _))]
    exact ih fun g' hg' => h g' (List.mem_cons_of_mem _ hg')

/-- **Whatever the outputs**, a run of the loop that returns erases only
elements the prevout spends: the slice left is a sublist, with every element
the prevout does not spend. -/
theorem rangeRemove_live : ∀ (gs : List Nat) (s out : List AddressTxnOutput × Nat),
    s.2 ≤ s.1.length → rangeRemove op gs s = .ret out →
    (live out).Sublist (live s) ∧ (live out).filter (fun y => !isOutpoint op y) =
      (live s).filter (fun y => !isOutpoint op y)
  | [], s, out, _, h => by cases h; exact ⟨List.Sublist.refl _, rfl⟩
  | g :: gs, (arr, len), out, hlen, h => by
    dsimp only at hlen
    rw [rangeRemove] at h
    split_ifs at h with hm hg
    · have hlen' : len - 1 ≤ (removeAt arr len g).length := by
        rw [length_removeAt (by omega) hlen]; omega
      obtain ⟨hsub, hfil⟩ := rangeRemove_live gs _ out hlen' h
      have hx : (live (arr, len))[g]? = some (arr.getD g default) := by
        simp [live, List.getElem?_take, show g < len by omega, List.getElem?_eq_getElem
          (show g < arr.length by omega)]
      rw [live_removeAt (by omega) hlen] at hsub hfil
      exact ⟨hsub.trans (List.eraseIdx_sublist _ _),
        hfil.trans (filter_eraseIdx_of_getElem? hx hm)⟩
    · exact rangeRemove_live gs _ out hlen h

/-- A list with at most one element the predicate holds of: none, or one at
`r` with none before and none after. -/
theorem countP_le_one_cases {l : List AddressTxnOutput} {p : AddressTxnOutput → Bool}
    (h : l.countP p ≤ 1) : (∀ x ∈ l, p x = false) ∨ ∃ r, ∃ hr : r < l.length,
      p l[r] = true ∧ (l.take r).countP p = 0 ∧ (l.drop (r + 1)).countP p = 0 := by
  by_cases hall : ∀ x ∈ l, p x = false
  · exact .inl hall
  · push_neg at hall
    obtain ⟨x, hx, hpx⟩ := hall
    obtain ⟨r, hr, rfl⟩ := List.getElem_of_mem hx
    have hsplit : l.countP p = (l.take r).countP p + 1 + (l.drop (r + 1)).countP p := by
      conv_lhs => rw [← List.take_append_drop r l, List.drop_eq_getElem_cons hr]
      simp only [List.countP_append, List.countP_cons, Bool.not_eq_false] at hpx ⊢
      simp [hpx]
      omega
    exact .inr ⟨r, hr, by simpa using hpx, by omega, by omega⟩

theorem range_eq_append_cons {r n : Nat} (h : r < n) :
    List.range n = List.range r ++ r :: List.range' (r + 1) (n - r - 1) := by
  have happ := List.range'_append_1 0 r (n - r - 1 + 1)
  rw [Nat.zero_add] at happ
  rw [List.range_eq_range', List.range_eq_range', ← List.range'_succ, happ]
  congr 1; omega

/-- **At most one copy of the outpoint**: the loop removes it and returns. -/
theorem removeOutpoint_of_countP_le_one {txnOutputs : List AddressTxnOutput}
    (h : txnOutputs.countP (isOutpoint op) ≤ 1) :
    removeOutpoint op txnOutputs = .ret (txnOutputs.filter fun y => !isOutpoint op y) := by
  rcases countP_le_one_cases h with hnone | ⟨r, hr, hm, hpre, hpost⟩
  · rw [removeOutpoint, rangeRemove_of_forall_not fun g hg => ?_, Outcome.map_ret, live,
      List.take_length, List.filter_eq_self.mpr fun x hx => by simp [hnone x hx]]
    rw [List.mem_range] at hg
    simpa [List.getElem?_eq_getElem hg] using hnone _ (List.getElem_mem hg)
  · have hpre' : ∀ i (hi : i < txnOutputs.length), i < r →
        isOutpoint op txnOutputs[i] = false := fun i hi hir => by
      simpa using List.countP_eq_zero.mp hpre _
        (List.mem_iff_getElem.mpr ⟨i, by simp; omega, by simp⟩)
    have hpost' : ∀ i (hi : i < txnOutputs.length), r < i →
        isOutpoint op txnOutputs[i] = false :=
      fun i hi hri => by
        simpa using List.countP_eq_zero.mp hpost _
          (List.mem_iff_getElem.mpr ⟨i - (r + 1), by simp; omega, by simp; congr 1; omega⟩)
    have hread : ∀ g ∈ List.range' (r + 1) (txnOutputs.length - r - 1),
        isOutpoint op ((removeAt txnOutputs txnOutputs.length r).getD g default) = false := by
      intro g hg
      rw [List.mem_range'_1] at hg
      rw [List.getD_eq_getElem?_getD, getElem?_removeAt hr (Nat.le_refl _), if_neg (by omega)]
      split_ifs with hg1
      · rw [List.getElem?_eq_getElem hg1, Option.getD_some]; exact hpost' _ hg1 (by omega)
      · rw [List.getElem?_eq_getElem (by omega), Option.getD_some]; exact hpost' _ _ (by omega)
    have hfil : txnOutputs.filter (fun y => !isOutpoint op y) = txnOutputs.eraseIdx r := by
      rw [List.eraseIdx_eq_take_drop_succ]
      conv_lhs => rw [← List.take_append_drop r txnOutputs, List.drop_eq_getElem_cons hr]
      simp only [List.filter_append, List.filter_cons, hm, Bool.not_true, Bool.false_eq_true,
        if_false]
      rw [List.filter_eq_self.mpr, List.filter_eq_self.mpr] <;> intro x hx
      · simpa using List.countP_eq_zero.mp hpost x hx
      · simpa using List.countP_eq_zero.mp hpre x hx
    rw [removeOutpoint, range_eq_append_cons hr, rangeRemove_append,
      rangeRemove_of_forall_not fun g hg => ?_, Outcome.bind_ret, rangeRemove,
      if_pos (by simpa [List.getElem?_eq_getElem hr] using hm), if_pos (by omega),
      rangeRemove_of_forall_not hread, Outcome.map_ret, live_removeAt hr (Nat.le_refl _), live,
      List.take_length, hfil]
    rw [List.mem_range] at hg
    simpa [List.getElem?_eq_getElem (show g < txnOutputs.length by omega)] using
      hpre' g (by omega) hg

/-- **Whatever the outputs**, a run of the loop over the whole slice that
returns keeps a sublist with every output the prevout does not spend. -/
theorem removeOutpoint_sound {txnOutputs out : List AddressTxnOutput}
    (h : removeOutpoint op txnOutputs = .ret out) :
    out.Sublist txnOutputs ∧
      out.filter (fun y => !isOutpoint op y) = txnOutputs.filter (fun y => !isOutpoint op y) := by
  obtain ⟨s, hs, rfl⟩ := Outcome.map_eq_ret.mp h
  simpa [live] using rangeRemove_live _ _ s (Nat.le_refl _) hs

end Range

/-- The prevout is spent by a transaction of `TxnsStore` that is not
confirmed: the ones the loop acts on. -/
def unconfirmedSpend (store : String → Option TxWithBlockData) (f : PrevOut) : Bool :=
  match store f.txSpending with
  | some spendingTx => !spendingTx.confirmed
  | none => false

/-- An output that an unconfirmed spend among `prevOuts` spends. -/
def spentIn (store : String → Option TxWithBlockData) (prevOuts : List PrevOut)
    (utxo : AddressTxnOutput) : Bool :=
  prevOuts.any fun f => unconfirmedSpend store f && isOutpoint f.previousOutpoint utxo

/-- What the removal loop is for: the outputs no unconfirmed spend spends. -/
def filterSpent (store : String → Option TxWithBlockData) (prevOuts : List PrevOut)
    (txnOutputs : List AddressTxnOutput) : Outcome (List AddressTxnOutput) :=
  .ret (txnOutputs.filter fun y => !spentIn store prevOuts y)

section Spent

variable (store : String → Option TxWithBlockData)

theorem removeSpentOutputs_cons (f : PrevOut) (fs : List PrevOut)
    (txnOutputs : List AddressTxnOutput) :
    removeSpentOutputs store (f :: fs) txnOutputs =
      if unconfirmedSpend store f then
        (removeOutpoint f.previousOutpoint txnOutputs).bind (removeSpentOutputs store fs)
      else removeSpentOutputs store fs txnOutputs := by
  rw [removeSpentOutputs, unconfirmedSpend]
  rcases store f.txSpending with _ | ⟨_, _, _, _ | _⟩ <;> rfl

theorem spentIn_cons (f : PrevOut) (fs : List PrevOut) (y : AddressTxnOutput) :
    spentIn store (f :: fs) y =
      (unconfirmedSpend store f && isOutpoint f.previousOutpoint y || spentIn store fs y) :=
  List.any_cons

/-- **Each outpoint at most once**: the loop over the prevouts returns the
outputs no unconfirmed spend spends, in their order. -/
theorem removeSpentOutputs_of_countP_le_one :
    ∀ (prevOuts : List PrevOut) (txnOutputs : List AddressTxnOutput),
      (∀ f ∈ prevOuts, txnOutputs.countP (isOutpoint f.previousOutpoint) ≤ 1) →
      removeSpentOutputs store prevOuts txnOutputs = filterSpent store prevOuts txnOutputs
  | [], txnOutputs, _ => by simp [removeSpentOutputs, filterSpent, spentIn]
  | f :: fs, txnOutputs, h => by
    have hrest : ∀ l : List AddressTxnOutput, l.Sublist txnOutputs →
        removeSpentOutputs store fs l = filterSpent store fs l :=
      fun l hl => removeSpentOutputs_of_countP_le_one fs l fun f' hf' =>
        (hl.countP_le _).trans (h f' (List.mem_cons_of_mem _ hf'))
    rw [removeSpentOutputs_cons]
    by_cases hu : unconfirmedSpend store f
    · rw [if_pos hu, removeOutpoint_of_countP_le_one (h f (List.mem_cons_self _ _)),
        Outcome.bind_ret, hrest _ (List.filter_sublist _), filterSpent, filterSpent,
        List.filter_filter]
      simp only [spentIn_cons, hu, Bool.true_and, Bool.not_or]
      congr 2
      funext y
      exact Bool.and_comm _ _
    · rw [if_neg hu, hrest _ (List.Sublist.refl _)]
      simp only [filterSpent, spentIn_cons, hu, Bool.false_and, Bool.false_or]

/-- **Whatever the outputs**, a run of the loop over the prevouts that returns
keeps a sublist of the outputs, with every output no unconfirmed spend spends. -/
theorem removeSpentOutputs_sound :
    ∀ (prevOuts : List PrevOut) (txnOutputs out : List AddressTxnOutput),
      removeSpentOutputs store prevOuts txnOutputs = .ret out →
      out.Sublist txnOutputs ∧ out.filter (fun y => !spentIn store prevOuts y) =
        txnOutputs.filter (fun y => !spentIn store prevOuts y)
  | [], txnOutputs, out, h => by cases h; exact ⟨List.Sublist.refl _, rfl⟩
  | f :: fs, txnOutputs, out, h => by
    rw [removeSpentOutputs_cons] at h
    by_cases hu : unconfirmedSpend store f
    · rw [if_pos hu] at h
      have hsplit : ∀ l : List AddressTxnOutput, l.filter (fun y => !spentIn store (f :: fs) y) =
          (l.filter fun y => !isOutpoint f.previousOutpoint y).filter
            fun y => !spentIn store fs y := fun l => by
        rw [List.filter_filter]; congr 1; funext y; simp [spentIn_cons, hu, Bool.and_comm]
      have hsplit' : ∀ l : List AddressTxnOutput, l.filter (fun y => !spentIn store (f :: fs) y) =
          (l.filter fun y => !spentIn store fs y).filter
            fun y => !isOutpoint f.previousOutpoint y := fun l => by
        rw [List.filter_filter]; congr 1; funext y; simp [spentIn_cons, hu]
      rcases hr : removeOutpoint f.previousOutpoint txnOutputs with mid | _ | _ <;>
        rw [hr] at h
      · obtain ⟨hsub₁, hfil₁⟩ := removeOutpoint_sound hr
        obtain ⟨hsub₂, hfil₂⟩ := removeSpentOutputs_sound fs mid out h
        refine ⟨hsub₂.trans hsub₁, ?_⟩
        rw [hsplit' out, hfil₂, ← hsplit' mid, hsplit mid, hfil₁, ← hsplit]
      · simp at h
      · simp at h
    · rw [if_neg hu] at h
      have hpred : (fun y => !spentIn store (f :: fs) y) = fun y => !spentIn store fs y := by
        funext y; simp [spentIn_cons, hu]
      rw [hpred]
      exact removeSpentOutputs_sound fs txnOutputs out h

end Spent

/-! ## The handler -/

/-- `txhelpers.AddressOutpoints`: the mempool outpoints paying to the address,
the mempool prevouts spending from it, and the transactions by hash. -/
structure AddressOutpoints where
  outpoints : List OutPoint
  prevOuts : List PrevOut
  txnsStore : String → Option TxWithBlockData

/-- An error of `AddressUTXO`: a database timeout (`dbtypes.IsTimeoutErr`) or
another. -/
inductive UtxoErr
  | timeout
  | other
  deriving DecidableEq, Repr

/-- What the handler asks about each address: `ChainDB.AddressUTXO`, and
`MemPool.UnconfirmedTxnsForAddress`, whose pointer may be nil (`none`). -/
structure InsightSource where
  addressUTXO : String → Except UtxoErr (List AddressTxnOutput)
  unconfirmedTxnsForAddress : String → Except String (Option AddressOutpoints)

/-- What the handler writes. -/
inductive Response
  | insightError (msg : String)
  | httpError (msg : String) (code : Nat)
  | json (txnOutputs : List AddressTxnOutput)
  deriving DecidableEq, Repr

/-- `strings.Split` with a one-character separator: the pieces between the
separators, empty ones included. -/
def stringsSplit (s : String) (sep : Char) : List String :=
  (s.toList.splitOn sep).map String.mk

/-- The `FUNDING_TX_DUPLICATE_CHECK` loop: the outputs of unconfirmed
transactions of `TxnsStore` paying to `address`, but for those already among the
confirmed ones. -/
def fundingTxnOutputs (address : String) (confirmedTxnOutputs : List AddressTxnOutput)
    (store : String → Option TxWithBlockData) : List OutPoint → Outcome (List AddressTxnOutput)
  | [] => .ret []
  | f :: fs =>
    match store f.hash with
    | none => fundingTxnOutputs address confirmedTxnOutputs store fs
    | some fundingTx =>
      if fundingTx.confirmed then fundingTxnOutputs address confirmedTxnOutputs store fs
      else if confirmedTxnOutputs.any (isOutpoint f) then
        fundingTxnOutputs address confirmedTxnOutputs store fs
      else
        match fundingTx.txOut[f.index]? with
        | none => .panic (errIndexOutOfRange f.index fundingTx.txOut.length)
        | some out =>
          (fundingTxnOutputs address confirmedTxnOutputs store fs).map fun rest =>
            ⟨address, fundingTx.hash, f.index, out.pkScript, out.value, 0,
              fundingTx.memPoolTime⟩ :: rest

/-- The loop over the requested addresses, with the loop that removes the spent
outputs as a parameter: an `AddressUTXO` timeout answers at once, another error
of either call skips the address, and a nil `addressOuts` is dereferenced after
the funding outputs are skipped. -/
def addressesLoopWith
    (remove : (String → Option TxWithBlockData) → List PrevOut → List AddressTxnOutput →
      Outcome (List AddressTxnOutput))
    (src : InsightSource) :
    List String → List AddressTxnOutput → Outcome (Except Response (List AddressTxnOutput))
  | [], txnOutputs => .ret (.ok txnOutputs)
  | address :: addresses, txnOutputs =>
    match src.addressUTXO address with
    | .error .timeout => .ret (.error (.httpError "Database timeout." 503))
    | .error .other => addressesLoopWith remove src addresses txnOutputs
    | .ok confirmedTxnOutputs =>
      match src.unconfirmedTxnsForAddress address with
      | .error _ => addressesLoopWith remove src addresses txnOutputs
      | .ok none => .panic errNilDereference
      | .ok (some addressOuts) =>
        (fundingTxnOutputs address confirmedTxnOutputs addressOuts.txnsStore
          addressOuts.outpoints).bind fun funding =>
          (remove addressOuts.txnsStore addressOuts.prevOuts
            (txnOutputs ++ funding ++ confirmedTxnOutputs)).bind
            (addressesLoopWith remove src addresses)

/-- The response after the loop; `sortSlice` is the final `sort.Slice`. -/
def respond (sortSlice : List AddressTxnOutput → List AddressTxnOutput) :
    Except Response (List AddressTxnOutput) → Response
  | .error response => response
  | .ok txnOutputs => .json (sortSlice txnOutputs)

/-- The handler on the address parameter of the request, with the removal
loop as a parameter. -/
def getAddressesTxnOutputWith
    (remove : (String → Option TxWithBlockData) → List PrevOut → List AddressTxnOutput →
      Outcome (List AddressTxnOutput))
    (src : InsightSource) (sortSlice : List AddressTxnOutput → List AddressTxnOutput)
    (address : String) : Outcome Response :=
  if address = "" then .ret (.insightError "Address cannot be empty")
  else (addressesLoopWith remove src (stringsSplit address ',') []).map (respond sortSlice)

/-- `getAddressesTxnOutput`. -/
def getAddressesTxnOutput (src : InsightSource)
    (sortSlice : List AddressTxnOutput → List AddressTxnOutput) (address : String) :
    Outcome Response :=
  getAddressesTxnOutputWith removeSpentOutputs src sortSlice address

/-- What `getAddressesTxnOutput` is for: each address's unconfirmed spends
remove exactly the outputs gathered so far that they spend. -/
def getAddressesTxnOutputSpec (src : InsightSource)
    (sortSlice : List AddressTxnOutput → List AddressTxnOutput) (address : String) :
    Outcome Response :=
  getAddressesTxnOutputWith filterSpent src sortSlice address

/-- The outpoint an output is. -/
def outpointOf (utxo : AddressTxnOutput) : OutPoint := ⟨utxo.txnID, utxo.vout⟩

/-- The outputs the loop adds for `address` when it reaches the removal:
the funding outputs, then the confirmed ones. -/
def gatheredOutputs (src : InsightSource) (address : String) : List AddressTxnOutput :=
  match src.addressUTXO address, src.unconfirmedTxnsForAddress address with
  | .ok confirmedTxnOutputs, .ok (some addressOuts) =>
    match fundingTxnOutputs address confirmedTxnOutputs addressOuts.txnsStore
      addressOuts.outpoints with
    | .ret funding => funding ++ confirmedTxnOutputs
    | _ => []
  | _, _ => []

theorem countP_isOutpoint_le_one {l : List AddressTxnOutput} (h : (l.map outpointOf).Nodup)
    (op : OutPoint) : l.countP (isOutpoint op) ≤ 1 := by
  have hc := List.nodup_iff_count_le_one.mp h op
  rw [List.count, List.countP_map] at hc
  convert hc using 2
  funext y
  cases op
  rw [Function.comp_apply, Bool.eq_iff_iff]
  simp [isOutpoint, outpointOf, and_comm]

/-- The loop with the Go removal runs as the loop with `filterSpent` while no
outpoint is gathered twice. -/
theorem addressesLoopWith_filterSpent (src : InsightSource) : ∀ (addresses : List String)
    (txnOutputs : List AddressTxnOutput),
    ((txnOutputs ++ addresses.flatMap (gatheredOutputs src)).map outpointOf).Nodup →
    addressesLoopWith removeSpentOutputs src addresses txnOutputs =
      addressesLoopWith filterSpent src addresses txnOutputs
  | [], _, _ => rfl
  | address :: addresses, txnOutputs, h => by
    have hskip : gatheredOutputs src address = [] →
        addressesLoopWith removeSpentOutputs src addresses txnOutputs =
          addressesLoopWith filterSpent src addresses txnOutputs :=
      fun hg => addressesLoopWith_filterSpent src addresses txnOutputs (by simpa [hg] using h)
    rw [addressesLoopWith, addressesLoopWith]
    rcases hu : src.addressUTXO address with (_ | _) | confirmedTxnOutputs
    · rfl
    · exact hskip (by simp [gatheredOutputs, hu])
    rcases hm : src.unconfirmedTxnsForAddress address with e | _ | addressOuts
    · exact hskip (by simp [gatheredOutputs, hu, hm])
    · rfl
    dsimp only
    rcases hf : fundingTxnOutputs address confirmedTxnOutputs addressOuts.txnsStore
      addressOuts.outpoints with funding | _ | _
    · have hg : gatheredOutputs src address = funding ++ confirmedTxnOutputs := by
        simp [gatheredOutputs, hu, hm, hf]
      rw [List.flatMap_cons, hg, ← List.append_assoc, ← List.append_assoc] at h
      have hin := (List.nodup_append.mp (List.map_append _ _ _ ▸ h)).1
      simp only [Outcome.bind_ret]
      rw [removeSpentOutputs_of_countP_le_one _ _ _ fun f _ => countP_isOutpoint_le_one hin _]
      exact addressesLoopWith_filterSpent src addresses _
        (h.sublist (List.Sublist.map outpointOf
          ((List.filter_sublist _).append (List.Sublist.refl _))))
    · rfl
    · rfl

/-- **No outpoint gathered twice**: over requested addresses whose outputs
have pairwise distinct outpoints, `getAddressesTxnOutput` answers what removing
exactly the spent outputs answers. -/
theorem getAddressesTxnOutput_eq_spec (src : InsightSource)
    (sortSlice : List AddressTxnOutput → List AddressTxnOutput) (address : String)
    (h : (((stringsSplit address ',').flatMap (gatheredOutputs src)).map outpointOf).Nodup) :
    getAddressesTxnOutput src sortSlice address =
      getAddressesTxnOutputSpec src sortSlice address := by
  unfold getAddressesTxnOutput getAddressesTxnOutputSpec getAddressesTxnOutputWith
  rw [addressesLoopWith_filterSpent src _ [] (by simpa using h)]

/-- A confirmed output `t1:0` of address `a1`. -/
def spentOutput : AddressTxnOutput := ⟨"a1", "t1", 0, "76a914", 100000000, 5, 0⟩

/-- A confirmed output `t2:1` of address `a1`. -/
def keptOutput : AddressTxnOutput := ⟨"a1", "t2", 1, "76a914", 50000000, 3, 0⟩

/-- An unconfirmed transaction `s1` in `TxnsStore`. -/
def mempoolStore (h : String) : Option TxWithBlockData :=
  if h = "s1" then some ⟨"s1", [], 1700000000, false⟩ else none

/-- `s1` spends `t1:0`. -/
def spendOfT1 : PrevOut := ⟨"s1", ⟨"t1", 0⟩⟩

/-- Address `a1` with `t1:0` and `t2:1`, whose mempool spends `t1:0`. -/
def oneAddressSource : InsightSource :=
  ⟨fun _ => .ok [spentOutput, keptOutput],
    fun _ => .ok (some ⟨[], [spendOfT1], mempoolStore⟩)⟩

theorem getAddressesTxnOutput_eq_spec_a1 :
    (((stringsSplit "a1" ',').flatMap (gatheredOutputs oneAddressSource)).map outpointOf).Nodup ∧
    getAddressesTxnOutput oneAddressSource id "a1" =
      getAddressesTxnOutputSpec oneAddressSource id "a1" :=
  ⟨by decide, getAddressesTxnOutput_eq_spec _ _ _ (by decide)⟩

example : getAddressesTxnOutput oneAddressSource id "a1" = .ret (.json [keptOutput]) := by decide

/-- Addresses `a1` and `a2` both list `t1:0`; the mempool answer for `a2`
spends it. -/
def sharedOutpointSource : InsightSource :=
  ⟨fun a => .ok [{ spentOutput with address := a }], fun a =>
    .ok (some ⟨[], if a = "a2" then [spendOfT1] else [], mempoolStore⟩)⟩

/-- `t1:0` listed twice: the loop keeps one copy next to `t2:1`, where only
`t2:1` should be left; listed twice alone, the second copy is read past the
shrunken slice and the slice expression panics. -/
theorem removeSpentOutputs_duplicate_outpoint :
    [spentOutput, spentOutput, keptOutput].filter (fun y => !spentIn mempoolStore [spendOfT1] y) =
      [keptOutput] ∧
    removeSpentOutputs mempoolStore [spendOfT1] [spentOutput, spentOutput, keptOutput] =
      .ret [spentOutput, keptOutput] ∧
    removeSpentOutputs mempoolStore [spendOfT1] [spentOutput, spentOutput] =
      .panic "runtime error: slice bounds out of range [2:1]" ∧
    getAddressesTxnOutput sharedOutpointSource id "a1,a2" =
      .panic "runtime error: slice bounds out of range [2:1]" := by
  decide

/-- With `t1:0` listed twice the loop returns a wrong answer, and still one that
keeps `t2:1` and drops nothing it should keep. -/
theorem removeSpentOutputs_sound_duplicate :
    removeSpentOutputs mempoolStore [spendOfT1] [spentOutput, spentOutput, keptOutput] =
        .ret [spentOutput, keptOutput] ∧
      [spentOutput, keptOutput].Sublist [spentOutput, spentOutput, keptOutput] ∧
      [spentOutput, keptOutput].filter (fun y => !spentIn mempoolStore [spendOfT1] y) =
        [spentOutput, spentOutput, keptOutput].filter (fun y => !spentIn mempoolStore [spendOfT1] y) :=
  have h : removeSpentOutputs mempoolStore [spendOfT1] [spentOutput, spentOutput, keptOutput] =
      .ret [spentOutput, keptOutput] := by decide
  ⟨h, removeSpentOutputs_sound mempoolStore _ _ _ h⟩

end HcData.Insight
