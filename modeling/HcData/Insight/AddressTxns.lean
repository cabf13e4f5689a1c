import Mathlib.Algebra.Order.Ring.Int
import HcData.Insight.TxnOutputs

/-!
# Insight: the transactions of addresses and blocks

`getAddressesTxn` lists the transactions of one address or more: the mempool
transactions first, then the confirmed ones, paged by the request's `from` and
`to`.  `getTransactions` lists those of one address, or of one block.

The mempool part is built by two `..._TX_DUPLICATE_CHECK` loops per address,
over the hashes of the mempool outputs paying to the address and of the mempool
transactions spending from it.  `recentTxs` starts as the transactions of the
database's last blocks, and every hash listed is appended to it.  Over all
addresses, the list holds every gathered hash that is not recent, exactly once
(`addressesUnconfirmed_spec`).

The page is clamped to the list before `rawTxs[from:to]`, so no `from` or `to`
makes the slice panic, int64 wraparound of the default `to` included.  The only
panic left in the handler is a nil `addressOuts`
(`getAddressesTxn_panic_nilDeref`).

The block branch of `getTransactions` merges the regular and the stake
transactions with a `count > 10` break: it keeps up to 11, and none of the
stake transactions when there are exactly 10 regular ones (`mergeBlockTxs_eq`).
-/

namespace HcData.Insight

/-! ## The transaction lists of the mempool -/

/-- A `..._TX_DUPLICATE_CHECK` loop over the hashes `hs`: a hash already in
`recentTxs` is skipped, any other is appended to both lists. -/
def dupCheck : List String → List String → List String → List String × List String
  | recentTxs, unconfirmedTxs, [] => (recentTxs, unconfirmedTxs)
  | recentTxs, unconfirmedTxs, h :: hs =>
    if recentTxs.contains h then dupCheck recentTxs unconfirmedTxs hs
    else dupCheck (recentTxs ++ [h]) (unconfirmedTxs ++ [h]) hs

/-- The two loops for one address: the funding transactions, then the
spending ones. -/
def addressUnconfirmed (addressOuts : AddressOutpoints) (recentTxs unconfirmedTxs : List String) :
    List String × List String :=
  let (recentTxs, unconfirmedTxs) :=
    dupCheck recentTxs unconfirmedTxs (addressOuts.outpoints.map OutPoint.hash)
  dupCheck recentTxs unconfirmedTxs (addressOuts.prevOuts.map PrevOut.txSpending)

/-- The hashes the two loops read for one address. -/
def gatheredHashes (addressOuts : AddressOutpoints) : List String :=
  addressOuts.outpoints.map OutPoint.hash ++ addressOuts.prevOuts.map PrevOut.txSpending

/-- An error of `InsightAddressTransactions`: a database timeout
(`dbtypes.IsTimeoutErr`) or another, with its text. -/
inductive QueryErr
  | timeout
  | other (msg : String)
  deriving DecidableEq, Repr

/-- What the handlers ask: the database's confirmed and recent transactions of
the addresses, `dcrutil.DecodeAddress` (the address's `String()`, or the error),
the mempool's outpoints of an address (the pointer may be nil, `none`),
`GetRawTransaction`, the block's regular and stake transactions
(`GetBlockVerboseByHash`, nil as `none`), and the two conversions to the Insight
form. -/
structure InsightTxSource (R T : Type) where
  insightAddressTransactions : List String → Except QueryErr (List String × List String)
  decodeAddress : String → Except String String
  unconfirmedTxnsForAddress : String → Except String (Option AddressOutpoints)
  getRawTransaction : String → Except String R
  getBlockVerboseByHash : String → Option (List R × List R)
  dcrToInsightTxns : List R → Except String (List T)
  txConverter : List R → Except String (List T)

variable {R T : Type}

/-- The loop of `getAddressesTxn` over the requested addresses: each is decoded,
its mempool outpoints fetched, and its two duplicate-check loops run. -/
def addressesUnconfirmed (src : InsightTxSource R T) :
    List String → List String × List String → Outcome (Except String (List String × List String))
  | [], st => .ret (.ok st)
  | addr :: addresses, (recentTxs, unconfirmedTxs) =>
    match src.decodeAddress addr with
    | .error _ => .ret (.error ("Address is invalid (" ++ addr ++ ")"))
    | .ok address =>
      match src.unconfirmedTxnsForAddress address with
      | .error e => .ret (.error ("Error gathering mempool transactions (" ++ e ++ ")"))
      | .ok none => .panic errNilDereference
      | .ok (some addressOuts) =>
        addressesUnconfirmed src addresses (addressUnconfirmed addressOuts recentTxs unconfirmedTxs)

/-! ## Paging -/

/-- The clamps before the final slice, shared by `getAddressesTxn` (`limit` 50)
and `getAddressInfo` (`limit` 1000): both ends into `[0, txcount]`, `to` up to
`from`, and the range error when more than `limit` transactions are asked for. -/
def pageRange (limit : Int) (txcount : Nat) (fromIdx toIdx : Int) : Except String (Int × Int) :=
  let fromIdx := if fromIdx > txcount then (txcount : Int) else fromIdx
  let fromIdx := if fromIdx < 0 then 0 else fromIdx
  let toIdx := if toIdx > txcount then (txcount : Int) else toIdx
  let toIdx := if toIdx < 0 then 0 else toIdx
  let toIdx := if fromIdx > toIdx then fromIdx else toIdx
  if toIdx - fromIdx > limit then
    .error ("\"from\" (" ++ toString fromIdx ++ ") and \"to\" (" ++ toString toIdx ++
      ") range should be less than or equal to " ++ toString limit)
  else .ok (fromIdx, toIdx)

/-- The message of a slice expression out of range: Go checks the high bound
against the capacity first, then the low bound against the high one. -/
def sliceBoundsOutOfRange (lo hi : Int) (cap : Nat) : String :=
  if hi < 0 ∨ hi > cap then
    "runtime error: slice bounds out of range [:" ++ toString hi ++ "] with capacity " ++ toString cap
  else "runtime error: slice bounds out of range [" ++ toString lo ++ ":" ++ toString hi ++ "]"

/-- `s[lo:hi]` on a slice whose capacity is its length. -/
def goSlice {α : Type} (s : List α) (lo hi : Int) : Outcome (List α) :=
  if 0 ≤ lo ∧ lo ≤ hi ∧ hi ≤ s.length then .ret ((s.take hi.toNat).drop lo.toNat)
  else .panic (sliceBoundsOutOfRange lo hi s.length)

/-- The `if txcount > 0` block: the page of `rawTxs` and the `from` and `to`
the answer reports, or the range error. -/
def pageTxs (limit : Int) (rawTxs : List String) (fromIdx toIdx : Int) :
    Outcome (Except String (List String × Int × Int)) :=
  if 0 < rawTxs.length then
    match pageRange limit rawTxs.length fromIdx toIdx with
    | .error msg => .ret (.error msg)
    | .ok (fromIdx, toIdx) => (goSlice rawTxs fromIdx toIdx).map fun page => .ok (page, fromIdx, toIdx)
  else .ret (.ok (rawTxs, fromIdx, toIdx))

/-! ## The handlers -/

/-- What a handler writes: an Insight error, an HTTP error with its status, or
the JSON payload. -/
inductive TxnsResponse (P : Type)
  | insightError (msg : String)
  | httpError (msg : String) (code : Nat)
  | json (payload : P)
  deriving DecidableEq, Repr

/-- `apitypes.InsightMultiAddrsTxOutput`. -/
structure InsightMultiAddrsTxOutput (T : Type) where
  totalItems : Int
  fromIdx : Int
  toIdx : Int
  items : List T
  deriving DecidableEq, Repr

/-- `apitypes.InsightBlockAddrTxSummary`. -/
structure InsightBlockAddrTxSummary (T : Type) where
  pagesTotal : Int
  txs : List T
  deriving DecidableEq, Repr

/-- `%s` of a `[]string`. -/
def goStrings (xs : List String) : String := "[" ++ " ".intercalate xs ++ "]"

/-- The `GetRawTransaction` loop and the conversion, which end every branch
that lists transactions. -/
def convertTxs {P : Type} (src : InsightTxSource R T) (convert : List R → Except String (List T))
    (convertErr : String → String) (rawTxs : List String) (payload : List T → P) : TxnsResponse P :=
  match rawTxs.mapM src.getRawTransaction with
  | .error e => .insightError ("Error gathering transaction details (" ++ e ++ ")")
  | .ok txsOld =>
    match convert txsOld with
    | .error e => .insightError (convertErr e)
    | .ok txsNew => .json (payload txsNew)

/-- `getAddressesTxn` on the request's address parameter, `from` and `to`
(`none` when absent). -/
def getAddressesTxn (src : InsightTxSource R T) (address : String) (fromIdx : Int)
    (toIdx : Option Int) : Outcome (TxnsResponse (InsightMultiAddrsTxOutput T)) :=
  if address = "" then .ret (.insightError "Address cannot be empty") else
  let toIdx := toIdx.getD (wrapInt64 (fromIdx + 10))
  let addresses := stringsSplit address ','
  match src.insightAddressTransactions addresses with
  | .error .timeout => .ret (.httpError "Database timeout." 503)
  | .error (.other e) => .ret (.insightError ("Error retrieving transactions for addresss " ++
      goStrings addresses ++ " (" ++ e ++ ")"))
  | .ok (rawTxs, recentTxs) =>
    (addressesUnconfirmed src addresses (recentTxs, [])).bind fun
      | .error msg => .ret (.insightError msg)
      | .ok (_, unconfirmedTxs) =>
        let rawTxs := unconfirmedTxs ++ rawTxs
        (pageTxs 50 rawTxs fromIdx toIdx).bind fun
          | .error msg => .ret (.insightError msg)
          | .ok (page, fromIdx, toIdx) =>
            .ret (convertTxs src src.dcrToInsightTxns
              (fun e => "Unable to convert transactions (" ++ e ++ ")") page
              fun txsNew => ⟨rawTxs.length, fromIdx, toIdx, txsNew⟩)

/-- The merge loop of the block branch: append, count, and break once the count
is above 10. -/
def mergeLoop : List R → Nat → List R → List R × Nat
  | [], count, txsOld => (txsOld, count)
  | tx :: txs, count, txsOld =>
    if count + 1 > 10 then (txsOld ++ [tx], count + 1)
    else mergeLoop txs (count + 1) (txsOld ++ [tx])

/-- "Merge tx and stx together and limit result to 10 max": the regular
transactions, then the stake ones while fewer than 10 are kept. -/
def mergeBlockTxs (rawTx rawSTx : List R) : List R :=
  let (txsOld, count) := mergeLoop rawTx 0 []
  if count < 10 then (mergeLoop rawSTx count txsOld).1 else txsOld

/-- `getTransactions` on the request's block hash and address parameters. -/
def getTransactions (src : InsightTxSource R T) (hash address : String) :
    Outcome (TxnsResponse (InsightBlockAddrTxSummary T)) :=
  if hash = "" ∧ address = "" then
    .ret (.insightError "Required query parameters (address or block) not present.")
  else if hash ≠ "" then
    match src.getBlockVerboseByHash hash with
    | none => .ret (.insightError ("Unable to get block " ++ hash ++ " transactions"))
    | some (rawTx, rawSTx) =>
      match src.txConverter (mergeBlockTxs rawTx rawSTx) with
      | .error _ => .ret (.insightError "Error Processing Transactions")
      | .ok txsNew => .ret (.json ⟨rawTx.length + rawSTx.length, txsNew⟩)
  else
    match src.decodeAddress address with
    | .error _ => .ret (.insightError ("Address is invalid (" ++ address ++ ")"))
    | .ok _ =>
      match src.insightAddressTransactions [address] with
      | .error .timeout => .ret (.httpError "Database timeout." 503)
      | .error (.other e) => .ret (.insightError ("Error retrieving transactions for addresss " ++
          goStrings [address] ++ " (" ++ e ++ ")"))
      | .ok (rawTxs, recentTxs) =>
        match src.unconfirmedTxnsForAddress address with
        | .error e => .ret (.insightError ("Error gathering mempool transactions (" ++ e ++ ")"))
        | .ok none => .panic errNilDereference
        | .ok (some addressOuts) =>
          let rawTxs := (addressUnconfirmed addressOuts recentTxs []).2 ++ rawTxs
          let page := if rawTxs.length > 10 then rawTxs.take 10 else rawTxs
          .ret (convertTxs src src.txConverter (fun _ => "Error Processing Transactions") page
            fun txsNew => ⟨rawTxs.length, txsNew⟩)

/-! ## The mempool lists hold each new hash once -/

/-- One duplicate-check loop appends the same hashes to both lists: those of
`hs` not in `recentTxs`, once each, in the order of `hs`. -/
theorem dupCheck_spec : ∀ (hs recentTxs unconfirmedTxs : List String), ∃ new,
    dupCheck recentTxs unconfirmedTxs hs = (recentTxs ++ new, unconfirmedTxs ++ new) ∧
      new.Nodup ∧ (∀ h, h ∈ new ↔ h ∈ hs ∧ h ∉ recentTxs) ∧ new.Sublist hs
  | [], _, _ => ⟨[], by simp [dupCheck]⟩
  | h :: hs, recentTxs, unconfirmedTxs => by
    by_cases hr : recentTxs.contains h
    · -- a recent hash is skipped
      obtain ⟨new, heq, hnd, hmem, hsub⟩ := dupCheck_spec hs recentTxs unconfirmedTxs
      have hin : h ∈ recentTxs := by simpa using hr
      refine ⟨new, by rw [dupCheck, if_pos hr, heq], hnd, fun x => ?_, hsub.cons h⟩
      rw [hmem, List.mem_cons]
      constructor
      · exact fun ⟨hx, hx'⟩ => ⟨.inr hx, hx'⟩
      · rintro ⟨rfl | hx, hx'⟩
        · exact absurd hin hx'
        · exact ⟨hx, hx'⟩
    · -- a new hash is appended to both
      obtain ⟨new, heq, hnd, hmem, hsub⟩ :=
        dupCheck_spec hs (recentTxs ++ [h]) (unconfirmedTxs ++ [h])
      have hout : h ∉ recentTxs := by simpa using hr
      refine ⟨h :: new, by simp only [dupCheck, if_neg hr, heq, List.append_assoc,
        List.singleton_append], ?_, fun x => ?_, hsub.cons₂ h⟩
      · exact List.nodup_cons.mpr ⟨fun hx => ((hmem h).mp hx).2 (by simp), hnd⟩
      · rw [List.mem_cons, hmem, List.mem_cons]
        by_cases hx : x = h
        · subst hx; simp [hout]
        · simp [hx]

/-- Two passes in sequence, the second checked against the first's additions,
add the hashes of both lists not yet recent, once each. -/
theorem passes_append {A B R new₁ new₂ : List String} (hnd₁ : new₁.Nodup)
    (hmem₁ : ∀ x, x ∈ new₁ ↔ x ∈ A ∧ x ∉ R) (hnd₂ : new₂.Nodup)
    (hmem₂ : ∀ x, x ∈ new₂ ↔ x ∈ B ∧ x ∉ R ++ new₁) :
    (new₁ ++ new₂).Nodup ∧ ∀ x, x ∈ new₁ ++ new₂ ↔ x ∈ A ++ B ∧ x ∉ R := by
  refine ⟨List.nodup_append.mpr ⟨hnd₁, hnd₂, fun x hx₁ hx₂ =>
    ((hmem₂ x).mp hx₂).2 (List.mem_append_right _ hx₁)⟩, fun x => ?_⟩
  simp only [List.mem_append, hmem₁, hmem₂]
  by_cases hA : x ∈ A <;> by_cases hR : x ∈ R <;> simp [hA, hR]

/-- The two loops of one address append, to both lists, the gathered hashes not
yet recent, once each. -/
theorem addressUnconfirmed_spec (addressOuts : AddressOutpoints) (recentTxs unconfirmedTxs : List String) :
    ∃ new, addressUnconfirmed addressOuts recentTxs unconfirmedTxs =
        (recentTxs ++ new, unconfirmedTxs ++ new) ∧
      new.Nodup ∧ ∀ h, h ∈ new ↔ h ∈ gatheredHashes addressOuts ∧ h ∉ recentTxs := by
  obtain ⟨new₁, h₁, hnd₁, hmem₁, -⟩ := dupCheck_spec (addressOuts.outpoints.map OutPoint.hash)
    recentTxs unconfirmedTxs
  obtain ⟨new₂, h₂, hnd₂, hmem₂, -⟩ := dupCheck_spec (addressOuts.prevOuts.map PrevOut.txSpending)
    (recentTxs ++ new₁) (unconfirmedTxs ++ new₁)
  exact ⟨new₁ ++ new₂, by simp only [addressUnconfirmed, h₁, h₂, List.append_assoc],
    passes_append hnd₁ hmem₁ hnd₂ hmem₂⟩

/-- The hashes the loop of `getAddressesTxn` gathers over the requested
addresses. -/
def gatheredAll (src : InsightTxSource R T) : List String → List String
  | [] => []
  | addr :: addresses =>
    (match src.decodeAddress addr with
      | .ok address =>
        match src.unconfirmedTxnsForAddress address with
        | .ok (some addressOuts) => gatheredHashes addressOuts
        | _ => []
      | .error _ => []) ++ gatheredAll src addresses

/-- Over every requested address, the loop appends the same hashes to both
lists: each gathered hash that was not recent at the start, once. -/
theorem addressesUnconfirmed_run (src : InsightTxSource R T) :
    ∀ (addresses recentTxs unconfirmedTxs recent' unconfirmed' : List String),
      addressesUnconfirmed src addresses (recentTxs, unconfirmedTxs) = .ret (.ok (recent', unconfirmed')) →
      ∃ new, recent' = recentTxs ++ new ∧ unconfirmed' = unconfirmedTxs ++ new ∧ new.Nodup ∧
        ∀ h, h ∈ new ↔ h ∈ gatheredAll src addresses ∧ h ∉ recentTxs
  | [], _, _, _, _, h => by
    simp only [addressesUnconfirmed, Outcome.ret.injEq, Except.ok.injEq, Prod.mk.injEq] at h
    exact ⟨[], by simp [h.1], by simp [h.2], List.nodup_nil, by simp [gatheredAll]⟩
  | addr :: addresses, recentTxs, unconfirmedTxs, recent', unconfirmed', h => by
    simp only [addressesUnconfirmed] at h
    split at h
    · cases h
    rename_i address hdec
    split at h
    · cases h
    · cases h
    rename_i addressOuts hun
    obtain ⟨new₁, h₁, hnd₁, hmem₁⟩ := addressUnconfirmed_spec addressOuts recentTxs unconfirmedTxs
    rw [h₁] at h
    obtain ⟨new₂, rfl, rfl, hnd₂, hmem₂⟩ := addressesUnconfirmed_run src addresses _ _ _ _ h
    have hg : gatheredAll src (addr :: addresses) = gatheredHashes addressOuts ++ gatheredAll src addresses := by
      simp [gatheredAll, hdec, hun]
    exact ⟨new₁ ++ new₂, by simp, by simp, hg ▸ passes_append hnd₁ hmem₁ hnd₂ hmem₂⟩

/-- Whatever the requested addresses, the mempool list `getAddressesTxn`
builds holds each gathered hash that is not among the database's recent
transactions, once, and `recentTxs` ends as the recent ones followed by it. -/
theorem addressesUnconfirmed_spec (src : InsightTxSource R T) {addresses recentTxs recent' unconfirmedTxs : List String}
    (h : addressesUnconfirmed src addresses (recentTxs, []) = .ret (.ok (recent', unconfirmedTxs))) :
    unconfirmedTxs.Nodup ∧ (∀ x, x ∈ unconfirmedTxs ↔ x ∈ gatheredAll src addresses ∧ x ∉ recentTxs) ∧
      recent' = recentTxs ++ unconfirmedTxs := by
  obtain ⟨new, rfl, rfl, hnd, hmem⟩ := addressesUnconfirmed_run src addresses recentTxs [] _ _ h
  exact ⟨hnd, hmem, by simp⟩

/-- The mempool of `a1`: `m1` pays it twice and `r1` once, and `m2` spends
from it; that of `a2`: `m2` pays it. -/
def overlapSource : InsightTxSource String String where
  insightAddressTransactions _ := .ok (["c1"], ["r1"])
  decodeAddress a := .ok a
  unconfirmedTxnsForAddress a :=
    if a = "a1" then .ok (some ⟨[⟨"m1", 0⟩, ⟨"r1", 1⟩, ⟨"m1", 2⟩], [⟨"m2", ⟨"c1", 0⟩⟩], fun _ => none⟩)
    else .ok (some ⟨[⟨"m2", 1⟩], [], fun _ => none⟩)
  getRawTransaction h := .ok h
  getBlockVerboseByHash _ := none
  dcrToInsightTxns txs := .ok txs
  txConverter txs := .ok txs

theorem addressesUnconfirmed_spec_overlap :
    ["m1", "m2"].Nodup ∧
      (∀ x, x ∈ ["m1", "m2"] ↔ x ∈ gatheredAll overlapSource ["a1", "a2"] ∧ x ∉ ["r1"]) ∧
      ["r1", "m1", "m2"] = ["r1"] ++ ["m1", "m2"] :=
  @addressesUnconfirmed_spec String String overlapSource ["a1", "a2"] ["r1"] ["r1", "m1", "m2"]
    ["m1", "m2"] rfl

/-! ## The page is always in bounds -/

/-- The clamped ends of `pageRange`, named: `f₂` is `from` clamped into
`[0, txcount]`, `t₃` is `to` clamped into `[from, txcount]`. -/
theorem pageRange_clamped (limit : Int) (txcount : Nat) (fromIdx toIdx : Int) :
    ∃ f₂ t₃ : Int, 0 ≤ f₂ ∧ f₂ ≤ t₃ ∧ t₃ ≤ txcount ∧ (fromIdx ≤ 0 → f₂ = 0) ∧
      (0 ≤ fromIdx → fromIdx ≤ txcount → f₂ = fromIdx) ∧ (txcount ≤ fromIdx → f₂ = txcount) ∧
      (toIdx ≤ f₂ → t₃ = f₂) ∧ (t₃ = f₂ ∨ t₃ ≤ toIdx) ∧
      pageRange limit txcount fromIdx toIdx =
        if t₃ - f₂ > limit then
          .error ("\"from\" (" ++ toString f₂ ++ ") and \"to\" (" ++ toString t₃ ++
            ") range should be less than or equal to " ++ toString limit)
        else .ok (f₂, t₃) := by
  simp only [pageRange]
  generalize hf₁ : (if fromIdx > (txcount : Int) then (txcount : Int) else fromIdx) = f₁
  generalize hf₂ : (if f₁ < 0 then 0 else f₁) = f₂
  generalize ht₁ : (if toIdx > (txcount : Int) then (txcount : Int) else toIdx) = t₁
  generalize ht₂ : (if t₁ < 0 then 0 else t₁) = t₂
  generalize ht₃ : (if f₂ > t₂ then f₂ else t₂) = t₃
  have hfrom : 0 ≤ f₂ ∧ f₂ ≤ txcount ∧ (fromIdx ≤ 0 → f₂ = 0) ∧
      (0 ≤ fromIdx → fromIdx ≤ txcount → f₂ = fromIdx) ∧ (txcount ≤ fromIdx → f₂ = txcount) := by
    subst hf₂ hf₁; split_ifs <;> omega
  have hto : 0 ≤ t₂ ∧ t₂ ≤ txcount ∧ (t₂ = 0 ∨ t₂ ≤ toIdx) := by subst ht₂ ht₁; split_ifs <;> omega
  have hto₃ : f₂ ≤ t₃ ∧ t₃ ≤ txcount ∧ (toIdx ≤ f₂ → t₃ = f₂) ∧ (t₃ = f₂ ∨ t₃ ≤ toIdx) := by
    subst ht₃; split_ifs <;> omega
  exact ⟨f₂, t₃, hfrom.1, hto₃.1, hto₃.2.1, hfrom.2.2.1, hfrom.2.2.2.1, hfrom.2.2.2.2,
    hto₃.2.2.1, hto₃.2.2.2, rfl⟩

/-- A range `pageRange` accepts lies within the list and spans at most `limit`. -/
theorem pageRange_ok {limit : Int} {txcount : Nat} {fromIdx toIdx lo hi : Int}
    (h : pageRange limit txcount fromIdx toIdx = .ok (lo, hi)) :
    0 ≤ lo ∧ lo ≤ hi ∧ hi ≤ txcount ∧ hi - lo ≤ limit := by
  obtain ⟨f₂, t₃, h₀, h₁, h₂, -, -, -, -, -, heq⟩ := pageRange_clamped limit txcount fromIdx toIdx
  rw [heq] at h
  split_ifs at h with hl
  obtain ⟨rfl, rfl⟩ := Prod.mk.inj (Except.ok.inj h)
  omega

/-- A `to` at most `step` above `from`, or negative, passes the clamps with
at most `step` transactions when `step` is within the limit. -/
theorem pageRange_span {limit step : Int} (hstep : 0 ≤ step) (hle : step ≤ limit) (txcount : Nat)
    {fromIdx toIdx : Int} (ht : toIdx ≤ fromIdx + step ∨ toIdx < 0) :
    ∃ lo hi : Int, pageRange limit txcount fromIdx toIdx = .ok (lo, hi) ∧ hi - lo ≤ step := by
  obtain ⟨f₂, t₃, h₀, h₁, h₂, hf₀, hf₁, hf₂, ht₀, ht₁, heq⟩ :=
    pageRange_clamped limit txcount fromIdx toIdx
  have hspan : t₃ - f₂ ≤ step := by omega
  exact ⟨f₂, t₃, by rw [heq, if_neg (by omega)], hspan⟩

/-- `pageTxs` never panics: it answers the range error, or the page
`rawTxs[lo:hi]` of a range within the list (all of it when the list is empty). -/
theorem pageTxs_ret (limit : Int) (rawTxs : List String) (fromIdx toIdx : Int) :
    ∃ r, pageTxs limit rawTxs fromIdx toIdx = .ret r := by
  unfold pageTxs
  split_ifs
  · split
    · exact ⟨_, rfl⟩
    · rename_i lo hi hpage
      obtain ⟨h₀, h₁, h₂, -⟩ := pageRange_ok hpage
      exact ⟨_, by rw [goSlice, if_pos ⟨h₀, h₁, h₂⟩]; rfl⟩
  · exact ⟨_, rfl⟩

theorem addressesUnconfirmed_panic (src : InsightTxSource R T) :
    ∀ (addresses : List String) (st : List String × List String) (msg : String),
      addressesUnconfirmed src addresses st = .panic msg →
      msg = errNilDereference ∧ ∃ a, src.unconfirmedTxnsForAddress a = .ok none
  | [], _, _, h => by cases h
  | addr :: addresses, (recentTxs, unconfirmedTxs), msg, h => by
    simp only [addressesUnconfirmed] at h
    split at h
    · cases h
    split at h
    · cases h
    · rename_i hnone
      exact ⟨(Outcome.panic.inj h).symm, _, hnone⟩
    · exact addressesUnconfirmed_panic src addresses _ msg h

/-- Whatever the addresses, `from` and `to`, `getAddressesTxn` panics only on
a nil `addressOuts` from the mempool: the slice of the page never does. -/
theorem getAddressesTxn_panic_nilDeref (src : InsightTxSource R T) (address : String)
    (fromIdx : Int) (toIdx : Option Int) {msg : String}
    (h : getAddressesTxn src address fromIdx toIdx = .panic msg) :
    msg = errNilDereference ∧ ∃ a, src.unconfirmedTxnsForAddress a = .ok none := by
  unfold getAddressesTxn at h
  split_ifs at h
  dsimp only at h
  split at h
  · cases h
  · cases h
  rcases Outcome.bind_eq_panic.mp h with hp | ⟨r, -, hr⟩
  · exact addressesUnconfirmed_panic src _ _ _ hp
  · split at hr
    · cases hr
    rcases Outcome.bind_eq_panic.mp hr with hp | ⟨r', -, hr'⟩
    · obtain ⟨r'', hr''⟩ := pageTxs_ret 50 _ fromIdx _
      rw [hr''] at hp
      cases hp
    · split at hr' <;> cases hr'

/-- A mempool that answers a nil `addressOuts`. -/
def nilMempoolSource : InsightTxSource String String :=
  { overlapSource with unconfirmedTxnsForAddress := fun _ => .ok none }

theorem getAddressesTxn_panic_nilDeref_nil :
    errNilDereference = errNilDereference ∧ ∃ a, nilMempoolSource.unconfirmedTxnsForAddress a = .ok none :=
  getAddressesTxn_panic_nilDeref nilMempoolSource "a1" 0 none rfl

/-- A default `to` of `from + step`, wrapped around as an `int64`, with
`step` at most the limit, never meets the range error and pages at most `step`
transactions: `getAddressesTxn` with `to` absent (`step` 10, limit 50), and
`getAddressInfo` with `to` absent or not above `from` (`step` and limit 1000). -/
theorem pageTxs_default {limit step : Int} (hstep : 0 ≤ step) (hle : step ≤ limit)
    (hsmall : step < 2 ^ 63) (rawTxs : List String) {fromIdx : Int} (hfrom : IsInt64 fromIdx) :
    ∃ page lo hi, pageTxs limit rawTxs fromIdx (wrapInt64 (fromIdx + step)) = .ret (.ok (page, lo, hi)) ∧
      page.length ≤ step := by
  unfold pageTxs
  split_ifs with hpos
  · have hwrap : wrapInt64 (fromIdx + step) ≤ fromIdx + step ∨ wrapInt64 (fromIdx + step) < 0 := by
      unfold wrapInt64; unfold IsInt64 at hfrom; omega
    obtain ⟨lo, hi, hrange, hspan⟩ := pageRange_span hstep hle rawTxs.length hwrap
    obtain ⟨h₀, h₁, h₂, -⟩ := pageRange_ok hrange
    refine ⟨(rawTxs.take hi.toNat).drop lo.toNat, lo, hi, ?_, ?_⟩
    · rw [hrange]
      simp only [goSlice, if_pos (And.intro h₀ (And.intro h₁ h₂)), Outcome.map_ret]
    · simp only [List.length_drop, List.length_take]
      omega
  · exact ⟨rawTxs, fromIdx, wrapInt64 (fromIdx + step), rfl, by simp at hpos; simp [hpos, hstep]⟩

/-- `from` five below the largest `int64`: the default `to` wraps around to a
negative number, and the page is empty. -/
theorem pageTxs_default_wrap :
    ∃ page lo hi, pageTxs 50 ["t1", "t2", "t3"] (2 ^ 63 - 5) (wrapInt64 (2 ^ 63 - 5 + 10)) =
      .ret (.ok (page, lo, hi)) ∧ (page.length : Int) ≤ 10 :=
  @pageTxs_default 50 10 (by omega) (by omega) (by omega) ["t1", "t2", "t3"] (2 ^ 63 - 5)
    (by unfold IsInt64; constructor <;> omega)

/-! ## The block branch keeps up to 11 transactions -/

/-- From a count of at most 10, the merge loop keeps transactions until the
count reaches 11. -/
theorem mergeLoop_eq : ∀ (txs : List R) (count : Nat) (txsOld : List R), count ≤ 10 →
    mergeLoop txs count txsOld = (txsOld ++ txs.take (11 - count), count + min txs.length (11 - count))
  | [], count, txsOld, _ => by simp [mergeLoop]
  | tx :: txs, count, txsOld, hc => by
    rw [mergeLoop]
    split_ifs with h
    · -- the eleventh transaction is kept, then the break
      obtain rfl : count = 10 := by omega
      simp
    · rw [mergeLoop_eq txs (count + 1) _ (by omega), show 11 - count = 11 - (count + 1) + 1 by omega,
        List.take_succ_cons, List.length_cons]
      simp only [List.append_assoc, List.singleton_append]
      exact Prod.ext rfl (by omega)

/-- The block branch of `getTransactions` passes to the converter the first 11
regular transactions when there are 10 or more, and otherwise all of them
followed by the first stake transactions, up to 11 in all. -/
theorem mergeBlockTxs_eq (rawTx rawSTx : List R) :
    mergeBlockTxs rawTx rawSTx =
      if 10 ≤ rawTx.length then rawTx.take 11 else rawTx ++ rawSTx.take (11 - rawTx.length) := by
  rw [mergeBlockTxs, mergeLoop_eq rawTx 0 [] (by omega)]
  simp only [List.nil_append, Nat.zero_add, Nat.sub_zero]
  split_ifs with h₁ h₂ h₂
  · omega
  · rw [mergeLoop_eq rawSTx _ _ (by omega), List.take_of_length_le (by omega),
      show 11 - min rawTx.length 11 = 11 - rawTx.length by omega]
  · rfl
  · omega

end HcData.Insight
