import Mathlib.Algebra.Order.Ring.Nat
import HcData.Pg.Votes
import HcData.Pg.Addresses
import HcData.Pg.Tickets
import HcData.Pg.BatchInsert

/-!
# Ticket row ids: inserting a block's tickets, and looking tickets up

`InsertTickets` picks the ticket purchases (SStx) out of a block's
transactions, with the row id of each, and inserts one `tickets` row per ticket
in one database transaction.  Each insert's `QueryRow(...).Scan(&id)` gives the
ticket's row id, or `sql.ErrNoRows` when the statement returned no row, which
skips the ticket; any other error rolls back.

It returns the ids and the tickets.  When every insert gives an id the two
lists line up.  When one answers `sql.ErrNoRows`, its ticket stays in the
second list and no id takes its place, so every id after it sits at the index
of an earlier ticket (`insertTickets_spec`, `insertTickets_misaligned`).  The
stake submission address and the multisig flag are read from the first output
under a guard on the outputs' length; the price is read from it outside the
guard, so a ticket with no output panics.

`RetrieveTicketIDsByHashes` looks the ids of ticket hashes up in a read-only
transaction.  It returns the ids of the hashes before the first lookup that
fails, with that failure, or all of them with the commit's error
(`retrieveTicketIDsByHashes_spec`); its loop is `collectIDs`, the one of the
batch inserts.  When `Prepare` fails it closes the nil statement it got back,
which panics.
-/

namespace HcData.Pg

/-- `stake.TxTypeSStx`. -/
def txTypeSStx : Int := 1

/-- A `dbtypes.Vout` with the output script, which `InsertTickets` classifies. -/
structure TicketVout extends Vout where
  scriptPubKey : String
  deriving DecidableEq, Repr

/-- The fields of a `dbtypes.Tx` that `InsertTickets` reads. -/
structure TicketDbTx extends DbTx where
  vouts : List TicketVout
  fees : Int
  numVin : Nat
  deriving DecidableEq, Repr

/-- The arguments of one ticket insert, in the order of the `QueryRow` call.
Price and fee are in atoms; the code passes them as coins. -/
structure TicketInsertArgs where
  txID : String
  blockHash : String
  blockHeight : Int
  purchaseTxDbID : Nat
  stakesubmissionAddress : String
  isMultisig : Bool
  isSplit : Bool
  numInputs : Nat
  price : Int
  fee : Int
  spendType : TicketSpendType
  poolStatus : TicketPoolStatus
  isMainchain : Bool
  deriving DecidableEq, Repr

/-- The "Choose only SSTx" loop: the tickets, and `txDbIDs[i]` for each, which
panics past the end of `txDbIDs`. -/
def selectTickets (txDbIDs : List Nat) : List TicketDbTx → Nat → Outcome (List TicketDbTx × List Nat)
  | [], _ => .ret ([], [])
  | tx :: txs, i =>
    if tx.txType = txTypeSStx then
      match txDbIDs[i]? with
      | none => .panic (errIndexOutOfRange i txDbIDs.length)
      | some id => (selectTickets txDbIDs txs (i + 1)).map fun (ts, ids) => (tx :: ts, id :: ids)
    else selectTickets txDbIDs txs (i + 1)

/-- The insert arguments of a ticket whose first output is `v0`; `isMultisigScript`
is `txscript.GetStakeOutSubclass(script) == txscript.MultiSigTy`. -/
def ticketInsertArgs (isMultisigScript : String → Bool) (tx : TicketDbTx) (ticketDbID : Nat)
    (v0 : TicketVout) : TicketInsertArgs :=
  ⟨tx.txID, tx.blockHash, tx.blockHeight, ticketDbID, v0.addresses.headD "",
    isMultisigScript v0.scriptPubKey, decide (tx.numVin > 1), tx.numVin, v0.value, tx.fees,
    .unspent, .live, tx.isMainchainBlock⟩

/-- The "Insert each ticket" loop: the ids the inserts gave and the arguments
of every insert asked, or the error of an insert. -/
def insertTicketsLoop (isMultisigScript : String → Bool) (queryRow : Nat → RowResult) :
    List (TicketDbTx × Nat) → Nat → List Nat → List TicketInsertArgs →
      Outcome (Except String (List Nat × List TicketInsertArgs))
  | [], _, ids, asked => .ret (.ok (ids, asked))
  | (tx, ticketDbID) :: rest, k, ids, asked =>
    match tx.vouts[0]? with
    | none => .panic (errIndexOutOfRange 0 tx.vouts.length)
    | some v0 =>
      let args := ticketInsertArgs isMultisigScript tx ticketDbID v0
      match queryRow k with
      | .noRows => insertTicketsLoop isMultisigScript queryRow rest (k + 1) ids (asked ++ [args])
      | .error e => .ret (.error e)
      | .id id => insertTicketsLoop isMultisigScript queryRow rest (k + 1) (ids ++ [id]) (asked ++ [args])

/-- What `InsertTickets` returns, and the ticket inserts its commit kept. -/
structure InsertTicketsResult where
  ids : List Nat
  ticketTx : List TicketDbTx
  err : Option String
  committed : List TicketInsertArgs
  deriving DecidableEq, Repr

/-- `InsertTickets`, with the transaction's calls, the script classification,
and the answer of each ticket insert by position.  `checked` and
`updateExistingRecords` choose the insert statement, whose answers are
`queryRow`. -/
def insertTickets (calls : TxCalls) (isMultisigScript : String → Bool) (queryRow : Nat → RowResult)
    (dbTxns : List TicketDbTx) (txDbIDs : List Nat) : Outcome InsertTicketsResult :=
  match calls.begin with
  | some e => .ret ⟨[], [], some ("unable to begin database transaction: " ++ e), []⟩
  | none =>
    match calls.prepare with
    | some e => .ret ⟨[], [], some e, []⟩
    | none =>
      (selectTickets txDbIDs dbTxns 0).bind fun (ticketTx, ticketDbIDs) =>
        (insertTicketsLoop isMultisigScript queryRow (ticketTx.zip ticketDbIDs) 0 [] []).map fun
          | .error e => ⟨[], [], some e, []⟩
          | .ok (ids, asked) =>
            ⟨ids, ticketTx, calls.commit, if calls.commit.isNone then asked else []⟩

/-! ## The ids and the tickets -/

/-- The tickets of `dbTxns`, each with the row id at its position. -/
def ticketsWithIDs (dbTxns : List TicketDbTx) (txDbIDs : List Nat) : List (TicketDbTx × Nat) :=
  (dbTxns.zip txDbIDs).filter fun p => p.1.txType = txTypeSStx

/-- With an id for every transaction, the selection keeps each ticket with
its own row id. -/
theorem selectTickets_eq (txDbIDs : List Nat) :
    ∀ (dbTxns : List TicketDbTx) (i : Nat), i + dbTxns.length ≤ txDbIDs.length →
      selectTickets txDbIDs dbTxns i = .ret (ticketsWithIDs dbTxns (txDbIDs.drop i)).unzip
  | [], _, _ => rfl
  | tx :: txs, i, h => by
    have hi : i < txDbIDs.length := by simp at h; omega
    rw [selectTickets, List.drop_eq_getElem_cons hi, List.getElem?_eq_getElem hi]
    simp only [ticketsWithIDs, List.zip_cons_cons, List.filter_cons]
    rw [selectTickets_eq txDbIDs txs (i + 1) (by simp at h; omega)]
    by_cases hs : tx.txType = txTypeSStx <;> simp [hs, ticketsWithIDs]

/-- With no insert error and an output on every ticket, the loop gives the ids
of the inserts that returned a row and asks every ticket's insert. -/
theorem insertTicketsLoop_eq (isMultisigScript : String → Bool) (queryRow : Nat → RowResult)
    (hq : ∀ k e, queryRow k ≠ .error e) :
    ∀ (ps : List (TicketDbTx × Nat)) (k : Nat) (ids : List Nat) (asked : List TicketInsertArgs),
      (∀ p ∈ ps, p.1.vouts ≠ []) →
      insertTicketsLoop isMultisigScript queryRow ps k ids asked =
        .ret (.ok (ids ++ (List.range' k ps.length).filterMap (fun j => rowId (queryRow j)),
          asked ++ ps.filterMap fun p => p.1.vouts.head?.map (ticketInsertArgs isMultisigScript p.1 p.2)))
  | [], _, ids, asked, _ => by simp [insertTicketsLoop]
  | (tx, ticketDbID) :: rest, k, ids, asked, hv => by
    obtain ⟨v0, vs, hvs⟩ := List.exists_cons_of_ne_nil (hv (tx, ticketDbID) (List.mem_cons_self _ _))
    have ih := insertTicketsLoop_eq isMultisigScript queryRow hq rest (k + 1)
    have hrest : ∀ p ∈ rest, p.1.vouts ≠ [] := fun p hp => hv p (List.mem_cons_of_mem _ hp)
    dsimp only at hvs
    cases hk : queryRow k with
    | error e => exact absurd hk (hq k e)
    | id n => simp [insertTicketsLoop, hvs, hk, ih _ _ hrest, List.range'_succ, rowId]
    | noRows => simp [insertTicketsLoop, hvs, hk, ih _ _ hrest, List.range'_succ, rowId]

/-- When no call fails, every ticket has an output and `txDbIDs` covers
`dbTxns`, `InsertTickets` asks one insert per ticket, with the row id of its
own transaction, and commits them; it returns every ticket, and the ids of
only those inserts that returned a row.  An insert answering `sql.ErrNoRows`
thus shifts every later id to the index of an earlier ticket. -/
theorem insertTickets_spec {calls : TxCalls} (hb : calls.begin = none) (hp : calls.prepare = none)
    (hc : calls.commit = none) (isMultisigScript : String → Bool) (queryRow : Nat → RowResult)
    (hq : ∀ k e, queryRow k ≠ .error e) (dbTxns : List TicketDbTx) (txDbIDs : List Nat)
    (hlen : dbTxns.length ≤ txDbIDs.length)
    (hv : ∀ tx ∈ dbTxns, tx.txType = txTypeSStx → tx.vouts ≠ []) :
    insertTickets calls isMultisigScript queryRow dbTxns txDbIDs =
      .ret ⟨(List.range (ticketsWithIDs dbTxns txDbIDs).length).filterMap (fun k => rowId (queryRow k)),
        (ticketsWithIDs dbTxns txDbIDs).map Prod.fst, none,
        (ticketsWithIDs dbTxns txDbIDs).filterMap fun p =>
          p.1.vouts.head?.map (ticketInsertArgs isMultisigScript p.1 p.2)⟩ := by
  have hsel := selectTickets_eq txDbIDs dbTxns 0 (by omega)
  rw [List.drop_zero] at hsel
  have hvs : ∀ p ∈ ticketsWithIDs dbTxns txDbIDs, p.1.vouts ≠ [] := by
    intro p hmem
    obtain ⟨hz, hs⟩ := List.mem_filter.mp hmem
    exact hv p.1 (List.of_mem_zip hz).1 (by simpa using hs)
  simp only [insertTickets, hb, hp, hsel, Outcome.bind_ret, List.zip_unzip,
    insertTicketsLoop_eq isMultisigScript queryRow hq _ 0 [] [] hvs]
  simp [hc, List.range_eq_range']

/-! ## Looking ticket ids up -/

/-- The error of a failed lookup of a ticket id. -/
def ticketSelectErr (r : RowResult) : String := "Tickets SELECT exec failed: " ++ rowError r

/-- `RetrieveTicketIDsByHashes`, with the answers of `BeginTx`, `Prepare`, the
lookup of each hash in the transaction's snapshot, and `Commit`.  A failed
`Prepare` gives a nil `*sql.Stmt`, whose `Close` dereferences it. -/
def retrieveTicketIDsByHashes (beginErr prepareErr : Option String) (lookup : String → RowResult)
    (commit : Option String) (ticketHashes : List String) : Outcome (List Nat × Option String) :=
  match beginErr with
  | some e => .ret ([], some ("unable to begin database transaction: " ++ e))
  | none =>
    match prepareErr with
    | some _ => .panic errNilDereference
    | none =>
      match collectIDs false (ticketHashes.map lookup) [] with
      | (ids, none) => .ret (ids, commit)
      | (ids, some r) => .ret (ids, some (ticketSelectErr r))

/-- Once the transaction and the statement are open, the call returns the ids
of the hashes before the first one whose lookup fails, in order, with that
lookup's error; when none fails, all the ids with the commit's error. -/
theorem retrieveTicketIDsByHashes_spec (lookup : String → RowResult) (commit : Option String)
    (ticketHashes : List String) :
    retrieveTicketIDsByHashes none none lookup commit ticketHashes =
      .ret (((ticketHashes.map lookup).takeWhile foundId).filterMap rowId,
        match (ticketHashes.map lookup).find? fun r => !foundId r with
        | none => commit
        | some r => some (ticketSelectErr r)) := by
  simp only [retrieveTicketIDsByHashes, collectIDs_eq, List.nil_append, stopsAt_false, Bool.not_not]
  cases (ticketHashes.map lookup).find? fun r => !foundId r <;> rfl

/-- A ticket purchase of 100 atoms paying to `addr`. -/
def purchase (txID addr : String) : TicketDbTx :=
  ⟨⟨txTypeSStx, txID, "b", 5, 0, true⟩, [⟨⟨txID, 0, 1, txTypeSStx, 100, [addr]⟩, ""⟩], 1, 1⟩

/-- Two tickets whose first insert answers `sql.ErrNoRows`: the one id
returned, that of the second ticket, comes back at the index of the first. -/
theorem insertTickets_misaligned :
    insertTickets okTxCalls (fun _ => false) (fun k => if k = 0 then .noRows else .id 7)
        [purchase "t1" "a1", purchase "t2" "a2"] [10, 11] =
      .ret ⟨[7], [purchase "t1" "a1", purchase "t2" "a2"], none,
        [⟨"t1", "b", 5, 10, "a1", false, false, 1, 100, 1, .unspent, .live, true⟩,
          ⟨"t2", "b", 5, 11, "a2", false, false, 1, 100, 1, .unspent, .live, true⟩]⟩ :=
  (insertTickets_spec rfl rfl rfl _ _ (fun k e => by by_cases h : k = 0 <;> simp [h])
    _ _ (by decide) (by simp [purchase])).trans rfl

end HcData.Pg
