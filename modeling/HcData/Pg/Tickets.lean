import HcData.Basic

/-!
# Ticket status setters

`SetPoolStatusForTickets`, `SetPoolStatusForTicketsByHash` and
`SetSpendingForTickets` begin a database transaction, prepare one UPDATE, run it
once per ticket and commit.  They share `setTicketsTx`; the first two return
early on an empty list and the third does not.

The failure branch is what the module is for.  When a per-ticket `Exec` fails,
the loop closes the statement and returns `0, dbtx.Rollback()`.  The rollback
keeps the table as it was, but the caller receives the rollback's error, which
is nil whenever the rollback succeeds: `setTicketsTx_of_failure` states this
for every input, and `setTicketsTx_atomic` is the half that does hold.
-/

namespace HcData.Pg

/-- `dbtypes.TicketSpendType`.  Modelled from the spec: `dbtypes` is not in the
source, and the spec lists the spend types Unspent, Voted and Revoked. -/
inductive TicketSpendType where
  | unspent | voted | revoked
  deriving DecidableEq, Repr

/-- `dbtypes.TicketPoolStatus`.  Modelled from the spec: its pool statuses are
Live, Voted, Expired, Missed and Immature. -/
inductive TicketPoolStatus where
  | live | voted | expired | missed | immature
  deriving DecidableEq, Repr

/-- The columns of a `tickets` row that the setters select by or write. -/
structure TicketRow where
  id : Nat
  txHash : String
  spendType : TicketSpendType
  poolStatus : TicketPoolStatus
  spendHeight : Int
  spendTxDbId : Nat
  deriving DecidableEq, Repr

/-- `internal.SetTicketPoolStatusForTicketDbID`.  Modelled from the spec: the
statement text is not in the source; it sets `pool_status` of the row with the
given id. -/
def setTicketPoolStatusForTicketDbID (t : List TicketRow) (a : Nat × TicketPoolStatus) :
    List TicketRow :=
  t.map fun r => if r.id = a.1 then { r with poolStatus := a.2 } else r

/-- `internal.SetTicketPoolStatusForHash`.  Modelled from the spec: it sets
`pool_status` of the rows of the given ticket hash. -/
def setTicketPoolStatusForHash (t : List TicketRow) (a : String × TicketPoolStatus) :
    List TicketRow :=
  t.map fun r => if r.txHash = a.1 then { r with poolStatus := a.2 } else r

/-- The arguments `SetSpendingForTickets` passes for one ticket, in the order of
its `sqlExecStmt` call. -/
structure SpendingInfo where
  ticketDbID : Nat
  blockHeight : Int
  spendDbID : Nat
  spendType : TicketSpendType
  poolStatus : TicketPoolStatus
  deriving DecidableEq, Repr

/-- `internal.SetTicketSpendingInfoForTicketDbID`.  Modelled from the spec: it
sets the spend height, spending row id, spend type and pool status of the row
with the given id. -/
def setTicketSpendingInfoForTicketDbID (t : List TicketRow) (a : SpendingInfo) :
    List TicketRow :=
  t.map fun r =>
    if r.id = a.ticketDbID then
      { r with spendHeight := a.blockHeight, spendTxDbId := a.spendDbID,
               spendType := a.spendType, poolStatus := a.poolStatus }
    else r

section Setters

variable {α : Type} (update : List TicketRow → α → List TicketRow)
  (execErrPrefix : String) (calls : TxCalls)

/-- The per-ticket loop over the transaction's working copy `t`, statement `i`
being the `i`-th `Exec`: `none` once a statement fails, otherwise the sum of the
rows affected and the working copy.  A missing argument is the panic of Go's
`s[i]` on a slice shorter than the ids, with its message. -/
def ticketStmts : List (Except String α) → Nat → Int → List TicketRow →
    Outcome (Option (Int × List TicketRow))
  | [], _, total, t => .ret (some (total, t))
  | .error msg :: _, _, _, _ => .panic msg
  | .ok a :: rest, i, total, t =>
    match sqlExecStmt execErrPrefix (calls.exec i) with
    | (_, some _) => .ret none
    | (n, none) => ticketStmts rest (i + 1) (total + n) (update t a)

/-- `Begin`, `Prepare`, the loop and `Commit`.  A failed statement returns
`0, dbtx.Rollback()`; a failed `Commit` leaves the table as it was. -/
def setTicketsTx (args : List (Except String α)) (t : List TicketRow) :
    Outcome ((Int × Option String) × List TicketRow) :=
  match calls.begin with
  | some e => .ret ((0, some ("unable to begin database transaction: " ++ e)), t)
  | none =>
    match calls.prepare with
    | some e => .ret ((0, some ("tickets SELECT prepare failed: " ++ e)), t)
    | none =>
      (ticketStmts update execErrPrefix calls args 0 0 t).map fun
        | none => ((0, calls.rollback), t)
        | some (total, t') =>
          match calls.commit with
          | none => ((total, none), t')
          | some e => ((total, some e), t)

/-- A statement fails at position `j`: its `sqlExecStmt` result is an error. -/
def StmtFails (j : Nat) : Prop := (sqlExecStmt execErrPrefix (calls.exec j)).2.isSome

theorem ticketStmts_ret_some {args : List (Except String α)} {i : Nat} {total n : Int}
    {t t' : List TicketRow}
    (h : ticketStmts update execErrPrefix calls args i total t = .ret (some (n, t'))) :
    ∃ as : List α, args = as.map .ok ∧ t' = as.foldl update t := by
  induction args generalizing i total t with
  | nil =>
    simp only [ticketStmts, Outcome.ret.injEq, Option.some.injEq, Prod.mk.injEq] at h
    exact ⟨[], rfl, h.2.symm⟩
  | cons a rest ih =>
    rcases a with _ | a
    · simp [ticketStmts] at h
    · simp only [ticketStmts] at h
      split at h
      · simp at h
      · obtain ⟨as, rfl, rfl⟩ := ih h
        exact ⟨a :: as, rfl, rfl⟩

/-- Once some statement fails, the loop answers `none`, wherever the failure is. -/
theorem ticketStmts_of_failure {as : List α} {i : Nat} {total : Int} {t : List TicketRow}
    (hfail : ∃ j < as.length, StmtFails execErrPrefix calls (i + j)) :
    ticketStmts update execErrPrefix calls (as.map .ok) i total t = .ret none := by
  induction as generalizing i total t with
  | nil => simp at hfail
  | cons a rest ih =>
    obtain ⟨j, hj, hf⟩ := hfail
    simp only [List.map_cons, ticketStmts]
    split
    · rfl
    · rename_i n hok
      rcases j with _ | j
      · simp [StmtFails, hok] at hf
      · exact ih ⟨j, by simpa using hj, by rwa [show i + 1 + j = i + (j + 1) by omega]⟩

/-- **A failed per-ticket statement is reported as the rollback's error.**
Whatever the input and wherever the failure, the table is kept and the error
handed back is `calls.rollback`: nil when the rollback succeeds. -/
theorem setTicketsTx_of_failure {as : List α} {t : List TicketRow}
    (hb : calls.begin = none) (hp : calls.prepare = none)
    (hfail : ∃ j < as.length, StmtFails execErrPrefix calls j) :
    setTicketsTx update execErrPrefix calls (as.map .ok) t =
      .ret ((0, calls.rollback), t) := by
  have hloop : ticketStmts update execErrPrefix calls (as.map .ok) 0 0 t = .ret none :=
    ticketStmts_of_failure update execErrPrefix calls (by simpa using hfail)
  simp [setTicketsTx, hb, hp, hloop]

/-- **The setters are atomic.**  Every call that returns either leaves the table
as it was, or applied every per-ticket update, in order, and committed. -/
theorem setTicketsTx_atomic {args : List (Except String α)} {t t' : List TicketRow}
    {r : Int × Option String}
    (h : setTicketsTx update execErrPrefix calls args t = .ret (r, t')) :
    t' = t ∨ (calls.commit = none ∧ r.2 = none ∧
      ∃ as : List α, args = as.map .ok ∧ t' = as.foldl update t) := by
  unfold setTicketsTx at h
  split at h
  · simp at h; exact .inl h.2.symm
  · split at h
    · simp at h; exact .inl h.2.symm
    · obtain ⟨o, hl, ho⟩ := Outcome.map_eq_ret.mp h
      rcases o with _ | ⟨total, tw⟩
      · simp at ho; exact .inl ho.2.symm
      · obtain ⟨as, hargs, htw⟩ := ticketStmts_ret_some update execErrPrefix calls hl
        cases hc : calls.commit with
        | none =>
          simp only [hc, Prod.mk.injEq] at ho
          exact .inr ⟨rfl, by rw [← ho.1], as, hargs, by rw [← ho.2, htw]⟩
        | some e => simp only [hc, Prod.mk.injEq] at ho; exact .inl ho.2.symm

end Setters

/-- Two live tickets. -/
def liveTickets : List TicketRow := [⟨7, "t7", .unspent, .live, 0, 0⟩, ⟨8, "t8", .unspent, .live, 0, 0⟩]

/-- The same tickets, voted. -/
def votedTickets : List TicketRow :=
  [⟨7, "t7", .unspent, .voted, 0, 0⟩, ⟨8, "t8", .unspent, .voted, 0, 0⟩]

/-- The pool statuses that vote both tickets. -/
def voteArgs : List (Except String (Nat × TicketPoolStatus)) := [.ok (7, .voted), .ok (8, .voted)]

/-- A transaction whose every `Exec` updates one row and whose calls all succeed. -/
def oneRowCalls : TxCalls := ⟨none, none, fun _ => .affected (.ok 1), none, none⟩

/-- Both tickets voted in one transaction that commits: the table holds both
updates. -/
theorem setTicketsTx_atomic_two_votes :
    setTicketsTx setTicketPoolStatusForTicketDbID "failed to set ticket spending info: " oneRowCalls
        voteArgs liveTickets = .ret ((2, none), votedTickets) ∧
      (votedTickets = liveTickets ∨ (oneRowCalls.commit = none ∧ ((2 : Int), (none : Option String)).2 = none ∧
        ∃ as : List (Nat × TicketPoolStatus), voteArgs = as.map .ok ∧
          votedTickets = as.foldl setTicketPoolStatusForTicketDbID liveTickets)) :=
  have h : setTicketsTx setTicketPoolStatusForTicketDbID "failed to set ticket spending info: "
      oneRowCalls voteArgs liveTickets = .ret ((2, none), votedTickets) := rfl
  ⟨h, setTicketsTx_atomic _ _ _ h⟩

/-- The `i`-th arguments of a statement that reads `xs[i]` beside the `i`-th id:
the index panic from the first `i` past the end of `xs`. -/
def pairArgs {β γ : Type} (ids : List β) (xs : List γ) : List (Except String (β × γ)) :=
  ids.enum.map fun (i, id) => (sliceAt xs i).map ((id, ·))

/-- `SetPoolStatusForTickets`. -/
def setPoolStatusForTickets (calls : TxCalls) (ticketDbIDs : List Nat)
    (poolStatuses : List TicketPoolStatus) (t : List TicketRow) :
    Outcome ((Int × Option String) × List TicketRow) :=
  if ticketDbIDs.length = 0 then .ret ((0, none), t)
  else setTicketsTx setTicketPoolStatusForTicketDbID "failed to set ticket spending info: "
    calls (pairArgs ticketDbIDs poolStatuses) t

/-- `SetPoolStatusForTicketsByHash`. -/
def setPoolStatusForTicketsByHash (calls : TxCalls) (tickets : List String)
    (poolStatuses : List TicketPoolStatus) (t : List TicketRow) :
    Outcome ((Int × Option String) × List TicketRow) :=
  if tickets.length = 0 then .ret ((0, none), t)
  else setTicketsTx setTicketPoolStatusForHash "failed to set ticket pool status: "
    calls (pairArgs tickets poolStatuses) t

/-- `SetSpendingForTickets`: no early return on an empty list, and four slices
read beside the ids, in the order of its `sqlExecStmt` call. -/
def setSpendingForTickets (calls : TxCalls) (ticketDbIDs spendDbIDs : List Nat)
    (blockHeights : List Int) (spendTypes : List TicketSpendType)
    (poolStatuses : List TicketPoolStatus) (t : List TicketRow) :
    Outcome ((Int × Option String) × List TicketRow) :=
  setTicketsTx setTicketSpendingInfoForTicketDbID "failed to set ticket spending info: " calls
    (ticketDbIDs.enum.map fun (i, id) => do
      let h ← sliceAt blockHeights i
      let s ← sliceAt spendDbIDs i
      let ty ← sliceAt spendTypes i
      let ps ← sliceAt poolStatuses i
      pure ⟨id, h, s, ty, ps⟩) t

/-- One ticket, one `Exec` that fails, a rollback that succeeds: the call
returns a nil error and the table unchanged. -/
theorem setPoolStatusForTickets_reports_nil_on_failure :
    setPoolStatusForTickets ⟨none, none, fun _ => .error "driver: bad connection", none, none⟩
        [7] [.voted] [⟨7, "t7", .unspent, .live, 0, 0⟩] =
      .ret ((0, none), [⟨7, "t7", .unspent, .live, 0, 0⟩]) :=
  @setTicketsTx_of_failure _ setTicketPoolStatusForTicketDbID "failed to set ticket spending info: "
    ⟨none, none, fun _ => .error "driver: bad connection", none, none⟩ [(7, .voted)] _ rfl rfl
    ⟨0, Nat.one_pos, rfl⟩

end HcData.Pg
