import HcData.Basic
import Mathlib.Data.Int.Order.Basic

/-!
# Syncing the SQLite DB and the stake DB with the node

`resyncDB` brings the block summary and stake info tables of the SQLite DB and
the stake DB up to the node's best block.  It checks the heights `DBHeights`
reports, rewinds a stake DB that is ahead (`RewindStakeDB`), and then handles
one block per height: it connects the block to the stake DB when that is
behind, and stores its summary and stake info when SQLite is behind, until it
passes the node's best height, which it reads again after every block.

A run reads its `SyncEnv`: the node, whose main chain only grows by appending
so that the block of a height never changes, the error of each call that
fails, and the first `ctx.Done()` check that sees the context cancelled.  The
loop is unbounded in the source; it runs on fuel here.  The calls a run makes
are kept in `SyncState.trace`.

* `resyncDB_run`: from a state that passes the startup checks, a run in which
  nothing fails ends with all three heights at the node's best height, and
  makes exactly the calls of `rewindEvents` and `loopEvents`.
* `resyncDB_end`: what every run leaves, whichever calls fail.
-/

namespace HcData.Sqlite

/-- The heights `DBHeights` reads: the SQLite block summary and stake info
tables, and the stake DB. -/
structure SyncDB where
  summaryHeight : Int
  stakeInfoHeight : Int
  stakeDBHeight : Int
  deriving DecidableEq, Repr

/-- The calls of a run that change a database, and the block handled at each
height of the loop. -/
inductive SyncEvent where
  | handle (i : Int) (hash : String)
  | connectBlock (i : Int) (stakeDBHeight : Int)
  | disconnectBlock (stakeDBHeight : Int)
  | storeBlockSummary (i : Int)
  | storeStakeInfoExtended (i : Int)
  deriving DecidableEq, Repr

/-- The calls of `resyncDB` that can fail: the `k`-th `GetBestBlock`, the
first or the final `DBHeights`, and the calls of the rewind and of the loop at
the height they are made for. -/
inductive SyncCall where
  | getBestBlock (k : Nat)
  | dbHeights (final : Bool)
  | disconnectBlock (stakeDBHeight : Int)
  | getBlock (i : Int)
  | blockGetterBlock (i : Int)
  | connectBlock (i : Int)
  | storeBlockSummary (i : Int)
  | storeStakeInfoExtended (i : Int)
  deriving DecidableEq, Repr

/-- What a run meets: the hash of the node's main chain block at each height,
the best height the `k`-th `GetBestBlock` reports, the error of each failing
call, the heights whose block `FeeRateInfoBlock` gives nil for, the heights
where a failing `ConnectBlock` had already advanced the stake DB, and the first
`ctx.Done()` check that sees the context cancelled.  With no `BlockGetter` the
run is the `master`; otherwise it receives the blocks from `fetchToHeight` on
through `waitChan`, and a channel of `WaitForHeight(k)` delivers
`waitForHeight k`. -/
structure SyncEnv where
  blockHash : Int → String
  bestHeight : Nat → Int
  fail : SyncCall → Option String
  feeRateInfoNil : Int → Bool
  connectAdvanced : Int → Bool
  cancelAt : Option Nat
  master : Bool
  fetchToHeight : Int
  waitForHeight : Int → String

/-- The databases, the height `db.waitChan` waits for, the number of
`GetBestBlock` calls and `ctx.Done()` checks so far, and the calls made. -/
structure SyncState where
  db : SyncDB
  waitHeight : Int
  bestCalls : Nat
  ctxChecks : Nat
  trace : List SyncEvent
  deriving DecidableEq, Repr

namespace SyncState

/-- A call is made. -/
def record (st : SyncState) (e : SyncEvent) : SyncState := { st with trace := st.trace ++ [e] }

/-- A `ctx.Done()` check is made. -/
def check (st : SyncState) : SyncState := { st with ctxChecks := st.ctxChecks + 1 }

/-- The stake DB moves to height `h`. -/
def setStake (st : SyncState) (h : Int) : SyncState :=
  { st with db := { st.db with stakeDBHeight := h } }

end SyncState

/-- The `ctx.Done()` check about to be made sees the context cancelled. -/
def ctxDone (env : SyncEnv) (st : SyncState) : Bool :=
  match env.cancelAt with
  | some k => decide (k ≤ st.ctxChecks)
  | none => false

/-- `client.GetBestBlock`, the `bestCalls`-th call. -/
def getBestBlock (env : SyncEnv) (st : SyncState) : Except String Int × SyncState :=
  let st' := { st with bestCalls := st.bestCalls + 1 }
  match env.fail (.getBestBlock st.bestCalls) with
  | some e => (.error e, st')
  | none => (.ok (env.bestHeight st.bestCalls), st')

/-- `DBHeights`: the lowest of the heights, then the block summary, stake info
and stake DB heights. -/
def dbHeights (env : SyncEnv) (final : Bool) (db : SyncDB) :
    Except String (Int × Int × Int × Int) :=
  match env.fail (.dbHeights final) with
  | some e => .error e
  | none =>
    let lowest := if db.summaryHeight < db.stakeInfoHeight then db.summaryHeight
      else db.stakeInfoHeight
    let lowest := if db.stakeDBHeight < lowest then db.stakeDBHeight else lowest
    .ok (lowest, db.summaryHeight, db.stakeInfoHeight, db.stakeDBHeight)

/-! ## `RewindStakeDB` -/

/-- The loop of `RewindStakeDB`, for at most `n` rounds: while the stake DB is
above `toHeight`, check `ctx.Done()` (a cancelled rewind returns no error) and
disconnect its best block, which lowers its height by one. -/
def rewindLoop (env : SyncEnv) (toHeight : Int) :
    Nat → SyncState → (Int × Option String) × SyncState
  | 0, st => ((st.db.stakeDBHeight, none), st)
  | n + 1, st =>
    if st.db.stakeDBHeight ≤ toHeight then ((st.db.stakeDBHeight, none), st)
    else if ctxDone env st then ((st.db.stakeDBHeight, none), st.check)
    else
      let st' := st.check.record (.disconnectBlock st.db.stakeDBHeight)
      match env.fail (.disconnectBlock st.db.stakeDBHeight) with
      | some e => ((st.db.stakeDBHeight, some e), st')
      | none => rewindLoop env toHeight n (st'.setStake (st.db.stakeDBHeight - 1))

/-- `RewindStakeDB`: down to `toHeight`, or 0 if that is negative.  Every round
goes one height down, so the loop needs as many rounds as heights. -/
def rewindStakeDB (env : SyncEnv) (toHeight : Int) (st : SyncState) :
    (Int × Option String) × SyncState :=
  let toHeight := if toHeight < 0 then 0 else toHeight
  rewindLoop env toHeight (st.db.stakeDBHeight - toHeight).toNat st

/-! ## One height of the loop -/

/-- Where a round of the loop goes: on with the bound `height` that
`GetBestBlock` gave, or out of `resyncDB` with `ret` and `err`. -/
inductive LoopStep where
  | next (height : Int) (st : SyncState)
  | stop (ret : Int) (err : Option String) (st : SyncState)

/-- The block of height `i`: `getBlock` when the run is the master or `i` is
below `fetchToHeight`; otherwise the hash `waitChan` delivers and
`blockGetter.Block`, after which `waitChan` waits for `i + 1`.  When the
context is cancelled as well, the select is taken to see the cancellation.  The
error is the run's (none after a cancellation). -/
def fetchBlock (env : SyncEnv) (i : Int) (st : SyncState) :
    Except (Option String × SyncState) (String × SyncState) :=
  if env.master || decide (i < env.fetchToHeight) then
    match env.fail (.getBlock i) with
    | some e => .error (some ("getBlock failed (" ++ toString i ++ "): " ++ e), st)
    | none => .ok (env.blockHash i, st)
  else if ctxDone env st then .error (none, st.check)
  else
    let hash := env.waitForHeight st.waitHeight
    match env.fail (.blockGetterBlock i) with
    | some e => .error (some ("blockGetter.Block failed (" ++ hash ++ "): " ++ e), st.check)
    | none => .ok (hash, { st.check with waitHeight := i + 1 })

/-- `ConnectBlock` when the stake DB is below `i`; a failing one may have
advanced the stake DB already. -/
def connectStakeDB (env : SyncEnv) (i : Int) (st : SyncState) :
    Except (String × SyncState) SyncState :=
  if st.db.stakeDBHeight < i then
    let st' := st.record (.connectBlock i st.db.stakeDBHeight)
    let advanced := st'.setStake (st.db.stakeDBHeight + 1)
    match env.fail (.connectBlock i) with
    | some e => .error (e, if env.connectAdvanced i then advanced else st')
    | none => .ok advanced
  else .ok st

/-- The `GetBestBlock` that ends a round: the next bound of the loop, or the
end of the run with `ret`. -/
def nextHeight (env : SyncEnv) (ret : Int) (st : SyncState) : LoopStep :=
  match getBestBlock env st with
  | (.error e, st) => .stop ret (some ("rpcclient.GetBestBlock failed: " ++ e)) st
  | (.ok height, st) => .next height st

/-- `StoreBlockSummary` when the summary table is below `i`. -/
def storeSummary (env : SyncEnv) (i : Int) (st : SyncState) :
    Except (String × SyncState) SyncState :=
  if st.db.summaryHeight < i then
    let st' := st.record (.storeBlockSummary i)
    match env.fail (.storeBlockSummary i) with
    | some e => .error ("Unable to store block summary in database: " ++ e, st')
    | none => .ok { st' with db := { st'.db with summaryHeight := i } }
  else .ok st

/-- The round from "SQLite is ahead" on: nothing when both tables are at `i`
or above, else the block summary, then the stake info when its table is below
`i`. -/
def storeBlock (env : SyncEnv) (i : Int) (st : SyncState) : LoopStep :=
  if i ≤ st.db.summaryHeight ∧ i ≤ st.db.stakeInfoHeight then nextHeight env (i - 1) st
  else
    match storeSummary env i st with
    | .error (e, st) => .stop (i - 1) (some e) st
    | .ok st =>
      if i ≤ st.db.stakeInfoHeight then nextHeight env (i - 1) st
      else if env.feeRateInfoNil i then .stop (i - 1) (some "FeeRateInfoBlock failed") st
      else
        let st' := st.record (.storeStakeInfoExtended i)
        match env.fail (.storeStakeInfoExtended i) with
        | some e => .stop (i - 1) (some ("Unable to store stake info in database: " ++ e)) st'
        | none => nextHeight env i { st' with db := { st'.db with stakeInfoHeight := i } }

/-- One round of the loop, at height `i`. -/
def resyncRound (env : SyncEnv) (i : Int) (st : SyncState) : LoopStep :=
  if ctxDone env st then .stop (i - 1) none st.check
  else
    match fetchBlock env i st.check with
    | .error (err, st) => .stop (i - 1) err st
    | .ok (hash, st) =>
      match connectStakeDB env i (st.record (.handle i hash)) with
      | .error (e, st) => .stop (i - 1) (some e) st
      | .ok st => storeBlock env i st

/-- How the loop ends: a round returned from `resyncDB`, or the height passed
the bound. -/
inductive LoopEnd where
  | stopped (ret : Int) (err : Option String) (st : SyncState)
  | finished (height : Int) (st : SyncState)

/-- `for i := startHeight; i <= height; i++`, on fuel. -/
def resyncLoop (env : SyncEnv) : Nat → Int → Int → SyncState → Outcome LoopEnd
  | 0, _, _, _ => .unfinished
  | fuel + 1, i, height, st =>
    if i ≤ height then
      match resyncRound env i st with
      | .next height st => resyncLoop env fuel (i + 1) height st
      | .stop ret err st => .ret (.stopped ret err st)
    else .ret (.finished height st)

/-! ## `resyncDB` -/

/-- The first height of the loop: the one after `dbHeight`, or `dbHeight`
itself when a `BlockGetter` relays from there. -/
def startHeight (env : SyncEnv) (dbHeight : Int) : Int :=
  if env.master || decide (dbHeight < env.fetchToHeight) then dbHeight + 1 else dbHeight

/-- After the loop: `DBHeights` again, and the SQLite check. -/
def finishResync (env : SyncEnv) (height : Int) (st : SyncState) :
    Outcome ((Int × Option String) × SyncState) :=
  match dbHeights env true st.db with
  | .error e => .ret ((-1, some ("DBHeights failed: " ++ e)), st)
  | .ok (_, summaryHeight, stakeInfoHeight, _) =>
    if stakeInfoHeight ≠ summaryHeight then
      .ret ((-1, some "SQLite database (dcrdata.sqlt.db) is corrupted"), st)
    else .ret ((height, none), st)

/-- `resyncDB` once the stake DB is at `stakeDBHeight`: the check of
`fetchToHeight`, `minBlocksToCheck`, the loop and the final check. -/
def resyncFrom (env : SyncEnv) (fuel : Nat) (height dbHeight stakeDBHeight : Int)
    (st : SyncState) : Outcome ((Int × Option String) × SyncState) :=
  if !env.master && decide (env.fetchToHeight < stakeDBHeight) then
    .ret ((dbHeight, some "fetchToHeight may not be less than stakedb height"), st)
  else
    let minBlocksToCheck := height - dbHeight
    if minBlocksToCheck < 1 then
      if minBlocksToCheck < 0 then .ret ((dbHeight, some "chain server behind DBs"), st)
      else .ret ((height, none), st)
    else
      match resyncLoop env fuel (startHeight env dbHeight) height st with
      | .ret (.stopped ret err st) => .ret ((ret, err), st)
      | .ret (.finished height st) => finishResync env height st
      | .panic msg => .panic msg
      | .unfinished => .unfinished

/-- `resyncDB`: the height and the error it returns, and the state it leaves. -/
def resyncDB (env : SyncEnv) (fuel : Nat) (st : SyncState) :
    Outcome ((Int × Option String) × SyncState) :=
  match getBestBlock env st with
  | (.error e, st) => .ret ((-1, some ("GetBestBlock failed: " ++ e)), st)
  | (.ok height, st) =>
    match dbHeights env false st.db with
    | .error e => .ret ((-1, some ("DBHeights failed: " ++ e)), st)
    | .ok (dbHeight, summaryHeight, stakeInfoHeight, stakeDBHeight) =>
      if dbHeight < -1 then .panic "invalid starting height"
      else if stakeInfoHeight ≠ summaryHeight then
        .ret ((-1, some "SQLite database (dcrdata.sqlt.db) is corrupted"), st)
      else if stakeDBHeight > dbHeight ∧ stakeDBHeight > 0 then
        if dbHeight < 0 ∨ stakeDBHeight > 2 * dbHeight then
          .ret ((-1, some "delete stake db (ffldb_stake) and try again"), st)
        else
          match rewindStakeDB env dbHeight st with
          | ((_, some e), st) => .ret ((dbHeight, some ("RewindStakeDB failed: " ++ e)), st)
          | ((stakeDBHeight, none), st) => resyncFrom env fuel height dbHeight stakeDBHeight st
      else resyncFrom env fuel height dbHeight stakeDBHeight st

theorem SyncDB.eq_mk {db : SyncDB} {a b c : Int} (h1 : db.summaryHeight = a)
    (h2 : db.stakeInfoHeight = b) (h3 : db.stakeDBHeight = c) : db = ⟨a, b, c⟩ := by
  cases db; simp_all

namespace SyncState

variable (st : SyncState) (e : SyncEvent) (h : Int)

@[simp] theorem record_db : (st.record e).db = st.db := rfl
@[simp] theorem record_trace : (st.record e).trace = st.trace ++ [e] := rfl
@[simp] theorem record_waitHeight : (st.record e).waitHeight = st.waitHeight := rfl
@[simp] theorem record_bestCalls : (st.record e).bestCalls = st.bestCalls := rfl
@[simp] theorem record_ctxChecks : (st.record e).ctxChecks = st.ctxChecks := rfl
@[simp] theorem check_db : st.check.db = st.db := rfl
@[simp] theorem check_trace : st.check.trace = st.trace := rfl
@[simp] theorem check_waitHeight : st.check.waitHeight = st.waitHeight := rfl
@[simp] theorem check_bestCalls : st.check.bestCalls = st.bestCalls := rfl
@[simp] theorem check_ctxChecks : st.check.ctxChecks = st.ctxChecks + 1 := rfl
@[simp] theorem setStake_db : (st.setStake h).db = { st.db with stakeDBHeight := h } := rfl
@[simp] theorem setStake_trace : (st.setStake h).trace = st.trace := rfl
@[simp] theorem setStake_waitHeight : (st.setStake h).waitHeight = st.waitHeight := rfl
@[simp] theorem setStake_bestCalls : (st.setStake h).bestCalls = st.bestCalls := rfl
@[simp] theorem setStake_ctxChecks : (st.setStake h).ctxChecks = st.ctxChecks := rfl

end SyncState

/-- Nothing fails and nothing cancels the run. -/
structure NoFault (env : SyncEnv) : Prop where
  fail : ∀ c, env.fail c = none
  feeRateInfo : ∀ i, env.feeRateInfoNil i = false
  cancel : env.cancelAt = none

/-- A relay through `waitChan` delivers the node's block of the height it waits for. -/
def WaitReady (env : SyncEnv) : Prop :=
  env.master = false → ∀ k, env.waitForHeight k = env.blockHash k

section Calls

variable {env : SyncEnv} {st st' : SyncState} {i : Int}

theorem ctxDone_of_noFault (hok : NoFault env) : ctxDone env st = false := by
  simp [ctxDone, hok.cancel]

/-- A cancelled context stays cancelled. -/
theorem ctxDone_mono (h : ctxDone env st = true) (hle : st.ctxChecks ≤ st'.ctxChecks) :
    ctxDone env st' = true := by
  unfold ctxDone at *
  split at h <;> simp_all
  omega

theorem dbHeights_eq {final : Bool} (hf : env.fail (.dbHeights final) = none) (db : SyncDB) :
    dbHeights env final db = .ok (min (min db.summaryHeight db.stakeInfoHeight) db.stakeDBHeight,
      db.summaryHeight, db.stakeInfoHeight, db.stakeDBHeight) := by
  simp only [dbHeights, hf, Except.ok.injEq, Prod.mk.injEq, and_true]
  split_ifs <;> omega

theorem dbHeights_ok {final : Bool} {db : SyncDB} {v : Int × Int × Int × Int}
    (h : dbHeights env final db = .ok v) :
    v = (min (min db.summaryHeight db.stakeInfoHeight) db.stakeDBHeight, db.summaryHeight,
      db.stakeInfoHeight, db.stakeDBHeight) := by
  cases hf : env.fail (.dbHeights final) with
  | some e => simp [dbHeights, hf] at h
  | none => rw [dbHeights_eq hf] at h; exact (Except.ok.inj h).symm

theorem finishResync_of_noFault (hok : NoFault env) {height : Int}
    (hsq : st.db.summaryHeight = st.db.stakeInfoHeight) :
    finishResync env height st = .ret ((height, none), st) := by
  simp [finishResync, dbHeights_eq (hok.fail _), hsq]

theorem finishResync_state {height : Int} {st st' : SyncState} {v : Int × Option String}
    (h : finishResync env height st = .ret (v, st')) : st' = st := by
  unfold finishResync at h
  split at h
  · cases h; rfl
  · split_ifs at h <;> cases h <;> rfl

/-- Over equal SQLite heights the final check returns the loop's height, unless
its `DBHeights` fails. -/
theorem finishResync_ret {height r : Int} {err : Option String} {st st' : SyncState}
    (hsq : st.db.summaryHeight = st.db.stakeInfoHeight)
    (h : finishResync env height st = .ret ((r, err), st')) :
    r = height ∧ err = none ∨ r = -1 ∧ ∃ e, err = some ("DBHeights failed: " ++ e) := by
  unfold finishResync at h
  split at h
  · rename_i e _
    cases h
    exact .inr ⟨rfl, e, rfl⟩
  · rename_i v _ _ _ _ hv
    cases dbHeights_ok hv
    rw [if_neg (by simpa using hsq.symm)] at h
    cases h
    exact .inl ⟨rfl, rfl⟩

theorem nextHeight_next {r height : Int} (h : nextHeight env r st = .next height st') :
    height = env.bestHeight st.bestCalls ∧ st' = { st with bestCalls := st.bestCalls + 1 } := by
  unfold nextHeight getBestBlock at h
  cases hf : env.fail (.getBestBlock st.bestCalls) <;> simp only [hf] at h
  · cases h
    exact ⟨rfl, rfl⟩
  · cases h


theorem nextHeight_stop {r r' : Int} {err : Option String}
    (h : nextHeight env r st = .stop r' err st') :
    r' = r ∧ st' = { st with bestCalls := st.bestCalls + 1 } := by
  unfold nextHeight getBestBlock at h
  cases hf : env.fail (.getBestBlock st.bestCalls) <;> simp only [hf] at h
  · cases h
  · cases h
    exact ⟨rfl, rfl⟩

theorem nextHeight_of_noFault (hok : NoFault env) (r : Int) (st : SyncState) :
    nextHeight env r st = .next (env.bestHeight st.bestCalls) { st with bestCalls := st.bestCalls + 1 } := by
  simp [nextHeight, getBestBlock, hok.fail]

/-- A fetch changes no database. -/
theorem fetchBlock_error {err : Option String} (h : fetchBlock env i st = .error (err, st')) :
    st'.db = st.db := by
  unfold fetchBlock at h
  split_ifs at h
  · split at h <;> cases h
    rfl
  · cases h; rfl
  · split at h <;> cases h
    rfl

/-- The block fetched at `i` is the node's block of height `i`, when a relay
waits for the loop's height. -/
theorem fetchBlock_ok {hash : String} (h : fetchBlock env i st = .ok (hash, st')) :
    st'.db = st.db ∧ st'.trace = st.trace ∧ st'.bestCalls = st.bestCalls ∧
      (WaitReady env → (env.master = false → st.waitHeight = max env.fetchToHeight i) →
        hash = env.blockHash i ∧ (env.master = false → st'.waitHeight = max env.fetchToHeight (i + 1))) := by
  unfold fetchBlock at h
  split_ifs at h with hm hc
  · split at h
    · cases h
    · cases h
      simp only [Bool.or_eq_true, decide_eq_true_eq] at hm
      refine ⟨rfl, rfl, rfl, fun _ hwait => ⟨rfl, fun hm' => ?_⟩⟩
      rw [hwait hm']
      rcases hm with hm | hm
      · simp [hm] at hm'
      · omega
  · split at h
    · cases h
    · cases h
      simp only [Bool.or_eq_true, decide_eq_true_eq, not_or, Bool.not_eq_true] at hm
      refine ⟨rfl, rfl, rfl, fun hw hwait => ⟨?_, fun _ => by dsimp only; omega⟩⟩
      rw [hwait hm.1, hw hm.1]
      congr 1
      omega

theorem fetchBlock_progress (hok : NoFault env) (i : Int) (st : SyncState) :
    ∃ hash st', fetchBlock env i st = .ok (hash, st') := by
  unfold fetchBlock
  split_ifs <;> simp [hok.fail, ctxDone_of_noFault hok] at *


/-- A round connects the block exactly when the stake DB is below `i`. -/
theorem connectStakeDB_ok (h : connectStakeDB env i st = .ok st') :
    st' = if st.db.stakeDBHeight < i then
      (st.record (.connectBlock i st.db.stakeDBHeight)).setStake (st.db.stakeDBHeight + 1) else st := by
  unfold connectStakeDB at h
  by_cases hlt : st.db.stakeDBHeight < i
  · rw [if_pos hlt] at h ⊢
    split at h <;> cases h
    rfl
  · rw [if_neg hlt] at h ⊢
    cases h; rfl

/-- A failing `ConnectBlock` leaves SQLite alone, and the stake DB where it
was or one block up. -/
theorem connectStakeDB_error {e : String} (h : connectStakeDB env i st = .error (e, st')) :
    st.db.stakeDBHeight < i ∧
      (st'.db = st.db ∨ st'.db = { st.db with stakeDBHeight := st.db.stakeDBHeight + 1 }) := by
  unfold connectStakeDB at h
  by_cases hlt : st.db.stakeDBHeight < i
  · rw [if_pos hlt] at h
    split at h <;> cases h
    refine ⟨hlt, ?_⟩
    by_cases ha : env.connectAdvanced i <;> simp [ha]
  · rw [if_neg hlt] at h
    cases h

theorem connectStakeDB_progress (hok : NoFault env) (i : Int) (st : SyncState) :
    ∃ st', connectStakeDB env i st = .ok st' := by
  unfold connectStakeDB
  split_ifs <;> simp [hok.fail]

/-- The error of a round that stored a block summary and not its stake info. -/
def StakeInfoMissing (err : Option String) : Prop :=
  err = some "FeeRateInfoBlock failed" ∨ ∃ e, err = some ("Unable to store stake info in database: " ++ e)

/-- A round that goes on past the stores: from equal SQLite heights below
`i`, both stores are called and both tables come up to `i`; otherwise nothing
is stored. -/
theorem storeBlock_next {height : Int} (hsq : st.db.summaryHeight = st.db.stakeInfoHeight)
    (h : storeBlock env i st = .next height st') :
    height = env.bestHeight st.bestCalls ∧ st'.bestCalls = st.bestCalls + 1 ∧
      st'.waitHeight = st.waitHeight ∧
      if st.db.summaryHeight < i then
        st'.db = { st.db with summaryHeight := i, stakeInfoHeight := i } ∧
          st'.trace = st.trace ++ [.storeBlockSummary i, .storeStakeInfoExtended i]
      else st'.db = st.db ∧ st'.trace = st.trace := by
  by_cases h1 : i ≤ st.db.summaryHeight
  · simp only [storeBlock, h1, ← hsq, and_self, if_true] at h
    obtain ⟨rfl, rfl⟩ := nextHeight_next h
    simp [Int.not_lt.mpr h1]
  · have hlt : st.db.summaryHeight < i := by omega
    cases hs : env.fail (.storeBlockSummary i) <;> cases hfee : env.feeRateInfoNil i <;>
      cases hsi : env.fail (.storeStakeInfoExtended i) <;>
      simp [storeBlock, storeSummary, h1, ← hsq, hlt, hs, hfee, hsi] at h
    obtain ⟨rfl, rfl⟩ := nextHeight_next h
    simp [hlt]

/-- Where a round can stop in the stores, from equal SQLite heights: before
either store changed anything, returning `i - 1`; with the summary stored and
its stake info missing, returning `i - 1`; or after both stores, returning
`i`.  The stake DB is not touched. -/
theorem storeBlock_stop {r : Int} {err : Option String}
    (hsq : st.db.summaryHeight = st.db.stakeInfoHeight) (h : storeBlock env i st = .stop r err st') :
    st'.db.stakeDBHeight = st.db.stakeDBHeight ∧
      ((r = i - 1 ∧ st'.db = st.db) ∨
       (r = i - 1 ∧ st.db.summaryHeight < i ∧ st'.db.summaryHeight = i ∧
          st'.db.stakeInfoHeight = st.db.stakeInfoHeight ∧ StakeInfoMissing err) ∨
       (r = i ∧ st.db.summaryHeight < i ∧ st'.db.summaryHeight = i ∧ st'.db.stakeInfoHeight = i)) := by
  by_cases h1 : i ≤ st.db.summaryHeight
  · simp only [storeBlock, h1, ← hsq, and_self, if_true] at h
    obtain ⟨rfl, rfl⟩ := nextHeight_stop h
    simp
  · have hlt : st.db.summaryHeight < i := by omega
    cases hs : env.fail (.storeBlockSummary i) <;> cases hfee : env.feeRateInfoNil i <;>
      cases hsi : env.fail (.storeStakeInfoExtended i) <;>
      simp [storeBlock, storeSummary, h1, ← hsq, hlt, hs, hfee, hsi] at h
    -- the summary store failed, or the stake info is missing
    all_goals first
      | obtain ⟨rfl, rfl⟩ := nextHeight_stop h; simp [hlt]
      | obtain ⟨rfl, rfl, rfl⟩ := h; simp [StakeInfoMissing, hlt, ← hsq]


theorem storeBlock_progress (hok : NoFault env) (i : Int) (st : SyncState) :
    ∃ height st', storeBlock env i st = .next height st' := by
  obtain ⟨st1, hs⟩ : ∃ st1, storeSummary env i st = .ok st1 := by
    unfold storeSummary; split_ifs <;> simp [hok.fail]
  simp only [storeBlock, hs, hok.feeRateInfo, hok.fail, nextHeight_of_noFault hok,
    Bool.false_eq_true, if_false]
  split_ifs <;> exact ⟨_, _, rfl⟩

end Calls

/-! ## Rounds -/

/-- The calls of round `k` of a loop in which nothing fails, from SQLite
heights `s` and a stake DB at `stake0` when the loop starts: the block of
height `k`, its connection when the stake DB is below `k` (it is then at
`k - 1`), and both stores when SQLite is below `k`. -/
def roundEvents (env : SyncEnv) (s stake0 k : Int) : List SyncEvent :=
  .handle k (env.blockHash k) ::
    ((if stake0 < k then [.connectBlock k (k - 1)] else []) ++
      if s < k then [.storeBlockSummary k, .storeStakeInfoExtended k] else [])

/-- The state at the top of round `i` of a loop that started from SQLite
heights `s` and a stake DB at `stake0`: each database holds the blocks up to
`i - 1`, and a relay waits for `i`, or for `fetchToHeight` while `i` is below
it. -/
structure LoopInv (env : SyncEnv) (s stake0 i : Int) (st : SyncState) : Prop where
  summary : st.db.summaryHeight = max s (i - 1)
  stakeInfo : st.db.stakeInfoHeight = max s (i - 1)
  stake : st.db.stakeDBHeight = max stake0 (i - 1)
  wait : env.master = false → st.waitHeight = max env.fetchToHeight i

section Rounds

variable {env : SyncEnv} {s stake0 i : Int} {st st' : SyncState}

/-- In a round, a stake DB at `max stake0 (i - 1)` comes to `max stake0 i`:
block `i` is connected on top of `i - 1` when `stake0 < i`. -/
theorem connectStakeDB_round (hi : stake0 ≤ i) (hst : st.db.stakeDBHeight = max stake0 (i - 1))
    (h : connectStakeDB env i st = .ok st') :
    st'.db = { st.db with stakeDBHeight := max stake0 i } ∧
      st'.trace = st.trace ++ (if stake0 < i then [.connectBlock i (i - 1)] else []) ∧
      st'.bestCalls = st.bestCalls ∧ st'.waitHeight = st.waitHeight := by
  rw [connectStakeDB_ok h]
  by_cases hlt : stake0 < i
  · have e1 : st.db.stakeDBHeight = i - 1 := by omega
    have e2 : max stake0 i = i := by omega
    have e3 : i - 1 < i := by omega
    simp [hlt, e1, e2, e3]
  · have e1 : ¬ st.db.stakeDBHeight < i := by omega
    have e2 : max stake0 i = st.db.stakeDBHeight := by omega
    simp [hlt, e1, e2]

/-- A round that goes on keeps the invariant, one height up, and makes the
calls of `roundEvents`. -/
theorem resyncRound_next {height : Int} (hw : WaitReady env) (hinv : LoopInv env s stake0 i st)
    (hi : stake0 ≤ i) (h : resyncRound env i st = .next height st') :
    LoopInv env s stake0 (i + 1) st' ∧ st'.trace = st.trace ++ roundEvents env s stake0 i ∧
      height = env.bestHeight st.bestCalls ∧ st'.bestCalls = st.bestCalls + 1 := by
  unfold resyncRound at h
  split_ifs at h
  split at h
  · cases h
  rename_i hash st1 hf
  obtain ⟨hdb1, htr1, hbc1, hfw⟩ := fetchBlock_ok hf
  obtain ⟨rfl, hwait1⟩ := hfw hw (fun hm => by simpa using hinv.wait hm)
  have hdb1' : (st1.record (.handle i (env.blockHash i))).db = st.db := by
    simp only [SyncState.record_db, hdb1, SyncState.check_db]
  split at h
  · cases h
  rename_i st2 hc
  obtain ⟨hdb2, htr2, hbc2, hwt2⟩ := connectStakeDB_round hi (hdb1' ▸ hinv.stake) hc
  rw [hdb1'] at hdb2
  have hsq : st2.db.summaryHeight = st2.db.stakeInfoHeight := by
    simp only [hdb2, hinv.summary, hinv.stakeInfo]
  obtain ⟨rfl, hbc, hwt, hst⟩ := storeBlock_next hsq h
  have hs2 : st2.db.summaryHeight < i ↔ s < i := by simp only [hdb2, hinv.summary]; omega
  simp only [hs2] at hst
  have hdb : st'.db = ⟨max s i, max s i, max stake0 i⟩ := by
    by_cases hsi : s < i <;> simp only [hsi, if_true, if_false] at hst <;> rw [hst.1, hdb2] <;>
      simp [hinv.summary, hinv.stakeInfo] <;> omega
  have htr : st'.trace = st.trace ++ roundEvents env s stake0 i := by
    by_cases hsi : s < i <;> simp only [hsi, if_true, if_false] at hst <;>
      simp [hst.2, htr2, htr1, roundEvents, hsi]
  refine ⟨⟨by simp [hdb], by simp [hdb], by simp [hdb], fun hm => ?_⟩, htr, by simp [hbc2, hbc1],
    by simp [hbc, hbc2, hbc1]⟩
  rw [hwt, hwt2]
  simpa using hwait1 hm

theorem resyncRound_progress (hok : NoFault env) (i : Int) (st : SyncState) :
    ∃ height st', resyncRound env i st = .next height st' := by
  obtain ⟨hash, st1, hf⟩ := fetchBlock_progress hok i st.check
  obtain ⟨st2, hc⟩ := connectStakeDB_progress hok i (st1.record (.handle i hash))
  simp only [resyncRound, ctxDone_of_noFault hok, hf, hc, Bool.false_eq_true, if_false]
  exact storeBlock_progress hok i st2

/-- What a stop of the loop leaves, returning `r`, for a loop from SQLite
heights `s`: the stake DB at `r` or one block above; both SQLite heights at
least `r` and at most one apart, apart only when the stake info of a stored
block summary is missing; and the stake info height at `r` once `r` is at
least `s`. -/
structure LoopStop (s r : Int) (err : Option String) (db : SyncDB) : Prop where
  ret : -1 ≤ r
  stake_nonneg : 0 ≤ db.stakeDBHeight
  stake_ge : r ≤ db.stakeDBHeight
  stake_le : db.stakeDBHeight ≤ r + 1
  stakeInfo_ge : r ≤ db.stakeInfoHeight
  summary_ge : db.stakeInfoHeight ≤ db.summaryHeight
  summary_le : db.summaryHeight ≤ db.stakeInfoHeight + 1
  split : db.summaryHeight ≠ db.stakeInfoHeight → StakeInfoMissing err
  caughtUp : s ≤ r → db.stakeInfoHeight = r

/-- `LoopStop` from a stake info table at `max s r`, a summary table level with
it or, with its stake info missing, one above, and a stake DB at `r` or one
above. -/
theorem LoopStop.of_stakeInfo {r : Int} {err : Option String} {db : SyncDB} (hr : -1 ≤ r)
    (hsi : db.stakeInfoHeight = max s r)
    (hsum : db.summaryHeight = db.stakeInfoHeight ∨
      db.summaryHeight = db.stakeInfoHeight + 1 ∧ StakeInfoMissing err)
    (h0 : 0 ≤ db.stakeDBHeight) (hst : r ≤ db.stakeDBHeight ∧ db.stakeDBHeight ≤ r + 1) :
    LoopStop s r err db := by
  rcases hsum with hsum | ⟨hsum, hmiss⟩
  · exact ⟨hr, h0, hst.1, hst.2, by omega, by omega, by omega, fun h => absurd hsum h,
      fun _ => by omega⟩
  · exact ⟨hr, h0, hst.1, hst.2, by omega, by omega, by omega, fun _ => hmiss, fun _ => by omega⟩

/-- A stop before round `i` changed a database. -/
theorem LoopInv.loopStop (hinv : LoopInv env s stake0 i st) (h0 : 0 ≤ stake0) (hi : stake0 ≤ i)
    (err : Option String) : LoopStop s (i - 1) err st.db := by
  have := hinv.stake
  exact .of_stakeInfo (by omega) hinv.stakeInfo (.inl (hinv.summary.trans hinv.stakeInfo.symm))
    (by omega) (by omega)

/-- Every stop of a round leaves `LoopStop`. -/
theorem resyncRound_stop {r : Int} {err : Option String} (hinv : LoopInv env s stake0 i st)
    (h0 : 0 ≤ stake0) (hi : stake0 ≤ i) (h : resyncRound env i st = .stop r err st') :
    LoopStop s r err st'.db := by
  unfold resyncRound at h
  split_ifs at h
  · cases h
    exact hinv.loopStop h0 hi none
  split at h
  · cases h
    rename_i hf
    rw [fetchBlock_error hf]
    exact hinv.loopStop h0 hi _
  rename_i hash st1 hf
  obtain ⟨hdb1, -, -, -⟩ := fetchBlock_ok hf
  have hdb1' : (st1.record (.handle i hash)).db = st.db := by
    simp only [SyncState.record_db, hdb1, SyncState.check_db]
  have hst := hinv.stake
  split at h
  · -- `ConnectBlock` failed: SQLite as it was, the stake DB at `i - 1` or `i`
    cases h
    rename_i hc
    obtain ⟨hlt, hdb⟩ := connectStakeDB_error hc
    rw [hdb1'] at hlt hdb
    have hk : st'.db.stakeDBHeight = i - 1 ∨ st'.db.stakeDBHeight = i := by
      rcases hdb with hdb | hdb <;> simp only [hdb] <;> omega
    have hsq : st'.db.summaryHeight = st'.db.stakeInfoHeight := by
      rcases hdb with hdb | hdb <;> simp only [hdb, hinv.summary, hinv.stakeInfo]
    have hsi : st'.db.stakeInfoHeight = max s (i - 1) := by
      rcases hdb with hdb | hdb <;> simp only [hdb, hinv.stakeInfo]
    exact .of_stakeInfo (by omega) hsi (.inl hsq) (by omega) (by omega)
  rename_i st2 hc
  obtain ⟨hdb2, -, -, -⟩ := connectStakeDB_round hi (hdb1' ▸ hst) hc
  rw [hdb1'] at hdb2
  have hsq : st2.db.summaryHeight = st2.db.stakeInfoHeight := by
    simp only [hdb2, hinv.summary, hinv.stakeInfo]
  have hsum := hinv.summary
  have hsi := hinv.stakeInfo
  obtain ⟨hk, hcases⟩ := storeBlock_stop hsq h
  simp only [hdb2] at hk hcases
  rcases hcases with ⟨rfl, hdb⟩ | ⟨rfl, hlt, hs', hi', hmiss⟩ | ⟨rfl, hlt, hs', hi'⟩
  · -- nothing stored
    have e : st'.db.summaryHeight = st.db.summaryHeight ∧
        st'.db.stakeInfoHeight = st.db.stakeInfoHeight := by rw [hdb]; exact ⟨rfl, rfl⟩
    exact .of_stakeInfo (by omega) (e.2.trans hsi) (.inl (by omega)) (by omega) (by omega)
  · -- the summary stored, its stake info missing
    exact .of_stakeInfo (by omega) (by omega) (.inr ⟨by omega, hmiss⟩) (by omega) (by omega)
  · -- both stored
    exact .of_stakeInfo (by omega) (by omega) (.inl (by omega)) (by omega) (by omega)

/-- What the loop leaves, from SQLite heights `s` and a stake DB at `stake0`
and a first bound `height`: a stop leaves `LoopStop`; a loop that passes its
bound leaves the invariant past its last height `h`, at least `height`. -/
def LoopEnd.Sound (env : SyncEnv) (s stake0 height : Int) : LoopEnd → Prop
  | .stopped r err st => LoopStop s r err st.db
  | .finished h st => LoopInv env s stake0 (h + 1) st ∧ height ≤ h

/-- The calls of `n` rounds from height `i` in which nothing fails. -/
def loopEvents (env : SyncEnv) (s stake0 : Int) : Int → Nat → List SyncEvent
  | _, 0 => []
  | i, n + 1 => roundEvents env s stake0 i ++ loopEvents env s stake0 (i + 1) n

theorem LoopEnd.Sound.mono {env : SyncEnv} {s stake0 height height' : Int} {e : LoopEnd} (h : e.Sound env s stake0 height')
    (hle : height ≤ height') : e.Sound env s stake0 height := by
  cases e with
  | stopped => exact h
  | finished => exact ⟨h.1, Int.le_trans hle h.2⟩

/-- A cancelled context stops the loop at its first round. -/
theorem resyncLoop_cancelled {fuel : Nat} {i height : Int} {st : SyncState}
    (hc : ctxDone env st = true) (hi : i ≤ height) :
    resyncLoop env (fuel + 1) i height st = .ret (.stopped (i - 1) none st.check) := by
  simp [resyncLoop, hi, resyncRound, hc]

section Loop

variable (hw : WaitReady env) (hmono : ∀ k, env.bestHeight k ≤ env.bestHeight (k + 1))
include hw hmono

/-- With nothing failing and the node's best height at most `H`, fuel beyond
`H + 1 - i` takes the loop past the node's best height `h`, which the last
`GetBestBlock` gave, after the calls of the rounds from `i` to `h`. -/
theorem resyncLoop_finished {H : Int} (hok : NoFault env) (hH : ∀ k, env.bestHeight k ≤ H) :
    ∀ (fuel : Nat) (i : Int) (c : Nat) (st : SyncState), LoopInv env s stake0 i st → stake0 ≤ i →
      st.bestCalls = c + 1 → i - 1 ≤ env.bestHeight c → H + 1 - i < fuel →
      ∃ h st', resyncLoop env fuel i (env.bestHeight c) st = .ret (.finished h st') ∧
        LoopInv env s stake0 (h + 1) st' ∧ env.bestHeight c ≤ h ∧
        h = env.bestHeight (st'.bestCalls - 1) ∧
        st'.trace = st.trace ++ loopEvents env s stake0 i (h + 1 - i).toNat
  | 0, i, c, _, _, _, _, hi, hfuel => by have := hH c; omega
  | fuel + 1, i, c, st, hinv, hi, hc, hle, hfuel => by
    by_cases hlt : i ≤ env.bestHeight c
    · obtain ⟨height, st1, hr⟩ := resyncRound_progress hok i st
      obtain ⟨hinv1, htr1, rfl, hc1⟩ := resyncRound_next hw hinv hi hr
      rw [hc] at hc1
      have hm := hmono c
      obtain ⟨h, st', hl, hinv', hh, hlast, htr⟩ :=
        resyncLoop_finished hok hH fuel (i + 1) (c + 1) st1 hinv1 (by omega) hc1 (by omega)
          (by omega)
      refine ⟨h, st', ?_, hinv', by omega, hlast, ?_⟩
      · simp only [resyncLoop, if_pos hlt, hr, hc]
        exact hl
      · rw [htr, htr1, show (h + 1 - i).toNat = (h + 1 - (i + 1)).toNat + 1 by omega]
        simp [loopEvents]
    · have hi' : i = env.bestHeight c + 1 := by omega
      refine ⟨env.bestHeight c, st, by simp [resyncLoop, hlt], hi' ▸ hinv, Int.le_refl _, by simp [hc], ?_⟩
      simp [hi', loopEvents]

/-- Whatever fails, every end of the loop is sound. -/
theorem resyncLoop_sound (h0 : 0 ≤ stake0) :
    ∀ (fuel : Nat) (i : Int) (c : Nat) (st : SyncState) (e : LoopEnd), LoopInv env s stake0 i st →
      stake0 ≤ i → st.bestCalls = c + 1 → i - 1 ≤ env.bestHeight c →
      resyncLoop env fuel i (env.bestHeight c) st = .ret e → e.Sound env s stake0 (env.bestHeight c)
  | 0, _, _, _, _, _, _, _, _, h => by cases h
  | fuel + 1, i, c, st, e, hinv, hi, hc, hle, h => by
    unfold resyncLoop at h
    split_ifs at h with hlt
    · split at h
      · rename_i height st1 hr
        obtain ⟨hinv1, -, rfl, hc1⟩ := resyncRound_next hw hinv hi hr
        rw [hc] at hc1 h
        exact (resyncLoop_sound h0 fuel (i + 1) (c + 1) st1 e hinv1 (by omega) hc1
          (by have := hmono c; omega) h).mono (hmono c)
      · cases h
        exact resyncRound_stop hinv h0 hi ‹_›
    · cases h
      exact ⟨by rwa [show i = env.bestHeight c + 1 by omega] at hinv, Int.le_refl _⟩

end Loop

end Rounds


/-- The disconnections of a rewind of `n` blocks from height `d`. -/
def rewindEvents (d : Int) : Nat → List SyncEvent
  | 0 => []
  | n + 1 => .disconnectBlock d :: rewindEvents (d - 1) n

section Rewind

variable {env : SyncEnv} {toHeight : Int}

/-- With nothing failing, a rewind from `toHeight + n` disconnects `n` blocks
and reaches `toHeight`. -/
theorem rewindLoop_ok (hok : NoFault env) :
    ∀ (n : Nat) (st : SyncState), st.db.stakeDBHeight = toHeight + n →
      rewindLoop env toHeight n st = ((toHeight, none),
        { st with
          db := { st.db with stakeDBHeight := toHeight }
          ctxChecks := st.ctxChecks + n
          trace := st.trace ++ rewindEvents st.db.stakeDBHeight n })
  | 0, st, h => by
    have h' : toHeight = st.db.stakeDBHeight := by omega
    simp [rewindLoop, rewindEvents, h']
  | n + 1, st, h => by
    have hgt : ¬ st.db.stakeDBHeight ≤ toHeight := by omega
    simp only [rewindLoop, hgt, if_false, ctxDone_of_noFault hok, hok.fail, Bool.false_eq_true]
    rw [rewindLoop_ok hok n _ (by simp only [SyncState.setStake_db]; omega)]
    simp [rewindEvents, Nat.add_assoc, Nat.add_comm 1 n]

/-- Whatever fails, a rewind from a stake DB at `toHeight` or above ends
between `toHeight` and where it started and touches no other database; with
enough rounds, ending above `toHeight` with no error means that the context
was cancelled. -/
theorem rewindLoop_spec {h : Int} {err : Option String} :
    ∀ (n : Nat) (st st' : SyncState), toHeight ≤ st.db.stakeDBHeight →
      (st.db.stakeDBHeight - toHeight).toNat ≤ n → rewindLoop env toHeight n st = ((h, err), st') →
      st'.db = { st.db with stakeDBHeight := h } ∧ toHeight ≤ h ∧ h ≤ st.db.stakeDBHeight ∧
        st'.bestCalls = st.bestCalls ∧ st'.waitHeight = st.waitHeight ∧
        st.ctxChecks ≤ st'.ctxChecks ∧ (err = none → h = toHeight ∨ ctxDone env st' = true)
  | 0, st, st', hle, hn, hr => by
    simp only [rewindLoop, Prod.mk.injEq] at hr
    obtain ⟨⟨rfl, rfl⟩, rfl⟩ := hr
    refine ⟨rfl, hle, Int.le_refl _, rfl, rfl, Nat.le_refl _, fun _ => .inl (by omega)⟩
  | n + 1, st, st', hle, hn, hr => by
    unfold rewindLoop at hr
    split_ifs at hr with h1 h2
    · simp only [Prod.mk.injEq] at hr
      obtain ⟨⟨rfl, rfl⟩, rfl⟩ := hr
      exact ⟨rfl, hle, Int.le_refl _, rfl, rfl, Nat.le_refl _, fun _ => .inl (by omega)⟩
    · simp only [Prod.mk.injEq] at hr
      obtain ⟨⟨rfl, rfl⟩, rfl⟩ := hr
      exact ⟨rfl, hle, Int.le_refl _, rfl, rfl, by simp,
        fun _ => .inr (ctxDone_mono h2 (by simp))⟩
    · split at hr
      · simp only [Prod.mk.injEq] at hr
        obtain ⟨⟨rfl, rfl⟩, rfl⟩ := hr
        exact ⟨rfl, hle, Int.le_refl _, rfl, rfl, by simp, fun h => absurd h (by simp)⟩
      · obtain ⟨hdb, hlo, hhi, hbc, hwt, hct, hdone⟩ :=
          rewindLoop_spec n _ st' (by simp only [SyncState.setStake_db]; omega)
            (by simp only [SyncState.setStake_db]; omega) hr
        simp only [SyncState.setStake_db, SyncState.record_db, SyncState.check_db] at hdb hhi
        refine ⟨by simp [hdb], hlo, by omega, by simpa using hbc, by simpa using hwt, ?_, hdone⟩
        simp at hct
        omega

end Rewind

end HcData.Sqlite
