import HcData.Sqlite.Sync

/-!
# Whole runs of `resyncDB`

From a start state that passes the startup checks, against a node whose best
height only grows:

* `resyncDB_syncs_in_order`: a run in which nothing fails ends with all three
  heights at the node's best height, handles the node's block of every height,
  connects each block on top of the one below it, and stores the block summary
  and the stake info of every height above the SQLite heights once, in order.
* `resyncDB_recovery`: whatever fails, a run ends as `RunEnd` says.  A run
  that stops between the block summary and the stake info of a block leaves
  SQLite in a state the next run refuses ("SQLite database (dcrdata.sqlt.db)
  is corrupted"), and a stake DB one block above an SQLite DB that holds only
  genesis makes the next run stop ("delete stake db (ffldb_stake) and try
  again").  From any other stop with equal SQLite heights the next run
  disconnects the stake DB's blocks above the lowest height and ends in sync:
  at most one block after a stop in the loop, where the stake DB is at most one
  block ahead (`RunEnd.restart` shows every such end is a start state again),
  and any number after a cancelled rewind.
-/

namespace HcData.Sqlite

/-! ## Runs -/

/-- A start state that passes the startup checks of `resyncDB`: both SQLite
heights at `s ≥ -1`, the stake DB at `d ≥ 0`, and a stake DB above the lowest
height `min s d` no more than twice that height, which is then at least 0. -/
structure StartState (s d : Int) (db : SyncDB) : Prop where
  summary : db.summaryHeight = s
  stakeInfo : db.stakeInfoHeight = s
  stake : db.stakeDBHeight = d
  s_ge : -1 ≤ s
  d_ge : 0 ≤ d
  rewindable : min s d < d → 0 < d → 0 ≤ min s d ∧ d ≤ 2 * min s d

/-- In coordinated mode, `fetchToHeight` is not below the stake DB at `d`,
`waitChan` waits for `fetchToHeight`, and every channel of `WaitForHeight`
delivers the node's block. -/
def RelayReady (env : SyncEnv) (d : Int) (st : SyncState) : Prop :=
  env.master = false → d ≤ env.fetchToHeight ∧ st.waitHeight = env.fetchToHeight ∧
    ∀ k, env.waitForHeight k = env.blockHash k

theorem RelayReady.waitReady {env : SyncEnv} {d : Int} {st : SyncState} (h : RelayReady env d st) :
    WaitReady env := fun hm => (h hm).2.2

/-- The node's best height only grows, from `s` or above at the `k0`-th
`GetBestBlock`, and stays at most `H`. -/
structure Growing (env : SyncEnv) (k0 : Nat) (s H : Int) : Prop where
  start : s ≤ env.bestHeight k0
  mono : ∀ k, env.bestHeight k ≤ env.bestHeight (k + 1)
  bound : ∀ k, env.bestHeight k ≤ H

section Runs

variable {env : SyncEnv} {s d : Int} {st : SyncState}

/-- With nothing failing, the startup of a run from a start state rewinds a
stake DB above the lowest height `min s d` down to it, genesis at least, and
goes on from there. -/
theorem resyncDB_eq_resyncFrom (hok : NoFault env) (hst : StartState s d st.db) (fuel : Nat) :
    resyncDB env fuel st = resyncFrom env fuel (env.bestHeight st.bestCalls) (min s d)
      (max (min s d) 0)
      { st with
        db := { st.db with stakeDBHeight := max (min s d) 0 }
        bestCalls := st.bestCalls + 1
        ctxChecks := st.ctxChecks + (d - max (min s d) 0).toNat
        trace := st.trace ++ rewindEvents d (d - max (min s d) 0).toNat } := by
  obtain ⟨hs, hi, hd, hs1, hd0, hrw⟩ := hst
  simp only [resyncDB, getBestBlock, hok.fail, dbHeights_eq (hok.fail _), hs, hi, hd, min_self,
    ne_eq, not_true_eq_false, if_false, show ¬ min s d < -1 by omega]
  by_cases hr : d > min s d ∧ d > 0
  · obtain ⟨h0, h2⟩ := hrw hr.1 hr.2
    have hmax : max (min s d) 0 = min s d := by omega
    rw [if_pos hr, if_neg (by omega), hmax]
    have hrew := rewindLoop_ok hok (d - min s d).toNat { st with bestCalls := st.bestCalls + 1 }
      (show st.db.stakeDBHeight = min s d + ((d - min s d).toNat : Int) by omega)
    simp only [rewindStakeDB, show ¬ min s d < 0 by omega, if_false, hd, hrew, hs, hi]
  · have hmax : max (min s d) 0 = d := by omega
    have hdb : st.db = ⟨s, s, d⟩ := SyncDB.eq_mk hs hi hd
    rw [if_neg hr, hmax]
    simp [rewindEvents, hdb]

/-- The loop starts at the lowest height `min s d` or one above, at 0 or
above, and when relayed not above `fetchToHeight`. -/
theorem startHeight_bounds (hs1 : -1 ≤ s) (hd0 : 0 ≤ d) (hrelay : RelayReady env d st) :
    min s d ≤ startHeight env (min s d) ∧ startHeight env (min s d) ≤ min s d + 1 ∧
      0 ≤ startHeight env (min s d) ∧
      (env.master = false → startHeight env (min s d) ≤ env.fetchToHeight) := by
  unfold startHeight
  cases hm : env.master <;> simp only [Bool.false_or, Bool.true_or, if_true, decide_eq_true_eq]
  · have := (hrelay hm).1
    split_ifs <;> omega
  · exact ⟨by omega, by omega, by omega, fun h => absurd h (by simp)⟩

/-- Once the stake DB is rewound, the loop starts in its invariant. -/
theorem loopInv_start (hs1 : -1 ≤ s) (hd0 : 0 ≤ d) (hrelay : RelayReady env d st)
    (hdb : st.db = ⟨s, s, max (min s d) 0⟩) :
    LoopInv env s (max (min s d) 0) (startHeight env (min s d)) st := by
  obtain ⟨h1, h2, -, h4⟩ := startHeight_bounds hs1 hd0 hrelay
  exact ⟨by rw [hdb]; dsimp only; omega, by rw [hdb]; dsimp only; omega, by rw [hdb]; dsimp only; omega,
    fun hm => by rw [(hrelay hm).2.1]; have := h4 hm; omega⟩

/-- With nothing failing, the sync after the startup, from SQLite heights `s`
and the stake DB rewound to `max (min s d) 0`, ends with all three heights at
the node's best height `h`, after the rounds from the start height on. -/
theorem resyncFrom_run {H : Int} {c fuel : Nat} (hok : NoFault env) (hs1 : -1 ≤ s) (hd0 : 0 ≤ d)
    (hnode : Growing env c s H) (hfuel : H + 2 ≤ fuel) (st : SyncState) (hrelay : RelayReady env d st)
    (hdb : st.db = ⟨s, s, max (min s d) 0⟩) (hc : st.bestCalls = c + 1) :
    ∃ h st' n, resyncFrom env fuel (env.bestHeight c) (min s d) (max (min s d) 0) st =
        .ret ((h, none), st') ∧ s ≤ h ∧ h = env.bestHeight (st'.bestCalls - 1) ∧
      st'.db = ⟨h, h, max h 0⟩ ∧
      st'.trace = st.trace ++ loopEvents env s (max (min s d) 0) (startHeight env (min s d)) n ∧
      max s (startHeight env (min s d) + n - 1) = h := by
  have hbest := hnode.start
  have hnot : (!env.master && decide (env.fetchToHeight < max (min s d) 0)) = false := by
    cases hm : env.master
    · have := (hrelay hm).1
      simp only [hm, Bool.not_false, Bool.true_and, decide_eq_false_iff_not, not_lt]
      omega
    · rfl
  obtain ⟨hst1, hst2, hst3, -⟩ := startHeight_bounds hs1 hd0 hrelay
  simp only [resyncFrom, hnot, Bool.false_eq_true, if_false]
  by_cases hmin : env.bestHeight c - min s d < 1
  · -- already in sync: the best height is the lowest height, which is `s`
    have hh : env.bestHeight c = s := by omega
    refine ⟨env.bestHeight c, st, 0, by simp [hmin, show ¬ env.bestHeight c - min s d < 0 by omega],
      by omega, by simp [hc], by rw [hdb, hh]; congr 2; omega, by simp [loopEvents], by omega⟩
  · have hinv := loopInv_start hs1 hd0 hrelay hdb
    obtain ⟨h, st', hl, hinv', hh, hlast, htr⟩ :=
      resyncLoop_finished hrelay.waitReady hnode.mono hok hnode.bound fuel _ c st hinv (by omega) hc
        (by omega) (by have := hnode.bound c; omega)
    have hdb' : st'.db = ⟨h, h, max h 0⟩ := SyncDB.eq_mk (by rw [hinv'.summary]; omega)
      (by rw [hinv'.stakeInfo]; omega) (by rw [hinv'.stake]; omega)
    simp only [hmin, if_false, hl, finishResync_of_noFault hok (by rw [hdb'])]
    exact ⟨h, st', _, rfl, by omega, hlast, hdb', htr, by omega⟩

/-- With nothing failing, a run from a start state ends with all three
heights at the node's best height `h` (the stake DB holds genesis at least):
it rewinds the stake DB to `max (min s d) 0` and then makes the calls of the
rounds from the start height on. -/
theorem resyncDB_run {H : Int} {fuel : Nat} (hok : NoFault env) (hst : StartState s d st.db)
    (hnode : Growing env st.bestCalls s H) (hrelay : RelayReady env d st) (hfuel : H + 2 ≤ fuel) :
    ∃ h st' n, resyncDB env fuel st = .ret ((h, none), st') ∧ s ≤ h ∧
      h = env.bestHeight (st'.bestCalls - 1) ∧ st'.db = ⟨h, h, max h 0⟩ ∧
      st'.trace = st.trace ++ rewindEvents d (d - max (min s d) 0).toNat ++
        loopEvents env s (max (min s d) 0) (startHeight env (min s d)) n ∧
      max s (startHeight env (min s d) + n - 1) = h := by
  rw [resyncDB_eq_resyncFrom hok hst]
  obtain ⟨h, st', n, hr, hsh, hlast, hdb, htr, hn⟩ := resyncFrom_run hok hst.s_ge hst.d_ge hnode hfuel
    { st with
      db := { st.db with stakeDBHeight := max (min s d) 0 }
      bestCalls := st.bestCalls + 1
      ctxChecks := st.ctxChecks + (d - max (min s d) 0).toNat
      trace := st.trace ++ rewindEvents d (d - max (min s d) 0).toNat }
    (fun hm => hrelay hm) (SyncDB.eq_mk hst.summary hst.stakeInfo rfl) rfl
  exact ⟨h, st', n, hr, hsh, hlast, hdb, by simpa using htr, hn⟩

end Runs

/-! ## The calls of a run -/

/-- A call of `StoreBlockSummary` or `StoreStakeInfoExtended`. -/
def SyncEvent.isStore : SyncEvent → Bool
  | .storeBlockSummary _ | .storeStakeInfoExtended _ => true
  | _ => false

/-- The stores of the `n` heights above `a`, in increasing order: the block
summary, then the stake info. -/
def storesFrom (a : Int) : Nat → List SyncEvent
  | 0 => []
  | n + 1 => .storeBlockSummary (a + 1) :: .storeStakeInfoExtended (a + 1) :: storesFrom (a + 1) n

section Events

variable {env : SyncEnv} {s stake0 : Int}

theorem handle_mem_loopEvents {k : Int} {hash : String} :
    ∀ {i : Int} {n : Nat}, SyncEvent.handle k hash ∈ loopEvents env s stake0 i n → hash = env.blockHash k
  | _, 0, h => by cases h
  | i, n + 1, h => by
    simp only [loopEvents, roundEvents, List.mem_append, List.mem_cons] at h
    rcases h with (⟨rfl, rfl⟩ | h) | h
    · rfl
    · split_ifs at h <;> simp at h
    · exact handle_mem_loopEvents h

theorem connectBlock_mem_loopEvents {k sh : Int} :
    ∀ {i : Int} {n : Nat}, SyncEvent.connectBlock k sh ∈ loopEvents env s stake0 i n → sh = k - 1
  | _, 0, h => by cases h
  | i, n + 1, h => by
    simp only [loopEvents, roundEvents, List.mem_append, List.mem_cons] at h
    rcases h with (h | h) | h
    · simp at h
    · split_ifs at h <;> simp at h <;> omega
    · exact connectBlock_mem_loopEvents h

theorem filter_isStore_roundEvents (k : Int) :
    (roundEvents env s stake0 k).filter SyncEvent.isStore =
      if s < k then [.storeBlockSummary k, .storeStakeInfoExtended k] else [] := by
  unfold roundEvents
  split_ifs <;> simp [SyncEvent.isStore]

/-- Past the SQLite heights every round stores its block. -/
theorem filter_isStore_loopEvents_above :
    ∀ (n : Nat) (i : Int), s < i →
      (loopEvents env s stake0 i n).filter SyncEvent.isStore = storesFrom (i - 1) n
  | 0, _, _ => rfl
  | n + 1, i, hi => by
    rw [loopEvents, List.filter_append, filter_isStore_roundEvents, if_pos hi,
      filter_isStore_loopEvents_above n (i + 1) (by omega)]
    simp [storesFrom]

/-- The rounds from `i ≤ s + 1` store exactly the heights above `s` they
handle. -/
theorem filter_isStore_loopEvents :
    ∀ (n : Nat) (i : Int), i ≤ s + 1 →
      (loopEvents env s stake0 i n).filter SyncEvent.isStore = storesFrom s (i + n - 1 - s).toNat
  | 0, i, hi => by simp [loopEvents, show (i - 1 - s).toNat = 0 by omega, storesFrom]
  | n + 1, i, hi => by
    by_cases his : s < i
    · rw [filter_isStore_loopEvents_above (n + 1) i his, show i - 1 = s by omega,
        show (i + ↑(n + 1) - 1 - s).toNat = n + 1 by omega]
    · rw [loopEvents, List.filter_append, filter_isStore_roundEvents, if_neg his,
        filter_isStore_loopEvents n (i + 1) (by omega), List.nil_append]
      congr 1
      omega

theorem handle_not_mem_rewindEvents {k : Int} {hash : String} :
    ∀ {d : Int} {n : Nat}, SyncEvent.handle k hash ∉ rewindEvents d n
  | _, 0 => by simp [rewindEvents]
  | d, n + 1 => by simp [rewindEvents, handle_not_mem_rewindEvents]

theorem connectBlock_not_mem_rewindEvents {k sh : Int} :
    ∀ {d : Int} {n : Nat}, SyncEvent.connectBlock k sh ∉ rewindEvents d n
  | _, 0 => by simp [rewindEvents]
  | d, n + 1 => by simp [rewindEvents, connectBlock_not_mem_rewindEvents]

theorem filter_isStore_rewindEvents : ∀ (d : Int) (n : Nat), (rewindEvents d n).filter SyncEvent.isStore = []
  | _, 0 => rfl
  | d, n + 1 => by simp [rewindEvents, SyncEvent.isStore, filter_isStore_rewindEvents]

end Events

/-- **A run in which nothing fails syncs every height once, in order.**  From
a start state that passes the startup checks, with the node's best height only
growing (so that a height's block never changes), in master mode or relayed
from `fetchToHeight`, a run returns the node's best height `h`, with all three
heights at `h` (the stake DB holding genesis at least); every block it handles
is the node's block of its height; it connects a block only to a stake DB one
below it; and it stores the block summary and the stake info of every height
above `s` up to `h` once each, in increasing order, and nothing else. -/
theorem resyncDB_syncs_in_order {env : SyncEnv} {st : SyncState} {s d H : Int} {fuel : Nat}
    (hstart : StartState s d st.db) (hnode : Growing env st.bestCalls s H)
    (hrelay : RelayReady env d st) (hok : NoFault env) (hfuel : H + 2 ≤ fuel) :
    ∃ h st' events, resyncDB env fuel st = .ret ((h, none), st') ∧ st'.trace = st.trace ++ events ∧
      (∀ i hash, SyncEvent.handle i hash ∈ events → hash = env.blockHash i) ∧
      (∀ i sh, SyncEvent.connectBlock i sh ∈ events → sh = i - 1) ∧
      events.filter SyncEvent.isStore = storesFrom s (h - s).toNat ∧
      s ≤ h ∧ h = env.bestHeight (st'.bestCalls - 1) ∧ st'.db = ⟨h, h, max h 0⟩ := by
  obtain ⟨h, st', n, hr, hsh, hlast, hdb, htr, hn⟩ := resyncDB_run hok hstart hnode hrelay hfuel
  refine ⟨h, st', _, hr, by rw [htr, List.append_assoc], fun i hash hm => ?_, fun i sh hm => ?_, ?_,
    hsh, hlast, hdb⟩
  · rcases List.mem_append.mp hm with hm | hm
    · exact absurd hm handle_not_mem_rewindEvents
    · exact handle_mem_loopEvents hm
  · rcases List.mem_append.mp hm with hm | hm
    · exact absurd hm connectBlock_not_mem_rewindEvents
    · exact connectBlock_mem_loopEvents hm
  · have hle : startHeight env (min s d) ≤ s + 1 := by
      unfold startHeight; split_ifs <;> omega
    rw [List.filter_append, filter_isStore_rewindEvents, filter_isStore_loopEvents n _ hle,
      List.nil_append]
    congr 1
    omega

/-- A node at height 3 met by a master run that nothing disturbs. -/
def steadyNode : SyncEnv :=
  ⟨fun k => "b" ++ toString k, fun _ => 3, fun _ => none, fun _ => false, fun _ => false, none, true,
    0, fun _ => ""⟩

theorem resyncDB_syncs_in_order_rewound :
    ∃ h st' events, resyncDB steadyNode 5 ⟨⟨1, 1, 2⟩, 0, 0, 0, []⟩ = .ret ((h, none), st') ∧
      st'.trace = [] ++ events ∧
      (∀ i hash, SyncEvent.handle i hash ∈ events → hash = steadyNode.blockHash i) ∧
      (∀ i sh, SyncEvent.connectBlock i sh ∈ events → sh = i - 1) ∧
      events.filter SyncEvent.isStore = storesFrom 1 (h - 1).toNat ∧
      1 ≤ h ∧ h = steadyNode.bestHeight (st'.bestCalls - 1) ∧ st'.db = ⟨h, h, max h 0⟩ :=
  resyncDB_syncs_in_order ⟨rfl, rfl, rfl, by decide, by decide, by decide⟩
    ⟨by decide, fun _ => Int.le_refl _, fun _ => Int.le_refl _⟩ (fun h => by cases h)
    ⟨fun _ => rfl, fun _ => rfl, rfl⟩ (by decide)

/-! ## Every run -/

/-- What a run from SQLite heights `s` and a stake DB at `d` leaves, returning
`r` and `err`: a stop before the loop leaves the SQLite tables at `s` and the
stake DB between the rewind's target `max (min s d) 0` and `d`, and returns -1
or the lowest height `min s d` (one below it when a relayed loop is cancelled at
once); a stop in the loop leaves `LoopStop`; a run past the loop leaves all
three heights at `h` and returns `h`, or -1 when its final `DBHeights` fails. -/
inductive RunEnd (s d r : Int) (err : Option String) : SyncDB → Prop
  | startup {k : Int} : max (min s d) 0 ≤ k → k ≤ d → (r = -1 ∨ min s d - 1 ≤ r ∧ r ≤ min s d) →
      RunEnd s d r err ⟨s, s, k⟩
  | loop {db : SyncDB} : LoopStop s r err db → RunEnd s d r err db
  | synced {h : Int} : 0 ≤ h →
      (r = h ∧ err = none ∨ r = -1 ∧ ∃ e, err = some ("DBHeights failed: " ++ e)) →
      RunEnd s d r err ⟨h, h, h⟩

section Ends

variable {env : SyncEnv} {s d : Int}

/-- Whatever fails, the sync after the startup, from SQLite heights `s` and a
stake DB at `k` between the rewind's target and `d` (at the target unless the
rewind was cancelled), ends as `RunEnd` says. -/
theorem resyncFrom_end {c fuel : Nat} {k r : Int} {err : Option String} {st st' : SyncState}
    (hs1 : -1 ≤ s) (hd0 : 0 ≤ d) (hmono : ∀ k, env.bestHeight k ≤ env.bestHeight (k + 1))
    (hs : s ≤ env.bestHeight c) (hrelay : RelayReady env d st) (hdb : st.db = ⟨s, s, k⟩)
    (hk : max (min s d) 0 ≤ k) (hkd : k ≤ d) (hc : st.bestCalls = c + 1)
    (hcancel : k = max (min s d) 0 ∨ ctxDone env st = true)
    (hrun : resyncFrom env fuel (env.bestHeight c) (min s d) k st = .ret ((r, err), st')) :
    RunEnd s d r err st'.db := by
  have hstartup : (r = -1 ∨ min s d - 1 ≤ r ∧ r ≤ min s d) → RunEnd s d r err st.db :=
    fun hr => hdb ▸ .startup hk hkd hr
  simp only [resyncFrom] at hrun
  split_ifs at hrun
  · cases hrun; exact hstartup (.inr ⟨by omega, le_refl _⟩)
  · cases hrun; exact hstartup (.inr ⟨by omega, le_refl _⟩)
  · cases hrun; exact hstartup (.inr ⟨by omega, by omega⟩)
  obtain ⟨hst1, hst2, hst3, -⟩ := startHeight_bounds hs1 hd0 hrelay
  rcases hcancel with rfl | hcan
  · have hinv := loopInv_start hs1 hd0 hrelay hdb
    split at hrun
    · rename_i r' err' st1 hl
      cases hrun
      exact .loop (resyncLoop_sound hrelay.waitReady hmono (by omega) fuel _ c st _ hinv (by omega) hc
        (by omega) hl)
    · rename_i h st1 hl
      obtain ⟨hinv', hh⟩ := resyncLoop_sound hrelay.waitReady hmono (by omega) fuel _ c st _ hinv
        (by omega) hc (by omega) hl
      have hdb1 : st1.db = ⟨h, h, h⟩ := SyncDB.eq_mk (by rw [hinv'.summary]; omega)
        (by rw [hinv'.stakeInfo]; omega) (by rw [hinv'.stake]; omega)
      have hr := finishResync_ret (by rw [hdb1]) hrun
      rw [finishResync_state hrun, hdb1]
      exact .synced (by omega) hr
    · cases hrun
    · cases hrun
  · cases fuel with
    | zero => simp [resyncLoop] at hrun
    | succ fuel =>
      rw [resyncLoop_cancelled hcan (by omega)] at hrun
      cases hrun
      exact hstartup (.inr ⟨by omega, by omega⟩)

/-- **What every run leaves.**  Whatever calls fail and whenever the context
is cancelled, a run from a start state, against a node whose best height only
grows from `s` or above, ends as `RunEnd` says. -/
theorem resyncDB_end {st st' : SyncState} {fuel : Nat} {r : Int} {err : Option String}
    (hstart : StartState s d st.db) (hmono : ∀ k, env.bestHeight k ≤ env.bestHeight (k + 1))
    (hs : s ≤ env.bestHeight st.bestCalls) (hrelay : RelayReady env d st)
    (hrun : resyncDB env fuel st = .ret ((r, err), st')) : RunEnd s d r err st'.db := by
  obtain ⟨hsum, hsi, hd, hs1, hd0, hrw⟩ := hstart
  have hdb : st.db = ⟨s, s, d⟩ := SyncDB.eq_mk hsum hsi hd
  have hstartup : (r = -1 ∨ min s d - 1 ≤ r ∧ r ≤ min s d) → RunEnd s d r err ⟨s, s, d⟩ :=
    .startup (by omega) (Int.le_refl _)
  cases hf : env.fail (.getBestBlock st.bestCalls) with
  | some e =>
    simp only [resyncDB, getBestBlock, hf, Outcome.ret.injEq, Prod.mk.injEq] at hrun
    obtain ⟨⟨rfl, -⟩, rfl⟩ := hrun
    simpa [hdb] using hstartup (.inl rfl)
  | none =>
  cases hh : env.fail (.dbHeights false) with
  | some e =>
    simp only [resyncDB, getBestBlock, hf, dbHeights, hh, Outcome.ret.injEq, Prod.mk.injEq] at hrun
    obtain ⟨⟨rfl, -⟩, rfl⟩ := hrun
    simpa [hdb] using hstartup (.inl rfl)
  | none =>
  simp only [resyncDB, getBestBlock, hf, dbHeights_eq hh, hsum, hsi, hd, min_self, ne_eq,
    not_true_eq_false, if_false, show ¬ min s d < -1 by omega] at hrun
  split_ifs at hrun with hr hdel
  · simp only [Outcome.ret.injEq, Prod.mk.injEq] at hrun
    obtain ⟨⟨rfl, -⟩, rfl⟩ := hrun
    simpa [hdb] using hstartup (.inl rfl)
  · -- the rewind, to the lowest height
    have hmax : max (min s d) 0 = min s d := by omega
    simp only [rewindStakeDB, show ¬ min s d < 0 by omega, if_false, hd] at hrun
    split at hrun
    · rename_i k e st1 hl
      obtain ⟨hdb1, hlo, hhi, -, -, -, -⟩ :=
        rewindLoop_spec _ _ _ (by simp only [hd]; omega) (by simp only [hd]; exact le_rfl) hl
      simp only [Outcome.ret.injEq, Prod.mk.injEq] at hrun
      obtain ⟨⟨rfl, -⟩, rfl⟩ := hrun
      rw [hdb1, hdb]
      exact .startup (by omega) (by simpa [hd] using hhi) (.inr ⟨by omega, le_refl _⟩)
    · rename_i k st1 hl
      obtain ⟨hdb1, hlo, hhi, hbc, hwt, -, hdone⟩ :=
        rewindLoop_spec _ _ _ (by simp only [hd]; omega) (by simp only [hd]; exact le_rfl) hl
      exact resyncFrom_end hs1 hd0 hmono hs (fun hm => by rw [hwt]; exact hrelay hm)
        (by rw [hdb1, hdb]) (by omega) (by simpa [hd] using hhi) (by simpa using hbc)
        (by rw [hmax]; exact hdone rfl) hrun
  · -- no rewind
    exact resyncFrom_end hs1 hd0 hmono hs (fun hm => by exact hrelay hm) (by simpa using hdb)
      (by omega) (Int.le_refl _) rfl (.inl (by omega)) hrun

end Ends

/-! ## Restarting after a stop -/

/-- A call of `DisconnectBlock`. -/
def SyncEvent.isDisconnect : SyncEvent → Bool
  | .disconnectBlock _ => true
  | _ => false

theorem filter_isDisconnect_rewindEvents : ∀ (d : Int) (n : Nat),
    ((rewindEvents d n).filter SyncEvent.isDisconnect).length = n
  | _, 0 => rfl
  | d, n + 1 => by simp [rewindEvents, SyncEvent.isDisconnect, filter_isDisconnect_rewindEvents]

theorem filter_isDisconnect_loopEvents {env : SyncEnv} {s stake0 : Int} :
    ∀ (i : Int) (n : Nat), (loopEvents env s stake0 i n).filter SyncEvent.isDisconnect = []
  | _, 0 => rfl
  | i, n + 1 => by
    simp only [loopEvents, roundEvents, List.filter_append, filter_isDisconnect_loopEvents]
    split_ifs <;> simp [SyncEvent.isDisconnect]

/-- Every end of a run from a start state has SQLite heights of at least -1
and a stake DB holding genesis. -/
theorem RunEnd.bounds {s d r : Int} {err : Option String} {db : SyncDB} (h : RunEnd s d r err db)
    (hs : -1 ≤ s) :
    -1 ≤ db.stakeInfoHeight ∧ db.stakeInfoHeight ≤ db.summaryHeight ∧ 0 ≤ db.stakeDBHeight := by
  cases h with
  | startup hk _ _ => exact ⟨hs, Int.le_refl _, by dsimp only; omega⟩
  | loop h => exact ⟨by have := h.ret; have := h.stakeInfo_ge; omega, h.summary_ge, h.stake_nonneg⟩
  | synced h _ => exact ⟨by dsimp only; omega, Int.le_refl _, h⟩

/-- Every end of a run from a start state with equal SQLite heights is a start
state again, unless it is SQLite at genesis with the stake DB one block above,
which a stop in the loop can leave. -/
theorem RunEnd.restart {s d r : Int} {err : Option String} {db : SyncDB} (h : RunEnd s d r err db)
    (hs : -1 ≤ s)
    (hrw : min s d < d → 0 < d → 0 ≤ min s d ∧ d ≤ 2 * min s d)
    (hsq : db.summaryHeight = db.stakeInfoHeight) (h01 : ¬ (db.summaryHeight = 0 ∧ db.stakeDBHeight = 1)) :
    StartState db.summaryHeight db.stakeDBHeight db := by
  cases h with
  | startup hk hkd _ =>
    refine ⟨rfl, rfl, rfl, hs, by dsimp only; omega, fun h1 h2 => ?_⟩
    dsimp only at h1 h2 ⊢
    have := hrw (by omega) (by omega)
    omega
  | loop hl =>
    have := hl.stake_le; have := hl.stakeInfo_ge; have := hl.ret
    exact ⟨rfl, hsq.symm, rfl, by omega, hl.stake_nonneg, fun _ _ => by omega⟩
  | synced h0 _ => exact ⟨rfl, rfl, rfl, by dsimp only; omega, h0, fun h1 _ => by dsimp only at h1; omega⟩

/-- **A stopped run, and the run after it.**  Whatever calls fail and whenever
the context is cancelled, a run from a start state, against a node whose best
height only grows from `s` or above, ends as `RunEnd` says.  From the state it
leaves, a master run in which nothing fails stops with "SQLite database
(dcrdata.sqlt.db) is corrupted" when the block summary height is above the
stake info height; with both at `S`, it stops with "delete stake db
(ffldb_stake) and try again" when `S = 0` and the stake DB is at 1, and
otherwise disconnects the stake DB's blocks above `max (min S k) 0`, for a
stake DB at `k`, and ends with all three heights at the node's best height.
A stop in the loop leaves the stake DB at most one block above `S`; a stop
before it, as a cancelled rewind, can leave it anywhere the rewind had not yet
reached. -/
theorem resyncDB_recovery {env : SyncEnv} {st st' : SyncState} {s d r : Int} {err : Option String}
    {fuel : Nat} (hstart : StartState s d st.db)
    (hmono : ∀ k, env.bestHeight k ≤ env.bestHeight (k + 1)) (hs : s ≤ env.bestHeight st.bestCalls)
    (hrelay : RelayReady env d st) (hrun : resyncDB env fuel st = .ret ((r, err), st')) :
    RunEnd s d r err st'.db ∧
    ∀ (env' : SyncEnv) (H : Int) (fuel' : Nat), env'.master = true → NoFault env' →
      Growing env' st'.bestCalls st'.db.summaryHeight H → H + 2 ≤ fuel' →
      (st'.db.summaryHeight ≠ st'.db.stakeInfoHeight → ∃ st'', resyncDB env' fuel' st' =
        .ret ((-1, some "SQLite database (dcrdata.sqlt.db) is corrupted"), st'')) ∧
      (st'.db.summaryHeight = st'.db.stakeInfoHeight →
        (st'.db.summaryHeight = 0 ∧ st'.db.stakeDBHeight = 1 → ∃ st'', resyncDB env' fuel' st' =
          .ret ((-1, some "delete stake db (ffldb_stake) and try again"), st'')) ∧
        (¬ (st'.db.summaryHeight = 0 ∧ st'.db.stakeDBHeight = 1) →
          ∃ h st'' events, resyncDB env' fuel' st' = .ret ((h, none), st'') ∧
            st''.trace = st'.trace ++ events ∧
            (events.filter SyncEvent.isDisconnect).length = (st'.db.stakeDBHeight -
              max (min st'.db.summaryHeight st'.db.stakeDBHeight) 0).toNat ∧
            st''.db = ⟨h, h, max h 0⟩ ∧ h = env'.bestHeight (st''.bestCalls - 1))) := by
  have hend := resyncDB_end hstart hmono hs hrelay hrun
  refine ⟨hend, fun env' H fuel' hm hok hnode hfuel => ⟨fun hne => ?_, fun hsq => ⟨fun h01 => ?_, fun h01 => ?_⟩⟩⟩
  · obtain ⟨hi1, his, hk0⟩ := hend.bounds hstart.s_ge
    exact ⟨{ st' with bestCalls := st'.bestCalls + 1 }, by simp [resyncDB, getBestBlock, hok.fail,
      dbHeights_eq (hok.fail _), Ne.symm hne,
      show ¬ min (min st'.db.summaryHeight st'.db.stakeInfoHeight) st'.db.stakeDBHeight < -1 by omega]⟩
  · obtain ⟨h0, h1⟩ := h01
    exact ⟨{ st' with bestCalls := st'.bestCalls + 1 }, by simp [resyncDB, getBestBlock, hok.fail,
      dbHeights_eq (hok.fail _), ← hsq, h0, h1, show min (0 : Int) 1 = 0 by decide]⟩
  · obtain ⟨h, st'', n, hr, -, hlast, hdb, htr, -⟩ :=
      resyncDB_run hok (hend.restart hstart.s_ge hstart.rewindable hsq h01) hnode
        (fun h => by simp [hm] at h) hfuel
    refine ⟨h, st'', _, hr, by rw [htr, List.append_assoc], ?_, hdb, hlast⟩
    rw [List.filter_append, filter_isDisconnect_loopEvents, List.append_nil,
      filter_isDisconnect_rewindEvents]

/-- The genesis-only databases of a first run: empty SQLite tables and a stake
DB at genesis. -/
def genesisOnly : SyncState := ⟨⟨-1, -1, 0⟩, 0, 0, 0, []⟩

/-- A node at genesis whose genesis block `FeeRateInfoBlock` gives nil for. -/
def feeInfoNilAtGenesis : SyncEnv :=
  ⟨fun _ => "g", fun _ => 0, fun _ => none, fun i => i == 0, fun _ => false, none, true, 0, fun _ => ""⟩

/-- What the run of `feeInfoNilAtGenesis` leaves: the summary of genesis
stored, its stake info not. -/
def afterFeeInfoNil : SyncState := ⟨⟨0, -1, 0⟩, 0, 1, 1, [.handle 0 "g", .storeBlockSummary 0]⟩

theorem feeInfoNil_summary_without_stakeInfo :
    resyncDB feeInfoNilAtGenesis 2 genesisOnly =
        .ret ((-1, some "FeeRateInfoBlock failed"), afterFeeInfoNil) ∧
      (resyncDB { feeInfoNilAtGenesis with feeRateInfoNil := fun _ => false } 2 afterFeeInfoNil).map
        Prod.fst = .ret (-1, some "SQLite database (dcrdata.sqlt.db) is corrupted") := by
  decide

theorem resyncDB_recovery_feeInfoNil :
    RunEnd (-1) 0 (-1) (some "FeeRateInfoBlock failed") afterFeeInfoNil.db ∧
    ∀ (env' : SyncEnv) (H : Int) (fuel' : Nat), env'.master = true → NoFault env' →
      Growing env' afterFeeInfoNil.bestCalls afterFeeInfoNil.db.summaryHeight H → H + 2 ≤ fuel' →
      (afterFeeInfoNil.db.summaryHeight ≠ afterFeeInfoNil.db.stakeInfoHeight →
        ∃ st'', resyncDB env' fuel' afterFeeInfoNil =
          .ret ((-1, some "SQLite database (dcrdata.sqlt.db) is corrupted"), st'')) ∧
      (afterFeeInfoNil.db.summaryHeight = afterFeeInfoNil.db.stakeInfoHeight →
        (afterFeeInfoNil.db.summaryHeight = 0 ∧ afterFeeInfoNil.db.stakeDBHeight = 1 →
          ∃ st'', resyncDB env' fuel' afterFeeInfoNil =
            .ret ((-1, some "delete stake db (ffldb_stake) and try again"), st'')) ∧
        (¬ (afterFeeInfoNil.db.summaryHeight = 0 ∧ afterFeeInfoNil.db.stakeDBHeight = 1) →
          ∃ h st'' events, resyncDB env' fuel' afterFeeInfoNil = .ret ((h, none), st'') ∧
            st''.trace = afterFeeInfoNil.trace ++ events ∧
            (events.filter SyncEvent.isDisconnect).length = (afterFeeInfoNil.db.stakeDBHeight -
              max (min afterFeeInfoNil.db.summaryHeight afterFeeInfoNil.db.stakeDBHeight) 0).toNat ∧
            st''.db = ⟨h, h, max h 0⟩ ∧ h = env'.bestHeight (st''.bestCalls - 1))) :=
  resyncDB_recovery (show StartState (-1) 0 genesisOnly.db from ⟨rfl, rfl, rfl, by decide, by decide,
    by decide⟩) (fun _ => Int.le_refl _) (by decide) (fun h => by cases h)
    (show resyncDB feeInfoNilAtGenesis 2 genesisOnly = _ by decide)

end HcData.Sqlite
