import Mathlib.Data.List.Chain
import HcData.Basic

/-!
# The charts cache

`cacheChartsData` holds the charts data and the height it was computed at.
`explorerUI.Store` records each new tip in `pageData.BlockInfo`;
`prePopulateChartsData`, run in the background, takes `ChartUpdate`, reads the
tip height with `exp.Height()`, returns at once when it equals the cache's
height, and otherwise reads the charts data of the PG database, then of the
SQLite one, merges them, and stores the result under the height it read.

`exp.Height()` releases `pageData` as soon as it has read the height, and the
run holds only `ChartUpdate` after that, so a `Store` may land between any two
of its steps: the height read, `GetPgChartsData`, `GetSqliteChartsData`, and
`Update`.  The model makes each of them an action of its own.  The cache's
height is read in the same action as the tip's: only the holder of
`ChartUpdate` writes the cache, so no other action can change it in between.

Two things follow.  The cache is keyed by height alone: after a reorganisation
to another block of a height already cached, the heights match and the run
never recomputes (`charts_stale_after_reorg`).  And the data stored under a
height was read at the tips current during the run, which may differ from the
tip whose height was read.  When the tips' heights never decrease, as for
successive tips, whenever the cache's height is the tip's both reads were made
at tips of that height, and at the tip itself when no two different blocks of
one height have been tips (`cache_current`).  When a tip of a lower height can
follow, the height read and the data can belong to tips of different heights.
-/

namespace HcData.Explorer

/-- The fields of `BlockInfo` the cache logic reads. -/
structure BlockInfo where
  hash : String
  height : Nat
  deriving DecidableEq, Repr

/-- `chartDataCounter`: the height of the last update, and the data map as its
key-value list, `none` for a nil map. -/
structure ChartDataCounter (D : Type) where
  updateHeight : Int
  data : Option (List (String × D))

namespace ChartDataCounter

variable {D : Type}

/-- `height`: −1 while the data map is nil. -/
def height (c : ChartDataCounter D) : Int :=
  match c.data with
  | none => -1
  | some _ => c.updateHeight

/-- `update`. -/
def update (_ : ChartDataCounter D) (height : Int) (newData : Option (List (String × D))) :
    ChartDataCounter D :=
  ⟨height, newData⟩

/-- The process starts with a nil map. -/
def empty : ChartDataCounter D := ⟨0, none⟩

end ChartDataCounter

/-- `m[k] = v` on a map held as its key-value list. -/
def mapSet {D : Type} (m : List (String × D)) (k : String) (v : D) : List (String × D) :=
  (k, v) :: m.filter (·.1 ≠ k)

/-- The loop `for k, v := range sqliteData { pgData[k] = v }`. -/
def mergeCharts {D : Type} (pgData sqliteData : List (String × D)) : List (String × D) :=
  sqliteData.foldl (fun m kv => mapSet m kv.1 kv.2) pgData

/-- What `GetPgChartsData` and `GetSqliteChartsData` answer while a block is the
explorer's tip. -/
structure ChartSources (D : Type) where
  getPgChartsData : BlockInfo → Except String (List (String × D))
  getSqliteChartsData : BlockInfo → Except String (List (String × D))

/-- How far the `prePopulateChartsData` run holding `ChartUpdate` has got: the
tip height it read, then the PG data, then the merged data it is to store. -/
inductive ChartRun (D : Type) where
  | idle
  | heightRead (expHeight : Int)
  | pgRead (expHeight : Int) (pgData : List (String × D))
  | merged (expHeight : Int) (data : List (String × D))

/-- The explorer state the cache logic touches: `liteMode`, `pageData.BlockInfo`,
the cache, and the `prePopulateChartsData` run holding `ChartUpdate`. -/
structure ExplorerUI (D : Type) where
  liteMode : Bool
  blockInfo : BlockInfo
  cache : ChartDataCounter D
  chartUpdate : ChartRun D

/-- A `Store` of a new tip, or a step of `prePopulateChartsData`: taking
`ChartUpdate` and comparing the heights, `GetPgChartsData`,
`GetSqliteChartsData` with the merge, and `cacheChartsData.Update`. -/
inductive Action where
  | store (b : BlockInfo)
  | prePopulate
  | getPgChartsData
  | getSqliteChartsData
  | update
  deriving DecidableEq, Repr

/-- The block an action stores, if it is a `Store`. -/
def Action.stored : Action → Option BlockInfo
  | .store b => some b
  | _ => none

section Step

variable {D : Type} (src : ChartSources D)

/-- The charts data both databases give while `b` is the tip. -/
def chartsAt (b : BlockInfo) : Option (List (String × D)) :=
  match src.getPgChartsData b, src.getSqliteChartsData b with
  | .ok pg, .ok sq => some (mergeCharts pg sq)
  | _, _ => none

/-- One action.  A `prePopulate` while another run holds `ChartUpdate` waits,
which is no step at all, and so is a step of a run that is not at that step.
A failed read ends the run, releasing `ChartUpdate`. -/
def step (e : ExplorerUI D) : Action → ExplorerUI D
  | .store b => { e with blockInfo := b }
  | .prePopulate =>
    if e.liteMode then e
    else
      match e.chartUpdate with
      | .idle =>
        let expHeight : Int := e.blockInfo.height
        if expHeight = e.cache.height then e
        else { e with chartUpdate := .heightRead expHeight }
      | _ => e
  | .getPgChartsData =>
    match e.chartUpdate with
    | .heightRead h =>
      match src.getPgChartsData e.blockInfo with
      | .ok pg => { e with chartUpdate := .pgRead h pg }
      | .error _ => { e with chartUpdate := .idle }
    | _ => e
  | .getSqliteChartsData =>
    match e.chartUpdate with
    | .pgRead h pg =>
      match src.getSqliteChartsData e.blockInfo with
      | .ok sq => { e with chartUpdate := .merged h (mergeCharts pg sq) }
      | .error _ => { e with chartUpdate := .idle }
    | _ => e
  | .update =>
    match e.chartUpdate with
    | .merged h d => { e with cache := e.cache.update h (some d), chartUpdate := .idle }
    | _ => e

/-- A run of actions. -/
def run (e : ExplorerUI D) (as : List Action) : ExplorerUI D := as.foldl (step src) e

/-- The tips of a run: the first tip, then each stored block. -/
def tips (b : BlockInfo) (as : List Action) : List BlockInfo := b :: as.filterMap Action.stored

/-! ## Where the cached data was read -/

/-- Data stored under height `h` merges the PG data read at a tip `b₁` and the
SQLite data read at a later tip `b₂`, both among `seen`, with
`h ≤ b₁.height ≤ b₂.height ≤ top`. -/
def MergedFrom (seen : List BlockInfo) (h : Int) (top : Nat) (d : List (String × D)) : Prop :=
  ∃ b₁ ∈ seen, ∃ b₂ ∈ seen, ∃ pg sq, h ≤ b₁.height ∧ b₁.height ≤ b₂.height ∧ b₂.height ≤ top ∧
    src.getPgChartsData b₁ = .ok pg ∧ src.getSqliteChartsData b₂ = .ok sq ∧ d = mergeCharts pg sq

/-- What a run has read so far, with the tip now at height `top`. -/
def RunFrom (seen : List BlockInfo) (top : Nat) : ChartRun D → Prop
  | .idle => True
  | .heightRead h => h ≤ top
  | .pgRead h pg => ∃ b₁ ∈ seen, h ≤ b₁.height ∧ b₁.height ≤ top ∧ src.getPgChartsData b₁ = .ok pg
  | .merged h d => MergedFrom src seen h top d

theorem MergedFrom.mono {seen : List BlockInfo} {h : Int} {top top' : Nat} {d : List (String × D)}
    (hm : MergedFrom src seen h top d) (ht : top ≤ top') : MergedFrom src seen h top' d := by
  obtain ⟨b₁, h₁, b₂, h₂, pg, sq, hh₁, h12, h2t, hpg, hsq, rfl⟩ := hm
  exact ⟨b₁, h₁, b₂, h₂, pg, sq, hh₁, h12, by omega, hpg, hsq, rfl⟩

theorem RunFrom.mono {seen : List BlockInfo} {top top' : Nat} :
    ∀ {r : ChartRun D}, RunFrom src seen top r → top ≤ top' → RunFrom src seen top' r
  | .idle, _, _ => trivial
  | .heightRead _, h, ht => by simp only [RunFrom] at h ⊢; omega
  | .pgRead _ _, ⟨b₁, hb, hh, htop, hpg⟩, ht => ⟨b₁, hb, hh, by omega, hpg⟩
  | .merged _ _, h, ht => MergedFrom.mono src h ht

/-- Cached and pending data were read at tips among `seen`, no higher than the
current tip, of which the current tip is one, and no lower than their height. -/
structure CacheFrom (seen : List BlockInfo) (e : ExplorerUI D) : Prop where
  cache : ∀ d, e.cache.data = some d → MergedFrom src seen e.cache.updateHeight e.blockInfo.height d
  pending : RunFrom src seen e.blockInfo.height e.chartUpdate
  tip : e.blockInfo ∈ seen

theorem step_blockInfo (e : ExplorerUI D) {a : Action} (ha : a.stored = none) :
    (step src e a).blockInfo = e.blockInfo := by
  cases a with
  | store b => cases ha
  | prePopulate | getPgChartsData | getSqliteChartsData | update =>
    simp only [step]
    repeat' split
    all_goals rfl

/-- Every action keeps where the data was read, as long as a stored block counts
among the tips seen and is not below the current tip. -/
theorem cacheFrom_step {seen : List BlockInfo} {e : ExplorerUI D} (h : CacheFrom src seen e)
    {a : Action} (ha : ∀ b, a = .store b → b ∈ seen ∧ e.blockInfo.height ≤ b.height) :
    CacheFrom src seen (step src e a) := by
  cases a with
  | store b =>
    obtain ⟨hb, hle⟩ := ha b rfl
    exact ⟨fun d hd => (h.cache d hd).mono src hle, h.pending.mono src hle, hb⟩
  | prePopulate =>
    simp only [step]
    split; · exact h
    split
    · split; · exact h
      exact ⟨h.cache, le_refl _, h.tip⟩
    · exact h
  | getPgChartsData =>
    simp only [step]
    split
    · rename_i k hk
      have hkt : k ≤ e.blockInfo.height := by simpa [hk, RunFrom] using h.pending
      split
      · rename_i pg hpg
        exact ⟨h.cache, ⟨e.blockInfo, h.tip, hkt, le_refl _, hpg⟩, h.tip⟩
      · exact ⟨h.cache, trivial, h.tip⟩
    · exact h
  | getSqliteChartsData =>
    simp only [step]
    split
    · rename_i k pg hk
      obtain ⟨b₁, hb₁, hk₁, h₁t, hpg⟩ : ∃ b₁ ∈ seen, k ≤ b₁.height ∧ b₁.height ≤ e.blockInfo.height ∧
          src.getPgChartsData b₁ = .ok pg := by
        simpa [hk, RunFrom] using h.pending
      split
      · rename_i sq hsq
        exact ⟨h.cache, ⟨b₁, hb₁, e.blockInfo, h.tip, pg, sq, hk₁, h₁t, le_refl _, hpg, hsq, rfl⟩,
          h.tip⟩
      · exact ⟨h.cache, trivial, h.tip⟩
    · exact h
  | update =>
    simp only [step]
    split
    · rename_i k d hk
      have hm : MergedFrom src seen k e.blockInfo.height d := by simpa [hk, RunFrom] using h.pending
      exact ⟨fun d' hd' => by
        simp only [ChartDataCounter.update, Option.some.injEq] at hd' ⊢
        exact hd' ▸ hm, trivial, h.tip⟩
    · exact h

/-- Over a run whose tips' heights never decrease, and all of whose tips count
among `seen`, every action keeps where the data was read. -/
theorem cacheFrom_run {seen : List BlockInfo} : ∀ (as : List Action) (e : ExplorerUI D),
    (tips e.blockInfo as).Chain' (fun b₁ b₂ => b₁.height ≤ b₂.height) →
    (∀ b ∈ tips e.blockInfo as, b ∈ seen) → CacheFrom src seen e →
    CacheFrom src seen (run src e as)
  | [], _, _, _, h => h
  | a :: as, e, hrise, hs, h => by
    cases hst : a.stored with
    | some b =>
      obtain rfl : a = .store b := by cases a <;> simp_all [Action.stored]
      simp only [tips, List.filterMap_cons, Action.stored, List.chain'_cons] at hrise hs
      exact cacheFrom_run as _ hrise.2 (fun c hc => hs c (List.mem_cons_of_mem _ hc))
        (cacheFrom_step src h fun b' hb' => by
          cases hb'
          exact ⟨hs b (List.mem_cons_of_mem _ (List.mem_cons_self _ _)), hrise.1⟩)
    | none =>
      have htips : tips (step src e a).blockInfo as = tips e.blockInfo (a :: as) := by
        simp only [tips, step_blockInfo src e hst, List.filterMap_cons, hst]
      refine cacheFrom_run as _ (htips ▸ hrise) (htips ▸ hs) (cacheFrom_step src h fun b hb => ?_)
      subst hb
      cases hst

/-- When the cache's height is the tip's height after the run `as` from `e0`,
the data merges the PG data read at a tip of the run of that height and the
SQLite data read at one, and it is the current tip's data unless two different
blocks of one height have been tips. -/
def CacheCurrent (e0 : ExplorerUI D) (as : List Action) : Prop :=
  (run src e0 as).cache.height = (run src e0 as).blockInfo.height →
    ∃ b₁ ∈ tips e0.blockInfo as, ∃ b₂ ∈ tips e0.blockInfo as, ∃ pg sq,
      b₁.height = (run src e0 as).blockInfo.height ∧ b₂.height = (run src e0 as).blockInfo.height ∧
      src.getPgChartsData b₁ = .ok pg ∧ src.getSqliteChartsData b₂ = .ok sq ∧
      (run src e0 as).cache.data = some (mergeCharts pg sq) ∧
      ((∀ b ∈ tips e0.blockInfo as, ∀ b' ∈ tips e0.blockInfo as, b.height = b'.height → b = b') →
        (run src e0 as).cache.data = chartsAt src (run src e0 as).blockInfo)

/-- **The cache holds data read at tips of the tip's height**, after any run from
a fresh explorer whose tips' heights never decrease. -/
theorem cache_current (e0 : ExplorerUI D) (h0 : e0.cache.data = none)
    (hp0 : e0.chartUpdate = .idle) (as : List Action)
    (hrise : (tips e0.blockInfo as).Chain' fun b₁ b₂ => b₁.height ≤ b₂.height) :
    CacheCurrent src e0 as := by
  intro hh
  have hinv : CacheFrom src (tips e0.blockInfo as) (run src e0 as) :=
    cacheFrom_run src as e0 hrise (fun _ hb => hb)
      ⟨fun d hd => by simp [h0] at hd, by rw [hp0]; trivial, List.mem_cons_self _ _⟩
  obtain ⟨d, hd⟩ : ∃ d, (run src e0 as).cache.data = some d := by
    cases hc : (run src e0 as).cache.data with
    | none => simp [ChartDataCounter.height, hc] at hh
    | some d => exact ⟨d, rfl⟩
  have hkey : (run src e0 as).cache.updateHeight = (run src e0 as).blockInfo.height := by
    simpa only [ChartDataCounter.height, hd] using hh
  obtain ⟨b₁, hb₁, b₂, hb₂, pg, sq, h1, h12, h2t, hpg, hsq, rfl⟩ := hinv.cache d hd
  have e₁ : b₁.height = (run src e0 as).blockInfo.height := by omega
  have e₂ : b₂.height = (run src e0 as).blockInfo.height := by omega
  refine ⟨b₁, hb₁, b₂, hb₂, pg, sq, e₁, e₂, hpg, hsq, hd, fun huniq => ?_⟩
  obtain rfl := huniq _ hb₁ _ hinv.tip e₁
  obtain rfl := huniq _ hb₂ _ hinv.tip e₂
  simp only [hd, chartsAt, hpg, hsq]

end Step

/-- One update at the first tip `a1`, with a reorganisation to `b1` between the
two reads: the cache merges `a1`'s PG data and `b1`'s SQLite data. -/
theorem cache_current_one_update :
    (⟨false, ⟨"a1", 1⟩, .empty, .idle⟩ : ExplorerUI String).cache.data = none ∧
      (⟨false, ⟨"a1", 1⟩, .empty, .idle⟩ : ExplorerUI String).chartUpdate = .idle ∧
      (tips ⟨"a1", 1⟩ [.prePopulate, .getPgChartsData, .store ⟨"b1", 1⟩, .getSqliteChartsData,
        .update]).Chain' (fun b₁ b₂ => b₁.height ≤ b₂.height) ∧
      CacheCurrent ⟨fun b => .ok [("ticket-price", b.hash)], fun b => .ok [("pool-size", b.hash)]⟩
        ⟨false, ⟨"a1", 1⟩, .empty, .idle⟩
        [.prePopulate, .getPgChartsData, .store ⟨"b1", 1⟩, .getSqliteChartsData, .update] :=
  have hrise : (tips ⟨"a1", 1⟩ [.prePopulate, .getPgChartsData, .store ⟨"b1", 1⟩,
      .getSqliteChartsData, .update]).Chain' (fun b₁ b₂ => b₁.height ≤ b₂.height) :=
    .cons (Nat.le_refl 1) .nil
  ⟨rfl, rfl, hrise, cache_current _ _ rfl rfl _ hrise⟩

/-- Block `a10` is the tip and its charts are cached; a reorganisation makes
`b10`, of the same height, the tip; the next run finds the heights equal and
returns.  The cache's height is the tip's, and its data is `a10`'s.  Second,
the height and the data can come from tips of different heights: the run reads
height 10 at `a10`, a `Store` of `a11` lands, both reads are made at `a11`, and
a `Store` of `b10` lands before the `Update`. -/
theorem charts_stale_after_reorg :
    let src : ChartSources String :=
      ⟨fun b => .ok [("ticket-price", b.hash)], fun b => .ok [("pool-size", b.hash)]⟩
    let e := run src ⟨false, ⟨"a10", 10⟩, .empty, .idle⟩
      [.prePopulate, .getPgChartsData, .getSqliteChartsData, .update, .store ⟨"b10", 10⟩,
        .prePopulate]
    let e' := run src ⟨false, ⟨"a10", 10⟩, .empty, .idle⟩
      [.prePopulate, .store ⟨"a11", 11⟩, .getPgChartsData, .getSqliteChartsData,
        .store ⟨"b10", 10⟩, .update]
    (e.cache.height = e.blockInfo.height ∧ e.cache.data ≠ chartsAt src e.blockInfo) ∧
      (e'.cache.height = e'.blockInfo.height ∧ e'.cache.data = chartsAt src ⟨"a11", 11⟩) := by
  decide

end HcData.Explorer
