import HcData.RpcUtils.SideChains

/-!
# Importing side chains into the base DB

`ImportSideChains` lists, tip by tip, the blocks of each side chain that the
base DB does not hold or holds as main chain, then collects and stores each
listed block.  Nothing removes a repeat from the list, so a block shared by two
side chains is stored once for each (`importSideChains_stores`,
`shared_side_block_stored_twice`).  The debug log of the store loop reads
`blockDataBasic.Height` before the nil check that was meant to skip a block
without data, so a collector failure on a listed block is a nil pointer
dereference (`importSideChains_panics`).
-/

namespace HcData.Sqlite

open HcData.RpcUtils

/-- What `ImportSideChains` reads besides the node: the base DB's blocks (the
`is_mainchain` flag of a stored block) and `CollectAPITypes`, whose
`*BlockDataBasic` is `none` when nil. -/
structure ImportEnv (D : Type) where
  node : SideNode
  blockMainchain : String → Option Bool
  collectAPITypes : String → Option D

variable {D : Type}

/-- Modelled from the spec: `getMainchainStatus` is not in the source.  It reads
`is_mainchain` of the block's row, with `sql.ErrNoRows` for a block the DB does
not hold. -/
def getMainchainStatus (env : ImportEnv D) (hash : String) : Bool × Option String :=
  match env.blockMainchain hash with
  | some isMainchain => (isMainchain, none)
  | none => (false, some errNoRows)

/-- The inner loop over one side chain: a block is listed when it is main chain
in the DB or missing there, and its hash parses. -/
def importList (env : ImportEnv D) (sideChain : List String) : List String :=
  sideChain.filter fun h =>
    ((getMainchainStatus env h).1 || (getMainchainStatus env h).2 == some errNoRows) && isHashStr h

/-- The loop over the tips: `SideChainFull` of each, whose error ends the call. -/
def listSideBlocks (env : ImportEnv D) (fuel : Nat) :
    List ChainTip → List String → Outcome (Except String (List String))
  | [], hashlist => .ret (.ok hashlist)
  | tip :: tips, hashlist =>
    match sideChainFull env.node fuel tip.hash with
    | .ret (.ok sideChain) => listSideBlocks env fuel tips (hashlist ++ importList env sideChain)
    | .ret (.error e) => .ret (.error e)
    | .panic m => .panic m
    | .unfinished => .unfinished

/-- The import loop.  `log.Debugf` reads `blockDataBasic.Height` before the nil
check, so a nil `blockDataBasic` panics there, and the check never skips.  The
error of `StoreSideBlockSummary` is only logged; the blocks it was called with
are returned. -/
def storeSideBlocks (env : ImportEnv D) : List String → List D → Outcome (List D)
  | [], stored => .ret stored
  | blockhash :: rest, stored =>
    match env.collectAPITypes blockhash with
    | none => .panic errNilDereference
    | some blockDataBasic => storeSideBlocks env rest (stored ++ [blockDataBasic])

/-- `ImportSideChains`, with fuel for each `SideChainFull`: its error, and the
calls of `StoreSideBlockSummary`. -/
def importSideChains (env : ImportEnv D) (fuel : Nat) : Outcome (Option String × List D) :=
  match sideChains env.node with
  | .error e => .ret (some e, [])
  | .ok tips =>
    match listSideBlocks env fuel tips [] with
    | .ret (.error e) => .ret (some e, [])
    | .ret (.ok hashlist) => (storeSideBlocks env hashlist []).map fun stored => (none, stored)
    | .panic m => .panic m
    | .unfinished => .unfinished

/-! ## What is stored -/

/-- The blocks the spec imports: those the DB does not hold or holds as main
chain. -/
def toImport (env : ImportEnv D) (hash : String) : Bool := env.blockMainchain hash != some false

/-- The node reports `tips`, and the chain of each side chain tip, from the tip
down to the main chain, is `chainOf` of its hash, nonempty and shorter than
`fuel`. -/
structure SideChainsReach (node : SideNode) (tips : List ChainTip)
    (chainOf : String → List String) (fuel : Nat) : Prop where
  chainTips : node.getChainTips = .ok tips
  walk : ∀ t ∈ sideChainTips tips, SideWalk node t.hash (chainOf t.hash)
  side : ∀ t ∈ sideChainTips tips, chainOf t.hash ≠ []
  short : ∀ t ∈ sideChainTips tips, (chainOf t.hash).length < fuel

/-- The blocks to import, tip by tip, each side chain from its lowest block. -/
def sideBlocksToImport (env : ImportEnv D) (tips : List ChainTip) (chainOf : String → List String) :
    List String :=
  (sideChainTips tips).flatMap fun t => (chainOf t.hash).reverse.filter (toImport env)

theorem importList_eq (env : ImportEnv D) {sideChain : List String}
    (h : ∀ x ∈ sideChain, isHashStr x = true) : importList env sideChain = sideChain.filter (toImport env) := by
  refine List.filter_congr fun x hx => ?_
  simp only [getMainchainStatus, toImport, h x hx, Bool.and_true]
  cases env.blockMainchain x with
  | none => rfl
  | some b => cases b <;> rfl

theorem listSideBlocks_eq {env : ImportEnv D} {tips : List ChainTip} {chainOf : String → List String}
    {fuel : Nat} (hr : SideChainsReach env.node tips chainOf fuel) :
    ∀ ts : List ChainTip, (∀ t ∈ ts, t ∈ sideChainTips tips) → ∀ acc,
      listSideBlocks env fuel ts acc =
        .ret (.ok (acc ++ ts.flatMap fun t => (chainOf t.hash).reverse.filter (toImport env)))
  | [], _, acc => by simp [listSideBlocks]
  | t :: ts, hts, acc => by
    have ht := hts t (List.mem_cons_self _ _)
    have hw := hr.walk t ht
    rw [listSideBlocks, sideChainFull_of_sideWalk hw (hr.side t ht) (hr.short t ht)]
    simp only
    rw [listSideBlocks_eq hr ts (fun t' h => hts t' (List.mem_cons_of_mem _ h)),
      importList_eq env fun x hx => hw.isHashStr x (List.mem_reverse.mp hx)]
    simp

theorem storeSideBlocks_ok {env : ImportEnv D} :
    ∀ {hashes : List String}, (∀ h ∈ hashes, (env.collectAPITypes h).isSome) → ∀ stored,
      storeSideBlocks env hashes stored = .ret (stored ++ hashes.filterMap env.collectAPITypes)
  | [], _, stored => by simp [storeSideBlocks]
  | h :: hs, hc, stored => by
    obtain ⟨d, hd⟩ := Option.isSome_iff_exists.mp (hc h (List.mem_cons_self _ _))
    rw [storeSideBlocks, hd]
    simp only
    rw [storeSideBlocks_ok (fun x hx => hc x (List.mem_cons_of_mem _ hx))]
    simp [hd]

theorem storeSideBlocks_panic {env : ImportEnv D} :
    ∀ {hashes : List String}, (∃ h ∈ hashes, env.collectAPITypes h = none) → ∀ stored,
      storeSideBlocks env hashes stored = .panic errNilDereference
  | [], ⟨_, hx, _⟩, _ => absurd hx (List.not_mem_nil _)
  | h :: hs, ⟨x, hx, hnone⟩, stored => by
    rw [storeSideBlocks]
    cases hd : env.collectAPITypes h with
    | none => rfl
    | some d =>
      have hx' : x ∈ hs := by
        rcases List.mem_cons.mp hx with rfl | hx
        · rw [hd] at hnone; cases hnone
        · exact hx
      exact storeSideBlocks_panic ⟨x, hx', hnone⟩ _

section Import

variable {env : ImportEnv D} {tips : List ChainTip} {chainOf : String → List String} {fuel : Nat}

theorem importSideChains_eq (hr : SideChainsReach env.node tips chainOf fuel) :
    importSideChains env fuel =
      (storeSideBlocks env (sideBlocksToImport env tips chainOf) []).map fun stored => (none, stored) := by
  rw [importSideChains, sideChains, hr.chainTips]
  simp only
  rw [listSideBlocks_eq hr _ (fun _ h => h), List.nil_append]
  rfl

/-- **What `ImportSideChains` stores**, when the collector answers for every
listed block: the listed blocks in order, one call per side chain holding each,
and it returns nil. -/
theorem importSideChains_stores (hr : SideChainsReach env.node tips chainOf fuel)
    (hc : ∀ h ∈ sideBlocksToImport env tips chainOf, (env.collectAPITypes h).isSome) :
    importSideChains env fuel =
      .ret (none, (sideBlocksToImport env tips chainOf).filterMap env.collectAPITypes) := by
  rw [importSideChains_eq hr, storeSideBlocks_ok hc, List.nil_append]
  rfl

/-- **A collector failure crashes the import**: a listed block without data is
read through a nil pointer. -/
theorem importSideChains_panics (hr : SideChainsReach env.node tips chainOf fuel)
    (hc : ∃ h ∈ sideBlocksToImport env tips chainOf, env.collectAPITypes h = none) :
    importSideChains env fuel = .panic errNilDereference := by
  rw [importSideChains_eq hr, storeSideBlocks_panic hc]
  rfl

end Import

/-! ## Two side chains sharing a block -/

/-- A node whose main chain ends `00`, `01`, with the side block `aa` on `01`
and two side chain tips on `aa`: `bb` and `cc`. -/
def forkedNode : SideNode :=
  ⟨.ok [⟨1, "01", "active"⟩, ⟨3, "bb", "valid-fork"⟩, ⟨3, "cc", "valid-headers"⟩], fun h =>
    if h = "01" then some ⟨1, "00"⟩
    else if h = "aa" then some ⟨-1, "01"⟩
    else if h = "bb" ∨ h = "cc" then some ⟨-1, "aa"⟩
    else none⟩

/-- The chains of `forkedNode`'s side chain tips, from the tip down. -/
def forkedChains (h : String) : List String :=
  if h = "bb" then ["bb", "aa"] else if h = "cc" then ["cc", "aa"] else []

theorem forkedNode_reach :
    SideChainsReach forkedNode
      [⟨1, "01", "active"⟩, ⟨3, "bb", "valid-fork"⟩, ⟨3, "cc", "valid-headers"⟩] forkedChains 5 := by
  have htips : sideChainTips
      [⟨1, "01", "active"⟩, ⟨3, "bb", "valid-fork"⟩, ⟨3, "cc", "valid-headers"⟩] =
      [⟨3, "bb", "valid-fork"⟩, ⟨3, "cc", "valid-headers"⟩] := rfl
  refine ⟨rfl, ?_, ?_, ?_⟩ <;> rw [htips] <;> intro t ht <;>
    simp only [List.mem_cons, List.mem_singleton, List.not_mem_nil, or_false] at ht <;>
    rcases ht with rfl | rfl
  all_goals first
    | exact ⟨rfl, _, rfl, rfl, rfl, _, rfl, rfl, _, rfl, by decide⟩
    | decide

/-- With an empty base DB, the shared block `aa` is stored twice. -/
theorem shared_side_block_stored_twice :
    importSideChains (⟨forkedNode, fun _ => none, some⟩ : ImportEnv String) 5 =
      .ret (none, ["aa", "bb", "aa", "cc"]) := by
  decide

/-- The same import through `importSideChains_stores`. -/
theorem importSideChains_stores_forked :
    SideChainsReach forkedNode
      [⟨1, "01", "active"⟩, ⟨3, "bb", "valid-fork"⟩, ⟨3, "cc", "valid-headers"⟩] forkedChains 5 ∧
    importSideChains (⟨forkedNode, fun _ => none, some⟩ : ImportEnv String) 5 =
      .ret (none, ["aa", "bb", "aa", "cc"]) :=
  ⟨forkedNode_reach, (importSideChains_stores forkedNode_reach (by decide)).trans (by decide)⟩

/-- No data for `bb`: the import panics. -/
theorem importSideChains_panics_forked :
    SideChainsReach forkedNode
      [⟨1, "01", "active"⟩, ⟨3, "bb", "valid-fork"⟩, ⟨3, "cc", "valid-headers"⟩] forkedChains 5 ∧
    importSideChains (⟨forkedNode, fun _ => none, fun h => if h = "bb" then none else some h⟩ :
      ImportEnv String) 5 = .panic errNilDereference :=
  ⟨forkedNode_reach, importSideChains_panics forkedNode_reach ⟨"bb", by decide, rfl⟩⟩

end HcData.Sqlite
