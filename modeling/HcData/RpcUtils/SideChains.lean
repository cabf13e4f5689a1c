import HcData.Basic

/-!
# Side chains as the node reports them

`SideChains` keeps the `getchaintips` entries of status "valid-headers" or
"valid-fork".  `SideChainFull` walks back from such a tip through the blocks
whose header has `Confirmations = -1`, to the first main chain block, and
returns the side chain lowest block first.

The walk is unbounded in the source; here it runs on fuel.  When the blocks
from a tip down to the main chain form a side chain (`SideWalk`), fuel beyond
its length is enough, and `SideChainFull` returns that chain
(`sideChainFull_of_sideWalk`).  The collected hashes are put in order by
`reverseStringSlice`, the swap loop of the source, which reverses a slice of
every length (`reverseStringSlice_eq_reverse`).

Against a height for each block that falls along `PreviousHash` and is main
chain at 0 (`HeightOrdered`), every known tip has such a walk, and the call
ends within the tip's height plus one rounds (`sideChainFull_terminates`).
-/

namespace HcData.RpcUtils

/-- The fields of a `getchaintips` entry that are read. -/
structure ChainTip where
  height : Nat
  hash : String
  status : String
  deriving DecidableEq, Repr

/-- `sideChainTips`. -/
def sideChainTips (allTips : List ChainTip) : List ChainTip :=
  allTips.filter fun t => t.status == "valid-headers" || t.status == "valid-fork"

/-- The fields of a verbose block header that are read. -/
structure BlockHeaderVerbose where
  confirmations : Int
  previousHash : String
  deriving DecidableEq, Repr

/-- What the node answers: `GetChainTips`, and `GetBlockHeaderVerbose` of a
hash (`none` for an error). -/
structure SideNode where
  getChainTips : Except String (List ChainTip)
  getBlockHeaderVerbose : String → Option BlockHeaderVerbose

/-- `SideChains`. -/
def sideChains (node : SideNode) : Except String (List ChainTip) :=
  match node.getChainTips with
  | .error e => .error e
  | .ok tips => .ok (sideChainTips tips)

/-- `chainhash.NewHashFromStr` accepts a string of at most 64 hex digits.  The
hashes the node sends print back as themselves. -/
def isHashStr (s : String) : Bool :=
  s.length ≤ 64 && s.toList.all fun c => c.isDigit || ('a' ≤ c && c ≤ 'f') || ('A' ≤ c && c ≤ 'F')

/-- `GetBlockHeaderVerboseByString`: `nil` for a string that is no hash or a
failing call. -/
def getBlockHeaderVerboseByString (node : SideNode) (hash : String) : Option BlockHeaderVerbose :=
  if isHashStr hash then node.getBlockHeaderVerbose hash else none

/-- `s[i], s[j] = s[j], s[i]`. -/
def swapAt (s : List String) (i j : Nat) : List String :=
  (s.set i (s.getD j "")).set j (s.getD i "")

/-- `reverseStringSlice`: the loop `for i := 0; i <= (N/2)-1; i++` over Go
ints runs `i` through `0 .. N/2 - 1`, that is `i < N/2`, also for `N < 2`. -/
def reverseStringSlice (s : List String) : List String :=
  (List.range (s.length / 2)).foldl (fun s' i => swapAt s' i (s.length - 1 - i)) s

@[simp]
theorem length_swapAt (l : List String) (i j : Nat) : (swapAt l i j).length = l.length := by
  simp [swapAt]

theorem getElem?_swapAt {l : List String} {i j : Nat} (hi : i < l.length) (hj : j < l.length)
    (p : Nat) : (swapAt l i j)[p]? = if p = j then l[i]? else if p = i then l[j]? else l[p]? := by
  by_cases hpj : p = j
  · subst hpj; simp [swapAt, List.getElem?_set, hi, hj]
  · by_cases hpi : p = i
    · subst hpi; simp [swapAt, List.getElem?_set, hi, hj, Ne.symm hpj, hpj]
    · simp [swapAt, List.getElem?_set, Ne.symm hpj, Ne.symm hpi, hpj, hpi]

/-- After `k` rounds each of the first `k` and the last `k` places holds its
mirror image, the place `q` with `p + q + 1 = N`, and the middle is untouched. -/
theorem reverseLoop_getElem? (s : List String) : ∀ k, 2 * k ≤ s.length →
    ((List.range k).foldl (fun s' i => swapAt s' i (s.length - 1 - i)) s).length = s.length ∧
    ∀ p q, p + q + 1 = s.length →
      ((List.range k).foldl (fun s' i => swapAt s' i (s.length - 1 - i)) s)[p]? =
        if p < k ∨ q < k then s[q]? else s[p]?
  | 0, _ => ⟨rfl, fun _ _ _ => rfl⟩
  | k + 1, hk => by
    obtain ⟨hlen, hget⟩ := reverseLoop_getElem? s k (by omega)
    rw [List.range_succ, List.foldl_append, List.foldl_cons, List.foldl_nil]
    refine ⟨by rw [length_swapAt, hlen], fun p q hpq => ?_⟩
    rw [getElem?_swapAt (by omega) (by omega)]
    by_cases hj : p = s.length - 1 - k
    · -- place `N - 1 - k` receives `s[k]`
      have hq : q = k := by omega
      rw [if_pos hj, hget k (s.length - 1 - k) (by omega),
        if_neg (show ¬(k < k ∨ s.length - 1 - k < k) by omega),
        if_pos (show p < k + 1 ∨ q < k + 1 by omega), hq]
    · by_cases hi : p = k
      · -- place `k` receives `s[N - 1 - k]`
        have hq : q = s.length - 1 - k := by omega
        rw [if_neg hj, if_pos hi, hget (s.length - 1 - k) k (by omega),
          if_neg (show ¬(s.length - 1 - k < k ∨ k < k) by omega),
          if_pos (show p < k + 1 ∨ q < k + 1 by omega), hq]
      · -- every other place keeps what it held
        rw [if_neg hj, if_neg hi, hget p q hpq]
        exact if_congr (by omega) rfl rfl

/-- `reverseStringSlice` reverses a slice of every length. -/
theorem reverseStringSlice_eq_reverse (s : List String) : reverseStringSlice s = s.reverse := by
  obtain ⟨hlen, hget⟩ := reverseLoop_getElem? s (s.length / 2) (by omega)
  refine List.ext_getElem? fun p => ?_
  by_cases hp : p < s.length
  · rw [reverseStringSlice, hget p (s.length - 1 - p) (by omega), List.getElem?_reverse hp]
    split_ifs
    · rfl
    · congr 1; omega
  · rw [List.getElem?_eq_none (by rw [reverseStringSlice, hlen]; omega),
      List.getElem?_eq_none (by simp; omega)]

/-- The loop of `SideChainFull`, on fuel. -/
def sideChainFullLoop (node : SideNode) (tipHash : String) :
    Nat → String → List String → Outcome (Except String (List String))
  | 0, _, _ => .unfinished
  | fuel + 1, hash, sideChain =>
    match getBlockHeaderVerboseByString node hash with
    | none => .ret (.error ("GetBlockHeaderVerboseByString failed for block " ++ hash))
    | some header =>
      if header.confirmations ≠ -1 then
        if hash = tipHash then .ret (.error "tip block is not on a side chain")
        else .ret (.ok (reverseStringSlice sideChain))
      else sideChainFullLoop node tipHash fuel header.previousHash (sideChain ++ [hash])

/-- `SideChainFull`. -/
def sideChainFull (node : SideNode) (fuel : Nat) (tipHash : String) :
    Outcome (Except String (List String)) :=
  sideChainFullLoop node tipHash fuel tipHash []

/-- `desc`, from `hash` down, is a side chain reaching the main chain: each of
its blocks has `Confirmations = -1` and its previous hash is the next, and the
previous hash of the last one is a main chain block. -/
def SideWalk (node : SideNode) : String → List String → Prop
  | hash, [] => ∃ hd, getBlockHeaderVerboseByString node hash = some hd ∧ hd.confirmations ≠ -1
  | hash, x :: rest => x = hash ∧ ∃ hd, getBlockHeaderVerboseByString node hash = some hd ∧
      hd.confirmations = -1 ∧ SideWalk node hd.previousHash rest

section Walk

variable {node : SideNode} {tipHash : String}

/-- Every block of a side walk is a hash string. -/
theorem SideWalk.isHashStr : ∀ {hash : String} {desc : List String}, SideWalk node hash desc →
    ∀ x ∈ desc, isHashStr x = true
  | _, [], _ => fun _ hx => absurd hx (List.not_mem_nil _)
  | hash, y :: rest, ⟨hy, hd, hget, _, hw⟩ => by
    intro x hx
    subst hy
    rcases List.mem_cons.mp hx with rfl | hx
    · by_contra hn
      simp [getBlockHeaderVerboseByString, hn] at hget
    · exact SideWalk.isHashStr hw x hx

theorem sideChainFullLoop_of_sideWalk
    (htip : ∀ hd, getBlockHeaderVerboseByString node tipHash = some hd → hd.confirmations = -1) :
    ∀ (desc : List String) (fuel : Nat) (hash : String) (sideChain : List String),
      SideWalk node hash desc → desc.length < fuel →
      sideChainFullLoop node tipHash fuel hash sideChain = .ret (.ok (sideChain ++ desc).reverse)
  | [], fuel + 1, hash, sideChain, ⟨hd, hget, hconf⟩, _ => by
    have hne : hash ≠ tipHash := fun h => hconf (htip hd (h ▸ hget))
    simp [sideChainFullLoop, hget, hconf, hne, reverseStringSlice_eq_reverse]
  | x :: rest, fuel + 1, hash, sideChain, ⟨hx, hd, hget, hconf, hw⟩, hlen => by
    subst hx
    rw [sideChainFullLoop, hget]
    simp only [hconf, ne_eq, not_true_eq_false, if_false]
    rw [sideChainFullLoop_of_sideWalk htip rest fuel _ _ hw (by simp at hlen; omega)]
    simp

/-- **`SideChainFull` returns the side chain**, lowest block first, given fuel
beyond its length. -/
theorem sideChainFull_of_sideWalk {desc : List String} (hw : SideWalk node tipHash desc)
    (hne : desc ≠ []) {fuel : Nat} (hfuel : desc.length < fuel) :
    sideChainFull node fuel tipHash = .ret (.ok desc.reverse) := by
  obtain ⟨x, rest, rfl⟩ := List.exists_cons_of_ne_nil hne
  obtain ⟨-, hd, hget, hconf, -⟩ := id hw
  have htip : ∀ hd', getBlockHeaderVerboseByString node tipHash = some hd' →
      hd'.confirmations = -1 := fun hd' h => by rw [hget] at h; cases h; exact hconf
  simpa using sideChainFullLoop_of_sideWalk htip _ fuel tipHash [] hw hfuel

end Walk

/-- The node's headers against a height for each hash: following
`PreviousHash` from a block above height 0 reaches a known block of lower
height, and a block at height 0 is main chain. -/
structure HeightOrdered (node : SideNode) (height : String → Nat) : Prop where
  prev : ∀ hash hd, getBlockHeaderVerboseByString node hash = some hd → 0 < height hash →
    ∃ hd', getBlockHeaderVerboseByString node hd.previousHash = some hd' ∧
      height hd.previousHash < height hash
  genesis : ∀ hash hd, getBlockHeaderVerboseByString node hash = some hd → height hash = 0 →
    hd.confirmations ≠ -1

section Terminates

variable {node : SideNode} {height : String → Nat}

/-- From every known block the side blocks below it form a side walk no
longer than the block's height. -/
theorem exists_sideWalk (hord : HeightOrdered node height) (hash : String)
    (hd : BlockHeaderVerbose) (hget : getBlockHeaderVerboseByString node hash = some hd) :
    ∃ desc, SideWalk node hash desc ∧ desc.length ≤ height hash := by
  induction' hn : height hash using Nat.strong_induction_on with n ih generalizing hash hd
  by_cases hconf : hd.confirmations = -1
  · have hpos : 0 < height hash := Nat.pos_of_ne_zero fun h0 => hord.genesis hash hd hget h0 hconf
    obtain ⟨hd', hget', hlt⟩ := hord.prev hash hd hget hpos
    obtain ⟨desc, hw, hlen⟩ := ih _ (hn ▸ hlt) hd.previousHash hd' hget' rfl
    exact ⟨hash :: desc, ⟨rfl, hd, hget, hconf, hw⟩, by simp only [List.length_cons]; omega⟩
  · exact ⟨[], ⟨hd, hget, hconf⟩, Nat.zero_le _⟩

/-- **`SideChainFull` terminates** on every known tip, within its height plus
one rounds: on a main chain block with an error, on a side block with the side
chain, lowest block first, ending at the tip, each block the previous block of
the next and the first on a main chain block; `reverseStringSlice` reverses
every slice. -/
theorem sideChainFull_terminates (hord : HeightOrdered node height) {tip : String}
    {hd : BlockHeaderVerbose} (htip : getBlockHeaderVerboseByString node tip = some hd)
    {fuel : Nat} (hfuel : height tip < fuel) :
    (∀ s, reverseStringSlice s = s.reverse) ∧
    (hd.confirmations ≠ -1 →
      sideChainFull node fuel tip = .ret (.error "tip block is not on a side chain")) ∧
    (hd.confirmations = -1 → ∃ chain, sideChainFull node fuel tip = .ret (.ok chain) ∧
      chain.getLast? = some tip ∧ SideWalk node tip chain.reverse) := by
  refine ⟨reverseStringSlice_eq_reverse, fun hconf => ?_, fun hconf => ?_⟩
  · obtain ⟨f, rfl⟩ : ∃ f, fuel = f + 1 := ⟨fuel - 1, by omega⟩
    simp [sideChainFull, sideChainFullLoop, htip, hconf]
  · obtain ⟨desc, hw, hlen⟩ := exists_sideWalk hord tip hd htip
    obtain _ | ⟨x, rest⟩ := desc
    · obtain ⟨hd', h', hc'⟩ := hw
      rw [htip] at h'
      cases h'
      exact absurd hconf hc'
    · refine ⟨(x :: rest).reverse, sideChainFull_of_sideWalk hw (List.cons_ne_nil _ _) (by omega),
        by simp [hw.1], by rw [List.reverse_reverse]; exact hw⟩

end Terminates

/-- Main chain `00`, `01`, and a side chain of `aa` on `01` and `ab` on `aa`. -/
def sideBranchNode : SideNode :=
  ⟨.ok [], fun h =>
    if h = "00" then some ⟨2, ""⟩
    else if h = "01" then some ⟨1, "00"⟩
    else if h = "aa" then some ⟨-1, "01"⟩
    else if h = "ab" then some ⟨-1, "aa"⟩
    else none⟩

/-- The heights of `sideBranchNode`'s blocks. -/
def sideBranchHeight (h : String) : Nat :=
  if h = "ab" then 3 else if h = "aa" then 2 else if h = "01" then 1 else 0

theorem sideBranchNode_heightOrdered : HeightOrdered sideBranchNode sideBranchHeight := by
  constructor <;> intro hash hd hget <;>
    simp only [getBlockHeaderVerboseByString, sideBranchNode] at hget <;>
    split_ifs at hget <;> cases hget <;> subst_vars <;> decide

/-- The side tip `ab`: `SideChainFull` walks down through `aa` and returns the
side chain `aa`, `ab`. -/
theorem sideChainFull_terminates_ab :
    HeightOrdered sideBranchNode sideBranchHeight ∧
    getBlockHeaderVerboseByString sideBranchNode "ab" = some ⟨-1, "aa"⟩ ∧ sideBranchHeight "ab" < 4 ∧
    ∃ chain, sideChainFull sideBranchNode 4 "ab" = .ret (.ok chain) ∧
      chain.getLast? = some "ab" ∧ SideWalk sideBranchNode "ab" chain.reverse :=
  ⟨sideBranchNode_heightOrdered, rfl, by decide,
    (@sideChainFull_terminates sideBranchNode sideBranchHeight sideBranchNode_heightOrdered "ab"
      ⟨-1, "aa"⟩ rfl 4 (by decide)).2.2 rfl⟩

example : sideChainFull sideBranchNode 4 "ab" = .ret (.ok ["aa", "ab"]) := by rfl

end HcData.RpcUtils
