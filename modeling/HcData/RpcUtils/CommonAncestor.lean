import HcData.Basic

/-!
# The common ancestor of two chain tips

`CommonAncestor` walks back from two blocks, stepping the higher one down until
the heights match, then both together until their previous hashes coincide.  It
gives up with `ErrAncestorAtGenesis` at the genesis block and with
`ErrAncestorMaxChainLength` after `maxAncestorChainLength` iterations.

Over a well-formed block store its result is `commonAncestorSpec`, the result
the spec describes in terms of ancestors: the highest common ancestor strictly
below the lower tip (`commonDepth`), and the chains of the ancestors-or-self of
each tip above it, in increasing height (`commonAncestor_eq_spec`).
-/

namespace HcData.RpcUtils

/-- The fields of a block's header that `CommonAncestor` reads.  A hash is its
string form. -/
structure BlockHeader where
  height : Nat
  prevBlock : String
  deriving DecidableEq, Repr

/-- `zeroHash`, the previous hash of a genesis block. -/
def zeroHash : String := "0000000000000000000000000000000000000000000000000000000000000000"

def maxAncestorChainLength : Nat := 8192

def errAncestorAtGenesis : String := "no ancestor: at genesis"

def errAncestorMaxChainLength : String := "no ancestor: max chain length reached"

/-- The node behind the RPC client: the header of the block `GetBlock` returns
for a hash, or its error. -/
structure Client where
  getBlock : String → Except String BlockHeader

/-- What `CommonAncestor` returns: the ancestor (`none` for nil), the two
chains, and the error. -/
abbrev AncestorResult : Type := Option String × List String × List String × Option String

/-- The loop of `CommonAncestor`, on fuel.  Each iteration first checks the
`length` bound, so from `length` on, `maxAncestorChainLength - length + 1`
fuel is enough. -/
def commonAncestorLoop (c : Client) :
    Nat → Nat → String → String → List String → List String → Outcome AncestorResult
  | fuel, length, hashA, hashB, chainA, chainB =>
    if maxAncestorChainLength ≤ length then .ret (none, [], [], some errAncestorMaxChainLength)
    else
      match fuel with
      | 0 => .unfinished
      | fuel + 1 =>
        match c.getBlock hashA with
        | .error e => .ret (none, [], [], some ("Failed to get block " ++ hashA ++ ": " ++ e))
        | .ok blockA =>
          match c.getBlock hashB with
          | .error e => .ret (none, [], [], some ("Failed to get block " ++ hashB ++ ": " ++ e))
          | .ok blockB =>
            if blockA.height > blockB.height then
              commonAncestorLoop c fuel (length + 1) blockA.prevBlock hashB (hashA :: chainA) chainB
            else if blockB.height > blockA.height then
              commonAncestorLoop c fuel (length + 1) hashA blockB.prevBlock chainA (hashB :: chainB)
            else if blockB.height ≠ blockA.height then .panic "you broke the code"
            else if blockA.prevBlock = zeroHash then
              .ret (none, hashA :: chainA, hashB :: chainB, some errAncestorAtGenesis)
            else if blockA.prevBlock = blockB.prevBlock then
              .ret (some blockA.prevBlock, hashA :: chainA, hashB :: chainB, none)
            else
              commonAncestorLoop c fuel (length + 1) blockA.prevBlock blockB.prevBlock
                (hashA :: chainA) (hashB :: chainB)

/-- `CommonAncestor`. -/
def commonAncestor (client : Option Client) (hashA hashB : String) : Outcome AncestorResult :=
  match client with
  | none => .ret (none, [], [], some "nil RPC client")
  | some c => commonAncestorLoop c (maxAncestorChainLength + 1) 0 hashA hashB [] []

/-! ## One iteration -/

section Loop

variable (c : Client) {fuel length : Nat} {a b : String} {ba bb : BlockHeader}
  {chainA chainB : List String}

theorem commonAncestorLoop_bound (h : maxAncestorChainLength ≤ length) :
    commonAncestorLoop c fuel length a b chainA chainB =
      .ret (none, [], [], some errAncestorMaxChainLength) := by
  unfold commonAncestorLoop; rw [if_pos h]

variable (hlen : length < maxAncestorChainLength) (ha : c.getBlock a = .ok ba)
  (hb : c.getBlock b = .ok bb)
include hlen ha hb

theorem commonAncestorLoop_stepA (hgt : bb.height < ba.height) :
    commonAncestorLoop c (fuel + 1) length a b chainA chainB =
      commonAncestorLoop c fuel (length + 1) ba.prevBlock b (a :: chainA) chainB := by
  conv_lhs => unfold commonAncestorLoop
  rw [if_neg (Nat.not_le.mpr hlen)]
  simp [ha, hb, hgt]

theorem commonAncestorLoop_stepB (hgt : ba.height < bb.height) :
    commonAncestorLoop c (fuel + 1) length a b chainA chainB =
      commonAncestorLoop c fuel (length + 1) a bb.prevBlock chainA (b :: chainB) := by
  conv_lhs => unfold commonAncestorLoop
  rw [if_neg (Nat.not_le.mpr hlen)]
  simp [ha, hb, hgt, Nat.not_lt.mpr hgt.le]

theorem commonAncestorLoop_level (heq : ba.height = bb.height) :
    commonAncestorLoop c (fuel + 1) length a b chainA chainB =
      if ba.prevBlock = zeroHash then .ret (none, a :: chainA, b :: chainB, some errAncestorAtGenesis)
      else if ba.prevBlock = bb.prevBlock then
        .ret (some ba.prevBlock, a :: chainA, b :: chainB, none)
      else
        commonAncestorLoop c fuel (length + 1) ba.prevBlock bb.prevBlock (a :: chainA) (b :: chainB) := by
  conv_lhs => unfold commonAncestorLoop
  rw [if_neg (Nat.not_le.mpr hlen)]
  simp [ha, hb, heq]

end Loop

/-! ## Ancestors -/

section Ancestors

variable (c : Client)

/-- The `n`-th ancestor of a block: its parent `n` times over.  A hash the node
does not know ends the walk. -/
def ancestor : Nat → String → String
  | 0, h => h
  | n + 1, h =>
    match c.getBlock h with
    | .ok b => ancestor n b.prevBlock
    | .error _ => h

/-- A block and its ancestors, `n` blocks from the block down. -/
def ancestors : Nat → String → List String
  | 0, _ => []
  | n + 1, h =>
    h :: match c.getBlock h with
      | .ok b => ancestors n b.prevBlock
      | .error _ => []

/-- The store is well formed: the parent of a block is in it, one height lower,
unless the block has the zero previous hash, which exactly the blocks of height
0 have. -/
structure WellFormed : Prop where
  parent : ∀ h b, c.getBlock h = .ok b → b.prevBlock ≠ zeroHash →
    ∃ p, c.getBlock b.prevBlock = .ok p ∧ p.height + 1 = b.height
  genesis : ∀ h b, c.getBlock h = .ok b → (b.height = 0 ↔ b.prevBlock = zeroHash)

variable {c} {h : String} {b : BlockHeader}

theorem ancestor_succ_of_ok (hb : c.getBlock h = .ok b) (n : Nat) :
    ancestor c (n + 1) h = ancestor c n b.prevBlock := by
  simp [ancestor, hb]

theorem ancestors_succ_of_ok (hb : c.getBlock h = .ok b) (n : Nat) :
    ancestors c (n + 1) h = h :: ancestors c n b.prevBlock := by
  simp [ancestors, hb]

@[simp] theorem ancestor_zero (h : String) : ancestor c 0 h = h := rfl

@[simp] theorem ancestors_zero (h : String) : ancestors c 0 h = [] := rfl

@[simp] theorem ancestors_one (h : String) : ancestors c 1 h = [h] := by
  simp only [ancestors]; split <;> rfl

theorem ancestor_add : ∀ (m n : Nat) (h : String),
    ancestor c (m + n) h = ancestor c n (ancestor c m h)
  | 0, n, h => by simp [ancestor]
  | m + 1, n, h => by
    cases hb : c.getBlock h with
    | error e =>
      have hstuck : ∀ k, ancestor c k h = h := fun k => by cases k <;> simp [ancestor, hb]
      rw [hstuck, hstuck, hstuck]
    | ok b =>
      rw [Nat.add_right_comm, ancestor_succ_of_ok hb, ancestor_succ_of_ok hb, ancestor_add m n]

/-- The parent of a block of positive height is in the store, one lower. -/
theorem WellFormed.parent_of_pos (wf : WellFormed c) (hb : c.getBlock h = .ok b)
    (hpos : 0 < b.height) : ∃ p, c.getBlock b.prevBlock = .ok p ∧ p.height + 1 = b.height :=
  wf.parent h b hb fun hz => by have := (wf.genesis h b hb).mpr hz; omega

/-- Walking back at most a block's height stays in the store. -/
theorem WellFormed.getBlock_ancestor (wf : WellFormed c) : ∀ (n : Nat) (h : String)
    (b : BlockHeader), c.getBlock h = .ok b → n ≤ b.height →
    ∃ p, c.getBlock (ancestor c n h) = .ok p ∧ p.height = b.height - n
  | 0, h, b, hb, _ => ⟨b, hb, rfl⟩
  | n + 1, h, b, hb, hn => by
    obtain ⟨p, hp, hph⟩ := wf.parent_of_pos hb (by omega)
    obtain ⟨q, hq, hqh⟩ := wf.getBlock_ancestor n b.prevBlock p hp (by omega)
    exact ⟨q, by rwa [ancestor_succ_of_ok hb], by omega⟩

theorem WellFormed.ancestors_add (wf : WellFormed c) : ∀ (m n : Nat) (h : String)
    (b : BlockHeader), c.getBlock h = .ok b → m ≤ b.height →
    ancestors c (m + n) h = ancestors c m h ++ ancestors c n (ancestor c m h)
  | 0, n, h, _, _, _ => by simp [ancestors, ancestor]
  | m + 1, n, h, b, hb, hm => by
    obtain ⟨p, hp, hph⟩ := wf.parent_of_pos hb (by omega)
    rw [Nat.add_right_comm, ancestors_succ_of_ok hb, ancestors_succ_of_ok hb,
      ancestor_succ_of_ok hb, wf.ancestors_add m n b.prevBlock p hp (by omega), List.cons_append]

end Ancestors

/-! ## What the spec asks for -/

section Spec

variable (c : Client)

/-- How far below two blocks of one height `h` their highest common ancestor
lies: the least `d`, `1 ≤ d ≤ h`, at which their `d`-th ancestors are one block,
if there is one. -/
def commonDepth (h : Nat) (a b : String) : Option Nat :=
  ((List.range h).find? fun i => ancestor c (i + 1) a = ancestor c (i + 1) b).map (· + 1)

/-- A walk of `n` iterations started at `length` ends with `r`, unless it
reaches `maxAncestorChainLength` first. -/
def withinBound (length n : Nat) (r : AncestorResult) : AncestorResult :=
  if length + n ≤ maxAncestorChainLength then r else (none, [], [], some errAncestorMaxChainLength)

/-- The result the spec describes for the tips `A` and `B`, of heights `hA`
and `hB`: the walk first brings the higher tip down to `min hA hB`, one
iteration a block, then takes one iteration per height down to just above the
highest common ancestor, whose hash it returns with the ancestors-or-self of
each tip above it, in increasing height.  Without a common ancestor it walks
down to genesis. -/
def commonAncestorSpec (A B : String) (hA hB : Nat) : AncestorResult :=
  let m := min hA hB
  let a := ancestor c (hA - m) A
  let b := ancestor c (hB - m) B
  match commonDepth c m a b with
  | some d => withinBound (hA - m + (hB - m)) d
      (some (ancestor c d a), (ancestors c (hA - m + d) A).reverse,
        (ancestors c (hB - m + d) B).reverse, none)
  | none => withinBound (hA - m + (hB - m)) (m + 1)
      (none, (ancestors c (hA + 1) A).reverse, (ancestors c (hB + 1) B).reverse,
        some errAncestorAtGenesis)

theorem commonDepth_succ (h : Nat) (a b : String) :
    commonDepth c (h + 1) a b =
      if ancestor c 1 a = ancestor c 1 b then some 1
      else (commonDepth c h (ancestor c 1 a) (ancestor c 1 b)).map (· + 1) := by
  have hshift : ∀ i x, ancestor c (i + 1 + 1) x = ancestor c (i + 1) (ancestor c 1 x) :=
    fun i x => by rw [← ancestor_add]; congr 1; omega
  by_cases h1 : ancestor c 1 a = ancestor c 1 b
  · simp [commonDepth, List.range_succ_eq_map, h1]
  · simp [commonDepth, List.range_succ_eq_map, h1, List.find?_map, Function.comp_def, hshift]

/-- `commonDepth` is the depth of the highest common ancestor: there the two
ancestors are one block, and at every smaller positive depth they differ. -/
theorem commonDepth_eq_some : ∀ {h d : Nat} {a b : String}, commonDepth c h a b = some d →
    1 ≤ d ∧ d ≤ h ∧ ancestor c d a = ancestor c d b ∧
      ∀ d', 1 ≤ d' → d' < d → ancestor c d' a ≠ ancestor c d' b
  | 0, _, _, _, hd => by simp [commonDepth] at hd
  | h + 1, d, a, b, hd => by
    rw [commonDepth_succ] at hd
    split at hd
    · cases hd
      exact ⟨le_rfl, by omega, ‹_›, fun d' h1 h2 => absurd h2 (by omega)⟩
    · obtain ⟨d0, hd0, rfl⟩ := Option.map_eq_some'.mp hd
      obtain ⟨h1, h2, heq, hne⟩ := commonDepth_eq_some hd0
      refine ⟨by omega, by omega, by rwa [Nat.add_comm, ancestor_add, ancestor_add], ?_⟩
      intro d' hd1 hd2
      obtain rfl | ⟨k, rfl, hk⟩ : d' = 1 ∨ ∃ k, d' = k + 1 ∧ 1 ≤ k := by
        rcases d' with _ | _ | k
        · omega
        · exact .inl rfl
        · exact .inr ⟨k + 1, rfl, by omega⟩
      · assumption
      · rw [Nat.add_comm, ancestor_add, ancestor_add]
        exact hne k hk (by omega)

end Spec

/-! ## The walk -/

theorem withinBound_succ (length n : Nat) (r : AncestorResult) :
    withinBound (length + 1) n r = withinBound length (n + 1) r := by
  simp only [withinBound, Nat.add_assoc, Nat.add_comm 1 n]

theorem withinBound_of_lt {length n : Nat} (h : maxAncestorChainLength < length + n)
    (r : AncestorResult) :
    withinBound length n r = (none, [], [], some errAncestorMaxChainLength) := by
  simp only [withinBound, if_neg (Nat.not_le.mpr h)]

theorem ancestor_one {c : Client} {h : String} {b : BlockHeader} (hb : c.getBlock h = .ok b) :
    ancestor c 1 h = b.prevBlock :=
  ancestor_succ_of_ok hb 0

section Walk

variable {c : Client} (wf : WellFormed c)
include wf

/-- The lock-step part of the walk, from two blocks of one height `h`: one
iteration a height, down to the highest common ancestor or to genesis. -/
theorem commonAncestorLoop_lockstep : ∀ (h fuel length : Nat) (a b : String)
    (ba bb : BlockHeader) (chainA chainB : List String),
    c.getBlock a = .ok ba → c.getBlock b = .ok bb → ba.height = h → bb.height = h →
    maxAncestorChainLength < length + fuel →
    commonAncestorLoop c fuel length a b chainA chainB = .ret
      (match commonDepth c h a b with
       | some d => withinBound length d
          (some (ancestor c d a), (ancestors c d a).reverse ++ chainA,
            (ancestors c d b).reverse ++ chainB, none)
       | none => withinBound length (h + 1)
          (none, (ancestors c (h + 1) a).reverse ++ chainA,
            (ancestors c (h + 1) b).reverse ++ chainB, some errAncestorAtGenesis))
  | h, fuel, length, a, b, ba, bb, chainA, chainB, ha, hb, hah, hbh, hfuel => by
    by_cases hlen : maxAncestorChainLength ≤ length
    · rw [commonAncestorLoop_bound c hlen]
      cases hd : commonDepth c h a b with
      | none => dsimp only; rw [withinBound_of_lt (by omega)]
      | some d => dsimp only; rw [withinBound_of_lt (by have := (commonDepth_eq_some c hd).1; omega)]
    obtain ⟨fuel, rfl⟩ : ∃ f, fuel = f + 1 := ⟨fuel - 1, by omega⟩
    rw [commonAncestorLoop_level c (Nat.lt_of_not_le hlen) ha hb (hah.trans hbh.symm)]
    match h, hah, hbh with
    | 0, hah, hbh =>
      rw [if_pos ((wf.genesis a ba ha).mp hah)]
      simp only [commonDepth, List.range_zero, List.find?_nil, Option.map_none', Nat.zero_add,
        withinBound, if_pos (show length + 1 ≤ maxAncestorChainLength by omega), ancestors_one,
        List.reverse_singleton, List.singleton_append]
    | h + 1, hah, hbh =>
      have hz : ba.prevBlock ≠ zeroHash := fun hz => by
        have := (wf.genesis a ba ha).mpr hz; omega
      obtain ⟨pa, hpa, hpah⟩ := wf.parent a ba ha hz
      obtain ⟨pb, hpb, hpbh⟩ := wf.parent_of_pos hb (by omega)
      rw [if_neg hz, commonDepth_succ, ancestor_one ha, ancestor_one hb]
      by_cases hp : ba.prevBlock = bb.prevBlock
      · rw [if_pos hp, if_pos hp]
        simp only [withinBound, if_pos (show length + 1 ≤ maxAncestorChainLength by omega),
          ancestor_one ha, ancestors_one, List.reverse_singleton, List.singleton_append]
      · rw [if_neg hp, if_neg hp, commonAncestorLoop_lockstep h fuel (length + 1) _ _ pa pb
          (a :: chainA) (b :: chainB) hpa hpb (by omega) (by omega) (by omega)]
        cases commonDepth c h ba.prevBlock bb.prevBlock with
        | none =>
          simp only [Option.map_none', withinBound_succ, ancestors_succ_of_ok ha (h + 1),
            ancestors_succ_of_ok hb (h + 1), List.reverse_cons, List.append_assoc,
            List.singleton_append]
        | some d =>
          simp only [Option.map_some', withinBound_succ, ancestor_succ_of_ok ha,
            ancestors_succ_of_ok ha, ancestors_succ_of_ok hb, List.reverse_cons, List.append_assoc,
            List.singleton_append]

/-- The first part of the walk when `a` is `n` blocks higher: `n` iterations
stepping `a` down, unless the bound comes first. -/
theorem commonAncestorLoop_descendA : ∀ (n fuel length : Nat) (a b : String)
    (ba bb : BlockHeader) (chainA chainB : List String),
    c.getBlock a = .ok ba → c.getBlock b = .ok bb → ba.height = bb.height + n →
    maxAncestorChainLength < length + fuel →
    commonAncestorLoop c fuel length a b chainA chainB =
      if length + n ≤ maxAncestorChainLength then
        commonAncestorLoop c (fuel - n) (length + n) (ancestor c n a) b
          ((ancestors c n a).reverse ++ chainA) chainB
      else .ret (none, [], [], some errAncestorMaxChainLength)
  | 0, fuel, length, a, b, _, _, chainA, chainB, _, _, _, _ => by
    split
    · simp
    · exact commonAncestorLoop_bound c (by omega)
  | n + 1, fuel, length, a, b, ba, bb, chainA, chainB, ha, hb, hh, hfuel => by
    by_cases hlen : maxAncestorChainLength ≤ length
    · rw [commonAncestorLoop_bound c hlen, if_neg (by omega)]
    obtain ⟨fuel, rfl⟩ : ∃ f, fuel = f + 1 := ⟨fuel - 1, by omega⟩
    obtain ⟨p, hp, hph⟩ := wf.parent_of_pos ha (by omega)
    rw [commonAncestorLoop_stepA c (Nat.lt_of_not_le hlen) ha hb (by omega),
      commonAncestorLoop_descendA n fuel (length + 1) _ b p bb _ chainB hp hb (by omega) (by omega),
      ancestor_succ_of_ok ha, ancestors_succ_of_ok ha, Nat.add_sub_add_right,
      show length + 1 + n = length + (n + 1) by omega]
    simp only [List.reverse_cons, List.append_assoc, List.singleton_append]

/-- The same when `b` is `n` blocks higher. -/
theorem commonAncestorLoop_descendB : ∀ (n fuel length : Nat) (a b : String)
    (ba bb : BlockHeader) (chainA chainB : List String),
    c.getBlock a = .ok ba → c.getBlock b = .ok bb → bb.height = ba.height + n →
    maxAncestorChainLength < length + fuel →
    commonAncestorLoop c fuel length a b chainA chainB =
      if length + n ≤ maxAncestorChainLength then
        commonAncestorLoop c (fuel - n) (length + n) a (ancestor c n b) chainA
          ((ancestors c n b).reverse ++ chainB)
      else .ret (none, [], [], some errAncestorMaxChainLength)
  | 0, fuel, length, a, b, _, _, chainA, chainB, _, _, _, _ => by
    split
    · simp
    · exact commonAncestorLoop_bound c (by omega)
  | n + 1, fuel, length, a, b, ba, bb, chainA, chainB, ha, hb, hh, hfuel => by
    by_cases hlen : maxAncestorChainLength ≤ length
    · rw [commonAncestorLoop_bound c hlen, if_neg (by omega)]
    obtain ⟨fuel, rfl⟩ : ∃ f, fuel = f + 1 := ⟨fuel - 1, by omega⟩
    obtain ⟨p, hp, hph⟩ := wf.parent_of_pos hb (by omega)
    rw [commonAncestorLoop_stepB c (Nat.lt_of_not_le hlen) ha hb (by omega),
      commonAncestorLoop_descendB n fuel (length + 1) a _ ba p chainA _ ha hp (by omega) (by omega),
      ancestor_succ_of_ok hb, ancestors_succ_of_ok hb, Nat.add_sub_add_right,
      show length + 1 + n = length + (n + 1) by omega]
    simp only [List.reverse_cons, List.append_assoc, List.singleton_append]

/-- **`CommonAncestor` meets its spec** for any two blocks of a well-formed
store. -/
theorem commonAncestor_eq_spec {A B : String} {bA bB : BlockHeader}
    (hA : c.getBlock A = .ok bA) (hB : c.getBlock B = .ok bB) :
    commonAncestor (some c) A B = .ret (commonAncestorSpec c A B bA.height bB.height) := by
  simp only [commonAncestor]
  rcases le_total bB.height bA.height with hle | hle
  · obtain ⟨n, hn⟩ : ∃ n, bA.height = bB.height + n := ⟨bA.height - bB.height, by omega⟩
    rw [commonAncestorLoop_descendA wf n _ 0 A B bA bB [] [] hA hB hn (by omega)]
    simp only [commonAncestorSpec, hn, Nat.min_eq_right (Nat.le_add_right _ _),
      Nat.add_sub_cancel_left, Nat.sub_self, Nat.zero_add, Nat.add_zero, ancestor_zero,
      List.append_nil]
    split_ifs with hbound
    · obtain ⟨a', ha', ha'h⟩ := wf.getBlock_ancestor n A bA hA (by omega)
      rw [commonAncestorLoop_lockstep wf bB.height _ n _ B a' bB _ [] ha' hB (by omega) rfl
        (by omega)]
      split
      · rw [wf.ancestors_add n _ A bA hA (by omega), List.reverse_append]
        simp only [List.append_nil]
      · rw [show bB.height + n + 1 = n + (bB.height + 1) by omega,
          wf.ancestors_add n _ A bA hA (by omega), List.reverse_append]
        simp only [List.append_nil]
    · split <;> rw [withinBound_of_lt (by omega)]
  · obtain ⟨n, hn⟩ : ∃ n, bB.height = bA.height + n := ⟨bB.height - bA.height, by omega⟩
    rw [commonAncestorLoop_descendB wf n _ 0 A B bA bB [] [] hA hB hn (by omega)]
    simp only [commonAncestorSpec, hn, Nat.min_eq_left (Nat.le_add_right _ _),
      Nat.add_sub_cancel_left, Nat.sub_self, Nat.zero_add, Nat.add_zero, ancestor_zero,
      List.append_nil]
    split_ifs with hbound
    · obtain ⟨b', hb', hb'h⟩ := wf.getBlock_ancestor n B bB hB (by omega)
      rw [commonAncestorLoop_lockstep wf bA.height _ n A _ bA b' [] _ hA hb' rfl (by omega)
        (by omega)]
      split
      · rw [wf.ancestors_add n _ B bB hB (by omega), List.reverse_append]
        simp only [List.append_nil]
      · rw [show bA.height + n + 1 = n + (bA.height + 1) by omega,
          wf.ancestors_add n _ B bB hB (by omega), List.reverse_append]
        simp only [List.append_nil]
    · split <;> rw [withinBound_of_lt (by omega)]

end Walk

/-- Two children of a genesis block: their ancestor is the genesis block. -/
theorem commonAncestor_eq_spec_fork :
    let c : Client := ⟨fun h => if h = "g" then .ok ⟨0, zeroHash⟩
      else if h = "a1" ∨ h = "b1" then .ok ⟨1, "g"⟩ else .error "block not found"⟩
    WellFormed c ∧ commonAncestor (some c) "a1" "b1" = .ret (some "g", ["a1"], ["b1"], none) := by
  intro c
  have wf : WellFormed c := by
    constructor
    · intro h b hb hz
      simp only [c] at hb
      split_ifs at hb <;> cases hb
      · exact absurd rfl hz
      · exact ⟨⟨0, zeroHash⟩, rfl, rfl⟩
    · intro h b hb
      simp only [c] at hb
      split_ifs at hb <;> cases hb <;> decide
  have hA : c.getBlock "a1" = .ok ⟨1, "g"⟩ := rfl
  have hB : c.getBlock "b1" = .ok ⟨1, "g"⟩ := rfl
  exact ⟨wf, (commonAncestor_eq_spec wf hA hB).trans (by decide)⟩

end HcData.RpcUtils
