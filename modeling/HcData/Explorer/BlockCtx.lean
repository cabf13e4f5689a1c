import Mathlib.Algebra.Order.Ring.Int
import Mathlib.Data.Nat.Digits
import HcData.Basic

/-!
# Request contexts of the explorer's routes

The explorer's middlewares store values of a request under the package's
`contextKey`s, and getters read them back with type assertions.
`BlockHashPathOrIndexCtx` resolves a block path, a height or a hash, to both and
stores them under `ctxBlockHash` and `ctxBlockIndex`.  The height is an `int64`,
and `getBlockHeightCtx` asserts an `int`, which never holds: along any chain of
this file's middlewares that hands a request on, `getBlockHeightCtx` reads -1,
even after the block middleware has stored a height, and `getBlockHashCtx` reads
the hash it stored (`serveChain_blockCtx`).

A request context starts with none of the package's keys: the type is
unexported, so only this package stores under it.

The page for a block that is not found shows the path when it is a hash, and
for a height `string(height)`, a conversion to the one character with that
code point, never the height's digits (`blockHashPathOrIndexCtx_notFound`).
-/

namespace HcData.Explorer

/-- `contextKey`, numbered by `iota` in this order. -/
inductive ContextKey where
  | ctxSearch | ctxBlockIndex | ctxBlockHash | ctxTxHash
  | ctxTxInOut | ctxTxInOutId | ctxAddress | ctxAgendaId
  deriving DecidableEq, Repr

/-- A value in a context, with its dynamic type. -/
inductive CtxValue where
  | string (s : String)
  | int (n : Int)
  | int64 (n : Int)
  deriving DecidableEq, Repr

/-- The values `context.WithValue` added to a request's context under the
package's keys, the latest first; `Value` finds the latest. -/
abbrev Ctx := List (ContextKey × CtxValue)

/-- `context.WithValue(ctx, key, v)`. -/
def withValue (ctx : Ctx) (key : ContextKey) (v : CtxValue) : Ctx := (key, v) :: ctx

/-- `ctx.Value(key)`: the value of the latest `WithValue` under `key`. -/
def ctxValue : Ctx → ContextKey → Option CtxValue
  | [], _ => none
  | (k, v) :: parent, key => if k = key then some v else ctxValue parent key

@[simp] theorem ctxValue_withValue (ctx : Ctx) (k key : ContextKey) (v : CtxValue) :
    ctxValue (withValue ctx k v) key = if k = key then some v else ctxValue ctx key := rfl

/-- `ctx.Value(key).(string)`, or `""` when the assertion fails. -/
def stringValue (ctx : Ctx) (key : ContextKey) : String :=
  match ctxValue ctx key with
  | some (.string s) => s
  | _ => ""

def getBlockHashCtx (ctx : Ctx) : String := stringValue ctx .ctxBlockHash

def getAgendaIDCtx (ctx : Ctx) : String := stringValue ctx .ctxAgendaId

/-- `getBlockHeightCtx` asserts an `int`, and gives -1 when that fails. -/
def getBlockHeightCtx (ctx : Ctx) : Int :=
  match ctxValue ctx .ctxBlockIndex with
  | some (.int idx) => idx
  | _ => -1

/-- `strconv.ParseInt(s, 10, 0)` on a 64-bit platform: an optional sign, then
decimal digits, in the range of `int64`. -/
def parseInt64 (s : String) : Option Int :=
  let (neg, digits) : Bool × List Char :=
    match s.toList with
    | '+' :: ds => (false, ds)
    | '-' :: ds => (true, ds)
    | ds => (false, ds)
  if digits.isEmpty || !digits.all Char.isDigit then none
  else
    let n : Int := digits.foldl (fun acc c => 10 * acc + (c.toNat - 48 : Nat)) 0
    let v := if neg then -n else n
    if -2 ^ 63 ≤ v ∧ v < 2 ^ 63 then some v else none

/-- Go's `string(n)` of an integer: the character with that code point, or
U+FFFD when there is none. -/
def goRuneString (n : Int) : String :=
  if 0 ≤ n ∧ (n < 0xD800 ∨ (0xDFFF < n ∧ n < 0x110000)) then String.singleton (Char.ofNat n.toNat)
  else String.singleton (Char.ofNat 0xFFFD)

/-- The `ExpStatus` values of the pages these middlewares write. -/
inductive ExpStatus where
  | notFound | error | futureBlock | syncing
  deriving DecidableEq, Repr

/-- The code argument of `StatusPage`: the package's `defaultErrorCode`, or a
text. -/
inductive PageCode where
  | defaultErrorCode
  | text (s : String)
  deriving DecidableEq, Repr

/-- A `StatusPage` call's arguments. -/
structure StatusPage where
  code : PageCode
  message : String
  additionalInfo : String
  sType : ExpStatus
  deriving DecidableEq, Repr

/-- What a middleware does with a request: write a status page, the timeout
page, the API's answer during a sync, or hand it on with a context. -/
inductive Served where
  | page (p : StatusPage)
  | timeoutPage
  | apiOnSync
  | next (ctx : Ctx)
  deriving DecidableEq, Repr

/-- What `BlockHashPathOrIndexCtx` asks of the explorer: the mode, the block
height and hash lookups of the base data and of the explorer source, the best
heights, the target block time in nanoseconds, the errors `timeoutErrorPage`
answers, and `time.Duration`'s `%v`. -/
structure BlockCtxSource where
  liteMode : Bool
  getBlockHeight : String → Except String Int
  blockHeight : String → Except String Int
  getHeight : Int
  heightDB : Except String Int
  getBlockHash : Int → Except String String
  blockHash : Int → Except String String
  targetTimePerBlock : Int
  isTimeout : String → Bool
  durationString : Int → String

/-- The two `context.WithValue` calls that end `BlockHashPathOrIndexCtx`. -/
def storeBlock (ctx : Ctx) (hash : String) (height : Int) : Ctx :=
  withValue (withValue ctx .ctxBlockHash (.string hash)) .ctxBlockIndex (.int64 height)

/-- The page for a block that could not be found. -/
def blockNotFound (info : String) : Served :=
  .page ⟨.defaultErrorCode, "could not find that block", info, .notFound⟩

def blockHashPathOrIndexCtx (exp : BlockCtxSource) (blockhash : String) (ctx : Ctx) : Served :=
  match parseInt64 blockhash with
  | none =>
    let hash := blockhash
    match (if exp.liteMode then exp.getBlockHeight hash else exp.blockHeight hash) with
    | .error e => if exp.isTimeout e then .timeoutPage else blockNotFound hash
    | .ok height => .next (storeBlock ctx hash height)
  | some height =>
    match (if exp.liteMode then .ok exp.getHeight else exp.heightDB) with
    | .error _ =>
      .page ⟨.defaultErrorCode,
        "an unexpected error had occured while retrieving the best block", "", .error⟩
    | .ok maxHeight =>
      if height > maxHeight then
        let expectedTime := wrapInt64 (wrapInt64 (height - maxHeight) * exp.targetTimePerBlock)
        .page ⟨.defaultErrorCode,
          "This block is expected to arrive in approximately in " ++
            exp.durationString expectedTime ++ ". ",
          goRuneString expectedTime, .futureBlock⟩
      else
        let found : Except String String :=
          match exp.getBlockHash height with
          | .ok hash => .ok hash
          | .error e => if exp.liteMode then .error e else exp.blockHash height
        match found with
        | .ok hash => .next (storeBlock ctx hash height)
        | .error _ => blockNotFound (goRuneString height)

/-- The middlewares that store URL parameters, each under its own key. -/
def storeParams (ctx : Ctx) (params : List (ContextKey × String)) : Ctx :=
  params.foldl (fun ctx kv => withValue ctx kv.1 (.string kv.2)) ctx

def transactionHashCtx (txid : String) (ctx : Ctx) : Ctx :=
  storeParams ctx [(.ctxTxHash, txid)]

def transactionIoIndexCtx (inout inoutid : String) (ctx : Ctx) : Ctx :=
  storeParams ctx [(.ctxTxInOut, inout), (.ctxTxInOutId, inoutid)]

def addressPathCtx (address : String) (ctx : Ctx) : Ctx :=
  storeParams ctx [(.ctxAddress, address)]

def agendaPathCtx (agendaid : String) (ctx : Ctx) : Ctx :=
  storeParams ctx [(.ctxAgendaId, agendaid)]

/-- A middleware of this file, with its URL parameters and, for the sync
pages, `DisplaySyncStatusPage()`. -/
inductive Middleware where
  | blockHashPathOrIndex (exp : BlockCtxSource) (blockhash : String)
  | transactionHash (txid : String)
  | transactionIoIndex (inout inoutid : String)
  | addressPath (address : String)
  | agendaPath (agendaid : String)
  | syncStatusPageActivation (display : Bool)
  | syncStatusApiResponse (display : Bool)

def Middleware.serve : Middleware → Ctx → Served
  | .blockHashPathOrIndex exp blockhash, ctx => blockHashPathOrIndexCtx exp blockhash ctx
  | .transactionHash txid, ctx => .next (transactionHashCtx txid ctx)
  | .transactionIoIndex inout inoutid, ctx => .next (transactionIoIndexCtx inout inoutid ctx)
  | .addressPath address, ctx => .next (addressPathCtx address ctx)
  | .agendaPath agendaid, ctx => .next (agendaPathCtx agendaid ctx)
  | .syncStatusPageActivation display, ctx =>
    if display then
      .page ⟨.text "Database Update Running. Please Wait...",
        "Blockchain sync is running. Please wait ...", "", .syncing⟩
    else .next ctx
  | .syncStatusApiResponse display, ctx => if display then .apiOnSync else .next ctx

/-- A route's middlewares, each handing the request on to the next. -/
def serveChain : List Middleware → Ctx → Served
  | [], ctx => .next ctx
  | m :: ms, ctx =>
    match m.serve ctx with
    | .next ctx' => serveChain ms ctx'
    | other => other

/-! ## What the block keys hold along a chain -/

/-- What the block keys of a context hold: any block index is an `int64`, and
once the block middleware has run, both keys hold a value of its types. -/
structure BlockKeys (ran : Bool) (ctx : Ctx) : Prop where
  index_int64 : ∀ v, ctxValue ctx .ctxBlockIndex = some v → ∃ n, v = .int64 n
  stored : ran → (∃ n, ctxValue ctx .ctxBlockIndex = some (.int64 n)) ∧
    ∃ hash, ctxValue ctx .ctxBlockHash = some (.string hash)

theorem ctxValue_storeParams (ctx : Ctx) (params : List (ContextKey × String)) (key : ContextKey)
    (hkey : ∀ kv ∈ params, kv.1 ≠ key) : ctxValue (storeParams ctx params) key = ctxValue ctx key := by
  induction params generalizing ctx with
  | nil => rfl
  | cons kv rest ih =>
    rw [storeParams, List.foldl_cons, ← storeParams,
      ih _ fun p hp => hkey p (List.mem_cons_of_mem _ hp)]
    simp [hkey kv (List.mem_cons_self _ _)]

theorem BlockKeys.storeBlock {ran : Bool} {ctx : Ctx} (_ : BlockKeys ran ctx) (hash : String)
    (height : Int) : BlockKeys true (storeBlock ctx hash height) := by
  constructor <;> simp [HcData.Explorer.storeBlock]

theorem BlockKeys.storeParams {ran : Bool} {ctx : Ctx} (h : BlockKeys ran ctx)
    (params : List (ContextKey × String))
    (hkey : ∀ kv ∈ params, kv.1 ≠ .ctxBlockIndex ∧ kv.1 ≠ .ctxBlockHash) :
    BlockKeys ran (HcData.Explorer.storeParams ctx params) := by
  have hi := ctxValue_storeParams ctx params _ fun kv hkv => (hkey kv hkv).1
  have hh := ctxValue_storeParams ctx params _ fun kv hkv => (hkey kv hkv).2
  exact ⟨hi ▸ h.index_int64, hi ▸ hh ▸ h.stored⟩

/-- The block middleware is the only one that writes the block keys. -/
def Middleware.isBlock : Middleware → Bool
  | .blockHashPathOrIndex _ _ => true
  | _ => false

/-- One middleware that hands the request on keeps `BlockKeys`, and records
that the block middleware ran. -/
theorem BlockKeys.serve {ran : Bool} {ctx ctx' : Ctx} (h : BlockKeys ran ctx) (m : Middleware)
    (hm : m.serve ctx = .next ctx') : BlockKeys (ran || m.isBlock) ctx' := by
  cases m with
  | blockHashPathOrIndex exp blockhash =>
    simp only [Middleware.serve, blockHashPathOrIndexCtx] at hm
    simp only [Middleware.isBlock, Bool.or_true]
    repeat' split at hm
    all_goals first
      | (cases hm; exact h.storeBlock _ _)
      | simp [blockNotFound] at hm
  | transactionHash | transactionIoIndex | addressPath | agendaPath =>
    simp only [Middleware.serve, Served.next.injEq] at hm
    subst hm
    simp only [Middleware.isBlock, Bool.or_false]
    refine h.storeParams _ ?_
    simp
  | syncStatusPageActivation display | syncStatusApiResponse display =>
    cases display <;> simp [Middleware.serve] at hm
    subst hm
    simpa [Middleware.isBlock] using h

theorem BlockKeys.serveChain {ran : Bool} {ctx ctx' : Ctx} (h : BlockKeys ran ctx) :
    ∀ ms : List Middleware, HcData.Explorer.serveChain ms ctx = .next ctx' →
      BlockKeys (ran || ms.any Middleware.isBlock) ctx'
  | [], hs => by cases hs; simpa using h
  | m :: ms, hs => by
    simp only [HcData.Explorer.serveChain] at hs
    cases hm : m.serve ctx with
    | next ctx'' =>
      rw [hm] at hs
      simpa [Bool.or_assoc] using (h.serve m hm).serveChain ms hs
    | page _ | timeoutPage | apiOnSync => rw [hm] at hs; cases hs

/-- Along any chain of these middlewares that hands a request on,
`getBlockHeightCtx` reads -1, though once `BlockHashPathOrIndexCtx` has run the
context holds the height it resolved; `getBlockHashCtx` reads the hash it
stored. -/
theorem serveChain_blockCtx (ms : List Middleware) {ctx : Ctx}
    (h : serveChain ms [] = .next ctx) :
    getBlockHeightCtx ctx = -1 ∧
      (ms.any Middleware.isBlock = true →
        (∃ height, ctxValue ctx .ctxBlockIndex = some (.int64 height)) ∧
        ∃ hash, ctxValue ctx .ctxBlockHash = some (.string hash) ∧ getBlockHashCtx ctx = hash) := by
  have hk : BlockKeys (ms.any Middleware.isBlock) ctx := by
    simpa using @BlockKeys.serveChain false [] ctx ⟨fun _ hv => (nomatch hv), nofun⟩ ms h
  refine ⟨?_, fun hb => ?_⟩
  · unfold getBlockHeightCtx
    split
    · rename_i idx hidx
      obtain ⟨n, hn⟩ := hk.index_int64 _ hidx
      cases hn
    · rfl
  · obtain ⟨hi, hash, hh⟩ := hk.stored hb
    exact ⟨hi, hash, hh, by simp [getBlockHashCtx, stringValue, hh]⟩

/-! ## The not-found page -/

theorem one_le_length_toDigitsCore (f n : Nat) : 1 ≤ (Nat.toDigitsCore 10 (f + 1) n []).length := by
  simp only [Nat.toDigitsCore]
  split
  · simp
  · rw [Nat.toDigitsCore_lens_eq]; omega

/-- A number of ten or more has at least two decimal digits. -/
theorem two_le_length_toDigitsCore (f n : Nat) (hn : 10 ≤ n) :
    2 ≤ (Nat.toDigitsCore 10 (f + 2) n []).length := by
  have hdiv : n / 10 ≠ 0 := by omega
  simp only [Nat.toDigitsCore, hdiv, if_false]
  split
  · simp
  · rw [Nat.toDigitsCore_lens_eq, Nat.toDigitsCore_lens_eq]; omega

theorem length_goRuneString (n : Int) : (goRuneString n).length = 1 := by
  unfold goRuneString; split <;> rfl

/-- `string(n)` is never the decimal text of `n`. -/
theorem goRuneString_ne_toString (n : Int) : goRuneString n ≠ toString n := by
  intro h
  have hlen := congrArg String.length h
  rw [length_goRuneString] at hlen
  rcases n with k | m
  · by_cases hk : k < 10
    · interval_cases k <;> revert h <;> decide
    · obtain ⟨f, rfl⟩ : ∃ f, k = f + 10 := ⟨k - 10, by omega⟩
      have := two_le_length_toDigitsCore (f + 9) (f + 10) (by omega)
      change 1 = (Nat.toDigitsCore 10 (f + 9 + 2) (f + 10) []).length at hlen
      omega
  · have := one_le_length_toDigitsCore (m + 1) (m + 1)
    change 1 = ("-" ++ Nat.repr (m + 1)).length at hlen
    rw [String.length_append] at hlen
    change 1 = 1 + (Nat.toDigitsCore 10 (m + 1 + 1) (m + 1) []).length at hlen
    omega

/-- Every not-found page of `BlockHashPathOrIndexCtx` shows the path when it
is not a height, and when it is, never the height's decimal text. -/
theorem blockHashPathOrIndexCtx_notFound {exp : BlockCtxSource} {blockhash : String} {ctx : Ctx}
    {p : StatusPage} (h : blockHashPathOrIndexCtx exp blockhash ctx = .page p)
    (hnf : p.sType = .notFound) :
    (parseInt64 blockhash = none → p.additionalInfo = blockhash) ∧
      ∀ height, parseInt64 blockhash = some height → p.additionalInfo ≠ toString height := by
  unfold blockHashPathOrIndexCtx at h
  cases hparse : parseInt64 blockhash with
  | none =>
    refine ⟨fun _ => ?_, fun _ h' => (nomatch h')⟩
    simp only [hparse] at h
    repeat' split at h
    all_goals first | (cases h; done) | (cases h; rfl)
  | some height =>
    refine ⟨fun h' => (nomatch h'), fun height' h' => ?_⟩
    cases h'
    simp only [hparse] at h
    repeat' split at h
    all_goals first
      | (cases h; done)
      | (cases h; cases hnf; done)
      | (cases h; exact goRuneString_ne_toString height)

/-- Lite mode at best height 100, where every height has the hash `00ab`. -/
def liteSource : BlockCtxSource :=
  ⟨true, fun _ => .error "unknown block", fun _ => .error "unknown block", 100, .ok 100,
    fun _ => .ok "00ab", fun _ => .error "unknown block", 300000000000, fun _ => false, fun _ => ""⟩

/-- The path `42` after the sync page check: the height 42 is stored, and read
as -1. -/
theorem serveChain_blockCtx_height42 :
    getBlockHeightCtx (storeBlock [] "00ab" 42) = -1 ∧
      ([Middleware.syncStatusPageActivation false, .blockHashPathOrIndex liteSource "42"].any
          Middleware.isBlock = true →
        (∃ height, ctxValue (storeBlock [] "00ab" 42) .ctxBlockIndex = some (.int64 height)) ∧
        ∃ hash, ctxValue (storeBlock [] "00ab" 42) .ctxBlockHash = some (.string hash) ∧
          getBlockHashCtx (storeBlock [] "00ab" 42) = hash) :=
  serveChain_blockCtx _ rfl

/-- Lite mode at best height 100 with no hash for any height. -/
def hashlessSource : BlockCtxSource :=
  { liteSource with getBlockHash := fun _ => .error "no hash" }

/-- The not-found page for height 42 shows `*`, the character U+002A. -/
theorem blockHashPathOrIndexCtx_notFound_42 :
    ((parseInt64 "42" = none → "*" = "42") ∧
      ∀ height, parseInt64 "42" = some height → "*" ≠ toString height) :=
  @blockHashPathOrIndexCtx_notFound hashlessSource "42" []
    ⟨.defaultErrorCode, "could not find that block", "*", .notFound⟩ rfl rfl

end HcData.Explorer
