import Mathlib.Algebra.Order.Ring.Int
import Mathlib.Data.List.GetD
import HcData.Basic

/-!
# Chain work and the rolling hashrate

`retrieveChainWork` reads the `(time, chainwork)` rows of the main chain in height
order and builds two charts at once: the chain work of every block, in exahashes,
and the network hashrate, in terahashes per second.  The work is a hex string that
`big.Int.SetString(_, 16)` parses.  The last `averagingLength = 120` points are kept
in the ring `points`, the point of row `idx` in slot `idx % 120`; from row 120 on,
each new point is compared with slot `(idx % 120 + 1) % 120`, and the work between
the two over the seconds between them is the rate.

The ring is read correctly: it never yields a slot that was not written (whose nil
`work` would make `Sub` panic), and the slot it yields holds the point 119 rows
back.  `retrieveChainWork_eq_spec` proves the loop equal, for every answer of the
database, to `retrieveChainWorkSpec`, which keeps the whole history and indexes it
directly.  The code's comment calls that point "averagingLength blocks ago"; it is
one block nearer, so each window spans 119 block intervals.  The charts of a run
with no failure follow in closed form (`retrieveChainWork_charts`), and so does
the panic of `big.Int.Div` on a window of zero seconds
(`retrieveChainWork_zero_window_panics`).

Times are whole seconds; `time.Duration` saturating past 292 years is left out.
-/

namespace HcData.Pg

/-! ## `math/big` -/

/-- The value of a character as a base-16 digit of `nat.scan`; any other
character ends the digits. -/
def hexDigitValue (c : Char) : Option Nat :=
  if '0' ≤ c ∧ c ≤ '9' then some (c.toNat - '0'.toNat)
  else if 'a' ≤ c ∧ c ≤ 'f' then some (c.toNat - 'a'.toNat + 10)
  else if 'A' ≤ c ∧ c ≤ 'F' then some (c.toNat - 'A'.toNat + 10)
  else none

/-- The base-16 digits `cs`, most significant first, read on top of `acc`;
`none` when a character is not a digit. -/
def hexDigits : List Char → Nat → Option Nat
  | [], acc => some acc
  | c :: cs, acc => (hexDigitValue c).bind fun d => hexDigits cs (16 * acc + d)

/-- The magnitude after the sign: one digit or more (`errNoDigits` otherwise),
and nothing after them (`SetString` wants `io.EOF`). -/
def hexMagnitude : List Char → Option Nat
  | [] => none
  | cs => hexDigits cs 0

/-- `(*big.Int).SetString(s, 16)`: an optional `-` or `+`, then the magnitude;
`ok = false` is `none`. -/
def setStringHex (s : String) : Option Int :=
  match s.toList with
  | '-' :: cs => (hexMagnitude cs).map fun n => -(n : Int)
  | '+' :: cs => (hexMagnitude cs).map Int.ofNat
  | cs => (hexMagnitude cs).map Int.ofNat

/-- The message `nat.div` panics with when the divisor is zero. -/
def errDivisionByZero : String := "division by zero"

/-- `(*big.Int).Div`: Euclidean division, as Lean's `/` on `Int`, and a panic
when the divisor is zero. -/
def bigDiv (x y : Int) : Outcome Int :=
  if y = 0 then .panic errDivisionByZero else .ret (x / y)

/-- `(*big.Int).IsUint64`. -/
def isUint64 (x : Int) : Bool := 0 ≤ x && x < 2 ^ 64

/-! ## The charts -/

/-- The fields of `dbtypes.ChartsData` that `retrieveChainWork` fills: `Time`
(seconds), `ChainWork` and `NetHash`. -/
structure ChartsData where
  time : List Int
  chainWork : List Nat
  netHash : List Nat
  deriving DecidableEq, Repr

namespace ChartsData

/-- `new(dbtypes.ChartsData)`: every slice nil. -/
def empty : ChartsData := ⟨[], [], []⟩

/-- The two appends of a work point. -/
def appendChainWork (d : ChartsData) (exawork : Nat) (blocktime : Int) : ChartsData :=
  { d with chainWork := d.chainWork ++ [exawork], time := d.time ++ [blocktime] }

/-- The two appends of a hashrate point. -/
def appendNetHash (d : ChartsData) (rate : Nat) (t : Int) : ChartsData :=
  { d with time := d.time ++ [t], netHash := d.netHash ++ [rate] }

end ChartsData

/-! ## The rows loop

Each row of `rows.Next()` is scanned: a scan error returns it with no charts.
A scanned row is one step, which goes on with a new state, breaks with the charts
built so far, or panics.  Both levels below share this loop. -/

/-- The loop over the query's rows, for a step on states `σ` and the charts a
state holds. -/
def rowsLoop {σ : Type} (step : σ → Int × String → Outcome (σ ⊕ (ChartsData × ChartsData)))
    (charts : σ → ChartsData × ChartsData) :
    List (Except String (Int × String)) → σ → Outcome (Except String (ChartsData × ChartsData))
  | [], s => .ret (.ok (charts s))
  | .error e :: _, _ => .ret (.error e)
  | .ok r :: rows, s =>
    (step s r).bind fun
      | .inl s' => rowsLoop step charts rows s'
      | .inr res => .ret (.ok res)

/-- A loop whose states map into another loop's states, one step onto one step,
runs as that loop does. -/
theorem rowsLoop_map {σ τ : Type} {step₁ : σ → Int × String → Outcome (σ ⊕ (ChartsData × ChartsData))}
    {step₂ : τ → Int × String → Outcome (τ ⊕ (ChartsData × ChartsData))}
    {charts₁ : σ → ChartsData × ChartsData} {charts₂ : τ → ChartsData × ChartsData} (f : τ → σ)
    (hstep : ∀ t r, step₁ (f t) r = (step₂ t r).map (Sum.map f id))
    (hcharts : ∀ t, charts₁ (f t) = charts₂ t) :
    ∀ rows t, rowsLoop step₁ charts₁ rows (f t) = rowsLoop step₂ charts₂ rows t
  | [], t => by simp only [rowsLoop, hcharts]
  | .error _ :: _, _ => rfl
  | .ok r :: rows, t => by
    simp only [rowsLoop, hstep]
    rcases step₂ t r with (_ | _) | _ | _ <;> simp only [Outcome.map, Outcome.bind, Sum.map_inl,
      Sum.map_inr, id, rowsLoop_map f hstep hcharts rows]

/-! ## The code: a ring of 120 points -/

/-- `averagingLength`, the blocks a hashrate is averaged over. -/
def averagingLength : Nat := 120

/-- `bigExa`, 10^18. -/
def bigExa : Int := 10 ^ 18

/-- `bigTera`, 10^12. -/
def bigTera : Int := 10 ^ 12

/-- `chainWorkPt`: a block's work and time. -/
structure ChainWorkPt where
  work : Int
  time : Int
  deriving DecidableEq, Repr

/-- The loop's variables: the two charts, the ring `points` (`none` is a slot
not yet written, whose `work` is nil) and the row number `idx`. -/
structure ChainWorkState where
  workdata : ChartsData
  hashrates : ChartsData
  points : List (Option ChainWorkPt)
  idx : Nat

/-- The state before the first row: `points := make([]chainWorkPt, averagingLength)`. -/
def chainWorkInit : ChainWorkState :=
  ⟨.empty, .empty, List.replicate averagingLength none, 0⟩

/-- One pass of the `for rows.Next()` body after its `Scan`. -/
def chainWorkStep (st : ChainWorkState) :
    Int × String → Outcome (ChainWorkState ⊕ (ChartsData × ChartsData))
  | (blocktime, workhex) =>
    match setStringHex workhex with
    | none => .ret (.inr (st.workdata, st.hashrates))
    | some bigwork =>
      let exawork := bigwork / bigExa
      if !isUint64 exawork then .ret (.inr (st.workdata, st.hashrates)) else
      let workdata := st.workdata.appendChainWork exawork.toNat blocktime
      let workingIdx := st.idx % averagingLength
      let points := st.points.set workingIdx (some ⟨bigwork, blocktime⟩)
      if averagingLength ≤ st.idx then
        let lastIdx := (workingIdx + 1) % averagingLength
        match points.getD lastIdx none, points.getD workingIdx none with
        | some lastPt, some thisPt =>
          (bigDiv (thisPt.work - lastPt.work) (thisPt.time - lastPt.time)).bind fun rate =>
            let rate := rate / bigTera
            if !isUint64 rate then .ret (.inr (workdata, st.hashrates))
            else .ret (.inl ⟨workdata, st.hashrates.appendNetHash rate.toNat thisPt.time,
              points, st.idx + 1⟩)
        | _, _ => .panic errNilDereference
      else .ret (.inl ⟨workdata, st.hashrates, points, st.idx + 1⟩)

/-- `retrieveChainWork`: the answer of `db.Query(internal.SelectChainWork)`, an
error or the rows, each scanned or a scan error. -/
def retrieveChainWork (query : Except String (List (Except String (Int × String)))) :
    Outcome (Except String (ChartsData × ChartsData)) :=
  match query with
  | .error e => .ret (.error e)
  | .ok rows => rowsLoop chainWorkStep (fun st => (st.workdata, st.hashrates)) rows chainWorkInit

/-! ## The plain form: the whole history

`retrieveChainWorkSpec` keeps every point read so far and takes the window's
first point from that history by its row number. -/

/-- The plain loop's variables: the two charts and every point read. -/
structure ChainWorkHist where
  workdata : ChartsData
  hashrates : ChartsData
  hist : List ChainWorkPt

/-- One row of the plain loop: the window starts `averagingLength - 1` rows back. -/
def chainWorkSpecStep (hs : ChainWorkHist) :
    Int × String → Outcome (ChainWorkHist ⊕ (ChartsData × ChartsData))
  | (blocktime, workhex) =>
    match setStringHex workhex with
    | none => .ret (.inr (hs.workdata, hs.hashrates))
    | some bigwork =>
      let exawork := bigwork / bigExa
      if !isUint64 exawork then .ret (.inr (hs.workdata, hs.hashrates)) else
      let workdata := hs.workdata.appendChainWork exawork.toNat blocktime
      let hist := hs.hist ++ [⟨bigwork, blocktime⟩]
      if h : averagingLength ≤ hs.hist.length then
        let lastPt := hs.hist.get ⟨hs.hist.length + 1 - averagingLength, by
          unfold averagingLength at h ⊢; omega⟩
        (bigDiv (bigwork - lastPt.work) (blocktime - lastPt.time)).bind fun rate =>
          if !isUint64 (rate / bigTera) then .ret (.inr (workdata, hs.hashrates))
          else .ret (.inl ⟨workdata, hs.hashrates.appendNetHash (rate / bigTera).toNat blocktime,
            hist⟩)
      else .ret (.inl ⟨workdata, hs.hashrates, hist⟩)

/-- `retrieveChainWork` over the whole history. -/
def retrieveChainWorkSpec (query : Except String (List (Except String (Int × String)))) :
    Outcome (Except String (ChartsData × ChartsData)) :=
  match query with
  | .error e => .ret (.error e)
  | .ok rows => rowsLoop chainWorkSpecStep (fun hs => (hs.workdata, hs.hashrates)) rows
      ⟨.empty, .empty, []⟩

/-! ## The ring holds the last 120 points -/

/-- The ring a history leaves: slot `s` holds the latest point whose row number
is `s` modulo 120, and is unwritten while there is none. -/
def ringOf (hist : List ChainWorkPt) : List (Option ChainWorkPt) :=
  (List.range averagingLength).map fun s =>
    if s < hist.length then
      hist[s + averagingLength * ((hist.length - 1 - s) / averagingLength)]?
    else none

theorem getElem?_ringOf (hist : List ChainWorkPt) (s : Nat) :
    (ringOf hist)[s]? = if s < 120 then some (if s < hist.length then
      hist[s + 120 * ((hist.length - 1 - s) / 120)]? else none) else none := by
  unfold ringOf averagingLength
  by_cases hs : s < 120
  · simp only [List.getElem?_map, List.getElem?_range hs, if_pos hs, Option.map_some']
  · rw [if_neg hs, List.getElem?_eq_none (by simpa using hs)]

@[simp] theorem length_ringOf (hist : List ChainWorkPt) :
    (ringOf hist).length = averagingLength := by
  simp [ringOf]

theorem ringOf_nil : ringOf [] = List.replicate averagingLength none := by
  apply List.ext_getElem?
  intro s
  rw [getElem?_ringOf, List.getElem?_replicate]
  simp [averagingLength]

/-- Writing the next point into its slot gives the ring of the longer history. -/
theorem ringOf_append (hist : List ChainWorkPt) (p : ChainWorkPt) :
    (ringOf hist).set (hist.length % averagingLength) (some p) = ringOf (hist ++ [p]) := by
  apply List.ext_getElem?
  intro s
  simp only [List.getElem?_set, getElem?_ringOf, averagingLength, List.length_append,
    List.length_singleton, length_ringOf, Nat.add_sub_cancel]
  by_cases hw : hist.length % 120 = s
  · -- the slot just written
    subst hw
    have hidx : hist.length % 120 + 120 * ((hist.length - hist.length % 120) / 120) =
        hist.length := by omega
    have hlt : hist.length % 120 < 120 := Nat.mod_lt _ (by decide)
    rw [if_pos rfl, if_pos hlt, if_pos hlt, if_pos (Nat.lt_succ_of_le (Nat.mod_le _ _)), hidx,
      List.getElem?_concat_length]
  · rw [if_neg hw]
    by_cases hs : s < 120
    · by_cases hl : s < hist.length
      · -- an older slot keeps its point
        have hidx : (hist.length - s) / 120 = (hist.length - 1 - s) / 120 := by omega
        rw [if_pos hs, if_pos hs, if_pos hl, if_pos (by omega), hidx,
          List.getElem?_append_left (by omega)]
      · -- a slot still unwritten
        rw [if_pos hs, if_pos hs, if_neg hl, if_neg (by omega)]
    · rw [if_neg hs, if_neg hs]

/-- The slot just written holds the new point. -/
theorem getD_ringOf_current (hist : List ChainWorkPt) (p : ChainWorkPt) :
    (ringOf (hist ++ [p])).getD (hist.length % averagingLength) none = some p := by
  have hs : hist.length % averagingLength < (ringOf hist).length := by
    rw [length_ringOf]; exact Nat.mod_lt _ (by decide)
  rw [← ringOf_append, List.getD_eq_getElem?_getD, List.getElem?_set_self hs, Option.getD_some]

/-- The slot after it holds the point `averagingLength - 1` rows back. -/
theorem getD_ringOf_window {hist : List ChainWorkPt} (p : ChainWorkPt)
    (h : averagingLength ≤ hist.length) :
    (ringOf (hist ++ [p])).getD ((hist.length % averagingLength + 1) % averagingLength) none =
      hist[hist.length + 1 - averagingLength]? := by
  unfold averagingLength at *
  have hidx : (hist.length % 120 + 1) % 120 +
      120 * ((hist.length + 1 - 1 - (hist.length % 120 + 1) % 120) / 120) =
      hist.length + 1 - 120 := by omega
  rw [List.getD_eq_getElem?_getD, getElem?_ringOf, if_pos (Nat.mod_lt _ (by decide)),
    List.length_append, List.length_singleton, if_pos (by omega), hidx,
    List.getElem?_append_left (by omega), Option.getD_some]

/-- The ring state of a history. -/
def toRing (hs : ChainWorkHist) : ChainWorkState :=
  ⟨hs.workdata, hs.hashrates, ringOf hs.hist, hs.hist.length⟩

/-- One step of the ring is one step of the plain loop. -/
theorem chainWorkStep_toRing (hs : ChainWorkHist) (r : Int × String) :
    chainWorkStep (toRing hs) r = (chainWorkSpecStep hs r).map (Sum.map toRing id) := by
  obtain ⟨blocktime, workhex⟩ := r
  simp only [chainWorkStep, chainWorkSpecStep, toRing, ringOf_append]
  cases setStringHex workhex with
  | none => rfl
  | some bigwork =>
    dsimp only
    by_cases hx : isUint64 (bigwork / bigExa)
    · simp only [hx, Bool.not_true, Bool.false_eq_true, if_false]
      by_cases hl : averagingLength ≤ hs.hist.length
      · -- a window: both reads hit written slots
        have hw : hs.hist.length + 1 - averagingLength < hs.hist.length := by
          unfold averagingLength at hl ⊢; omega
        rw [if_pos hl, dif_pos hl, getD_ringOf_window _ hl, getD_ringOf_current,
          List.getElem?_eq_getElem hw]
        dsimp only
        cases bigDiv (bigwork - (hs.hist[hs.hist.length + 1 - averagingLength]).work)
            (blocktime - (hs.hist[hs.hist.length + 1 - averagingLength]).time) with
        | ret rate =>
          by_cases hr : isUint64 (rate / bigTera) <;>
            simp [hr, toRing]
        | panic msg => rfl
        | unfinished => rfl
      · simp [hl, toRing]
    · simp [hx]

/-- The ring loop and the plain loop agree over every rows list. -/
theorem rowsLoop_toRing (rows : List (Except String (Int × String))) (hs : ChainWorkHist) :
    rowsLoop chainWorkStep (fun st => (st.workdata, st.hashrates)) rows (toRing hs) =
      rowsLoop chainWorkSpecStep (fun hs => (hs.workdata, hs.hashrates)) rows hs :=
  rowsLoop_map toRing chainWorkStep_toRing (fun _ => rfl) rows hs

theorem chainWorkInit_eq_toRing : chainWorkInit = toRing ⟨.empty, .empty, []⟩ := by
  rw [toRing, ringOf_nil]; rfl

theorem retrieveChainWork_eq_spec (query : Except String (List (Except String (Int × String)))) :
    retrieveChainWork query = retrieveChainWorkSpec query := by
  cases query with
  | error e => rfl
  | ok rows => rw [retrieveChainWork, retrieveChainWorkSpec, chainWorkInit_eq_toRing, rowsLoop_toRing]

/-! ## A run that reads every row

When every work parses and every division goes through, the charts are the
points' times and works, and one rate for each point from row 120 on. -/

/-- A scanned row as a point, when its work parses. -/
def parsePoint (r : Int × String) : Option ChainWorkPt :=
  (setStringHex r.2).map fun w => ⟨w, r.1⟩

/-- The rate of the window that ends at point `i`, in terahashes per second. -/
def windowRate (pts : List ChainWorkPt) (i : Nat) : Int :=
  let p := pts.getD i ⟨0, 0⟩
  let q := pts.getD (i + 1 - averagingLength) ⟨0, 0⟩
  (p.work - q.work) / (p.time - q.time) / bigTera

/-- The window ending at point `i` spans some seconds, and its rate fits a `uint64`. -/
def WindowOk (pts : List ChainWorkPt) (i : Nat) : Prop :=
  (pts.getD i ⟨0, 0⟩).time ≠ (pts.getD (i + 1 - averagingLength) ⟨0, 0⟩).time ∧
    isUint64 (windowRate pts i)

instance (pts : List ChainWorkPt) (i : Nat) : Decidable (WindowOk pts i) :=
  inferInstanceAs (Decidable (_ ∧ _))

/-- The work chart of the points `pts`. -/
def workChart (pts : List ChainWorkPt) : ChartsData :=
  ⟨pts.map ChainWorkPt.time, pts.map fun p => (p.work / bigExa).toNat, []⟩

/-- The hashrate chart of the points `pts`: one rate for each point from row
`averagingLength` on. -/
def rateChart (pts : List ChainWorkPt) : ChartsData :=
  ⟨(pts.drop averagingLength).map ChainWorkPt.time, [],
    (List.range' averagingLength (pts.length - averagingLength)).map fun i =>
      (windowRate pts i).toNat⟩

theorem windowRate_append {l₁ : List ChainWorkPt} (l₂ : List ChainWorkPt) {i : Nat}
    (hi : i < l₁.length) : windowRate (l₁ ++ l₂) i = windowRate l₁ i := by
  have : 0 < averagingLength := by decide
  simp only [windowRate, List.getD_append l₁ l₂ _ _ hi,
    List.getD_append l₁ l₂ _ (i + 1 - averagingLength) (by omega)]

theorem windowOk_append {l₁ : List ChainWorkPt} (l₂ : List ChainWorkPt) {i : Nat}
    (hi : i < l₁.length) : WindowOk (l₁ ++ l₂) i ↔ WindowOk l₁ i := by
  have : 0 < averagingLength := by decide
  simp only [WindowOk, windowRate_append l₂ hi, List.getD_append l₁ l₂ _ _ hi,
    List.getD_append l₁ l₂ _ (i + 1 - averagingLength) (by omega)]

theorem workChart_append (hist : List ChainWorkPt) (p : ChainWorkPt) :
    workChart (hist ++ [p]) = (workChart hist).appendChainWork (p.work / bigExa).toNat p.time := by
  simp [workChart, ChartsData.appendChainWork]

theorem rateChart_append_short {hist : List ChainWorkPt} (p : ChainWorkPt)
    (h : hist.length < averagingLength) : rateChart (hist ++ [p]) = rateChart hist := by
  have h₁ : hist.length + 1 - averagingLength = 0 := by omega
  have h₂ : hist.length - averagingLength = 0 := by omega
  have h₃ : (hist ++ [p]).length ≤ averagingLength := by simpa using h
  simp [rateChart, h₁, h₂, List.drop_eq_nil_of_le h₃, List.drop_eq_nil_of_le (Nat.le_of_lt h)]

theorem rateChart_append {hist : List ChainWorkPt} (p : ChainWorkPt)
    (h : averagingLength ≤ hist.length) :
    rateChart (hist ++ [p]) =
      (rateChart hist).appendNetHash (windowRate (hist ++ [p]) hist.length).toNat p.time := by
  have hn : hist.length + 1 - averagingLength = hist.length - averagingLength + 1 := by omega
  have hr : List.map (fun i => (windowRate (hist ++ [p]) i).toNat)
      (List.range' averagingLength (hist.length - averagingLength)) =
      List.map (fun i => (windowRate hist i).toNat)
        (List.range' averagingLength (hist.length - averagingLength)) := by
    refine List.map_congr_left fun i hi => ?_
    rw [windowRate_append _ (by rw [List.mem_range'_1] at hi; omega)]
  simp only [rateChart, ChartsData.appendNetHash, List.length_append, List.length_singleton, hn,
    List.range'_concat, List.map_append, hr, List.drop_append_of_le_length h, Nat.one_mul,
    Nat.add_sub_cancel' h,
    List.map_cons, List.map_nil]

theorem getD_append_length (hist : List ChainWorkPt) (p d : ChainWorkPt) :
    (hist ++ [p]).getD hist.length d = p := by
  rw [List.getD_eq_getElem?_getD, List.getElem?_concat_length, Option.getD_some]

/-- A row that parses, fits, and whose window (if any) goes through, extends
both charts by its point. -/
theorem chainWorkSpecStep_good {hist : List ChainWorkPt} {r : Int × String} {p : ChainWorkPt}
    (hp : parsePoint r = some p) (hx : isUint64 (p.work / bigExa))
    (hw : averagingLength ≤ hist.length → WindowOk (hist ++ [p]) hist.length) :
    chainWorkSpecStep ⟨workChart hist, rateChart hist, hist⟩ r =
      .ret (.inl ⟨workChart (hist ++ [p]), rateChart (hist ++ [p]), hist ++ [p]⟩) := by
  obtain ⟨blocktime, workhex⟩ := r
  obtain ⟨bigwork, hb, rfl⟩ := Option.map_eq_some'.mp hp
  dsimp only at hb hx hw
  simp only [chainWorkSpecStep, hb, hx, Bool.not_true, Bool.false_eq_true, if_false,
    workChart_append]
  by_cases hl : averagingLength ≤ hist.length
  · obtain ⟨hne, hfit⟩ := hw hl
    have hk : hist.length + 1 - averagingLength < hist.length := by
      unfold averagingLength at hl ⊢; omega
    have hq : (hist ++ [(⟨bigwork, blocktime⟩ : ChainWorkPt)]).getD (hist.length + 1 - averagingLength) ⟨0, 0⟩ =
        hist[hist.length + 1 - averagingLength] := by
      rw [List.getD_append hist _ _ _ hk, List.getD_eq_getElem _ _ hk]
    simp only [WindowOk, windowRate, getD_append_length, hq] at hne hfit
    have hz : blocktime - hist[hist.length + 1 - averagingLength].time ≠ 0 := by omega
    rw [dif_pos hl, rateChart_append _ hl]
    simp only [List.get_eq_getElem, bigDiv, hz, if_false, Outcome.bind_ret, hfit,
      Bool.not_true, Bool.false_eq_true, windowRate, getD_append_length, hq]
  · rw [dif_neg hl, rateChart_append_short _ (by omega)]

/-- Rows that parse, fit and whose windows go through extend the charts by
their points, and the loop goes on with the rows after them. -/
theorem rowsLoop_spec_good (more : List (Except String (Int × String))) :
    ∀ (rows : List (Int × String)) (pts hist : List ChainWorkPt),
      rows.map parsePoint = pts.map some → (∀ p ∈ pts, isUint64 (p.work / bigExa)) →
      (∀ i, hist.length ≤ i → averagingLength ≤ i → i < hist.length + pts.length →
        WindowOk (hist ++ pts) i) →
      rowsLoop chainWorkSpecStep (fun hs => (hs.workdata, hs.hashrates)) (rows.map .ok ++ more)
          ⟨workChart hist, rateChart hist, hist⟩ =
        rowsLoop chainWorkSpecStep (fun hs => (hs.workdata, hs.hashrates)) more
          ⟨workChart (hist ++ pts), rateChart (hist ++ pts), hist ++ pts⟩
  | [], [], hist, _, _, _ => by simp
  | [], _ :: _, _, hparse, _, _ => by simp at hparse
  | _ :: _, [], _, hparse, _, _ => by simp at hparse
  | r :: rows, p :: pts, hist, hparse, hexa, hwin => by
    simp only [List.map_cons, List.cons.injEq, Option.some.injEq] at hparse
    have hsplit : hist ++ p :: pts = (hist ++ [p]) ++ pts := by simp
    have hwin' : ∀ i, (hist ++ [p]).length ≤ i → averagingLength ≤ i →
        i < (hist ++ [p]).length + pts.length → WindowOk ((hist ++ [p]) ++ pts) i := by
      intro i h₁ h₂ h₃
      rw [← hsplit]
      exact hwin i (by simp at h₁; omega) h₂ (by simp at h₃ ⊢; omega)
    have hp : averagingLength ≤ hist.length → WindowOk (hist ++ [p]) hist.length := fun hl =>
      (windowOk_append pts (by rw [List.length_append, List.length_singleton]; omega)).mp
        (hsplit ▸ hwin hist.length le_rfl hl (by rw [List.length_cons]; omega))
    simp only [List.map_cons, List.cons_append, rowsLoop,
      chainWorkSpecStep_good hparse.1 (hexa p (List.mem_cons_self p pts)) hp, Outcome.bind_ret,
      List.append_eq]
    rw [rowsLoop_spec_good more rows pts (hist ++ [p]) hparse.2
      (fun q hq => hexa q (List.mem_cons_of_mem p hq)) hwin', ← hsplit]

theorem rowsLoop_retrieveChainWork (rows : List (Except String (Int × String))) :
    retrieveChainWork (.ok rows) = rowsLoop chainWorkSpecStep (fun hs => (hs.workdata, hs.hashrates))
      rows ⟨workChart [], rateChart [], []⟩ := by
  rw [retrieveChainWork, chainWorkInit_eq_toRing, rowsLoop_toRing]; rfl

/-- When every row parses and fits and every window goes through, the work
chart is every point's time and work, and the hashrate chart has one rate for
each point from row 120 on, over the window back to the point 119 rows before. -/
theorem retrieveChainWork_charts (rows : List (Int × String)) (pts : List ChainWorkPt)
    (hparse : rows.map parsePoint = pts.map some) (hexa : ∀ p ∈ pts, isUint64 (p.work / bigExa))
    (hwin : ∀ i, averagingLength ≤ i → i < pts.length → WindowOk pts i) :
    retrieveChainWork (.ok (rows.map .ok)) = .ret (.ok (workChart pts, rateChart pts)) := by
  have h := rowsLoop_spec_good [] rows pts [] hparse hexa (fun i _ h₁ h₂ => by
    simpa using hwin i h₁ (by simpa using h₂))
  rw [List.append_nil, List.nil_append] at h
  rw [rowsLoop_retrieveChainWork, h]
  rfl

/-- `n` rows a second apart whose work is `"0"`, and their points. -/
def flatRows (n : Nat) : List (Int × String) := (List.range n).map fun (i : Nat) => ((i : Int), "0")

def flatPts (n : Nat) : List ChainWorkPt := (List.range n).map fun (i : Nat) => ⟨0, (i : Int)⟩

theorem map_parsePoint_flatRows (n : Nat) : (flatRows n).map parsePoint = (flatPts n).map some := by
  simp only [flatRows, flatPts, List.map_map]
  rfl

theorem flatPts_exawork (n : Nat) : ∀ p ∈ flatPts n, isUint64 (p.work / bigExa) := by
  intro p hp
  obtain ⟨i, -, rfl⟩ := List.mem_map.mp hp
  rfl

theorem retrieveChainWork_charts_flat :
    retrieveChainWork (.ok ((flatRows 121).map .ok)) =
      .ret (.ok (workChart (flatPts 121), rateChart (flatPts 121))) :=
  retrieveChainWork_charts (flatRows 121) (flatPts 121) (map_parsePoint_flatRows 121)
    (flatPts_exawork 121) (fun i h₁ h₂ => by
      obtain rfl : i = 120 := by simp only [flatPts, List.length_map, List.length_range] at h₂
                                 unfold averagingLength at h₁; omega
      decide)

/-- A window of zero seconds: after rows that go through, a row whose point has
the time of the point 119 rows before it makes `big.Int.Div` panic. -/
theorem retrieveChainWork_zero_window_panics (rows : List (Int × String)) (pts : List ChainWorkPt)
    (hparse : rows.map parsePoint = pts.map some) (hexa : ∀ p ∈ pts, isUint64 (p.work / bigExa))
    (hwin : ∀ i, averagingLength ≤ i → i < pts.length → WindowOk pts i)
    {r : Int × String} {p : ChainWorkPt} (hr : parsePoint r = some p)
    (hx : isUint64 (p.work / bigExa)) (hlen : averagingLength ≤ pts.length)
    (htime : p.time = (pts.getD (pts.length + 1 - averagingLength) ⟨0, 0⟩).time)
    (rest : List (Except String (Int × String))) :
    retrieveChainWork (.ok (rows.map .ok ++ .ok r :: rest)) = .panic errDivisionByZero := by
  have h := rowsLoop_spec_good (.ok r :: rest) rows pts [] hparse hexa (fun i _ h₁ h₂ => by
    simpa using hwin i h₁ (by simpa using h₂))
  rw [List.nil_append] at h
  rw [rowsLoop_retrieveChainWork, h]
  obtain ⟨blocktime, workhex⟩ := r
  obtain ⟨bigwork, hb, rfl⟩ := Option.map_eq_some'.mp hr
  dsimp only at hb hx htime
  have hk : pts.length + 1 - averagingLength < pts.length := by
    unfold averagingLength at hlen ⊢; omega
  rw [List.getD_eq_getElem _ _ hk] at htime
  simp only [rowsLoop, chainWorkSpecStep, hb, hx, Bool.not_true, Bool.false_eq_true, if_false,
    dif_pos hlen, List.get_eq_getElem, bigDiv, htime, Int.sub_self, if_true, Outcome.bind_panic]

theorem retrieveChainWork_zero_window_flat :
    retrieveChainWork (.ok ((flatRows 120).map .ok ++ [.ok (1, "0")])) = .panic errDivisionByZero :=
  @retrieveChainWork_zero_window_panics (flatRows 120) (flatPts 120) (map_parsePoint_flatRows 120)
    (flatPts_exawork 120) (fun i h₁ h₂ => by
      simp only [flatPts, List.length_map, List.length_range] at h₂
      unfold averagingLength at h₁; omega)
    (1, "0") ⟨0, 1⟩ rfl rfl (by decide) (by decide) []

end HcData.Pg
