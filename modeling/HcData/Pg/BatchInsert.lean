import Mathlib.Algebra.Order.Ring.Nat
import HcData.Basic

/-!
# Batch inserts and lookups by row id

`InsertVins`, `InsertAddressRows` and `RetrieveTicketIDsByHashes` run one
`QueryRow(...).Scan(&id)` per row inside one database transaction and collect
the ids.  They share the loop `collectIDs`: an id is appended, `sql.ErrNoRows`
is skipped by `InsertAddressRows` (a `continue`) and ends the other two, and any
other error ends all three.  What the loop returns is the ids of the answers
before the first one that ends it, with that answer (`collectIDs_eq`).

The two inserts differ in what they return when the loop ends early.
`InsertAddressRows` returns no ids.  `InsertVins` returns the ids collected so
far, although it has just rolled the transaction back, so each of them names a
row that the rollback removed (`insertVins_failed`).

The insert statements (`MakeVinInsertStatement`,
`MakeAddressRowInsertStatement`) are not in the source: the answer of the
insert at each position stands for them.
-/

namespace HcData.Pg

/-- The row id a `QueryRow(...).Scan(&id)` gave, if any. -/
def rowId : RowResult → Option Nat
  | .id n => some n
  | _ => none

/-- Whether a lookup found an id. -/
def foundId (r : RowResult) : Bool := (rowId r).isSome

/-- The error of a `Scan` that gave no id. -/
def rowError : RowResult → String
  | .error e => e
  | _ => errNoRows

/-- Whether an answer ends the loop: an error does, and `sql.ErrNoRows` unless
the loop skips it. -/
def stopsAt (skipNoRows : Bool) : RowResult → Bool
  | .id _ => false
  | .noRows => !skipNoRows
  | .error _ => true

/-- The loop over the rows' answers: the ids collected, and the answer that
ended the loop, if one did. -/
def collectIDs (skipNoRows : Bool) : List RowResult → List Nat → List Nat × Option RowResult
  | [], ids => (ids, none)
  | .id id :: rs, ids => collectIDs skipNoRows rs (ids ++ [id])
  | .noRows :: rs, ids => if skipNoRows then collectIDs skipNoRows rs ids else (ids, some .noRows)
  | .error e :: _, ids => (ids, some (.error e))

theorem collectIDs_eq (skipNoRows : Bool) :
    ∀ (rs : List RowResult) (ids : List Nat), collectIDs skipNoRows rs ids =
      (ids ++ (rs.takeWhile fun r => !stopsAt skipNoRows r).filterMap rowId,
        rs.find? (stopsAt skipNoRows))
  | [], ids => by simp [collectIDs]
  | .id id :: rs, ids => by simp [collectIDs, collectIDs_eq skipNoRows rs, stopsAt, rowId]
  | .noRows :: rs, ids => by
    cases skipNoRows <;> simp [collectIDs, collectIDs_eq _ rs, stopsAt, rowId]
  | .error e :: rs, ids => by simp [collectIDs, stopsAt]

/-- A loop that skips no answer stops at the first one that found no id. -/
theorem stopsAt_false : stopsAt false = fun r => !foundId r := by
  funext r; cases r <;> rfl

/-! ## The two inserts -/

/-- What a batch insert returns, and the rows its commit kept. -/
structure InsertRowsResult (α : Type) where
  ids : List Nat
  err : Option String
  kept : List α
  deriving DecidableEq, Repr

/-- The batch insert of `InsertVins` and `InsertAddressRows`, with the
transaction's calls and the answer of each row's insert by position.  An insert
that ends the loop closes the statement and rolls back, and `failed ids e` is
what the call then returns; otherwise the statement is closed and the call
returns the ids with the commit's error.  The commit keeps the rows whose
insert gave an id. -/
def insertRows {α : Type} (skipNoRows : Bool) (failed : List Nat → String → List Nat × String)
    (calls : TxCalls) (queryRow : Nat → RowResult) (rows : List α) : InsertRowsResult α :=
  match calls.begin with
  | some e => ⟨[], some ("unable to begin database transaction: " ++ e), []⟩
  | none =>
    match calls.prepare with
    | some e => ⟨[], some e, []⟩
    | none =>
      let answers := (List.range rows.length).map queryRow
      match collectIDs skipNoRows answers [] with
      | (ids, none) =>
        ⟨ids, calls.commit,
          if calls.commit.isNone then ((rows.zip answers).filter fun p => foundId p.2).map Prod.fst
          else []⟩
      | (ids, some r) => ⟨(failed ids (rowError r)).1, some (failed ids (rowError r)).2, []⟩

/-- `InsertVins`: an insert that gives no id, `sql.ErrNoRows` included, ends
the call with the ids collected so far and the wrapped error. -/
def insertVins {α : Type} (calls : TxCalls) (queryRow : Nat → RowResult) (dbVins : List α) :
    InsertRowsResult α :=
  insertRows false (fun ids e => (ids, "InsertVins INSERT exec failed: " ++ e)) calls queryRow dbVins

/-- `InsertAddressRows`: `sql.ErrNoRows` skips the row, and any other error
ends the call with no ids and the error itself. -/
def insertAddressRows {α : Type} (calls : TxCalls) (queryRow : Nat → RowResult)
    (dbAs : List α) : InsertRowsResult α :=
  insertRows true (fun _ e => ([], e)) calls queryRow dbAs

/-- Once the transaction and the statement are open, a batch insert runs the
loop over the rows' answers: it ends at the first answer that stops it, with
the ids before it, or commits every row whose insert gave an id. -/
theorem insertRows_open {α : Type} {calls : TxCalls} (hb : calls.begin = none)
    (hp : calls.prepare = none) (skipNoRows : Bool) (failed : List Nat → String → List Nat × String)
    (queryRow : Nat → RowResult) (rows : List α) :
    insertRows skipNoRows failed calls queryRow rows =
      let answers := (List.range rows.length).map queryRow
      let ids := (answers.takeWhile fun r => !stopsAt skipNoRows r).filterMap rowId
      match answers.find? (stopsAt skipNoRows) with
      | some r => ⟨(failed ids (rowError r)).1, some (failed ids (rowError r)).2, []⟩
      | none =>
        ⟨ids, calls.commit,
          if calls.commit.isNone then ((rows.zip answers).filter fun p => foundId p.2).map Prod.fst
          else []⟩ := by
  simp only [insertRows, hb, hp, collectIDs_eq, List.nil_append]
  cases ((List.range rows.length).map queryRow).find? (stopsAt skipNoRows) <;> rfl

/-- The answers before the `k`-th, when each of them found an id, are passed by
the loop that skips nothing, and their ids are collected. -/
theorem takeWhile_found_range {queryRow : Nat → RowResult} {n k : Nat} (hk : k < n)
    (hok : ∀ j < k, foundId (queryRow j)) (hfail : foundId (queryRow k) = false) :
    ((List.range n).map queryRow).takeWhile (fun r => !stopsAt false r) =
        (List.range k).map queryRow ∧
      ((List.range n).map queryRow).find? (stopsAt false) = some (queryRow k) := by
  have hsplit : List.range n = List.range k ++ k :: List.range' (k + 1) (n - (k + 1)) := by
    have happ := List.range'_append_1 0 k (n - (k + 1) + 1)
    rw [Nat.zero_add, List.range'_succ] at happ
    rw [List.range_eq_range', List.range_eq_range', happ]
    congr 1; omega
  have hpre : ∀ r ∈ (List.range k).map queryRow, stopsAt false r = false := by
    simp only [List.mem_map, List.mem_range]
    rintro _ ⟨j, hj, rfl⟩
    simp only [stopsAt_false, hok j hj, Bool.not_true]
  have hstop : stopsAt false (queryRow k) = true := by
    simp only [stopsAt_false, hfail, Bool.not_false]
  rw [hsplit, List.map_append, List.map_cons]
  constructor
  · rw [List.takeWhile_append_of_pos (fun r hr => by rw [hpre r hr]; rfl),
      List.takeWhile_cons_of_neg (by rw [hstop]; decide), List.append_nil]
  · rw [List.find?_append, List.find?_eq_none.mpr (fun r hr => by rw [hpre r hr]; decide),
      List.find?_cons_of_pos _ hstop, Option.none_or]

/-- When the insert of the `k`-th vin gives no id, after the inserts before it
each gave one, `InsertVins` rolls the transaction back, so it keeps none of the
rows, and yet returns the `k` ids of the earlier inserts, which name rows the
rollback removed, with the wrapped error. -/
theorem insertVins_failed {α : Type} {calls : TxCalls} (hb : calls.begin = none)
    (hp : calls.prepare = none) (queryRow : Nat → RowResult) (dbVins : List α) {k : Nat}
    (hk : k < dbVins.length) (hok : ∀ j < k, foundId (queryRow j))
    (hfail : foundId (queryRow k) = false) :
    insertVins calls queryRow dbVins =
      ⟨(List.range k).filterMap (fun j => rowId (queryRow j)),
        some ("InsertVins INSERT exec failed: " ++ rowError (queryRow k)), []⟩ := by
  obtain ⟨htake, hfind⟩ := takeWhile_found_range hk hok hfail
  rw [insertVins, insertRows_open hb hp]
  simp only [htake, hfind, List.filterMap_map]
  rfl

/-- A transaction whose calls all succeed. -/
def okTxCalls : TxCalls := ⟨none, none, fun _ => .noResult, none, none⟩

/-- Three vins whose first insert gives id 40 and whose second fails. -/
def vinAnswers (k : Nat) : RowResult := if k = 0 then .id 40 else .error "conflict"

theorem insertVins_second_fails :
    (1 < ["v0", "v1", "v2"].length ∧ (∀ j < 1, foundId (vinAnswers j)) ∧
      foundId (vinAnswers 1) = false) ∧
    insertVins okTxCalls vinAnswers ["v0", "v1", "v2"] =
      ⟨(List.range 1).filterMap (fun j => rowId (vinAnswers j)),
        some ("InsertVins INSERT exec failed: " ++ rowError (vinAnswers 1)), []⟩ :=
  have hok : ∀ j < 1, foundId (vinAnswers j) := by
    intro j hj
    obtain rfl : j = 0 := by omega
    rfl
  ⟨⟨by decide, hok, rfl⟩, insertVins_failed rfl rfl _ _ (by decide) hok rfl⟩

/-- Once the transaction and the statement are open, `InsertAddressRows`
returns no ids and keeps no row when an insert fails with an error other than
`sql.ErrNoRows`, the first such error being returned.  Otherwise it returns,
with the commit's error, the ids of the inserts that gave one, in order, and a
successful commit keeps exactly the rows those ids belong to; a row whose
insert answered `sql.ErrNoRows` has no id, so the ids line up with the rows
kept and not with `dbAs`. -/
theorem insertAddressRows_spec {α : Type} {calls : TxCalls} (hb : calls.begin = none)
    (hp : calls.prepare = none) (queryRow : Nat → RowResult) (dbAs : List α) :
    insertAddressRows calls queryRow dbAs =
      match ((List.range dbAs.length).map queryRow).find? (stopsAt true) with
      | some r => ⟨[], some (rowError r), []⟩
      | none =>
        ⟨(List.range dbAs.length).filterMap (fun k => rowId (queryRow k)), calls.commit,
          if calls.commit.isNone then
            ((dbAs.zip ((List.range dbAs.length).map queryRow)).filter fun p => foundId p.2).map Prod.fst
          else []⟩ := by
  rw [insertAddressRows, insertRows_open hb hp]
  dsimp only
  cases hf : ((List.range dbAs.length).map queryRow).find? (stopsAt true) with
  | some r => rfl
  | none =>
    have hall : ((List.range dbAs.length).map queryRow).takeWhile (fun r => !stopsAt true r) =
        (List.range dbAs.length).map queryRow :=
      List.takeWhile_eq_self_iff.mpr fun r hr => by
        simpa using List.find?_eq_none.mp hf r hr
    simp only [hall, List.filterMap_map]
    rfl

/-- Three address rows whose second insert answers `sql.ErrNoRows`. -/
def skipSecond (k : Nat) : RowResult := if k = 1 then .noRows else .id (k + 5)

/-- The ids 5 and 7 come back at indices 0 and 1, for the first and third rows. -/
theorem insertAddressRows_skipped :
    insertAddressRows okTxCalls skipSecond ["a0", "a1", "a2"] = ⟨[5, 7], none, ["a0", "a2"]⟩ :=
  (insertAddressRows_spec rfl rfl _ _).trans rfl

end HcData.Pg
