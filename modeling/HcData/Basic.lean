import Mathlib.Algebra.Order.Ring.Int
import Mathlib.Data.List.Basic

/-!
# What a call of the Go code gives back

The functions modelled here return Go values, and some of them can also stop
without returning: a run-time panic (a nil pointer, an index out of range, an
explicit `panic`), or an unbounded loop that the model runs on fuel.  `Outcome`
keeps the three apart, so that "it returns" is a statement of its own and never
the hypothesis of one.

The second half is the part of `database/sql` the Postgres code leans on: what
`Exec` answers, `sqlExec`/`sqlExecStmt` which turn that answer into a row count
or an error, and the calls of one database transaction.
-/

namespace HcData

/-- A Go call in the model: its return values, a run-time panic with its
message, or `unfinished` when the fuel ran out before an unbounded loop of the
source ended. -/
inductive Outcome (α : Type) where
  | ret (a : α)
  | panic (msg : String)
  | unfinished
  deriving DecidableEq, Repr

namespace Outcome

def map {α β : Type} (f : α → β) : Outcome α → Outcome β
  | ret a => ret (f a)
  | panic msg => panic msg
  | unfinished => unfinished

@[simp] theorem map_ret {α β : Type} (f : α → β) (a : α) : (ret a).map f = ret (f a) := rfl

@[simp] theorem map_panic {α β : Type} (f : α → β) (msg : String) :
    (panic msg : Outcome α).map f = panic msg := rfl

@[simp] theorem map_unfinished {α β : Type} (f : α → β) :
    (unfinished : Outcome α).map f = unfinished := rfl

theorem map_eq_ret {α β : Type} {f : α → β} {o : Outcome α} {b : β} :
    o.map f = ret b ↔ ∃ a, o = ret a ∧ f a = b := by
  cases o <;> simp [map]

/-- Go's statement sequencing: a panic or an unfinished loop stops what
follows. -/
def bind {α β : Type} (o : Outcome α) (f : α → Outcome β) : Outcome β :=
  match o with
  | ret a => f a
  | panic msg => panic msg
  | unfinished => unfinished

@[simp] theorem bind_ret {α β : Type} (a : α) (f : α → Outcome β) : (ret a).bind f = f a := rfl

@[simp] theorem bind_panic {α β : Type} (msg : String) (f : α → Outcome β) :
    (panic msg : Outcome α).bind f = panic msg := rfl

@[simp] theorem bind_unfinished {α β : Type} (f : α → Outcome β) :
    (unfinished : Outcome α).bind f = unfinished := rfl

theorem bind_eq_ret {α β : Type} {o : Outcome α} {f : α → Outcome β} {b : β} :
    o.bind f = ret b ↔ ∃ a, o = ret a ∧ f a = ret b := by
  cases o <;> simp [bind]

theorem bind_eq_panic {α β : Type} {o : Outcome α} {f : α → Outcome β} {msg : String} :
    o.bind f = panic msg ↔ o = panic msg ∨ ∃ a, o = ret a ∧ f a = panic msg := by
  cases o <;> simp [bind]

end Outcome

/-- The message of a nil pointer dereference. -/
def errNilDereference : String :=
  "runtime error: invalid memory address or nil pointer dereference"

/-- The message of an index expression out of range. -/
def errIndexOutOfRange (i n : Nat) : String :=
  "runtime error: index out of range [" ++ toString i ++ "] with length " ++ toString n

/-- Go's `xs[i]`: the element, or the message of the panic past the end. -/
def sliceAt {γ : Type} (xs : List γ) (i : Nat) : Except String γ :=
  match xs[i]? with
  | some x => .ok x
  | none => .error (errIndexOutOfRange i xs.length)

/-- The wrap of an integer to `int64`: Go's signed arithmetic overflows silently. -/
def wrapInt64 (x : Int) : Int := (x + 2 ^ 63) % 2 ^ 64 - 2 ^ 63

/-- A Go `int64`. -/
def IsInt64 (a : Int) : Prop := -2 ^ 63 ≤ a ∧ a < 2 ^ 63

theorem isInt64_wrapInt64 (x : Int) : IsInt64 (wrapInt64 x) := by
  unfold IsInt64 wrapInt64; omega

theorem wrapInt64_of_isInt64 {x : Int} (h : IsInt64 x) : wrapInt64 x = x := by
  unfold IsInt64 at h; unfold wrapInt64; omega

/-- Wrapping after each addition is wrapping once at the end. -/
theorem wrapInt64_wrapInt64_add (x y : Int) : wrapInt64 (wrapInt64 x + y) = wrapInt64 (x + y) := by
  unfold wrapInt64; omega

/-! ## `database/sql` -/

/-- What `Exec` gave back: an error (the statement had no effect), a nil
result, or a result whose `RowsAffected` is a count or an error. -/
inductive ExecResult where
  | error (e : String)
  | noResult
  | affected (n : Except String Int)

namespace ExecResult

/-- The statement ran: only an `Exec` error means it did not. -/
def ran : ExecResult → Bool
  | error _ => false
  | _ => true

end ExecResult

/-- `sqlExecStmt`: the rows affected, or the error, prefixed as
`fmt.Errorf("%v %v", execErrPrefix, err)` prefixes it. -/
def sqlExecStmt (execErrPrefix : String) : ExecResult → Int × Option String
  | .error e => (0, some (execErrPrefix ++ " " ++ e))
  | .noResult => (0, none)
  | .affected (.error e) => (0, some ("error in RowsAffected: " ++ e))
  | .affected (.ok n) => (n, none)

/-- `sqlExec` builds its message as `execErrPrefix + " " + err.Error()`, the
same text as `sqlExecStmt`.  It passes that text to `fmt.Errorf` as the format,
which keeps it as it is when it holds no `%`; the model takes it so. -/
def sqlExec (execErrPrefix : String) (r : ExecResult) : Int × Option String :=
  sqlExecStmt execErrPrefix r

/-- What `QueryRow(...).Scan(&id)` gave back: a row id, `sql.ErrNoRows`, or
another error. -/
inductive RowResult where
  | id (n : Nat)
  | noRows
  | error (e : String)
  deriving DecidableEq, Repr

/-- The text of `sql.ErrNoRows`. -/
def errNoRows : String := "sql: no rows in result set"

/-- How the calls of one database transaction turn out: `db.Begin`, the
`Prepare` of its statement, each statement's `Exec` by position, `Commit` and
`Rollback`.  `none` is a nil error. -/
structure TxCalls where
  begin : Option String
  prepare : Option String
  exec : Nat → ExecResult
  commit : Option String
  rollback : Option String

end HcData
