import HcData.Basic
import Mathlib.Data.List.Nodup

/-!
# Votes and missed tickets

`InsertVotes` picks the votes (SSGen transactions) of a block's stake tree,
inserts a `votes` row for each and agenda rows for its choices, and derives the
missed tickets as the block's `Validators` less the tickets the votes spend.
The difference is computed in place: `misses` starts as a copy of `Validators`
and each spent ticket is swap-removed from it, the first equal entry taking the
value of the last one and the slice losing its last element.

`removeMiss_perm` shows one swap-remove is an `erase` up to order, so the loop
computes the multiset difference `Validators.diff spent` (`misses_perm_diff`).
`insertVotes_misses` lifts that to the whole call, and shows the exception: a
block without votes returns before `InsertVotes` looks at `Validators`.
-/

namespace HcData.Pg

open scoped List

/-- `stake.TxTypeSSGen`. -/
def txTypeSSGen : Int := 2

/-- The fields of a `wire.TxIn` that `InsertVotes` reads. -/
structure TxIn where
  valueIn : Int
  prevHash : String
  deriving DecidableEq, Repr

/-- The fields of a `wire.MsgTx` that `InsertVotes` reads. -/
structure MsgTx where
  txHash : String
  txIn : List TxIn
  deriving DecidableEq, Repr

/-- The fields of a `dbtypes.Tx` that `InsertVotes` reads. -/
structure DbTx where
  txType : Int
  txID : String
  blockHash : String
  blockHeight : Int
  blockTime : Int
  isMainchainBlock : Bool
  deriving DecidableEq, Repr

/-- The fields of a `MsgBlockPG` that `InsertVotes` reads. -/
structure MsgBlockPG where
  sTransactions : List MsgTx
  validators : List String
  prevBlock : String
  height : Nat
  blockHash : String
  deriving DecidableEq, Repr

/-- The heights an agenda locks in, activates and hard forks at. -/
structure Milestone where
  lockedIn : Int
  activated : Int
  hardForked : Int
  deriving DecidableEq, Repr

/-- The vote-script helpers `InsertVotes` calls (`stake.SSGenVersion`,
`txhelpers.SSGenVoteBlockValid`, `txhelpers.SSGenVoteChoices`,
`dbtypes.ChoiceIndexFromStr`) and the `VotingMilestones` table.  None of them is
in the source, so they are parameters. -/
structure VoteParser where
  ssgenVersion : MsgTx → Nat
  ssgenVoteBlockValid : MsgTx → Except String (Bool × Nat)
  ssgenVoteChoices : MsgTx → Except String (List (String × String))
  choiceIndexFromStr : String → Except String Nat
  votingMilestones : String → Option Milestone

/-- The arguments of one `votes` insert. -/
structure VoteRow where
  height : Int
  txID : String
  blockHash : String
  candidateBlockHash : String
  version : Nat
  voteBits : Nat
  validity : Bool
  ticketHash : String
  ticketTxDbID : Nat
  stakeSubmissionAmount : Int
  voteReward : Int
  isMainchain : Bool
  deriving DecidableEq, Repr

/-- The arguments of one `agendas` insert. -/
structure AgendaRow where
  agendaID : String
  index : Nat
  txID : String
  height : Int
  blockTime : Int
  lockedIn : Bool
  activated : Bool
  hardForked : Bool
  deriving DecidableEq, Repr

/-- The arguments of one `misses` insert. -/
structure MissRow where
  height : Nat
  blockHash : String
  candidateBlockHash : String
  ticketHash : String
  deriving DecidableEq, Repr

/-- How the database calls of one `InsertVotes` turn out: the vote insert of the
`i`-th vote, the `k`-th agenda insert of the `i`-th vote, the `i`-th miss insert. -/
structure VoteCalls where
  begin : Option String
  prepareVote : Option String
  prepareAgenda : Option String
  voteRow : Nat → RowResult
  agendaRow : Nat → Nat → RowResult
  prepareMiss : Option String
  missRow : Nat → RowResult
  commit : Option String

/-- The rows a committed `InsertVotes` transaction wrote, in statement order. -/
structure VoteWrites where
  votes : List VoteRow
  agendas : List AgendaRow
  misses : List MissRow
  deriving DecidableEq, Repr

/-- What `InsertVotes` returns, and the rows of its transaction when it was
committed.  `missHashMap` lists its map's assignments in order. -/
structure InsertVotesResult where
  ids : List Nat
  voteTxs : List DbTx
  spentTicketHashes : List String
  spentTicketDbIDs : List Nat
  missHashMap : List (String × Nat)
  err : Option String
  stored : Option VoteWrites
  deriving DecidableEq, Repr

/-- An error return: every slice nil and nothing committed. -/
def InsertVotesResult.failed (e : String) : InsertVotesResult :=
  ⟨[], [], [], [], [], some e, none⟩

/-- The accumulators of the vote loop, and the rows its statements wrote. -/
structure VoteAcc where
  ids : List Nat
  spentTicketHashes : List String
  spentTicketDbIDs : List Nat
  misses : List String
  votes : List VoteRow
  agendas : List AgendaRow

/-- The swap-remove of `InsertVotes`: the first entry equal to `t` takes the value
of the last entry, and the last entry is cut off. -/
def removeMiss (misses : List String) (t : String) : List String :=
  match misses.findIdx? (· == t) with
  | none => misses
  | some im => (misses.set im (misses.getLastD t)).dropLast

/-- The SSGen entries of `dbTxns`, each with the `STransactions` entry at its
position: the loop reads `msgTxs[i]` beside the `i`-th entry.  A mismatched hash
is an error, a missing message Go's index panic. -/
def selectVotes (msgTxs : List MsgTx) : List DbTx → Nat → List (DbTx × MsgTx) →
    Outcome (Except String (List (DbTx × MsgTx)))
  | [], _, acc => .ret (.ok acc)
  | tx :: rest, i, acc =>
    if tx.txType = txTypeSSGen then
      match msgTxs[i]? with
      | none => .panic (errIndexOutOfRange i msgTxs.length)
      | some m =>
        if tx.txID ≠ m.txHash then
          .ret (.error "txid of dbtypes.Tx does not match that of msgTx")
        else selectVotes msgTxs rest (i + 1) (acc ++ [(tx, m)])
    else selectVotes msgTxs rest (i + 1) acc

section Loops

variable (p : VoteParser) (calls : VoteCalls)

/-- The agenda inserts of the `i`-th vote, one per choice. -/
def agendaRows (i : Nat) (tx : DbTx) :
    List (String × String) → Nat → List AgendaRow → Except String (List AgendaRow)
  | [], _, acc => .ok acc
  | (agendaID, choiceID) :: rest, k, acc =>
    match p.choiceIndexFromStr choiceID with
    | .error e => .error e
    | .ok index =>
      let flags : Bool × Bool × Bool :=
        match p.votingMilestones agendaID with
        | some m => (m.lockedIn == tx.blockHeight, m.activated == tx.blockHeight,
            m.hardForked == tx.blockHeight)
        | none => (false, false, false)
      match calls.agendaRow i k with
      | .error e => .error e
      | .noRows => .error errNoRows
      | .id _ =>
        agendaRows i tx rest (k + 1)
          (acc ++ [⟨agendaID, index, tx.txID, tx.blockHeight, tx.blockTime,
            flags.1, flags.2.1, flags.2.2⟩])

/-- The ticket's row id from `fTx.TxnDbID`, or zero when no getter is given. -/
def lookupTicketTxDbID (fTx : Option (String → Except String Nat)) (ticket : String) :
    Except String Nat :=
  match fTx with
  | none => .ok 0
  | some f => f ticket

variable (fTx : Option (String → Except String Nat)) (candidate : String)
  (checked updateExistingRecords : Bool)

/-- One pass of the vote loop: parse the vote, read its stakebase and ticket
inputs, look up the ticket's row id, swap-remove the ticket from the misses,
insert the vote row and, unless only new rows are wanted, its agenda rows. -/
def voteStep (i : Nat) (tx : DbTx) (msgTx : MsgTx) (acc : VoteAcc) :
    Outcome (Except String VoteAcc) :=
  match p.ssgenVoteBlockValid msgTx with
  | .error e => .ret (.error e)
  | .ok (validity, voteBits) =>
    match msgTx.txIn[0]?, msgTx.txIn[1]? with
    | some in0, some in1 =>
      let ticket := in1.prevHash
      match lookupTicketTxDbID fTx ticket with
      | .error e => .ret (.error e)
      | .ok ticketTxDbID =>
        let acc' := { acc with
          spentTicketHashes := acc.spentTicketHashes ++ [ticket]
          spentTicketDbIDs := acc.spentTicketDbIDs ++ [ticketTxDbID]
          misses := removeMiss acc.misses ticket }
        let row : VoteRow := ⟨tx.blockHeight, tx.txID, tx.blockHash, candidate,
          p.ssgenVersion msgTx, voteBits, validity, ticket, ticketTxDbID, in1.valueIn,
          in0.valueIn, tx.isMainchainBlock⟩
        match calls.voteRow i with
        | .error e => .ret (.error e)
        | .noRows => .ret (.ok { acc' with votes := acc.votes ++ [row] })
        | .id id =>
          let acc'' := { acc' with ids := acc.ids ++ [id], votes := acc.votes ++ [row] }
          if checked && !updateExistingRecords then .ret (.ok acc'')
          else
            match p.ssgenVoteChoices msgTx with
            | .error e => .ret (.error e)
            | .ok choices =>
              match agendaRows p calls i tx choices 0 acc.agendas with
              | .error e => .ret (.error e)
              | .ok ag => .ret (.ok { acc'' with agendas := ag })
    | none, _ => .panic (errIndexOutOfRange 0 msgTx.txIn.length)
    | some _, none => .panic (errIndexOutOfRange 1 msgTx.txIn.length)

/-- The vote loop over the selected votes. -/
def voteLoop : List (DbTx × MsgTx) → Nat → VoteAcc → Outcome (Except String VoteAcc)
  | [], _, acc => .ret (.ok acc)
  | (tx, m) :: rest, i, acc =>
    match voteStep p calls fTx candidate checked updateExistingRecords i tx m acc with
    | .ret (.ok acc') => voteLoop rest (i + 1) acc'
    | .ret (.error e) => .ret (.error e)
    | .panic msg => .panic msg
    | .unfinished => .unfinished

end Loops

/-- The miss inserts, one per entry of `misses`; `sql.ErrNoRows` skips the map
assignment. -/
def missLoop (calls : VoteCalls) (height : Nat) (blockHash candidate : String) :
    List String → Nat → List MissRow → List (String × Nat) →
      Except String (List MissRow × List (String × Nat))
  | [], _, rows, m => .ok (rows, m)
  | t :: rest, i, rows, m =>
    match calls.missRow i with
    | .error e => .error e
    | .noRows => missLoop calls height blockHash candidate rest (i + 1)
        (rows ++ [⟨height, blockHash, candidate, t⟩]) m
    | .id id => missLoop calls height blockHash candidate rest (i + 1)
        (rows ++ [⟨height, blockHash, candidate, t⟩]) (m ++ [(t, id)])

/-- `InsertVotes`.  The panic is the source's check that votes and misses add up
to five whenever the block lists its validators. -/
def insertVotes (p : VoteParser) (calls : VoteCalls) (dbTxns : List DbTx)
    (fTx : Option (String → Except String Nat)) (msgBlock : MsgBlockPG)
    (checked updateExistingRecords : Bool) : Outcome InsertVotesResult :=
  match selectVotes msgBlock.sTransactions dbTxns 0 [] with
  | .panic msg => .panic msg
  | .unfinished => .unfinished
  | .ret (.error e) => .ret (.failed e)
  | .ret (.ok votes) =>
    if votes.length = 0 then .ret ⟨[], [], [], [], [], none, none⟩
    else
      match calls.begin, calls.prepareVote, calls.prepareAgenda with
      | some e, _, _ => .ret (.failed ("unable to begin database transaction: " ++ e))
      | none, some e, _ => .ret (.failed e)
      | none, none, some e => .ret (.failed e)
      | none, none, none =>
        let candidate := msgBlock.prevBlock
        match voteLoop p calls fTx candidate checked updateExistingRecords votes 0
            ⟨[], [], [], msgBlock.validators, [], []⟩ with
        | .panic msg => .panic msg
        | .unfinished => .unfinished
        | .ret (.error e) => .ret (.failed e)
        | .ret (.ok acc) =>
          if 0 < msgBlock.validators.length ∧ acc.ids.length + acc.misses.length ≠ 5 then
            .panic ("votes (" ++ toString acc.ids.length ++ ") + misses (" ++
              toString acc.misses.length ++ ") != 5")
          else
            let done (rows : List MissRow) (m : List (String × Nat)) : InsertVotesResult :=
              ⟨acc.ids, votes.map Prod.fst, acc.spentTicketHashes, acc.spentTicketDbIDs, m,
                calls.commit,
                if calls.commit = none then some ⟨acc.votes, acc.agendas, rows⟩ else none⟩
            if acc.misses.length = 0 then .ret (done [] [])
            else
              match calls.prepareMiss with
              | some e => .ret (.failed e)
              | none =>
                match missLoop calls msgBlock.height msgBlock.blockHash candidate acc.misses 0
                    [] [] with
                | .error e => .ret (.failed e)
                | .ok (rows, m) => .ret (done rows m)

/-! ## The votes of a well-formed block -/

/-- The block's votes: the SSGen entries of `dbTxns` beside their messages. -/
def votesOf (dbTxns : List DbTx) (msgTxs : List MsgTx) : List (DbTx × MsgTx) :=
  (dbTxns.zip msgTxs).filter (·.1.txType = txTypeSSGen)

/-- The ticket a vote spends: the previous outpoint of its input 1. -/
def spentTicket (m : MsgTx) : String := (m.txIn[1]?.map TxIn.prevHash).getD ""

/-- Every SSGen entry of `dbTxns` has its message at the same position of
`msgTxs`, with the same hash, and the message spends a stakebase and a ticket. -/
def Aligned : List DbTx → List MsgTx → Prop
  | [], _ => True
  | tx :: rest, ms =>
    (tx.txType = txTypeSSGen →
      ∃ m, ms.head? = some m ∧ m.txHash = tx.txID ∧ 2 ≤ m.txIn.length) ∧ Aligned rest ms.tail

/-- The tickets the votes spend, in vote order. -/
def spentTickets (votes : List (DbTx × MsgTx)) : List String := votes.map (spentTicket ·.2)

/-- No call of `InsertVotes` fails: the vote parsers and the ticket lookup
answer, every insert returns, each vote insert with a row id, and the
transaction commits. -/
structure CallsSucceed (p : VoteParser) (calls : VoteCalls)
    (fTx : Option (String → Except String Nat)) : Prop where
  blockValid : ∀ m, ∃ v, p.ssgenVoteBlockValid m = .ok v
  choices : ∀ m, ∃ cs, p.ssgenVoteChoices m = .ok cs
  choiceIndex : ∀ s, ∃ n, p.choiceIndexFromStr s = .ok n
  ticket : ∀ t, ∃ n, lookupTicketTxDbID fTx t = .ok n
  begin : calls.begin = none
  prepareVote : calls.prepareVote = none
  prepareAgenda : calls.prepareAgenda = none
  voteRow : ∀ i, ∃ id, calls.voteRow i = .id id
  agendaRow : ∀ i k, ∃ id, calls.agendaRow i k = .id id
  prepareMiss : calls.prepareMiss = none
  missRow : ∀ i e, calls.missRow i ≠ .error e
  commit : calls.commit = none

/-! ## The misses are the multiset difference -/

theorem removeMiss_of_not_mem {ms : List String} {t : String} (h : t ∉ ms) :
    removeMiss ms t = ms := by
  have : ms.findIdx? (· == t) = none :=
    List.findIdx?_eq_none_iff.mpr fun x hx => beq_eq_false_iff_ne.mpr fun e => h (e ▸ hx)
  simp [removeMiss, this]

theorem removeMiss_cons_self (t : String) (rest : List String) :
    removeMiss (t :: rest) t ~ rest := by
  simp only [removeMiss, List.findIdx?_cons, beq_self_eq_true, if_true, List.set_cons_zero]
  rcases List.eq_nil_or_concat rest with rfl | ⟨l, b, rfl⟩
  · simp
  · simp only [List.concat_eq_append, List.getLastD_cons]
    rw [List.getLastD_concat, ← List.cons_append, List.dropLast_concat]
    exact (List.perm_append_singleton b l).symm

theorem removeMiss_cons_of_ne {a t : String} {rest : List String} (hne : a ≠ t)
    (hmem : t ∈ rest) : removeMiss (a :: rest) t = a :: removeMiss rest t := by
  have hsome : (rest.findIdx? (· == t)).isSome := by
    rw [List.findIdx?_isSome]; exact List.any_eq_true.mpr ⟨t, hmem, by simp⟩
  obtain ⟨im, him⟩ := Option.isSome_iff_exists.mp hsome
  have hrest : rest ≠ [] := List.ne_nil_of_mem hmem
  simp only [removeMiss, List.findIdx?_cons, beq_iff_eq, hne, if_false, List.findIdx?_succ, him,
    Option.map_some', List.set_cons_succ, List.getLastD_cons]
  rw [List.dropLast_cons_of_ne_nil (by simpa using hrest)]
  congr 2
  rcases List.eq_nil_or_concat rest with rfl | ⟨l, b, rfl⟩
  · exact absurd rfl hrest
  · simp

theorem removeMiss_perm (ms : List String) (t : String) : removeMiss ms t ~ ms.erase t := by
  induction ms with
  | nil => simp [removeMiss]
  | cons a rest ih =>
    by_cases hat : a = t
    · subst hat; simpa using removeMiss_cons_self a rest
    · by_cases hmem : t ∈ rest
      · rw [removeMiss_cons_of_ne hat hmem, List.erase_cons_tail (by simpa using hat)]
        exact ih.cons a
      · have : t ∉ a :: rest := by simp [Ne.symm hat, hmem]
        rw [removeMiss_of_not_mem this, List.erase_of_not_mem this]

/-- The loop's misses are the multiset difference, up to order. -/
theorem misses_perm_diff (validators spent : List String) :
    spent.foldl removeMiss validators ~ validators.diff spent := by
  induction spent generalizing validators with
  | nil => simp
  | cons t rest ih =>
    simp only [List.foldl_cons, List.diff_cons]
    exact (ih _).trans ((removeMiss_perm validators t).diff_right rest)


/-- Reading `msgTxs[i]` beside the `i`-th entry of `dbTxns` reads the messages
from `msgTxs.drop i` in step. -/
theorem selectVotes_aligned {ms : List MsgTx} : ∀ {dbTxns : List DbTx} {i : Nat}
    (acc : List (DbTx × MsgTx)), Aligned dbTxns (ms.drop i) →
    selectVotes ms dbTxns i acc = .ret (.ok (acc ++ votesOf dbTxns (ms.drop i)))
  | [], _, acc, _ => by simp [selectVotes, votesOf]
  | tx :: rest, i, acc, ⟨htx, hrest⟩ => by
    rw [List.tail_drop] at hrest
    by_cases hs : tx.txType = txTypeSSGen
    · obtain ⟨m, hm, hid, -⟩ := htx hs
      rw [List.head?_drop] at hm
      obtain ⟨hi, rfl⟩ := List.getElem?_eq_some_iff.mp hm
      simp only [selectVotes, hs, if_true, hm, hid, ne_eq, not_true_eq_false, if_false,
        selectVotes_aligned _ hrest]
      rw [List.drop_eq_getElem_cons hi]
      simp [votesOf, hs, -List.getElem_cons_drop]
    · have hz : votesOf (tx :: rest) (ms.drop i) = votesOf rest (ms.drop i).tail := by
        cases ms.drop i <;> simp [votesOf, hs]
      rw [List.tail_drop] at hz
      simp only [selectVotes, hs, if_false, selectVotes_aligned _ hrest, hz]

theorem votesOf_inputs : ∀ {dbTxns : List DbTx} {ms : List MsgTx}, Aligned dbTxns ms →
    ∀ v ∈ votesOf dbTxns ms, 2 ≤ v.2.txIn.length
  | [], _, _ => by simp [votesOf]
  | tx :: rest, ms, ⟨htx, hrest⟩ => by
    intro v hv
    cases ms with
    | nil => simp [votesOf] at hv
    | cons m ms =>
      simp only [votesOf, List.zip_cons_cons, List.filter_cons] at hv
      split at hv
      · rename_i hdec
        rcases List.mem_cons.mp hv with rfl | hv
        · obtain ⟨m', hm', -, h2⟩ := htx (of_decide_eq_true hdec)
          simp at hm'; subst hm'; exact h2
        · exact votesOf_inputs hrest v hv
      · exact votesOf_inputs hrest v hv


section Success

variable {p : VoteParser} {calls : VoteCalls} {fTx : Option (String → Except String Nat)}
  (h : CallsSucceed p calls fTx)
include h

theorem agendaRows_ok (i : Nat) (tx : DbTx) : ∀ (cs : List (String × String)) (k : Nat)
    (acc : List AgendaRow), ∃ ag, agendaRows p calls i tx cs k acc = .ok ag
  | [], _, acc => ⟨acc, rfl⟩
  | (_, c) :: rest, k, _ => by
    obtain ⟨n, hn⟩ := h.choiceIndex c
    obtain ⟨id, hid⟩ := h.agendaRow i k
    simp only [agendaRows, hn, hid]
    exact agendaRows_ok i tx rest _ _

theorem voteStep_ok (candidate : String) (checked upd : Bool) (i : Nat) (tx : DbTx)
    {m : MsgTx} (acc : VoteAcc) (hin : 2 ≤ m.txIn.length) :
    ∃ acc', voteStep p calls fTx candidate checked upd i tx m acc = .ret (.ok acc') ∧
      acc'.misses = removeMiss acc.misses (spentTicket m) ∧
      acc'.ids.length = acc.ids.length + 1 ∧
      acc'.spentTicketHashes = acc.spentTicketHashes ++ [spentTicket m] := by
  obtain ⟨⟨validity, bits⟩, hv⟩ := h.blockValid m
  obtain ⟨in0, in1, rest, hm⟩ : ∃ in0 in1 rest, m.txIn = in0 :: in1 :: rest := by
    rcases hm : m.txIn with _ | ⟨in0, _ | ⟨in1, rest⟩⟩ <;> simp_all
  obtain ⟨n, hn⟩ := h.ticket in1.prevHash
  obtain ⟨id, hid⟩ := h.voteRow i
  have hs : spentTicket m = in1.prevHash := by simp [spentTicket, hm]
  simp only [voteStep, hv, hm, List.getElem?_cons_zero, List.getElem?_cons_succ, hn, hid]
  split
  · exact ⟨_, rfl, by simp [hs], by simp, by simp [hs]⟩
  · obtain ⟨cs, hcs⟩ := h.choices m
    obtain ⟨ag, hag⟩ := agendaRows_ok h i tx cs 0 acc.agendas
    simp only [hcs, hag]
    exact ⟨_, rfl, by simp [hs], by simp, by simp [hs]⟩

theorem voteLoop_ok (candidate : String) (checked upd : Bool) :
    ∀ (votes : List (DbTx × MsgTx)) (i : Nat) (acc : VoteAcc),
      (∀ v ∈ votes, 2 ≤ v.2.txIn.length) →
      ∃ acc', voteLoop p calls fTx candidate checked upd votes i acc = .ret (.ok acc') ∧
        acc'.misses = (votes.map (spentTicket ·.2)).foldl removeMiss acc.misses ∧
        acc'.ids.length = acc.ids.length + votes.length ∧
        acc'.spentTicketHashes = acc.spentTicketHashes ++ votes.map (spentTicket ·.2)
  | [], _, acc, _ => ⟨acc, rfl, rfl, rfl, by simp⟩
  | (tx, m) :: rest, i, acc, hin => by
    obtain ⟨acc', hstep, hmis, hids, hsp⟩ :=
      voteStep_ok h candidate checked upd i tx acc (hin _ (List.mem_cons_self _ _))
    obtain ⟨acc'', hloop, hmis', hids', hsp'⟩ :=
      voteLoop_ok candidate checked upd rest (i + 1) acc' fun v hv => hin v (List.mem_cons_of_mem _ hv)
    refine ⟨acc'', by simp only [voteLoop, hstep, hloop], ?_, ?_, ?_⟩
    · simp [hmis', hmis]
    · simp [hids', hids]; omega
    · simp [hsp', hsp]

theorem missLoop_ok (height : Nat) (blockHash candidate : String) :
    ∀ (ts : List String) (i : Nat) (rows : List MissRow) (m : List (String × Nat)),
      ∃ rows' m', missLoop calls height blockHash candidate ts i rows m = .ok (rows', m') ∧
        rows'.map (·.ticketHash) = rows.map (·.ticketHash) ++ ts
  | [], _, rows, m => ⟨rows, m, rfl, by simp⟩
  | t :: rest, i, rows, m => by
    have hne := h.missRow i
    cases hr : calls.missRow i with
    | error e => exact absurd hr (hne e)
    | noRows =>
      obtain ⟨r', m', hl, hm⟩ := missLoop_ok height blockHash candidate rest (i + 1)
        (rows ++ [⟨height, blockHash, candidate, t⟩]) m
      exact ⟨r', m', by simp only [missLoop, hr, hl], by simp [hm]⟩
    | id n =>
      obtain ⟨r', m', hl, hm⟩ := missLoop_ok height blockHash candidate rest (i + 1)
        (rows ++ [⟨height, blockHash, candidate, t⟩]) (m ++ [(t, n)])
      exact ⟨r', m', by simp only [missLoop, hr, hl], by simp [hm]⟩

end Success


theorem length_diff_of_subset : ∀ {V spent : List String}, spent.Nodup →
    (∀ t ∈ spent, t ∈ V) → (V.diff spent).length = V.length - spent.length
  | _, [], _, _ => by simp
  | V, t :: rest, hnd, hsub => by
    have ht : t ∈ V := hsub t (List.mem_cons_self _ _)
    have hrest : ∀ x ∈ rest, x ∈ V.erase t := fun x hx =>
      (List.mem_erase_of_ne fun e => (List.nodup_cons.mp hnd).1 (by subst e; exact hx)).mpr
        (hsub x (List.mem_cons_of_mem _ hx))
    rw [List.diff_cons, length_diff_of_subset (List.nodup_cons.mp hnd).2 hrest,
      List.length_erase_of_mem ht, List.length_cons]
    omega

/-- What `InsertVotes` does with the misses of a block: they are `Validators`
less the spent tickets as a multiset, up to order; the call panics exactly when
the block lists validators and votes and misses do not add up to five, and
otherwise returns one id per vote and stores those misses; with distinct spent
tickets drawn from `Validators` the counts add up to `len(Validators)` and the
misses are `Validators` without the spent tickets. -/
def MissesStored (p : VoteParser) (calls : VoteCalls) (dbTxns : List DbTx)
    (fTx : Option (String → Except String Nat)) (msgBlock : MsgBlockPG)
    (checked upd : Bool) : Prop :=
  let votes := votesOf dbTxns msgBlock.sTransactions
  let V := msgBlock.validators
  ∃ ms : List String, ms ~ V.diff (spentTickets votes) ∧
    (0 < V.length → votes.length + ms.length ≠ 5 →
      ∃ msg, insertVotes p calls dbTxns fTx msgBlock checked upd = .panic msg) ∧
    ((0 < V.length → votes.length + ms.length = 5) →
      ∃ r, insertVotes p calls dbTxns fTx msgBlock checked upd = .ret r ∧ r.err = none ∧
        r.ids.length = votes.length ∧ r.spentTicketHashes = spentTickets votes ∧
        r.stored.map (·.misses.map (·.ticketHash)) = some ms) ∧
    ((spentTickets votes).Nodup → (∀ t ∈ spentTickets votes, t ∈ V) →
      votes.length + ms.length = V.length ∧
      (V.Nodup → ms ~ V.filter (· ∉ spentTickets votes)))

/-- The selection of an aligned block's votes. -/
theorem selectVotes_votesOf {dbTxns : List DbTx} {ms : List MsgTx} (haligned : Aligned dbTxns ms) :
    selectVotes ms dbTxns 0 [] = .ret (.ok (votesOf dbTxns ms)) :=
  selectVotes_aligned [] haligned

/-- The misses of a block with votes, with no failing call. -/
theorem insertVotes_missesStored {p : VoteParser} {calls : VoteCalls}
    {fTx : Option (String → Except String Nat)} {dbTxns : List DbTx} {msgBlock : MsgBlockPG}
    {checked upd : Bool}
    (haligned : Aligned dbTxns msgBlock.sTransactions)
    (hvotes : votesOf dbTxns msgBlock.sTransactions ≠ [])
    (hok : CallsSucceed p calls fTx) :
    MissesStored p calls dbTxns fTx msgBlock checked upd := by
  unfold MissesStored
  intro votes V
  have hsel := selectVotes_votesOf haligned
  have hlen : votes.length ≠ 0 := fun h0 => hvotes (List.eq_nil_of_length_eq_zero h0)
  obtain ⟨acc, hloop, hmis, hids, hsp⟩ := voteLoop_ok hok msgBlock.prevBlock checked upd votes 0
    ⟨[], [], [], V, [], []⟩ (votesOf_inputs haligned)
  have hperm : acc.misses ~ V.diff (spentTickets votes) := hmis ▸ misses_perm_diff V _
  simp only [List.length_nil, Nat.zero_add] at hids
  refine ⟨acc.misses, hperm, fun hpos hne => ?_, fun h5 => ?_, fun hnd hsub => ?_⟩
  · simp only [insertVotes, hsel, hlen, if_false, hok.begin, hok.prepareVote,
      hok.prepareAgenda, hloop]
    rw [if_pos ⟨hpos, hids ▸ hne⟩]; exact ⟨_, rfl⟩
  · simp only [insertVotes, hsel, hlen, if_false, hok.begin, hok.prepareVote,
      hok.prepareAgenda, hloop]
    rw [if_neg fun ⟨hpos, hne⟩ => hne (hids ▸ h5 hpos)]
    obtain ⟨rows, m, hml, hrows⟩ := missLoop_ok hok msgBlock.height msgBlock.blockHash
      msgBlock.prevBlock acc.misses 0 [] []
    by_cases h0 : acc.misses.length = 0
    · refine ⟨_, by rw [if_pos h0], ?_⟩
      simp [hok.commit, hids, hsp, spentTickets, List.eq_nil_of_length_eq_zero h0]
    · refine ⟨_, by rw [if_neg h0, hok.prepareMiss]; simp only [hml]; rfl, ?_⟩
      simp [hok.commit, hids, hsp, spentTickets, hrows]
  · have hl := hperm.length_eq
    rw [length_diff_of_subset hnd hsub] at hl
    have hsl : (spentTickets votes).length = votes.length := by simp [spentTickets]
    have hle := (List.subperm_of_subset hnd hsub).length_le
    exact ⟨by omega, fun hV => hperm.trans (by rw [List.Nodup.diff_eq_filter hV])⟩

/-- **The stored misses are `Validators` less the spent tickets.**  For an
aligned block, `InsertVotes` returns before it looks at `Validators` when the
block has no vote, with every slice nil and nothing stored; with at least one
vote and no failing call the misses are stored as `MissesStored` says, so five
distinct validators and distinct spent tickets drawn from them never reach the
panic. -/
theorem insertVotes_misses {p : VoteParser} {calls : VoteCalls}
    {fTx : Option (String → Except String Nat)} {dbTxns : List DbTx} {msgBlock : MsgBlockPG}
    {checked upd : Bool}
    (haligned : Aligned dbTxns msgBlock.sTransactions) :
    (votesOf dbTxns msgBlock.sTransactions = [] →
      insertVotes p calls dbTxns fTx msgBlock checked upd = .ret ⟨[], [], [], [], [], none, none⟩) ∧
    (CallsSucceed p calls fTx → votesOf dbTxns msgBlock.sTransactions ≠ [] →
      MissesStored p calls dbTxns fTx msgBlock checked upd) := by
  refine ⟨fun h0 => ?_, fun hok hvotes => insertVotes_missesStored haligned hvotes hok⟩
  simp only [insertVotes, selectVotes_votesOf haligned, h0, List.length_nil, if_true]

/-- One vote spending the second of five validators, with every call succeeding. -/
theorem insertVotes_misses_one_vote :
    Aligned [⟨2, "v1", "blk", 4096, 0, true⟩] [⟨"v1", [⟨5, "stakebase"⟩, ⟨100, "t2"⟩]⟩] ∧
      votesOf [⟨2, "v1", "blk", 4096, 0, true⟩] [⟨"v1", [⟨5, "stakebase"⟩, ⟨100, "t2"⟩]⟩] ≠ [] ∧
      CallsSucceed ⟨fun _ => 0, fun _ => .ok (true, 1), fun _ => .ok [], fun _ => .ok 0,
          fun _ => none⟩
        ⟨none, none, none, fun _ => .id 1, fun _ _ => .id 1, none, fun _ => .id 1, none⟩ none ∧
      MissesStored ⟨fun _ => 0, fun _ => .ok (true, 1), fun _ => .ok [], fun _ => .ok 0,
          fun _ => none⟩
        ⟨none, none, none, fun _ => .id 1, fun _ _ => .id 1, none, fun _ => .id 1, none⟩
        [⟨2, "v1", "blk", 4096, 0, true⟩] none
        ⟨[⟨"v1", [⟨5, "stakebase"⟩, ⟨100, "t2"⟩]⟩], ["t1", "t2", "t3", "t4", "t5"], "prev", 4096,
          "blk"⟩ true false :=
  have h1 : Aligned [⟨2, "v1", "blk", 4096, 0, true⟩]
      [⟨"v1", [⟨5, "stakebase"⟩, ⟨100, "t2"⟩]⟩] :=
    ⟨fun _ => ⟨_, rfl, rfl, by decide⟩, trivial⟩
  have h2 : votesOf [⟨2, "v1", "blk", 4096, 0, true⟩]
      [⟨"v1", [⟨5, "stakebase"⟩, ⟨100, "t2"⟩]⟩] ≠ [] := by decide
  have h3 : CallsSucceed ⟨fun _ => 0, fun _ => .ok (true, 1), fun _ => .ok [], fun _ => .ok 0,
        fun _ => none⟩
      ⟨none, none, none, fun _ => .id 1, fun _ _ => .id 1, none, fun _ => .id 1, none⟩ none :=
    ⟨fun _ => ⟨_, rfl⟩, fun _ => ⟨_, rfl⟩, fun _ => ⟨_, rfl⟩, fun _ => ⟨_, rfl⟩, rfl, rfl, rfl,
      fun _ => ⟨_, rfl⟩, fun _ _ => ⟨_, rfl⟩, rfl, fun _ _ => RowResult.noConfusion, rfl⟩
  ⟨h1, h2, h3, (insertVotes_misses h1).2 h3 h2⟩

/-- A block that lists a validator and holds no vote: `InsertVotes` returns before
it computes misses and stores none, while `Validators` less the (no) spent
tickets is that validator. -/
theorem insertVotes_no_votes_no_misses :
    insertVotes ⟨fun _ => 0, fun _ => .ok (true, 1), fun _ => .ok [], fun _ => .ok 0,
        fun _ => none⟩
      ⟨none, none, none, fun _ => .id 1, fun _ _ => .id 1, none, fun _ => .id 1, none⟩
      [] none ⟨[], ["t1"], "prev", 600, "blk"⟩ true false =
        .ret ⟨[], [], [], [], [], none, none⟩ ∧
      (["t1"] : List String).diff (spentTickets []) = ["t1"] := ⟨rfl, rfl⟩

end HcData.Pg
