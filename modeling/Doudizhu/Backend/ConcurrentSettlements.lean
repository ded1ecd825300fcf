import Doudizhu.Backend.Coins
import Doudizhu.Lib.Steps

/-! # Concurrent settlements

The transactions of `GameController.settle` when the backend serves several at once.  Reads
do not lock, and `Player` has no version: a transaction reads the row and the absence of its
record, computes the new balance, and commits that balance with the record, whatever the row
says by then.  The unique key of `game_records` refuses a record that is there already, and its
columns a text that is too long.
-/

namespace Doudizhu.Backend

/-! ## Transactions -/

inductive TransactionPhase where
  | waiting
  /-- The balance that was read, and the one to commit. -/
  | computed (read coins : Int)
  | committed
  /-- Answered, with a refusal or as a duplicate, and nothing to commit. -/
  | ended
deriving DecidableEq

/-- A settle request whose change was read as an `int`. -/
abbrev IntRequest : Type := { request : SettlementRequest // IsInt request.coinChange }

structure Transaction where
  request : IntRequest
  phase : TransactionPhase := .waiting

/-- `settle` up to its commit. -/
def Ledger.compute (ledger : Ledger) (request : SettlementRequest) : TransactionPhase :=
  if request.valid then
    match ledger.players.lookup request.playerId with
    | none => .ended
    | some coins =>
      if ledger.recorded request.gameId request.playerId then .ended
      else
        match changeCoins coins request.coinChange with
        | .error _ => .ended
        | .ok new => .computed coins new
  else .ended

/-- `game_records` takes the row of the request. -/
def Ledger.saves (ledger : Ledger) (request : SettlementRequest) : Bool :=
  storable request.gameId && storable request.result &&
    !ledger.recorded request.gameId request.playerId

structure Settling where
  ledger : Ledger
  transactions : List Transaction

inductive SettlingEvent where
  | read (index : Nat)
  | commit (index : Nat)
deriving DecidableEq

namespace Settling

def start (ledger : Ledger) (requests : List IntRequest) : Settling where
  ledger := ledger
  transactions := requests.map fun request => { request }

def moveOn (settling : Settling) (index : Nat) (phase : TransactionPhase) : Settling :=
  { settling with
    transactions := settling.transactions.modify index fun transaction => { transaction with phase } }

def step (settling : Settling) : SettlingEvent → Settling
  | .read index =>
    match settling.transactions[index]? with
    | some ⟨request, .waiting⟩ => settling.moveOn index (settling.ledger.compute request)
    | _ => settling
  | .commit index =>
    match settling.transactions[index]? with
    | some ⟨request, .computed _ coins⟩ =>
      if settling.ledger.saves request.val then
        { settling.moveOn index .committed with
          ledger :=
            { players := settling.ledger.players.insert request.val.playerId coins
              gameRecords := settling.ledger.gameRecords ++ [request.val.record] } }
      else settling.moveOn index .ended
    | _ => settling

end Settling

structure SettlingCall where
  event : SettlingEvent
  before : Settling
  after : Settling

def Settling.run (settling : Settling) : List SettlingEvent → List SettlingCall × Settling
  | [] => ([], settling)
  | event :: events =>
    let next := settling.step event
    let (trace, finish) := next.run events
    (⟨event, settling, next⟩ :: trace, finish)

/-- A transaction that runs alone does what `settle` does. -/
theorem alone_settles (ledger : Ledger) (request : IntRequest)
    (gameId : storable request.val.gameId) (result : storable request.val.result) :
    (((Settling.start ledger [request]).step (.read 0)).step (.commit 0)).ledger =
      ledger.afterSettle request := by
  simp only [Settling.start, List.map_cons, List.map_nil, Settling.step, List.getElem?_cons_zero,
    Settling.moveOn, List.modify_cons, Ledger.compute, Ledger.afterSettle, Ledger.settle]
  by_cases valid : request.val.valid
  · cases known : ledger.players.lookup request.val.playerId with
    | none => simp [valid]
    | some coins =>
      by_cases old : ledger.recorded request.val.gameId request.val.playerId
      · simp [valid, old]
      · cases changed : changeCoins coins request.val.coinChange with
        | error refusal => simp [valid, old, changed, bind, Except.bind]
        | ok new => simp [valid, old, changed, bind, Except.bind, Ledger.saves, gameId, result]
  · simp [valid]

/-! ## Balances -/

def Settling.coins (settling : Settling) (player : String) : Int :=
  (settling.ledger.players.lookup player).getD 0

/-- The transaction counts for the player's balance. -/
def Transaction.counts (transaction : Transaction) (player : String) : Bool :=
  transaction.request.val.playerId == player && transaction.phase == .committed

/-- The changes that were committed for the player. -/
def Settling.committed (settling : Settling) (player : String) : Int :=
  (settling.transactions.map fun transaction =>
    if transaction.counts player then transaction.request.val.coinChange else 0).sum

/-- The transaction that the step commits, with the balance it read. -/
def SettlingCall.commits (call : SettlingCall) : Option (SettlementRequest × Int) :=
  match call.event with
  | .read _ => none
  | .commit index =>
    match call.before.transactions[index]? with
    | some ⟨request, .computed read _⟩ =>
      if call.before.ledger.saves request.val then some (request, read) else none
    | _ => none

/-- A transaction commits on the balance that it read. -/
def SettlingCall.Fresh (call : SettlingCall) : Prop :=
  ∀ request read, call.commits = some (request, read) →
    call.before.ledger.players.lookup request.playerId = some read

/-- What a commit overwrites: the changes of the player since the transaction read. -/
def SettlingCall.lost (call : SettlingCall) (player : String) : Int :=
  match call.commits with
  | none => 0
  | some (request, read) => if request.playerId = player then call.before.coins player - read else 0

def lostAlong (trace : List SettlingCall) (player : String) : Int :=
  (trace.map fun call => call.lost player).sum

theorem lostAlong_snoc (trace : List SettlingCall) (call : SettlingCall) (player : String) :
    lostAlong (trace ++ [call]) player = lostAlong trace player + call.lost player := by
  simp [lostAlong]

/-! ## The invariant -/

/-- A list around one of its elements. -/
theorem modify_split {α : Type} {list : List α} {index : Nat} {element : α} (change : α → α)
    (found : list[index]? = some element) :
    ∃ left right, list = left ++ element :: right ∧
      list.modify index change = left ++ change element :: right := by
  obtain ⟨inside, rfl⟩ := List.getElem?_eq_some_iff.mp found
  refine ⟨list.take index, list.drop (index + 1), ?_, List.modify_eq_take_cons_drop inside⟩
  rw [List.getElem_cons_drop, List.take_append_drop]

/-- What holds along a run: balances are in bounds, and what is computed is the balance that
    was read with the change; the balance of the player is the one at the start, with what
    was committed and without what was lost. -/
structure SettlingInv (player : String) (start : Settling) (trace : List SettlingCall)
    (settling : Settling) : Prop where
  balance : ∀ name coins, settling.ledger.players.lookup name = some coins → IsBalance coins
  computed : ∀ transaction ∈ settling.transactions, ∀ read coins,
    transaction.phase = .computed read coins →
      coins = read + transaction.request.val.coinChange ∧ IsBalance coins
  requests : settling.transactions.map Transaction.request = start.transactions.map Transaction.request
  account : settling.coins player =
    start.coins player + settling.committed player - lostAlong trace player

theorem computed_compute {ledger : Ledger} {request : IntRequest} {read coins : Int}
    (balance : ∀ name coins, ledger.players.lookup name = some coins → IsBalance coins)
    (computed : ledger.compute request = .computed read coins) :
    coins = read + request.val.coinChange ∧ IsBalance coins := by
  unfold Ledger.compute at computed
  split at computed
  · split at computed
    · cases computed
    · next found known =>
      split at computed
      · cases computed
      · split at computed
        · cases computed
        · next new changed =>
          injection computed with readSame newSame
          subst readSame newSame
          -- the only case that computes: the sum is in bounds, and so it has not wrapped
          rw [changeCoins_spec (balance _ _ known) request.property] at changed
          split at changed
          · next fits =>
            injection changed with same
            exact ⟨same.symm, same ▸ fits⟩
          · cases changed
  · cases computed

theorem committed_moveOn {settling : Settling} {index : Nat} {transaction : Transaction}
    (phase : TransactionPhase) (found : settling.transactions[index]? = some transaction)
    (uncounted : transaction.phase ≠ .committed) (player : String) :
    (settling.moveOn index phase).committed player = settling.committed player +
      if ({ transaction with phase } : Transaction).counts player
        then transaction.request.val.coinChange else 0 := by
  obtain ⟨left, right, split, modified⟩ :=
    modify_split (fun transaction => { transaction with phase := phase }) found
  -- the one that moves did not count before
  have before : transaction.counts player = false := by
    simp [Transaction.counts, uncounted]
  unfold Settling.committed Settling.moveOn
  rw [modified, split]
  simp only [List.map_append, List.map_cons, List.sum_append, List.sum_cons, before,
    Bool.false_eq_true, if_false]
  omega

theorem requests_moveOn (settling : Settling) (index : Nat) (phase : TransactionPhase) :
    (settling.moveOn index phase).transactions.map Transaction.request =
      settling.transactions.map Transaction.request := by
  apply List.ext_getElem?
  intro place
  simp only [Settling.moveOn, List.getElem?_map, List.getElem?_modify]
  cases settling.transactions[place]? with
  | none => rfl
  | some transaction =>
    simp only [Option.map_some, Functor.map]
    split <;> rfl

theorem mem_moveOn {settling : Settling} {index : Nat} {transaction other : Transaction}
    {phase : TransactionPhase} (found : settling.transactions[index]? = some transaction)
    (member : other ∈ (settling.moveOn index phase).transactions) :
    other = { transaction with phase } ∨ other ∈ settling.transactions := by
  obtain ⟨left, right, split, modified⟩ :=
    modify_split (fun transaction => { transaction with phase := phase }) found
  rw [Settling.moveOn, modified] at member
  rw [split]
  simp only [List.mem_append, List.mem_cons] at member ⊢
  tauto

/-- A transaction that reads, or ends, changes no balance. -/
theorem settlingInv_moveOn {player : String} {start settling : Settling} {trace : List SettlingCall}
    (holds : SettlingInv player start trace settling) {event : SettlingEvent} {index : Nat}
    {transaction : Transaction} {phase : TransactionPhase}
    (found : settling.transactions[index]? = some transaction)
    (uncounted : transaction.phase ≠ .committed) (quiet : phase ≠ .committed)
    (computed : ∀ read coins, phase = .computed read coins →
      coins = read + transaction.request.val.coinChange ∧ IsBalance coins)
    (commits : SettlingCall.commits ⟨event, settling, settling.moveOn index phase⟩ = none) :
    SettlingInv player start (trace ++ [⟨event, settling, settling.moveOn index phase⟩])
      (settling.moveOn index phase) := by
  refine ⟨holds.balance, ?_, (requests_moveOn ..).trans holds.requests, ?_⟩
  · intro other member read coins own
    obtain rfl | old := mem_moveOn found member
    · exact computed read coins own
    · exact holds.computed other old read coins own
  -- it does not count afterwards either
  · have silent : ({ transaction with phase } : Transaction).counts player = false := by
      simp [Transaction.counts, quiet]
    have none : SettlingCall.lost ⟨event, settling, settling.moveOn index phase⟩ player = 0 := by
      rw [SettlingCall.lost, commits]
    rw [committed_moveOn phase found uncounted, silent, lostAlong_snoc, none]
    have account := holds.account
    simpa [Settling.coins, Settling.moveOn] using account

/-- A step that is refused leaves everything. -/
theorem settlingInv_still {player : String} {start settling : Settling} {trace : List SettlingCall}
    (holds : SettlingInv player start trace settling) {event : SettlingEvent}
    (commits : SettlingCall.commits ⟨event, settling, settling⟩ = none) :
    SettlingInv player start (trace ++ [⟨event, settling, settling⟩]) settling := by
  refine ⟨holds.balance, holds.computed, holds.requests, ?_⟩
  have none : SettlingCall.lost ⟨event, settling, settling⟩ player = 0 := by
    rw [SettlingCall.lost, commits]
  rw [lostAlong_snoc, none, Int.add_zero]
  exact holds.account

/-- A commit sets the balance that was computed, over what the row says by then. -/
theorem settlingInv_commit {player : String} {start settling next : Settling} {trace : List SettlingCall}
    (holds : SettlingInv player start trace settling) {event : SettlingEvent} {index : Nat}
    {request : IntRequest} {read coins : Int}
    (found : settling.transactions[index]? = some ⟨request, .computed read coins⟩)
    (commits : SettlingCall.commits ⟨event, settling, next⟩ = some (request.val, read))
    (records : List GameRecord)
    (after : next = { settling.moveOn index .committed with
      ledger := ⟨settling.ledger.players.insert request.val.playerId coins, records⟩ }) :
    SettlingInv player start (trace ++ [⟨event, settling, next⟩]) next := by
  obtain ⟨exact, balance⟩ := holds.computed _ (List.mem_of_getElem? found) read coins rfl
  refine ⟨?_, ?_, ?_, ?_⟩
  · intro name other known
    rw [after, UnorderedMap.find_insert] at known
    split at known
    · cases known
      exact balance
    · exact holds.balance name other known
  · intro other member
    rw [after] at member
    obtain rfl | old := mem_moveOn found member
    · simp
    · exact holds.computed other old
  · rw [after]
    exact (requests_moveOn ..).trans holds.requests
  · have account := holds.account
    have counted : next.committed player = settling.committed player +
        if request.val.playerId = player then request.val.coinChange else 0 := by
      have counts : Transaction.counts ⟨request, .committed⟩ player =
          decide (request.val.playerId = player) := by
        simp [Transaction.counts, Bool.beq_eq_decide_eq]
      have gained := committed_moveOn .committed found (by simp) player
      rw [counts] at gained
      have same : next.committed player = (settling.moveOn index .committed).committed player := by
        rw [after]
        rfl
      rw [same]
      simpa using gained
    -- the row gets what was computed, whatever it says by now
    have row : next.coins player =
        if player = request.val.playerId then coins else settling.coins player := by
      rw [after, Settling.coins, UnorderedMap.find_insert]
      split <;> rfl
    have lost : SettlingCall.lost ⟨event, settling, next⟩ player =
        if request.val.playerId = player then settling.coins player - read else 0 := by
      rw [SettlingCall.lost, commits]
    rw [row, counted, lostAlong_snoc, lost]
    -- what the row had gained since the read is lost
    by_cases own : request.val.playerId = player
    · have sum : coins = read + request.val.coinChange := exact
      rw [if_pos own.symm, if_pos own, if_pos own]
      omega
    · rw [if_neg (Ne.symm own), if_neg own, if_neg own]
      omega

theorem settlingInv_step {player : String} {start settling : Settling} {trace : List SettlingCall}
    (holds : SettlingInv player start trace settling) (event : SettlingEvent) :
    SettlingInv player start (trace ++ [⟨event, settling, settling.step event⟩]) (settling.step event) := by
  cases event with
  | read index =>
    simp only [Settling.step]
    split
    · next request found =>
      refine settlingInv_moveOn holds found (by simp) ?_ ?_ rfl
      · unfold Ledger.compute
        repeat' split
        all_goals simp
      · exact fun read coins own => computed_compute holds.balance own
    · exact settlingInv_still holds rfl
  | commit index =>
    simp only [Settling.step]
    split
    · next request read coins found =>
      split
      · next saves =>
        apply settlingInv_commit holds found _ _ rfl
        simp [SettlingCall.commits, found, saves]
      · next refused =>
        apply settlingInv_moveOn holds found (by simp) (by simp) (by simp)
        simp [SettlingCall.commits, found, refused]
    · next other =>
      apply settlingInv_still holds
      simp only [SettlingCall.commits]

theorem settlingInv_run {player : String} {start : Settling} (events : List SettlingEvent) :
    ∀ {settling : Settling} {trace : List SettlingCall}, SettlingInv player start trace settling →
      SettlingInv player start (trace ++ (settling.run events).1) (settling.run events).2 := by
  induction events with
  | nil => intro settling trace holds; simpa [Settling.run] using holds
  | cons event events inductionHypothesis =>
    intro settling trace holds
    have rest := inductionHypothesis (settlingInv_step holds event)
    simpa [Settling.run] using rest

theorem settlingInv_start {ledger : Ledger} (holds : LedgerInv ledger) (requests : List IntRequest)
    (player : String) :
    SettlingInv player (Settling.start ledger requests) [] (Settling.start ledger requests) := by
  refine ⟨holds.balance, ?_, rfl, ?_⟩
  · intro transaction member read coins computed
    obtain ⟨request, _, rfl⟩ := List.mem_map.mp member
    cases computed
  · have none : (Settling.start ledger requests).committed player = 0 := by
      simp [Settling.committed, Settling.start, Transaction.counts, Function.comp_def]
    rw [none]
    simp [lostAlong]

/-! ## What is lost -/

/-- The changes that the requests ask for the player. -/
def asked (requests : List IntRequest) (player : String) : Int :=
  (requests.map fun request =>
    if request.val.playerId = player then request.val.coinChange else 0).sum

/-- Nothing is lost where every commit is on the balance that it read. -/
theorem lostAlong_fresh {trace : List SettlingCall} (fresh : ∀ call ∈ trace, call.Fresh)
    (player : String) : lostAlong trace player = 0 := by
  apply List.sum_eq_zero
  intro lost member
  obtain ⟨call, occurs, rfl⟩ := List.mem_map.mp member
  unfold SettlingCall.lost
  split
  · rfl
  · next request read commits =>
    have row := fresh call occurs request read commits
    split
    · next own => rw [← own, Settling.coins, row, Option.getD_some, Int.sub_self]
    · rfl

def Settling.AllCommitted (settling : Settling) : Prop :=
  ∀ transaction ∈ settling.transactions, transaction.phase = .committed

/-- Where all have committed, what was asked was committed. -/
theorem committed_all {settling : Settling} {requests : List IntRequest}
    (same : settling.transactions.map Transaction.request = requests)
    (all : settling.AllCommitted) (player : String) :
    settling.committed player = asked requests player := by
  rw [asked, ← same, List.map_map]
  apply congrArg List.sum
  apply List.map_congr_left
  intro transaction member
  simp [Transaction.counts, all transaction member]

/-- The final balance is the initial one with the changes of the transactions, all of which
    commit, wherever each of them commits on the balance that it read.  In general it is
    exactly when what commits overwrite cancels out, since a balance is always the initial
    one with what was committed and without what was overwritten. -/
theorem concurrent_settlements (history : List LedgerRequest) (requests : List IntRequest)
    (events : List SettlingEvent) (player : String) :
    let start := Settling.start (history.foldl Ledger.handle {}) requests
    let (trace, finish) := start.run events
    ((∀ call ∈ trace, call.Fresh) → finish.AllCommitted →
      finish.coins player = start.coins player + asked requests player) ∧
    (finish.AllCommitted → (finish.coins player = start.coins player + asked requests player ↔
      lostAlong trace player = 0)) ∧
    finish.coins player = start.coins player + finish.committed player - lostAlong trace player := by
  intro start
  have holds : SettlingInv player start (start.run events).1 (start.run events).2 :=
    settlingInv_run events
      (settlingInv_start (ledgerInv_run history ledgerInv_start) requests player)
  generalize start.run events = run at holds ⊢
  obtain ⟨trace, finish⟩ := run
  have account : finish.coins player =
      start.coins player + finish.committed player - lostAlong trace player := holds.account
  have same : finish.transactions.map Transaction.request = requests := by
    rw [holds.requests]
    simp [start, Settling.start, Function.comp_def]
  refine ⟨?_, ?_, account⟩
  · intro fresh all
    rw [account, lostAlong_fresh fresh, Int.sub_zero, committed_all same all]
  · intro all
    rw [account, committed_all same all]
    omega

/-- Two settlements of one player, for two games. -/
def twoGames : List IntRequest :=
  [⟨settlementRequest "1" "ann" 100 "WIN" 60, isInt_toInt 100⟩,
    ⟨settlementRequest "2" "ann" 100 "WIN" 60, isInt_toInt 100⟩]

/-- Both read the balance before either commits: both games are on record, and one is paid. -/
theorem settlement_lost :
    let start := Settling.start ([LedgerRequest.login "ann"].foldl Ledger.handle {}) twoGames
    let (_, finish) := start.run [.read 0, .read 1, .commit 0, .commit 1]
    finish.AllCommitted ∧ finish.ledger.gameRecords.map GameRecord.gameId = ["1", "2"] ∧
      start.coins "ann" = 1000 ∧ asked twoGames "ann" = 200 ∧ finish.coins "ann" = 1100 := by
  unfold Settling.AllCommitted
  decide +kernel

end Doudizhu.Backend
