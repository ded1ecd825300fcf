import Mathlib.Tactic.Ring
import Doudizhu.Backend.Ledger

/-! # Coins

The balance of a player is the initial one plus the changes on record, over any sequence of
logins and settlements: the one guard, on a sum that may have wrapped, refuses exactly the
sums that are not balances.  The ledger here tells ids apart by their characters, and takes
a text iff it fits its column; `Backend.Database` says what MySQL does.
-/

namespace Doudizhu.Backend

/-! ## Requests -/

inductive LedgerRequest where
  | login (playerId : String)
  | settle (gameId playerId : String) (coinChange : Int32) (result : String) (durationSeconds : Int64)
deriving DecidableEq

/-- A text that its column, `VARCHAR(255)`, keeps as it is. -/
def storable (text : String) : Bool := text.length ≤ 255

/-- The body of a settle request, with the types that the JSON is read at. -/
def settlementRequest (gameId playerId : String) (coinChange : Int32) (result : String)
    (durationSeconds : Int64) : SettlementRequest where
  gameId := gameId
  playerId := playerId
  coinChange := coinChange.toInt
  result := result
  durationSeconds := durationSeconds.toInt

/-- The tables after a request. -/
def Ledger.handle (ledger : Ledger) : LedgerRequest → Ledger
  | .login playerId => ledger.afterLogin playerId
  | .settle gameId playerId coinChange result durationSeconds =>
    if storable gameId && storable result then
      ledger.afterSettle (settlementRequest gameId playerId coinChange result durationSeconds)
    else ledger

/-- `findByPlayerId` -/
def Ledger.recordsOf (ledger : Ledger) (playerId : String) : List GameRecord :=
  ledger.gameRecords.filter fun record => record.playerId == playerId

/-- The exact sum of the changes on record. -/
def Ledger.changes (ledger : Ledger) (playerId : String) : Int :=
  ((ledger.recordsOf playerId).map GameRecord.coinChange).sum

/-! ## What a settlement needs -/

/-- The request is valid, and new for a player whose balance stays one with it. -/
structure Ledger.Accepts (ledger : Ledger) (request : SettlementRequest) (coins : Int) : Prop where
  valid : request.valid
  known : ledger.players.lookup request.playerId = some coins
  new : ledger.recorded request.gameId request.playerId = false
  lower : 0 ≤ coins + request.coinChange
  upper : coins + request.coinChange < 2 ^ 31

def Ledger.applied (ledger : Ledger) (request : SettlementRequest) (coins : Int) : Ledger where
  players := ledger.players.insert request.playerId (coins + request.coinChange)
  gameRecords := ledger.gameRecords ++ [request.record]

def IsInt (value : Int) : Prop := -2 ^ 31 ≤ value ∧ value < 2 ^ 31

/-- The values that a balance may have. -/
def IsBalance (value : Int) : Prop := 0 ≤ value ∧ value < 2 ^ 31

/-- A sum that is no balance wraps to a negative number, or is one. -/
theorem changeCoins_spec {coins amount : Int} (balance : IsBalance coins) (int : IsInt amount) :
    changeCoins coins amount =
      if 0 ≤ coins + amount ∧ coins + amount < 2 ^ 31 then .ok (coins + amount)
      else .error .insufficientCoins := by
  obtain ⟨coinsLower, coinsUpper⟩ := balance
  obtain ⟨amountLower, amountUpper⟩ := int
  unfold changeCoins
  by_cases fits : 0 ≤ coins + amount ∧ coins + amount < 2 ^ 31
  · rw [intAdd_eq fits.1 fits.2, if_neg (not_lt.mpr fits.1), if_pos fits]
  · have negative : intAdd coins amount < 0 := by
      unfold intAdd
      by_cases low : coins + amount < 0
      · rw [Int.bmod_eq_of_le (by omega) (by omega)]
        exact low
      · -- past the largest `int` the sum comes out one turn of the wheel lower
        have wraps : (coins + amount).bmod (2 ^ 32) = coins + amount - 2 ^ 32 :=
          calc (coins + amount).bmod (2 ^ 32)
            _ = (coins + amount - (2 ^ 32 : Nat)).bmod (2 ^ 32) := (Int.sub_bmod_right ..).symm
            _ = coins + amount - (2 ^ 32 : Nat) := Int.bmod_eq_of_le (by omega) (by omega)
        omega
    rw [if_pos negative, if_neg fits]

namespace Ledger

variable {ledger : Ledger} {request : SettlementRequest}

/-- The specification of `settle`: it applies what the ledger accepts, and nothing else. -/
theorem settle_spec
    (balance : ∀ coins, ledger.players.lookup request.playerId = some coins → IsBalance coins)
    (int : IsInt request.coinChange) :
    (∃ coins, ledger.Accepts request coins ∧ ledger.afterSettle request = ledger.applied request coins) ∨
      (∀ coins, ¬ ledger.Accepts request coins) ∧ ledger.afterSettle request = ledger := by
  by_cases valid : request.valid
  · cases known : ledger.players.lookup request.playerId with
    | none =>
      refine .inr ⟨fun coins accepts => ?_, by simp [afterSettle, settle, valid, known]⟩
      rw [accepts.known] at known
      cases known
    | some coins =>
      cases old : ledger.recorded request.gameId request.playerId with
      | true =>
        refine .inr ⟨fun coins accepts => ?_, settle_ignored (.inr old)⟩
        rw [accepts.new] at old
        cases old
      | false =>
        -- the one guard that can refuse is on the sum, which may have wrapped
        have changed := changeCoins_spec (balance coins known) int
        split at changed
        · next fits =>
          refine .inl ⟨coins, ⟨valid, known, old, fits.1, fits.2⟩, ?_⟩
          simp [afterSettle, settle, valid, known, old, changed, bind, Except.bind, applied]
        · next outside =>
          refine .inr ⟨fun other accepts => outside ?_, ?_⟩
          · obtain rfl : other = coins := Option.some.inj (accepts.known.symm.trans known)
            exact ⟨accepts.lower, accepts.upper⟩
          · simp [afterSettle, settle, valid, known, old, changed, bind, Except.bind]
  · exact .inr ⟨fun _ accepts => valid accepts.valid, settle_ignored (.inl (Bool.eq_false_iff.mpr valid))⟩

/-- A login makes a player known at most, with the initial coins. -/
theorem login_spec (ledger : Ledger) (playerId : String) :
    ledger.afterLogin playerId = ledger ∨
      (ledger.players.lookup playerId = none ∧
        ledger.afterLogin playerId =
          { ledger with players := ledger.players.insert playerId initialCoins }) := by
  unfold afterLogin login
  split
  · next response next done =>
    split at done
    · split at done
      · cases done
        exact .inl rfl
      · next absent =>
        cases done
        exact .inr ⟨absent, rfl⟩
    · cases done
  · exact .inl rfl

end Ledger

/-! ## The invariant -/

structure LedgerInv (ledger : Ledger) : Prop where
  balance : ∀ player coins, ledger.players.lookup player = some coins → IsBalance coins
  exact : ∀ player coins, ledger.players.lookup player = some coins →
    coins = initialCoins + ledger.changes player
  known : ∀ record ∈ ledger.gameRecords, ledger.players.lookup record.playerId ≠ none
  once : (ledger.gameRecords.map fun record => (record.gameId, record.playerId)).Nodup

theorem ledgerInv_start : LedgerInv {} := by
  constructor <;> simp

theorem changes_applied (ledger : Ledger) (request : SettlementRequest) (coins : Int) (player : String) :
    (ledger.applied request coins).changes player =
      ledger.changes player + if request.playerId = player then request.coinChange else 0 := by
  unfold Ledger.changes Ledger.recordsOf Ledger.applied
  rw [List.filter_append, List.map_append, List.sum_append]
  congr 1
  by_cases same : request.playerId = player <;> simp [SettlementRequest.record, same]

/-- Only the sum and the pair matter: a settlement that is new keeps the invariant. -/
theorem ledgerInv_applied {ledger : Ledger} {request : SettlementRequest} {coins : Int}
    (holds : LedgerInv ledger) (known : ledger.players.lookup request.playerId = some coins)
    (new : ledger.recorded request.gameId request.playerId = false)
    (balance : IsBalance (coins + request.coinChange)) : LedgerInv (ledger.applied request coins) := by
  constructor
  · intro player balance found
    rw [Ledger.applied, UnorderedMap.find_insert] at found
    split at found
    · cases found
      assumption
    · exact holds.balance player balance found
  · intro player balance found
    rw [changes_applied]
    rw [Ledger.applied, UnorderedMap.find_insert] at found
    split at found
    · next same =>
      cases found
      subst same
      rw [if_pos rfl, ← Int.add_assoc, ← holds.exact _ _ known]
    · next differ =>
      rw [if_neg (Ne.symm differ), Int.add_zero]
      exact holds.exact player balance found
  · intro record member
    rw [Ledger.applied, UnorderedMap.find_insert]
    split
    · simp
    · next differ =>
      obtain old | new := List.mem_append.mp member
      · exact holds.known record old
      · rw [List.mem_singleton.mp new] at differ
        exact absurd rfl differ
  -- the pair was not on record, so it occurs once now
  · have fresh : (request.gameId, request.playerId) ∉
        ledger.gameRecords.map fun record => (record.gameId, record.playerId) := by
      rw [← Ledger.recorded_iff, new]
      simp
    rw [Ledger.applied, List.map_append, List.nodup_append]
    refine ⟨holds.once, by simp, ?_⟩
    rintro pair old _ added rfl
    rw [List.map_singleton, List.mem_singleton] at added
    exact fresh (added ▸ old)

theorem isInt_toInt (value : Int32) : IsInt value.toInt := ⟨Int32.le_toInt value, Int32.toInt_lt value⟩

theorem ledgerInv_settle {ledger : Ledger} {request : SettlementRequest} (holds : LedgerInv ledger)
    (int : IsInt request.coinChange) : LedgerInv (ledger.afterSettle request) := by
  obtain ⟨coins, accepts, done⟩ | ⟨_, done⟩ := Ledger.settle_spec (holds.balance _) int
  · rw [done]
    exact ledgerInv_applied holds accepts.known accepts.new ⟨accepts.lower, accepts.upper⟩
  · rw [done]
    exact holds

/-- A player who was not known has no records. -/
theorem ledgerInv_opened {ledger : Ledger} {playerId : String} (holds : LedgerInv ledger)
    (absent : ledger.players.lookup playerId = none) :
    LedgerInv { ledger with players := ledger.players.insert playerId initialCoins } := by
  have unrecorded : ledger.changes playerId = 0 := by
    have none : ledger.recordsOf playerId = [] := by
      rw [Ledger.recordsOf, List.filter_eq_nil_iff]
      intro record member same
      exact holds.known record member (beq_iff_eq.mp same ▸ absent)
    rw [Ledger.changes, none]
    rfl
  constructor
  · intro player coins found
    rw [UnorderedMap.find_insert] at found
    split at found
    · cases found
      exact ⟨by decide, by decide⟩
    · exact holds.balance player coins found
  · intro player coins found
    rw [UnorderedMap.find_insert] at found
    split at found
    · next same =>
      cases found
      subst same
      exact (Int.add_zero _).symm.trans (congrArg (initialCoins + ·) unrecorded.symm)
    · exact holds.exact player coins found
  · intro record member
    rw [UnorderedMap.find_insert]
    split
    · simp
    · exact holds.known record member
  · exact holds.once

theorem ledgerInv_handle {ledger : Ledger} (holds : LedgerInv ledger) (request : LedgerRequest) :
    LedgerInv (ledger.handle request) := by
  cases request with
  | login playerId =>
    obtain same | ⟨absent, new⟩ := Ledger.login_spec ledger playerId
    · rw [Ledger.handle, same]
      exact holds
    · rw [Ledger.handle, new]
      exact ledgerInv_opened holds absent
  | settle gameId playerId coinChange result durationSeconds =>
    simp only [Ledger.handle]
    split
    · exact ledgerInv_settle holds (isInt_toInt coinChange)
    · exact holds

theorem ledgerInv_run (requests : List LedgerRequest) {ledger : Ledger} (holds : LedgerInv ledger) :
    LedgerInv (requests.foldl Ledger.handle ledger) := by
  induction requests generalizing ledger with
  | nil => exact holds
  | cons request requests inductionHypothesis => exact inductionHypothesis (ledgerInv_handle holds request)

/-! ## Statistics -/

/-- Adding with wraps is adding, and wrapping once. -/
theorem foldl_intAdd (changes : List Int) (start : Int) :
    changes.foldl intAdd (start.bmod (2 ^ 32)) = (start + changes.sum).bmod (2 ^ 32) := by
  induction changes generalizing start with
  | nil => simp
  | cons change changes inductionHypothesis =>
    have first : intAdd (start.bmod (2 ^ 32)) change = (start + change).bmod (2 ^ 32) :=
      Int.bmod_add_bmod ..
    rw [List.foldl_cons, first, inductionHypothesis, List.sum_cons, Int.add_assoc]

/-- The sum of the changes, with wraps, is what the balance says. -/
theorem wrapped_changes {ledger : Ledger} (holds : LedgerInv ledger) {player : String} {coins : Int}
    (known : ledger.players.lookup player = some coins) :
    ((ledger.recordsOf player).map GameRecord.coinChange).foldl intAdd 0 = coins - initialCoins := by
  have exact : ledger.changes player = coins - initialCoins := by
    rw [holds.exact player coins known]
    omega
  obtain ⟨lower, upper⟩ := holds.balance player coins known
  -- in bounds, so wrapping the sum gives it back
  have small : (coins - initialCoins).bmod (2 ^ 32) = coins - initialCoins := by
    unfold initialCoins
    exact Int.bmod_eq_of_le (by omega) (by omega)
  calc ((ledger.recordsOf player).map GameRecord.coinChange).foldl intAdd 0
    _ = (0 + ledger.changes player).bmod (2 ^ 32) :=
      foldl_intAdd ((ledger.recordsOf player).map GameRecord.coinChange) 0
    _ = coins - initialCoins := by rw [Int.zero_add, exact, small]

end Doudizhu.Backend
