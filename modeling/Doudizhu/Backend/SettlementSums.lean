import Doudizhu.Backend.Coins
import Doudizhu.Backend.Deployment

/-! # The sum of a settlement

The changes of a game add up to nothing.  The backend takes the three requests of a game
one by one, each on its own account, so the coins of the three players add up to what they
were iff it takes all three or none.
-/

namespace Doudizhu.Backend

open Gateway Game

variable {ρ : Type} {shuffler : Shuffler ρ}

/-! ## One request -/

/-- The ledger accepts the request, whatever the balance is. -/
def Ledger.takes (ledger : Ledger) (request : SettlementRequest) : Bool :=
  request.valid && !ledger.recorded request.gameId request.playerId &&
    match ledger.players.lookup request.playerId with
    | none => false
    | some coins => 0 ≤ coins + request.coinChange && coins + request.coinChange < 2 ^ 31

theorem Ledger.takes_iff {ledger : Ledger} {request : SettlementRequest} :
    ledger.takes request ↔ ∃ coins, ledger.Accepts request coins := by
  unfold Ledger.takes
  cases known : ledger.players.lookup request.playerId with
  | none =>
    simp only [Bool.and_false, Bool.false_eq_true, false_iff, not_exists]
    intro coins accepts
    rw [accepts.known] at known
    cases known
  | some coins =>
    simp only [Bool.and_eq_true, Bool.not_eq_true', decide_eq_true_iff]
    constructor
    · rintro ⟨⟨valid, new⟩, lower, upper⟩
      exact ⟨coins, valid, known, new, lower, upper⟩
    · rintro ⟨other, accepts⟩
      obtain rfl : other = coins := Option.some.inj (accepts.known.symm.trans known)
      exact ⟨⟨accepts.valid, accepts.new⟩, accepts.lower, accepts.upper⟩

/-- What the request changes. -/
def Ledger.gain (ledger : Ledger) (request : SettlementRequest) : Int :=
  if ledger.takes request then request.coinChange else 0

/-- The coins of the players together. -/
def Ledger.total (ledger : Ledger) (players : List String) : Int :=
  (players.map fun player => (ledger.players.lookup player).getD 0).sum

theorem total_insert (ledger : Ledger) (records : List GameRecord) {players : List String}
    (nodup : players.Nodup) {player : String} (member : player ∈ players) {coins change : Int}
    (known : ledger.players.lookup player = some coins) :
    Ledger.total ⟨ledger.players.insert player (coins + change), records⟩ players =
      ledger.total players + change := by
  induction players with
  | nil => cases member
  | cons first players inductionHypothesis =>
    obtain ⟨fresh, nodup⟩ := List.nodup_cons.mp nodup
    simp only [Ledger.total, List.map_cons, List.sum_cons, UnorderedMap.find_insert]
    -- the player occurs once, here or further on
    by_cases own : first = player
    · subst own
      have others : (players.map fun other =>
          (if other = first then some (coins + change) else ledger.players.lookup other).getD 0) =
          players.map fun other => (ledger.players.lookup other).getD 0 := by
        apply List.map_congr_left
        intro other inside
        have differ : other ≠ first := by
          rintro rfl
          exact fresh inside
        rw [if_neg differ]
      rw [others, if_pos rfl, known, Option.getD_some, Option.getD_some]
      omega
    · have inside : player ∈ players := (List.mem_cons.mp member).resolve_left fun same => own same.symm
      have rest := inductionHypothesis nodup inside
      simp only [Ledger.total, UnorderedMap.find_insert] at rest
      rw [rest, if_neg own]
      omega

/-- One request changes the coins of its player, and with them the sum. -/
theorem total_settle {ledger : Ledger} (holds : LedgerInv ledger) {request : SettlementRequest}
    (int : IsInt request.coinChange) {players : List String} (nodup : players.Nodup)
    (member : request.playerId ∈ players) :
    (ledger.afterSettle request).total players = ledger.total players + ledger.gain request := by
  obtain ⟨coins, accepts, done⟩ | ⟨refuses, done⟩ := Ledger.settle_spec (holds.balance _) int
  · rw [done, Ledger.gain, if_pos (Ledger.takes_iff.mpr ⟨coins, accepts⟩)]
    exact total_insert ledger _ nodup member accepts.known
  · have refused : ¬ ledger.takes request := by
      rw [Ledger.takes_iff]
      rintro ⟨coins, accepts⟩
      exact refuses coins accepts
    rw [done, Ledger.gain, if_neg refused, Int.add_zero]

/-- What the ledger takes of another player stays the same. -/
theorem takes_settle {ledger : Ledger} (holds : LedgerInv ledger) {request other : SettlementRequest}
    (int : IsInt request.coinChange) (differ : other.playerId ≠ request.playerId) :
    (ledger.afterSettle request).takes other = ledger.takes other := by
  obtain ⟨coins, accepts, done⟩ | ⟨_, done⟩ := Ledger.settle_spec (holds.balance _) int
  · have row : (ledger.applied request coins).players.lookup other.playerId =
        ledger.players.lookup other.playerId := by
      rw [Ledger.applied, UnorderedMap.find_insert, if_neg differ]
    have records : (ledger.applied request coins).recorded other.gameId other.playerId =
        ledger.recorded other.gameId other.playerId := by
      simp [Ledger.recorded, Ledger.applied, SettlementRequest.record, differ.symm]
    rw [done, Ledger.takes, Ledger.takes, row, records]
  · rw [done]

/-! ## The requests of a game -/

/-- The backend processes the entries in this order. -/
def Ledger.settleAll (ledger : Ledger) (order : List SettlementEntry) : Ledger :=
  order.foldl (fun ledger entry => ledger.afterSettle entry.request) ledger

theorem total_settleAll {players : List String} (nodup : players.Nodup) (order : List SettlementEntry)
    {ledger : Ledger} (holds : LedgerInv ledger) (int : ∀ entry ∈ order, IsInt entry.coinChange)
    (members : ∀ entry ∈ order, entry.playerId ∈ players)
    (apart : (order.map SettlementEntry.playerId).Nodup) :
    (ledger.settleAll order).total players =
      ledger.total players + (order.map fun entry => ledger.gain entry.request).sum := by
  induction order generalizing ledger with
  | nil => simp [Ledger.settleAll]
  | cons entry order inductionHypothesis =>
    obtain ⟨own, int⟩ := List.forall_mem_cons.mp int
    obtain ⟨member, members⟩ := List.forall_mem_cons.mp members
    obtain ⟨fresh, apart⟩ := List.nodup_cons.mp apart
    -- the later requests are about other players
    have later : (order.map fun other => (ledger.afterSettle entry.request).gain other.request) =
        order.map fun other => ledger.gain other.request := by
      apply List.map_congr_left
      intro other inside
      have differ : other.playerId ≠ entry.playerId := by
        intro same
        exact fresh (same ▸ List.mem_map_of_mem inside)
      unfold Ledger.gain
      rw [takes_settle holds own differ]
    have kept : LedgerInv (ledger.afterSettle entry.request) := ledgerInv_settle holds own
    have rest := inductionHypothesis kept int members apart
    rw [later, total_settle holds own nodup member] at rest
    rw [List.map_cons, List.sum_cons, ← Int.add_assoc]
    exact rest

/-- Of changes that settle a game, only all or none add up to nothing. -/
theorem sum_taken (landlord : Fin 3) (won first second third : Bool) :
    (if first then coinChange landlord won 0 else 0) +
        ((if second then coinChange landlord won 1 else 0) +
          (if third then coinChange landlord won 2 else 0)) = 0 ↔
      first = second ∧ second = third := by
  revert landlord won first second third
  decide

theorem isInt_settles {room : Room} {landlord : Fin 3} {won : Bool} {batch : List SettlementEntry}
    (settles : Settles room landlord won batch) {entry : SettlementEntry} (member : entry ∈ batch) :
    IsInt entry.coinChange := by
  obtain ⟨seat, found⟩ := List.mem_iff_getElem?.mp member
  rw [settles.changes seat entry found, coinChange]
  split <;> split <;> exact ⟨by decide, by decide⟩

theorem sum_settles {room : Room} {landlord : Fin 3} {won : Bool} {batch : List SettlementEntry}
    (settles : Settles room landlord won batch) (takes : SettlementEntry → Bool) :
    (batch.map fun entry => if takes entry then entry.coinChange else 0).sum = 0 ↔
      (∀ entry ∈ batch, takes entry) ∨ ∀ entry ∈ batch, ¬ takes entry := by
  obtain ⟨first, second, third, rfl⟩ := List.length_eq_three.mp settles.three
  have one := settles.changes 0 first rfl
  have two := settles.changes 1 second rfl
  have three := settles.changes 2 third rfl
  simp only [List.map_cons, List.map_nil, List.sum_cons, List.sum_nil, Int.add_zero, one, two, three,
    sum_taken, List.forall_mem_cons, List.not_mem_nil, false_imp_iff, implies_true, and_true]
  cases takes first <;> cases takes second <;> cases takes third <;> simp

/-- Any run of the rooms, any ledger that requests lead to, and any order in which the three
    requests of a game are processed: the coins of the three players add up to what they
    were iff the ledger takes all three requests, or none. -/
theorem settlement_sum (shuffler : Shuffler ρ) (random : ρ) (ops : List RoomOp)
    (requests : List LedgerRequest) :
    ∃ trace finish, RoomManager.run shuffler { random } ops = .ok (trace, finish) ∧
      ∀ batch ∈ allBatches trace, ∀ order : List SettlementEntry, order.Perm batch →
        let ledger := requests.foldl Ledger.handle {}
        let players := batch.map SettlementEntry.playerId
        ((ledger.settleAll order).total players = ledger.total players ↔
          (∀ entry ∈ batch, ledger.takes entry.request) ∨
            ∀ entry ∈ batch, ¬ ledger.takes entry.request) := by
  obtain ⟨trace, finish, ran, _⟩ := run_sound shuffler (managerInv_empty random) ops
  refine ⟨trace, finish, ran, ?_⟩
  intro batch given order perm ledger players
  obtain ⟨call, member, given⟩ := List.mem_flatMap.mp given
  obtain ⟨before, after, sound, step⟩ :=
    sound_at (RoomManager.run_steps ran) (managerInv_empty random) member
  -- the batch settles a game of three different players
  obtain ⟨_, room, _, landlord, won, _, _, nodup, _, _, settles, _⟩ := step.settles sound given
  have holds : LedgerInv ledger := ledgerInv_run requests ledgerInv_start
  have distinct : players.Nodup := by
    rw [show players = room.playerIds from settles.players]
    exact nodup
  have inside : ∀ entry ∈ order, entry.playerId ∈ players :=
    fun entry own => List.mem_map_of_mem (perm.subset own)
  have sum := total_settleAll distinct order holds
    (fun entry own => isInt_settles settles (perm.subset own)) inside
    ((perm.map _).nodup_iff.mpr distinct)
  rw [sum, (perm.map fun entry => ledger.gain entry.request).sum_eq, ← sum_settles settles]
  exact add_eq_left

/-- A game in which the landlord stays away. -/
def landlordLeaves : List (DeploymentEvent Unit) := [
  .operation (.matchPlayer .ascending 0 "ann"),
  .operation (.matchPlayer .ascending 0 "bob"),
  .operation (.matchPlayer .ascending 0 "cat"),
  .operation (.callLandlord 0 0 "ann" true),
  .operation (.callLandlord 0 0 "bob" false),
  .operation (.callLandlord 0 0 "cat" false),
  .operation (.markOffline "ann" 0),
  .operation (.cleanupExpired .ascending (seconds 300))]

/-- The same landlord loses five games, which the backend settles, and a sixth. -/
def brokeLandlord : List (DeploymentEvent Unit) :=
  [.login "ann", .login "bob", .login "cat"] ++
    (List.replicate 5 (landlordLeaves ++ List.replicate 3 (.settle 0))).flatten ++ landlordLeaves

/-- With no coins left the landlord cannot pay, and the others are paid all the same. -/
theorem broke_landlord_pays_nothing : ∃ trace finish,
    Deployment.run .identity { manager := { random := () } } brokeLandlord = .ok (trace, finish) ∧
    let players := finish.posted.map SettlementEntry.playerId
    players = ["ann", "bob", "cat"] ∧
      (∀ player ∈ players, (finish.ledger.players.lookup player).isSome) ∧
      (finish.ledger.settleAll finish.posted).total players ≠ finish.ledger.total players := by
  obtain ⟨⟨trace, finish⟩, ran, passes⟩ := ExceptLoop.exists_of_test
    (show ExceptLoop.test (fun (_, finish) =>
        let players := finish.posted.map SettlementEntry.playerId
        decide (players = ["ann", "bob", "cat"] ∧
          (∀ player ∈ players, (finish.ledger.players.lookup player).isSome) ∧
          (finish.ledger.settleAll finish.posted).total players ≠ finish.ledger.total players))
      (Deployment.run .identity { manager := { random := () } } brokeLandlord) = true by
    decide +kernel)
  exact ⟨trace, finish, ran, of_decide_eq_true passes⟩

end Doudizhu.Backend
