import Doudizhu.Backend.Coins

/-! # The database

The tables as MySQL and Hibernate keep them.  Ids are the same if the collation gives them the
same weight, a column may refuse a text or cut the spaces at its end, and a loaded player has the
id that was asked for or the one in its row.
-/

namespace Doudizhu.Backend

/-- What the requests rely on of MySQL and Hibernate. -/
structure Database where
  /-- What the collation compares of a text. -/
  weight : String → String
  /-- What a column `VARCHAR(255)` keeps of a text, unless it refuses it. -/
  kept : String → Option String
  /-- The id of the player that was asked for and found in a row. -/
  loaded (asked row : String) : String

structure Database.Documented (database : Database) : Prop where
  fits : ∀ text, storable text → database.kept text = some text
  /-- Only spaces at the end are cut. -/
  cuts : ∀ text kept, database.kept text = some kept → ∃ count, text = kept.pushn ' ' count
  /-- Spaces at the end count for nothing, or tell a text from every id of a player. -/
  pads : ∀ text id, validPlayerId id → database.weight (text.push ' ') = database.weight id →
    database.weight text = database.weight id
  loads : ∀ asked row, database.loaded asked row = asked ∨ database.loaded asked row = row

structure PlayerRow where
  id : String
  coins : Int
deriving DecidableEq

structure Tables where
  players : List PlayerRow := []
  gameRecords : List GameRecord := []
deriving DecidableEq

/-- Why a request fails. -/
inductive Failure where
  | refused (refusal : Refusal)
  /-- A row is not saved, and the transaction is rolled back. -/
  | notSaved
deriving DecidableEq

/-- The tables after a transaction. -/
def Tables.after {α : Type} (tables : Tables) : Except Failure (α × Tables) → Tables
  | .ok (_, next) => next
  | .error _ => tables

structure StatsResponse where
  games : Nat
  wins : Nat
  coinChange : Int
deriving DecidableEq

namespace Database

variable (database : Database)

/-! ## Queries and updates -/

def same (left right : String) : Bool := database.weight left == database.weight right

/-- `playerRepository.findById` -/
def findById (tables : Tables) (id : String) : Option PlayerRow :=
  (tables.players.find? fun row => database.same row.id id).map fun row =>
    { row with id := database.loaded id row.id }

/-- `findByGameIdAndPlayerId(...).isPresent()` -/
def recorded (tables : Tables) (gameId playerId : String) : Bool :=
  tables.gameRecords.any fun record =>
    database.same record.gameId gameId && database.same record.playerId playerId

/-- `findByPlayerId` -/
def recordsOf (tables : Tables) (playerId : String) : List GameRecord :=
  tables.gameRecords.filter fun record => database.same record.playerId playerId

/-- `playerRepository.save` of a new player; `id` is the primary key. -/
def insertPlayer (tables : Tables) (player : PlayerRow) : Option Tables :=
  match database.kept player.id with
  | none => none
  | some id =>
    if tables.players.any fun row => database.same row.id id then none
    else some { tables with players := tables.players ++ [{ player with id }] }

/-- The row of a record, if its columns take it. -/
def stored (record : GameRecord) : Option GameRecord :=
  match database.kept record.gameId, database.kept record.playerId, database.kept record.result with
  | some gameId, some playerId, some result => some { record with gameId, playerId, result }
  | _, _, _ => none

/-- `gameRecordRepository.save`; `uk_game_record_game_player` is on what the columns keep. -/
def insertRecord (tables : Tables) (record : GameRecord) : Option Tables :=
  match database.stored record with
  | none => none
  | some row =>
    if database.recorded tables row.gameId row.playerId then none
    else some { tables with gameRecords := tables.gameRecords ++ [row] }

/-- A player that was changed is written when the transaction commits. -/
def updatePlayer (tables : Tables) (player : PlayerRow) : Tables where
  players := tables.players.map fun row =>
    if database.same row.id player.id then { row with coins := player.coins } else row
  gameRecords := tables.gameRecords

/-! ## Requests -/

/-- `AuthController.login` -/
def login (tables : Tables) (playerId : String) : Except Failure (LoginResponse × Tables) :=
  if validPlayerId playerId then
    match database.findById tables playerId with
    | some player => .ok ({ playerId := player.id, coins := player.coins, created := false }, tables)
    | none =>
      match database.insertPlayer tables { id := playerId, coins := initialCoins } with
      | none => .error .notSaved
      | some next => .ok ({ playerId, coins := initialCoins, created := true }, next)
  else .error (.refused .validationFailed)

/-- `GameController.settle` -/
def settle (tables : Tables) (request : SettlementRequest) : Except Failure (SettlementResponse × Tables) :=
  if request.valid then
    match database.findById tables request.playerId with
    | none => .error (.refused .playerNotFound)
    | some player =>
      if database.recorded tables request.gameId request.playerId then
        .ok ({ playerId := player.id, coins := player.coins }, tables)
      else
        match changeCoins player.coins request.coinChange with
        | .error refusal => .error (.refused refusal)
        | .ok coins =>
          match database.insertRecord tables { request.record with playerId := player.id } with
          | none => .error .notSaved
          | some next =>
            .ok ({ playerId := player.id, coins }, database.updatePlayer next { player with coins })
  else .error (.refused .validationFailed)

/-- The tables after a request. -/
def handle (tables : Tables) : LedgerRequest → Tables
  | .login playerId => tables.after (database.login tables playerId)
  | .settle gameId playerId coinChange result durationSeconds =>
    tables.after (database.settle tables
      (settlementRequest gameId playerId coinChange result durationSeconds))

/-- `PlayerController.stats`; the sum of an `IntStream` wraps. -/
def stats (tables : Tables) (playerId : String) : StatsResponse :=
  let records := database.recordsOf tables playerId
  { games := records.length
    wins := records.countP fun record => record.result == "WIN"
    coinChange := (records.map GameRecord.coinChange).foldl intAdd 0 }

/-- The exact sum of the changes on record. -/
def changes (tables : Tables) (playerId : String) : Int :=
  ((database.recordsOf tables playerId).map GameRecord.coinChange).sum

/-! ## What a settlement needs -/

/-- The request is valid, its player is found, the columns keep it as `record`, there is no record
    of the game as it was sent or as it is kept, and the balance stays one. -/
structure Accepts (tables : Tables) (request : SettlementRequest) (player : PlayerRow) (record : GameRecord) :
    Prop where
  valid : request.valid
  known : database.findById tables request.playerId = some player
  new : database.recorded tables request.gameId request.playerId = false
  saved : database.stored { request.record with playerId := player.id } = some record
  unique : database.recorded tables record.gameId record.playerId = false
  lower : 0 ≤ player.coins + request.coinChange
  upper : player.coins + request.coinChange < 2 ^ 31

def applied (tables : Tables) (request : SettlementRequest) (player : PlayerRow) (record : GameRecord) :
    Tables where
  players := (database.updatePlayer tables { player with coins := player.coins + request.coinChange }).players
  gameRecords := tables.gameRecords ++ [record]

variable {database} {tables : Tables} {request : SettlementRequest}

theorem settle_accepted {player : PlayerRow} {record : GameRecord}
    (accepts : database.Accepts tables request player record) :
    tables.after (database.settle tables request) = database.applied tables request player record := by
  have changed : changeCoins player.coins request.coinChange = .ok (player.coins + request.coinChange) := by
    rw [changeCoins, intAdd_eq accepts.lower accepts.upper, if_neg (not_lt.mpr accepts.lower)]
  simp [settle, accepts.valid, accepts.known, accepts.new, changed, insertRecord, accepts.saved, accepts.unique,
    Tables.after, applied, updatePlayer]

theorem settle_invalid (invalid : request.valid = false) :
    tables.after (database.settle tables request) = tables := by
  rw [settle, invalid]
  rfl

theorem settle_recorded (old : database.recorded tables request.gameId request.playerId) :
    tables.after (database.settle tables request) = tables := by
  rw [settle, old]
  split
  · split <;> rfl
  · rfl

/-- A settlement whose row is not saved changes nothing. -/
theorem settle_unsaved {player : PlayerRow} (known : database.findById tables request.playerId = some player)
    (unsaved : database.insertRecord tables { request.record with playerId := player.id } = none) :
    tables.after (database.settle tables request) = tables := by
  rw [settle, known]
  dsimp only
  rw [unsaved]
  split
  · split
    · rfl
    · cases changeCoins player.coins request.coinChange <;> rfl
  · rfl

theorem insertRecord_none {record : GameRecord} :
    database.insertRecord tables record = none ↔
      ∀ row, database.stored record = some row → database.recorded tables row.gameId row.playerId := by
  rw [insertRecord]
  cases database.stored record with
  | none => simp
  | some row => simp

/-- The specification of `settle`: it applies what the tables accept, and nothing else. -/
theorem settle_spec
    (balance : ∀ player, database.findById tables request.playerId = some player → IsBalance player.coins)
    (int : IsInt request.coinChange) :
    (∃ player record, database.Accepts tables request player record ∧
      tables.after (database.settle tables request) = database.applied tables request player record) ∨
    (∀ player record, ¬ database.Accepts tables request player record) ∧
      tables.after (database.settle tables request) = tables := by
  by_cases accepted : ∃ player record, database.Accepts tables request player record
  case pos =>
    obtain ⟨player, record, accepts⟩ := accepted
    exact .inl ⟨player, record, accepts, settle_accepted accepts⟩
  refine .inr ⟨fun player record accepts => accepted ⟨player, record, accepts⟩, ?_⟩
  cases valid : request.valid with
  | false => exact settle_invalid valid
  | true =>
  cases known : database.findById tables request.playerId with
  | none => simp [settle, valid, known, Tables.after]
  | some player =>
  cases old : database.recorded tables request.gameId request.playerId with
  | true => exact settle_recorded old
  | false =>
  have changed := changeCoins_spec (balance player known) int
  split at changed
  case isFalse outside => simp [settle, valid, known, old, changed, Tables.after]
  case isTrue fits =>
    refine settle_unsaved known (insertRecord_none.mpr fun record saved => ?_)
    -- otherwise the tables would accept the request
    by_contra unique
    exact accepted ⟨player, record, valid, known, old, saved, Bool.eq_false_iff.mpr unique, fits.1, fits.2⟩

/-- An id has at most 32 characters. -/
theorem storable_playerId {playerId : String} (valid : validPlayerId playerId) : storable playerId := by
  simp only [validPlayerId, Bool.and_eq_true, decide_eq_true_iff] at valid
  rw [storable, decide_eq_true_iff, ← String.length_toList]
  exact valid.2.1.2.trans (by decide)

/-- A login makes a player known who was not, with the initial coins. -/
theorem login_spec (documented : database.Documented) (playerId : String) :
    (validPlayerId playerId ∧ database.findById tables playerId = none ∧
      tables.after (database.login tables playerId) =
        { tables with players := tables.players ++ [⟨playerId, initialCoins⟩] }) ∨
    (validPlayerId playerId → database.findById tables playerId ≠ none) ∧
      tables.after (database.login tables playerId) = tables := by
  by_cases valid : validPlayerId playerId
  case neg =>
    rw [login, if_neg valid]
    exact .inr ⟨fun given => absurd given valid, rfl⟩
  rw [login, if_pos valid]
  cases known : database.findById tables playerId with
  | some player => exact .inr ⟨fun _ => Option.some_ne_none player, rfl⟩
  | none =>
    refine .inl ⟨valid, rfl, ?_⟩
    have kept := documented.fits playerId (storable_playerId valid)
    have free : ¬ tables.players.any fun row => database.same row.id playerId := by
      rw [List.any_eq_true, not_exists]
      rw [findById, Option.map_eq_none_iff, List.find?_eq_none] at known
      exact fun row found => known row found.1 found.2
    rw [insertPlayer, kept]
    dsimp only
    rw [if_neg free]
    rfl

theorem stored_cases {record row : GameRecord} (stores : database.stored record = some row) :
    ∃ gameId playerId result, database.kept record.gameId = some gameId ∧
      database.kept record.playerId = some playerId ∧ database.kept record.result = some result ∧
        row = { record with gameId, playerId, result } := by
  rw [stored] at stores
  split at stores
  · next gameId playerId result keepsGame keepsPlayer keepsResult =>
    cases stores
    exact ⟨gameId, playerId, result, keepsGame, keepsPlayer, keepsResult, rfl⟩
  · cases stores

end Database

end Doudizhu.Backend
