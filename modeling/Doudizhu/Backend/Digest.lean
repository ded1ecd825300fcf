import Doudizhu.Backend.Database

/-! # The digest of the tables

With every id replaced by its weight the tables are a plain ledger, and every request that
changes them does to the digest what it would do to the ledger.  Of a database that tells ids
apart by their characters the digest is the ledger.
-/

namespace Doudizhu.Backend.Database

variable {database : Database} {tables : Tables} {request : SettlementRequest}

variable (database) in
/-- The tables as a plain ledger, with every id replaced by its weight. -/
def digest (tables : Tables) : Ledger where
  players := tables.players.foldr (fun row players => players.insert (database.weight row.id) row.coins) ∅
  gameRecords := tables.gameRecords.map fun record =>
    { record with gameId := database.weight record.gameId, playerId := database.weight record.playerId }

theorem same_iff {left right : String} : database.same left right ↔ database.weight left = database.weight right :=
  beq_iff_eq

theorem lookup_digest (tables : Tables) (weight : String) :
    (database.digest tables).players.lookup weight =
      (tables.players.find? fun row => database.weight row.id == weight).map PlayerRow.coins := by
  simp only [digest]
  induction tables.players with
  | nil => rfl
  | cons row rows inductionHypothesis =>
    rw [List.foldr_cons, UnorderedMap.find_insert, List.find?_cons]
    by_cases own : database.weight row.id = weight
    · rw [if_pos own.symm, beq_iff_eq.mpr own]
      rfl
    · rw [if_neg (Ne.symm own), beq_eq_false_iff_ne.mpr own]
      exact inductionHypothesis

theorem find_digest (tables : Tables) (id : String) :
    (database.digest tables).players.lookup (database.weight id) =
      (database.findById tables id).map PlayerRow.coins := by
  rw [lookup_digest, findById, Option.map_map]
  rfl

theorem recorded_digest (tables : Tables) (gameId playerId : String) :
    (database.digest tables).recorded (database.weight gameId) (database.weight playerId) =
      database.recorded tables gameId playerId := by
  simp only [Ledger.recorded, digest, List.any_map]
  rfl

theorem recordsOf_digest (tables : Tables) (playerId : String) :
    ((database.digest tables).recordsOf (database.weight playerId)).map GameRecord.coinChange =
      (database.recordsOf tables playerId).map GameRecord.coinChange := by
  simp only [Ledger.recordsOf, digest, List.filter_map, List.map_map]
  rfl

/-- The settlement of a record, by the weights of its ids. -/
def weighed (database : Database) (record : GameRecord) : SettlementRequest where
  gameId := database.weight record.gameId
  playerId := database.weight record.playerId
  coinChange := record.coinChange
  result := record.result
  durationSeconds := record.durationSeconds

/-- A loaded player is one of the rows, up to its id. -/
theorem loaded_row {id : String} {player : PlayerRow} (known : database.findById tables id = some player) :
    ∃ row ∈ tables.players, database.weight row.id = database.weight id ∧
      player.id = database.loaded id row.id := by
  obtain ⟨row, found, rfl⟩ := Option.map_eq_some_iff.mp known
  have same := List.find?_some found
  exact ⟨row, List.mem_of_find?_eq_some found, same_iff.mp same, rfl⟩

/-- What a column keeps of a text of the weight of a player's id has that weight. -/
theorem weight_kept (documented : database.Documented) {text kept id : String} (valid : validPlayerId id)
    (weight : database.weight text = database.weight id) (keeps : database.kept text = some kept) :
    database.weight kept = database.weight id := by
  obtain ⟨count, rfl⟩ := documented.cuts text kept keeps
  rw [String.pushn_eq_repeat_push] at weight
  clear keeps
  induction count with
  | zero => exact weight
  | succ count inductionHypothesis =>
    exact inductionHypothesis (documented.pads _ id valid weight)

theorem weight_loaded (documented : database.Documented) {id : String} {player : PlayerRow}
    (known : database.findById tables id = some player) : database.weight player.id = database.weight id := by
  obtain ⟨row, _, weight, own⟩ := loaded_row known
  obtain asked | stored := documented.loads id row.id
  · rw [own, asked]
  · rw [own, stored, weight]

/-- A new player comes last. -/
theorem digest_opened {playerId : String} (absent : database.findById tables playerId = none) :
    database.digest { tables with players := tables.players ++ [⟨playerId, initialCoins⟩] } =
      { database.digest tables with
        players := (database.digest tables).players.insert (database.weight playerId) initialCoins } := by
  have none : (database.digest tables).players.lookup (database.weight playerId) = none := by
    rw [find_digest, absent]
    rfl
  rw [Ledger.mk.injEq]
  refine ⟨Finmap.ext_lookup fun weight => ?_, rfl⟩
  rw [UnorderedMap.find_insert, lookup_digest]
  rw [lookup_digest, Option.map_eq_none_iff] at none
  rw [List.find?_append]
  by_cases own : weight = database.weight playerId
  · subst own
    rw [none, if_pos rfl]
    simp
  · rw [if_neg own, lookup_digest]
    simp [Ne.symm own]

/-- Every row of the player changes, and the player has one. -/
theorem digest_updated {player : PlayerRow} {coins : Int}
    (known : (database.digest tables).players.lookup (database.weight player.id) = some coins) :
    (database.digest (database.updatePlayer tables player)).players =
      (database.digest tables).players.insert (database.weight player.id) player.coins := by
  refine Finmap.ext_lookup fun weight => ?_
  rw [UnorderedMap.find_insert, lookup_digest, updatePlayer, List.find?_map, Option.map_map]
  have sameId : ((fun row : PlayerRow => database.weight row.id == weight) ∘ fun row =>
      if database.same row.id player.id then { row with coins := player.coins } else row) =
      fun row => database.weight row.id == weight := by
    funext row
    dsimp only [Function.comp]
    split <;> rfl
  rw [sameId]
  rw [lookup_digest] at known
  obtain ⟨row, found, _⟩ := Option.map_eq_some_iff.mp known
  by_cases own : weight = database.weight player.id
  · subst own
    have same := List.find?_some found
    rw [← Database.same] at same
    rw [found, if_pos rfl, Option.map_some, Function.comp_apply, if_pos same]
  · rw [if_neg own, lookup_digest]
    refine Option.map_congr fun other among => ?_
    have weighs := List.find?_some among
    rw [beq_iff_eq] at weighs
    rw [Function.comp_apply, if_neg]
    intro same
    exact own (weighs.symm.trans (same_iff.mp same))

theorem digest_applied {player : PlayerRow} {record : GameRecord}
    (known : (database.digest tables).players.lookup (database.weight player.id) = some player.coins)
    (weight : database.weight record.playerId = database.weight player.id)
    (change : record.coinChange = request.coinChange) :
    database.digest (database.applied tables request player record) =
      (database.digest tables).applied (database.weighed record) player.coins := by
  have players : (database.digest (database.updatePlayer tables
      { player with coins := player.coins + request.coinChange })).players = _ := digest_updated known
  rw [Ledger.mk.injEq]
  constructor
  · rw [weighed, weight, change]
    exact players
  · exact List.map_append

/-! ## The invariant -/

variable (database) in
structure TablesInv (tables : Tables) : Prop where
  ledger : LedgerInv (database.digest tables)
  valid : ∀ row ∈ tables.players, validPlayerId row.id
  apart : (tables.players.map fun row => database.weight row.id).Nodup

theorem tablesInv_start : database.TablesInv {} where
  ledger := ledgerInv_start
  valid := by simp
  apart := by simp

theorem TablesInv.balance (holds : database.TablesInv tables) {id : String} {player : PlayerRow}
    (known : database.findById tables id = some player) : IsBalance player.coins := by
  apply holds.ledger.balance (database.weight id)
  rw [find_digest, known]
  rfl

theorem tablesInv_applied (documented : database.Documented) (holds : database.TablesInv tables)
    {player : PlayerRow} {record : GameRecord} (accepts : database.Accepts tables request player record) :
    database.TablesInv (database.applied tables request player record) := by
  obtain ⟨gameId, playerId, result, _, kept, _, rfl⟩ := stored_cases accepts.saved
  obtain ⟨row, among, weight, _⟩ := loaded_row accepts.known
  have loaded := weight_loaded documented accepts.known
  -- the row and the record are of the same player
  have own : database.weight playerId = database.weight player.id := by
    rw [loaded, ← weight]
    exact weight_kept documented (holds.valid row among) (loaded.trans weight.symm) kept
  have known : (database.digest tables).players.lookup (database.weight player.id) = some player.coins := by
    rw [loaded, find_digest, accepts.known]
    rfl
  constructor
  · rw [digest_applied known own rfl]
    refine ledgerInv_applied holds.ledger ?_ ?_ ⟨accepts.lower, accepts.upper⟩
    · rw [weighed, own]
      exact known
    · exact (recorded_digest ..).trans accepts.unique
  · intro changed member
    obtain ⟨old, inside, rfl⟩ := List.mem_map.mp member
    split
    · exact holds.valid old inside
    · exact holds.valid old inside
  · have ids : (database.applied tables request player
        { request.record with gameId, playerId, result }).players.map (fun row => database.weight row.id) =
          tables.players.map fun row => database.weight row.id := by
      rw [applied, updatePlayer, List.map_map]
      refine List.map_congr_left fun row _ => ?_
      dsimp only [Function.comp]
      split <;> rfl
    rw [ids]
    exact holds.apart

theorem tablesInv_opened (holds : database.TablesInv tables) {playerId : String}
    (valid : validPlayerId playerId) (absent : database.findById tables playerId = none) :
    database.TablesInv { tables with players := tables.players ++ [⟨playerId, initialCoins⟩] } := by
  constructor
  · rw [digest_opened absent]
    apply ledgerInv_opened holds.ledger
    rw [find_digest, absent]
    rfl
  · intro row member
    obtain old | new := List.mem_append.mp member
    · exact holds.valid row old
    · rw [List.mem_singleton.mp new]
      exact valid
  · rw [List.map_append, List.map_singleton, List.nodup_append]
    refine ⟨holds.apart, by simp, ?_⟩
    rintro _ old weight new rfl
    obtain ⟨row, among, same⟩ := List.mem_map.mp old
    rw [List.mem_singleton.mp new] at same
    rw [findById, Option.map_eq_none_iff, List.find?_eq_none] at absent
    exact absent row among (same_iff.mpr same)

theorem tablesInv_handle (documented : database.Documented) (holds : database.TablesInv tables)
    (request : LedgerRequest) : database.TablesInv (database.handle tables request) := by
  cases request with
  | login playerId =>
    rw [handle]
    obtain ⟨valid, absent, opened⟩ | ⟨_, same⟩ := login_spec documented playerId
    · rw [opened]
      exact tablesInv_opened holds valid absent
    · rw [same]
      exact holds
  | settle gameId playerId coinChange result durationSeconds =>
    rw [handle]
    have int : IsInt (settlementRequest gameId playerId coinChange result durationSeconds).coinChange :=
      isInt_toInt coinChange
    obtain ⟨player, record, accepts, applies⟩ | ⟨_, same⟩ := settle_spec (fun _ => holds.balance) int
    · rw [applies]
      exact tablesInv_applied documented holds accepts
    · rw [same]
      exact holds

theorem tablesInv_run (documented : database.Documented) (requests : List LedgerRequest)
    (holds : database.TablesInv tables) : database.TablesInv (requests.foldl database.handle tables) := by
  induction requests generalizing tables with
  | nil => exact holds
  | cons request requests inductionHypothesis => exact inductionHypothesis (tablesInv_handle documented holds request)

/-! ## Plain ids -/

/-- A database that tells ids apart by their characters, and cuts nothing. -/
def plain : Database where
  weight text := text
  kept text := if storable text then some text else none
  loaded _ row := row

theorem plain_kept {text kept : String} : plain.kept text = some kept ↔ storable text ∧ text = kept :=
  Option.ite_none_right_eq_some.trans (and_congr_right fun _ => Option.some_inj)

theorem plain_documented : plain.Documented where
  fits text fits := if_pos fits
  cuts text kept keeps := ⟨0, (plain_kept.mp keeps).2⟩
  pads text id valid same := by
    have space : ' ' ∈ id.toList := by
      rw [← (show text.push ' ' = id from same), String.toList_push]
      simp
    simp only [validPlayerId, Bool.and_eq_true, List.all_eq_true] at valid
    exact absurd (valid.2.2 ' ' space) (by decide)
  loads _ _ := .inr rfl

theorem plain_lookup (tables : Tables) (playerId : String) :
    (plain.digest tables).players.lookup playerId = (plain.findById tables playerId).map PlayerRow.coins :=
  find_digest tables playerId

theorem plain_stored {record row : GameRecord} : plain.stored record = some row ↔
    storable record.gameId ∧ storable record.playerId ∧ storable record.result ∧ row = record := by
  constructor
  · intro stores
    obtain ⟨_, _, _, gameId, playerId, result, rfl⟩ := stored_cases stores
    obtain ⟨fitsGame, rfl⟩ := plain_kept.mp gameId
    obtain ⟨fitsPlayer, rfl⟩ := plain_kept.mp playerId
    obtain ⟨fitsResult, rfl⟩ := plain_kept.mp result
    exact ⟨fitsGame, fitsPlayer, fitsResult, rfl⟩
  · rintro ⟨gameId, playerId, result, rfl⟩
    rw [stored, plain_kept.mpr ⟨gameId, rfl⟩, plain_kept.mpr ⟨playerId, rfl⟩, plain_kept.mpr ⟨result, rfl⟩]

theorem plain_found (holds : plain.TablesInv tables) {playerId : String} {player : PlayerRow}
    (known : plain.findById tables playerId = some player) : player.id = playerId ∧ storable playerId := by
  obtain ⟨row, among, weight, own⟩ := loaded_row known
  have same : row.id = playerId := weight
  have id : player.id = row.id := own
  exact ⟨id.trans same, same ▸ storable_playerId (holds.valid row among)⟩

theorem plain_loads (holds : plain.TablesInv tables) {playerId : String} {coins : Int} :
    plain.findById tables playerId = some ⟨playerId, coins⟩ ↔
      (plain.digest tables).players.lookup playerId = some coins := by
  rw [plain_lookup, Option.map_eq_some_iff]
  constructor
  · intro known
    exact ⟨_, known, rfl⟩
  · rintro ⟨player, known, rfl⟩
    rw [known, ← (plain_found holds known).1]

/-- Such a database accepts what the ledger accepts, if it fits. -/
theorem plain_accepts (holds : plain.TablesInv tables) {coins : Int} :
    plain.Accepts tables request ⟨request.playerId, coins⟩ request.record ↔
      storable request.gameId ∧ storable request.result ∧ (plain.digest tables).Accepts request coins := by
  constructor
  · rintro ⟨valid, known, new, saved, _, lower, upper⟩
    obtain ⟨game, _, result, _⟩ := plain_stored.mp saved
    exact ⟨game, result, valid, (plain_loads holds).mp known, (recorded_digest ..).trans new, lower, upper⟩
  · rintro ⟨game, result, valid, known, new, lower, upper⟩
    have found := (plain_loads holds).mpr known
    have unrecorded := (recorded_digest ..).symm.trans new
    exact ⟨valid, found, unrecorded, plain_stored.mpr ⟨game, (plain_found holds found).2, result, rfl⟩, unrecorded,
      lower, upper⟩

/-- The ledger is what such a database does. -/
theorem plain_handle (holds : plain.TablesInv tables) (request : LedgerRequest) :
    plain.digest (plain.handle tables request) = (plain.digest tables).handle request := by
  cases request with
  | login playerId =>
    rw [handle, Ledger.handle, Ledger.afterLogin, Ledger.login, plain_lookup]
    obtain ⟨valid, absent, opened⟩ | ⟨known, same⟩ := @login_spec plain tables plain_documented playerId
    · rw [opened, digest_opened absent, absent, if_pos valid]
      rfl
    · rw [same]
      by_cases valid : validPlayerId playerId
      · obtain ⟨player, found⟩ := Option.ne_none_iff_exists'.mp (known valid)
        rw [if_pos valid, found]
        rfl
      · rw [if_neg valid]
  | settle gameId playerId coinChange result durationSeconds =>
    rw [handle, Ledger.handle]
    generalize asked : settlementRequest gameId playerId coinChange result durationSeconds = request
    obtain ⟨rfl, rfl, int⟩ : request.gameId = gameId ∧ request.result = result ∧ IsInt request.coinChange := by
      rw [← asked]
      exact ⟨rfl, rfl, isInt_toInt coinChange⟩
    have spec := @Ledger.settle_spec (plain.digest tables) request (holds.ledger.balance _) int
    obtain ⟨player, record, accepts, applies⟩ | ⟨refuses, same⟩ := settle_spec (fun _ => holds.balance) int
    · obtain ⟨own, _⟩ := plain_found holds accepts.known
      obtain ⟨_, _, _, rfl⟩ := plain_stored.mp accepts.saved
      obtain ⟨id, coins⟩ := player
      obtain rfl : id = request.playerId := own
      obtain ⟨game, result, taken⟩ := (plain_accepts holds).mp accepts
      rw [applies, if_pos (Bool.and_eq_true_iff.mpr ⟨game, result⟩)]
      obtain ⟨other, also, settles⟩ | ⟨refuses, _⟩ := spec
      · obtain rfl : other = coins := Option.some.inj (also.known.symm.trans taken.known)
        rw [settles]
        exact digest_applied taken.known rfl rfl
      · exact absurd taken (refuses coins)
    · rw [same]
      split
      · next fits =>
        obtain ⟨coins, accepts, _⟩ | ⟨_, same⟩ := spec
        · rw [Bool.and_eq_true] at fits
          exact absurd ((plain_accepts holds).mpr ⟨fits.1, fits.2, accepts⟩) (refuses _ _)
        · exact same.symm
      · rfl

theorem plain_run (requests : List LedgerRequest) :
    plain.digest (requests.foldl plain.handle {}) = requests.foldl Ledger.handle {} := by
  suffices ∀ tables, plain.TablesInv tables →
      plain.digest (requests.foldl plain.handle tables) = requests.foldl Ledger.handle (plain.digest tables) from
    this {} tablesInv_start
  induction requests with
  | nil => exact fun _ _ => rfl
  | cons request requests inductionHypothesis =>
    intro tables holds
    rw [List.foldl_cons, List.foldl_cons, inductionHypothesis _ (tablesInv_handle plain_documented holds request),
      plain_handle holds]

end Doudizhu.Backend.Database
