import Doudizhu.Lib.UnorderedMap

/-! # The ledger of the backend

The tables `players` and `game_records`, and the two requests that write them:
`AuthController.login` and `GameController.settle`.  A request that is refused throws, and
its transaction is rolled back.  Ids are compared character by character.
-/

namespace Doudizhu.Backend

structure GameRecord where
  gameId : String
  playerId : String
  coinChange : Int
  result : String
  durationSeconds : Int
deriving DecidableEq

structure Ledger where
  /-- The coins of every player. -/
  players : UnorderedMap String Int := ∅
  gameRecords : List GameRecord := []

structure SettlementRequest where
  gameId : String
  playerId : String
  coinChange : Int
  result : String
  durationSeconds : Int
deriving DecidableEq

structure LoginResponse where
  playerId : String
  coins : Int
  created : Bool
deriving DecidableEq

structure SettlementResponse where
  playerId : String
  coins : Int
deriving DecidableEq

/-- Why a request is answered with status 400. -/
inductive Refusal where
  | validationFailed | playerNotFound | insufficientCoins
deriving DecidableEq, Repr

/-- The message of the answer. -/
def Refusal.message : Refusal → String
  | .validationFailed => "request validation failed"
  | .playerNotFound => "player not found"
  | .insufficientCoins => "insufficient coins"

/-! ## Validation -/

/-- `@NotBlank` fails: no character is left when the text is trimmed. -/
def blank (text : String) : Bool := text.toList.all fun char => char.toNat ≤ 32

/-- `[A-Za-z0-9_-]` -/
def idCharacter (char : Char) : Bool := char.isAlphanum || char == '_' || char == '-'

/-- `@NotBlank` and `@Pattern(regexp = "[A-Za-z0-9_-]{1,32}")` hold. -/
def validPlayerId (id : String) : Bool :=
  !blank id && (1 ≤ id.toList.length && id.toList.length ≤ 32 && id.toList.all idCharacter)

def SettlementRequest.valid (request : SettlementRequest) : Bool :=
  !blank request.gameId && !blank request.playerId && !blank request.result &&
    0 ≤ request.durationSeconds

/-- The row that a settlement saves. -/
def SettlementRequest.record (request : SettlementRequest) : GameRecord where
  gameId := request.gameId
  playerId := request.playerId
  coinChange := request.coinChange
  result := request.result
  durationSeconds := request.durationSeconds

/-! ## Requests -/

def initialCoins : Int := 1000

/-- `int` addition wraps. -/
def intAdd (left right : Int) : Int := (left + right).bmod (2 ^ 32)

/-- `Player.changeCoins` -/
def changeCoins (coins amount : Int) : Except Refusal Int :=
  if intAdd coins amount < 0 then .error .insufficientCoins else .ok (intAdd coins amount)

namespace Ledger

def login (ledger : Ledger) (playerId : String) : Except Refusal (LoginResponse × Ledger) :=
  if validPlayerId playerId then
    match ledger.players.lookup playerId with
    | some coins => .ok ({ playerId, coins, created := false }, ledger)
    | none =>
      .ok ({ playerId, coins := initialCoins, created := true },
        { ledger with players := ledger.players.insert playerId initialCoins })
  else .error .validationFailed

/-- `findByGameIdAndPlayerId(...).isPresent()` -/
def recorded (ledger : Ledger) (gameId playerId : String) : Bool :=
  ledger.gameRecords.any fun record => record.gameId == gameId && record.playerId == playerId

def settle (ledger : Ledger) (request : SettlementRequest) :
    Except Refusal (SettlementResponse × Ledger) :=
  if request.valid then
    match ledger.players.lookup request.playerId with
    | none => .error .playerNotFound
    | some coins =>
      if ledger.recorded request.gameId request.playerId then
        .ok ({ playerId := request.playerId, coins }, ledger)
      else do
        let coins ← changeCoins coins request.coinChange
        .ok ({ playerId := request.playerId, coins },
          { players := ledger.players.insert request.playerId coins
            gameRecords := ledger.gameRecords ++ [request.record] })
  else .error .validationFailed

/-- The tables after a login. -/
def afterLogin (ledger : Ledger) (playerId : String) : Ledger :=
  match ledger.login playerId with
  | .ok (_, next) => next
  | .error _ => ledger

/-- The tables after a settlement. -/
def afterSettle (ledger : Ledger) (request : SettlementRequest) : Ledger :=
  match ledger.settle request with
  | .ok (_, next) => next
  | .error _ => ledger

end Ledger

/-! ## What a request does -/

/-- A sum that fits is the sum. -/
theorem intAdd_eq {left right : Int} (lower : 0 ≤ left + right) (upper : left + right < 2 ^ 31) :
    intAdd left right = left + right := by
  unfold intAdd
  apply Int.bmod_eq_of_le <;> omega

namespace Ledger

variable {ledger : Ledger} {request : SettlementRequest} {coins : Int}

theorem recorded_iff {gameId playerId : String} :
    ledger.recorded gameId playerId ↔
      (gameId, playerId) ∈ ledger.gameRecords.map fun record => (record.gameId, record.playerId) := by
  simp only [recorded, List.any_eq_true, Bool.and_eq_true, beq_iff_eq, List.mem_map, Prod.mk.injEq]

/-- A valid request that fits is applied and recorded. -/
theorem settle_applied (known : ledger.players.lookup request.playerId = some coins)
    (valid : request.valid) (new : ledger.recorded request.gameId request.playerId = false)
    (lower : 0 ≤ coins + request.coinChange) (upper : coins + request.coinChange < 2 ^ 31) :
    (ledger.afterSettle request).players.lookup request.playerId =
      some (coins + request.coinChange) := by
  have sum := intAdd_eq lower upper
  have changed : changeCoins coins request.coinChange = .ok (coins + request.coinChange) := by
    rw [changeCoins, sum, if_neg (not_lt.mpr lower)]
  simp [afterSettle, settle, valid, known, new, changed, bind, Except.bind, Finmap.lookup_insert]

/-- A request that fails validation, or is recorded already, changes nothing. -/
theorem settle_ignored
    (ignored : request.valid = false ∨ ledger.recorded request.gameId request.playerId) :
    ledger.afterSettle request = ledger := by
  unfold afterSettle settle
  by_cases valid : request.valid
  · obtain invalid | old := ignored
    · simp [invalid] at valid
    · cases known : ledger.players.lookup request.playerId with
      | none => simp [valid]
      | some coins => simp [valid, old]
  · simp [valid]

/-- A settlement leaves the records as they are, or adds the one of the request. -/
theorem settle_records (ledger : Ledger) (request : SettlementRequest) :
    (ledger.afterSettle request).gameRecords = ledger.gameRecords ∨
      (ledger.afterSettle request).gameRecords = ledger.gameRecords ++ [request.record] := by
  unfold afterSettle settle
  by_cases valid : request.valid
  · cases known : ledger.players.lookup request.playerId with
    | none => simp [valid]
    | some coins =>
      by_cases old : ledger.recorded request.gameId request.playerId
      · simp [valid, old]
      · cases changed : changeCoins coins request.coinChange with
        | error refusal => simp [valid, old, changed, bind, Except.bind]
        | ok changed => simp [valid, old, changed, bind, Except.bind]
  · simp [valid]

/-- A settlement makes no player known. -/
theorem settle_known {playerId : String} {balance : Int}
    (known : (ledger.afterSettle request).players.lookup playerId = some balance) :
    ∃ balance, ledger.players.lookup playerId = some balance := by
  unfold afterSettle settle at known
  by_cases valid : request.valid
  · cases found : ledger.players.lookup request.playerId with
    | none => exact ⟨balance, by simpa [valid, found] using known⟩
    | some coins =>
      by_cases old : ledger.recorded request.gameId request.playerId
      · exact ⟨balance, by simpa [valid, found, old] using known⟩
      · cases changed : changeCoins coins request.coinChange with
        | error refusal =>
          exact ⟨balance, by simpa [valid, found, old, changed, bind, Except.bind] using known⟩
        | ok changed =>
          simp only [valid, found, old, changed, bind, Except.bind, if_true, Bool.false_eq_true,
            if_false, UnorderedMap.find_insert] at known
          split at known
          · next same => exact ⟨coins, same ▸ found⟩
          · exact ⟨balance, known⟩
  · exact ⟨balance, by simpa [valid] using known⟩

theorem login_records (playerId : String) :
    (ledger.afterLogin playerId).gameRecords = ledger.gameRecords := by
  unfold afterLogin login
  by_cases valid : validPlayerId playerId
  · cases known : ledger.players.lookup playerId <;> simp [valid]
  · simp [valid]

/-- Who logs in has an id that is not blank. -/
theorem login_known {playerId other : String} {balance : Int}
    (known : (ledger.afterLogin playerId).players.lookup other = some balance) :
    (∃ balance, ledger.players.lookup other = some balance) ∨ blank other = false := by
  unfold afterLogin login at known
  by_cases valid : validPlayerId playerId
  · cases found : ledger.players.lookup playerId with
    | some coins => exact .inl ⟨balance, by simpa [valid, found] using known⟩
    | none =>
      simp only [valid, found, if_true, UnorderedMap.find_insert] at known
      split at known
      · next same =>
        simp only [validPlayerId, Bool.and_eq_true, Bool.not_eq_true'] at valid
        exact .inr (same ▸ valid.1)
      · exact .inl ⟨balance, known⟩
  · exact .inl ⟨balance, by simpa [valid] using known⟩

end Ledger

end Doudizhu.Backend
