import Doudizhu.Lib.UnorderedMap
import Doudizhu.Game.GameRound

/-! # The room manager

`RoomManager` as `room_manager.cpp` writes it: the rooms, the index from players to
rooms, and since when players are offline.  Readings of `steady_clock`, and the orders in
which hash maps are visited, are arguments.  The room counter does not wrap.
-/

namespace Doudizhu.Gateway

open Game

abbrev PlayerId : Type := String

abbrev RoomId : Type := Nat

/-- `time_point::max()`. -/
def timePointMax : Time := 2 ^ 63 - 1

structure Room where
  id : RoomId
  playerIds : List PlayerId := []
  round : Option GameRound := none
  actionDeadline : Time := 0
  lastActivity : Time
deriving DecidableEq

structure SettlementEntry where
  gameId : String
  playerId : PlayerId
  coinChange : Int
  result : String
  durationSeconds : Int
deriving DecidableEq

structure RoomManager (ρ : Type) where
  nextRoomId : RoomId := 1
  waitingRoomId : Option RoomId := none
  rooms : UnorderedMap RoomId Room := ∅
  playerRooms : UnorderedMap PlayerId RoomId := ∅
  offlineSince : UnorderedMap PlayerId Time := ∅
  random : ρ

/-! ## Rooms -/

namespace Room

/-- `{player_ids[0], player_ids[1], player_ids[2]}`. -/
def threePlayers (room : Room) : Except Fault (List PlayerId) :=
  match room.playerIds with
  | first :: second :: third :: _ => .ok [first, second, third]
  | _ => .error .playerIdsAt

/-- `std::distance(begin, std::find(begin, end, player_id))`. -/
def seatOf (room : Room) (player : PlayerId) : Nat := room.playerIds.idxOf player

def refreshDeadline (room : Room) (now : Time) : Room :=
  match room.round with
  | none => { room with actionDeadline := timePointMax }
  | some round =>
    if round.phase = .settled then { room with actionDeadline := timePointMax }
    else if round.phase = .callLandlord then { room with actionDeadline := now + seconds 10 }
    else { room with actionDeadline := now + seconds 15 }

/-- The room after its round answered a call. -/
def keep (room : Room) (round : GameRound) (accepted : Bool) (now : Time) : Room :=
  let room := { room with round := some round }
  if accepted then { room with lastActivity := now }.refreshDeadline now else room

/-- One entry for each player, by who won. -/
def settlementEntries (room : Room) (landlord : Nat) (landlordWon : Bool) (duration : Int) :
    List SettlementEntry :=
  room.playerIds.zipIdx.map fun (player, seat) =>
    let isLandlord := seat == landlord
    let won := isLandlord == landlordWon
    { gameId := toString room.id
      playerId := player
      coinChange :=
        if isLandlord then (if won then 200 else -200) else (if won then 100 else -100)
      result := if won then "WIN" else "LOSE"
      durationSeconds := duration }

/-- The entries for a round that has settled. -/
def settlements (room : Room) (round : GameRound) (now : Time) : List SettlementEntry :=
  match round.landlordSeat, round.winnerSeat with
  | some landlord, some winner =>
    room.settlementEntries landlord (landlord == winner) (round.durationSeconds now)
  | _, _ => []

/-- The entries for a room that ends because `player` was offline too long. -/
def expiredSettlements (room : Room) (player : PlayerId) (now : Time) : List SettlementEntry :=
  match room.round with
  | none => []
  | some round =>
    match round.landlordSeat with
    | none => []
    | some landlord =>
      room.settlementEntries landlord (room.seatOf player != landlord) (round.durationSeconds now)

end Room

/-! ## Answers -/

structure GameStartInfo where
  playerIds : List PlayerId
  hands : Hands
  currentSeat : Nat
deriving DecidableEq

structure MatchResult where
  roomId : RoomId
  seat : Nat
  gameStarted : Bool
  gameStart : Option GameStartInfo
deriving DecidableEq

structure CallLandlordResult where
  accepted : Bool
  currentSeat : Nat
  gameStarted : Bool
  landlordSeat : Option Nat
  actorSeat : Nat
  called : Bool
  playerIds : List PlayerId
deriving DecidableEq

structure PlayCardsResult where
  accepted : Bool
  currentSeat : Nat
  gameOver : Bool
  settlements : List SettlementEntry
  actorSeat : Nat
  playerIds : List PlayerId
deriving DecidableEq

structure ReconnectInfo where
  roomId : RoomId
  seat : Nat
  phase : GamePhase
  currentSeat : Nat
  landlordSeat : Option Nat
  hand : List Card
deriving DecidableEq

structure TimeoutAction where
  playerIds : List PlayerId
  actorSeat : Nat
  phase : GamePhase
  currentSeat : Nat
  settlements : List SettlementEntry
deriving DecidableEq

structure PlayerInfo where
  playerId : PlayerId
  online : Bool
  remainingCards : Nat
deriving DecidableEq

structure RoomState where
  roomId : RoomId
  selfSeat : Nat
  phase : GamePhase
  currentSeat : Nat
  landlordSeat : Option Nat
  players : List PlayerInfo
  ownHand : List Card
  bottomCards : List Card
  lastPlaySeat : Option Nat
  lastPlayCards : List Card
  actionRemainingSeconds : Nat
deriving DecidableEq

/-! ## Operations -/

namespace RoomManager

variable {ρ : Type} (shuffler : Shuffler ρ)

/-- `rooms_.at(room_id)`. -/
def roomAt (manager : RoomManager ρ) (roomId : RoomId) : Except Fault Room :=
  match manager.rooms.lookup roomId with
  | none => .error .roomsAt
  | some room => .ok room

def putRoom (manager : RoomManager ρ) (roomId : RoomId) (room : Room) : RoomManager ρ :=
  { manager with rooms := manager.rooms.insert roomId room }

/-- Erase a room, and its players from both indices. -/
def removeRoom (manager : RoomManager ρ) (roomId : RoomId) (room : Room) : RoomManager ρ :=
  { manager with
    playerRooms := UnorderedMap.eraseAll manager.playerRooms room.playerIds
    offlineSince := UnorderedMap.eraseAll manager.offlineSince room.playerIds
    rooms := manager.rooms.erase roomId }

/-- The waiting room is no longer this one. -/
def stopWaiting (manager : RoomManager ρ) (room : Room) : RoomManager ρ :=
  if manager.waitingRoomId = some room.id then { manager with waitingRoomId := none } else manager

/-- The first room in the order that lists the player. -/
def findPlayer (manager : RoomManager ρ) (order : VisitOrder RoomId) (player : PlayerId) :
    Option (RoomId × Room) :=
  (order.visit manager.rooms.keys).findSome? fun roomId =>
    match manager.rooms.lookup roomId with
    | none => none
    | some room => if player ∈ room.playerIds then some (roomId, room) else none

/-- A new room to wait in, unless there is one. -/
def openWaitingRoom (manager : RoomManager ρ) (now : Time) : RoomManager ρ :=
  match manager.waitingRoomId with
  | some _ => manager
  | none =>
    { manager with
      nextRoomId := manager.nextRoomId + 1
      rooms := UnorderedMap.emplace manager.rooms manager.nextRoomId
        { id := manager.nextRoomId, lastActivity := now }
      waitingRoomId := some manager.nextRoomId }

/-- `*waiting_room_id_`. -/
def waitingRoom (manager : RoomManager ρ) : Except Fault RoomId :=
  match manager.waitingRoomId with
  | none => .error .emptyOptional
  | some roomId => .ok roomId

def matchPlayer (manager : RoomManager ρ) (order : VisitOrder RoomId) (now : Time)
    (player : PlayerId) : Except Fault (MatchResult × RoomManager ρ) :=
  match manager.findPlayer order player with
  | some (roomId, room) =>
    .ok ({ roomId
           seat := room.seatOf player
           gameStarted := room.round.isSome
           gameStart := none }, manager)
  | none => do
    let manager := manager.openWaitingRoom now
    let roomId ← manager.waitingRoom
    let room ← manager.roomAt roomId
    -- the room that waits is never full
    let room := { room with playerIds := room.playerIds ++ [player], lastActivity := now }
    let manager := { manager with playerRooms := manager.playerRooms.insert player room.id }
    if room.playerIds.length = 3 then do
      let players ← room.threePlayers
      let (round, random) := GameRound.start shuffler {} manager.random
      let room := { room with round := some round }.refreshDeadline now
      .ok ({ roomId := room.id
             seat := room.playerIds.length - 1
             gameStarted := true
             gameStart := some {
               playerIds := players
               hands := round.deal.hands
               currentSeat := round.currentSeat } },
        { manager.putRoom roomId room with waitingRoomId := none, random })
    else
      .ok ({ roomId := room.id
             seat := room.playerIds.length - 1
             gameStarted := false
             gameStart := none }, manager.putRoom roomId room)

/-- What `call_landlord`, `play_cards` and `pass` have in hand after the round's answer. -/
structure Acted where
  roomId : RoomId
  room : Room
  round : GameRound
  seat : Nat
  accepted : Bool
  players : List PlayerId

/-- The part that `call_landlord`, `play_cards` and `pass` share: find the round and the
    seat of the player, make the call, and keep the room up to date if it is accepted.
    `roundNow` is the clock inside the round. -/
def act (manager : RoomManager ρ) (roundNow now : Time) (player : PlayerId)
    (op : Nat → RoundOp) : Except Fault (Option Acted × RoomManager ρ) :=
  match manager.playerRooms.lookup player with
  | none => .ok (none, manager)
  | some roomId => do
    let room ← manager.roomAt roomId
    match room.round with
    | none => .ok (none, manager)
    | some round => do
      let seat := room.seatOf player
      let (accepted, state) ← (op seat).exec shuffler roundNow ⟨round, manager.random⟩
      let room := room.keep state.round accepted now
      let players ← room.threePlayers
      .ok (some { roomId, room, round := state.round, seat, accepted, players },
        { manager.putRoom roomId room with random := state.random })

def callLandlord (manager : RoomManager ρ) (startedAt now : Time) (player : PlayerId)
    (call : Bool) : Except Fault (Option CallLandlordResult × RoomManager ρ) := do
  let (acted, manager) ← manager.act shuffler startedAt now player (.callLandlord · call)
  .ok (acted.map fun acted =>
    { accepted := acted.accepted
      currentSeat := acted.round.currentSeat
      gameStarted := acted.round.phase = .playCards
      landlordSeat := acted.round.landlordSeat
      actorSeat := acted.seat
      called := call
      playerIds := acted.players }, manager)

def playCards (manager : RoomManager ρ) (now endedAt : Time) (player : PlayerId)
    (cards : List Card) : Except Fault (Option PlayCardsResult × RoomManager ρ) := do
  match ← manager.act shuffler now now player (.playCards · cards) with
  | (none, manager) => .ok (none, manager)
  | (some acted, manager) =>
    let gameOver : Bool := acted.round.phase = .settled
    let result :=
      { accepted := acted.accepted
        currentSeat := acted.round.currentSeat
        gameOver
        settlements := []
        actorSeat := acted.seat
        playerIds := acted.players }
    -- the room goes with the game
    if gameOver && acted.accepted then
      .ok (some { result with settlements := acted.room.settlements acted.round endedAt },
        manager.removeRoom acted.room.id acted.room)
    else .ok (some result, manager)

def pass (manager : RoomManager ρ) (now : Time) (player : PlayerId) :
    Except Fault (Option PlayCardsResult × RoomManager ρ) := do
  let (acted, manager) ← manager.act shuffler now now player .pass
  .ok (acted.map fun acted =>
    { accepted := acted.accepted
      currentSeat := acted.round.currentSeat
      gameOver := acted.round.phase = .settled
      settlements := []
      actorSeat := acted.seat
      playerIds := acted.players }, manager)

/-- The room, round and seat that the two queries start from. -/
def seatedRound (manager : RoomManager ρ) (player : PlayerId) : Option (Room × GameRound × Nat) :=
  match manager.playerRooms.lookup player with
  | none => none
  | some roomId =>
    match manager.rooms.lookup roomId with
    | none => none
    | some room =>
      match room.round with
      | none => none
      | some round =>
        if player ∈ room.playerIds then some (room, round, room.seatOf player) else none

def reconnectInfo (manager : RoomManager ρ) (player : PlayerId) :
    Except Fault (Option ReconnectInfo) :=
  match manager.seatedRound player with
  | none => .ok none
  | some (room, round, seat) => do
    let hand ← round.hand seat
    .ok (some {
      roomId := room.id
      seat
      phase := round.phase
      currentSeat := round.currentSeat
      landlordSeat := round.landlordSeat
      hand })

/-- `players[seat]`: the player, whether online, and how many cards the seat holds. -/
def playerInfo (manager : RoomManager ρ) (round : GameRound) (player : PlayerId) (seat : Nat) :
    Except Fault PlayerInfo := do
  let hand ← round.hand seat
  .ok {
    playerId := player
    online := (manager.offlineSince.lookup player).isNone
    remainingCards := hand.length }

def roomState (manager : RoomManager ρ) (now : Time) (player : PlayerId) :
    Except Fault (Option RoomState) :=
  match manager.seatedRound player with
  | none => .ok none
  | some (room, round, selfSeat) => do
    let remaining :=
      if room.actionDeadline > now then (room.actionDeadline - now).tdiv (seconds 1) else 0
    let ids ← room.threePlayers
    let players ← ids.zipIdx.mapM fun (other, seat) => manager.playerInfo round other seat
    let ownHand ← round.hand selfSeat
    .ok (some {
      roomId := room.id
      selfSeat
      phase := round.phase
      currentSeat := round.currentSeat
      landlordSeat := round.landlordSeat
      players
      ownHand
      bottomCards := if round.phase = .playCards then round.deal.bottomCards else []
      lastPlaySeat := round.lastPlaySeat
      lastPlayCards := round.lastPlayCards
      -- the cast to `std::uint32_t`
      actionRemainingSeconds := remaining.toNat % 2 ^ 32 })

def markOnline (manager : RoomManager ρ) (player : PlayerId) : RoomManager ρ :=
  { manager with offlineSince := manager.offlineSince.erase player }

def markOffline (manager : RoomManager ρ) (player : PlayerId) (now : Time) : RoomManager ρ :=
  if player ∈ manager.playerRooms then
    { manager with offlineSince := UnorderedMap.emplace manager.offlineSince player now }
  else manager

/-! ## The timer -/

/-- `timeout_expired` at one room.  `startedAt` is the clock inside its round. -/
def timeoutRoom (now startedAt : Time) (actions : List TimeoutAction) (manager : RoomManager ρ)
    (roomId : RoomId) (room : Room) (round : GameRound) :
    Except Fault (List TimeoutAction × RoomManager ρ) := do
  let (accepted, state) ← RoundOp.timeout.exec shuffler startedAt ⟨round, manager.random⟩
  let room := { room with round := some state.round }
  let manager := { manager.putRoom roomId room with random := state.random }
  if accepted then do
    let players ← room.threePlayers
    let room := { room with lastActivity := now }
    let action :=
      { playerIds := players
        actorSeat := round.currentSeat
        phase := state.round.phase
        currentSeat := state.round.currentSeat
        settlements := [] }
    if state.round.phase = .settled then
      .ok (actions ++ [{ action with settlements := room.settlements state.round now }],
        manager.removeRoom roomId room)
    else .ok (actions ++ [action], manager.putRoom roomId (room.refreshDeadline now))
  else .ok (actions, manager)

/-- The loop body of `timeout_expired`. -/
def timeoutVisit (now : Time) (startedAt : RoomId → Time)
    (state : List TimeoutAction × RoomManager ρ) (roomId : RoomId) :
    Except Fault (List TimeoutAction × RoomManager ρ) :=
  match state.2.rooms.lookup roomId with
  | none => .ok state
  | some room =>
    match room.round with
    | none => .ok state
    | some round =>
      if room.actionDeadline > now then .ok state
      else timeoutRoom shuffler now (startedAt roomId) state.1 state.2 roomId room round

def timeoutExpired (manager : RoomManager ρ) (order : VisitOrder RoomId) (now : Time)
    (startedAt : RoomId → Time) : Except Fault (List TimeoutAction × RoomManager ρ) :=
  (order.visit manager.rooms.keys).foldlM (timeoutVisit shuffler now startedAt) ([], manager)

/-- `cleanup_idle` at one room: it closes if it has waited for a minute. -/
def closeIdle (now : Time) (manager : RoomManager ρ) (roomId : RoomId) : RoomManager ρ :=
  match manager.rooms.lookup roomId with
  | none => manager
  | some room =>
    if room.round.isSome ∨ now - room.lastActivity < seconds 60 then manager
    else (manager.stopWaiting room).removeRoom roomId room

def cleanupIdle (manager : RoomManager ρ) (order : VisitOrder RoomId) (now : Time) :
    RoomManager ρ :=
  (order.visit manager.rooms.keys).foldl (closeIdle now) manager

def expired (manager : RoomManager ρ) (now : Time) (player : PlayerId) : Bool :=
  match manager.offlineSince.lookup player with
  | none => false
  | some since => now - since ≥ seconds 300

/-- `cleanup_expired` at one expired player. -/
def closeExpired (now : Time) (rooms : List (List SettlementEntry)) (manager : RoomManager ρ)
    (player : PlayerId) : List (List SettlementEntry) × RoomManager ρ :=
  match manager.playerRooms.lookup player with
  | none => (rooms, { manager with offlineSince := manager.offlineSince.erase player })
  | some roomId =>
    match manager.rooms.lookup roomId with
    | none =>
      (rooms, { manager with
        playerRooms := manager.playerRooms.erase player
        offlineSince := manager.offlineSince.erase player })
    | some room =>
      let settlements := room.expiredSettlements player now
      (if settlements ≠ [] then rooms ++ [settlements] else rooms,
        (manager.stopWaiting room).removeRoom roomId room)

/-- The settlements of the rooms that expired. -/
def cleanupExpired (manager : RoomManager ρ) (order : VisitOrder PlayerId) (now : Time) :
    List (List SettlementEntry) × RoomManager ρ :=
  -- who has expired is noted before the first room closes
  ((order.visit manager.offlineSince.keys).filter (manager.expired now)).foldl
    (fun (rooms, manager) player => closeExpired now rooms manager player) ([], manager)

end RoomManager

/-! ## Calls of the operations -/

inductive RoomOp where
  | matchPlayer (order : VisitOrder RoomId) (now : Time) (player : PlayerId)
  | callLandlord (startedAt now : Time) (player : PlayerId) (call : Bool)
  | playCards (now endedAt : Time) (player : PlayerId) (cards : List Card)
  | pass (now : Time) (player : PlayerId)
  | reconnectInfo (player : PlayerId)
  | roomState (now : Time) (player : PlayerId)
  | markOnline (player : PlayerId)
  | markOffline (player : PlayerId) (now : Time)
  | timeoutExpired (order : VisitOrder RoomId) (now : Time) (startedAt : RoomId → Time)
  | cleanupIdle (order : VisitOrder RoomId) (now : Time)
  | cleanupExpired (order : VisitOrder PlayerId) (now : Time)

inductive RoomAnswer where
  | matched (result : MatchResult)
  | called (result : Option CallLandlordResult)
  | played (result : Option PlayCardsResult)
  | passed (result : Option PlayCardsResult)
  | reconnect (info : Option ReconnectInfo)
  | state (state : Option RoomState)
  | done
  | timeouts (actions : List TimeoutAction)
  | expiries (rooms : List (List SettlementEntry))
deriving DecidableEq

variable {ρ : Type} (shuffler : Shuffler ρ)

def RoomOp.exec (op : RoomOp) (manager : RoomManager ρ) :
    Except Fault (RoomAnswer × RoomManager ρ) :=
  match op with
  | .matchPlayer order now player => do
    let (result, manager) ← manager.matchPlayer shuffler order now player
    .ok (.matched result, manager)
  | .callLandlord startedAt now player call => do
    let (result, manager) ← manager.callLandlord shuffler startedAt now player call
    .ok (.called result, manager)
  | .playCards now endedAt player cards => do
    let (result, manager) ← manager.playCards shuffler now endedAt player cards
    .ok (.played result, manager)
  | .pass now player => do
    let (result, manager) ← manager.pass shuffler now player
    .ok (.passed result, manager)
  | .reconnectInfo player => do
    let info ← manager.reconnectInfo player
    .ok (.reconnect info, manager)
  | .roomState now player => do
    let state ← manager.roomState now player
    .ok (.state state, manager)
  | .markOnline player => .ok (.done, manager.markOnline player)
  | .markOffline player now => .ok (.done, manager.markOffline player now)
  | .timeoutExpired order now startedAt => do
    let (actions, manager) ← manager.timeoutExpired shuffler order now startedAt
    .ok (.timeouts actions, manager)
  | .cleanupIdle order now => .ok (.done, manager.cleanupIdle order now)
  | .cleanupExpired order now =>
    let (rooms, manager) := manager.cleanupExpired order now
    .ok (.expiries rooms, manager)

/-- The settlement batches an answer carries. -/
def RoomAnswer.batches (answer : RoomAnswer) : List (List SettlementEntry) :=
  match answer with
  | .played (some result) => if result.settlements = [] then [] else [result.settlements]
  | .timeouts actions => (actions.map TimeoutAction.settlements).filter (· ≠ [])
  | .expiries rooms => rooms
  | _ => []

end Doudizhu.Gateway
