import Mathlib.Data.String.Basic
import Doudizhu.Lib.Proto3
import Doudizhu.Gateway.Protocol

/-! # The messages on the wire

`gateway.proto`, as proto3 writes and reads it: the bytes of the messages that the gateway
sends, and the fields that it reads of those from clients.
-/

namespace Doudizhu.Gateway

open Proto3

namespace WireFormat

def roomPlayer (player : RoomPlayer) : Bytes :=
  uintField 1 player.seat ++ stringField 2 player.playerId ++ boolField 3 player.online ++
    uintField 4 player.remainingCards

def roomState (state : S2CRoomState) : Bytes :=
  uintField 1 state.roomId ++ uintField 2 state.selfSeat ++ uintField 3 state.phase ++
    uintField 4 state.currentSeat ++ uintField 5 state.landlordSeat ++
    (state.players.flatMap fun player => lengthField 6 (roomPlayer player)) ++
    packedField 7 state.ownCards ++ packedField 8 state.bottomCards ++
    uintField 9 state.lastPlaySeat ++ packedField 10 state.lastPlayCards ++
    uintField 11 state.actionRemainingSeconds

def roomPlayerFields (player : RoomPlayer) : List (Nat × Content Bytes) :=
  uintFields 1 player.seat ++ stringFields 2 player.playerId ++ uintFields 3 player.online.toNat ++
    uintFields 4 player.remainingCards

/-- The players are messages again. -/
def roomStateFields (state : S2CRoomState) : List (Nat × Content (List (Nat × Content Bytes))) :=
  uintFields 1 state.roomId ++ uintFields 2 state.selfSeat ++ uintFields 3 state.phase ++
    uintFields 4 state.currentSeat ++ uintFields 5 state.landlordSeat ++
    (state.players.map fun player => (6, .bytes (roomPlayerFields player))) ++
    packedFields 7 state.ownCards ++ packedFields 8 state.bottomCards ++
    uintFields 9 state.lastPlaySeat ++ packedFields 10 state.lastPlayCards ++
    uintFields 11 state.actionRemainingSeconds

theorem writeFields_roomPlayer (player : RoomPlayer) :
    writeFields id (roomPlayerFields player) = roomPlayer player := by
  simp [roomPlayerFields, roomPlayer, boolField]

theorem writeFields_roomState (state : S2CRoomState) :
    writeFields (writeFields id) (roomStateFields state) = roomState state := by
  have players : writeFields (writeFields id)
      (state.players.map fun player => (6, .bytes (roomPlayerFields player))) =
      state.players.flatMap fun player => lengthField 6 (roomPlayer player) := by
    simp [writeFields, List.flatMap_map, Content.wireType, Content.write, Content.payload, lengthField,
      ← writeFields_roomPlayer]
  simp [roomStateFields, roomState, players]

/-- `SerializeAsString` -/
def serialize : ServerMessage → Bytes
  | .loginRet success playerId coins message =>
    boolField 1 success ++ stringField 2 playerId ++ intField 3 coins ++ stringField 4 message
  | .heartBeatRet serverTime => intField 1 serverTime
  | .matchRet success roomId message seat gameStarted =>
    boolField 1 success ++ uintField 2 roomId ++ stringField 3 message ++ uintField 4 seat ++
      boolField 5 gameStarted
  | .callLandlordRet accepted currentSeat gameStarted landlordSeat actorSeat called =>
    boolField 1 accepted ++ uintField 2 currentSeat ++ boolField 3 gameStarted ++
      uintField 4 landlordSeat ++ uintField 5 actorSeat ++ boolField 6 called
  | .playCardsRet accepted currentSeat gameOver | .passRet accepted currentSeat gameOver =>
    boolField 1 accepted ++ uintField 2 currentSeat ++ boolField 3 gameOver
  | .dealCards cards seat currentSeat =>
    packedField 1 cards ++ uintField 2 seat ++ uintField 3 currentSeat
  | .reconnectSync roomId seat phase currentSeat landlordSeat cards =>
    uintField 1 roomId ++ uintField 2 seat ++ uintField 3 phase ++ uintField 4 currentSeat ++
      uintField 5 landlordSeat ++ packedField 6 cards
  | .settleResult win coinChange => boolField 1 win ++ intField 2 coinChange
  | .playBroadcast seat cards passed currentSeat =>
    uintField 1 seat ++ packedField 2 cards ++ boolField 3 passed ++ uintField 4 currentSeat
  | .timeoutAction actorSeat phase currentSeat =>
    uintField 1 actorSeat ++ uintField 2 phase ++ uintField 3 currentSeat
  | .roomState state => roomState state

/-- `ParseFromArray` of a message whose fields are not read. -/
def parses (body : Bytes) : Bool := (readFields body).isSome

/-- The generated code. -/
def generated : Protobuf where
  parseLogin body := (readFields body).bind (stringOf 1)
  parseHeartBeat := parses
  parseQuickMatch := parses
  parseCallLandlord body := (readFields body).map fun fields => numberOf 1 fields != 0
  parsePlayCards body := (readFields body).bind (numbersOf 1)
  parsePass := parses
  parseReconnect := parses
  serialize := serialize

end WireFormat

end Doudizhu.Gateway
