import Doudizhu.Gateway.RoomManager

/-! # Packets and messages

The packet header of `PacketCodec`, the card numbers of `CardCodec`, and the messages of
`gateway.proto` as far as sessions use them.  What `protoc` generates from that file, to
parse and serialize messages, is a parameter, `Protobuf`.
-/

namespace Doudizhu

/-! ## Card numbers -/

namespace Game.CardCodec

def encode (card : Card) : Nat := card.rank.value * 4 + card.suit

def decode (encoded : Nat) : Option Card :=
  let rankValue := encoded / 4
  let suit := encoded % 4
  if rankValue < Rank.three.value ∨ rankValue > Rank.bigJoker.value then none
  else
    let rank := Rank.ofValue rankValue
    if (rank = .smallJoker ∨ rank = .bigJoker) ∧ suit ≠ 0 then none else some { rank, suit }

end Game.CardCodec

/-- `static_cast<std::uint32_t>(phase)`. -/
def Game.GamePhase.value : GamePhase → Nat
  | .waitingPlayers => 0
  | .callLandlord => 1
  | .playCards => 2
  | .settled => 3

namespace Gateway

open Game

/-! ## Packets -/

abbrev Bytes : Type := List UInt8

structure PacketHeader where
  packetSize : Nat
  messageId : Nat
deriving DecidableEq

namespace PacketCodec

def headerSize : Nat := 6

/-- The shifted bytes do not overlap, so `|` is `+`. -/
def decodeHeader (bytes : Vector UInt8 6) : Option PacketHeader :=
  let packetSize :=
    2 ^ 24 * bytes[0].toNat + 2 ^ 16 * bytes[1].toNat + 2 ^ 8 * bytes[2].toNat + bytes[3].toNat
  let messageId := 2 ^ 8 * bytes[4].toNat + bytes[5].toNat
  if packetSize < headerSize then none else some { packetSize, messageId }

/-- The size field, as the source puts it together. -/
def wireSize (bytes : Vector UInt8 6) : UInt32 :=
  (bytes[0].toUInt32 <<< 24) ||| (bytes[1].toUInt32 <<< 16) ||| (bytes[2].toUInt32 <<< 8) |||
    bytes[3].toUInt32

def wireMessageId (bytes : Vector UInt8 6) : UInt16 :=
  (bytes[4].toUInt16 <<< 8) ||| bytes[5].toUInt16

/-- No bit is shifted out, and none is set twice. -/
theorem shift_or {high low shift width : Nat} (below : low < 2 ^ shift)
    (fits : high * 2 ^ shift < 2 ^ width) :
    high <<< shift % 2 ^ width ||| low = 2 ^ shift * high + low := by
  rw [Nat.mod_eq_of_lt (by rwa [Nat.shiftLeft_eq]), ← Nat.shiftLeft_add_eq_or_of_lt below,
    Nat.shiftLeft_eq, Nat.mul_comm]

theorem wireSize_toNat (bytes : Vector UInt8 6) :
    (wireSize bytes).toNat =
      2 ^ 24 * bytes[0].toNat + 2 ^ 16 * bytes[1].toNat + 2 ^ 8 * bytes[2].toNat + bytes[3].toNat := by
  have first := bytes[0].toNat_lt
  have second := bytes[1].toNat_lt
  have third := bytes[2].toNat_lt
  have fourth := bytes[3].toNat_lt
  have by24 : UInt32.toNat 24 % 32 = 24 := by decide
  have by16 : UInt32.toNat 16 % 32 = 16 := by decide
  have by8 : UInt32.toNat 8 % 32 = 8 := by decide
  simp only [wireSize, UInt32.toNat_or, UInt32.toNat_shiftLeft, UInt8.toNat_toUInt32, Nat.or_assoc,
    by24, by16, by8]
  -- from the last byte on
  rw [shift_or fourth (by omega : bytes[2].toNat * 2 ^ 8 < 2 ^ 32),
    shift_or (by omega : 2 ^ 8 * bytes[2].toNat + bytes[3].toNat < 2 ^ 16)
      (by omega : bytes[1].toNat * 2 ^ 16 < 2 ^ 32),
    shift_or (by omega) (by omega)]
  omega

theorem wireMessageId_toNat (bytes : Vector UInt8 6) :
    (wireMessageId bytes).toNat = 2 ^ 8 * bytes[4].toNat + bytes[5].toNat := by
  have fifth := bytes[4].toNat_lt
  have sixth := bytes[5].toNat_lt
  have by8 : UInt16.toNat 8 % 16 = 8 := by decide
  simp only [wireMessageId, UInt16.toNat_or, UInt16.toNat_shiftLeft, UInt8.toNat_toUInt16, by8]
  exact shift_or (by omega) (by omega)

/-- The first six bytes of a packet, if it has them. -/
def headerBytes : Bytes → Option (Vector UInt8 6)
  | a :: b :: c :: d :: e :: f :: _ => some #v[a, b, c, d, e, f]
  | _ => none

def encodeHeader (header : PacketHeader) : Vector UInt8 6 :=
  #v[UInt8.ofNat (header.packetSize / 2 ^ 24), UInt8.ofNat (header.packetSize / 2 ^ 16),
    UInt8.ofNat (header.packetSize / 2 ^ 8), UInt8.ofNat header.packetSize,
    UInt8.ofNat (header.messageId / 2 ^ 8), UInt8.ofNat header.messageId]

end PacketCodec

def maxPacketSize : Nat := 64 * 1024

/-! ## Messages -/

inductive MessageId where
  | unknown | c2sLogin | s2cLoginRet | c2sHeartbeat | s2cHeartbeatRet | c2sQuickMatch | s2cMatchRet
  | c2sCallLandlord | s2cCallLandlordRet | c2sPlayCards | s2cPlayCardsRet | c2sPass | s2cPassRet
  | s2cDealCards | c2sReconnect | s2cReconnectSync | s2cSettleResult | s2cPlayBroadcast
  | s2cTimeoutAction | s2cRoomState
deriving DecidableEq

/-- The enumerator's number. -/
def MessageId.number : MessageId → Nat
  | .unknown => 0 | .c2sLogin => 1 | .s2cLoginRet => 2 | .c2sHeartbeat => 3 | .s2cHeartbeatRet => 4
  | .c2sQuickMatch => 5 | .s2cMatchRet => 6 | .c2sCallLandlord => 7 | .s2cCallLandlordRet => 8
  | .c2sPlayCards => 9 | .s2cPlayCardsRet => 10 | .c2sPass => 11 | .s2cPassRet => 12
  | .s2cDealCards => 13 | .c2sReconnect => 14 | .s2cReconnectSync => 15 | .s2cSettleResult => 16
  | .s2cPlayBroadcast => 17 | .s2cTimeoutAction => 18 | .s2cRoomState => 19

structure RoomPlayer where
  seat : Nat
  playerId : PlayerId
  online : Bool
  remainingCards : Nat
deriving DecidableEq

/-- A scalar field that is not set reads 0. -/
structure S2CRoomState where
  roomId : Nat
  selfSeat : Nat
  phase : Nat
  currentSeat : Nat
  landlordSeat : Nat
  players : List RoomPlayer
  ownCards : List Nat
  bottomCards : List Nat
  lastPlaySeat : Nat
  lastPlayCards : List Nat
  actionRemainingSeconds : Nat
deriving DecidableEq

/-- The messages that the gateway sends. -/
inductive ServerMessage where
  | loginRet (success : Bool) (playerId : PlayerId) (coins : Int) (message : String)
  | heartBeatRet (serverTime : Int)
  | matchRet (success : Bool) (roomId : Nat) (message : String) (seat : Nat) (gameStarted : Bool)
  | callLandlordRet (accepted : Bool) (currentSeat : Nat) (gameStarted : Bool) (landlordSeat : Nat)
      (actorSeat : Nat) (called : Bool)
  | playCardsRet (accepted : Bool) (currentSeat : Nat) (gameOver : Bool)
  | passRet (accepted : Bool) (currentSeat : Nat) (gameOver : Bool)
  | dealCards (cards : List Nat) (seat : Nat) (currentSeat : Nat)
  | reconnectSync (roomId : Nat) (seat : Nat) (phase : Nat) (currentSeat : Nat) (landlordSeat : Nat)
      (cards : List Nat)
  | settleResult (win : Bool) (coinChange : Int)
  | playBroadcast (seat : Nat) (cards : List Nat) (passed : Bool) (currentSeat : Nat)
  | timeoutAction (actorSeat : Nat) (phase : Nat) (currentSeat : Nat)
  | roomState (state : S2CRoomState)
deriving DecidableEq

/-- The id a message is sent under. -/
def ServerMessage.id : ServerMessage → MessageId
  | .loginRet .. => .s2cLoginRet
  | .heartBeatRet .. => .s2cHeartbeatRet
  | .matchRet .. => .s2cMatchRet
  | .callLandlordRet .. => .s2cCallLandlordRet
  | .playCardsRet .. => .s2cPlayCardsRet
  | .passRet .. => .s2cPassRet
  | .dealCards .. => .s2cDealCards
  | .reconnectSync .. => .s2cReconnectSync
  | .settleResult .. => .s2cSettleResult
  | .playBroadcast .. => .s2cPlayBroadcast
  | .timeoutAction .. => .s2cTimeoutAction
  | .roomState _ => .s2cRoomState

def encodeRoomState (state : RoomState) : S2CRoomState where
  roomId := state.roomId
  selfSeat := state.selfSeat
  phase := state.phase.value
  currentSeat := state.currentSeat
  landlordSeat := state.landlordSeat.getD 0
  players := state.players.zipIdx.map fun (player, seat) =>
    { seat
      playerId := player.playerId
      online := player.online
      remainingCards := player.remainingCards }
  ownCards := state.ownHand.map CardCodec.encode
  bottomCards := state.bottomCards.map CardCodec.encode
  lastPlaySeat := state.lastPlaySeat.getD 0
  lastPlayCards := state.lastPlayCards.map CardCodec.encode
  actionRemainingSeconds := state.actionRemainingSeconds

/-- The generated code: `ParseFromArray` of the messages from clients, with the field that
    is read, and `SerializeAsString`. -/
structure Protobuf where
  parseLogin : Bytes → Option PlayerId
  parseHeartBeat : Bytes → Bool
  parseQuickMatch : Bytes → Bool
  parseCallLandlord : Bytes → Option Bool
  parsePlayCards : Bytes → Option (List Nat)
  parsePass : Bytes → Bool
  parseReconnect : Bytes → Bool
  serialize : ServerMessage → Bytes

end Gateway

end Doudizhu
