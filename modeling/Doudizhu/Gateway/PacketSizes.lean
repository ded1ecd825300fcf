import Doudizhu.Gateway.Reconnects
import Doudizhu.Gateway.Broadcasts
import Doudizhu.Gateway.Displacement
import Doudizhu.Gateway.Tables
import Doudizhu.Gateway.RoomStates
import Doudizhu.Backend.Ledger

/-! # Sizes of packets

`send_packet` closes a session instead of sending a packet of more than 64 KiB.  Player ids
that the backend accepts are short, hands are small, and so are all messages that tell of a
game: as long as nobody logs in under another id, only the echo of a refused login can be
too long.
-/

namespace Doudizhu.Gateway

open Game Proto3

variable {ρ : Type} {shuffler : Shuffler ρ} {protobuf : Protobuf}

/-! ## Sizes of messages -/

def Short (text : String) : Prop := text.toList.length ≤ 32

/-- Codes of the cards of a hand. -/
structure Few (codes : List Nat) : Prop where
  short : codes.length ≤ 20
  small : ∀ code ∈ codes, code < 128

structure RoomPlayer.Modest (player : RoomPlayer) : Prop where
  seat : player.seat < 2 ^ 64
  playerId : Short player.playerId
  remainingCards : player.remainingCards < 2 ^ 64

structure S2CRoomState.Modest (state : S2CRoomState) : Prop where
  roomId : state.roomId < 2 ^ 64
  selfSeat : state.selfSeat < 2 ^ 64
  phase : state.phase < 2 ^ 64
  currentSeat : state.currentSeat < 2 ^ 64
  landlordSeat : state.landlordSeat < 2 ^ 64
  three : state.players.length = 3
  players : ∀ player ∈ state.players, player.Modest
  ownCards : Few state.ownCards
  bottomCards : Few state.bottomCards
  lastPlaySeat : state.lastPlaySeat < 2 ^ 64
  lastPlayCards : Few state.lastPlayCards
  actionRemainingSeconds : state.actionRemainingSeconds < 2 ^ 64

/-- Numbers fit in 64 bits, texts are short, and there are few cards. -/
def ServerMessage.Modest : ServerMessage → Prop
  | .loginRet _ playerId _ message => Short playerId ∧ Short message
  | .heartBeatRet _ | .settleResult _ _ => True
  | .matchRet _ roomId message seat _ => roomId < 2 ^ 64 ∧ Short message ∧ seat < 2 ^ 64
  | .callLandlordRet _ currentSeat _ landlordSeat actorSeat _ =>
    currentSeat < 2 ^ 64 ∧ landlordSeat < 2 ^ 64 ∧ actorSeat < 2 ^ 64
  | .playCardsRet _ currentSeat _ | .passRet _ currentSeat _ => currentSeat < 2 ^ 64
  | .dealCards cards seat currentSeat => Few cards ∧ seat < 2 ^ 64 ∧ currentSeat < 2 ^ 64
  | .reconnectSync roomId seat phase currentSeat landlordSeat cards =>
    roomId < 2 ^ 64 ∧ seat < 2 ^ 64 ∧ phase < 2 ^ 64 ∧ currentSeat < 2 ^ 64 ∧ landlordSeat < 2 ^ 64 ∧
      Few cards
  | .playBroadcast seat cards _ currentSeat => seat < 2 ^ 64 ∧ Few cards ∧ currentSeat < 2 ^ 64
  | .timeoutAction actorSeat phase currentSeat =>
    actorSeat < 2 ^ 64 ∧ phase < 2 ^ 64 ∧ currentSeat < 2 ^ 64
  | .roomState state => state.Modest

section Fields

variable {number : Nat}

theorem uintField_le {value : Nat} (few : number < 16) (small : value < 2 ^ 64) :
    (uintField number value).length ≤ 11 :=
  @uintField_length_le number value 9 few (small.trans (by norm_num))

theorem boolField_le (few : number < 16) (value : Bool) : (boolField number value).length ≤ 11 :=
  uintField_le few (by cases value <;> simp)

theorem intField_le (few : number < 16) (value : Int) : (intField number value).length ≤ 11 :=
  uintField_le few (by omega)

theorem lengthField_le {value : List UInt8} (few : number < 16) (short : value.length < 1000) :
    (lengthField number value).length ≤ value.length + 3 := by
  have size := @varint_length_le value.length 1 (by omega)
  rw [lengthField, List.length_append, List.length_append, tag_length few (by simp)]
  omega

/-- A character takes four bytes at most. -/
theorem utf8_le (text : String) : text.toUTF8.data.toList.length ≤ 4 * text.toList.length := by
  have chars : ∀ chars : List Char, (String.ofList chars).utf8ByteSize ≤ 4 * chars.length := by
    intro chars
    induction chars with
    | nil => simp
    | cons char chars inductionHypothesis =>
      have size := char.utf8Size_le_four
      rw [String.ofList_cons, String.utf8ByteSize_append, String.utf8ByteSize_singleton, List.length_cons]
      omega
  have whole := chars text.toList
  rw [String.ofList_toList] at whole
  simpa using whole

theorem stringField_le {text : String} (few : number < 16) (short : Short text) :
    (stringField number text).length ≤ 131 := by
  have bytes := utf8_le text
  have chars : text.toList.length ≤ 32 := short
  unfold stringField
  split
  · simp
  · exact (lengthField_le few (by omega)).trans (by omega)

theorem packedField_le {codes : List Nat} (few : number < 16) (cards : Few codes) :
    (packedField number codes).length ≤ 22 := by
  have short := cards.short
  exact (packedField_length_le few cards.small (by omega)).trans (by omega)

end Fields

theorem roomPlayer_le {player : RoomPlayer} (modest : player.Modest) :
    (lengthField 6 (WireFormat.roomPlayer player)).length ≤ 167 := by
  have body : (WireFormat.roomPlayer player).length ≤ 164 := by
    have seat := uintField_le (by simp : 1 < 16) modest.seat
    have playerId := stringField_le (by simp : 2 < 16) modest.playerId
    have online := boolField_le (by simp : 3 < 16) player.online
    have cards := uintField_le (by simp : 4 < 16) modest.remainingCards
    simp only [WireFormat.roomPlayer, List.length_append]
    omega
  exact (lengthField_le (by simp) (by omega)).trans (by omega)

theorem roomState_le {state : S2CRoomState} (modest : state.Modest) :
    (WireFormat.roomState state).length ≤ 655 := by
  have roomId := uintField_le (by simp : 1 < 16) modest.roomId
  have selfSeat := uintField_le (by simp : 2 < 16) modest.selfSeat
  have phase := uintField_le (by simp : 3 < 16) modest.phase
  have currentSeat := uintField_le (by simp : 4 < 16) modest.currentSeat
  have landlordSeat := uintField_le (by simp : 5 < 16) modest.landlordSeat
  have ownCards := packedField_le (by simp : 7 < 16) modest.ownCards
  have bottomCards := packedField_le (by simp : 8 < 16) modest.bottomCards
  have lastPlaySeat := uintField_le (by simp : 9 < 16) modest.lastPlaySeat
  have lastPlayCards := packedField_le (by simp : 10 < 16) modest.lastPlayCards
  have remaining := uintField_le (by simp : 11 < 16) modest.actionRemainingSeconds
  have players : (state.players.flatMap fun player => lengthField 6 (WireFormat.roomPlayer player)).length ≤
      501 := by
    obtain ⟨first, second, third, three⟩ := List.length_eq_three.mp modest.three
    have modest := modest.players
    rw [three] at modest ⊢
    have one := roomPlayer_le (modest first (by simp))
    have two := roomPlayer_le (modest second (by simp))
    have last := roomPlayer_le (modest third (by simp))
    simp only [List.flatMap_cons, List.flatMap_nil, List.length_append, List.length_nil]
    omega
  simp only [WireFormat.roomState, List.length_append]
  omega

theorem modest_le {message : ServerMessage} (modest : message.Modest) :
    (WireFormat.serialize message).length ≤ 655 := by
  cases message with
  | loginRet success playerId coins message =>
    have one := boolField_le (by simp : 1 < 16) success
    have two := stringField_le (by simp : 2 < 16) modest.1
    have three := intField_le (by simp : 3 < 16) coins
    have four := stringField_le (by simp : 4 < 16) modest.2
    simp only [WireFormat.serialize, List.length_append]
    omega
  | heartBeatRet serverTime => exact (intField_le (by simp) serverTime).trans (by simp)
  | matchRet success roomId message seat gameStarted =>
    have one := boolField_le (by simp : 1 < 16) success
    have two := uintField_le (by simp : 2 < 16) modest.1
    have three := stringField_le (by simp : 3 < 16) modest.2.1
    have four := uintField_le (by simp : 4 < 16) modest.2.2
    have five := boolField_le (by simp : 5 < 16) gameStarted
    simp only [WireFormat.serialize, List.length_append]
    omega
  | callLandlordRet accepted currentSeat gameStarted landlordSeat actorSeat called =>
    have one := boolField_le (by simp : 1 < 16) accepted
    have two := uintField_le (by simp : 2 < 16) modest.1
    have three := boolField_le (by simp : 3 < 16) gameStarted
    have four := uintField_le (by simp : 4 < 16) modest.2.1
    have five := uintField_le (by simp : 5 < 16) modest.2.2
    have six := boolField_le (by simp : 6 < 16) called
    simp only [WireFormat.serialize, List.length_append]
    omega
  | playCardsRet accepted currentSeat gameOver | passRet accepted currentSeat gameOver =>
    have one := boolField_le (by simp : 1 < 16) accepted
    have two : (uintField 2 currentSeat).length ≤ 11 := uintField_le (by simp) modest
    have three := boolField_le (by simp : 3 < 16) gameOver
    simp only [WireFormat.serialize, List.length_append]
    omega
  | dealCards cards seat currentSeat =>
    have one := packedField_le (by simp : 1 < 16) modest.1
    have two := uintField_le (by simp : 2 < 16) modest.2.1
    have three := uintField_le (by simp : 3 < 16) modest.2.2
    simp only [WireFormat.serialize, List.length_append]
    omega
  | reconnectSync roomId seat phase currentSeat landlordSeat cards =>
    obtain ⟨roomId, seat, phase, currentSeat, landlordSeat, cards⟩ := modest
    have one := uintField_le (by simp : 1 < 16) roomId
    have two := uintField_le (by simp : 2 < 16) seat
    have three := uintField_le (by simp : 3 < 16) phase
    have four := uintField_le (by simp : 4 < 16) currentSeat
    have five := uintField_le (by simp : 5 < 16) landlordSeat
    have six := packedField_le (by simp : 6 < 16) cards
    simp only [WireFormat.serialize, List.length_append]
    omega
  | settleResult win coinChange =>
    have one := boolField_le (by simp : 1 < 16) win
    have two := intField_le (by simp : 2 < 16) coinChange
    simp only [WireFormat.serialize, List.length_append]
    omega
  | playBroadcast seat cards passed currentSeat =>
    have one := uintField_le (by simp : 1 < 16) modest.1
    have two := packedField_le (by simp : 2 < 16) modest.2.1
    have three := boolField_le (by simp : 3 < 16) passed
    have four := uintField_le (by simp : 4 < 16) modest.2.2
    simp only [WireFormat.serialize, List.length_append]
    omega
  | timeoutAction actorSeat phase currentSeat =>
    have one := uintField_le (by simp : 1 < 16) modest.1
    have two := uintField_le (by simp : 2 < 16) modest.2.1
    have three := uintField_le (by simp : 3 < 16) modest.2.2
    simp only [WireFormat.serialize, List.length_append]
    omega
  | roomState state => exact roomState_le modest

theorem modest_fits {message : ServerMessage} (modest : message.Modest) :
    PacketCodec.headerSize + (WireFormat.serialize message).length ≤ maxPacketSize := by
  have small := modest_le modest
  simp only [PacketCodec.headerSize, maxPacketSize]
  omega

/-! ## Rooms -/

theorem few_codes {cards : List Card} (short : cards.length ≤ 20) (genuine : ∀ card ∈ cards, card ∈ createCards) :
    Few (cards.map CardCodec.encode) where
  short := by rwa [List.length_map]
  small := by
    intro code member
    obtain ⟨card, held, rfl⟩ := List.mem_map.mp member
    exact encode_lt (genuine card held)

/-- Seats are seats in every phase. -/
theorem roundInv_seats {log : DealLog} {round : GameRound} (holds : RoundInv log round) :
    round.currentSeat < 3 ∧ round.landlordSeat.getD 0 < 3 ∧ round.lastPlaySeat.getD 0 < 3 := by
  cases phase : round.phase with
  | waitingPlayers => simp [RoundInv, phase] at holds
  | callLandlord =>
    have calling := holds.calling phase
    exact ⟨calling.early, by simp [calling.noLandlord], by simp [calling.noLeader]⟩
  | playCards =>
    have playing := holds.playing phase
    obtain ⟨landlord, seated⟩ := playing.seated
    refine ⟨playing.turn, by simp [seated], ?_⟩
    obtain lead | ⟨leader, follow⟩ := playing.table
    · simp [lead.noLeader]
    · simp [follow.led]
  | settled =>
    have settled := holds.settled phase
    obtain ⟨landlord, seated⟩ := settled.seated
    obtain ⟨winner, trick, _, current, _⟩ := settled.settled
    exact ⟨by omega, by simp [seated], by simp [trick.led]⟩

/-- What is on the table came from a hand. -/
structure GameRound.PlayFew (round : GameRound) : Prop where
  hands : round.HandsBounded
  last : round.lastPlayCards.length ≤ 20

theorem playFew_rule : RoundRule shuffler GameRound.PlayFew where
  start random := ⟨handsBounded_start {} random, by simp [GameRound.start]⟩
  moved {now before after move} few moved := by
    refine ⟨handsBounded_move few.hands moved, ?_⟩
    cases moved with
    | call | landlord | pass => exact few.last
    | redeal => simp [GameRound.start]
    | @play round random seat cards remaining _ _ _ _ _ removed
    | @finish round random seat cards _ _ _ _ _ removed =>
      have split := (removeCards_perm removed).length_eq
      have held : (round.deal.hands seat).length ≤ 20 := few.hands.hands seat
      rw [List.length_append] at split
      show cards.length ≤ 20
      omega
    | endTrick => simp

structure SmallRooms (manager : RoomManager ρ) : Prop where
  rooms : SoundRooms manager
  plays : manager.AllRounds GameRound.PlayFew
  ids : ∀ player, manager.playerRooms.lookup player ≠ none → Short player

section Rooms

variable {manager : RoomManager ρ} {player : PlayerId}

theorem SmallRooms.room_lt {roomId : RoomId} {room : Room} (small : SmallRooms manager)
    (counted : manager.nextRoomId ≤ 2 ^ 64) (found : manager.rooms.lookup roomId = some room) :
    room.id < 2 ^ 64 := by
  rw [(small.rooms.sound.room roomId room found).id]
  exact (small.rooms.sound.fresh roomId room found).trans_le counted

theorem roomState_modest (small : SmallRooms manager) (counted : manager.nextRoomId ≤ 2 ^ 64) {now : Time}
    {state : RoomState} (read : manager.roomState now player = .ok (some state)) :
    (encodeRoomState state).Modest := by
  obtain ⟨_, nothing⟩ | ⟨room, round, seat, remaining, seated, soon, same⟩ :=
    roomState_spec small.rooms.sound read
  · cases nothing
  cases same
  obtain ⟨roomId, found, member, started, own⟩ := seatedRound_spec seated
  have sound := small.rooms.sound.room roomId room found
  obtain ⟨three, _, log, holds⟩ := sound.shape.playing started
  obtain ⟨current, landlord, last⟩ := roundInv_seats holds
  have genuine := small.rooms.genuine roomId room round found started
  have few := small.plays roomId room round found started
  have inside : seat < 3 := own ▸ sound.seat_lt member
  obtain ⟨first, second, third, ids⟩ := List.length_eq_three.mp three
  have names : ∀ other ∈ room.playerIds, Short other := by
    intro other among
    refine small.ids other ?_
    rw [(small.rooms.sound.index other roomId).mpr ⟨room, found, among⟩]
    simp
  have phase := phase_lt round.phase
  refine ⟨small.room_lt counted found, by simp only [encodeRoomState]; omega,
    by simp only [encodeRoomState]; omega, by simp only [encodeRoomState]; omega,
    by simp only [encodeRoomState]; omega, by simp [encodeRoomState, ids], ?_, ?_, ?_,
    by simp only [encodeRoomState]; omega, few_codes few.last genuine.last,
    by simp only [encodeRoomState]; omega⟩
  · intro shown listed
    have held : ∀ other, (round.deal.hands other).length < 2 ^ 64 := fun other =>
      (few.hands.hands other).trans_lt (by norm_num)
    simp only [ids, List.mem_cons, List.not_mem_nil, or_false, forall_eq_or_imp, forall_eq] at names
    simp only [encodeRoomState, ids, List.zipIdx_cons, List.zipIdx_nil, List.map_cons, List.map_nil,
      List.mem_cons, List.not_mem_nil, or_false] at listed
    obtain rfl | rfl | rfl := listed
    · exact ⟨by simp, names.1, held _⟩
    · exact ⟨by simp, names.2.1, held _⟩
    · exact ⟨by simp, names.2.2, held _⟩
  · exact few_codes (few.hands.hands _) (genuine.hands _)
  · refine few_codes ?_ ?_
    · split
      · exact few.hands.bottom.trans (by simp)
      · simp
    · intro card member
      split at member
      · exact genuine.bottom card member
      · cases member

end Rooms

/-! ## Handlers -/

/-- The message that the call is about is modest. -/
def Task.Modest : Task → Prop
  | .sendPacket _ message | .notify _ message => message.Modest
  | _ => True

/-- What a handler leaves is modest, as long as the ids of rooms fit. -/
def Measured (before after : GatewayProcess ρ) : Prop :=
  before.agenda = [] → SmallRooms before.manager → after.manager.nextRoomId ≤ 2 ^ 64 →
    ∀ task ∈ after.agenda, task.Modest

section Handlers

variable {base after : GatewayProcess ρ} {moment : Moment} {id : SessionId} {session : Session}
  {player : PlayerId} {notes : List Note}

theorem modest_tellAll (players : List PlayerId) {message : ServerMessage} (modest : message.Modest) :
    ∀ task ∈ GatewayProcess.tellAll players message, task.Modest := by
  intro task member
  obtain ⟨player, _, told⟩ := List.mem_flatMap.mp member
  obtain rfl | rfl : _ ∨ _ := by simpa using told
  · exact modest
  · trivial

theorem modest_settlements (entries : List SettlementEntry) :
    ∀ task ∈ entries.flatMap GatewayProcess.settleTasks, task.Modest := by
  intro task member
  obtain ⟨entry, _, settles⟩ := List.mem_flatMap.mp member
  obtain rfl | rfl : _ ∨ _ := by simpa [GatewayProcess.settleTasks] using settles
  · trivial
  · trivial

theorem Measured.calls {tasks : List Task} (modest : ∀ task ∈ tasks, task.Modest)
    (done : base.calls tasks = .ok (notes, after)) : Measured base after := by
  cases done
  intro idle _ _ task member
  rw [GatewayProcess.push, idle, List.append_nil] at member
  exact modest task member

/-- After a call the seats of the round are seats. -/
theorem SmallRooms.acted_seats {manager next : RoomManager ρ} {roundNow now : Time} {op : Nat → RoundOp}
    {acted : RoomManager.Acted} {room : Room} {round : GameRound} {state : Game.RoundState ρ}
    (small : SmallRooms manager)
    (spec : ActedAs shuffler manager roundNow now player op acted next room round state) :
    acted.round.currentSeat < 2 ^ 64 ∧ acted.round.landlordSeat.getD 0 < 2 ^ 64 ∧ acted.seat < 2 ^ 64 := by
  obtain ⟨log, holds⟩ := round_sound small.rooms.sound spec.found spec.started spec.done
  obtain ⟨current, landlord, _⟩ := roundInv_seats holds
  have seat := (small.rooms.sound.room _ _ spec.found).seat_lt spec.member
  rw [spec.moved, spec.seat]
  omega

theorem callLandlord_measured {call : Bool}
    (done : base.handleCallLandlord shuffler moment id player call = .ok (notes, after)) : Measured base after := by
  intro idle small _
  unfold GatewayProcess.handleCallLandlord RoomManager.callLandlord at done
  obtain nobody | ⟨acted, next, room, round, state, called, spec⟩ :=
    act_spec shuffler small.rooms.sound moment.startedAt moment.now player (.callLandlord · call)
  · simp only [nobody, bind, Except.bind] at done
    cases done
    simp [GatewayProcess.push, idle, Task.Modest]
  · simp only [called, bind, Except.bind, Option.map_some] at done
    cases done
    obtain ⟨current, landlord, seat⟩ := small.acted_seats spec
    rw [GatewayProcess.push, idle, List.append_nil]
    split
    · exact modest_tellAll _ ⟨current, landlord, seat⟩
    · intro task member
      rw [List.mem_singleton.mp member]
      exact ⟨current, landlord, seat⟩

theorem pass_measured (done : base.handlePass shuffler moment id player = .ok (notes, after)) :
    Measured base after := by
  intro idle small _
  unfold GatewayProcess.handlePass RoomManager.pass at done
  obtain nobody | ⟨acted, next, room, round, state, passed, spec⟩ :=
    act_spec shuffler small.rooms.sound moment.now moment.now player .pass
  · simp only [nobody, bind, Except.bind] at done
    cases done
    simp [GatewayProcess.push, idle, Task.Modest]
  · simp only [passed, bind, Except.bind, Option.map_some] at done
    cases done
    obtain ⟨current, _, seat⟩ := small.acted_seats spec
    rw [GatewayProcess.push, idle, List.append_nil, List.forall_mem_cons]
    refine ⟨current, ?_⟩
    split
    · exact modest_tellAll _ ⟨seat, ⟨by simp, by simp⟩, current⟩
    · simp

/-- Cards that are played come from a hand. -/
theorem SmallRooms.played {manager next : RoomManager ρ} {roundNow now : Time} {cards : List Card}
    {acted : RoomManager.Acted} {room : Room} {round : GameRound} {state : Game.RoundState ρ}
    (small : SmallRooms manager)
    (spec : ActedAs shuffler manager roundNow now player (.playCards · cards) acted next room round state)
    (accepted : acted.accepted = true) : Few (cards.map CardCodec.encode) := by
  obtain ⟨_, move⟩ | ⟨refused, _⟩ := exec_cases spec.done
  · have few := (playFew_rule.moved (small.plays _ _ _ spec.found spec.started) move).last
    have genuine := (genuine_move (small.rooms.genuine _ _ _ spec.found spec.started) move).last
    have laid : state.round.lastPlayCards = cards := by
      generalize acted.seat = seat at move
      cases move <;> rfl
    rw [laid] at few genuine
    exact few_codes few genuine
  · rw [accepted] at refused
    cases refused

theorem playCards_measured {encoded : List Nat}
    (done : base.handlePlayCards shuffler moment id player encoded = .ok (notes, after)) :
    Measured base after := by
  unfold GatewayProcess.handlePlayCards RoomManager.playCards at done
  split at done
  · exact .calls (by simp [Task.Modest]) done
  next cards _ =>
  intro idle small _
  obtain nobody | ⟨acted, next, room, round, state, played, spec⟩ :=
    act_spec shuffler small.rooms.sound moment.now moment.now player (.playCards · cards)
  · simp only [nobody, bind, Except.bind] at done
    cases done
    simp [GatewayProcess.push, idle, Task.Modest]
  obtain ⟨current, _, seat⟩ := small.acted_seats spec
  suffices ∃ result : PlayCardsResult, result.currentSeat = acted.round.currentSeat ∧
      result.actorSeat = acted.seat ∧ result.accepted = acted.accepted ∧
      after.agenda = .sendPacket id (.playCardsRet result.accepted result.currentSeat result.gameOver) ::
        (if result.accepted then GatewayProcess.tellAll result.playerIds
          (.playBroadcast result.actorSeat (cards.map CardCodec.encode) false result.currentSeat) else []) ++
        (if result.gameOver then result.settlements.flatMap GatewayProcess.settleTasks else []) by
    obtain ⟨result, now, actor, same, left⟩ := this
    rw [left, List.cons_append, List.forall_mem_cons, List.forall_mem_append]
    rw [← now] at current
    refine ⟨current, ?_, ?_⟩
    · split
      · next accepted =>
        exact modest_tellAll _ ⟨actor ▸ seat, small.played spec (same ▸ accepted), current⟩
      · simp
    · split
      · exact modest_settlements _
      · simp
  simp only [played, bind, Except.bind] at done
  by_cases ends : (decide (acted.round.phase = .settled) && acted.accepted) = true
  · rw [if_pos ends] at done
    cases done
    exact ⟨_, rfl, rfl, rfl, by rw [GatewayProcess.push, idle, List.append_nil]⟩
  · rw [if_neg ends] at done
    cases done
    exact ⟨_, rfl, rfl, rfl, by rw [GatewayProcess.push, idle, List.append_nil]⟩

/-- A game starts with seventeen cards for each of three players. -/
structure GameStartInfo.Modest (start : GameStartInfo) : Prop where
  three : start.playerIds.length = 3
  hands : ∀ seat, Few ((start.hands seat).map CardCodec.encode)
  currentSeat : start.currentSeat < 2 ^ 64

theorem modest_startTasks {start : GameStartInfo} (modest : start.Modest) :
    ∀ task ∈ GatewayProcess.startTasks start, task.Modest := by
  intro task member
  obtain ⟨⟨player, seat⟩, place, told⟩ := List.mem_flatMap.mp member
  have inside : seat < start.playerIds.length :=
    (List.getElem?_eq_some_iff.mp (List.mk_mem_zipIdx_iff_getElem?.mp place)).1
  have three := modest.three
  obtain rfl | rfl : _ ∨ _ := by simpa using told
  · exact ⟨modest.hands _, by omega, modest.currentSeat⟩
  · trivial

theorem matchPlayer_modest {manager next : RoomManager ρ} {order : VisitOrder RoomId} {now : Time}
    {result : MatchResult} (holds : ManagerInv manager)
    (done : manager.matchPlayer shuffler order now player = .ok (result, next)) :
    result.roomId < next.nextRoomId ∧ result.seat < 3 ∧ ∀ start ∈ result.gameStart, start.Modest := by
  unfold RoomManager.matchPlayer at done
  obtain ⟨roomId, room, found, present, member⟩ | ⟨found, absent⟩ := findPlayer_spec holds order player
  · simp only [found] at done
    cases done
    exact ⟨holds.fresh roomId room present, (holds.room roomId room present).seat_lt member, by simp⟩
  · obtain ⟨roomId, room, opened⟩ := openWaitingRoom_spec holds now
    have present : (manager.openWaitingRoom now).rooms.lookup roomId = some room := by
      rw [opened.rooms, UnorderedMap.find_insert, if_pos rfl]
    have own : room.id < (manager.openWaitingRoom now).nextRoomId := opened.waits.id ▸ opened.fresh
    have few := opened.waits.few
    have seat : (room.playerIds ++ [player]).length - 1 < 3 := by
      rw [List.length_append, List.length_singleton]
      omega
    simp only [found, RoomManager.waitingRoom, opened.waiting, RoomManager.roomAt, present, bind,
      Except.bind] at done
    split at done
    · next three =>
      have players : Room.threePlayers { room with
          playerIds := room.playerIds ++ [player], lastActivity := now } =
          .ok (room.playerIds ++ [player]) := threePlayers_ok three
      simp only [players] at done
      cases done
      refine ⟨own, seat, ?_⟩
      intro start started
      cases started
      have genuine := @genuine_start ρ shuffler {} (manager.openWaitingRoom now).random
      have bounded := @handsBounded_start ρ shuffler {} (manager.openWaitingRoom now).random
      exact ⟨three, fun seat => few_codes (bounded.hands seat) (genuine.hands seat), by simp [GameRound.start]⟩
    · cases done
      exact ⟨own, seat, by simp⟩

theorem quickMatch_measured (done : base.handleQuickMatch shuffler moment id player = .ok (notes, after)) :
    Measured base after := by
  unfold GatewayProcess.handleQuickMatch at done
  split at done
  · refine .calls ?_ done
    simp [Task.Modest, ServerMessage.Modest, Short]
  · obtain ⟨⟨result, manager⟩, matched, done⟩ := ExceptLoop.bind_ok.mp done
    cases done
    intro idle small counted
    obtain ⟨number, seat, starts⟩ := matchPlayer_modest small.rooms.sound matched
    rw [GatewayProcess.push, idle, List.append_nil, List.forall_mem_cons]
    refine ⟨⟨number.trans_le counted, ?_, by omega⟩, ?_⟩
    · cases result.gameStarted <;> simp [Short]
    · split
      · simp
      · next start started => exact modest_startTasks (starts start started)

theorem reconnect_measured (done : base.handleReconnect id player = .ok (notes, after)) :
    Measured base after := by
  intro idle small counted
  obtain ⟨info, read, done⟩ := ExceptLoop.bind_ok.mp done
  cases info with
  | none =>
    cases done
    simp [GatewayProcess.push, idle, Task.Modest]
  | some info =>
    cases done
    rw [GatewayProcess.push, idle, List.append_nil, List.forall_mem_singleton]
    unfold RoomManager.reconnectInfo at read
    split at read
    · cases read
    next room round seat seated =>
    obtain ⟨roomId, found, member, started, own⟩ := seatedRound_spec seated
    have sound := small.rooms.sound.room roomId room found
    obtain ⟨_, _, log, holds⟩ := sound.shape.playing started
    obtain ⟨current, landlord, _⟩ := roundInv_seats holds
    have inside : seat < 3 := own ▸ sound.seat_lt member
    have small_lt : ∀ {value bound : Nat}, value < bound → bound ≤ 128 → value < 2 ^ 64 := by omega
    obtain ⟨hand, dealt, read⟩ := ExceptLoop.bind_ok.mp read
    cases read
    obtain rfl := hand_length dealt
    exact ⟨small.room_lt counted found, small_lt inside (by simp), small_lt (phase_lt _) (by simp),
      small_lt current (by simp), small_lt landlord (by simp),
      few_codes ((small.plays roomId room round found started).hands.hands _)
        ((small.rooms.genuine roomId room round found started).hands _)⟩

theorem dispatched_measured (dispatched : Dispatched shuffler base moment id session (.ok (notes, after))) :
    Measured base after := by
  generalize done : Except.ok (notes, after) = outcome at dispatched
  cases dispatched with
  | closed => exact .calls (by simp [Task.Modest]) done.symm
  | login =>
    cases done
    intro idle _ _
    simp [GatewayProcess.post, idle]
  | heartbeat => exact .calls (by simp [Task.Modest, ServerMessage.Modest]) done.symm
  | quickMatch => exact quickMatch_measured done.symm
  | callLandlord => exact callLandlord_measured done.symm
  | playCards => exact playCards_measured done.symm
  | pass => exact pass_measured done.symm
  | reconnect => exact reconnect_measured done.symm

theorem measured_packets (moment : Moment) (id : SessionId) :
    PacketRule shuffler moment id (@Measured ρ) where
  update measured := measured
  still base idle _ _ := by simp [idle]
  dispatched := dispatched_measured

theorem timeoutExpired_modest {manager next : RoomManager ρ} {order : VisitOrder RoomId} {now : Time}
    {startedAt : RoomId → Time} {actions : List TimeoutAction} (holds : ManagerInv manager)
    (done : manager.timeoutExpired shuffler order now startedAt = .ok (actions, next)) :
    ∀ action ∈ actions, action.actorSeat < 3 ∧ action.currentSeat < 3 := by
  suffices ManagerInv next ∧ ∀ action ∈ actions, action.actorSeat < 3 ∧ action.currentSeat < 3 from this.2
  refine ExceptLoop.foldlM_kept (fun (state : List TimeoutAction × RoomManager ρ) =>
    ManagerInv state.2 ∧ ∀ action ∈ state.1, action.actorSeat < 3 ∧ action.currentSeat < 3) done
    ⟨holds, by simp⟩ ?_
  intro ⟨before, current⟩ roomId ⟨after, later⟩ visited ⟨sound, modest⟩
  unfold RoomManager.timeoutVisit at visited
  split at visited
  · cases visited
    exact ⟨sound, modest⟩
  next room found =>
  split at visited
  · cases visited
    exact ⟨sound, modest⟩
  next round started =>
  split at visited
  · cases visited
    exact ⟨sound, modest⟩
  · obtain ⟨_, _, _, returns, move, _⟩ := timeoutRoom_spec shuffler sound before found started
    obtain ⟨_, rfl⟩ := Prod.mk.inj (Except.ok.inj (returns.symm.trans visited))
    refine ⟨managerInv_move sound move, ?_⟩
    obtain ⟨state, timed, returns⟩ := timeoutRoom_done shuffler sound now _ before found started
    obtain ⟨rfl, _⟩ := Prod.mk.inj (Except.ok.inj (returns.symm.trans visited))
    obtain ⟨_, _, log, holds⟩ := (sound.room roomId room found).shape.playing started
    obtain ⟨log, later⟩ := round_sound sound found started timed
    intro action member
    obtain old | new := List.mem_append.mp member
    · exact modest action old
    · rw [List.mem_singleton.mp new]
      exact ⟨(roundInv_seats holds).1, (roundInv_seats later).1⟩

theorem cleanup_measured (done : base.cleanup shuffler moment = .ok (notes, after)) : Measured base after := by
  intro idle small _
  obtain ⟨⟨actions, manager⟩, timed, done⟩ := ExceptLoop.bind_ok.mp done
  cases done
  have seats := timeoutExpired_modest small.rooms.sound timed
  rw [GatewayProcess.push, idle, List.append_nil, List.forall_mem_append]
  refine ⟨?_, by simp [Task.Modest]⟩
  intro task member
  obtain ⟨action, among, member⟩ := List.mem_flatMap.mp member
  obtain told | settled := List.mem_append.mp member
  · obtain ⟨actor, current⟩ := seats action among
    have phase := phase_lt action.phase
    have modest : (ServerMessage.timeoutAction action.actorSeat action.phase.value action.currentSeat).Modest :=
      ⟨by omega, by omega, by omega⟩
    exact modest_tellAll _ modest task told
  · exact modest_settlements _ task settled

/-- What is left is modest, or it is the answer to a login that was refused. -/
def Modestly (agenda : List Task) : Prop :=
  (∃ id requested coins text, agenda = [.sendPacket id (.loginRet false requested coins text)]) ∨
    ∀ task ∈ agenda, task.Modest

theorem completeLogin_modestly {completion : LoginCompletion} (idle : base.agenda = [])
    (short : completion.result.success → Short completion.result.playerId)
    (done : base.completeLogin moment completion = .ok (notes, after)) : Modestly after.agenda := by
  simp only [GatewayProcess.completeLogin] at done
  split at done
  · next success =>
    obtain ⟨state, _, done⟩ := ExceptLoop.bind_ok.mp done
    cases done
    right
    rw [GatewayProcess.push, GatewayProcess.update, idle, List.append_nil, List.forall_mem_append,
      List.forall_mem_singleton]
    refine ⟨?_, short success, by simp [Short]⟩
    cases state <;> simp [Task.Modest]
  · next failure =>
    cases done
    have refused := Bool.eq_false_iff.mpr failure
    refine .inl ⟨completion.session, completion.requested, completion.result.coins, completion.result.message, ?_⟩
    simp only [GatewayProcess.push, idle, refused, List.append_nil]

theorem handle_modestly {event : Event} (idle : base.agenda = []) (small : SmallRooms base.manager)
    (counted : after.manager.nextRoomId ≤ 2 ^ 64)
    (short : ∀ completion ∈ base.completions, completion.result.success → Short completion.result.playerId)
    (done : base.handle shuffler protobuf moment event = .ok (notes, after)) : Modestly after.agenda := by
  have packets : ∀ id, PacketRule shuffler moment id (@Measured ρ) := measured_packets moment
  have measured : Measured base after → Modestly after.agenda := fun measured =>
    .inr (measured idle small counted)
  have happened := handle_cases shuffler protobuf base moment event
  rw [done] at happened
  generalize answer : Except.ok (notes, after) = outcome at happened
  cases happened with
  | nothing | accepted | shaken | written | returned =>
    cases answer
    exact .inr (by simp [GatewayProcess.update, idle])
  | unshaken | unwritten | expired =>
    exact measured ((packets _).update (.calls (by simp [Task.Modest]) answer.symm))
  | headerRead => exact measured ((packets _).headerRead answer.symm)
  | bodyRead => exact measured ((packets _).bodyRead answer.symm)
  | frameRead => exact measured ((packets _).frameRead answer.symm)
  | loginCompleted found =>
    have returned := short _ (List.mem_of_getElem? found)
    exact @completeLogin_modestly ρ ({ base with completions := base.completions.eraseIdx _ }) _ _ _ _ idle
      returned answer.symm
  | cleanup => exact measured (cleanup_measured answer.symm)

end Handlers

/-! ## Calls -/

section Calls

variable {before after : GatewayProcess ρ} {moment : Moment} {notes : List Note}

/-- What a session that closes sends out of its player's room. -/
def snapshots (state : Option RoomState) : List Task :=
  state.elim [] fun state => state.players.map fun player =>
    .notify player.playerId (.roomState (encodeRoomState state))

theorem close_spec {id : SessionId} {rest : List Task} (agenda : before.agenda = rest)
    (done : before.close moment id = .ok (notes, after)) :
    notes = [] ∧ after.notifier = before.notifier ∧
      ((after.manager = before.manager ∧ after.agenda = rest) ∨
        ∃ player now state, after.manager = before.manager.markOffline player moment.now ∧
          after.manager.roomState now player = .ok state ∧
          after.agenda = (snapshots state ++ [.finishClose id]) ++ rest) := by
  simp only [GatewayProcess.close] at done
  split at done
  · cases done
    exact ⟨rfl, rfl, .inl ⟨rfl, agenda⟩⟩
  next session _ =>
  split at done
  · cases done
    exact ⟨rfl, rfl, .inl ⟨rfl, agenda⟩⟩
  split at done
  · obtain ⟨state, read, done⟩ := ExceptLoop.bind_ok.mp done
    cases state with
    | none =>
      cases done
      refine ⟨rfl, rfl, .inr ⟨session.playerId, _, none, rfl, read, ?_⟩⟩
      exact congrArg ([.finishClose id] ++ ·) agenda
    | some state =>
      cases done
      exact ⟨rfl, rfl, .inr ⟨session.playerId, _, some state, rfl, read, congrArg (_ ++ ·) agenda⟩⟩
  · cases done
    exact ⟨rfl, rfl, .inl ⟨rfl, agenda⟩⟩

/-- A call leaves what was left, and sends what was read from the rooms or was to be told. -/
theorem perform_modestly {task : Task} {rest : List Task} (small : SmallRooms before.manager)
    (later : SmallRooms after.manager) (counted : after.manager.nextRoomId ≤ 2 ^ 64)
    (modestly : Modestly (task :: rest)) (agenda : before.agenda = rest)
    (grows : before.manager.nextRoomId ≤ after.manager.nextRoomId)
    (done : before.perform protobuf moment task = .ok (notes, after)) : Modestly after.agenda := by
  have left : ∀ other ∈ rest, other.Modest := by
    obtain ⟨_, _, _, _, single⟩ | modest := modestly
    · cases single
      simp
    · exact fun other member => modest other (List.mem_cons_of_mem _ member)
  have pushed : ∀ {more : List Task}, after.agenda = more ++ rest → (∀ other ∈ more, other.Modest) →
      Modestly after.agenda := by
    intro more same modest
    rw [same]
    exact .inr (List.forall_mem_append.mpr ⟨modest, left⟩)
  have sent : ∀ {player : PlayerId} {message : ServerMessage}, before.send player message = .ok (notes, after) →
      message.Modest → Modestly after.agenda := by
    intro player message done modest
    unfold GatewayProcess.send at done
    split at done
    · cases done
      exact pushed (by simp [agenda]) (List.forall_mem_nil _)
    · cases done
      refine pushed (by rw [GatewayProcess.push, agenda]) ?_
      rw [List.forall_mem_singleton]
      exact modest
  cases task with
  | sendPacket id message =>
    simp only [GatewayProcess.perform, GatewayProcess.sendPacket] at done
    split at done
    · cases done
      exact pushed (by rw [GatewayProcess.push, agenda]) (by simp [Task.Modest])
    · cases done
      exact pushed (by simp [GatewayProcess.update, agenda]) (List.forall_mem_nil _)
  | close id =>
    obtain ⟨_, _, ⟨_, same⟩ | ⟨player, now, state, _, read, tasks⟩⟩ := close_spec agenda done
    · exact @pushed [] same (List.forall_mem_nil _)
    · refine pushed tasks (List.forall_mem_append.mpr ⟨?_, by simp [Task.Modest]⟩)
      intro task member
      cases state with
      | none => cases member
      | some state =>
        obtain ⟨_, _, rfl⟩ := List.mem_map.mp member
        exact roomState_modest later counted read
  | finishClose id =>
    simp only [GatewayProcess.perform, GatewayProcess.finishClose] at done
    split at done
    · cases done
      exact pushed (by simp [agenda]) (List.forall_mem_nil _)
    split at done
    · cases done
      exact pushed (by simp [GatewayProcess.post, agenda]) (List.forall_mem_nil _)
    · cases done
      exact pushed (by simp [GatewayProcess.post, agenda]) (List.forall_mem_nil _)
  | notify player message =>
    obtain ⟨_, _, _, _, single⟩ | modest := modestly
    · cases single
    · exact sent done (modest _ List.mem_cons_self)
  | notifyRoomState player =>
    obtain ⟨state, read, done⟩ := ExceptLoop.bind_ok.mp done
    cases state with
    | none =>
      cases done
      exact pushed (by simp [agenda]) (List.forall_mem_nil _)
    | some state => exact sent done (roomState_modest small (grows.trans counted) read)
  | postSettle entry =>
    cases done
    exact pushed (by simp [GatewayProcess.post, agenda]) (List.forall_mem_nil _)
  | cleanupIdle now =>
    cases done
    exact pushed (by simp [agenda]) (List.forall_mem_nil _)
  | cleanupExpired now =>
    cases done
    exact pushed (by rw [GatewayProcess.push, agenda]) (modest_settlements _)

end Calls

/-! ## Steps and runs -/

/-- A login that comes back as successful is one that the backend has let in. -/
def Taken.Backed (taken : Taken ρ) : Prop :=
  ∀ index result session requested, taken.event = .jobDone index result →
    taken.before.jobs[index]? = some (.login session requested) → result.success →
    ∃ (ledger next : Backend.Ledger) (response : Backend.LoginResponse),
      ledger.login requested = .ok (response, next) ∧ result.playerId = response.playerId

/-- Ids are short wherever they are kept. -/
structure Named (gateway : GatewayProcess ρ) : Prop where
  rooms : SmallRooms gateway.manager
  completions : ∀ completion ∈ gateway.completions,
    completion.result.success → Short completion.result.playerId
  faces : ∀ id face, gateway.face id = some face → Short face.playerId

section Runs

variable {before after : GatewayProcess ρ} {taken : Taken ρ}

theorem login_short {ledger next : Backend.Ledger} {requested : String} {response : Backend.LoginResponse}
    (login : ledger.login requested = .ok (response, next)) : Short response.playerId := by
  unfold Backend.Ledger.login at login
  split at login
  · next valid =>
    simp only [Backend.validPlayerId, Bool.and_eq_true, decide_eq_true_eq] at valid
    split at login <;> cases login <;> exact valid.2.1.2
  · cases login

/-- The rooms are left alone, or asked something. -/
theorem step_operation {event : Event} {moment : Moment} {notes : List Note}
    (done : before.step shuffler protobuf event moment = .ok (notes, after)) :
    after.manager = before.manager ∨
      ∃ op answer, RoomOp.exec shuffler op before.manager = .ok (answer, after.manager) := by
  obtain ⟨now, cleaned⟩ | ⟨_, asks⟩ := step_asks done
  · refine .inr ⟨.cleanupExpired moment.players now,
      .expiries (before.manager.cleanupExpired moment.players now).1, ?_⟩
    rw [cleaned.manager]
    rfl
  · cases asks with
    | nothing manager => exact .inl manager
    | operation asked => exact .inr ⟨_, _, asked⟩

theorem step_grows (holds : ManagerInv before.manager) (step : GatewayStep shuffler protobuf before taken after) :
    before.manager.nextRoomId ≤ after.manager.nextRoomId := by
  obtain same | ⟨op, answer, asked⟩ := step_operation step.2.2
  · rw [same]
  · have roomStep : RoomStep shuffler before.manager ⟨op, before.manager, answer⟩ after.manager := ⟨rfl, asked⟩
    obtain ⟨events, comes⟩ := roomStep.comes holds
    exact moves_grow comes.moves

/-- New players in rooms are players of sessions. -/
theorem step_ids (named : Named before) {event : Event} {notes : List Note}
    (move : GatewayMove before event notes after) :
    ∀ player, after.manager.playerRooms.lookup player ≠ none → Short player := by
  have same : after.manager.playerRooms = before.manager.playerRooms →
      ∀ player, after.manager.playerRooms.lookup player ≠ none → Short player := by
    intro same player
    rw [same]
    exact named.rooms.ids player
  have shrinks : Shrinks before.manager after.manager →
      ∀ player, after.manager.playerRooms.lookup player ≠ none → Short player := by
    intro shrinks player seated
    obtain gone | ⟨kept, _⟩ := shrinks player
    · exact absurd gone seated
    · exact named.rooms.ids player (kept ▸ seated)
  cases move with
  | stalled => exact same rfl
  | other _ keeps => exact same (by rw [keeps.manager])
  | opened _ _ manager => exact same (by rw [manager])
  | handed _ keeps => exact same (by rw [keeps.manager])
  | @acted _ id face _ _ _ _ found _ effect =>
    obtain ⟨fewer, _⟩ | ⟨_, _, others⟩ := effect
    · exact shrinks fewer
    · intro player seated
      by_cases own : player = face.playerId
      · exact own ▸ named.faces id face found
      · exact named.rooms.ids player (others player own ▸ seated)
  | loggedIn _ _ _ _ manager => exact same (by rw [manager]; rfl)
  | closed _ _ _ _ _ manager => exact same (by rw [manager])
  | closing _ _ _ _ _ _ manager => exact same (by rw [manager, markOffline_playerRooms])
  | finished _ _ manager => exact same (by rw [manager])
  | cleaned _ fewer => exact shrinks fewer

/-- New players of sessions have logged in. -/
theorem step_faces (named : Named before) {event : Event} {notes : List Note}
    (move : GatewayMove before event notes after) :
    ∀ id face, after.face id = some face → Short face.playerId := by
  have kept : (∀ id, after.face id = before.face id) →
      ∀ id face, after.face id = some face → Short face.playerId :=
    fun same id face found => named.faces id face (same id ▸ found)
  have closes : ∀ {id : SessionId} {face : Face}, before.face id = some face →
      (∀ other, after.face other = if other = id then some { face with closed := true }
        else before.face other) →
      ∀ other shown, after.face other = some shown → Short shown.playerId := by
    intro id face found faces other shown seen
    rw [faces] at seen
    split at seen
    · cases seen
      exact named.faces id face found
    · exact named.faces other shown seen
  cases move with
  | stalled => exact named.faces
  | other _ keeps => exact kept keeps.face
  | opened _ _ _ _ faces =>
    intro id face found
    obtain same | ⟨_, new⟩ := faces id
    · exact named.faces id face (same ▸ found)
    · cases new.symm.trans found
      simp [Short]
  | handed _ keeps => exact kept keeps.face
  | acted _ _ _ _ _ _ faces => exact kept faces
  | loggedIn _ _ found success _ _ faces =>
    intro id face seen
    rw [faces] at seen
    split at seen
    · obtain ⟨_, _, rfl⟩ := Option.map_eq_some_iff.mp seen
      exact named.completions _ (List.mem_of_getElem? found) success
    · exact named.faces id face seen
  | closed _ _ found _ _ _ _ faces => exact closes found faces
  | closing _ _ _ found _ _ _ _ faces => exact closes found faces
  | finished _ _ _ _ faces => exact kept faces
  | cleaned _ _ _ _ _ _ faces => exact kept faces

/-- Logins that come back bring what the backend has answered. -/
theorem step_completions (named : Named before) (step : GatewayStep shuffler protobuf before taken after)
    (backed : taken.Backed) : ∀ completion ∈ after.completions,
      completion.result.success → Short completion.result.playerId := by
  obtain ⟨rfl, rfl, done⟩ := step
  intro completion member success
  cases step_calls done with
  | same calls => exact named.completions completion (calls.completions ▸ member) success
  | @returned index job result _ event _ found _ _ completions =>
    rw [completions] at member
    obtain old | new := List.mem_append.mp member
    · exact named.completions completion old success
    · cases job with
      | login session requested =>
        obtain rfl := List.mem_singleton.mp new
        obtain ⟨ledger, next, response, login, same⟩ := backed index result session requested event found success
        exact same ▸ login_short login
      | _ => cases new
  | completed _ _ _ _ _ completions =>
    exact named.completions completion (List.mem_of_mem_eraseIdx (completions ▸ member)) success
  | finished _ _ _ _ _ completions => exact named.completions completion (completions ▸ member) success

theorem step_named (named : Named before) (step : GatewayStep shuffler protobuf before taken after)
    (backed : taken.Backed) : Named after := by
  obtain ⟨_, move⟩ := step.moves named.rooms.rooms.sound
  refine ⟨⟨named.rooms.rooms.step step.2.2, ?_, step_ids named move⟩, step_completions named step backed,
    step_faces named move⟩
  obtain same | ⟨op, answer, asked⟩ := step_operation step.2.2
  · exact same ▸ named.rooms.plays
  · have roomStep : RoomStep shuffler before.manager ⟨op, before.manager, answer⟩ after.manager := ⟨rfl, asked⟩
    exact playFew_rule.step named.rooms.rooms.sound named.rooms.plays roomStep

theorem step_modestly (named : Named before) (step : GatewayStep shuffler protobuf before taken after)
    (backed : taken.Backed) (counted : after.manager.nextRoomId ≤ 2 ^ 64) (modestly : Modestly before.agenda) :
    Modestly after.agenda := by
  have later := (step_named named step backed).rooms
  have grows := step_grows named.rooms.rooms.sound step
  obtain ⟨_, _, done⟩ := step
  simp only [GatewayProcess.step] at done
  cases agenda : before.agenda with
  | nil =>
    simp only [agenda] at done
    exact handle_modestly agenda named.rooms counted named.completions done
  | cons task rest =>
    simp only [agenda] at done modestly
    split at done
    · exact @perform_modestly ρ protobuf ({ before with agenda := rest }) _ _ _ _ _ named.rooms later counted
        modestly rfl grows done
    · obtain ⟨_, rfl⟩ := Prod.mk.inj (Except.ok.inj done)
      exact agenda ▸ modestly

theorem named_start (random : ρ) : Named ({ manager := { random } } : GatewayProcess ρ) where
  rooms := ⟨soundRooms_empty random, allRounds_empty random, by simp⟩
  completions := by simp
  faces := by simp [GatewayProcess.face]

theorem modestly_run {random : ρ} {trace : List (Taken ρ)} {finish : GatewayProcess ρ}
    (run : Transition.Steps (GatewayStep shuffler protobuf) { manager := { random } } trace finish)
    (backed : ∀ taken ∈ trace, taken.Backed) (counted : finish.manager.nextRoomId ≤ 2 ^ 64) :
    ∀ taken ∈ trace, Modestly taken.before.agenda := by
  suffices (∀ taken ∈ trace, taken.Backed) → Named finish ∧ (finish.manager.nextRoomId ≤ 2 ^ 64 →
      Modestly finish.agenda ∧ ∀ taken ∈ trace, Modestly taken.before.agenda) from
    ((this backed).2 counted).2
  refine run.history (fun trace (gateway : GatewayProcess ρ) => (∀ taken ∈ trace, taken.Backed) →
    Named gateway ∧ (gateway.manager.nextRoomId ≤ 2 ^ 64 →
      Modestly gateway.agenda ∧ ∀ taken ∈ trace, Modestly taken.before.agenda)) ?_ ?_
  · exact fun _ => ⟨named_start random, fun _ => ⟨.inr (by simp), by simp⟩⟩
  · intro trace before taken after _ kept step backed
    rw [List.forall_mem_append, List.forall_mem_singleton] at backed
    obtain ⟨named, modestly⟩ := kept backed.1
    refine ⟨step_named named step backed.2, fun counted => ?_⟩
    obtain ⟨now, earlier⟩ := modestly ((step_grows named.rooms.rooms.sound step).trans counted)
    refine ⟨step_modestly named step backed.2 counted now, ?_⟩
    rw [List.forall_mem_append, List.forall_mem_singleton]
    exact ⟨earlier, step.1 ▸ now⟩

/-- `send_packet` is called with a message that does not fit, in the middle of a handler. -/
def Taken.Outgrows (protobuf : Protobuf) (taken : Taken ρ) : Prop :=
  ∃ id message rest, taken.before.agenda = .sendPacket id message :: rest ∧ rest ≠ [] ∧
    maxPacketSize < PacketCodec.headerSize + (protobuf.serialize message).length

theorem modestly_fits (writes : protobuf.serialize = WireFormat.serialize)
    (modestly : Modestly taken.before.agenda) : ¬ taken.Outgrows protobuf := by
  rintro ⟨id, message, rest, agenda, more, long⟩
  rw [agenda] at modestly
  rw [writes] at long
  obtain ⟨_, _, _, _, single⟩ | modest := modestly
  · cases single
    exact more rfl
  · exact absurd (modest_fits (modest _ List.mem_cons_self)) (not_le.mpr long)

/-- What `send_packet` is given fits, unless it is the answer to a login that was refused. -/
theorem only_refusals_outgrow (shuffler : Shuffler ρ) (protobuf : Protobuf)
    (writes : protobuf.serialize = WireFormat.serialize) (random : ρ) (inputs : List (Event × Moment)) :
    ∃ trace finish,
      ({ manager := { random } } : GatewayProcess ρ).run shuffler protobuf inputs = .ok (trace, finish) ∧
      ((∀ taken ∈ trace, taken.Backed) → finish.manager.nextRoomId ≤ 2 ^ 64 →
        ∀ taken ∈ trace, ∀ id message, taken.before.agenda.head? = some (.sendPacket id message) →
          (∃ requested coins text, message = .loginRet false requested coins text) ∨
            PacketCodec.headerSize + (protobuf.serialize message).length ≤ 661) := by
  obtain ⟨trace, finish, ran, run⟩ := gateway_runs shuffler protobuf random inputs
  refine ⟨trace, finish, ran, fun backed counted taken member id message head => ?_⟩
  obtain ⟨_, requested, coins, text, single⟩ | modest := modestly_run run backed counted taken member
  · rw [single, List.head?_cons] at head
    cases head
    exact .inl ⟨requested, coins, text, rfl⟩
  · have small := modest_le (modest _ (List.mem_of_head? head))
    rw [writes, PacketCodec.headerSize]
    exact .inr (by omega)

/-! ## A run with logins -/

/-- A login that comes back is one that was asked for under an id of a player. -/
def Taken.backs (taken : Taken ρ) : Bool :=
  match taken.event with
  | .jobDone index result =>
    match taken.before.jobs[index]? with
    | some (.login _ requested) => Backend.validPlayerId requested && result.playerId == requested
    | _ => true
  | _ => true

theorem Taken.backed_of_backs (backs : taken.backs) : taken.Backed := by
  intro index result session requested event job _
  simp only [Taken.backs, event, job, Bool.and_eq_true, beq_iff_eq] at backs
  exact ⟨{}, _, ⟨requested, Backend.initialCoins, true⟩, if_pos backs.1, backs.2⟩

/-- Three players log in, are matched, and one leaves. -/
theorem leavesTheGame_backed : ∃ trace finish,
    ({ manager := { random := () } } : GatewayProcess Unit).run .identity WireFormat.generated
      leavesTheGame = .ok (trace, finish) ∧
    (∀ taken ∈ trace, taken.Backed) ∧ finish.manager.nextRoomId ≤ 2 ^ 64 ∧ finish.agenda = [] := by
  obtain ⟨⟨trace, finish⟩, ran, passes⟩ := ExceptLoop.exists_of_test
    (show ExceptLoop.test (fun (trace, finish) => trace.all Taken.backs &&
        (finish.manager.nextRoomId ≤ 2 ^ 64 && finish.agenda.isEmpty))
      (({ manager := { random := () } } : GatewayProcess Unit).run .identity WireFormat.generated
        leavesTheGame) = true by
    decide +kernel)
  rw [Bool.and_eq_true, Bool.and_eq_true, List.all_eq_true, decide_eq_true_iff, List.isEmpty_iff] at passes
  exact ⟨trace, finish, ran, fun taken member => taken.backed_of_backs (passes.1 taken member), passes.2⟩

theorem leavesTheGame_small : ∃ trace finish,
    ({ manager := { random := () } } : GatewayProcess Unit).run .identity WireFormat.generated
      leavesTheGame = .ok (trace, finish) ∧
    ∀ taken ∈ trace, ∀ id message, taken.before.agenda.head? = some (.sendPacket id message) →
      (∃ requested coins text, message = .loginRet false requested coins text) ∨
        PacketCodec.headerSize + (WireFormat.serialize message).length ≤ 661 := by
  obtain ⟨trace, finish, ran, backed, counted, _⟩ := leavesTheGame_backed
  obtain ⟨other, last, again, small⟩ :=
    only_refusals_outgrow .identity WireFormat.generated rfl () leavesTheGame
  cases ran.symm.trans again
  exact ⟨trace, finish, ran, small backed counted⟩

end Runs

end Doudizhu.Gateway
