import Doudizhu.Gateway.ClientRequests
import Doudizhu.Gateway.Durations
import Doudizhu.Gateway.Progress
import Doudizhu.Gateway.RoomStateCodec
import Doudizhu.Gateway.WireFormat

/-! # What comes of C2S_RECONNECT

`reconnect_info` has something to return for a player whose room plays, and the answer fits
in a packet.  For every other player the session closes.
-/

namespace Doudizhu.Gateway

open Game

variable {ρ : Type} {shuffler : Shuffler ρ} {protobuf : Protobuf}

/-! ## Rooms of the gateway -/

/-- What the steps of the gateway keep of its rooms. -/
structure SoundRooms (manager : RoomManager ρ) : Prop where
  sound : ManagerInv manager
  genuine : manager.Genuine
  bounded : manager.AllRounds GameRound.HandsBounded

theorem soundRooms_empty (random : ρ) : SoundRooms ({ random } : RoomManager ρ) where
  sound := managerInv_empty random
  genuine := allRounds_empty random
  bounded := allRounds_empty random

theorem bounded_rule : RoundRule shuffler GameRound.HandsBounded where
  start random := handsBounded_start {} random
  moved := handsBounded_move

theorem SoundRooms.operation {before after : RoomManager ρ} {op : RoomOp} {answer : RoomAnswer}
    (rooms : SoundRooms before) (done : op.exec shuffler before = .ok (answer, after)) :
    SoundRooms after := by
  have step : RoomStep shuffler before ⟨op, before, answer⟩ after := ⟨rfl, done⟩
  exact ⟨managerInv_step rooms.sound step, genuine_rule.step rooms.sound rooms.genuine step,
    bounded_rule.step rooms.sound rooms.bounded step⟩

theorem SoundRooms.step {before after : GatewayProcess ρ} {event : Event} {moment : Moment}
    {notes : List Note} (rooms : SoundRooms before.manager)
    (done : before.step shuffler protobuf event moment = .ok (notes, after)) :
    SoundRooms after.manager := by
  obtain ⟨now, cleaned⟩ | ⟨_, asks⟩ := step_asks done
  · have asked : (RoomOp.cleanupExpired moment.players now).exec shuffler before.manager =
        .ok (.expiries (before.manager.cleanupExpired moment.players now).1, after.manager) := by
      rw [cleaned.manager]
      rfl
    exact rooms.operation asked
  · cases asks with
    | nothing manager => exact manager ▸ rooms
    | operation asked => exact rooms.operation asked

theorem SoundRooms.run {gateway finish : GatewayProcess ρ} {inputs : List (Event × Moment)}
    {trace : List (Taken ρ)} (rooms : SoundRooms gateway.manager)
    (ran : gateway.run shuffler protobuf inputs = .ok (trace, finish)) : SoundRooms finish.manager :=
  (GatewayProcess.run_steps ran).invariant (fun gateway => SoundRooms gateway.manager) rooms
    fun _ _ _ rooms step => rooms.step step.2.2

/-! ## The answer -/

/-- The player sits in a room that plays. -/
def RoomManager.plays (manager : RoomManager ρ) (player : PlayerId) : Bool :=
  (manager.playerRooms.lookup player).any fun roomId =>
    (manager.rooms.lookup roomId).any fun room => room.round.isSome

/-- S2C_RECONNECT_SYNC -/
def ReconnectInfo.message (info : ReconnectInfo) : ServerMessage :=
  .reconnectSync info.roomId info.seat info.phase.value info.currentSeat (info.landlordSeat.getD 0)
    (info.hand.map CardCodec.encode)

section Answer

variable {manager : RoomManager ρ} {player : PlayerId}

/-- There is something to return exactly for players in games. -/
theorem reconnectInfo_isSome {info : Option ReconnectInfo} (sound : ManagerInv manager)
    (read : manager.reconnectInfo player = .ok info) : info.isSome ↔ manager.plays player := by
  unfold RoomManager.reconnectInfo RoomManager.seatedRound at read
  unfold RoomManager.plays
  cases indexed : manager.playerRooms.lookup player with
  | none =>
    simp only [indexed] at read
    cases read
    simp
  | some roomId =>
    obtain ⟨room, found, member⟩ := (sound.index player roomId).mp indexed
    simp only [indexed, found, Option.any_some] at read ⊢
    cases started : room.round with
    | none =>
      simp only [started] at read
      cases read
      simp
    | some round =>
      simp only [started, if_pos member] at read
      obtain ⟨hand, _, read⟩ := ExceptLoop.bind_ok.mp read
      cases read
      simp

theorem encode_lt {card : Card} (genuine : card ∈ createCards) : CardCodec.encode card < 128 := by
  have all : ∀ card ∈ createCards, CardCodec.encode card < 128 := by decide
  exact all card genuine

theorem phase_lt (phase : GamePhase) : phase.value < 128 := by
  cases phase <;> decide

/-- The seats of a round that goes on are seats. -/
theorem seats_lt {log : DealLog} {round : GameRound} (holds : RoundInv log round)
    (unsettled : round.phase ≠ .settled) :
    round.currentSeat < 3 ∧ round.landlordSeat.getD 0 < 3 := by
  cases phase : round.phase with
  | waitingPlayers => simp [RoundInv, phase] at holds
  | settled => exact absurd phase unsettled
  | callLandlord =>
    have calling := holds.calling phase
    exact ⟨calling.early, by simp [calling.noLandlord]⟩
  | playCards =>
    have playing := holds.playing phase
    obtain ⟨landlord, seated⟩ := playing.seated
    exact ⟨playing.turn, by simp [seated]⟩

/-- As long as room ids fit in their 64 bits, the answer fits in a packet. -/
theorem reconnectSync_fits {info : ReconnectInfo} (rooms : SoundRooms manager)
    (counted : manager.nextRoomId ≤ 2 ^ 64) (read : manager.reconnectInfo player = .ok (some info)) :
    PacketCodec.headerSize + (WireFormat.serialize info.message).length ≤ maxPacketSize := by
  unfold RoomManager.reconnectInfo at read
  split at read
  · cases read
  next room round seat seated =>
  obtain ⟨roomId, found, member, started, own⟩ := seatedRound_spec seated
  have sound := rooms.sound.room roomId room found
  obtain ⟨_, unsettled, log, holds⟩ := sound.shape.playing started
  obtain ⟨current, landlord⟩ := seats_lt holds unsettled
  have inside : seat < 3 := own ▸ sound.seat_lt member
  obtain ⟨hand, dealt, read⟩ := ExceptLoop.bind_ok.mp read
  cases read
  rw [GameRound.hand, dif_pos inside] at dealt
  cases dealt
  have few := (rooms.bounded roomId room round found started).hands ⟨seat, inside⟩
  have codes : ∀ code ∈ (round.deal.hands ⟨seat, inside⟩).map CardCodec.encode, code < 128 := by
    intro code member
    obtain ⟨card, held, rfl⟩ := List.mem_map.mp member
    exact encode_lt ((rooms.genuine roomId room round found started).hands _ card held)
  -- nine groups of seven bits for the id, one for each of the others
  have id : room.id < 128 ^ (9 + 1) := by
    rw [sound.id]
    exact ((rooms.sound.fresh roomId room found).trans_le counted).trans (by norm_num)
  have first := @Proto3.uintField_length_le 1 room.id 9 (by simp) id
  have second := @Proto3.uintField_length_le 2 seat 0 (by simp) (by omega)
  have third := @Proto3.uintField_length_le 3 round.phase.value 0 (by simp) (phase_lt _)
  have fourth := @Proto3.uintField_length_le 4 round.currentSeat 0 (by simp) (by omega)
  have fifth := @Proto3.uintField_length_le 5 (round.landlordSeat.getD 0) 0 (by simp) (by omega)
  have cards := Proto3.packedField_length_le (by simp : 6 < 16) codes (by rw [List.length_map]; omega)
  rw [List.length_map] at cards
  simp only [ReconnectInfo.message, WireFormat.serialize, List.length_append, PacketCodec.headerSize,
    maxPacketSize]
  omega

end Answer

/-! ## The handler -/

/-- C2S_RECONNECT, which has no body. -/
def reconnectPacket : Bytes := [0, 0, 0, 6, 0, 14]

theorem decoded_reconnectPacket :
    (PacketCodec.headerBytes reconnectPacket).bind PacketCodec.decodeHeader =
      some { packetSize := 6, messageId := MessageId.c2sReconnect.number } := by decide

/-- The session is there, and has not closed. -/
def GatewayProcess.isOpen (gateway : GatewayProcess ρ) (id : SessionId) : Bool :=
  gateway.sessions[id]?.any fun session => !session.closed

/-- A packet that is read now is not one too many in its second, and no other session has
    logged in as the player since. -/
def Session.accepts (session : Session) (notifier : PlayerNotifier) (now : Time) : Bool :=
  !(session.countMessage now).overLimit && !session.displaced notifier

section Handler

variable {gateway after : GatewayProcess ρ} {id : SessionId} {session : Session} {moment : Moment}
  {notes : List Note}

theorem isOpen_of_closing (idle : gateway.agenda = []) (closing : gateway.Closing id) :
    gateway.isOpen id = false := by
  obtain ⟨session, found, closed⟩ | member := closing
  · simp [GatewayProcess.isOpen, found, closed]
  · rw [idle] at member
    cases member

theorem counted_closed (now : Time) : (session.counted now).closed = session.closed := by
  unfold Session.counted Session.countMessage
  split <;> rfl

theorem counted_playerId (now : Time) : (session.counted now).playerId = session.playerId := by
  unfold Session.counted Session.countMessage
  split <;> rfl

theorem counted_displaced (now : Time) (notifier : PlayerNotifier) :
    (session.counted now).displaced notifier = session.displaced notifier := by
  unfold Session.counted Session.countMessage
  split <;> rfl

theorem counted_overLimit (now : Time) :
    (session.counted now).overLimit = (session.countMessage now).overLimit := by
  unfold Session.counted Session.countMessage
  split <;> split <;> first | rfl | contradiction

theorem dispatch_reconnect {body : Bytes} (read : protobuf.parseReconnect body) :
    gateway.dispatch shuffler protobuf moment id session MessageId.c2sReconnect.number body =
      if session.displaced gateway.notifier then gateway.calls [.close id]
      else gateway.handleReconnect id session.playerId := by
  simp [GatewayProcess.dispatch, MessageId.number, read]

/-- The session closes, or `reconnect_info` is asked. -/
theorem reconnect_read (shuffler : Shuffler ρ) (moment : Moment)
    (found : gateway.sessions[id]? = some session) (waits : session.pendingRead = some .frame) :
    ∃ base : GatewayProcess ρ, base.sessions[id]? = some (session.counted moment.packetAt) ∧
      base.manager = gateway.manager ∧ base.agenda = gateway.agenda ∧
      gateway.handle shuffler WireFormat.generated moment (.frameRead id (some reconnectPacket)) =
        if session.accepts gateway.notifier moment.packetAt then base.handleReconnect id session.playerId
        else base.calls [.close id] := by
  obtain ⟨base, same⟩ : ∃ base, base = (gateway.update id fun _ =>
      { session with pendingRead := none, readInProgress := false }).update id fun _ =>
        session.counted moment.packetAt := ⟨_, rfl⟩
  have small : ¬ (6 ≠ reconnectPacket.length ∨ 6 > maxPacketSize) := by decide
  have read : WireFormat.generated.parseReconnect (reconnectPacket.drop PacketCodec.headerSize) := by decide
  have handled : gateway.handle shuffler WireFormat.generated moment (.frameRead id (some reconnectPacket)) =
      if (session.counted moment.packetAt).overLimit then base.calls [.close id]
      else base.dispatch shuffler WireFormat.generated moment id (session.counted moment.packetAt)
        MessageId.c2sReconnect.number (reconnectPacket.drop PacketCodec.headerSize) := by
    simp only [GatewayProcess.handle, found, waits, ne_eq, not_true_eq_false, if_false,
      GatewayProcess.frameRead, GatewayProcess.handleWebSocketPacket, decoded_reconnectPacket]
    rw [if_neg small, same]
    rfl
  refine ⟨base, by rw [same, update_own (update_own found)], by rw [same]; rfl, by rw [same]; rfl, ?_⟩
  have notifier : base.notifier = gateway.notifier := by rw [same]; rfl
  rw [handled, dispatch_reconnect read, notifier, counted_overLimit, counted_displaced, counted_playerId]
  cases many : (session.countMessage moment.packetAt).overLimit <;>
    cases displaced : session.displaced gateway.notifier <;> simp [Session.accepts, many, displaced]

end Handler

/-! ## The whole handler -/

section Whole

variable {gateway finish : GatewayProcess ρ} {id : SessionId} {session : Session} {moment : Moment}
  {trace : List (Taken ρ)}

/-- When there is nothing left to do, a handler is through. -/
theorem run_through {later : List Moment} (idle : gateway.agenda = [])
    (ran : gateway.run shuffler protobuf (later.map fun moment => (.next, moment)) =
      .ok (trace, finish)) : finish = gateway := by
  induction later generalizing trace with
  | nil =>
    cases ran
    rfl
  | cons moment later inductionHypothesis =>
    have still : gateway.step shuffler protobuf .next moment = .ok ([], gateway) := by
      simp only [GatewayProcess.step, idle, GatewayProcess.handle]
    obtain ⟨notes, next, others, done, rest, rfl⟩ := GatewayProcess.run_cons.mp ran
    rw [still] at done
    cases done
    exact inductionHypothesis rest

/-- A session that is being closed is closed in the end. -/
theorem run_closing {inputs : List (Event × Moment)} (sound : ManagerInv gateway.manager)
    (found : gateway.sessions[id]? = some session) (closing : gateway.Closing id)
    (ran : gateway.run shuffler protobuf inputs = .ok (trace, finish)) : finish.Closing id := by
  have kept := (GatewayProcess.run_steps ran).invariant (fun gateway => ManagerInv gateway.manager ∧
    (∃ session, gateway.sessions[id]? = some session) ∧ gateway.Closing id)
    ⟨sound, ⟨session, found⟩, closing⟩ ?_
  · exact kept.2.2
  · intro before taken after ⟨sound, ⟨session, found⟩, closing⟩ step
    obtain ⟨sound, move⟩ := step.moves sound
    obtain ⟨next, placed⟩ := session_persists move found
    exact ⟨sound, ⟨next, placed⟩, closing_move found placed closing move⟩

/-- A handler that has only an answer to send leaves the session open. -/
theorem answer_sent {message : ServerMessage} {later : List Moment} (idle : gateway.agenda = [])
    (found : gateway.sessions[id]? = some session) (opened : session.closed = false)
    (fits : PacketCodec.headerSize + (protobuf.serialize message).length ≤ maxPacketSize)
    (ran : (gateway.push [.sendPacket id message]).run shuffler protobuf
      (later.map fun moment => (.next, moment)) = .ok (trace, finish))
    (through : finish.agenda = []) : finish.isOpen id := by
  cases later with
  | nil =>
    cases ran
    cases through
  | cons moment later =>
    obtain ⟨notes, next, others, done, rest, rfl⟩ := GatewayProcess.run_cons.mp ran
    simp only [GatewayProcess.step, GatewayProcess.push, idle, List.append_nil, GatewayProcess.perform,
      GatewayProcess.sendPacket, not_lt.mpr fits, if_false] at done
    cases done
    obtain rfl := run_through rfl rest
    simp [GatewayProcess.isOpen, GatewayProcess.update, found, Session.enqueue_eq, opened]

/-- Once C2S_RECONNECT has been handled, the session is open exactly if it accepted the
    packet and its player is in a game. -/
theorem reconnect_handled {later : List Moment} (rooms : SoundRooms gateway.manager)
    (counted : gateway.manager.nextRoomId ≤ 2 ^ 64) (idle : gateway.agenda = [])
    (found : gateway.sessions[id]? = some session) (waits : session.pendingRead = some .frame)
    (opened : session.closed = false)
    (ran : gateway.run shuffler WireFormat.generated ((.frameRead id (some reconnectPacket), moment) ::
      later.map fun moment => (.next, moment)) = .ok (trace, finish))
    (through : finish.agenda = []) :
    finish.isOpen id ↔ session.accepts gateway.notifier moment.packetAt ∧
      gateway.manager.plays session.playerId := by
  obtain ⟨base, placed, manager, agenda, handled⟩ := reconnect_read shuffler moment found waits
  obtain ⟨notes, next, others, done, rest, rfl⟩ := GatewayProcess.run_cons.mp ran
  have kept := rooms.step done
  simp only [GatewayProcess.step, idle] at done
  rw [handled] at done
  have closes : next = base.push [.close id] → finish.isOpen id = false := by
    rintro rfl
    have closing : (base.push [.close id]).Closing id := .inr List.mem_cons_self
    exact isOpen_of_closing through (run_closing kept.sound placed closing rest)
  split at done
  · next accepted =>
    rw [accepted]
    obtain ⟨info, read, done⟩ := ExceptLoop.bind_ok.mp done
    rw [manager] at read
    have plays := reconnectInfo_isSome rooms.sound read
    cases info with
    | none =>
      cases done
      rw [closes rfl, ← plays]
      simp
    | some info =>
      cases done
      have fits := reconnectSync_fits rooms counted read
      have unclosed := (counted_closed moment.packetAt).trans opened
      have isOpen := answer_sent (agenda.trans idle) placed unclosed fits rest through
      simp [isOpen, ← plays]
  · next refused =>
    cases done
    rw [closes rfl]
    simp [refused]

end Whole

end Doudizhu.Gateway
