import Doudizhu.Game.Conservation
import Doudizhu.Gateway.Protocol
import Doudizhu.Gateway.RoomRuns

/-! # What a room state tells its receiver

Two seats of `S2CRoomState` are written to fields that read 0 when they are not set.  A
receiver can still tell them apart from seat 0: there is a landlord exactly in `PlayCards`,
and a last play exactly if it has cards.  So the message says all that `RoomState` says.
-/

namespace Doudizhu.Gateway

open Game

variable {ρ : Type} {shuffler : Shuffler ρ}

/-! ## Genuine rounds -/

/-- All rounds are played with the cards of the deck. -/
def RoomManager.Genuine (manager : RoomManager ρ) : Prop :=
  ∀ roomId room round, manager.rooms.lookup roomId = some room → room.round = some round →
    round.Genuine

theorem genuine_rule : RoundRule shuffler GameRound.Genuine where
  start random := genuine_start {} random
  moved := genuine_move

theorem genuine_run {random : ρ} {trace : List (RoomCall ρ)} {finish : RoomManager ρ}
    (run : Transition.Steps (RoomStep shuffler) { random } trace finish) :
    ManagerInv finish ∧ finish.Genuine := by
  refine run.invariant (fun manager => ManagerInv manager ∧ manager.Genuine)
    ⟨managerInv_empty random, allRounds_empty random⟩ ?_
  intro before call after ⟨sound, genuine⟩ step
  exact ⟨managerInv_step sound step, genuine_rule.step sound genuine step⟩

/-! ## Visible states -/

/-- What holds of every state that `room_state` returns. -/
structure RoomState.Visible (state : RoomState) : Prop where
  phase : state.phase = .callLandlord ∨ state.phase = .playCards
  landlord : state.landlordSeat.isSome ↔ state.phase = .playCards
  table : state.lastPlaySeat = none ↔ state.lastPlayCards = []
  own : ∀ card ∈ state.ownHand, card ∈ createCards
  bottom : ∀ card ∈ state.bottomCards, card ∈ createCards
  last : ∀ card ∈ state.lastPlayCards, card ∈ createCards

theorem landlord_visible {log : DealLog} {round : GameRound} (holds : RoundInv log round)
    (unsettled : round.phase ≠ .settled) :
    (round.phase = .callLandlord ∨ round.phase = .playCards) ∧
      (round.landlordSeat.isSome ↔ round.phase = .playCards) ∧
      (round.lastPlaySeat = none ↔ round.lastPlayCards = []) := by
  cases phase : round.phase with
  | waitingPlayers => simp [RoundInv, phase] at holds
  | settled => exact absurd phase unsettled
  | callLandlord =>
    have calling := holds.calling phase
    simp [calling.noLandlord, calling.noLeader, calling.noCards]
  | playCards =>
    have playing := holds.playing phase
    obtain ⟨landlord, seated⟩ := playing.seated
    obtain lead | ⟨leader, follow⟩ := playing.table
    · simp [seated, lead.noLeader, lead.noCards]
    · simp [seated, follow.led, follow.cards]

theorem roomState_visible {manager : RoomManager ρ} {now : Time} {player : PlayerId} {state : RoomState}
    (sound : ManagerInv manager) (genuine : manager.Genuine)
    (read : manager.roomState now player = .ok (some state)) : state.Visible := by
  unfold RoomManager.roomState at read
  split at read
  · cases read
  next room round seat seated =>
  obtain ⟨roomId, found, _, started, _⟩ := seatedRound_spec seated
  obtain ⟨_, unsettled, log, holds⟩ := (sound.room roomId room found).shape.playing started
  have cards := genuine roomId room round found started
  obtain ⟨phase, landlord, table⟩ := landlord_visible holds unsettled
  obtain ⟨_, _, read⟩ := ExceptLoop.bind_ok.mp read
  obtain ⟨_, _, read⟩ := ExceptLoop.bind_ok.mp read
  obtain ⟨hand, dealt, read⟩ := ExceptLoop.bind_ok.mp read
  cases read
  refine ⟨phase, landlord, table, ?_, ?_, cards.last⟩
  · intro card member
    unfold GameRound.hand at dealt
    split at dealt
    · cases dealt
      exact cards.hands _ card member
    · cases dealt
  · intro card member
    dsimp only at member
    split at member
    · exact cards.bottom card member
    · cases member

/-! ## Decoding -/

theorem CardCodec.decode_encode {card : Card} (genuine : card ∈ createCards) :
    CardCodec.decode (CardCodec.encode card) = some card := by
  revert card
  decide

theorem mapM_decode {cards : List Card} (genuine : ∀ card ∈ cards, card ∈ createCards) :
    (cards.map CardCodec.encode).mapM CardCodec.decode = some cards := by
  induction cards with
  | nil => rfl
  | cons card cards inductionHypothesis =>
    have first := CardCodec.decode_encode (genuine card List.mem_cons_self)
    have rest := inductionHypothesis fun other member => genuine other (List.mem_cons_of_mem card member)
    simp [List.mapM_cons, first, rest]

/-- The phase with the number. -/
def phaseOf : Nat → Option GamePhase
  | 0 => some .waitingPlayers
  | 1 => some .callLandlord
  | 2 => some .playCards
  | 3 => some .settled
  | _ => none

theorem phaseOf_value (phase : GamePhase) : phaseOf phase.value = some phase := by
  cases phase <;> rfl

/-- What a receiver can make of the message. -/
def decodeRoomState (message : S2CRoomState) : Option RoomState := do
  let phase ← phaseOf message.phase
  let ownHand ← message.ownCards.mapM CardCodec.decode
  let bottomCards ← message.bottomCards.mapM CardCodec.decode
  let lastPlayCards ← message.lastPlayCards.mapM CardCodec.decode
  some {
    roomId := message.roomId
    selfSeat := message.selfSeat
    phase
    currentSeat := message.currentSeat
    landlordSeat := if phase = .playCards then some message.landlordSeat else none
    players := message.players.map fun player =>
      { playerId := player.playerId
        online := player.online
        remainingCards := player.remainingCards }
    ownHand
    bottomCards
    lastPlaySeat := if lastPlayCards = [] then none else some message.lastPlaySeat
    lastPlayCards
    actionRemainingSeconds := message.actionRemainingSeconds }

theorem players_encoded (players : List PlayerInfo) :
    ((players.zipIdx.map fun (player, seat) =>
      ({ seat
         playerId := player.playerId
         online := player.online
         remainingCards := player.remainingCards } : RoomPlayer)).map fun player =>
        ({ playerId := player.playerId
           online := player.online
           remainingCards := player.remainingCards } : PlayerInfo)) = players := by
  rw [List.map_map]
  exact List.zipIdx_map_fst 0 players

/-- A seat that is there exactly in some case is found again from the field that stands for it. -/
theorem seat_encoded {seat : Option Nat} {present : Prop} [Decidable present]
    (iff : seat.isSome ↔ present) : (if present then some (seat.getD 0) else none) = seat := by
  cases seat with
  | none =>
    have missing : ¬ present := fun holds => by simp [← iff] at holds
    rw [if_neg missing]
  | some seat =>
    have holds : present := iff.mp rfl
    rw [if_pos holds, Option.getD_some]

theorem decodeRoomState_encode {state : RoomState} (visible : state.Visible) :
    decodeRoomState (encodeRoomState state) = some state := by
  have landlord := seat_encoded visible.landlord
  have last : (if state.lastPlayCards = [] then none else some (state.lastPlaySeat.getD 0)) =
      state.lastPlaySeat := by
    have led : state.lastPlaySeat.isSome ↔ ¬ state.lastPlayCards = [] := by
      rw [← visible.table, Option.isSome_iff_ne_none]
    have found := seat_encoded led
    rwa [ite_not] at found
  simp only [decodeRoomState, encodeRoomState, phaseOf_value, mapM_decode visible.own,
    mapM_decode visible.bottom, mapM_decode visible.last, players_encoded, landlord, last,
    Option.bind_eq_bind, Option.bind_some]

/-! ## Runs -/

/-- Whatever is called, in whatever rooms: what `room_state` returns is found again from its
    message, so two states with one message are one state. -/
theorem room_state_recovered (shuffler : Shuffler ρ) (random other : ρ) (ops others : List RoomOp) :
    ∃ trace finish otherTrace otherFinish,
      RoomManager.run shuffler { random } ops = .ok (trace, finish) ∧
      RoomManager.run shuffler { random := other } others = .ok (otherTrace, otherFinish) ∧
      (∀ now player state, finish.roomState now player = .ok (some state) →
        decodeRoomState (encodeRoomState state) = some state) ∧
      ∀ now player state otherNow otherPlayer otherState,
        finish.roomState now player = .ok (some state) →
        otherFinish.roomState otherNow otherPlayer = .ok (some otherState) →
        encodeRoomState state = encodeRoomState otherState → state = otherState := by
  obtain ⟨trace, finish, ran, _⟩ := run_sound shuffler (managerInv_empty random) ops
  obtain ⟨otherTrace, otherFinish, otherRan, _⟩ := run_sound shuffler (managerInv_empty other) others
  obtain ⟨sound, genuine⟩ := genuine_run (RoomManager.run_steps ran)
  obtain ⟨otherSound, otherGenuine⟩ := genuine_run (RoomManager.run_steps otherRan)
  refine ⟨trace, finish, otherTrace, otherFinish, ran, otherRan, ?_, ?_⟩
  · intro now player state read
    exact decodeRoomState_encode (roomState_visible sound genuine read)
  · intro now player state otherNow otherPlayer otherState read otherRead same
    have decoded := decodeRoomState_encode (roomState_visible sound genuine read)
    have otherDecoded := decodeRoomState_encode (roomState_visible otherSound otherGenuine otherRead)
    rw [same, otherDecoded] at decoded
    exact (Option.some.inj decoded).symm

end Doudizhu.Gateway
