import Doudizhu.Gateway.RoomStateCodec
import Doudizhu.Gateway.Session
import Doudizhu.Web.FieldLoops

/-! # The hand on the page

The browser takes its hand from field 7 of a room state, with the loop of `showDeal`.  That
loop stops at the first field of bytes that is not the hand, and the players come before
it, in field 6.  So every room state empties the hand on the page.
-/

namespace Doudizhu.Web

open Game Gateway Script Proto3

variable {ρ : Type} {shuffler : Shuffler ρ}

/-! ## The frame -/

/-- What a session writes to the page. -/
def frame (message : ServerMessage) : Bytes := GatewayProcess.packetOf WireFormat.generated message

theorem number_lt (id : MessageId) : id.number < 2 ^ 8 := by
  cases id <;> simp [MessageId.number]

theorem frame_id (message : ServerMessage) :
    2 ^ 8 * ((frame message).getD 4 0).toNat + ((frame message).getD 5 0).toNat = message.id.number := by
  have few : message.id.number < 2 ^ 8 := number_lt message.id
  have fifth : (frame message).getD 4 0 = UInt8.ofNat (message.id.number / 2 ^ 8) := rfl
  have sixth : (frame message).getD 5 0 = UInt8.ofNat message.id.number := rfl
  rw [fifth, sixth, UInt8.toNat_ofNat', UInt8.toNat_ofNat']
  omega

theorem frame_length (message : ServerMessage) :
    (frame message).length = 6 + (WireFormat.serialize message).length := by
  simp [frame, GatewayProcess.packetOf, WireFormat.generated]

/-- Which handler gets a frame, by its message. -/
theorem onmessage_frame {browser : Browser} {fuel : Nat} {clock : Int} {message : ServerMessage} :
    browser.onmessage fuel clock (frame message) =
      match message with
      | .dealCards .. => browser.showDeal fuel (frame message) 1
      | .reconnectSync .. => browser.showDeal fuel (frame message) 6
      | .roomState .. => do
        let shown ← browser.showDeal fuel (frame message) 7
        shown.showRoomState fuel clock (frame message)
      | .playBroadcast .. => browser.applyPlayBroadcast fuel (frame message)
      | .callLandlordRet .. => browser.applyCallLandlord fuel (frame message)
      | .settleResult .. => browser.applySettlement fuel (frame message)
      | .timeoutAction .. => browser.applyTimeout fuel (frame message)
      | .loginRet .. => .returned browser.applyLogin
      | _ => .returned browser := by
  have long : ¬ (frame message).length < 6 := by
    rw [frame_length]
    omega
  unfold Browser.onmessage
  rw [if_neg long, frame_id]
  cases message <;> rfl

/-- The frame is the message after a header. -/
theorem upcoming_frame {β : Type} {raw : β → Bytes} {message : ServerMessage}
    {fields : List (Nat × Content β)} (written : writeFields raw fields = WireFormat.serialize message)
    (numbers : ∀ field ∈ fields, field.1 < 2 ^ 28) :
    Upcoming raw (frame message) (frame message).length 6 [] fields := by
  obtain ⟨header, six, split⟩ : ∃ header : Bytes, header.length = 6 ∧
      frame message = header ++ WireFormat.serialize message := ⟨_, rfl, rfl⟩
  rw [split, ← written]
  exact upcoming_message six numbers

/-! ## The fields of a room state -/

section Fields

variable {state : S2CRoomState}

/-- Those in front of the players. -/
def seatFields (state : S2CRoomState) : List (Nat × Content (List (Nat × Content Bytes))) :=
  uintFields 1 state.roomId ++ uintFields 2 state.selfSeat ++ uintFields 3 state.phase ++
    uintFields 4 state.currentSeat ++ uintFields 5 state.landlordSeat

theorem mem_seatFields {field : Nat × Content (List (Nat × Content Bytes))}
    (member : field ∈ seatFields state) :
    ∃ number value, number ≤ 5 ∧ field = (number, .number value) := by
  simp only [seatFields, List.mem_append, mem_uintFields] at member
  obtain (((one | two) | three) | four) | five := member
  · exact ⟨_, _, by simp, one.2⟩
  · exact ⟨_, _, by simp, two.2⟩
  · exact ⟨_, _, by simp, three.2⟩
  · exact ⟨_, _, by simp, four.2⟩
  · exact ⟨_, _, by simp, five.2⟩

/-- The fields of a room state. -/
theorem roomStateFields_cases {state : S2CRoomState}
    {field : Nat × Content (List (Nat × Content Bytes))} (member : field ∈ WireFormat.roomStateFields state) :
    (∃ number value, number ≤ 11 ∧ field = (number, .number value)) ∨
    (∃ number values, 7 ≤ number ∧ number ≤ 10 ∧ field = (number, .packed values)) ∨
    ∃ player ∈ state.players, field = (6, .bytes (WireFormat.roomPlayerFields player)) := by
  change field ∈ seatFields state ++ _ ++ _ ++ _ ++ _ ++ _ ++ _ at member
  simp only [List.mem_append, List.mem_map, mem_uintFields, mem_packedFields] at member
  obtain ((((((seat | ⟨player, present, rfl⟩) | seven) | eight) | nine) | ten) | eleven) := member
  · obtain ⟨number, value, few, rfl⟩ := mem_seatFields seat
    exact .inl ⟨number, value, by omega, rfl⟩
  · exact .inr (.inr ⟨player, present, rfl⟩)
  · exact .inr (.inl ⟨_, _, by simp, by simp, seven.2⟩)
  · exact .inr (.inl ⟨_, _, by simp, by simp, eight.2⟩)
  · exact .inl ⟨_, _, by simp, nine.2⟩
  · exact .inr (.inl ⟨_, _, by simp, by simp, ten.2⟩)
  · exact .inl ⟨_, _, by simp, eleven.2⟩

theorem roomStateFields_numbers : ∀ field ∈ WireFormat.roomStateFields state, field.1 < 2 ^ 28 := by
  intro field member
  obtain ⟨number, value, few, rfl⟩ | ⟨number, values, _, few, rfl⟩ | ⟨player, _, rfl⟩ :=
    roomStateFields_cases member
  · dsimp only
    omega
  · dsimp only
    omega
  · simp

theorem playerFields_legible (player : RoomPlayer) :
    ∀ field ∈ WireFormat.roomPlayerFields player, field.1 < 2 ^ 28 ∧ PlayerLegible field := by
  intro field member
  simp only [WireFormat.roomPlayerFields, List.mem_append, mem_uintFields, mem_stringFields] at member
  obtain ((⟨_, rfl⟩ | ⟨_, rfl⟩) | ⟨_, rfl⟩) | ⟨_, rfl⟩ := member <;> simp [PlayerLegible]

/-- Exactly the players are messages. -/
theorem roomStateFields_players : ∀ field ∈ WireFormat.roomStateFields state, PlayersLegible field := by
  intro field member
  obtain ⟨number, value, _, rfl⟩ | ⟨number, values, other, _, rfl⟩ | ⟨player, _, rfl⟩ :=
    roomStateFields_cases member
  · trivial
  · exact Nat.ne_of_gt other
  · exact ⟨rfl, playerFields_legible player⟩

theorem roomStateFields_bytes {number : Nat} (other : number ≠ 6) (value : List (Nat × Content Bytes)) :
    (number, .bytes value) ∉ WireFormat.roomStateFields state := by
  intro member
  obtain ⟨_, _, _, same⟩ | ⟨_, _, _, _, same⟩ | ⟨player, _, same⟩ := roomStateFields_cases member
  · simp at same
  · simp at same
  · simp only [Prod.mk.injEq] at same
    exact other same.1

theorem roomState_upcoming : Upcoming (writeFields id) (frame (.roomState state))
    (frame (.roomState state)).length 6 [] (WireFormat.roomStateFields state) := by
  apply upcoming_frame ?_ roomStateFields_numbers
  exact WireFormat.writeFields_roomState state

/-! ## What `showDeal` reads -/

theorem dealLegible_append {cardField : Nat}
    {numbers others : List (Nat × Content (List (Nat × Content Bytes)))}
    (plain : ∀ field ∈ numbers, ∃ number value, field = (number, .number value))
    (legible : DealLegible cardField others) : DealLegible cardField (numbers ++ others) := by
  induction numbers with
  | nil => exact legible
  | cons field numbers inductionHypothesis =>
    obtain ⟨number, value, rfl⟩ := plain _ List.mem_cons_self
    exact inductionHypothesis fun field member => plain field (List.mem_cons_of_mem _ member)

def dealOne (cardField : Nat) (kept : List Int × Option Int) :
    Nat × Content (List (Nat × Content Bytes)) → List Int × Option Int
  | (number, .number value) => dealNumber cardField number (wireNumber value) kept
  | _ => kept

/-- Of the numbers in front of the players the loop keeps the seat of the player. -/
theorem foldl_seatFields (state : S2CRoomState) :
    (seatFields state).foldl (dealOne 7) ([], none) =
      ([], if state.selfSeat = 0 then none else some (wireNumber state.selfSeat)) := by
  simp [seatFields, foldl_uintFields, dealOne, dealNumber]
  split <;> rfl

/-- The players come before the hand, and end the loop. -/
theorem readDeal_roomState {fuel : Nat} (seated : state.players ≠ [])
    (enough : (frame (.roomState state)).length < fuel) :
    Browser.readDeal fuel (frame (.roomState state)) 7 =
      .returned ([], if state.selfSeat = 0 then none else some (wireNumber state.selfSeat)) := by
  obtain ⟨player, players, seats⟩ := List.exists_cons_of_ne_nil seated
  have numbers : ∀ field ∈ seatFields state, ∃ number value, field = (number, .number value) := by
    intro field member
    obtain ⟨number, value, _, same⟩ := mem_seatFields member
    exact ⟨number, value, same⟩
  -- three parts: the numbers, the first player, and all that follows
  obtain ⟨others, split⟩ : ∃ others, WireFormat.roomStateFields state =
      seatFields state ++ (6, .bytes (WireFormat.roomPlayerFields player)) :: others := by
    refine ⟨players.map (fun player => (6, .bytes (WireFormat.roomPlayerFields player))) ++
      packedFields 7 state.ownCards ++ packedFields 8 state.bottomCards ++ uintFields 9 state.lastPlaySeat ++
      packedFields 10 state.lastPlayCards ++ uintFields 11 state.actionRemainingSeconds, ?_⟩
    simp [WireFormat.roomStateFields, seatFields, seats]
  have legible : DealLegible 7 (WireFormat.roomStateFields state) := by
    rw [split]
    apply dealLegible_append numbers
    simp [DealLegible]
  have read := readDeal_fields roomState_upcoming legible enough
  -- the loop goes over the numbers and stops at the player
  have again : ∀ kept, ∀ field ∈ seatFields state,
      dealStep 7 kept field = .again (dealOne 7 kept field) := by
    intro kept field member
    obtain ⟨number, value, rfl⟩ := numbers field member
    rfl
  rw [split, scan_append again, foldl_seatFields] at read
  exact read

/-! ## What the page shows -/

variable {browser after : Browser} {fuel : Nat} {clock : Int}

theorem showDeal_roomState (seated : state.players ≠ [])
    (enough : (frame (.roomState state)).length < fuel) :
    ∃ shown, browser.showDeal fuel (frame (.roomState state)) 7 = .returned shown ∧
      shown.handCodes = [] ∧
      shown.playerSeat =
        if state.selfSeat = 0 then browser.playerSeat else some (wireNumber state.selfSeat) := by
  have field (wantedField : Int) := @readField_fields _ _ _ _ _ wantedField roomState_upcoming enough
  have deal := readDeal_roomState seated enough
  unfold Browser.showDeal
  simp only [deal, field, returned_bind]
  refine ⟨_, rfl, rfl, ?_⟩
  by_cases first : state.selfSeat = 0
  · simp [first, found]
  · simp [first, found]

/-- The rest of the message changes neither the hand nor the seat, and reads the turn. -/
theorem showRoomState_sets {bytes : Bytes}
    (shown : browser.showRoomState fuel clock bytes = .returned after) :
    after.handCodes = browser.handCodes ∧ after.playerSeat = browser.playerSeat ∧
      ∃ turn, readField fuel bytes 4 = .returned turn ∧
        after.currentSeat = found turn browser.currentSeat := by
  unfold Browser.showRoomState at shown
  obtain ⟨names, _, shown⟩ := bind_returned.mp shown
  obtain ⟨phase, _, shown⟩ := bind_returned.mp shown
  obtain ⟨turn, read, shown⟩ := bind_returned.mp shown
  obtain ⟨landlordSeat, _, shown⟩ := bind_returned.mp shown
  obtain ⟨seconds, _, shown⟩ := bind_returned.mp shown
  obtain ⟨bottom, _, shown⟩ := bind_returned.mp shown
  obtain ⟨lastCards, _, shown⟩ := bind_returned.mp shown
  -- the last play is drawn if there is one
  split at shown
  · obtain ⟨seat, _, shown⟩ := bind_returned.mp shown
    cases shown
    exact ⟨rfl, rfl, turn, read, rfl⟩
  · cases shown
    exact ⟨rfl, rfl, turn, read, rfl⟩

/-- A frame that the gateway sends is read to its end. -/
theorem showRoomState_returns (short : (frame (.roomState state)).length < 2 ^ 31)
    (enough : (frame (.roomState state)).length < fuel) :
    ∃ after, browser.showRoomState fuel clock (frame (.roomState state)) = .returned after := by
  have field (wantedField : Int) := @readField_fields _ _ _ _ _ wantedField roomState_upcoming enough
  have names := readNames_fields roomState_upcoming roomStateFields_players short enough
  have cards (wantedField : Nat) (other : wantedField ≠ 6) :=
    @cardsForField_fields _ _ _ _ _ wantedField roomState_upcoming (roomStateFields_bytes other) short enough
  unfold Browser.showRoomState
  have bottom := cards 8 (by simp)
  have last := cards 10 (by simp)
  simp only [Nat.cast_ofNat] at bottom last
  simp only [names, field, bottom, last, returned_bind]
  split
  · exact ⟨_, rfl⟩
  · exact ⟨_, rfl⟩

end Fields

/-! ## Reachable states -/

theorem hands_not_empty {log : DealLog} {round : GameRound} (holds : RoundInv log round)
    (unsettled : round.phase ≠ .settled) (seat : Fin 3) : round.deal.hands seat ≠ [] := by
  cases phase : round.phase with
  | waitingPlayers => simp [RoundInv, phase] at holds
  | settled => exact absurd phase unsettled
  | callLandlord =>
    have dealt := (holds.calling phase).dealt seat
    intro empty
    simp [empty] at dealt
  | playCards => exact (holds.playing phase).holding seat

/-- The round that a room state shows is not settled, so every hand has cards. -/
theorem roomState_hand {manager : RoomManager ρ} {now : Time} {player : PlayerId} {state : RoomState}
    (sound : ManagerInv manager) (read : manager.roomState now player = .ok (some state)) :
    state.players ≠ [] ∧ state.ownHand ≠ [] ∧ state.selfSeat < 3 := by
  unfold RoomManager.roomState at read
  split at read
  · cases read
  next room round seat seated =>
  obtain ⟨roomId, found, member, started, own⟩ := seatedRound_spec seated
  obtain ⟨three, unsettled, log, holds⟩ := (sound.room roomId room found).shape.playing started
  have inside : seat < 3 := own ▸ (sound.room roomId room found).seat_lt member
  rw [threePlayers_ok three] at read
  obtain ⟨ids, same, read⟩ := ExceptLoop.bind_ok.mp read
  obtain ⟨players, listed, read⟩ := ExceptLoop.bind_ok.mp read
  obtain ⟨hand, dealt, read⟩ := ExceptLoop.bind_ok.mp read
  cases read
  cases same
  refine ⟨?_, ?_, inside⟩
  · have some : room.playerIds ≠ [] := by
      intro none
      simp [none] at three
    obtain ⟨first, others, seats⟩ := List.exists_cons_of_ne_nil some
    -- the players of the state are those of the room, in their order
    rw [seats, List.zipIdx_cons, List.mapM_cons] at listed
    obtain ⟨info, _, listed⟩ := ExceptLoop.bind_ok.mp listed
    obtain ⟨infos, _, listed⟩ := ExceptLoop.bind_ok.mp listed
    cases listed
    exact List.cons_ne_nil _ _
  · rw [GameRound.hand, dif_pos inside] at dealt
    cases dealt
    exact hands_not_empty holds unsettled _

/-! ## What the page makes of them -/

/-- The page shows the hand of the state, the highest cards first, and knows the seat. -/
def Browser.Follows (browser : Browser) (state : RoomState) : Prop :=
  browser.handCodes.Perm (state.ownHand.map fun card => (CardCodec.encode card : Int)) ∧
    browser.handCodes.Pairwise (· ≥ ·) ∧ browser.playerSeat = some (state.selfSeat : Int)

instance (browser : Browser) (state : RoomState) : Decidable (browser.Follows state) :=
  inferInstanceAs (Decidable (_ ∧ _))

/-- The page never follows a room state: it always shows an empty hand after it, and learns
    the seat only if that is not 0. -/
theorem hand_never_follows (shuffler : Shuffler ρ) (random : ρ) (ops : List RoomOp) :
    ∃ trace finish, RoomManager.run shuffler { random } ops = .ok (trace, finish) ∧
      ∀ now player state, finish.roomState now player = .ok (some state) →
        ∀ (browser : Browser) (fuel : Nat) (clock : Int),
          (frame (.roomState (encodeRoomState state))).length < fuel →
          ((frame (.roomState (encodeRoomState state))).length ≤ maxPacketSize →
            ∃ after, browser.onmessage fuel clock (frame (.roomState (encodeRoomState state))) =
              .returned after) ∧
          ∀ after,
            browser.onmessage fuel clock (frame (.roomState (encodeRoomState state))) = .returned after →
            after.handCodes = [] ∧
            after.playerSeat =
              (if state.selfSeat = 0 then browser.playerSeat else some (state.selfSeat : Int)) ∧
            ¬ after.Follows state := by
  obtain ⟨trace, finish, ran, _⟩ := run_sound shuffler (managerInv_empty random) ops
  obtain ⟨sound, _⟩ := genuine_run (RoomManager.run_steps ran)
  refine ⟨trace, finish, ran, ?_⟩
  intro now player state read browser fuel clock enough
  obtain ⟨seated, holding, seat⟩ := roomState_hand sound read
  have players : (encodeRoomState state).players ≠ [] := by simp [encodeRoomState, seated]
  obtain ⟨shown, deal, hand, own⟩ := @showDeal_roomState _ browser _ players enough
  rw [onmessage_frame]
  dsimp only
  rw [deal, returned_bind]
  constructor
  · intro fits
    have short : maxPacketSize < 2 ^ 31 := by decide
    exact showRoomState_returns (fits.trans_lt short) enough
  · intro after rest
    obtain ⟨kept, keptSeat, _⟩ := showRoomState_sets rest
    rw [kept, keptSeat, hand, own]
    have number : wireNumber state.selfSeat = state.selfSeat := wireNumber_small (by omega)
    refine ⟨rfl, by rw [← number]; rfl, ?_⟩
    intro follows
    -- the hand of the state has cards, the one on the page has none
    have same := follows.1
    rw [kept, hand] at same
    exact holding (List.map_eq_nil_iff.mp same.nil_eq.symm)

def threeMatch : List RoomOp := [
  .matchPlayer .ascending 0 "ann",
  .matchPlayer .ascending 0 "bob",
  .matchPlayer .ascending 0 "cat"]

/-- The page of the second player gets its hand with the deal, and loses it with the room
    state that follows. -/
theorem dealt_hand_lost : ∃ trace finish state dealt after,
    RoomManager.run .identity { random := () } threeMatch = .ok (trace, finish) ∧
      finish.roomState 0 "bob" = .ok (some state) ∧
      Browser.onmessage {} 200 0
        (frame (.dealCards (state.ownHand.map CardCodec.encode) state.selfSeat state.currentSeat)) =
          .returned dealt ∧
      dealt.Follows state ∧
      dealt.onmessage 200 0 (frame (.roomState (encodeRoomState state))) = .returned after ∧
      ¬ after.Follows state := by
  obtain ⟨⟨trace, finish⟩, ran, passes⟩ := ExceptLoop.exists_of_test
    (show ExceptLoop.test (fun (_, finish) => ExceptLoop.test (fun state => state.any fun state =>
        (Browser.onmessage {} 200 0 (frame
          (.dealCards (state.ownHand.map CardCodec.encode) state.selfSeat state.currentSeat))).test fun dealt =>
            decide (dealt.Follows state) &&
              (dealt.onmessage 200 0 (frame (.roomState (encodeRoomState state)))).test fun after =>
                decide (¬ after.Follows state)) (finish.roomState 0 "bob"))
      (RoomManager.run .identity { random := () } threeMatch) = true by
    decide +kernel)
  obtain ⟨found, read, passes⟩ := ExceptLoop.exists_of_test passes
  obtain ⟨state, rfl, passes⟩ := (Option.any_eq_true _ _).mp passes
  obtain ⟨dealt, deal, passes⟩ := returned_of_test passes
  obtain ⟨follows, passes⟩ := Bool.and_eq_true_iff.mp passes
  obtain ⟨after, shown, lost⟩ := returned_of_test passes
  exact ⟨trace, finish, state, dealt, after, ran, read, deal, of_decide_eq_true follows, shown,
    of_decide_eq_true lost⟩

end Doudizhu.Web
