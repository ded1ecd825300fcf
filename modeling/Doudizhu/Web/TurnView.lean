import Doudizhu.Web.HandView

/-! # The turn on the page

The page takes the current seat from the field that holds it.  It does not find the field
behind cards, and seat 0 is not written at all: then it keeps the seat it had.  It takes
every answer to a landlord call for the start of the game, since a flag that is not there
is `null`, which is not 0.
-/

namespace Doudizhu.Web

open Gateway Script Proto3

variable {browser after : Browser} {fuel : Nat} {clock : Int}

/-! ## The fields of the messages -/

def callFields (accepted : Bool) (currentSeat : Nat) (gameStarted : Bool) (landlordSeat actorSeat : Nat)
    (called : Bool) : List (Nat × Content Bytes) :=
  uintFields 1 accepted.toNat ++ (uintFields 2 currentSeat ++ (uintFields 3 gameStarted.toNat ++
    (uintFields 4 landlordSeat ++ (uintFields 5 actorSeat ++ (uintFields 6 called.toNat ++ [])))))

def dealFields (cards : List Nat) (seat currentSeat : Nat) : List (Nat × Content Bytes) :=
  packedFields 1 cards ++ (uintFields 2 seat ++ (uintFields 3 currentSeat ++ []))

def broadcastFields (seat : Nat) (cards : List Nat) (passed : Bool) (currentSeat : Nat) :
    List (Nat × Content Bytes) :=
  uintFields 1 seat ++ (packedFields 2 cards ++ (uintFields 3 passed.toNat ++
    (uintFields 4 currentSeat ++ [])))

theorem call_upcoming (accepted : Bool) (currentSeat : Nat) (gameStarted : Bool)
    (landlordSeat actorSeat : Nat) (called : Bool) :
    let message := ServerMessage.callLandlordRet accepted currentSeat gameStarted landlordSeat actorSeat called
    Upcoming id (frame message) (frame message).length 6 []
      (callFields accepted currentSeat gameStarted landlordSeat actorSeat called) := by
  apply upcoming_frame
  · simp [callFields, WireFormat.serialize, boolField]
  · intro field member
    simp only [callFields, List.mem_append, mem_uintFields, List.not_mem_nil, or_false] at member
    obtain ⟨_, rfl⟩ | ⟨_, rfl⟩ | ⟨_, rfl⟩ | ⟨_, rfl⟩ | ⟨_, rfl⟩ | ⟨_, rfl⟩ := member <;> simp

theorem mem_dealFields {cards : List Nat} {seat currentSeat : Nat} {field : Nat × Content Bytes}
    (member : field ∈ dealFields cards seat currentSeat) :
    field = (1, .packed cards) ∨ field = (2, .number seat) ∨ field = (3, .number currentSeat) := by
  simp only [dealFields, List.mem_append, mem_packedFields, mem_uintFields, List.not_mem_nil, or_false] at member
  obtain ⟨_, same⟩ | ⟨_, same⟩ | ⟨_, same⟩ := member
  · exact .inl same
  · exact .inr (.inl same)
  · exact .inr (.inr same)

theorem deal_upcoming (cards : List Nat) (seat currentSeat : Nat) :
    Upcoming id (frame (.dealCards cards seat currentSeat))
      (frame (.dealCards cards seat currentSeat)).length 6 [] (dealFields cards seat currentSeat) := by
  apply upcoming_frame
  · simp [dealFields, WireFormat.serialize]
  · intro field member
    obtain rfl | rfl | rfl := mem_dealFields member <;> simp

theorem mem_broadcastFields {cards : List Nat} {seat currentSeat : Nat} {passed : Bool}
    {field : Nat × Content Bytes} (member : field ∈ broadcastFields seat cards passed currentSeat) :
    field = (1, .number seat) ∨ field = (2, .packed cards) ∨ field = (3, .number passed.toNat) ∨
      field = (4, .number currentSeat) := by
  simp only [broadcastFields, List.mem_append, mem_packedFields, mem_uintFields, List.not_mem_nil,
    or_false] at member
  obtain ⟨_, same⟩ | ⟨_, same⟩ | ⟨_, same⟩ | ⟨_, same⟩ := member
  · exact .inl same
  · exact .inr (.inl same)
  · exact .inr (.inr (.inl same))
  · exact .inr (.inr (.inr same))

theorem broadcast_upcoming (seat : Nat) (cards : List Nat) (passed : Bool) (currentSeat : Nat) :
    Upcoming id (frame (.playBroadcast seat cards passed currentSeat))
      (frame (.playBroadcast seat cards passed currentSeat)).length 6 []
      (broadcastFields seat cards passed currentSeat) := by
  apply upcoming_frame
  · simp [broadcastFields, WireFormat.serialize, boolField]
  · intro field member
    obtain rfl | rfl | rfl | rfl := mem_broadcastFields member <;> simp

/-- Of a frame that is short enough the hand can be read, unless it is a message. -/
theorem legible_frame {β : Type} {raw : β → Bytes} {message : ServerMessage}
    {fields : List (Nat × Content β)} {cardField : Nat}
    (upcoming : Upcoming raw (frame message) (frame message).length 6 [] fields)
    (bytes : ∀ value, (cardField, Content.bytes value) ∉ fields)
    (short : (frame message).length < 2 ^ 31) : DealLegible cardField fields := by
  apply @dealLegible_of_short _ raw _ _ bytes
  have finish := upcoming.finish
  rw [List.length_nil] at finish
  omega

/-! ## The seat that is read -/

/-- The seat of a message with these cards in front of it. -/
def seatRead (cards : List Nat) (seat : Nat) : Option Int :=
  if cards = [] ∧ seat ≠ 0 then some (wireNumber seat) else none

/-- Either the seat is read, or it is not and the page knows it already. -/
def SeatKnown (old : Option Int) (cards : List Nat) (seat : Nat) : Prop :=
  (cards = [] ∧ 0 < seat ∧ seat < 2 ^ 31) ∨ ((cards ≠ [] ∨ seat = 0) ∧ old = some (seat : Int))

theorem found_seatRead {old : Option Int} {cards : List Nat} {seat : Nat} :
    found (seatRead cards seat) old = some (seat : Int) ↔ SeatKnown old cards seat := by
  unfold seatRead SeatKnown
  by_cases empty : cards = []
  · by_cases first : seat = 0
    · simp [empty, first, found]
    · have positive : 0 < seat := Nat.pos_of_ne_zero first
      simp [empty, first, found, wireNumber_eq, positive]
  · simp [empty, found]

theorem found_again (read old : Option Int) : found read (found read old) = found read old := by
  cases read <;> rfl

/-! ## What each handler reads -/

theorem showDeal_turn {β : Type} {raw : β → Bytes} {bytes : Bytes} {fields : List (Nat × Content β)}
    {cardField : Nat} (upcoming : Upcoming raw bytes bytes.length 6 [] fields)
    (legible : DealLegible cardField fields) (enough : bytes.length < fuel) :
    ∃ shown, browser.showDeal fuel bytes cardField = .returned shown ∧
      shown.currentSeat =
        found (scan (numberStep (if (cardField : Int) = 7 then 4 else 3)) (fun () => none) () fields)
          browser.currentSeat := by
  have field (wantedField : Int) := @readField_fields _ _ _ _ _ wantedField upcoming enough
  have deal := readDeal_fields upcoming legible enough
  generalize scan (dealStep cardField) id ([], none) fields = kept at deal
  obtain ⟨cards, seat⟩ := kept
  unfold Browser.showDeal
  by_cases state : (cardField : Int) = 7
  · have other : ¬ (cardField : Int) = 1 := by omega
    simp only [deal, field, returned_bind, if_pos state, if_neg other]
    exact ⟨_, rfl, rfl⟩
  · simp only [deal, field, returned_bind, if_neg state]
    refine ⟨_, rfl, ?_⟩
    split <;> rfl

theorem dealCards_turn {cards : List Nat} {seat currentSeat : Nat}
    (short : (frame (.dealCards cards seat currentSeat)).length < 2 ^ 31)
    (enough : (frame (.dealCards cards seat currentSeat)).length < fuel) :
    ∃ after, browser.showDeal fuel (frame (.dealCards cards seat currentSeat)) 1 = .returned after ∧
      after.currentSeat = found (seatRead cards currentSeat) browser.currentSeat := by
  have upcoming := deal_upcoming cards seat currentSeat
  have bytes : ∀ value, (1, Content.bytes value) ∉ dealFields cards seat currentSeat := by
    intro value member
    obtain same | same | same := mem_dealFields member <;> cases same
  have legible := legible_frame upcoming bytes short
  obtain ⟨after, shown, turn⟩ := @showDeal_turn browser _ _ _ _ _ _ upcoming legible enough
  refine ⟨after, shown, ?_⟩
  rw [turn, dealFields, scan_packed, scan_number, scan_number, scan_nothing, seatRead]
  simp [ite_and]

theorem playBroadcast_turn {seat currentSeat : Nat} {cards : List Nat} {passed : Bool}
    (short : (frame (.playBroadcast seat cards passed currentSeat)).length < 2 ^ 31)
    (enough : (frame (.playBroadcast seat cards passed currentSeat)).length < fuel) :
    ∃ after, browser.applyPlayBroadcast fuel (frame (.playBroadcast seat cards passed currentSeat)) =
        .returned after ∧
      after.currentSeat = found (seatRead cards currentSeat) browser.currentSeat := by
  have upcoming := broadcast_upcoming seat cards passed currentSeat
  have bytes : ∀ value, (2, Content.bytes value) ∉ broadcastFields seat cards passed currentSeat := by
    intro value member
    obtain same | same | same | same := mem_broadcastFields member <;> cases same
  have read := readBroadcast_fields upcoming (legible_frame upcoming bytes short) enough
  have field := @readField_fields _ _ _ _ _ 4 upcoming enough
  generalize scan broadcastStep id (none, false, []) _ = kept at read
  obtain ⟨actor, pass, played⟩ := kept
  unfold Browser.applyPlayBroadcast
  simp only [read, field, returned_bind]
  refine ⟨_, rfl, ?_⟩
  have next : scan (numberStep 4) (fun () => none) () (broadcastFields seat cards passed currentSeat) =
      seatRead cards currentSeat := by
    rw [broadcastFields, scan_number, scan_packed, scan_number, scan_number, scan_nothing, seatRead]
    simp [ite_and]
  dsimp only
  rw [next]
  -- the hand may change, the seat does not
  split <;> rfl

theorem callLandlordRet_turn {accepted gameStarted called : Bool}
    {currentSeat landlordSeat actorSeat : Nat}
    (enough : (frame (.callLandlordRet accepted currentSeat gameStarted landlordSeat actorSeat
      called)).length < fuel) :
    ∃ after, browser.applyCallLandlord fuel (frame (.callLandlordRet accepted currentSeat gameStarted
        landlordSeat actorSeat called)) = .returned after ∧
      after.currentSeat = found (seatRead [] currentSeat) browser.currentSeat ∧ after.phase = 2 := by
  have field (wantedField : Int) := @readField_fields _ _ _ _ _ wantedField
    (call_upcoming accepted currentSeat gameStarted landlordSeat actorSeat called) enough
  unfold Browser.applyCallLandlord
  simp only [field, returned_bind]
  refine ⟨_, rfl, ?_⟩
  have next : scan (numberStep 2) (fun () => none) ()
      (callFields accepted currentSeat gameStarted landlordSeat actorSeat called) =
      seatRead [] currentSeat := by
    simp only [callFields, scan_number, scan_nothing, seatRead]
    simp
  -- whether the flag is there or not, it is not 0
  have started : scan (numberStep 3) (fun () => none) ()
      (callFields accepted currentSeat gameStarted landlordSeat actorSeat called) ≠ some 0 := by
    have one : wireNumber 1 = 1 := wireNumber_small (by decide)
    simp only [callFields, scan_number, scan_nothing]
    cases gameStarted <;> simp [one]
  rw [next, if_pos started]
  exact ⟨rfl, rfl⟩

section State

variable {state : S2CRoomState}

theorem roomState_seat : scan (numberStep 4) (fun () => none) () (WireFormat.roomStateFields state) =
    seatRead [] state.currentSeat := by
  -- the fields behind the seat have other numbers
  obtain ⟨others, split, numbers⟩ : ∃ others : List (Nat × Content (List (Nat × Content Bytes))),
      WireFormat.roomStateFields state = uintFields 1 state.roomId ++ (uintFields 2 state.selfSeat ++
        (uintFields 3 state.phase ++ (uintFields 4 state.currentSeat ++ others))) ∧
      ∀ field ∈ others, (field.1 : Int) ≠ 4 := by
    refine ⟨uintFields 5 state.landlordSeat ++
      (state.players.map (fun player => (6, .bytes (WireFormat.roomPlayerFields player))) ++
        (packedFields 7 state.ownCards ++ (packedFields 8 state.bottomCards ++
          (uintFields 9 state.lastPlaySeat ++ (packedFields 10 state.lastPlayCards ++
            uintFields 11 state.actionRemainingSeconds))))), ?_, ?_⟩
    · simp [WireFormat.roomStateFields]
    · intro field member
      simp only [List.mem_append, List.mem_map, mem_uintFields, mem_packedFields] at member
      obtain ⟨_, rfl⟩ | ⟨_, _, rfl⟩ | ⟨_, rfl⟩ | ⟨_, rfl⟩ | ⟨_, rfl⟩ | ⟨_, rfl⟩ | ⟨_, rfl⟩ := member <;> simp
  rw [split]
  simp only [scan_number, scan_others numbers, seatRead]
  simp

/-- Both handlers of a room state read the same seat. -/
theorem roomState_turn (short : (frame (.roomState state)).length < 2 ^ 31)
    (enough : (frame (.roomState state)).length < fuel) :
    ∃ after, browser.onmessage fuel clock (frame (.roomState state)) = .returned after ∧
      after.currentSeat = found (seatRead [] state.currentSeat) browser.currentSeat := by
  have upcoming := @roomState_upcoming state
  have legible : DealLegible 7 (WireFormat.roomStateFields state) :=
    legible_frame upcoming (roomStateFields_bytes (by decide)) short
  obtain ⟨dealt, shown, turn⟩ := @showDeal_turn browser _ _ _ _ _ _ upcoming legible enough
  obtain ⟨after, drawn⟩ := @showRoomState_returns state dealt fuel clock short enough
  refine ⟨after, ?_, ?_⟩
  · rw [onmessage_frame]
    exact bind_returned.mpr ⟨dealt, shown, drawn⟩
  · obtain ⟨_, _, again, read, shows⟩ := showRoomState_sets drawn
    have fields := @readField_fields _ _ _ _ _ 4 upcoming enough
    cases fields.symm.trans read
    rw [shows, turn, Nat.cast_ofNat, if_pos rfl, roomState_seat, found_again]

end State

/-! ## The turn on the page -/

/-- The page shows whose turn it is, and starts the game only when it has started. -/
def Browser.FollowsTurn (before after : Browser) : ServerMessage → Prop
  | .callLandlordRet _ currentSeat gameStarted _ _ _ =>
    after.currentSeat = some (currentSeat : Int) ∧
      (before.phase ≠ 2 → after.phase = 2 → gameStarted = true)
  | .dealCards _ _ currentSeat | .playBroadcast _ _ _ currentSeat =>
    after.currentSeat = some (currentSeat : Int)
  | .roomState state => after.currentSeat = some (state.currentSeat : Int)
  | _ => True

/-- The seat is read or known, and an answer to a call starts the game or comes when it has
    started. -/
def Browser.TurnKnown (before : Browser) : ServerMessage → Prop
  | .callLandlordRet _ currentSeat gameStarted _ _ _ =>
    SeatKnown before.currentSeat [] currentSeat ∧ (gameStarted = true ∨ before.phase = 2)
  | .dealCards cards _ currentSeat | .playBroadcast _ cards _ currentSeat =>
    SeatKnown before.currentSeat cards currentSeat
  | .roomState state => SeatKnown before.currentSeat [] state.currentSeat
  | _ => True

/-- The page follows the turn exactly if it can read the seat or knows it. -/
theorem turn_follows_iff {message : ServerMessage}
    (kind : message.id ∈ [.s2cDealCards, .s2cCallLandlordRet, .s2cPlayBroadcast, .s2cRoomState])
    (fits : (frame message).length ≤ maxPacketSize) (enough : (frame message).length < fuel) :
    ∃ after, browser.onmessage fuel clock (frame message) = .returned after ∧
      (browser.FollowsTurn after message ↔ browser.TurnKnown message) := by
  have short : (frame message).length < 2 ^ 31 := by
    have most : maxPacketSize < 2 ^ 31 := by decide
    omega
  rw [onmessage_frame]
  cases message with
  | dealCards cards seat currentSeat =>
    obtain ⟨after, shown, turn⟩ := @dealCards_turn browser _ _ _ _ short enough
    refine ⟨after, shown, ?_⟩
    rw [Browser.FollowsTurn, Browser.TurnKnown, turn, found_seatRead]
  | playBroadcast seat cards passed currentSeat =>
    obtain ⟨after, shown, turn⟩ := @playBroadcast_turn browser _ _ _ _ _ short enough
    refine ⟨after, shown, ?_⟩
    rw [Browser.FollowsTurn, Browser.TurnKnown, turn, found_seatRead]
  | callLandlordRet accepted currentSeat gameStarted landlordSeat actorSeat called =>
    obtain ⟨after, shown, turn, phase⟩ := @callLandlordRet_turn browser _ _ _ _ _ _ _ enough
    refine ⟨after, shown, ?_⟩
    rw [Browser.FollowsTurn, Browser.TurnKnown, turn, found_seatRead, phase]
    have started : (browser.phase ≠ 2 → (2 : Int) = 2 → gameStarted = true) ↔
        gameStarted = true ∨ browser.phase = 2 := by
      constructor
      · intro follows
        by_cases playing : browser.phase = 2
        · exact .inr playing
        · exact .inl (follows playing rfl)
      · intro known playing _
        exact known.resolve_right playing
    rw [started]
  | roomState state =>
    obtain ⟨after, shown, turn⟩ := @roomState_turn browser _ clock _ short enough
    rw [onmessage_frame] at shown
    refine ⟨after, shown, ?_⟩
    rw [Browser.FollowsTurn, Browser.TurnKnown, turn, found_seatRead]
  | _ => simp [ServerMessage.id] at kind

/-- The last call, by the player in seat 2, tells the page the landlord's seat. -/
theorem last_call_followed : ∃ after,
    Browser.onmessage { phase := 1 } 100 0 (frame (.callLandlordRet true 1 true 1 2 false)) =
      .returned after ∧
    Browser.FollowsTurn { phase := 1 } after (.callLandlordRet true 1 true 1 2 false) := by
  obtain ⟨after, returned, follows⟩ :=
    @turn_follows_iff { phase := 1 } 100 0 (.callLandlordRet true 1 true 1 2 false) (by decide)
      (by decide +kernel) (by decide +kernel)
  exact ⟨after, returned, follows.mpr ⟨.inl ⟨rfl, by decide, by decide⟩, .inl rfl⟩⟩

/-- The deal for the player in seat 1, when the deck is not shuffled. -/
def secondDeal : ServerMessage := .dealCards ((List.range 17).map fun card => 3 * card + 13) 1 0

/-- The page does not learn from its deal whose turn it is, and begins to play at the first
    call. -/
theorem first_call_starts_play : ∃ dealt called,
    Browser.onmessage {} 100 0 (frame secondDeal) = .returned dealt ∧
      ¬ Browser.FollowsTurn {} dealt secondDeal ∧
      dealt.onmessage 100 0 (frame (.callLandlordRet true 1 false 0 0 true)) = .returned called ∧
      ¬ dealt.FollowsTurn called (.callLandlordRet true 1 false 0 0 true) := by
  obtain ⟨dealt, deal, passes⟩ := returned_of_test
    (show (Browser.onmessage {} 100 0 (frame secondDeal)).test (fun dealt =>
        decide (dealt.currentSeat = none ∧ dealt.phase = 1) &&
          (dealt.onmessage 100 0 (frame (.callLandlordRet true 1 false 0 0 true))).test fun called =>
            decide (called.phase = 2)) = true by
      decide +kernel)
  obtain ⟨lost, passes⟩ := Bool.and_eq_true_iff.mp passes
  obtain ⟨unknown, calling⟩ := of_decide_eq_true lost
  obtain ⟨called, call, passes⟩ := returned_of_test passes
  have playing := of_decide_eq_true passes
  refine ⟨dealt, called, deal, ?_, call, ?_⟩
  · intro follows
    have shown : dealt.currentSeat = some 0 := follows
    rw [unknown] at shown
    cases shown
  · intro follows
    have started := follows.2 (by rw [calling]; decide) playing
    cases started

end Doudizhu.Web
