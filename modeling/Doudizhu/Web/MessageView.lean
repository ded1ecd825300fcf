import Doudizhu.Web.CardScan
import Doudizhu.Web.Reconnection

/-! # Messages on the page

What the page makes of each message of the gateway.  Its handlers go over the bytes of the
frame, most of them several times; `shows` is what they come to, said of the message itself.
-/

namespace Doudizhu.Web

open Game Gateway Script Proto3

/-! ## What is read -/

/-- A number, unless it is 0, which is not written. -/
def numberRead (value : Nat) : Option Int := if value = 0 then none else some (wireNumber value)

/-- The highest cards come first. -/
def sortHand (codes : List Int) : List Int := codes.insertionSort fun left right => right - left ≤ 0

/-- A seat that is not written is `null`, and whether the player is offline is not written. -/
def shownPlayer (player : RoomPlayer) : SeatText where
  seat := numberRead player.seat
  name := player.playerId.toUTF8.data.toList
  remaining := wireNumber player.remainingCards

/-- What the page shows after a message.  Of the numbers of a room state it reads those in
    front of the players. -/
def Browser.shows (browser : Browser) (now : Int) : ServerMessage → Browser
  | .dealCards cards seat currentSeat =>
    { browser with
      playerSeat := found (numberRead seat) browser.playerSeat
      currentSeat := found (seatRead cards currentSeat) browser.currentSeat
      phase := 1
      handCodes := sortHand (cards.map wireNumber)
      selectedCards := [] }
  | .reconnectSync _ seat phase _ _ cards =>
    { browser with
      playerSeat := found (numberRead seat) browser.playerSeat
      -- field 3 is the phase
      currentSeat := found (numberRead phase) browser.currentSeat
      handCodes := sortHand (cards.map wireNumber)
      selectedCards := [] }
  | .roomState state =>
    let alone := state.players = []
    { browser with
      playerSeat := found (numberRead state.selfSeat) browser.playerSeat
      currentSeat := found (numberRead state.currentSeat) browser.currentSeat
      phase := (numberRead state.phase).getD browser.phase
      handCodes := if alone then sortHand (state.ownCards.map wireNumber) else []
      selectedCards := []
      seats := state.players.map shownPlayer
      landlordSeat := numberRead state.landlordSeat
      actionDeadline :=
        let seconds := if alone then
            seatRead (state.ownCards ++ state.bottomCards ++ state.lastPlayCards) state.actionRemainingSeconds
          else none
        found (seconds.map fun seconds => now + seconds * 1000) browser.actionDeadline
      bottomCards := state.bottomCards.map wireNumber
      lastPlay :=
        if state.lastPlayCards = [] then none
        else
          let seat := if alone then seatRead (state.ownCards ++ state.bottomCards) state.lastPlaySeat else none
          some (seat, state.lastPlayCards.map wireNumber) }
  | .playBroadcast seat cards passed currentSeat =>
    let browser :=
      if numberRead seat = browser.playerSeat ∧ !passed then
        { browser with
          handCodes := browser.handCodes.filter fun code => !(cards.map wireNumber).contains code
          selectedCards := [] }
      else browser
    { browser with currentSeat := found (seatRead cards currentSeat) browser.currentSeat, phase := 2 }
  | .callLandlordRet _ currentSeat _ _ _ _ =>
    { browser with currentSeat := found (numberRead currentSeat) browser.currentSeat, phase := 2 }
  | .settleResult _ change =>
    { browser with
      handCodes := []
      selectedCards := []
      currentSeat := none
      phase := 0
      actionDeadline := none
      bottomCards := []
      lastPlay := none
      settlement := some (true, wireNumber (change % 2 ^ 64).toNat) }
  | .timeoutAction _ phase currentSeat =>
    { browser with
      currentSeat := found (numberRead currentSeat) browser.currentSeat
      phase := orElse (numberRead phase) browser.phase }
  | .loginRet .. => browser.applyLogin
  | .heartBeatRet _ | .matchRet .. | .playCardsRet .. | .passRet .. => browser

theorem seatRead_nil (value : Nat) : seatRead [] value = numberRead value := by
  unfold seatRead numberRead
  by_cases zero : value = 0 <;> simp [zero]

theorem wireNumber_zero : wireNumber 0 = 0 := by decide

theorem wireNumber_one : wireNumber 1 = 1 := by decide

/-! ## Walks -/

section Walks

variable {β : Type} {cardField number : Nat} {kept : List Int × Option Int} {others : List (Nat × Content β)}

theorem deal_number (value : Nat) : scan (dealStep cardField) id kept (uintFields number value ++ others) =
    scan (dealStep cardField) id
      (if value = 0 then kept else dealNumber cardField number (wireNumber value) kept) others := by
  unfold uintFields
  by_cases zero : value = 0 <;> simp [zero, scan, dealStep]

theorem deal_packed (codes : List Nat) :
    scan (dealStep cardField) id kept (packedFields cardField codes ++ others) =
      scan (dealStep cardField) id (kept.1 ++ codes.map wireNumber, kept.2) others := by
  unfold packedFields
  by_cases none : codes = [] <;> simp [none, scan, dealStep]

/-- Nothing is kept of fields with other numbers, wherever the loop ends. -/
theorem deal_others (apart : ∀ field ∈ others, field.1 ≠ cardField ∧ field.1 ≠ 2) :
    scan (dealStep cardField) id kept others = kept := by
  induction others with
  | nil => rfl
  | cons field others inductionHypothesis =>
    obtain ⟨number, content⟩ := field
    obtain ⟨card, seat⟩ : number ≠ cardField ∧ number ≠ 2 := apart _ List.mem_cons_self
    cases content with
    | number value =>
      have same : dealNumber cardField number (wireNumber value) kept = kept := by simp [dealNumber, card, seat]
      rw [scan, dealStep, same]
      exact inductionHypothesis fun field member => apart field (List.mem_cons_of_mem _ member)
    | packed values => simp [scan, dealStep, card]
    | bytes value => rfl

theorem broadcast_number {kept : Option Int × Bool × List Int} (other : number ≠ 2) (value : Nat) :
    scan broadcastStep id kept (uintFields number value ++ others) =
      scan broadcastStep id
        (if value = 0 then kept
          else (if number = 1 then some (wireNumber value) else kept.1,
            if number = 3 then wireNumber value != 0 else kept.2.1, kept.2.2)) others := by
  unfold uintFields
  by_cases zero : value = 0 <;> simp [zero, scan, broadcastStep, other]

theorem broadcast_packed {kept : Option Int × Bool × List Int} (codes : List Nat) :
    scan broadcastStep id kept (packedFields 2 codes ++ others) =
      scan broadcastStep id (kept.1, kept.2.1, kept.2.2 ++ codes.map wireNumber) others := by
  unfold packedFields
  by_cases none : codes = [] <;> simp [none, scan, broadcastStep]

end Walks

/-! ## Handlers -/

section Handlers

variable {browser : Browser} {fuel : Nat} {now : Int}

theorem dealCards_shown {cards : List Nat} {seat currentSeat : Nat}
    (short : (frame (.dealCards cards seat currentSeat)).length < 2 ^ 31)
    (enough : (frame (.dealCards cards seat currentSeat)).length < fuel) :
    browser.showDeal fuel (frame (.dealCards cards seat currentSeat)) 1 =
      .returned (browser.shows now (.dealCards cards seat currentSeat)) := by
  have upcoming := deal_upcoming cards seat currentSeat
  have bytes : ∀ value, (1, Content.bytes value) ∉ dealFields cards seat currentSeat := by
    intro value member
    obtain same | same | same := mem_dealFields member <;> cases same
  have deal := readDeal_fields upcoming (legible_frame upcoming bytes short) enough
  have field := @readField_fields _ _ _ _ _ 3 upcoming enough
  have walked : scan (dealStep 1) id ([], none) (dealFields cards seat currentSeat) =
      (cards.map wireNumber, numberRead seat) := by
    rw [dealFields, deal_packed, deal_number, deal_number, scan]
    by_cases first : seat = 0 <;> by_cases turn : currentSeat = 0 <;>
      simp [first, turn, dealNumber, numberRead]
  have turn : scan (numberStep 3) (fun () => none) () (dealFields cards seat currentSeat) =
      seatRead cards currentSeat := by
    rw [dealFields, scan_packed, scan_number, scan_number, scan_nothing, seatRead]
    simp [ite_and]
  unfold Browser.showDeal
  rw [walked, Nat.cast_one] at deal
  rw [turn] at field
  simp only [deal, field, returned_bind, if_neg (by decide : ¬ (1 : Int) = 7), if_true, Browser.shows, sortHand]

theorem reconnectSync_shown {roomId seat phase currentSeat landlordSeat : Nat} {cards : List Nat}
    (short : (frame (.reconnectSync roomId seat phase currentSeat landlordSeat cards)).length < 2 ^ 31)
    (enough : (frame (.reconnectSync roomId seat phase currentSeat landlordSeat cards)).length < fuel) :
    browser.showDeal fuel (frame (.reconnectSync roomId seat phase currentSeat landlordSeat cards)) 6 =
      .returned (browser.shows now (.reconnectSync roomId seat phase currentSeat landlordSeat cards)) := by
  have upcoming := sync_upcoming roomId seat phase currentSeat landlordSeat cards
  have bytes : ∀ value, (6, Content.bytes value) ∉
      syncFields roomId seat phase currentSeat landlordSeat cards := by
    simp [syncFields, mem_uintFields, mem_packedFields]
  have deal := readDeal_fields upcoming (legible_frame upcoming bytes short) enough
  have field := @readField_fields _ _ _ _ _ 3 upcoming enough
  have last : packedFields 6 cards = packedFields 6 cards ++ ([] : List (Nat × Content Bytes)) := by simp
  have walked : scan (dealStep 6) id ([], none) (syncFields roomId seat phase currentSeat landlordSeat cards) =
      (cards.map wireNumber, numberRead seat) := by
    rw [syncFields, last]
    simp only [deal_number, deal_packed, scan]
    by_cases first : seat = 0 <;> simp [first, dealNumber, numberRead]
  have turn : scan (numberStep 3) (fun () => none) ()
      (syncFields roomId seat phase currentSeat landlordSeat cards) = numberRead phase := by
    rw [syncFields, last]
    simp only [scan_number, scan_packed, scan_nothing]
    simp [numberRead]
  unfold Browser.showDeal
  rw [walked, Nat.cast_ofNat] at deal
  rw [turn] at field
  simp only [deal, field, returned_bind, if_neg (by decide : ¬ (6 : Int) = 7),
    if_neg (by decide : ¬ (6 : Int) = 1), Browser.shows, sortHand]

theorem playBroadcast_shown {seat currentSeat : Nat} {cards : List Nat} {passed : Bool}
    (short : (frame (.playBroadcast seat cards passed currentSeat)).length < 2 ^ 31)
    (enough : (frame (.playBroadcast seat cards passed currentSeat)).length < fuel) :
    browser.applyPlayBroadcast fuel (frame (.playBroadcast seat cards passed currentSeat)) =
      .returned (browser.shows now (.playBroadcast seat cards passed currentSeat)) := by
  have upcoming := broadcast_upcoming seat cards passed currentSeat
  have bytes : ∀ value, (2, Content.bytes value) ∉ broadcastFields seat cards passed currentSeat := by
    intro value member
    obtain same | same | same | same := mem_broadcastFields member <;> cases same
  have read := readBroadcast_fields upcoming (legible_frame upcoming bytes short) enough
  have field := @readField_fields _ _ _ _ _ 4 upcoming enough
  have walked : scan broadcastStep id (none, false, []) (broadcastFields seat cards passed currentSeat) =
      (numberRead seat, passed, cards.map wireNumber) := by
    rw [broadcastFields, broadcast_number (by decide), broadcast_packed, broadcast_number (by decide),
      broadcast_number (by decide), scan]
    by_cases first : seat = 0 <;> by_cases turn : currentSeat = 0 <;> cases passed <;>
      simp [first, turn, numberRead, wireNumber_one]
  have next : scan (numberStep 4) (fun () => none) () (broadcastFields seat cards passed currentSeat) =
      seatRead cards currentSeat := by
    rw [broadcastFields, scan_number, scan_packed, scan_number, scan_number, scan_nothing, seatRead]
    simp [ite_and]
  unfold Browser.applyPlayBroadcast
  rw [walked] at read
  rw [next] at field
  simp only [read, field, returned_bind, Browser.shows]

theorem callLandlordRet_shown {accepted gameStarted called : Bool} {currentSeat landlordSeat actorSeat : Nat}
    (enough : (frame (.callLandlordRet accepted currentSeat gameStarted landlordSeat actorSeat
      called)).length < fuel) :
    browser.applyCallLandlord fuel (frame (.callLandlordRet accepted currentSeat gameStarted landlordSeat
        actorSeat called)) =
      .returned (browser.shows now (.callLandlordRet accepted currentSeat gameStarted landlordSeat actorSeat
        called)) := by
  have field (wantedField : Int) := @readField_fields _ _ _ _ _ wantedField
    (call_upcoming accepted currentSeat gameStarted landlordSeat actorSeat called) enough
  have next : scan (numberStep 2) (fun () => none) ()
      (callFields accepted currentSeat gameStarted landlordSeat actorSeat called) = numberRead currentSeat := by
    simp only [callFields, scan_number, scan_nothing]
    simp [numberRead]
  have started : scan (numberStep 3) (fun () => none) ()
      (callFields accepted currentSeat gameStarted landlordSeat actorSeat called) ≠ some 0 := by
    simp only [callFields, scan_number, scan_nothing]
    cases gameStarted <;> simp [wireNumber_one]
  unfold Browser.applyCallLandlord
  simp only [field, returned_bind, next, if_pos started, Browser.shows]

theorem settleResult_shown {win : Bool} {change : Int}
    (enough : (frame (.settleResult win change)).length < fuel) :
    browser.applySettlement fuel (frame (.settleResult win change)) =
      .returned (browser.shows now (.settleResult win change)) := by
  have field (wantedField : Int) := @readField_fields _ _ _ _ _ wantedField (settle_upcoming win change) enough
  have won : scan (numberStep 1) (fun () => none) () (settleFields win change) ≠ some 0 := by
    simp only [settleFields, scan_number, scan_nothing]
    cases win <;> simp [wireNumber_one]
  have changed : orElse (scan (numberStep 2) (fun () => none) () (settleFields win change)) 0 =
      wireNumber (change % 2 ^ 64).toNat := by
    rw [settleFields, scan_number, scan_number, scan_nothing]
    generalize (change % 2 ^ 64).toNat = written
    by_cases zero : written = 0
    · simp [zero, orElse, wireNumber_zero]
    · rw [if_neg (by simp), if_pos ⟨rfl, zero⟩, orElse]
      split
      · next none => exact none.symm
      · rfl
  unfold Browser.applySettlement
  simp only [field, returned_bind, changed, decide_eq_true won, Browser.shows]

theorem timeoutAction_shown {actorSeat phase currentSeat : Nat}
    (enough : (frame (.timeoutAction actorSeat phase currentSeat)).length < fuel) :
    browser.applyTimeout fuel (frame (.timeoutAction actorSeat phase currentSeat)) =
      .returned (browser.shows now (.timeoutAction actorSeat phase currentSeat)) := by
  have field (wantedField : Int) := @readField_fields _ _ _ _ _ wantedField
    (timeout_upcoming actorSeat phase currentSeat) enough
  have last : uintFields 3 currentSeat = uintFields 3 currentSeat ++ ([] : List (Nat × Content Bytes)) := by simp
  have turn : scan (numberStep 3) (fun () => none) () (timeoutFields actorSeat phase currentSeat) =
      numberRead currentSeat := by
    rw [timeoutFields, last]
    simp only [scan_number, scan_nothing]
    simp [numberRead]
  have played : scan (numberStep 2) (fun () => none) () (timeoutFields actorSeat phase currentSeat) =
      numberRead phase := by
    rw [timeoutFields, last]
    simp only [scan_number, scan_nothing]
    simp [numberRead]
  unfold Browser.applyTimeout
  simp only [field, returned_bind, turn, played, Browser.shows]

end Handlers

/-! ## Room states -/

section RoomStates

variable {state : S2CRoomState} {browser : Browser} {fuel : Nat} {now : Int}

def playerFields (state : S2CRoomState) : List (Nat × Content (List (Nat × Content Bytes))) :=
  state.players.map fun player => (6, .bytes (WireFormat.roomPlayerFields player))

/-- Those behind the players. -/
def tableFields (state : S2CRoomState) : List (Nat × Content (List (Nat × Content Bytes))) :=
  packedFields 7 state.ownCards ++ (packedFields 8 state.bottomCards ++ (uintFields 9 state.lastPlaySeat ++
    (packedFields 10 state.lastPlayCards ++ (uintFields 11 state.actionRemainingSeconds ++ []))))

theorem roomStateFields_split :
    WireFormat.roomStateFields state = seatFields state ++ (playerFields state ++ tableFields state) := by
  simp [WireFormat.roomStateFields, seatFields, playerFields, tableFields]

theorem tableFields_numbers : ∀ field ∈ tableFields state, 7 ≤ field.1 := by
  intro field member
  simp only [tableFields, List.mem_append, mem_packedFields, mem_uintFields, List.not_mem_nil, or_false] at member
  obtain ⟨_, rfl⟩ | ⟨_, rfl⟩ | ⟨_, rfl⟩ | ⟨_, rfl⟩ | ⟨_, rfl⟩ := member <;> simp

theorem playerFields_numbers : ∀ field ∈ playerFields state, field.1 = 6 := by
  intro field member
  obtain ⟨player, _, rfl⟩ := List.mem_map.mp member
  rfl

/-- What is looked for in front of the players is not found behind them. -/
theorem scan_behind {wantedField : Int} (front : wantedField ≤ 5) :
    scan (numberStep wantedField) (fun () => none) () (playerFields state ++ tableFields state) = none := by
  apply scan_others
  intro field member
  obtain player | table := List.mem_append.mp member
  · have number := playerFields_numbers field player
    omega
  · have number := tableFields_numbers field table
    omega

theorem scan_front {wantedField : Int} (behind : 5 < wantedField)
    (others : List (Nat × Content (List (Nat × Content Bytes)))) :
    scan (numberStep wantedField) (fun () => none) () (seatFields state ++ others) =
      scan (numberStep wantedField) (fun () => none) () others := by
  have apart : ∀ number value : Nat, number ≤ 5 → ¬ ((number : Int) = wantedField ∧ value ≠ 0) := by
    intro number value few
    omega
  simp only [seatFields, List.append_assoc, scan_number]
  rw [if_neg (apart 1 _ (by decide)), if_neg (apart 2 _ (by decide)), if_neg (apart 3 _ (by decide)),
    if_neg (apart 4 _ (by decide)), if_neg (apart 5 _ (by decide))]

theorem scan_players {wantedField : Int} (others : List (Nat × Content (List (Nat × Content Bytes)))) :
    scan (numberStep wantedField) (fun () => none) () (playerFields state ++ others) =
      if state.players = [] then scan (numberStep wantedField) (fun () => none) () others else none := by
  unfold playerFields
  cases state.players with
  | nil => rfl
  | cons player players => rfl

theorem phase_read : scan (numberStep 3) (fun () => none) () (WireFormat.roomStateFields state) =
    numberRead state.phase := by
  rw [roomStateFields_split, seatFields]
  simp only [List.append_assoc, scan_number, @scan_behind state 3 (by decide)]
  simp [numberRead]

theorem landlordSeat_read : scan (numberStep 5) (fun () => none) () (WireFormat.roomStateFields state) =
    numberRead state.landlordSeat := by
  rw [roomStateFields_split, seatFields]
  simp only [List.append_assoc, scan_number, @scan_behind state 5 (by decide)]
  simp [numberRead]

theorem lastPlaySeat_read : scan (numberStep 9) (fun () => none) () (WireFormat.roomStateFields state) =
    if state.players = [] then seatRead (state.ownCards ++ state.bottomCards) state.lastPlaySeat else none := by
  rw [roomStateFields_split, scan_front (by decide), scan_players, tableFields]
  simp only [scan_packed, scan_number, scan_nothing, seatRead, List.append_eq_nil_iff]
  by_cases own : state.ownCards = [] <;> by_cases bottom : state.bottomCards = [] <;> simp [own, bottom]

theorem seconds_read : scan (numberStep 11) (fun () => none) () (WireFormat.roomStateFields state) =
    if state.players = [] then
      seatRead (state.ownCards ++ state.bottomCards ++ state.lastPlayCards) state.actionRemainingSeconds
    else none := by
  rw [roomStateFields_split, scan_front (by decide), scan_players, tableFields]
  simp only [scan_packed, scan_number, scan_nothing, seatRead, List.append_eq_nil_iff]
  by_cases own : state.ownCards = [] <;> by_cases bottom : state.bottomCards = [] <;>
    by_cases last : state.lastPlayCards = [] <;> simp [own, bottom, last]

/-- A player that is online is shown as one that is not: the default of the page is `true`. -/
theorem shown_fields (player : RoomPlayer) :
    (WireFormat.roomPlayerFields player).foldl playerField {} = shownPlayer player := by
  have online (text : SeatText) (shown : text.online = true) :
      (uintFields 3 player.online.toNat).foldl playerField text = text := by
    obtain ⟨seat, name, online, remaining⟩ := text
    subst shown
    cases player.online <;> simp [uintFields, playerField, wireNumber_one]
  have remaining (text : SeatText) (fresh : text.remaining = 0) :
      (uintFields 4 player.remainingCards).foldl playerField text =
        { text with remaining := wireNumber player.remainingCards } := by
    rw [foldl_uintFields]
    split
    · next zero => rw [zero, wireNumber_zero, ← fresh]
    · simp [playerField]
  have name (text : SeatText) (fresh : text.name = []) :
      (stringFields 2 player.playerId).foldl playerField text =
        { text with name := player.playerId.toUTF8.data.toList } := by
    unfold stringFields
    split
    · next empty =>
      have none : player.playerId.toUTF8.data.toList = [] := by
        rw [empty]
        rfl
      rw [none, ← fresh]
      rfl
    · rfl
  have seat : (uintFields 1 player.seat).foldl playerField {} = { seat := numberRead player.seat } := by
    rw [foldl_uintFields]
    unfold numberRead
    split <;> simp [playerField]
  rw [WireFormat.roomPlayerFields, List.foldl_append, List.foldl_append, List.foldl_append, seat, name _ rfl,
    online _ rfl, remaining _ rfl]
  rfl

theorem names_read : (WireFormat.roomStateFields state).flatMap namesOf = state.players.map shownPlayer := by
  have front : (seatFields state).flatMap namesOf = [] := by
    rw [List.flatMap_eq_nil_iff]
    intro field member
    obtain ⟨number, value, _, rfl⟩ := mem_seatFields member
    simp [namesOf]
  have behind : (tableFields state).flatMap namesOf = [] := by
    rw [List.flatMap_eq_nil_iff]
    intro field member
    simp only [tableFields, List.mem_append, mem_packedFields, mem_uintFields, List.not_mem_nil, or_false] at member
    obtain ⟨_, rfl⟩ | ⟨_, rfl⟩ | ⟨_, rfl⟩ | ⟨_, rfl⟩ | ⟨_, rfl⟩ := member <;> rfl
  have players : (playerFields state).flatMap namesOf = state.players.map shownPlayer := by
    rw [playerFields, List.flatMap_map, List.map_eq_flatMap]
    simp only [namesOf, shown_fields]
  rw [roomStateFields_split, List.flatMap_append, List.flatMap_append, front, behind, players, List.nil_append,
    List.append_nil]

theorem deal_read (short : (frame (.roomState state)).length < 2 ^ 31)
    (enough : (frame (.roomState state)).length < fuel) :
    Browser.readDeal fuel (frame (.roomState state)) 7 = .returned
      (if state.players = [] then state.ownCards.map wireNumber else [], numberRead state.selfSeat) := by
  have legible : DealLegible 7 (WireFormat.roomStateFields state) :=
    legible_frame roomState_upcoming (roomStateFields_bytes (by decide)) short
  have deal := readDeal_fields roomState_upcoming legible enough
  have again : ∀ kept, ∀ field ∈ seatFields state, dealStep 7 kept field = .again (dealOne 7 kept field) := by
    intro kept field member
    obtain ⟨number, value, _, rfl⟩ := mem_seatFields member
    rfl
  have seat : (if state.selfSeat = 0 then none else some (wireNumber state.selfSeat)) =
      numberRead state.selfSeat := rfl
  rw [roomStateFields_split, scan_append again, foldl_seatFields, seat] at deal
  refine deal.trans (congrArg _ ?_)
  unfold playerFields
  cases players : state.players with
  | cons player players => simp [scan, dealStep]
  | nil =>
    rw [List.map_nil, List.nil_append, tableFields, deal_packed, deal_others]
    · simp
    · intro field member
      simp only [List.mem_append, mem_packedFields, mem_uintFields, List.not_mem_nil, or_false] at member
      obtain ⟨_, rfl⟩ | ⟨_, rfl⟩ | ⟨_, rfl⟩ | ⟨_, rfl⟩ := member <;> simp

theorem turn_read : scan (numberStep 4) (fun () => none) () (WireFormat.roomStateFields state) =
    numberRead state.currentSeat := roomState_seat.trans (seatRead_nil _)

theorem roomState_dealt (short : (frame (.roomState state)).length < 2 ^ 31)
    (enough : (frame (.roomState state)).length < fuel) :
    browser.showDeal fuel (frame (.roomState state)) 7 = .returned
      { browser with
        playerSeat := found (numberRead state.selfSeat) browser.playerSeat
        currentSeat := found (numberRead state.currentSeat) browser.currentSeat
        phase := orElse (numberRead state.phase) browser.phase
        handCodes := sortHand (if state.players = [] then state.ownCards.map wireNumber else [])
        selectedCards := [] } := by
  have field (wantedField : Int) := @readField_fields _ _ _ _ _ wantedField (@roomState_upcoming state) enough
  have other : ¬ (7 : Int) = 1 := by decide
  unfold Browser.showDeal
  rw [deal_read short enough]
  simp only [returned_bind, if_true, if_neg other, field, turn_read, phase_read, sortHand]

theorem roomState_drawn (short : (frame (.roomState state)).length < 2 ^ 31)
    (enough : (frame (.roomState state)).length < fuel) :
    browser.showRoomState fuel now (frame (.roomState state)) = .returned
      { browser with
        phase := (numberRead state.phase).getD browser.phase
        currentSeat := found (numberRead state.currentSeat) browser.currentSeat
        seats := state.players.map shownPlayer
        landlordSeat := numberRead state.landlordSeat
        actionDeadline := (browser.shows now (.roomState state)).actionDeadline
        bottomCards := state.bottomCards.map wireNumber
        lastPlay := (browser.shows now (.roomState state)).lastPlay } := by
  have field (wantedField : Int) := @readField_fields _ _ _ _ _ wantedField (@roomState_upcoming state) enough
  have names := readNames_fields roomState_upcoming roomStateFields_players short enough
  have cards (wantedField : Nat) (other : wantedField ≠ 6) :=
    @cardsForField_fields _ _ _ _ _ wantedField (@roomState_upcoming state) (roomStateFields_bytes other) short
      enough
  have bottom : cardsForField fuel (frame (.roomState state)) 8 = .returned (state.bottomCards.map wireNumber) :=
    (cards 8 (by decide)).trans (congrArg _ (cards_roomStateFields state (by decide)))
  have last : cardsForField fuel (frame (.roomState state)) 10 = .returned (state.lastPlayCards.map wireNumber) :=
    (cards 10 (by decide)).trans (congrArg _ (cards_roomStateFields state (by decide)))
  unfold Browser.showRoomState
  simp only [names, names_read, field, returned_bind, bottom, last, turn_read, phase_read, landlordSeat_read,
    lastPlaySeat_read, seconds_read, Browser.shows]
  by_cases none : state.lastPlayCards = []
  · simp [none]
  · simp [none]

theorem roomState_shown (short : (frame (.roomState state)).length < 2 ^ 31)
    (enough : (frame (.roomState state)).length < fuel) :
    (browser.showDeal fuel (frame (.roomState state)) 7 >>= fun dealt =>
        dealt.showRoomState fuel now (frame (.roomState state))) =
      .returned (browser.shows now (.roomState state)) := by
  -- the phase is read twice, and so is the turn
  have phase : (numberRead state.phase).getD (orElse (numberRead state.phase) browser.phase) =
      (numberRead state.phase).getD browser.phase := by
    cases numberRead state.phase <;> rfl
  have hand : sortHand (if state.players = [] then state.ownCards.map wireNumber else []) =
      if state.players = [] then sortHand (state.ownCards.map wireNumber) else [] := by
    split <;> rfl
  rw [roomState_dealt short enough, returned_bind, roomState_drawn short enough, hand]
  simp only [Browser.shows, found_again, phase]

end RoomStates

/-! ## Messages -/

variable {browser : Browser} {fuel : Nat} {now : Int}

/-- Whatever the page shows, and whatever message the gateway writes. -/
theorem onmessage_shows {message : ServerMessage} (fits : (frame message).length ≤ maxPacketSize)
    (enough : (frame message).length < fuel) :
    browser.onmessage fuel now (frame message) = .returned (browser.shows now message) := by
  have short : (frame message).length < 2 ^ 31 := by
    have most : maxPacketSize < 2 ^ 31 := by decide
    omega
  rw [onmessage_frame]
  cases message with
  | dealCards => exact dealCards_shown short enough
  | reconnectSync => exact reconnectSync_shown short enough
  | roomState => exact roomState_shown short enough
  | playBroadcast => exact playBroadcast_shown short enough
  | callLandlordRet => exact callLandlordRet_shown enough
  | settleResult => exact settleResult_shown enough
  | timeoutAction => exact timeoutAction_shown enough
  | loginRet | heartBeatRet | matchRet | playCardsRet | passRet => rfl

end Doudizhu.Web
