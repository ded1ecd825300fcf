import Mathlib.Data.Int.Interval
import Doudizhu.Web.HandView

/-! # The scan for cards

`cardsForField` on every input.  Of a room state that the gateway sends it reads the cards
of the field, whatever the names are.  On other bytes it need not end: lengths are signed
numbers, and one below 0 leads the scan back.  It ends on all bytes without such a length, and
never ends on a message with one that leads back to the beginning of a field.
-/

namespace Doudizhu.Web

open Game Gateway Script Proto3

/-! ## Room states -/

section RoomStates

variable {state : RoomState} {fuel : Nat}

/-- Suits are of type `uint8_t`. -/
def SuitsFit (cards : List Card) : Prop := ∀ card ∈ cards, card.suit < 2 ^ 8

theorem map_wireNumber_encode {cards : List Card} (suits : SuitsFit cards) :
    (cards.map CardCodec.encode).map wireNumber = cards.map fun card => (CardCodec.encode card : Int) := by
  rw [List.map_map]
  apply List.map_congr_left
  intro card member
  apply wireNumber_small
  have rank := (Rank.value_bounds card.rank).2
  have suit := suits card member
  unfold CardCodec.encode
  omega

variable {β : Type} {wantedField number : Nat}

theorem cards_uintFields (other : number ≠ wantedField) (value : Nat) :
    (uintFields number value : List (Nat × Content β)).flatMap (cardsOf wantedField) = [] := by
  unfold uintFields
  split
  · rfl
  · simp [cardsOf, other]

theorem cards_packedFields (values : List Nat) :
    (packedFields number values : List (Nat × Content β)).flatMap (cardsOf wantedField) =
      if number = wantedField then values.map wireNumber else [] := by
  unfold packedFields
  split
  next none => simp [none]
  next => simp [cardsOf]

/-- The cards of a field of a room state: only three fields have any. -/
theorem cards_roomStateFields (message : S2CRoomState)
    (wanted : wantedField = 7 ∨ wantedField = 8 ∨ wantedField = 10) :
    (WireFormat.roomStateFields message).flatMap (cardsOf wantedField) =
      if wantedField = 7 then message.ownCards.map wireNumber
      else if wantedField = 8 then message.bottomCards.map wireNumber
      else message.lastPlayCards.map wireNumber := by
  have players : (message.players.map fun player =>
      (6, Content.bytes (WireFormat.roomPlayerFields player))).flatMap (cardsOf wantedField) = [] := by
    simp [List.flatMap_map, cardsOf]
  unfold WireFormat.roomStateFields
  simp only [List.flatMap_append, cards_packedFields, players]
  obtain rfl | rfl | rfl := wanted <;> simp [cards_uintFields]

/-- Whatever the state is, and whatever is in front of the cards.  (`send_packet` writes no
    frame above 64 KiB.) -/
theorem room_state_cards (own : SuitsFit state.ownHand) (bottom : SuitsFit state.bottomCards)
    (last : SuitsFit state.lastPlayCards)
    (fits : (frame (.roomState (encodeRoomState state))).length < 2 ^ 31)
    (enough : (frame (.roomState (encodeRoomState state))).length < fuel) :
    cardsForField fuel (frame (.roomState (encodeRoomState state))) 7 =
        .returned (state.ownHand.map fun card => (CardCodec.encode card : Int)) ∧
      cardsForField fuel (frame (.roomState (encodeRoomState state))) 8 =
        .returned (state.bottomCards.map fun card => (CardCodec.encode card : Int)) ∧
      cardsForField fuel (frame (.roomState (encodeRoomState state))) 10 =
        .returned (state.lastPlayCards.map fun card => (CardCodec.encode card : Int)) := by
  have read (wantedField : Nat) (other : wantedField ≠ 6) :=
    cardsForField_fields (@roomState_upcoming (encodeRoomState state))
      (roomStateFields_bytes other) fits enough
  rw [← map_wireNumber_encode own, ← map_wireNumber_encode bottom, ← map_wireNumber_encode last]
  refine ⟨?_, ?_, ?_⟩
  · exact (read 7 (by decide)).trans (congrArg _ (cards_roomStateFields _ (by decide)))
  · exact (read 8 (by decide)).trans (congrArg _ (cards_roomStateFields _ (by decide)))
  · exact (read 10 (by decide)).trans (congrArg _ (cards_roomStateFields _ (by decide)))

/-- A play that is on the table, in a room with a large number and a name that looks like
    a field of cards. -/
def crowdedState : RoomState where
  roomId := 2 ^ 64 - 1
  selfSeat := 2
  phase := .playCards
  currentSeat := 1
  landlordSeat := some 0
  players := [⟨":\x01\x0c", true, 19⟩, ⟨"bob", false, 17⟩, ⟨"", true, 2⟩]
  ownHand := [⟨.bigJoker, 0⟩, ⟨.three, 1⟩]
  bottomCards := [⟨.four, 3⟩, ⟨.two, 0⟩, ⟨.ace, 2⟩]
  lastPlaySeat := some 0
  lastPlayCards := [⟨.seven, 1⟩]
  actionRemainingSeconds := 15

theorem crowded_cards :
    cardsForField 200 (frame (.roomState (encodeRoomState crowdedState))) 7 = .returned [68, 13] ∧
      cardsForField 200 (frame (.roomState (encodeRoomState crowdedState))) 8 = .returned [19, 60, 58] ∧
      cardsForField 200 (frame (.roomState (encodeRoomState crowdedState))) 10 = .returned [29] :=
  room_state_cards (by unfold SuitsFit; decide) (by unfold SuitsFit; decide)
    (by unfold SuitsFit; decide) (by decide +kernel) (by decide +kernel)

end RoomStates

/-! ## What a varint is -/

section Varints

variable {bytes : Bytes} {index next value : Int}

theorem readVarintFrom_returned {remaining shift : Nat} {before : BitVec 32}
    (read : readVarintFrom bytes remaining index shift before = .returned (value, next)) :
    index < next ∧ next ≤ index + remaining ∧ -2 ^ 31 ≤ value := by
  induction remaining generalizing index shift before with
  | zero => cases read
  | succ remaining inductionHypothesis =>
    rw [readVarintFrom] at read
    split at read
    · cases read
      exact ⟨by omega, by omega, BitVec.le_toInt _⟩
    · obtain ⟨after, within, low⟩ := inductionHypothesis read
      exact ⟨by omega, by omega, low⟩

/-- A varint ends behind its beginning, inside the bytes. -/
theorem readVarint_returned (read : readVarint bytes index = .returned (value, next)) :
    index < next ∧ next ≤ bytes.length ∧ -2 ^ 31 ≤ value := by
  have inside : index < bytes.length := by
    by_contra outside
    have none : (bytes.length - index).toNat = 0 := by omega
    rw [readVarint, none, readVarintFrom] at read
    cases read
  obtain ⟨after, within, low⟩ := readVarintFrom_returned read
  exact ⟨after, by omega, low⟩

theorem readVarintFrom_finished {remaining shift : Nat} {before : BitVec 32} :
    readVarintFrom bytes remaining index shift before ≠ .unfinished := by
  induction remaining generalizing index shift before with
  | zero =>
    intro same
    cases same
  | succ remaining inductionHypothesis =>
    rw [readVarintFrom]
    split
    · intro same
      cases same
    · exact inductionHypothesis

theorem readVarint_finished : readVarint bytes index ≠ .unfinished := readVarintFrom_finished

/-- In front of the bytes there are zeros. -/
theorem readVarint_negative (negative : index < 0) : readVarint bytes index = .returned (0, index + 1) := by
  obtain ⟨remaining, some⟩ : ∃ remaining, (bytes.length - index).toNat = remaining + 1 :=
    ⟨(bytes.length - index).toNat - 1, by omega⟩
  have byte : byteAt bytes index = 0 := if_neg (by omega)
  rw [readVarint, some, readVarintFrom, byte]
  simp

end Varints

/-! ## The way of the scan -/

variable {bytes : Bytes} {wantedField finish index next length : Int} {fuel : Nat}

/-- The numbers of a packed field, from `index` up to `finish`, end at `next`. -/
inductive NumbersEnd (bytes : Bytes) (finish : Int) : Int → Int → Prop where
  | done {index : Int} : ¬ index < finish → NumbersEnd bytes finish index index
  | number {index value after next : Int} : index < finish →
      readVarint bytes index = .returned (value, after) → NumbersEnd bytes finish after next →
      NumbersEnd bytes finish index next

/-- A field at `index` with a length, and what follows the length. -/
inductive LengthAt (bytes : Bytes) (index field length next : Int) : Prop where
  | mk {tag afterTag : Int} : readVarint bytes index = .returned (tag, afterTag) → tag / 8 = field →
      tag % 8 = 2 → readVarint bytes afterTag = .returned (length, next) →
      LengthAt bytes index field length next

/-- A field at `index` is followed by one at `next`, if there is one. -/
inductive GoesOn (bytes : Bytes) (wantedField : Int) : Int → Int → Prop where
  | packed {index length after next : Int} : LengthAt bytes index wantedField length after →
      NumbersEnd bytes (after + length) after next → GoesOn bytes wantedField index next
  | number {index tag afterTag value next : Int} :
      readVarint bytes index = .returned (tag, afterTag) → tag % 8 = 0 →
      readVarint bytes afterTag = .returned (value, next) → GoesOn bytes wantedField index next
  | bytes {index field length after : Int} : LengthAt bytes index field length after →
      field ≠ wantedField → GoesOn bytes wantedField index (after + length)

/-- From the first field on, the scan comes to `index`. -/
def ComesTo (bytes : Bytes) (wantedField index : Int) : Prop :=
  Relation.ReflTransGen (GoesOn bytes wantedField) 6 index

/-- The field at `index` is stepped over, by a length below 0, to where the scan comes to the
    same field again. -/
def LeadsBack (bytes : Bytes) (wantedField index : Int) : Prop :=
  ∃ field length after, LengthAt bytes index field length after ∧ field ≠ wantedField ∧ length < 0 ∧
    Relation.ReflTransGen (GoesOn bytes wantedField) (after + length) index

/-! ## Packed numbers -/

section Packed

variable {cards : List Int}

theorem readPacked_returned {read : List Int}
    (returned : readPacked fuel bytes finish cards index = .returned (read, next)) :
    NumbersEnd bytes finish index next := by
  induction fuel generalizing cards index with
  | zero => cases returned
  | succ fuel inductionHypothesis =>
    obtain ⟨turn, first, rest⟩ := bind_returned.mp returned
    dsimp only at first
    split at first
    next before =>
      obtain ⟨⟨value, after⟩, number, again⟩ := bind_returned.mp first
      cases again
      exact .number before number (inductionHypothesis rest)
    next behind =>
      cases first
      cases rest
      exact .done behind

theorem NumbersEnd.readPacked (ends : NumbersEnd bytes finish index next) :
    readPacked fuel bytes finish cards index = .unfinished ∨
      ∃ read, readPacked fuel bytes finish cards index = .returned (read, next) := by
  induction ends generalizing fuel cards with
  | done behind =>
    cases fuel with
    | zero => exact .inl rfl
    | succ fuel =>
      refine .inr ⟨cards, loop_done ?_⟩
      dsimp only
      rw [if_neg behind]
  | @number index value after next before number _ inductionHypothesis =>
    cases fuel with
    | zero => exact .inl rfl
    | succ fuel =>
      have once : Web.readPacked (fuel + 1) bytes finish cards index =
          Web.readPacked fuel bytes finish (cards ++ [value]) after := by
        apply loop_again
        dsimp only
        rw [if_pos before, number]
        rfl
      rw [once]
      exact inductionHypothesis

theorem NumbersEnd.le (ends : NumbersEnd bytes finish index next) : index ≤ next := by
  induction ends with
  | done => exact le_refl _
  | number _ number _ inductionHypothesis =>
    have after := (readVarint_returned number).1
    omega

/-- Each number takes a byte. -/
theorem readPacked_finished (nonneg : 0 ≤ index) (enough : bytes.length < fuel) :
    readPacked fuel bytes finish cards index ≠ .unfinished := by
  have card : (Finset.Ico 0 (bytes.length : Int)).card = bytes.length := by simp
  refine @loop_ends _ _ _ _ _ _ _ _ Prod.snd (Finset.Ico 0 (bytes.length : Int)) (· < ·)
    (fun state => 0 ≤ state.2) ?_ ?_ nonneg (by rwa [card])
  · intro ⟨cards, index⟩ nonneg
    dsimp only at nonneg ⊢
    split
    next before =>
      cases number : readVarint bytes index with
      | unfinished => exact absurd number readVarint_finished
      | thrown error => simp
      | returned found =>
        obtain ⟨value, after⟩ := found
        obtain ⟨behind, inside, _⟩ := readVarint_returned number
        rw [returned_bind]
        constructor
        · intro same
          cases same
        · intro next taken
          cases taken
          dsimp only
          rw [Finset.mem_Ico]
          omega
    next => simp
  · intro state _ again
    rw [Relation.transGen_eq_self] at again
    exact lt_irrefl _ again

end Packed

/-! ## Turns -/

/-- One turn of `cardsForField`. -/
def scanTurn (fuel : Nat) (bytes : Bytes) (wantedField : Int) :
    List Int × Int → Run (Turn (List Int × Int) (List Int)) := fun (cards, index) =>
  if index < bytes.length then do
    let (tag, index) ← readVarint bytes index
    let field := tag / 8
    let wireType := tag % 8
    if field = wantedField ∧ wireType = 2 then
      let (length, index) ← readVarint bytes index
      let (cards, index) ← readPacked fuel bytes (index + length) cards index
      .returned (.again (cards, index))
    else if wireType = 0 then
      let (value, index) ← readVarint bytes index
      .returned (.again (if field = wantedField then cards ++ [value] else cards, index))
    else if wireType = 2 then
      let (length, index) ← readVarint bytes index
      .returned (.again (cards, index + length))
    else .returned (.done cards)
  else .returned (.done cards)

theorem cardsForField_eq :
    cardsForField fuel bytes wantedField = loop (scanTurn fuel bytes wantedField) fuel ([], 6) := rfl

variable {cards later : List Int}

theorem scanTurn_again
    (turned : scanTurn fuel bytes wantedField (cards, index) = .returned (.again (later, next))) :
    GoesOn bytes wantedField index next := by
  unfold scanTurn at turned
  dsimp only at turned
  split at turned
  · obtain ⟨⟨tag, afterTag⟩, tagRead, turned⟩ := bind_returned.mp turned
    dsimp only at turned
    split at turned
    next packed =>
      obtain ⟨⟨length, afterLength⟩, lengthRead, turned⟩ := bind_returned.mp turned
      obtain ⟨⟨read, afterCards⟩, numbers, turned⟩ := bind_returned.mp turned
      cases turned
      exact .packed (.mk tagRead packed.1 packed.2 lengthRead) (readPacked_returned numbers)
    next notPacked =>
      split at turned
      next number =>
        obtain ⟨⟨value, afterValue⟩, valueRead, turned⟩ := bind_returned.mp turned
        cases turned
        exact .number tagRead number valueRead
      next =>
        split at turned
        next lengthFollows =>
          obtain ⟨⟨length, afterLength⟩, lengthRead, turned⟩ := bind_returned.mp turned
          cases turned
          exact .bytes (.mk tagRead rfl lengthFollows lengthRead) fun same => notPacked ⟨same, lengthFollows⟩
        next => cases turned
  · cases turned

theorem LengthAt.inside {field : Int} (lengthAt : LengthAt bytes index field length next) :
    index < bytes.length := by
  obtain ⟨tagRead, _, _, lengthRead⟩ := lengthAt
  have first := readVarint_returned tagRead
  omega

theorem GoesOn.inside (goesOn : GoesOn bytes wantedField index next) : index < bytes.length := by
  cases goesOn with
  | packed lengthAt => exact lengthAt.inside
  | number tagRead =>
    have first := readVarint_returned tagRead
    omega
  | bytes lengthAt => exact lengthAt.inside

/-- The turn at a field that is followed by another one, unless it runs out of turns. -/
theorem GoesOn.turn (goesOn : GoesOn bytes wantedField index next) :
    scanTurn fuel bytes wantedField (cards, index) = .unfinished ∨
      ∃ later, scanTurn fuel bytes wantedField (cards, index) = .returned (.again (later, next)) := by
  have inside := goesOn.inside
  unfold scanTurn
  dsimp only
  rw [if_pos inside]
  cases goesOn with
  | packed lengthAt numbers =>
    obtain ⟨tagRead, rfl, lengthFollows, lengthRead⟩ := lengthAt
    rw [tagRead, returned_bind]
    dsimp only
    rw [if_pos ⟨rfl, lengthFollows⟩, lengthRead, returned_bind]
    dsimp only
    obtain stuck | ⟨read, numbersRead⟩ := @NumbersEnd.readPacked _ _ _ _ fuel cards numbers
    · rw [stuck]
      exact .inl rfl
    · rw [numbersRead]
      exact .inr ⟨read, rfl⟩
  | number tagRead number valueRead =>
    rw [tagRead, returned_bind]
    dsimp only
    rw [if_neg (by omega), if_pos number, valueRead]
    exact .inr ⟨_, rfl⟩
  | bytes lengthAt other =>
    obtain ⟨tagRead, rfl, lengthFollows, lengthRead⟩ := lengthAt
    rw [tagRead, returned_bind]
    dsimp only
    rw [if_neg fun packed => other packed.1, if_neg (by omega), if_pos lengthFollows, lengthRead]
    exact .inr ⟨_, rfl⟩

/-- No tag in front of the bytes has a length behind it. -/
theorem LengthAt.nonneg {field : Int} (lengthAt : LengthAt bytes index field length next) : 0 ≤ index := by
  obtain ⟨tagRead, _, lengthFollows, _⟩ := lengthAt
  by_contra negative
  rw [readVarint_negative (by omega)] at tagRead
  cases tagRead
  cases lengthFollows

/-- A turn ends, with more turns for its packed numbers than there are bytes. -/
theorem scanTurn_finished (enough : bytes.length < fuel) :
    scanTurn fuel bytes wantedField (cards, index) ≠ .unfinished := by
  unfold scanTurn
  dsimp only
  split
  next =>
    cases tagRead : readVarint bytes index with
    | unfinished => exact absurd tagRead readVarint_finished
    | thrown error => simp
    | returned found =>
      obtain ⟨tag, afterTag⟩ := found
      rw [returned_bind]
      dsimp only
      -- the number behind the tag, a length or a value
      cases read : readVarint bytes afterTag with
      | unfinished => exact absurd read readVarint_finished
      | thrown error =>
        simp only [thrown_bind]
        split
        · simp
        · split
          · simp
          · split <;> simp
      | returned found =>
        obtain ⟨value, after⟩ := found
        simp only [returned_bind]
        split
        next packed =>
          have start := (LengthAt.mk tagRead packed.1 packed.2 read).nonneg
          have first := (readVarint_returned tagRead).1
          have second := (readVarint_returned read).1
          cases numbers : readPacked fuel bytes (after + value) cards after with
          | unfinished => exact absurd numbers (readPacked_finished (by omega) enough)
          | thrown error => simp
          | returned found => simp
        next =>
          split
          · simp
          · split <;> simp
  next => simp

/-! ## Which way it goes -/

/-- A turn goes ahead, unless it steps over a field whose length is below 0. -/
theorem GoesOn.ahead_or_over (goesOn : GoesOn bytes wantedField index next) :
    index < next ∨ ∃ field length after, LengthAt bytes index field length after ∧ field ≠ wantedField ∧
      length < 0 ∧ next = after + length := by
  cases goesOn with
  | packed lengthAt numbers =>
    obtain ⟨tagRead, _, _, lengthRead⟩ := lengthAt
    have first := readVarint_returned tagRead
    have second := readVarint_returned lengthRead
    have behind := numbers.le
    exact .inl (by omega)
  | number tagRead _ valueRead =>
    have first := readVarint_returned tagRead
    have second := readVarint_returned valueRead
    exact .inl (by omega)
  | @bytes field length after lengthAt other =>
    obtain negative | nonneg := lt_or_ge length 0
    · exact .inr ⟨field, length, after, lengthAt, other, negative, rfl⟩
    · obtain ⟨tagRead, _, _, lengthRead⟩ := lengthAt
      have first := readVarint_returned tagRead
      have second := readVarint_returned lengthRead
      exact .inl (by omega)

theorem GoesOn.lower (goesOn : GoesOn bytes wantedField index next) (low : -2 ^ 31 ≤ index) :
    -2 ^ 31 ≤ next := by
  obtain ahead | ⟨field, length, after, lengthAt, _, _, rfl⟩ := goesOn.ahead_or_over
  · exact low.trans ahead.le
  · have start := lengthAt.nonneg
    obtain ⟨tagRead, _, _, lengthRead⟩ := lengthAt
    have first := readVarint_returned tagRead
    have second := readVarint_returned lengthRead
    omega

theorem ComesTo.lower (comesTo : ComesTo bytes wantedField index) : -2 ^ 31 ≤ index := by
  induction comesTo with
  | refl => decide
  | tail _ goesOn low => exact goesOn.lower low

/-- Only a length below 0 leads back. -/
theorem GoesOn.forward (goesOn : GoesOn bytes wantedField index next)
    (returns : Relation.ReflTransGen (GoesOn bytes wantedField) next index)
    (notBack : ¬ LeadsBack bytes wantedField index) : index < next := by
  obtain ahead | ⟨field, length, after, lengthAt, other, negative, rfl⟩ := goesOn.ahead_or_over
  · exact ahead
  · exact absurd ⟨field, length, after, lengthAt, other, negative, returns⟩ notBack

/-- A circle of fields has one that leads back. -/
theorem no_circle (notBack : ∀ place, ComesTo bytes wantedField place → ¬ LeadsBack bytes wantedField place)
    (comesTo : ComesTo bytes wantedField index) : ¬ Relation.TransGen (GoesOn bytes wantedField) index index := by
  have climbs : ∀ next, Relation.TransGen (GoesOn bytes wantedField) index next →
      Relation.ReflTransGen (GoesOn bytes wantedField) next index → index < next := by
    intro next way
    induction way with
    | single goesOn => exact fun returns => goesOn.forward returns (notBack _ comesTo)
    | tail way goesOn inductionHypothesis =>
      intro returns
      have before := inductionHypothesis (.head goesOn returns)
      have after := goesOn.forward (returns.trans way.to_reflTransGen)
        (notBack _ (comesTo.trans way.to_reflTransGen))
      omega
  intro circle
  exact lt_irrefl _ (climbs index circle .refl)

theorem LeadsBack.circle (leadsBack : LeadsBack bytes wantedField index) :
    Relation.TransGen (GoesOn bytes wantedField) index index := by
  obtain ⟨field, length, after, lengthAt, other, _, returns⟩ := leadsBack
  exact .head' (.bytes lengthAt other) returns

/-! ## Whether it ends -/

/-- A scan on its way to a circle takes turn after turn. -/
theorem scan_endless {circle : Int} (way : Relation.ReflTransGen (GoesOn bytes wantedField) index circle)
    (around : Relation.TransGen (GoesOn bytes wantedField) circle circle) (turns : Nat) :
    loop (scanTurn fuel bytes wantedField) turns (cards, index) = .unfinished := by
  refine loop_endless
    (fun state => Relation.ReflTransGen (GoesOn bytes wantedField) state.2 circle) ?_ way
  intro ⟨cards, index⟩ way
  obtain ⟨next, goesOn, rest⟩ := Relation.TransGen.head'_iff.mp (Relation.TransGen.trans_right way around)
  obtain stuck | ⟨later, again⟩ := @GoesOn.turn _ _ _ _ fuel cards goesOn
  · exact .inl stuck
  · exact .inr ⟨(later, next), again, rest⟩

theorem scan_ends (notBack : ∀ place, ComesTo bytes wantedField place → ¬ LeadsBack bytes wantedField place)
    (enough : 2 ^ 31 + bytes.length < fuel) : cardsForField fuel bytes wantedField ≠ .unfinished := by
  have card : (Finset.Ico (-2 ^ 31) (bytes.length : Int)).card = 2 ^ 31 + bytes.length := by
    rw [Int.card_Ico]
    omega
  rw [cardsForField_eq]
  refine @loop_ends _ _ _ _ _ _ _ _ Prod.snd (Finset.Ico (-2 ^ 31) (bytes.length : Int))
    (GoesOn bytes wantedField) (fun state => ComesTo bytes wantedField state.2) ?_ ?_ .refl (by rwa [card])
  · intro ⟨cards, index⟩ comesTo
    refine ⟨scanTurn_finished (by omega), ?_⟩
    intro ⟨later, next⟩ again
    have goesOn := scanTurn_again again
    exact ⟨Finset.mem_Ico.mpr ⟨comesTo.lower, goesOn.inside⟩, goesOn, comesTo.tail goesOn⟩
  · intro state comesTo
    exact no_circle notBack comesTo

/-- The scan ends, with or without an error, exactly if it comes to no field that leads it
    back to itself. -/
theorem scan_ends_iff (bytes : Bytes) (wantedField : Int) :
    (∃ fuel, cardsForField fuel bytes wantedField ≠ .unfinished) ↔
      ∀ place, ComesTo bytes wantedField place → ¬ LeadsBack bytes wantedField place := by
  constructor
  · intro ⟨fuel, finished⟩ place comesTo leadsBack
    exact finished (scan_endless comesTo leadsBack.circle fuel)
  · intro notBack
    exact ⟨2 ^ 31 + bytes.length + 1, scan_ends notBack (Nat.lt_succ_self _)⟩

/-! ## Lengths below 0 -/

/-- The bytes at `index` read as a field that is not wanted and a length below 0. -/
def NegativeLength (bytes : Bytes) (wantedField index : Int) : Prop :=
  ∃ field length next, LengthAt bytes index field length next ∧ field ≠ wantedField ∧ length < 0

theorem LeadsBack.negative (leadsBack : LeadsBack bytes wantedField index) :
    NegativeLength bytes wantedField index := by
  obtain ⟨field, length, after, lengthAt, other, negative, _⟩ := leadsBack
  exact ⟨field, length, after, lengthAt, other, negative⟩

/-- Without lengths below 0 the scan does not come back to the header. -/
theorem ComesTo.behind_header (comesTo : ComesTo bytes wantedField index)
    (forward : ∀ index, 6 ≤ index → ¬ NegativeLength bytes wantedField index) : 6 ≤ index := by
  induction comesTo with
  | refl => exact le_refl 6
  | @tail middle next _ goesOn behind =>
    obtain ahead | ⟨field, length, after, lengthAt, other, negative, _⟩ := goesOn.ahead_or_over
    · omega
    · exact absurd ⟨field, length, after, lengthAt, other, negative⟩ (forward middle behind)

theorem forward_terminates (forward : ∀ index, 6 ≤ index → ¬ NegativeLength bytes wantedField index) :
    ∃ fuel, cardsForField fuel bytes wantedField ≠ .unfinished := by
  refine ⟨2 ^ 31 + bytes.length + 1, scan_ends ?_ (Nat.lt_succ_self _)⟩
  intro place comesTo leadsBack
  exact forward place (comesTo.behind_header forward) leadsBack.negative

/-! ## Ways back -/

section Fields

variable {number : Nat} {content : Content Bytes} {fields : List (Nat × Content Bytes)}

/-- A field that proto3 wrote is followed by what comes behind it. -/
theorem goesOn_field (upcoming : Upcoming id bytes finish index [] ((number, content) :: fields))
    (legible : (number : Int) = wantedField → ∀ value, content ≠ .bytes value) (short : bytes.length < 2 ^ 31) :
    ∃ next, GoesOn bytes wantedField index next ∧ Upcoming id bytes finish next [] fields := by
  obtain ⟨_, tag, after, tagRead, field, wireType, upcoming⟩ := upcoming.tag
  cases content with
  | number value =>
    obtain ⟨next, valueRead, upcoming⟩ := upcoming.value
    exact ⟨next, .number tagRead wireType valueRead, upcoming⟩
  | packed values =>
    obtain ⟨next, lengthRead, inside, behind⟩ := upcoming.length (upcoming.payload_short short)
    have lengthAt := LengthAt.mk tagRead field wireType lengthRead
    by_cases own : (number : Int) = wantedField
    · have packed := readPacked_numbers [] inside (Nat.lt_succ_self _)
      subst own
      exact ⟨_, .packed lengthAt (readPacked_returned packed), behind⟩
    · exact ⟨_, .bytes lengthAt own, behind⟩
  | bytes value =>
    obtain ⟨next, lengthRead, _, behind⟩ := upcoming.length (upcoming.payload_short short)
    exact ⟨_, .bytes (.mk tagRead field wireType lengthRead) fun own => legible own value rfl, behind⟩

/-- A wanted field of bytes would be read as packed numbers. -/
def Legible (wantedField : Int) (fields : List (Nat × Content Bytes)) : Prop :=
  ∀ field ∈ fields, (field.1 : Int) = wantedField → ∀ value, field.2 ≠ .bytes value

theorem goesOn_fields (upcoming : Upcoming id bytes finish index [] fields)
    (legible : Legible wantedField fields) (short : bytes.length < 2 ^ 31) :
    Relation.ReflTransGen (GoesOn bytes wantedField) index finish := by
  induction fields generalizing index with
  | nil =>
    have same : finish = index := by simpa [writeFields] using upcoming.finish
    rw [same]
  | cons field fields inductionHypothesis =>
    obtain ⟨next, goesOn, upcoming⟩ := goesOn_field upcoming (legible field List.mem_cons_self) short
    exact .head goesOn
      (inductionHypothesis upcoming fun field member => legible field (List.mem_cons_of_mem _ member))

end Fields

/-- The 32 bits of a number below 0, as a varint. -/
theorem wireNumber_back {back : Nat} (positive : 0 < back) (small : back ≤ 2 ^ 31) :
    wireNumber (2 ^ 32 - back) = -back ∧ (varint (2 ^ 32 - back)).length = 5 := by
  constructor
  · have bits : groupBits (varint (2 ^ 32 - back)) 0 0 = BitVec.ofNat 32 (0 + 2 ^ 0 * (2 ^ 32 - back)) :=
      groupBits_varint (by decide) (by omega)
    rw [wireNumber, bits, BitVec.toInt_eq_toNat_bmod, BitVec.toNat_ofNat, Int.bmod_def]
    omega
  · rw [varint_large (by omega), varint_large (by omega), varint_large (by omega), varint_large (by omega),
      varint_small (by omega)]
    rfl

/-- A message of whole fields, behind which comes one that is not wanted, with a length that
    leads back to the beginning of any of them, or to its own. -/
structure WayBack (bytes : Bytes) (wantedField : Int) where
  header : Bytes
  front : List (Nat × Content Bytes)
  again : List (Nat × Content Bytes)
  number : Nat
  rest : Bytes
  six : header.length = 6
  tags : ∀ field ∈ front ++ again, field.1 < 2 ^ 28
  legible : Legible wantedField (front ++ again)
  own : number < 2 ^ 28
  other : (number : Int) ≠ wantedField
  short : bytes.length < 2 ^ 31
  written : bytes = header ++ (writeFields id front ++ (writeFields id again ++
    (tag number 2 ++ (varint (2 ^ 32 - ((writeFields id again).length + (tag number 2).length + 5)) ++ rest))))

theorem WayBack.never_ends (way : WayBack bytes wantedField) (fuel : Nat) :
    cardsForField fuel bytes wantedField = .unfinished := by
  obtain ⟨header, front, again, number, rest, six, tags, legible, own, other, short, written⟩ := way
  generalize leads : (writeFields id again).length + (tag number 2).length + 5 = back at written
  have first : Ahead bytes 6 (writeFields id front ++ (writeFields id again ++
      (tag number 2 ++ (varint (2 ^ 32 - back) ++ rest)))) := ⟨header, written, by rw [six]; rfl⟩
  have second := first.skip
  have third := second.skip
  have fourth := third.skip
  have length := fourth.length_eq
  rw [List.length_append] at length
  obtain ⟨backwards, five⟩ : wireNumber (2 ^ 32 - back) = -back ∧ (varint (2 ^ 32 - back)).length = 5 := by
    apply wireNumber_back
    · omega
    · omega
  have tagRead := readVarint_varint third
  rw [wireNumber_small (by omega)] at tagRead
  have lengthRead := readVarint_varint fourth
  rw [backwards, five] at lengthRead
  -- from the first field to the one it comes back to, from there to the last, and back
  have before : Relation.ReflTransGen (GoesOn bytes wantedField) 6 (6 + (writeFields id front).length) := by
    refine goesOn_fields ⟨⟨_, first⟩, by simp, ?_⟩ ?_ short
    · exact fun field member => tags field (List.mem_append_left _ member)
    · exact fun field member => legible field (List.mem_append_left _ member)
  have around : Relation.ReflTransGen (GoesOn bytes wantedField) (6 + (writeFields id front).length)
      (6 + (writeFields id front).length + (writeFields id again).length) := by
    refine goesOn_fields ⟨⟨_, second⟩, by simp, ?_⟩ ?_ short
    · exact fun field member => tags field (List.mem_append_right _ member)
    · exact fun field member => legible field (List.mem_append_right _ member)
  have lengthAt : LengthAt bytes (6 + (writeFields id front).length + (writeFields id again).length) number
      (-back) _ := .mk tagRead (by omega) (by omega) lengthRead
  have goesBack := GoesOn.bytes lengthAt other
  have home : 6 + ((writeFields id front).length : Int) + (writeFields id again).length +
      (tag number 2).length + (5 : Nat) + -back = 6 + (writeFields id front).length := by
    omega
  rw [home] at goesBack
  exact scan_endless before (.tail' around goesBack) fuel

/-! ## Which messages it ends on -/

/-- A message that is cut off behind the tag of its second field. -/
def cutFrame : Bytes := [0, 0, 0, 9, 0, 19, 8, 5, 58]

/-- A room state with a field of length -6, whose tag and length are six bytes. -/
def backwardsFrame : Bytes := [0, 0, 0, 12, 0, 19, 10, 250, 255, 255, 255, 15]

end Doudizhu.Web
