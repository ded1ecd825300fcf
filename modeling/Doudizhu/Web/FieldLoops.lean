import Doudizhu.Web.Varints

/-! # The loops over fields

What the loops of the browser come to on a message that proto3 wrote, field by field.  A
field of a number never puts a loop out of step; a length does not if it is below 2^31.
-/

namespace Doudizhu.Web

open Gateway Script Proto3

/-! ## Fields ahead -/

variable {β : Type} {raw : β → Bytes} {bytes first second : Bytes} {finish index : Int} {fuel : Nat}
  {number : Nat} {content : Content β} {fields : List (Nat × Content β)}

/-- Some bytes are ahead, then fields, up to `finish`. -/
structure Upcoming (raw : β → Bytes) (bytes : Bytes) (finish index : Int) (first : Bytes)
    (fields : List (Nat × Content β)) : Prop where
  ahead : ∃ rest, Ahead bytes index (first ++ (writeFields raw fields ++ rest))
  finish : finish = index + first.length + (writeFields raw fields).length
  /-- The tags are 32-bit numbers. -/
  numbers : ∀ field ∈ fields, field.1 < 2 ^ 28

theorem varint_length_pos (value : Nat) : 0 < (varint value).length :=
  List.length_pos_iff.mpr (varint_ne_nil value)

theorem length_flatMap_varint (values : List Nat) : values.length ≤ (values.flatMap varint).length := by
  induction values with
  | nil => exact Nat.le_refl 0
  | cons value values inductionHypothesis =>
    have positive := varint_length_pos value
    rw [List.flatMap_cons, List.length_append, List.length_cons]
    omega

theorem length_writeFields (raw : β → Bytes) (fields : List (Nat × Content β)) :
    fields.length ≤ (writeFields raw fields).length := by
  induction fields with
  | nil => exact Nat.le_refl 0
  | cons field fields inductionHypothesis =>
    have positive := varint_length_pos (8 * field.1 + field.2.wireType)
    rw [writeFields_cons, tag]
    simp only [List.length_append, List.length_cons]
    omega

namespace Upcoming

theorem skip (upcoming : Upcoming raw bytes finish index (first ++ second) fields) :
    Upcoming raw bytes finish (index + first.length) second fields := by
  obtain ⟨⟨rest, ahead⟩, finish, numbers⟩ := upcoming
  rw [List.append_assoc] at ahead
  refine ⟨⟨rest, ahead.skip⟩, ?_, numbers⟩
  rw [finish, List.length_append, Nat.cast_add]
  omega

/-- A number is read to its end. -/
theorem readVarint_eq {value : Nat}
    (upcoming : Upcoming raw bytes finish index (varint value ++ second) fields) :
    ∃ next, readVarint bytes index = .returned (wireNumber value, next) ∧
      Upcoming raw bytes finish next second fields := by
  obtain ⟨rest, ahead⟩ := upcoming.ahead
  rw [List.append_assoc] at ahead
  exact ⟨_, readVarint_varint ahead, upcoming.skip⟩

/-- The tag of the next field. -/
theorem tag (upcoming : Upcoming raw bytes finish index [] ((number, content) :: fields)) :
    index < finish ∧ ∃ (tag next : Int), readVarint bytes index = .returned (tag, next) ∧
      tag / 8 = number ∧ tag % 8 = content.wireType ∧
      Upcoming raw bytes finish next (content.write raw) fields := by
  have small : number < 2 ^ 28 := upcoming.numbers _ List.mem_cons_self
  have wireType : content.wireType ≤ 2 := by cases content <;> simp [Content.wireType]
  have opened : Upcoming raw bytes finish index
      (varint (8 * number + content.wireType) ++ content.write raw) fields := by
    obtain ⟨⟨rest, ahead⟩, finish, numbers⟩ := upcoming
    rw [writeFields_cons, Proto3.tag] at ahead finish
    refine ⟨⟨rest, ?_⟩, ?_, fun field member => numbers field (List.mem_cons_of_mem _ member)⟩
    · simpa only [List.nil_append, List.append_assoc] using ahead
    · rw [finish]
      simp only [List.length_append, List.length_nil]
      omega
  obtain ⟨next, read, rest⟩ := opened.readVarint_eq
  rw [wireNumber_small (by omega)] at read
  refine ⟨?_, _, next, read, ?_, ?_, rest⟩
  · have positive := varint_length_pos (8 * number + content.wireType)
    have finish := opened.finish
    rw [List.length_append] at finish
    omega
  · omega
  · omega

/-- The value of a number. -/
theorem value {value : Nat} (upcoming : Upcoming raw bytes finish index (varint value) fields) :
    ∃ next, readVarint bytes index = .returned (wireNumber value, next) ∧
      Upcoming raw bytes finish next [] fields := by
  rw [← List.append_nil (varint value)] at upcoming
  exact upcoming.readVarint_eq

/-- The length in front of a payload. -/
theorem length {payload : Bytes} (short : payload.length < 2 ^ 31)
    (upcoming : Upcoming raw bytes finish index (varint payload.length ++ payload) fields) :
    ∃ next, readVarint bytes index = .returned (payload.length, next) ∧
      Upcoming raw bytes finish next payload fields ∧
      Upcoming raw bytes finish (next + payload.length) [] fields := by
  obtain ⟨next, read, rest⟩ := upcoming.readVarint_eq
  rw [wireNumber_small short] at read
  refine ⟨next, read, rest, ?_⟩
  rw [← List.append_nil payload] at rest
  exact rest.skip

theorem finished (upcoming : Upcoming raw bytes finish index [] []) : ¬ index < finish := by
  have finish := upcoming.finish
  simp at finish
  omega

theorem first_length (upcoming : Upcoming raw bytes finish index first fields) :
    first.length ≤ bytes.length := by
  obtain ⟨rest, ahead⟩ := upcoming.ahead
  have length := ahead.length_eq
  have start := ahead.nonneg
  rw [List.length_append] at length
  omega

theorem payload_short {payload : Bytes} (short : bytes.length < 2 ^ 31)
    (upcoming : Upcoming raw bytes finish index (varint payload.length ++ payload) fields) :
    payload.length < 2 ^ 31 := by
  have inside := upcoming.first_length
  rw [List.length_append] at inside
  omega

/-- Every field takes a byte at least. -/
theorem fields_length (upcoming : Upcoming raw bytes finish index first fields) :
    fields.length ≤ bytes.length := by
  obtain ⟨rest, ahead⟩ := upcoming.ahead
  have length := ahead.length_eq
  have start := ahead.nonneg
  have fields := length_writeFields raw fields
  simp only [List.length_append] at length
  omega

end Upcoming

/-- The fields of a message, after the header. -/
theorem upcoming_message {header : Bytes} (six : header.length = 6)
    (numbers : ∀ field ∈ fields, field.1 < 2 ^ 28) :
    Upcoming raw (header ++ writeFields raw fields) (header ++ writeFields raw fields).length 6 []
      fields := by
  refine ⟨⟨[], header, by simp, by rw [six]; rfl⟩, ?_, numbers⟩
  rw [List.length_append, six]
  push_cast
  simp

/-! ## Single numbers -/

def numberStep (wantedField : Int) : Unit → Nat × Content β → Turn Unit (Option Int)
  | (), (number, .number value) =>
    if (number : Int) = wantedField then .done (some (wireNumber value)) else .again ()
  | (), _ => .done none

theorem readField_fields {wantedField : Int} (upcoming : Upcoming raw bytes bytes.length 6 [] fields)
    (enough : bytes.length < fuel) :
    readField fuel bytes wantedField =
      .returned (scan (numberStep wantedField) (fun () => none) () fields) := by
  unfold readField
  refine loop_scan (fun index () fields => Upcoming raw bytes bytes.length index [] fields) _ _ ?_ ?_
    upcoming (upcoming.fields_length.trans_lt enough)
  · intro index kept upcoming
    rw [if_neg upcoming.finished]
  · intro index kept ⟨number, content⟩ fields upcoming
    obtain ⟨before, tag, next, read, field, wireType, upcoming⟩ := upcoming.tag
    rw [if_pos before, read, returned_bind]
    cases content with
    | number value =>
      obtain ⟨next, readValue, upcoming⟩ := upcoming.value
      simp only [wireType, Content.wireType, field, readValue, numberStep]
      by_cases wanted : (number : Int) = wantedField
      · simp [wanted]
      · simpa [wanted] using upcoming
    | packed values | bytes value => simp [wireType, Content.wireType, numberStep]

section Scan

variable {wantedField : Int} (number : Nat)

theorem scan_nothing : scan (numberStep wantedField) (fun () => none) () ([] : List (Nat × Content β)) = none :=
  rfl

/-- A number is found unless it is 0, which is not written. -/
theorem scan_number (value : Nat) (others : List (Nat × Content β)) :
    scan (numberStep wantedField) (fun () => none) () (uintFields number value ++ others) =
      if (number : Int) = wantedField ∧ value ≠ 0 then some (wireNumber value)
      else scan (numberStep wantedField) (fun () => none) () others := by
  unfold uintFields
  by_cases zero : value = 0
  · simp [zero]
  · by_cases wanted : (number : Int) = wantedField
    · simp [zero, wanted, scan, numberStep]
    · simp [zero, wanted, scan, numberStep]

/-- Nothing is found behind packed numbers. -/
theorem scan_packed (values : List Nat) (others : List (Nat × Content β)) :
    scan (numberStep wantedField) (fun () => none) () (packedFields number values ++ others) =
      if values = [] then scan (numberStep wantedField) (fun () => none) () others else none := by
  unfold packedFields
  by_cases empty : values = []
  · simp [empty]
  · simp [empty, scan, numberStep]

theorem scan_others {fields : List (Nat × Content β)} (others : ∀ field ∈ fields, (field.1 : Int) ≠ wantedField) :
    scan (numberStep wantedField) (fun () => none) () fields = none := by
  induction fields with
  | nil => rfl
  | cons field fields inductionHypothesis =>
    obtain ⟨number, content⟩ := field
    cases content with
    | number value =>
      rw [scan, numberStep, if_neg (others _ List.mem_cons_self)]
      exact inductionHypothesis fun field member => others field (List.mem_cons_of_mem _ member)
    | packed values | bytes value => rfl

end Scan

/-! ## Packed numbers -/

theorem foldl_wireNumber (values : List Nat) (cards : List Int) :
    values.foldl (fun cards value => cards ++ [wireNumber value]) cards =
      cards ++ values.map wireNumber := by
  rw [List.foldl_append_eq_append, ← List.flatMap_def, ← List.map_eq_flatMap]

theorem readPacked_numbers (cards : List Int) {values : List Nat}
    (upcoming : Upcoming raw bytes finish index ((Content.packed values).payload raw) fields)
    (enough : bytes.length < fuel) :
    readPacked fuel bytes (index + ((Content.packed values).payload raw).length) cards index =
      .returned (cards ++ values.map wireNumber,
        index + ((Content.packed values).payload raw).length) := by
  have written : (Content.packed values).payload raw = values.flatMap varint := rfl
  rw [written] at upcoming ⊢
  unfold readPacked
  generalize stop : index + ((values.flatMap varint).length : Int) = packedEnd
  rw [← foldl_wireNumber]
  refine (loop_scan
    (fun state cards values => state.1 = cards ∧
      state.2 + ((values.flatMap varint).length : Int) = packedEnd ∧
      Upcoming raw bytes finish state.2 (values.flatMap varint) fields)
    (fun cards value => .again (cards ++ [wireNumber value])) (fun cards => (cards, packedEnd))
    ?_ ?_ ⟨rfl, stop, upcoming⟩
    ((length_flatMap_varint values).trans upcoming.first_length |>.trans_lt enough)).trans ?_
  · intro ⟨cards, index⟩ kept ⟨same, stop, _⟩
    simp at stop
    simp [stop, ← same]
  -- the length says how far to read, and each number ends inside
  · intro ⟨cards, index⟩ kept value values ⟨rfl, stop, upcoming⟩
    dsimp only at stop upcoming
    rw [List.flatMap_cons] at stop upcoming
    obtain ⟨next, read, after⟩ := upcoming.readVarint_eq
    have positive := varint_length_pos value
    have here := upcoming.finish
    have there := after.finish
    rw [List.length_append] at stop here
    have before : index < packedEnd := by omega
    refine ⟨(cards ++ [wireNumber value], next), ?_, rfl, by omega, after⟩
    simp [before, read]
  · rw [scan_foldl (fun _ _ _ => rfl)]

/-! ## Lists of cards -/

/-- The numbers of a field, packed or not. -/
def cardsOf (wantedField : Nat) : Nat × Content β → List Int
  | (number, .number value) => if number = wantedField then [wireNumber value] else []
  | (number, .packed values) => if number = wantedField then values.map wireNumber else []
  | (_, .bytes _) => []

theorem cardsForField_fields {wantedField : Nat} (upcoming : Upcoming raw bytes bytes.length 6 [] fields)
    (numbers : ∀ value, (wantedField, Content.bytes value) ∉ fields) (short : bytes.length < 2 ^ 31)
    (enough : bytes.length < fuel) :
    cardsForField fuel bytes wantedField = .returned (fields.flatMap (cardsOf wantedField)) := by
  unfold cardsForField
  refine (loop_scan
    (fun state cards fields => state.1 = cards ∧ Upcoming raw bytes bytes.length state.2 [] fields ∧
      ∀ value, (wantedField, Content.bytes value) ∉ fields)
    (fun cards field => .again (cards ++ cardsOf wantedField field)) id ?_ ?_
    ⟨rfl, upcoming, numbers⟩ (upcoming.fields_length.trans_lt enough)).trans ?_
  · intro ⟨cards, index⟩ kept ⟨same, upcoming, _⟩
    simp [upcoming.finished, ← same]
  · intro ⟨cards, index⟩ kept ⟨number, content⟩ fields ⟨rfl, upcoming, numbers⟩
    dsimp only at upcoming ⊢
    obtain ⟨before, tag, next, read, field, wireType, upcoming⟩ := upcoming.tag
    have others : ∀ value, (wantedField, Content.bytes value) ∉ fields :=
      fun value member => numbers value (List.mem_cons_of_mem _ member)
    rw [if_pos before, read, returned_bind]
    cases content with
    | number value =>
      obtain ⟨next, readValue, upcoming⟩ := upcoming.value
      refine ⟨(cards ++ cardsOf wantedField (number, .number value), next), ?_, rfl, upcoming, others⟩
      by_cases wanted : number = wantedField
      · simp [wireType, Content.wireType, field, readValue, wanted, cardsOf]
      · simp [wireType, Content.wireType, field, readValue, wanted, cardsOf]
    | packed values =>
      obtain ⟨next, readLength, inside, after⟩ := upcoming.length (upcoming.payload_short short)
      by_cases wanted : number = wantedField
      · refine ⟨(_, _), ?_, rfl, after, others⟩
        have packed := readPacked_numbers cards inside enough
        simp [wireType, Content.wireType, field, readLength, packed, wanted, cardsOf]
      · refine ⟨(_, _), ?_, rfl, after, others⟩
        simp [wireType, Content.wireType, field, readLength, wanted, cardsOf]
    -- it would be read as packed numbers
    | bytes value =>
      have other : number ≠ wantedField := by
        rintro rfl
        exact numbers value List.mem_cons_self
      obtain ⟨next, readLength, _, after⟩ := upcoming.length (upcoming.payload_short short)
      refine ⟨(_, _), ?_, rfl, after, others⟩
      simp [wireType, Content.wireType, field, readLength, other, cardsOf]
  · rw [scan_foldl (fun _ _ _ => rfl), List.foldl_append_eq_append, ← List.flatMap_def,
      List.nil_append, id]

/-! ## Hands -/

def dealNumber (cardField number : Nat) (value : Int) (kept : List Int × Option Int) :
    List Int × Option Int :=
  (if number = cardField then kept.1 ++ [value] else kept.1,
    if (cardField = 1 ∧ number = 2) ∨ (cardField = 6 ∧ number = 2) ∨ (cardField = 7 ∧ number = 2) then
      some value
    else kept.2)

/-- The loop of `showDeal` stops at bytes that are not the cards. -/
def dealStep (cardField : Nat) (kept : List Int × Option Int) :
    Nat × Content β → Turn (List Int × Option Int) (List Int × Option Int)
  | (number, .number value) => .again (dealNumber cardField number (wireNumber value) kept)
  | (number, .packed values) =>
    if number = cardField then .again (kept.1 ++ values.map wireNumber, kept.2) else .done kept
  | (_, .bytes _) => .done kept

/-- The fields up to the one where it stops can be read. -/
def DealLegible (cardField : Nat) : List (Nat × Content β) → Prop
  | [] => True
  | (_, .number _) :: fields => DealLegible cardField fields
  | (number, .packed values) :: fields =>
    number = cardField → (values.flatMap varint).length < 2 ^ 31 ∧ DealLegible cardField fields
  | (number, .bytes _) :: _ => number ≠ cardField

theorem readDeal_fields {cardField : Nat} (upcoming : Upcoming raw bytes bytes.length 6 [] fields)
    (legible : DealLegible cardField fields) (enough : bytes.length < fuel) :
    Browser.readDeal fuel bytes cardField =
      .returned (scan (dealStep cardField) id ([], none) fields) := by
  unfold Browser.readDeal
  refine loop_scan
    (fun state kept fields => (state.1, state.2.1) = kept ∧
      Upcoming raw bytes bytes.length state.2.2 [] fields ∧ DealLegible cardField fields)
    (dealStep cardField) id ?_ ?_ ⟨rfl, upcoming, legible⟩ (upcoming.fields_length.trans_lt enough)
  · intro ⟨cards, seat, index⟩ kept ⟨same, upcoming, _⟩
    simp [upcoming.finished, ← same]
  · intro ⟨cards, seat, index⟩ kept ⟨number, content⟩ fields ⟨rfl, upcoming, legible⟩
    dsimp only at upcoming ⊢
    obtain ⟨before, tag, next, read, field, wireType, upcoming⟩ := upcoming.tag
    rw [if_pos before, read, returned_bind]
    cases content with
    | number value =>
      obtain ⟨next, readValue, upcoming⟩ := upcoming.value
      refine ⟨((dealNumber cardField number (wireNumber value) (cards, seat)).1,
        (dealNumber cardField number (wireNumber value) (cards, seat)).2, next), ?_, rfl, upcoming, legible⟩
      have one : ((cardField : Int) = 1) ↔ cardField = 1 := by omega
      have seven : ((cardField : Int) = 7) ↔ cardField = 7 := by omega
      have six : ((cardField : Int) = 6) ↔ cardField = 6 := by omega
      have two : ((number : Int) = 2) ↔ number = 2 := by omega
      simp [wireType, Content.wireType, field, readValue, one, seven, six, two, dealNumber]
    | packed values =>
      by_cases wanted : number = cardField
      · obtain ⟨few, legible⟩ := legible wanted
        have short : ((Content.packed values).payload raw).length < 2 ^ 31 := few
        obtain ⟨next, readLength, inside, after⟩ := upcoming.length short
        have packed := readPacked_numbers cards inside enough
        simp only [dealStep, if_pos wanted]
        refine ⟨(_, _, _), ?_, rfl, after, legible⟩
        simp [wireType, Content.wireType, field, readLength, packed, wanted]
      -- `break`: what follows is not read
      · simp [wireType, Content.wireType, field, wanted, dealStep]
    | bytes value =>
      have other : number ≠ cardField := legible
      simp [wireType, Content.wireType, field, other, dealStep]

theorem dealLegible_of_short {cardField : Nat} (bytes : ∀ value, (cardField, Content.bytes value) ∉ fields)
    (short : (writeFields raw fields).length < 2 ^ 31) : DealLegible cardField fields := by
  induction fields with
  | nil => trivial
  | cons field fields inductionHypothesis =>
    obtain ⟨number, content⟩ := field
    rw [writeFields_cons, List.length_append, List.length_append] at short
    have others : DealLegible cardField fields := by
      apply inductionHypothesis
      · intro value member
        exact bytes value (List.mem_cons_of_mem _ member)
      · omega
    cases content with
    | number value => exact others
    | packed values =>
      intro _
      refine ⟨?_, others⟩
      have written : (Content.packed values).write raw =
          varint (values.flatMap varint).length ++ values.flatMap varint := rfl
      rw [written, List.length_append] at short
      omega
    | bytes value =>
      rintro rfl
      exact bytes value List.mem_cons_self

/-! ## Plays -/

/-- The loop of `applyPlayBroadcast`: the seat, whether it passed, and the cards. -/
def broadcastStep (kept : Option Int × Bool × List Int) :
    Nat × Content β → Turn (Option Int × Bool × List Int) (Option Int × Bool × List Int)
  | (number, .number value) =>
    .again (if number = 1 then some (wireNumber value) else kept.1,
      if number = 3 then wireNumber value != 0 else kept.2.1,
      if number = 2 then kept.2.2 ++ [wireNumber value] else kept.2.2)
  | (number, .packed values) =>
    if number = 2 then .again (kept.1, kept.2.1, kept.2.2 ++ values.map wireNumber) else .done kept
  | (_, .bytes _) => .done kept

theorem readBroadcast_fields (upcoming : Upcoming raw bytes bytes.length 6 [] fields)
    (legible : DealLegible 2 fields) (enough : bytes.length < fuel) :
    Browser.readBroadcast fuel bytes = .returned (scan broadcastStep id (none, false, []) fields) := by
  unfold Browser.readBroadcast
  refine loop_scan
    (fun state kept fields => (state.1, state.2.1, state.2.2.1) = kept ∧
      Upcoming raw bytes bytes.length state.2.2.2 [] fields ∧ DealLegible 2 fields)
    broadcastStep id ?_ ?_ ⟨rfl, upcoming, legible⟩ (upcoming.fields_length.trans_lt enough)
  · intro ⟨seat, passed, cards, index⟩ kept ⟨same, upcoming, _⟩
    simp [upcoming.finished, ← same]
  · intro ⟨seat, passed, cards, index⟩ kept ⟨number, content⟩ fields ⟨rfl, upcoming, legible⟩
    dsimp only at upcoming ⊢
    obtain ⟨before, tag, next, read, field, wireType, upcoming⟩ := upcoming.tag
    have one : ((number : Int) = 1) ↔ number = 1 := by omega
    have two : ((number : Int) = 2) ↔ number = 2 := by omega
    have three : ((number : Int) = 3) ↔ number = 3 := by omega
    rw [if_pos before, read, returned_bind]
    cases content with
    | number value =>
      obtain ⟨next, readValue, upcoming⟩ := upcoming.value
      refine ⟨(if number = 1 then some (wireNumber value) else seat,
        if number = 3 then wireNumber value != 0 else passed,
        if number = 2 then cards ++ [wireNumber value] else cards, next), ?_, rfl, upcoming, legible⟩
      simp [wireType, Content.wireType, field, readValue, one, two, three]
    | packed values =>
      by_cases wanted : number = 2
      · obtain ⟨few, legible⟩ := legible wanted
        have short : ((Content.packed values).payload raw).length < 2 ^ 31 := few
        obtain ⟨next, readLength, inside, after⟩ := upcoming.length short
        have packed := readPacked_numbers cards inside enough
        simp only [broadcastStep, if_pos wanted]
        refine ⟨(_, _, _, _), ?_, rfl, after, legible⟩
        simp [wireType, Content.wireType, field, readLength, packed, wanted]
      -- `break`: what follows is not read
      · simp [wireType, Content.wireType, field, two, wanted, broadcastStep]
    | bytes value =>
      have other : number ≠ 2 := legible
      simp [wireType, Content.wireType, field, two, other, broadcastStep]

/-! ## Players -/

/-- Exactly the name is bytes. -/
def PlayerLegible : Nat × Content Bytes → Prop
  | (number, .number _) => number ≠ 2
  | (_, .packed _) => False
  | (number, .bytes _) => number = 2

def playerField (text : SeatText) : Nat × Content Bytes → SeatText
  | (number, .number value) =>
    let text := if number = 1 then { text with seat := some (wireNumber value) } else text
    let text := if number = 3 then { text with online := wireNumber value != 0 } else text
    if number = 4 then { text with remaining := wireNumber value } else text
  | (_, .packed _) => text
  | (_, .bytes value) => { text with name := value }

theorem slice_ahead {rest : Bytes} (ahead : Ahead bytes index (first ++ rest)) :
    slice bytes index (index + first.length) = first := by
  obtain ⟨front, rfl, rfl⟩ := ahead
  have start : (min (front.length : Int) (front ++ (first ++ rest)).length).toNat = front.length := by
    simp only [List.length_append]
    omega
  have stop : (min ((front.length : Int) + first.length) (front ++ (first ++ rest)).length).toNat =
      (front ++ first).length := by
    simp only [List.length_append]
    omega
  have nonneg : ¬ (front.length : Int) < 0 := by omega
  have stop_nonneg : ¬ (front.length : Int) + first.length < 0 := by omega
  simp only [slice, if_neg nonneg, if_neg stop_nonneg, start, stop]
  rw [← List.append_assoc, List.take_left, List.drop_left]

theorem readPlayer_fields {fields : List (Nat × Content Bytes)}
    (upcoming : Upcoming id bytes finish index [] fields)
    (legible : ∀ field ∈ fields, PlayerLegible field) (short : bytes.length < 2 ^ 31)
    (enough : bytes.length < fuel) :
    Browser.readPlayer fuel bytes finish index = .returned (fields.foldl playerField {}, finish) := by
  unfold Browser.readPlayer
  refine (loop_scan
    (fun state text fields => state.1 = text ∧ Upcoming id bytes finish state.2 [] fields ∧
      ∀ field ∈ fields, PlayerLegible field)
    (fun text field => .again (playerField text field)) (fun text => (text, finish)) ?_ ?_
    ⟨rfl, upcoming, legible⟩ (upcoming.fields_length.trans_lt enough)).trans ?_
  · intro ⟨text, index⟩ kept ⟨same, upcoming, _⟩
    have stop := upcoming.finish
    simp at stop
    simp [← same, stop]
  · intro ⟨text, index⟩ kept ⟨number, content⟩ fields ⟨rfl, upcoming, legible⟩
    dsimp only at upcoming ⊢
    have own := legible _ List.mem_cons_self
    have others : ∀ field ∈ fields, PlayerLegible field :=
      fun field member => legible field (List.mem_cons_of_mem _ member)
    obtain ⟨before, tag, next, read, field, wireType, upcoming⟩ := upcoming.tag
    rw [if_pos before, read, returned_bind]
    cases content with
    | number value =>
      have other : number ≠ 2 := own
      obtain ⟨next, readValue, upcoming⟩ := upcoming.value
      refine ⟨(playerField text (number, .number value), next), ?_, rfl, upcoming, others⟩
      have one : ((number : Int) = 1) ↔ number = 1 := by omega
      have two : ((number : Int) = 2) ↔ number = 2 := by omega
      have three : ((number : Int) = 3) ↔ number = 3 := by omega
      have four : ((number : Int) = 4) ↔ number = 4 := by omega
      simp [field, readValue, one, two, three, four, other, playerField]
    | packed values => exact absurd own id
    | bytes value =>
      -- whatever the number, these bytes become the name
      have two : number = 2 := own
      obtain ⟨next, readLength, inside, after⟩ := upcoming.length (upcoming.payload_short short)
      obtain ⟨rest, ahead⟩ := inside.ahead
      have name := slice_ahead ahead
      refine ⟨(_, _), ?_, rfl, after, others⟩
      simp [field, readLength, name, two]
      rfl
  · rw [scan_foldl (fun _ _ _ => rfl)]

/-- The message of a player, inside that of the room. -/
theorem Upcoming.inner {inside : List (Nat × Content Bytes)}
    (upcoming : Upcoming raw bytes finish index (writeFields id inside) fields)
    (numbers : ∀ field ∈ inside, field.1 < 2 ^ 28) :
    Upcoming id bytes (index + (writeFields id inside).length) index [] inside := by
  obtain ⟨rest, ahead⟩ := upcoming.ahead
  refine ⟨⟨_, ahead⟩, ?_, numbers⟩
  rw [List.length_nil, Nat.cast_zero, add_zero]

def namesOf : Nat × Content (List (Nat × Content Bytes)) → List SeatText
  | (6, .bytes fields) => [fields.foldl playerField {}]
  | _ => []

/-- Exactly the players are messages. -/
def PlayersLegible : Nat × Content (List (Nat × Content Bytes)) → Prop
  | (_, .number _) => True
  | (number, .packed _) => number ≠ 6
  | (number, .bytes fields) =>
    number = 6 ∧ ∀ field ∈ fields, field.1 < 2 ^ 28 ∧ PlayerLegible field

theorem readNames_fields {fields : List (Nat × Content (List (Nat × Content Bytes)))}
    (upcoming : Upcoming (writeFields id) bytes bytes.length 6 [] fields)
    (legible : ∀ field ∈ fields, PlayersLegible field) (short : bytes.length < 2 ^ 31)
    (enough : bytes.length < fuel) :
    Browser.readNames fuel bytes = .returned (fields.flatMap namesOf) := by
  unfold Browser.readNames
  refine (loop_scan
    (fun state names fields => state.1 = names ∧
      Upcoming (writeFields id) bytes bytes.length state.2 [] fields ∧
      ∀ field ∈ fields, PlayersLegible field)
    (fun names field => .again (names ++ namesOf field)) id ?_ ?_
    ⟨rfl, upcoming, legible⟩ (upcoming.fields_length.trans_lt enough)).trans ?_
  · intro ⟨names, index⟩ kept ⟨same, upcoming, _⟩
    simp [upcoming.finished, ← same]
  · intro ⟨names, index⟩ kept ⟨number, content⟩ fields ⟨rfl, upcoming, legible⟩
    dsimp only at upcoming ⊢
    have own := legible _ List.mem_cons_self
    have others : ∀ field ∈ fields, PlayersLegible field :=
      fun field member => legible field (List.mem_cons_of_mem _ member)
    obtain ⟨before, tag, next, read, field, wireType, upcoming⟩ := upcoming.tag
    rw [if_pos before, read, returned_bind]
    cases content with
    | number value =>
      obtain ⟨next, readValue, upcoming⟩ := upcoming.value
      refine ⟨(_, _), ?_, rfl, upcoming, others⟩
      simp [wireType, Content.wireType, field, readValue, namesOf]
    | packed values =>
      have other : number ≠ 6 := own
      have six : ((number : Int) = 6) ↔ number = 6 := by omega
      obtain ⟨next, readLength, _, after⟩ := upcoming.length (upcoming.payload_short short)
      refine ⟨(_, _), ?_, rfl, after, others⟩
      simp [wireType, Content.wireType, field, readLength, six, other, namesOf]
    | bytes inside =>
      obtain ⟨six, players⟩ : number = 6 ∧ ∀ field ∈ inside, field.1 < 2 ^ 28 ∧ PlayerLegible field := own
      obtain ⟨next, readLength, message, after⟩ := upcoming.length (upcoming.payload_short short)
      have text : Browser.readPlayer fuel bytes
          (next + ((Content.bytes inside).payload (writeFields id)).length) next = .returned (_, _) :=
        readPlayer_fields (Upcoming.inner message fun field member => (players field member).1)
          (fun field member => (players field member).2) short enough
      refine ⟨(_, _), ?_, rfl, after, others⟩
      simp [wireType, Content.wireType, field, readLength, six, text, namesOf]
  · rw [scan_foldl (fun _ _ _ => rfl), List.foldl_append_eq_append, ← List.flatMap_def,
      List.nil_append, id]

end Doudizhu.Web
