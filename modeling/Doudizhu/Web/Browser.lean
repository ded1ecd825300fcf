import Mathlib.Data.List.Sort
import Doudizhu.Lib.Script
import Doudizhu.Gateway.Protocol

/-! # The browser client

The script of `index.html`, as far as it handles messages: what it reads of their bytes, and
what it keeps and shows.  Texts that nothing reads are left out, and so are the requests of
`loadProfile`.

Numbers are integers.  The bit operations of JavaScript are those on 32 bits, signed, with
shift counts modulo 32: for such a number `>> 3` is division by 8, and `& 7` the remainder.
An index may become negative; what is read there is `undefined`, whose bits are 0.  Every
loop is given the same number of turns, `fuel`.
-/

namespace Doudizhu.Web

open Gateway Script

/-- What a script throws. -/
inductive Thrown where
  | invalidVarint
  /-- Of `getUint16`. -/
  | rangeError
deriving DecidableEq

abbrev Run (α : Type) : Type := Outcome Thrown α

/-! ## Reading bytes -/

/-- The bits of `bytes[index]`. -/
def byteAt (bytes : Bytes) (index : Int) : Nat :=
  if 0 ≤ index then (bytes.getD index.toNat 0).toNat else 0

/-- The loop of `readVarint`, with that many bytes from `index` to the end. -/
def readVarintFrom (bytes : Bytes) : Nat → Int → Nat → BitVec 32 → Run (Int × Int)
  | 0, _, _, _ => .thrown .invalidVarint
  | remaining + 1, index, shift, value =>
    let byte := byteAt bytes index
    let value := value ||| (BitVec.ofNat 32 (byte % 128) <<< (shift % 32))
    if byte < 128 then .returned (value.toInt, index + 1)
    else readVarintFrom bytes remaining (index + 1) (shift + 7) value

def readVarint (bytes : Bytes) (index : Int) : Run (Int × Int) :=
  readVarintFrom bytes (bytes.length - index).toNat index 0 0

/-- The numbers up to `finish`. -/
def readPacked (fuel : Nat) (bytes : Bytes) (finish : Int) (cards : List Int) (index : Int) :
    Run (List Int × Int) :=
  loop (fun ((cards, index) : List Int × Int) =>
    if index < finish then do
      let (value, index) ← readVarint bytes index
      .returned (.again (cards ++ [value], index))
    else .returned (.done (cards, index))) fuel (cards, index)

def readField (fuel : Nat) (bytes : Bytes) (wantedField : Int) : Run (Option Int) :=
  loop (fun (index : Int) =>
    if index < bytes.length then do
      let (tag, index) ← readVarint bytes index
      if tag % 8 ≠ 0 then .returned (.done none)
      else
        let (value, index) ← readVarint bytes index
        if tag / 8 = wantedField then .returned (.done (some value)) else .returned (.again index)
    else .returned (.done none)) fuel 6

def cardsForField (fuel : Nat) (bytes : Bytes) (wantedField : Int) : Run (List Int) :=
  loop (fun ((cards, index) : List Int × Int) =>
    if index < bytes.length then do
      let (tag, index) ← readVarint bytes index
      let field := tag / 8
      let wireType := tag % 8
      if field = wantedField ∧ wireType = 2 then
        let (length, index) ← readVarint bytes index
        let (cards, index) ← readPacked fuel bytes (index + length) cards index
        .returned (.again (cards, index))
      else if wireType = 0 then
        let (value, index) ← readVarint bytes index
        .returned (.again (if field = wantedField then cards ++ [value] else cards, index))
      -- bytes of another field are stepped over
      else if wireType = 2 then
        let (length, index) ← readVarint bytes index
        .returned (.again (cards, index + length))
      else .returned (.done cards)
    else .returned (.done cards)) fuel ([], 6)

/-- `bytes.slice(start, finish)`: a negative place is counted from the end. -/
def slice (bytes : Bytes) (start finish : Int) : Bytes :=
  let place (index : Int) : Nat :=
    (if index < 0 then max (bytes.length + index) 0 else min index bytes.length).toNat
  (bytes.take (place finish)).drop (place start)

/-! ## What the page keeps -/

/-- The text of a seat.  The name is what `TextDecoder` is given. -/
structure SeatText where
  seat : Option Int := none
  name : Bytes := []
  online : Bool := true
  remaining : Int := 0
deriving DecidableEq

structure Browser where
  handCodes : List Int := []
  selectedCards : List Int := []
  playerSeat : Option Int := none
  currentSeat : Option Int := none
  phase : Int := 0
  actionDeadline : Option Int := none
  loggedIn : Bool := false
  reconnectAfterLogin : Bool := false
  /-- The texts of the seats, and the seat that is marked as the landlord's. -/
  seats : List SeatText := []
  landlordSeat : Option Int := none
  bottomCards : List Int := []
  lastPlay : Option (Option Int × List Int) := none
  /-- What the dialog says: whether the game was won, and the change of coins. -/
  settlement : Option (Bool × Int) := none
  /-- The ids of the messages that the handlers sent. -/
  sent : List Nat := []
deriving DecidableEq

/-- `value || otherwise` -/
def orElse (value : Option Int) (otherwise : Int) : Int :=
  match value with
  | none => otherwise
  | some value => if value = 0 then otherwise else value

/-- Keep a value that was not found. -/
def found (value old : Option Int) : Option Int :=
  match value with
  | none => old
  | some value => some value

namespace Browser

/-! ## Messages -/

/-- The loop of `showDeal`: the cards and the seat. -/
def readDeal (fuel : Nat) (bytes : Bytes) (cardField : Int) : Run (List Int × Option Int) :=
  loop (fun ((cards, seat, index) : List Int × Option Int × Int) =>
    if index < bytes.length then do
      let (tag, index) ← readVarint bytes index
      let field := tag / 8
      let wireType := tag % 8
      if field = cardField ∧ wireType = 2 then
        let (length, index) ← readVarint bytes index
        let (cards, index) ← readPacked fuel bytes (index + length) cards index
        .returned (.again (cards, seat, index))
      -- here they end the loop
      else if wireType ≠ 0 then .returned (.done (cards, seat))
      else
        let (value, index) ← readVarint bytes index
        let cards := if field = cardField then cards ++ [value] else cards
        let seat :=
          if (cardField = 1 ∧ field = 2) ∨ (cardField = 6 ∧ field = 2) ∨ (cardField = 7 ∧ field = 2) then
            some value
          else seat
        .returned (.again (cards, seat, index))
    else .returned (.done (cards, seat))) fuel ([], none, 6)

def showDeal (browser : Browser) (fuel : Nat) (bytes : Bytes) (cardField : Int) : Run Browser := do
  let (cards, seat) ← readDeal fuel bytes cardField
  let browser := { browser with playerSeat := found seat browser.playerSeat }
  let dealtCurrentSeat ← readField fuel bytes (if cardField = 7 then 4 else 3)
  let browser := { browser with currentSeat := found dealtCurrentSeat browser.currentSeat }
  let browser := if cardField = 1 then { browser with phase := 1 } else browser
  let browser ← if cardField = 7 then do
      let phase ← readField fuel bytes 3
      .returned { browser with phase := orElse phase browser.phase }
    else .returned browser
  .returned { browser with
    -- `sort` is stable
    handCodes := cards.insertionSort fun left right => right - left ≤ 0
    selectedCards := [] }

/-- The loop of `showRoomState` over the fields of a player. -/
def readPlayer (fuel : Nat) (bytes : Bytes) (finish index : Int) : Run (SeatText × Int) :=
  loop (fun ((text, index) : SeatText × Int) =>
    if index < finish then do
      let (nestedTag, index) ← readVarint bytes index
      let nestedField := nestedTag / 8
      -- a number is read whatever the wire type is
      let (nestedLengthOrValue, index) ← readVarint bytes index
      let text : SeatText :=
        if nestedField = 1 then { text with seat := some nestedLengthOrValue } else text
      let text := if nestedField = 3 then { text with online := nestedLengthOrValue != 0 } else text
      let text := if nestedField = 4 then { text with remaining := nestedLengthOrValue } else text
      if nestedField = 2 then
        let textEnd := index + nestedLengthOrValue
        .returned (.again ({ text with name := slice bytes index textEnd }, textEnd))
      else .returned (.again (text, index))
    else .returned (.done (text, index))) fuel ({}, index)

/-- The loop of `showRoomState` over the fields of the message. -/
def readNames (fuel : Nat) (bytes : Bytes) : Run (List SeatText) :=
  loop (fun ((names, index) : List SeatText × Int) =>
    if index < bytes.length then do
      let (tag, index) ← readVarint bytes index
      let field := tag / 8
      let wireType := tag % 8
      if field = 6 ∧ wireType = 2 then
        let (length, index) ← readVarint bytes index
        let (text, index) ← readPlayer fuel bytes (index + length) index
        .returned (.again (names ++ [text], index))
      else if wireType = 2 then
        let (length, index) ← readVarint bytes index
        .returned (.again (names, index + length))
      else if wireType = 0 then
        let (_, index) ← readVarint bytes index
        .returned (.again (names, index))
      else .returned (.done names)
    else .returned (.done names)) fuel ([], 6)

def showRoomState (browser : Browser) (fuel : Nat) (now : Int) (bytes : Bytes) : Run Browser := do
  let names ← readNames fuel bytes
  let statePhase ← readField fuel bytes 3
  let stateCurrentSeat ← readField fuel bytes 4
  let landlordSeat ← readField fuel bytes 5
  let browser := { browser with
    phase := statePhase.getD browser.phase
    currentSeat := found stateCurrentSeat browser.currentSeat
    seats := names
    landlordSeat }
  let remainingSeconds ← readField fuel bytes 11
  let browser := { browser with
    actionDeadline := found (remainingSeconds.map fun seconds => now + seconds * 1000) browser.actionDeadline }
  let bottom ← cardsForField fuel bytes 8
  let lastCards ← cardsForField fuel bytes 10
  let browser := { browser with bottomCards := bottom }
  if lastCards ≠ [] then do
    let seat ← readField fuel bytes 9
    .returned { browser with lastPlay := some (seat, lastCards) }
  else .returned { browser with lastPlay := none }

/-- The loop of `applyPlayBroadcast`: the seat, whether it passed, and the cards. -/
def readBroadcast (fuel : Nat) (bytes : Bytes) : Run (Option Int × Bool × List Int) :=
  loop (fun ((seat, passed, cards, index) : Option Int × Bool × List Int × Int) =>
    if index < bytes.length then do
      let (tag, index) ← readVarint bytes index
      let field := tag / 8
      let wireType := tag % 8
      if field = 2 ∧ wireType = 2 then
        let (length, index) ← readVarint bytes index
        let (cards, index) ← readPacked fuel bytes (index + length) cards index
        .returned (.again (seat, passed, cards, index))
      else if wireType ≠ 0 then .returned (.done (seat, passed, cards))
      else
        let (value, index) ← readVarint bytes index
        .returned (.again
          (if field = 1 then some value else seat,
            if field = 3 then value != 0 else passed,
            if field = 2 then cards ++ [value] else cards, index))
    else .returned (.done (seat, passed, cards))) fuel (none, false, [], 6)

def applyPlayBroadcast (browser : Browser) (fuel : Nat) (bytes : Bytes) : Run Browser := do
  let (seat, passed, cards) ← readBroadcast fuel bytes
  let browser :=
    if seat = browser.playerSeat ∧ !passed then
      { browser with
        handCodes := browser.handCodes.filter fun code => !cards.contains code
        selectedCards := [] }
    else browser
  let nextSeat ← readField fuel bytes 4
  .returned { browser with currentSeat := found nextSeat browser.currentSeat, phase := 2 }

/-- A field that is not there is `null`, which is not 0. -/
def applyCallLandlord (browser : Browser) (fuel : Nat) (bytes : Bytes) : Run Browser := do
  let _actor ← readField fuel bytes 5
  let _called ← readField fuel bytes 6
  let started ← readField fuel bytes 3
  let _landlord ← readField fuel bytes 4
  let nextSeat ← readField fuel bytes 2
  let browser := { browser with currentSeat := found nextSeat browser.currentSeat }
  .returned (if started ≠ some 0 then { browser with phase := 2 } else browser)

def applySettlement (browser : Browser) (fuel : Nat) (bytes : Bytes) : Run Browser := do
  let win ← readField fuel bytes 1
  let change ← readField fuel bytes 2
  .returned { browser with
    handCodes := []
    selectedCards := []
    currentSeat := none
    phase := 0
    actionDeadline := none
    bottomCards := []
    lastPlay := none
    settlement := some (win ≠ some 0, orElse change 0) }

/-- The branch for `S2C_TIMEOUT_ACTION`. -/
def applyTimeout (browser : Browser) (fuel : Nat) (bytes : Bytes) : Run Browser := do
  let nextSeat ← readField fuel bytes 3
  let browser := { browser with currentSeat := found nextSeat browser.currentSeat }
  let phase ← readField fuel bytes 2
  let _actor ← readField fuel bytes 1
  .returned { browser with phase := orElse phase browser.phase }

/-- The branch for `S2C_LOGIN_RET`. -/
def applyLogin (browser : Browser) : Browser :=
  let browser := { browser with loggedIn := true }
  if browser.reconnectAfterLogin then
    { browser with reconnectAfterLogin := false, sent := browser.sent ++ [14] }
  else browser

/-- `socket.onmessage` -/
def onmessage (browser : Browser) (fuel : Nat) (now : Int) (bytes : Bytes) : Run Browser := do
  if bytes.length < 6 then .thrown .rangeError
  else
    let messageId := 2 ^ 8 * (bytes.getD 4 0).toNat + (bytes.getD 5 0).toNat
    if messageId = 13 then browser.showDeal fuel bytes 1
    else if messageId = 15 then browser.showDeal fuel bytes 6
    else if messageId = 19 then do
      -- the one message that two handlers read
      let browser ← browser.showDeal fuel bytes 7
      browser.showRoomState fuel now bytes
    else if messageId = 17 then browser.applyPlayBroadcast fuel bytes
    else if messageId = 8 then browser.applyCallLandlord fuel bytes
    else if messageId = 16 then browser.applySettlement fuel bytes
    else if messageId = 18 then browser.applyTimeout fuel bytes
    else if messageId = 2 then .returned browser.applyLogin
    else .returned browser

end Browser

end Doudizhu.Web
