import Doudizhu.Game.CardRules

/-! # One round

`GameRound` with its operations, as `game_round.cpp` writes them.  Seats are numbers:
a caller may pass any, and an access to `hands` with a seat that is none of the three
is a `Fault`.  `steady_clock::now()` is an argument.  `player_ids_` is not kept, no
operation reads it.
-/

namespace Doudizhu

/-- A reading of `steady_clock`, in nanoseconds. -/
abbrev Time : Type := Int

def seconds (number : Int) : Time := number * 1000000000

/-- An access that throws or is undefined in the source. -/
inductive Fault where
  | handsAt | emptyOptional | roomsAt | playerIdsAt
deriving DecidableEq, Repr

namespace Game

inductive GamePhase where
  | waitingPlayers | callLandlord | playCards | settled
deriving DecidableEq, Repr

structure GameRound where
  deal : DealResult := {}
  phase : GamePhase := .waitingPlayers
  currentSeat : Nat := 0
  callCount : Nat := 0
  lastCaller : Option Nat := none
  landlordSeat : Option Nat := none
  winnerSeat : Option Nat := none
  playStartedAt : Option Time := none
  lastPlay : Option Play := none
  lastPlaySeat : Option Nat := none
  lastPlayCards : List Card := []
  passCount : Nat := 0
deriving DecidableEq

namespace GameRound

variable {ρ : Type} (shuffler : Shuffler ρ)

/-- `deal_.hands.at(seat)`. -/
def hand (round : GameRound) (seat : Nat) : Except Fault (List Card) :=
  if inside : seat < 3 then .ok (round.deal.hands ⟨seat, inside⟩) else .error .handsAt

/-- Assign to `deal_.hands[seat]`. -/
def setHand (round : GameRound) (seat : Nat) (cards : List Card) : Except Fault GameRound :=
  if inside : seat < 3 then
    .ok { round with deal.hands := Function.update round.deal.hands ⟨seat, inside⟩ cards }
  else .error .handsAt

def start (round : GameRound) (random : ρ) : GameRound × ρ :=
  let (deal, random) := Deck.deal shuffler random
  ({ round with
      deal
      phase := .callLandlord
      currentSeat := 0
      callCount := 0
      lastCaller := none
      landlordSeat := none
      winnerSeat := none
      playStartedAt := none
      lastPlay := none
      lastPlaySeat := none
      lastPlayCards := []
      passCount := 0 }, random)

def callLandlord (round : GameRound) (seat : Nat) (call : Bool) (now : Time) (random : ρ) :
    Except Fault (Bool × GameRound × ρ) :=
  if round.phase ≠ .callLandlord ∨ seat ≠ round.currentSeat then .ok (false, round, random)
  else
    let round := { round with
      lastCaller := if call then some seat else round.lastCaller
      callCount := round.callCount + 1 }
    if round.callCount = 3 then
      match round.lastCaller with
      | none => .ok (true, round.start shuffler random)
      | some landlord => do
        let hand ← round.hand landlord
        let round ← round.setHand landlord (hand ++ round.deal.bottomCards)
        .ok (true, { round with
          landlordSeat := some landlord
          phase := .playCards
          playStartedAt := some now
          currentSeat := landlord
          lastPlay := none
          lastPlaySeat := none
          passCount := 0 }, random)
    else .ok (true, { round with currentSeat := (round.currentSeat + 1) % 3 }, random)

/-- The find-and-erase loop of `play_cards`. -/
def removeCards : List Card → List Card → Option (List Card)
  | remaining, [] => some remaining
  | remaining, card :: cards =>
    if card ∈ remaining then removeCards (remaining.erase card) cards else none

def playCards (round : GameRound) (seat : Nat) (cards : List Card) :
    Except Fault (Bool × GameRound) :=
  if round.phase ≠ .playCards ∨ seat ≠ round.currentSeat ∨ cards = [] then .ok (false, round)
  else
    let play := CardRules.analyze cards
    if play.pattern = .invalid then .ok (false, round)
    else if round.lastPlay.any fun last => !CardRules.canBeat play last then .ok (false, round)
    else do
      let hand ← round.hand seat
      match removeCards hand cards with
      | none => .ok (false, round)
      | some remaining =>
        let round ← round.setHand seat remaining
        let round := { round with
          lastPlay := some play
          lastPlaySeat := some seat
          lastPlayCards := cards
          passCount := 0 }
        if remaining = [] then
          .ok (true, { round with phase := .settled, winnerSeat := some seat })
        else .ok (true, { round with currentSeat := (seat + 1) % 3 })

def pass (round : GameRound) (seat : Nat) : Except Fault (Bool × GameRound) :=
  if round.phase ≠ .playCards ∨ seat ≠ round.currentSeat ∨ round.lastPlay = none ∨
      round.lastPlaySeat = some seat then .ok (false, round)
  else
    let round := { round with passCount := round.passCount + 1 }
    if round.passCount = 2 then
      match round.lastPlaySeat with
      | none => .error .emptyOptional
      | some leader =>
        .ok (true, { round with
          currentSeat := leader
          lastPlay := none
          lastPlaySeat := none
          lastPlayCards := []
          passCount := 0 })
    else .ok (true, { round with currentSeat := (seat + 1) % 3 })

def timeout (round : GameRound) (now : Time) (random : ρ) : Except Fault (Bool × GameRound × ρ) :=
  if round.phase = .callLandlord then
    round.callLandlord shuffler round.currentSeat false now random
  else if round.phase ≠ .playCards then .ok (false, round, random)
  else if round.lastPlay.isSome ∧ round.lastPlaySeat ≠ some round.currentSeat then do
    let (accepted, round) ← round.pass round.currentSeat
    .ok (accepted, round, random)
  else do
    match ← round.hand round.currentSeat with
    | [] => .ok (false, round, random)
    | card :: _ =>
      let (accepted, round) ← round.playCards round.currentSeat [card]
      .ok (accepted, round, random)

/-- Whole seconds since play started; zero before it did. -/
def durationSeconds (round : GameRound) (now : Time) : Int :=
  match round.playStartedAt with
  | none => 0
  | some started => (now - started).tdiv (seconds 1)

end GameRound

/-! ## Calls of the operations -/

inductive RoundOp where
  | callLandlord (seat : Nat) (call : Bool)
  | playCards (seat : Nat) (cards : List Card)
  | pass (seat : Nat)
  | timeout
deriving DecidableEq

/-- A round and the generator it deals from. -/
structure RoundState (ρ : Type) where
  round : GameRound
  random : ρ

variable {ρ : Type} (shuffler : Shuffler ρ)

def RoundOp.exec (op : RoundOp) (now : Time) (state : RoundState ρ) :
    Except Fault (Bool × RoundState ρ) :=
  match op with
  | .callLandlord seat call => do
    let (accepted, round, random) ← state.round.callLandlord shuffler seat call now state.random
    .ok (accepted, ⟨round, random⟩)
  | .playCards seat cards => do
    let (accepted, round) ← state.round.playCards seat cards
    .ok (accepted, ⟨round, state.random⟩)
  | .pass seat => do
    let (accepted, round) ← state.round.pass seat
    .ok (accepted, ⟨round, state.random⟩)
  | .timeout => do
    let (accepted, round, random) ← state.round.timeout shuffler now state.random
    .ok (accepted, ⟨round, random⟩)

end Game

end Doudizhu
