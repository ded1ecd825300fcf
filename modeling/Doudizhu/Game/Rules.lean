import Doudizhu.Lib.Steps
import Doudizhu.Game.Combinations

/-! # The game by its rules

What a round is meant to be, with the cards of a hand in no order: three seats bid, the
last one that calls takes the bottom cards and leads, plays rise until two seats have
passed, and the first seat without a card has won.
-/

namespace Doudizhu.Game.Rules

/-! ## The table -/

/-- Seventeen cards for each seat and the rest of the deck. -/
structure Deal where
  hands : Fin 3 → Multiset Card
  bottom : Multiset Card
  size : ∀ seat, (hands seat).card = 17
  whole : hands 0 + hands 1 + hands 2 + bottom = createCards

/-- The cards to beat, and whether a seat has passed on them. -/
structure Trick where
  leader : Fin 3
  top : Multiset Card
  passed : Bool

def Trick.passes (trick : Trick) : Nat := if trick.passed then 1 else 0

inductive Table where
  | bidding (deal : Deal) (turn : Fin 3) (bidder : Option (Fin 3))
  | playing (landlord turn : Fin 3) (hands : Fin 3 → Multiset Card) (trick : Option Trick)
  | won (landlord winner : Fin 3) (hands : Fin 3 → Multiset Card)

/-- The cards are dealt, and the first seat is asked. -/
def Deal.table (deal : Deal) : Table := .bidding deal (seatAt 0) none

/-- Whose turn it is; when the game is won, who has won it. -/
def Table.turn : Table → Fin 3
  | .bidding _ turn _ | .playing _ turn _ _ => turn
  | .won _ winner _ => winner

def Table.landlord : Table → Option (Fin 3)
  | .bidding _ _ _ => none
  | .playing landlord _ _ _ | .won landlord _ _ => some landlord

inductive Act where
  | call (seat : Fin 3) (wants : Bool)
  | play (seat : Fin 3) (cards : Multiset Card)
  | pass (seat : Fin 3)

def Act.seat : Act → Fin 3
  | .call seat _ | .play seat _ | .pass seat => seat

/-- Any combination leads, and what follows beats the cards on the table. -/
def Allowed (cards : Multiset Card) : Option Trick → Prop
  | none => ∃ pattern rank, Forms pattern rank (ranks cards)
  | some trick => Beats cards trick.top

/-- The last seat that has called. -/
def bid (bidder : Option (Fin 3)) (seat : Fin 3) (wants : Bool) : Option (Fin 3) :=
  if wants then some seat else bidder

/-! ## The rules -/

inductive Rule : Table → Act → Table → Prop where
  | answer {deal : Deal} {turn : Fin 3} {bidder : Option (Fin 3)} {wants : Bool} : turn ≠ 2 →
      Rule (.bidding deal turn bidder) (.call turn wants)
        (.bidding deal (turn + 1) (bid bidder turn wants))
  | redeal {deal again : Deal} : Rule (.bidding deal 2 none) (.call 2 false) again.table
  | landlord {deal : Deal} {bidder : Option (Fin 3)} {wants : Bool} {seat : Fin 3} :
      bid bidder 2 wants = some seat →
      Rule (.bidding deal 2 bidder) (.call 2 wants)
        (.playing seat seat (Function.update deal.hands seat (deal.hands seat + deal.bottom)) none)
  | play {landlord turn : Fin 3} {hands : Fin 3 → Multiset Card} {trick : Option Trick}
      {cards : Multiset Card} : Allowed cards trick → cards < hands turn →
      Rule (.playing landlord turn hands trick) (.play turn cards)
        (.playing landlord (turn + 1) (Function.update hands turn (hands turn - cards))
          (some ⟨turn, cards, false⟩))
  | finish {landlord turn : Fin 3} {hands : Fin 3 → Multiset Card} {trick : Option Trick} :
      Allowed (hands turn) trick →
      Rule (.playing landlord turn hands trick) (.play turn (hands turn))
        (.won landlord turn (Function.update hands turn 0))
  | pass {landlord turn leader : Fin 3} {hands : Fin 3 → Multiset Card} {top : Multiset Card} :
      Rule (.playing landlord turn hands (some ⟨leader, top, false⟩)) (.pass turn)
        (.playing landlord (turn + 1) hands (some ⟨leader, top, true⟩))
  | clear {landlord turn leader : Fin 3} {hands : Fin 3 → Multiset Card} {top : Multiset Card} :
      Rule (.playing landlord turn hands (some ⟨leader, top, true⟩)) (.pass turn)
        (.playing landlord leader hands none)

/-! ## Whose move it is -/

section Moves

variable {table next : Table} {seat : Fin 3}

theorem Rule.turn_eq {act : Act} (rule : Rule table act next) : table.turn = act.seat := by
  cases rule <;> rfl

theorem Rule.of_call {wants : Bool} (rule : Rule table (.call seat wants) next) :
    ∃ deal bidder, table = .bidding deal seat bidder := by
  cases rule with
  | answer | redeal | landlord => exact ⟨_, _, rfl⟩

theorem Rule.of_play {cards : Multiset Card} (rule : Rule table (.play seat cards) next) :
    ∃ landlord hands trick, table = .playing landlord seat hands trick ∧ Allowed cards trick ∧
      cards ≤ hands seat := by
  cases rule with
  | play allowed fewer => exact ⟨_, _, _, rfl, allowed, fewer.le⟩
  | finish allowed => exact ⟨_, _, _, rfl, allowed, le_rfl⟩

theorem Rule.of_pass (rule : Rule table (.pass seat) next) :
    ∃ landlord hands trick, table = .playing landlord seat hands (some trick) := by
  cases rule with
  | pass | clear => exact ⟨_, _, _, rfl⟩

end Moves

/-- A game from a deal on. -/
def Run (deal : Deal) (acts : List Act) (table : Table) : Prop :=
  Transition.Steps Rule deal.table acts table

end Doudizhu.Game.Rules
