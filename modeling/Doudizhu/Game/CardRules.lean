import Doudizhu.Lib.Tally
import Doudizhu.Game.Deck

/-! # Card patterns

`CardRules::analyze` and `CardRules::can_beat`.  The blocks of `analyze` keep their
order; each is a definition of its own that answers `none` where the source falls
through to the next block.
-/

namespace Doudizhu.Game

inductive CardPattern where
  | invalid | single | pair | triple | tripleWithSingle | tripleWithPair | straight
  | consecutivePairs | airplane | airplaneWithSingles | airplaneWithPairs
  | fourWithTwoSingles | fourWithTwoPairs | bomb | rocket
deriving DecidableEq, Repr

structure Play where
  pattern : CardPattern := .invalid
  mainRank : Rank := .three
  cardCount : Nat := 0
deriving DecidableEq, Repr

namespace CardRules

/-- `++counts[rank_value(card.rank)]` for every card. -/
def rankCounts (cards : List Card) : Tally Nat :=
  Tally.ofList (cards.map fun card => card.rank.value)

/-- `next->first == current->first + 1` all along the map. -/
def steps : List Nat → Bool
  | current :: next :: rest => next == current + 1 && steps (next :: rest)
  | _ => true

/-- `counts.rbegin()->first`; the map is not empty where it is read. -/
def lastKey (counts : Tally Nat) : Nat := counts.keys.getLast?.getD 0

def consecutive (counts : Tally Nat) : Bool :=
  !counts.entries.isEmpty && lastKey counts ≤ Rank.ace.value && steps counts.keys

/-- The loop of `airplane_main_rank`, with `attempts` starts left to try.  The bound on
    the start ends it: no start above the ace passes, so the twelve starts from `Three`
    are all there are. -/
def searchRun (counts : Tally Nat) (tripleCount : Nat) : Nat → Nat → Option Nat
  | 0, _ => none
  | attempts + 1, start =>
    if start + tripleCount - 1 ≤ Rank.ace.value then
      if (List.range tripleCount).all fun offset => counts.count (start + offset) == 3 then
        some start
      else searchRun counts tripleCount attempts (start + 1)
    else none

/-- The top of the lowest run of `tripleCount` ranks, none above the ace, with three
    cards each. -/
def airplaneMainRank (counts : Tally Nat) (tripleCount : Nat) : Option Rank :=
  (searchRun counts tripleCount 12 Rank.three.value).map fun start =>
    Rank.ofValue (start + tripleCount - 1)

/-- The loop that erases the ranks of the run ending in `mainRank`. -/
def eraseRun (counts : Tally Nat) (mainRank : Rank) (tripleCount : Nat) : Tally Nat :=
  (List.range' (mainRank.value + 1 - tripleCount) tripleCount).foldl Tally.erase counts

/-- `std::find_if` for the first rank with `number` cards. -/
def rankWith (counts : Tally Nat) (number : Nat) : Option Nat :=
  (counts.entries.find? fun entry => entry.2 == number).map Prod.fst

section Blocks

variable (counts : Tally Nat) (size : Nat)

def highestRank : Rank := Rank.ofValue (lastKey counts)

def rocket : Option Play :=
  if size = 2 ∧ counts.count Rank.smallJoker.value ≠ 0 ∧ counts.count Rank.bigJoker.value ≠ 0 then
    some ⟨.rocket, .bigJoker, size⟩
  else none

/-- The `switch` on the size when all cards share one rank; its default ends the analysis. -/
def oneRank : Option Play :=
  if counts.size = 1 then
    match size with
    | 1 => some ⟨.single, highestRank counts, size⟩
    | 2 => some ⟨.pair, highestRank counts, size⟩
    | 3 => some ⟨.triple, highestRank counts, size⟩
    | 4 => some ⟨.bomb, highestRank counts, size⟩
    | _ => some {}
  else none

def tripleWithSingle : Option Play := do
  let triple ← rankWith counts 3
  if size = 4 then some ⟨.tripleWithSingle, Rank.ofValue triple, size⟩ else none

def tripleWithPair : Option Play := do
  let triple ← rankWith counts 3
  let _ ← rankWith counts 2
  if size = 5 ∧ counts.size = 2 then some ⟨.tripleWithPair, Rank.ofValue triple, size⟩ else none

def fourWithTwoSingles : Option Play := do
  let four ← rankWith counts 4
  if size = 6 then some ⟨.fourWithTwoSingles, Rank.ofValue four, size⟩ else none

def fourWithTwoPairs : Option Play := do
  let four ← rankWith counts 4
  let remaining := counts.erase four
  if size = 8 ∧ remaining.size = 2 ∧ remaining.values.all (· == 2) then
    some ⟨.fourWithTwoPairs, Rank.ofValue four, size⟩
  else none

def straight : Option Play :=
  if 5 ≤ size ∧ counts.size = size ∧ consecutive counts then
    some ⟨.straight, highestRank counts, size⟩
  else none

def consecutivePairs : Option Play :=
  if 6 ≤ size ∧ size % 2 = 0 ∧ consecutive counts ∧ counts.values.all (· == 2) then
    some ⟨.consecutivePairs, highestRank counts, size⟩
  else none

def airplane : Option Play :=
  if 6 ≤ size ∧ size % 3 = 0 ∧ consecutive counts ∧ counts.values.all (· == 3) then
    some ⟨.airplane, highestRank counts, size⟩
  else none

def airplaneWithSingles : Option Play :=
  if 8 ≤ size ∧ size % 4 = 0 then do
    let mainRank ← airplaneMainRank counts (size / 4)
    let remaining := eraseRun counts mainRank (size / 4)
    if remaining.values.sum = size / 4 then some ⟨.airplaneWithSingles, mainRank, size⟩ else none
  else none

def airplaneWithPairs : Option Play :=
  if 10 ≤ size ∧ size % 5 = 0 then do
    let mainRank ← airplaneMainRank counts (size / 5)
    let remaining := eraseRun counts mainRank (size / 5)
    if remaining.size = size / 5 ∧ remaining.values.all (· == 2) then
      some ⟨.airplaneWithPairs, mainRank, size⟩
    else none
  else none

/-- The blocks of `analyze` in their order. -/
def blocks : Option Play :=
  rocket counts size <|> oneRank counts size <|> tripleWithSingle counts size <|>
    tripleWithPair counts size <|> fourWithTwoSingles counts size <|>
    fourWithTwoPairs counts size <|> straight counts size <|> consecutivePairs counts size <|>
    airplane counts size <|> airplaneWithSingles counts size <|> airplaneWithPairs counts size

end Blocks

def analyze (cards : List Card) : Play :=
  if cards.isEmpty then {} else (blocks (rankCounts cards) cards.length).getD {}

def canBeat (current previous : Play) : Bool :=
  if current.pattern = .invalid ∨ previous.pattern = .invalid then false
  else if current.pattern = .rocket then previous.pattern ≠ .rocket
  else if current.pattern = .bomb then
    previous.pattern ≠ .rocket &&
      (previous.pattern ≠ .bomb || previous.mainRank.value < current.mainRank.value)
  else
    current.pattern = previous.pattern && current.cardCount = previous.cardCount &&
      previous.mainRank.value < current.mainRank.value

/-- A single card is always a pattern. -/
theorem analyze_singleton (card : Card) :
    analyze [card] = { pattern := .single, mainRank := card.rank, cardCount := 1 } := by
  have counts : (rankCounts [card]).entries = [(card.rank.value, 1)] := rfl
  simp [analyze, blocks, rocket, oneRank, Tally.size, counts, highestRank, lastKey, Tally.keys]

end CardRules

end Doudizhu.Game
