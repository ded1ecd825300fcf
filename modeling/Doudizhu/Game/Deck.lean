import Mathlib.Data.List.Perm.Basic
import Mathlib.Data.List.Count
import Mathlib.Data.Fintype.Pi
import Mathlib.Tactic.FinCases
import Mathlib.Tactic.IntervalCases

/-! # Cards and the deal

`Rank`, `Card`, `createCards` and `Deck::deal`.  `std::shuffle` with the gateway's
`mt19937` is a `Shuffler`: any function of the generator's state that permutes its
input.
-/

namespace Doudizhu.Game

inductive Rank where
  | three | four | five | six | seven | eight | nine | ten
  | jack | queen | king | ace | two | smallJoker | bigJoker
deriving DecidableEq, Repr

/-- The enumerator's number, `static_cast<std::uint8_t>(rank)`. -/
def Rank.value : Rank → Nat
  | .three => 3 | .four => 4 | .five => 5 | .six => 6 | .seven => 7 | .eight => 8
  | .nine => 9 | .ten => 10 | .jack => 11 | .queen => 12 | .king => 13 | .ace => 14
  | .two => 15 | .smallJoker => 16 | .bigJoker => 17

/-- `static_cast<Rank>(value)`.  The source casts numbers of ranks only, so what the
    last case returns is never seen. -/
def Rank.ofValue : Nat → Rank
  | 3 => .three | 4 => .four | 5 => .five | 6 => .six | 7 => .seven | 8 => .eight
  | 9 => .nine | 10 => .ten | 11 => .jack | 12 => .queen | 13 => .king | 14 => .ace
  | 15 => .two | 16 => .smallJoker | _ => .bigJoker

@[simp] theorem Rank.ofValue_value (rank : Rank) : Rank.ofValue rank.value = rank := by
  cases rank <;> rfl

theorem Rank.value_bounds (rank : Rank) : 3 ≤ rank.value ∧ rank.value ≤ 17 := by
  cases rank <;> decide

theorem Rank.value_ofValue {value : Nat} (lower : 3 ≤ value) (upper : value ≤ 17) :
    (Rank.ofValue value).value = value := by
  interval_cases value <;> rfl

structure Card where
  rank : Rank
  suit : Nat
deriving DecidableEq, Repr

def createCards : List Card :=
  ((List.range' Rank.three.value 13).flatMap fun rank =>
    (List.range 4).map fun suit => Card.mk (Rank.ofValue rank) suit) ++
  [Card.mk .smallJoker 0, Card.mk .bigJoker 0]

theorem createCards_length : createCards.length = 54 := by decide

theorem createCards_nodup : createCards.Nodup := by decide +kernel

/-- The hands of the three seats. -/
abbrev Hands : Type := Fin 3 → List Card

/-- All cards held at the table. -/
def Hands.cards (hands : Hands) : List Card := hands 0 ++ hands 1 ++ hands 2

def Hands.push (hands : Hands) (seat : Fin 3) (card : Card) : Hands :=
  fun other => if other = seat then hands other ++ [card] else hands other

structure DealResult where
  hands : Hands := fun _ => []
  bottomCards : List Card := []
deriving DecidableEq

/-- A random generator with states `ρ`, as `std::shuffle` uses it. -/
structure Shuffler (ρ : Type) where
  shuffle : ρ → List Card → List Card × ρ
  perm : ∀ random cards, (shuffle random cards).1.Perm cards

/-- The generator that leaves every deck as it is. -/
def Shuffler.identity : Shuffler Unit where
  shuffle random cards := (cards, random)
  perm _ _ := .refl _

def seatAt (index : Nat) : Fin 3 := ⟨index % 3, Nat.mod_lt index (by decide)⟩

/-- Card number `index` of the shuffled deck goes to seat `index % 3`. -/
def dealCard (hands : Hands) (entry : Card × Nat) : Hands :=
  hands.push (seatAt entry.2) entry.1

def Deck.deal {ρ : Type} (shuffler : Shuffler ρ) (random : ρ) : DealResult × ρ :=
  let (cards, random) := shuffler.shuffle random createCards
  ({ hands := (cards.take 51).zipIdx.foldl dealCard fun _ => []
     bottomCards := (cards.drop 51).take 3 }, random)

/-! ## What a deal hands out -/

theorem Hands.cards_push (hands : Hands) (seat : Fin 3) (card : Card) :
    (hands.push seat card).cards.Perm (hands.cards ++ [card]) := by
  rw [List.perm_iff_count]
  intro other
  fin_cases seat <;> simp [Hands.cards, Hands.push, List.count_append, List.count_cons]
  omega

theorem cards_dealAll (entries : List (Card × Nat)) (hands : Hands) :
    (Hands.cards (entries.foldl dealCard hands)).Perm (hands.cards ++ entries.map Prod.fst) := by
  induction entries generalizing hands with
  | nil => simp
  | cons entry entries inductionHypothesis =>
    calc (Hands.cards (entries.foldl dealCard (dealCard hands entry))).Perm
          ((dealCard hands entry).cards ++ entries.map Prod.fst) := inductionHypothesis _
      _ |>.Perm ((hands.cards ++ [entry.1]) ++ entries.map Prod.fst) :=
          (hands.cards_push _ _).append_right _
      _ |>.Perm (hands.cards ++ (entry :: entries).map Prod.fst) := by simp

theorem length_dealAll (entries : List (Card × Nat)) (hands : Hands) (seat : Fin 3) :
    (entries.foldl dealCard hands seat).length =
      (hands seat).length + (entries.map Prod.snd).countP (seatAt · = seat) := by
  induction entries generalizing hands with
  | nil => simp
  | cons entry entries inductionHypothesis =>
    rw [List.foldl_cons, inductionHypothesis, List.map_cons, List.countP_cons]
    by_cases same : seat = seatAt entry.2
    · subst same
      simp [dealCard, Hands.push]
      omega
    · have other : ¬ seatAt entry.2 = seat := fun equal => same equal.symm
      simp [dealCard, Hands.push, same, other]

variable {ρ : Type} (shuffler : Shuffler ρ) (random : ρ)

theorem shuffle_length : (shuffler.shuffle random createCards).1.length = 54 := by
  rw [(shuffler.perm random createCards).length_eq, createCards_length]

theorem deal_bottomCards_length : (Deck.deal shuffler random).1.bottomCards.length = 3 := by
  simp [Deck.deal, shuffle_length]

theorem deal_hand_length (seat : Fin 3) : ((Deck.deal shuffler random).1.hands seat).length = 17 := by
  have size := shuffle_length shuffler random
  simp only [Deck.deal, length_dealAll, List.zipIdx_map_snd, List.length_take, size]
  fin_cases seat <;> rfl

/-- The deal partitions the deck: the three hands and the bottom cards are the 54 cards. -/
theorem deal_perm :
    ((Deck.deal shuffler random).1.hands.cards ++ (Deck.deal shuffler random).1.bottomCards).Perm
      createCards := by
  have size := shuffle_length shuffler random
  have dealt := cards_dealAll ((shuffler.shuffle random createCards).1.take 51).zipIdx fun _ => []
  have bottom : ((shuffler.shuffle random createCards).1.drop 51).take 3 =
      (shuffler.shuffle random createCards).1.drop 51 :=
    List.take_of_length_le (by simp [size])
  simp only [Hands.cards, List.append_nil, List.nil_append, List.zipIdx_map_fst] at dealt
  simp only [Deck.deal, bottom]
  refine (dealt.append_right _).trans ?_
  rw [List.take_append_drop]
  exact shuffler.perm random createCards

end Doudizhu.Game
