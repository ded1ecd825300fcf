import Doudizhu.Game.RoundInvariant

/-! # Legal plays

`play_cards` accepts what the rules allow, no matter how the cards are listed: the
find-and-erase loop over a shrinking copy of the hand decides whether the cards are
among the hand, each as often as it is played.
-/

namespace Doudizhu.Game

variable {ρ : Type} {shuffler : Shuffler ρ}

/-- The cards of a seat; none for a seat that is not at the table. -/
def GameRound.held (round : GameRound) (seat : Nat) : List Card :=
  if inside : seat < 3 then round.deal.hands ⟨seat, inside⟩ else []

/-- The rules of a play. -/
structure LegalPlay (round : GameRound) (seat : Nat) (cards : List Card) : Prop where
  playing : round.phase = .playCards
  turn : seat = round.currentSeat
  nonempty : cards ≠ []
  valid : (CardRules.analyze cards).pattern ≠ .invalid
  beats : ∀ last ∈ round.lastPlay, CardRules.canBeat (CardRules.analyze cards) last
  owned : ∀ card, cards.count card ≤ (round.held seat).count card

/-- What a play does. -/
structure Played (before : GameRound) (seat : Fin 3) (cards : List Card) (after : GameRound) : Prop where
  hand : (after.deal.hands seat : Multiset Card) = (before.deal.hands seat : Multiset Card) - cards
  order : (after.deal.hands seat).Sublist (before.deal.hands seat)
  others : ∀ other ≠ seat, after.deal.hands other = before.deal.hands other
  bottom : after.deal.bottomCards = before.deal.bottomCards
  shown : after.lastPlayCards = cards
  settled : after.phase = .settled ∧ after.winnerSeat = some seat.val ↔ after.deal.hands seat = []
  turn : after.deal.hands seat ≠ [] → after.phase = .playCards ∧ after.currentSeat = (seat + 1) % 3

/-! ## The loop -/

theorem removeCards_sublist {hand cards remaining : List Card}
    (removed : GameRound.removeCards hand cards = some remaining) : remaining.Sublist hand := by
  induction cards generalizing hand with
  | nil =>
    cases removed
    exact .refl _
  | cons card cards inductionHypothesis =>
    simp only [GameRound.removeCards] at removed
    split at removed
    · exact (inductionHypothesis removed).trans List.erase_sublist
    · cases removed

/-- The loop runs through when no card is asked for more often than it is held. -/
theorem removeCards_owned {hand cards : List Card}
    (owned : ∀ card, cards.count card ≤ hand.count card) :
    ∃ remaining, GameRound.removeCards hand cards = some remaining := by
  induction cards generalizing hand with
  | nil => exact ⟨hand, rfl⟩
  | cons card cards inductionHypothesis =>
    have held : card ∈ hand := by
      have positive := owned card
      rw [List.count_cons_self] at positive
      exact List.count_pos_iff.mp (by omega)
    simp only [GameRound.removeCards, if_pos held]
    apply inductionHypothesis
    intro other
    have enough := owned other
    by_cases same : other = card
    · subst same
      rw [List.count_cons_self] at enough
      rw [List.count_erase_self]
      omega
    · rw [List.count_cons_of_ne (Ne.symm same)] at enough
      rwa [List.count_erase_of_ne same]

theorem removeCards_counts {hand cards remaining : List Card}
    (removed : GameRound.removeCards hand cards = some remaining) (card : Card) :
    cards.count card ≤ hand.count card := by
  rw [(removeCards_perm removed).count_eq, List.count_append]
  exact Nat.le_add_right ..

theorem removeCards_multiset {hand cards remaining : List Card}
    (removed : GameRound.removeCards hand cards = some remaining) :
    (remaining : Multiset Card) = (hand : Multiset Card) - cards := by
  have all : (hand : Multiset Card) = (cards : Multiset Card) + remaining := by
    rw [Multiset.coe_add, Multiset.coe_eq_coe]
    exact removeCards_perm removed
  rw [all, add_tsub_cancel_left]

/-! ## The plays -/

theorem playCards_legal {round : GameRound} {seat : Nat} {cards : List Card}
    (legal : LegalPlay round seat cards) (inside : seat < 3) :
    ∃ next, round.playCards seat cards = .ok (true, next) := by
  have guard : ¬ (round.phase ≠ .playCards ∨ seat ≠ round.currentSeat ∨ cards = []) := by
    simp [legal.playing, legal.nonempty, ← legal.turn]
  have beaten : ¬ (round.lastPlay.any fun last =>
      !CardRules.canBeat (CardRules.analyze cards) last) = true := by
    have beats := legal.beats
    cases lastPlay : round.lastPlay with
    | none => simp
    | some last => simp [beats last lastPlay]
  have owned := legal.owned
  simp only [GameRound.held, inside, dite_true] at owned
  obtain ⟨remaining, removed⟩ := removeCards_owned owned
  unfold GameRound.playCards
  rw [if_neg guard]
  dsimp only
  rw [if_neg legal.valid, if_neg beaten]
  simp only [GameRound.hand, GameRound.setHand, inside, dite_true, bind, Except.bind, removed]
  split <;> exact ⟨_, rfl⟩

theorem played {before after : RoundState ρ} {now : Time} {seat : Nat} {cards : List Card}
    (move : Move shuffler now before (.playCards seat cards) after) :
    LegalPlay before.round seat cards ∧
      ∃ own : Fin 3, own.val = seat ∧ Played before.round own cards after.round := by
  cases move with
  | @play round random seat cards remaining phase own nonempty valid beats removed left =>
    refine ⟨⟨phase, own.symm, nonempty, valid, beats, ?_⟩, seat, rfl, ?_⟩
    · intro card
      simpa [GameRound.held] using removeCards_counts removed card
    · constructor
      case hand => simpa using removeCards_multiset removed
      case order => simpa using removeCards_sublist removed
      case others => exact fun other differ => Function.update_of_ne differ ..
      case bottom => rfl
      case shown => rfl
      case settled => simp [phase, left]
      case turn => exact fun _ => ⟨phase, rfl⟩
  | @finish round random seat cards phase own nonempty valid beats removed =>
    refine ⟨⟨phase, own.symm, nonempty, valid, beats, ?_⟩, seat, rfl, ?_⟩
    · intro card
      simpa [GameRound.held] using removeCards_counts removed card
    · constructor
      case hand => simpa using removeCards_multiset removed
      case order => simp
      case others => exact fun other differ => Function.update_of_ne differ ..
      case bottom => rfl
      case shown => rfl
      case settled => simp
      case turn => simp

/-- Wherever calls lead after `start`, `play_cards` answers; it accepts exactly the legal
    plays and does what a play does, and otherwise leaves the round as it is. -/
theorem plays_are_legal (shuffler : Shuffler ρ) (round : GameRound) (random : ρ)
    (calls : List (RoundOp × Time)) :
    ∃ trace finish, (RoundState.start shuffler round random).run shuffler calls = .ok (trace, finish) ∧
      ∀ seat cards, ∃ accepted next, finish.round.playCards seat cards = .ok (accepted, next) ∧
        (accepted = true ↔ LegalPlay finish.round seat cards) ∧
        (accepted = true → ∃ own : Fin 3, own.val = seat ∧ Played finish.round own cards next) ∧
        (accepted = false → next = finish.round) := by
  obtain ⟨trace, finish, ran, holds⟩ := run_start shuffler round random calls
  refine ⟨trace, finish, ran, ?_⟩
  intro seat cards
  obtain ⟨⟨accepted, next⟩, done⟩ := playCards_ok holds seat cards
  refine ⟨accepted, next, done, ?_⟩
  have cases_of_play : (accepted = true ∧
        Move shuffler 0 ⟨finish.round, random⟩ (.playCards seat cards) ⟨next, random⟩) ∨
      (accepted = false ∧ next = finish.round) := playCards_cases 0 done
  obtain ⟨rfl, move⟩ | ⟨rfl, same⟩ := cases_of_play
  · obtain ⟨legal, play⟩ := played move
    simp [legal, play]
  · refine ⟨?_, by simp, fun _ => same⟩
    constructor
    · simp
    · intro legal
      have inside : seat < 3 := legal.turn ▸ (holds.playing legal.playing).turn
      obtain ⟨other, accepted⟩ := playCards_legal legal inside
      rw [accepted] at done
      cases done

end Doudizhu.Game
