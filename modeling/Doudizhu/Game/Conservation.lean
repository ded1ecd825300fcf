import Doudizhu.Game.RoundInvariant

/-! # No card is lost

The cards in the three hands, the bottom cards while the landlord is being called, and
the cards played since the latest deal are the 54 cards, each once.
-/

namespace Doudizhu.Game

variable {ρ : Type} {shuffler : Shuffler ρ} {now : Time}

/-- The bottom cards lie on the table until the landlord takes them. -/
def GameRound.table (round : GameRound) : List Card :=
  if round.phase = .callLandlord then round.deal.bottomCards else []

/-- Where the 54 cards are. -/
def GameRound.allCards (round : GameRound) (log : DealLog) : List Card :=
  round.deal.hands.cards ++ round.table ++ log.played

theorem cards_update (hands : Hands) (seat : Fin 3) (cards : List Card) (card : Card) :
    (Hands.cards (Function.update hands seat cards)).count card + (hands seat).count card =
      hands.cards.count card + cards.count card := by
  fin_cases seat <;> simp [Hands.cards, List.count_append, Function.update] <;> omega

/-- The landlord's move: the bottom cards go from the table to a hand. -/
theorem cards_take (hands : Hands) (seat : Fin 3) (bottom : List Card) :
    (Hands.cards (Function.update hands seat (hands seat ++ bottom))).Perm
      (hands.cards ++ bottom) := by
  rw [List.perm_iff_count]
  intro card
  have moved := cards_update hands seat (hands seat ++ bottom) card
  rw [List.count_append] at moved ⊢
  omega

/-- A play: the cards go from a hand to the table. -/
theorem cards_give {hands : Hands} {seat : Fin 3} {cards remaining : List Card}
    (removed : GameRound.removeCards (hands seat) cards = some remaining) :
    (Hands.cards (Function.update hands seat remaining) ++ cards).Perm hands.cards := by
  rw [List.perm_iff_count]
  intro card
  have moved := cards_update hands seat remaining card
  have split := (removeCards_perm removed).count_eq card
  rw [List.count_append] at split ⊢
  omega

theorem allCards_start (round : GameRound) (random : ρ) :
    ((round.start shuffler random).1.allCards {}).Perm createCards := by
  have dealt := deal_perm shuffler random
  simpa [GameRound.allCards, GameRound.table, GameRound.start] using dealt

/-- Passing and calling move no card. -/
theorem allCards_eq {before after : GameRound} {log later : DealLog} (deal : after.deal = before.deal)
    (phase : after.phase = before.phase) (played : later.played = log.played) :
    after.allCards later = before.allCards log := by
  simp only [GameRound.allCards, GameRound.table, deal, phase, played]

theorem allCards_play {before after : GameRound} {log later : DealLog} {seat : Fin 3}
    {cards remaining : List Card} (playing : before.phase = .playCards)
    (after_phase : after.phase ≠ .callLandlord)
    (removed : GameRound.removeCards (before.deal.hands seat) cards = some remaining)
    (hands : after.deal.hands = Function.update before.deal.hands seat remaining)
    (played : later.played = log.played ++ cards) :
    (after.allCards later).Perm (before.allCards log) := by
  have given := cards_give removed
  have beforeTable : before.table = [] := by simp [GameRound.table, playing]
  have afterTable : after.table = [] := by simp [GameRound.table, after_phase]
  simp only [GameRound.allCards, hands, played, beforeTable, afterTable, List.append_nil]
  calc Hands.cards (Function.update before.deal.hands seat remaining) ++ (log.played ++ cards)
      |>.Perm (Hands.cards (Function.update before.deal.hands seat remaining) ++
          (cards ++ log.played)) := List.perm_append_comm.append_left _
    _ |>.Perm (before.deal.hands.cards ++ log.played) := by
        rw [← List.append_assoc]
        exact given.append_right _

theorem allCards_move {log : DealLog} {before after : RoundState ρ} {move : RoundOp}
    (holds : RoundInv log before.round) (conserved : (before.round.allCards log).Perm createCards)
    (moved : Move shuffler now before move after) :
    (after.round.allCards (log.record move)).Perm createCards := by
  cases moved with
  | @call round random called phase early =>
    have calling : CallingInv log round := holds.calling phase
    rw [record_call (.inl (calling.calls_length ▸ early))]
    exact (allCards_eq rfl rfl rfl).symm ▸ conserved
  | @redeal round random phase third unwanted =>
    have calling : CallingInv log round := holds.calling phase
    rw [record_redeal (calling.calls_length ▸ third) (calling.callers_nil unwanted)]
    exact allCards_start round random
  | @landlord round random called landlord phase third wanted =>
    have calling : CallingInv log round := holds.calling phase
    have caller := wanted
    rw [calling.last] at caller
    rw [record_call (.inr (caller ▸ Option.some_ne_none _))]
    refine List.Perm.trans ?_ conserved
    simp only [GameRound.allCards, GameRound.table, phase, ite_true, reduceCtorEq, ite_false,
      List.append_nil]
    exact (cards_take round.deal.hands landlord round.deal.bottomCards).append_right _
  | play phase own nonempty valid beats removed left =>
    exact (allCards_play phase (by simp [phase]) removed rfl rfl).trans conserved
  | finish phase own nonempty valid beats removed =>
    exact (allCards_play phase (by simp) removed rfl rfl).trans conserved
  | pass => exact (allCards_eq rfl rfl rfl).symm ▸ conserved
  | endTrick => exact (allCards_eq rfl rfl rfl).symm ▸ conserved

/-- The hands when play begins: seventeen cards each, and the bottom cards on top of the
    landlord's. -/
theorem hands_on_entering {log : DealLog} {before after : RoundState ρ} {move : RoundOp}
    (holds : RoundInv log before.round) (calling : before.round.phase = .callLandlord)
    (playing : after.round.phase = .playCards) (moved : Move shuffler now before move after) :
    ∃ landlord : Fin 3, after.round.landlordSeat = some landlord.val ∧
      ∀ seat, (after.round.deal.hands seat).length = if seat = landlord then 20 else 17 := by
  have sound := holds.calling calling
  cases moved with
  | call => exact absurd (calling.symm.trans playing) (by decide)
  | redeal => cases playing
  | @landlord round random called landlord phase third wanted =>
    refine ⟨landlord, rfl, ?_⟩
    intro seat
    have size : (round.deal.hands seat).length = 17 := sound.dealt seat
    have three : round.deal.bottomCards.length = 3 := sound.bottom
    by_cases same : seat = landlord
    · subst same
      simp only [Function.update_self, ite_true, List.length_append]
      omega
    · simpa only [Function.update_of_ne same, if_neg same] using size
  | play phase | finish phase | pass phase | endTrick phase =>
    exact absurd (calling.symm.trans phase) (by decide)

/-- Wherever calls lead after `start`, the 54 cards are all there, each once. -/
theorem cards_conserved (shuffler : Shuffler ρ) (round : GameRound) (random : ρ)
    (calls : List (RoundOp × Time)) :
    ∃ trace finish, (RoundState.start shuffler round random).run shuffler calls = .ok (trace, finish) ∧
      (finish.round.allCards (DealLog.ofTrace trace)).Perm createCards ∧
      (finish.round.allCards (DealLog.ofTrace trace)).Nodup ∧
      ∀ op now accepted next, RoundOp.exec shuffler op now finish = .ok (accepted, next) →
        finish.round.phase = .callLandlord → next.round.phase = .playCards →
        ∃ landlord : Fin 3, next.round.landlordSeat = some landlord.val ∧
          ∀ seat, (next.round.deal.hands seat).length = if seat = landlord then 20 else 17 := by
  obtain ⟨trace, finish, ran, holds⟩ := run_start shuffler round random calls
  have conserved : (finish.round.allCards (DealLog.ofTrace trace)).Perm createCards :=
    run_invariant (fun log round => (round.allCards log).Perm createCards) ran
      (allCards_start round random)
      fun _ _ _ _ _ holds conserved moved => allCards_move holds conserved moved
  refine ⟨trace, finish, ran, conserved, conserved.nodup_iff.mpr createCards_nodup, ?_⟩
  intro op now accepted next done calling playing
  obtain ⟨_, moved⟩ | ⟨_, rfl⟩ := exec_cases done
  · exact hands_on_entering holds calling playing moved
  · exact absurd (calling.symm.trans playing) (by decide)

/-! ## Cards of the deck -/

/-- No card was made up. -/
structure GameRound.Genuine (round : GameRound) : Prop where
  hands : ∀ seat, ∀ card ∈ round.deal.hands seat, card ∈ createCards
  bottom : ∀ card ∈ round.deal.bottomCards, card ∈ createCards
  last : ∀ card ∈ round.lastPlayCards, card ∈ createCards

theorem mem_hands {hands : Hands} {seat : Fin 3} {card : Card} (member : card ∈ hands seat) :
    card ∈ hands.cards := by
  simp only [Hands.cards, List.mem_append]
  fin_cases seat
  · exact .inl (.inl member)
  · exact .inl (.inr member)
  · exact .inr member

theorem genuine_start (round : GameRound) (random : ρ) :
    (round.start shuffler random).1.Genuine where
  hands seat card member :=
    (deal_perm shuffler random).subset (List.mem_append_left _ (mem_hands member))
  bottom card member := (deal_perm shuffler random).subset (List.mem_append_right _ member)
  last card member := by cases member

/-- The cards of a play were in the hand, and so were those that are left. -/
theorem GameRound.Genuine.removed {round : GameRound} (genuine : round.Genuine) {seat : Fin 3}
    {cards remaining : List Card}
    (removed : GameRound.removeCards (round.deal.hands seat) cards = some remaining) :
    (∀ card ∈ cards, card ∈ createCards) ∧
      ∀ other, ∀ card ∈ Function.update round.deal.hands seat remaining other, card ∈ createCards := by
  have split := removeCards_perm removed
  constructor
  · intro card member
    exact genuine.hands seat card (split.mem_iff.mpr (List.mem_append_left _ member))
  · intro other card member
    simp only [Function.update_apply] at member
    split at member
    · exact genuine.hands seat card (split.mem_iff.mpr (List.mem_append_right _ member))
    · exact genuine.hands other card member

theorem genuine_move {before after : RoundState ρ} {move : RoundOp} (genuine : before.round.Genuine)
    (moved : Move shuffler now before move after) : after.round.Genuine := by
  cases moved with
  | call | pass => exact ⟨genuine.hands, genuine.bottom, genuine.last⟩
  | @redeal round random => exact genuine_start round random
  | @landlord round random called landlord =>
    refine ⟨?_, genuine.bottom, genuine.last⟩
    intro seat card member
    simp only [Function.update_apply] at member
    split at member
    · obtain own | taken := List.mem_append.mp member
      · exact genuine.hands landlord card own
      · exact genuine.bottom card taken
    · exact genuine.hands seat card member
  | play _ _ _ _ _ removed | finish _ _ _ _ _ removed =>
    obtain ⟨played, left⟩ := genuine.removed removed
    exact ⟨left, genuine.bottom, played⟩
  | endTrick =>
    refine ⟨genuine.hands, genuine.bottom, ?_⟩
    intro card member
    cases member

/-! ## Sizes of hands -/

/-- No hand is larger than that of a landlord who has taken the bottom cards. -/
structure GameRound.HandsBounded (round : GameRound) : Prop where
  bottom : round.deal.bottomCards.length ≤ 3
  calling : round.phase = .callLandlord → ∀ seat, (round.deal.hands seat).length ≤ 17
  hands : ∀ seat, (round.deal.hands seat).length ≤ 20

theorem handsBounded_start (round : GameRound) (random : ρ) :
    (round.start shuffler random).1.HandsBounded where
  bottom := (deal_bottomCards_length shuffler random).le
  calling _ seat := (deal_hand_length shuffler random seat).le
  hands seat := (deal_hand_length shuffler random seat).trans_le (by simp)

/-- The cards that a play leaves are no more than the hand. -/
theorem GameRound.HandsBounded.removed {round : GameRound} (bounded : round.HandsBounded) {seat : Fin 3}
    {cards remaining : List Card}
    (removed : GameRound.removeCards (round.deal.hands seat) cards = some remaining) (other : Fin 3) :
    (Function.update round.deal.hands seat remaining other).length ≤ 20 := by
  have split := (removeCards_perm removed).length_eq
  rw [List.length_append] at split
  have before := bounded.hands seat
  rw [Function.update_apply]
  split
  · omega
  · exact bounded.hands other

theorem handsBounded_move {before after : RoundState ρ} {move : RoundOp}
    (bounded : before.round.HandsBounded) (moved : Move shuffler now before move after) :
    after.round.HandsBounded := by
  cases moved with
  | call | pass => exact ⟨bounded.bottom, bounded.calling, bounded.hands⟩
  | @redeal round random => exact handsBounded_start round random
  | @landlord round random called landlord phase =>
    refine ⟨bounded.bottom, by simp, ?_⟩
    intro seat
    -- the bottom cards go to a hand as it was dealt
    have dealt : (round.deal.hands landlord).length ≤ 17 := bounded.calling phase landlord
    have bottom : round.deal.bottomCards.length ≤ 3 := bounded.bottom
    simp only [Function.update_apply]
    split
    · rw [List.length_append]
      omega
    · exact bounded.hands seat
  | play playing _ _ _ _ removed =>
    refine ⟨bounded.bottom, fun calling => ?_, bounded.removed removed⟩
    exact absurd (playing.symm.trans calling) (by decide)
  | finish _ _ _ _ _ removed => exact ⟨bounded.bottom, by simp, bounded.removed removed⟩
  | endTrick => exact ⟨bounded.bottom, bounded.calling, bounded.hands⟩

end Doudizhu.Game
